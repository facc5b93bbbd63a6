import Deltapreneur.Lib.PyValue
import Deltapreneur.Technology.SoftwareSale

/-!
# What a software order costs

Model of the endpoint `create_software_purchase_order`
(`app/controller/cocreation/cocreation_controller.py:241-259`), of `create_purchase_order`
(`app/service/cocreation/cocreation_payment_service.py:88-267`) with all its amounts, and of
`parse_addon_services` (`app/utils/addon_services.py:31-45`).

* The body is any JSON object; `Body` has the keys the endpoint reads. A conversion that Python
  refuses (`TypeError`, `ValueError`) makes the endpoint fail: `Failure.python`.
* Amounts are exact: a `float` is a rational number, without infinities and `nan`.
* `charge` is the amount in INR, before `convert_inr`; the conversion, the resolved phone number and
  Razorpay's answer are up to the environment.

Results:

* `price_fixed_iff`: exactly when the buyer's own amount neither makes the order cheaper than the
  price nor changes what it costs.
* `buyer_sets_price`: a negative `addonAmount` makes it cheaper.
-/

namespace Deltapreneur.SoftwarePrice

open PyValue (Lang)
open Cart (Duration)
open Technology (Settings SoftwareListing)

abbrev Text := List Char

/-! ## Rows and requests -/

inductive TechnologyType
  | software | hardware
  deriving Repr, DecidableEq

/-- `TechnologyPricingPlan`. -/
structure PricingPlan where
  planDuration : Duration
  price : ℚ
  isActive : Bool
  deriving Repr, DecidableEq

structure Software extends SoftwareListing where
  technologyType : TechnologyType
  price : ℚ
  sellerPrice : Option ℚ
  pricingPlans : List PricingPlan
  deriving Repr, DecidableEq

/-- The keys of the request body that set amounts. -/
structure Body where
  coBrotherOptIn : Option PyValue
  addonAmount : Option PyValue
  services : Option PyValue
  selectedPlan : Option PyValue
  currency : Option PyValue

/-- Why no order was opened. -/
inductive Failure
  | app (e : AppException)
  | python
  deriving Repr, DecidableEq

/-! ## Add-ons -/

/-- `ADDON_PRICES`. -/
def ADDON_PRICES : List (Text × ℚ) :=
  [("GST_REGISTRATION".toList, 3000), ("UDYAM_REGISTRATION".toList, 1500),
    ("IEC_REGISTRATION".toList, 2000), ("DIGITAL_SIGNATURE".toList, 3000),
    ("PROFESSIONAL_TAX".toList, 2500), ("STARTUP_INDIA".toList, 3000),
    ("VA_ENTRY_ECOMMERCE".toList, 499), ("VA_MID_ECOMMERCE".toList, 999),
    ("VA_EXPERT_ECOMMERCE".toList, 1999)]

/-- `ADDON_PRICES.get(key, 0)`. -/
def addonPrice (key : Text) : ℚ := (ADDON_PRICES.lookup key).getD 0

variable (L : Lang)

/-- One entry of the list: its amount and its key, if it has one. -/
def parseEntry : PyValue → Option (ℚ × List Text)
  | .str s =>
    let key := L.strip s
    if key = [] then some (0, []) else some (addonPrice key, [key])
  | .dict entry =>
    let named := (PyValue.get entry "key".toList).orElse (PyValue.get entry "service".toList)
    let key := L.strip (L.str (named.orElse (.str [])))
    let price := match entry.lookup "price".toList with
      | none => some (addonPrice key)
      | some v => L.toFloat v
    price.map fun price => (price, if key = [] then [] else [key])
  | _ => some (0, [])

/-- What a loop over `services or []` sees. -/
def entries (services : PyValue) : Option (List PyValue) :=
  if services.truthy = false then some []
  else match services with
    | .list items => some items
    | .str s => some (s.map fun c => .str [c])
    | .dict members => some (members.map fun m => .str m.1)
    | _ => none

/-- `parse_addon_services`: the amount, and the keys joined with commas. -/
def parseAddonServices (services : PyValue) : Option (ℚ × Text) := do
  let parsed ← (← entries services).mapM (parseEntry L)
  some ((parsed.map Prod.fst).sum, [','].intercalate (parsed.flatMap Prod.snd))

/-! ## Plans -/

/-- `TechnologyPricingPlanDuration(key_mapping.get(name, name))`. -/
def durationOf (name : Text) : Option Duration :=
  if name ∈ ["1_MONTH".toList, "ONE_MONTH".toList] then some .oneMonth
  else if name ∈ ["3_MONTHS".toList, "THREE_MONTHS".toList] then some .threeMonths
  else if name ∈ ["6_MONTHS".toList, "SIX_MONTHS".toList] then some .sixMonths
  else if name ∈ ["12_MONTHS".toList, "TWELVE_MONTHS".toList] then some .twelveMonths
  else if name = "ONE_TIME".toList then some .oneTime
  else none

/-- The plan that a value names; no list or dictionary can be looked up. -/
def planEnum (selected : PyValue) : Option (Option Duration) :=
  if selected.truthy = false then some none
  else match selected with
    | .str name => some (durationOf name)
    | .list _ | .dict _ => none
    | _ => some none

/-- The price of the selected active plan, or of the listing when no plan applies. -/
def Software.basePrice (software : Software) (plan : Option Duration) : ℚ :=
  match software.pricingPlans.find? fun p => some p.planDuration = plan ∧ p.isActive with
  | some p => p.price
  | none => software.price

/-- `platform_fee` and `seller_payout` of a sale at `base`. -/
def Software.shares (software : Software) (plan : Option Duration) (base : ℚ) : ℚ × ℚ :=
  if software.technologyType = .software ∧ plan ≠ none ∧ plan ≠ some .oneTime then (base, 0)
  else
    let sellerPayout := software.sellerPrice.getD 0
    (Decimal.round2 (base - sellerPayout), sellerPayout)

/-! ## The order -/

/-- The keyword arguments of `create_purchase_order` that the endpoint fills in. -/
structure Request where
  coBrotherOptIn : Bool
  addonAmount : ℚ
  services : PyValue
  selectedPlan : PyValue
  currency : Text

/-- `create_software_purchase_order`, up to its call of the service. -/
def Body.request (body : Body) : Option Request := do
  let amount ← L.toFloat ((body.addonAmount.getD (.int 0)).orElse (.int 0))
  some {
    coBrotherOptIn := (body.coBrotherOptIn.getD .none).truthy
    addonAmount := amount
    services := body.services.getD .none
    selectedPlan := body.selectedPlan.getD .none
    currency := L.str (body.currency.getD (.str "INR".toList)) }

def COBROTHER_FEE_INR : ℚ := 1000

/-- The world around one call. -/
structure Env where
  settings : Settings
  buyer : UserId
  hasCompletedPurchase : Bool
  /-- `resolve_buyer_phone`. -/
  phone : Option Text
  testMode : Bool
  /-- `convert_inr`; `none` where it raises. -/
  convertInr : ℚ → Text → Option ℚ
  /-- The order id, or whether the text of the error mentions the currency. -/
  razorpay : Except Bool OrderId

/-- `SoftwarePurchase` as `create_purchase_order` inserts it, and the amounts it answers with. -/
structure NewOrder where
  orderId : OrderId
  amount : ℚ
  charge : ℚ
  basePrice : ℚ
  coBrotherFee : ℚ
  addonAmount : ℚ
  currency : Text
  purchaseAddonServices : List Text
  coBrotherOptIn : Bool
  selectedPlan : Option Duration
  grossAmountInr : ℚ
  platformFeeInr : ℚ
  sellerPayoutInr : ℚ
  deriving DecidableEq

/-- `_TEST_MODE_MAX_ORDER_INR`. -/
def TEST_MODE_MAX_ORDER_INR : ℚ := 100000

/-- `rzp.create_order`; an error says whether its text mentions the currency. -/
def rzpCreateOrder (env : Env) (amount : ℚ) (currency : Text) : Except Bool OrderId :=
  if amount ≤ 0 then .error false
  else if env.testMode ∧ currency = "INR".toList ∧ TEST_MODE_MAX_ORDER_INR < amount then
    .error false
  else env.razorpay

/-- The add-on amount that is charged: what was parsed replaces an amount that is not positive. -/
def effectiveAddon (addonAmount parsed : ℚ) : ℚ :=
  if 0 < parsed ∧ addonAmount ≤ 0 then parsed else addonAmount

def coBrotherFee (optIn : Bool) : ℚ := if optIn then COBROTHER_FEE_INR else 0

def serviceKeys (keys : Text) (optIn : Bool) : List Text :=
  let keys := ((keys.splitOn ',').map L.strip).filter (· ≠ [])
  if optIn ∧ "COBROTHER_HELPER".toList ∉ keys then "COBROTHER_HELPER".toList :: keys else keys

/-- `create_purchase_order`. -/
def createPurchaseOrder (env : Env) (software : Software) (req : Request) :
    Except Failure NewOrder :=
  match Technology.createPurchaseOrder env.settings software.toSoftwareListing env.buyer
      env.hasCompletedPurchase with
  | .error e => .error (.app e)
  | .ok () =>
    match parseAddonServices L req.services with
    | none => .error .python
    | some (parsed, keys) =>
      if env.phone = none then .error (.app ⟨"A valid 10-digit phone number is required.", 400⟩)
      else
        match planEnum req.selectedPlan with
        | none => .error .python
        | some plan =>
          let base := software.basePrice plan
          let shares := software.shares plan base
          let addon := effectiveAddon req.addonAmount parsed
          let fee := coBrotherFee req.coBrotherOptIn
          let total := (base + fee + addon) * 1.18
          let currency := L.upper req.currency
          match if currency = "INR".toList then some total else env.convertInr total currency with
          | none => .error (.app ⟨"Currency " ++ String.ofList currency ++
              " is not supported for checkout.", 400⟩)
          | some amount =>
            match rzpCreateOrder env amount currency with
            | .error true => .error (.app ⟨"Currency " ++ String.ofList currency ++
                " is not supported by the payment gateway.", 400⟩)
            | .error false =>
              .error (.app ⟨"Could not create payment order. Please try again.", 502⟩)
            | .ok order => .ok {
                orderId := order
                amount := amount
                charge := total
                basePrice := base
                coBrotherFee := fee
                addonAmount := addon
                currency := currency
                purchaseAddonServices := serviceKeys L keys req.coBrotherOptIn
                coBrotherOptIn := req.coBrotherOptIn
                selectedPlan := plan
                grossAmountInr := base
                platformFeeInr := shares.1
                sellerPayoutInr := shares.2 }

/-- The endpoint. -/
def createSoftwarePurchaseOrder (env : Env) (software : Software) (body : Body) :
    Except Failure NewOrder :=
  match body.request L with
  | none => .error .python
  | some req => createPurchaseOrder L env software req

/-! ## What an order costs -/

section Charge

variable {L} {env : Env} {software : Software} {req : Request} {order : NewOrder}

/-- An order that is opened costs 1.18 times the price, the fee and the add-ons; the purchase keeps
the price alone. -/
theorem createPurchaseOrder_charge (h : createPurchaseOrder L env software req = .ok order) :
    ∃ parsed keys plan, parseAddonServices L req.services = some (parsed, keys) ∧
      planEnum req.selectedPlan = some plan ∧
      order.charge = (software.basePrice plan + coBrotherFee req.coBrotherOptIn +
        effectiveAddon req.addonAmount parsed) * 1.18 ∧
      order.grossAmountInr = software.basePrice plan ∧
      (order.platformFeeInr, order.sellerPayoutInr) =
        software.shares plan (software.basePrice plan) := by
  unfold createPurchaseOrder at h
  split at h
  · cases h
  · split at h
    · cases h
    · next parsed keys hparsed =>
      split_ifs at h
      split at h
      · cases h
      · next plan hplan =>
        refine ⟨parsed, keys, plan, hparsed, hplan, ?_⟩
        dsimp only at h
        split at h
        · cases h
        · split at h
          · cases h
          · cases h
          · cases h
            exact ⟨rfl, rfl, rfl⟩

/-- The number that the endpoint reads from `addonAmount`. -/
def Body.amount (L : Lang) (body : Body) : Option ℚ :=
  L.toFloat ((body.addonAmount.getD (.int 0)).orElse (.int 0))

/-- What the listed services come to. -/
def Body.parsed (L : Lang) (body : Body) : Option ℚ :=
  (parseAddonServices L (body.services.getD .none)).map Prod.fst

def Body.plan (body : Body) : Option (Option Duration) := planEnum (body.selectedPlan.getD .none)

/-- The amount takes no more off than the fee adds, or the services replace it. -/
def Covered (optIn : Bool) (amount parsed : ℚ) : Prop :=
  (0 < parsed ∧ amount ≤ 0) ∨ 0 ≤ coBrotherFee optIn + amount

/-- The amounts are the same, or each is what the services come to or replaced by it. -/
def SameAddon (amount amount' parsed : ℚ) : Prop :=
  amount = amount' ∨
    0 < parsed ∧ (amount ≤ 0 ∨ amount = parsed) ∧ (amount' ≤ 0 ∨ amount' = parsed)

theorem covered_iff {optIn : Bool} {amount parsed : ℚ} :
    0 ≤ coBrotherFee optIn + effectiveAddon amount parsed ↔ Covered optIn amount parsed := by
  have hfee : 0 ≤ coBrotherFee optIn := by
    cases optIn <;> norm_num [coBrotherFee, COBROTHER_FEE_INR]
  unfold Covered effectiveAddon
  split_ifs with h
  · exact iff_of_true (add_nonneg hfee h.1.le) (.inl h)
  · exact ⟨.inr, fun hor => hor.resolve_left h⟩

theorem sameAddon_iff {amount amount' parsed : ℚ} :
    effectiveAddon amount' parsed = effectiveAddon amount parsed ↔
      SameAddon amount amount' parsed := by
  unfold SameAddon effectiveAddon
  by_cases hpos : 0 < parsed
  · simp only [hpos, true_and]
    rcases le_or_gt amount 0 with ha | ha <;> rcases le_or_gt amount' 0 with ha' | ha'
    · simp [ha, ha']
    · have hne : amount ≠ amount' := fun heq => absurd (heq ▸ ha) (not_le.mpr ha')
      simp [ha, not_le.mpr ha', hne]
    · have hne : amount ≠ amount' := fun heq => absurd (heq ▸ ha') (not_le.mpr ha)
      simp [ha', not_le.mpr ha, hne, eq_comm]
    · simp only [not_le.mpr ha, not_le.mpr ha', if_false, false_or]
      constructor
      · exact fun heq => .inl heq.symm
      · rintro (rfl | ⟨rfl, rfl⟩) <;> rfl
  · simp only [hpos, false_and, if_false, or_false]
    exact eq_comm

variable {body : Body} {other : Option PyValue}

theorem createSoftwarePurchaseOrder_charge
    (h : createSoftwarePurchaseOrder L env software body = .ok order) :
    ∃ amount parsed plan, body.amount L = some amount ∧ body.parsed L = some parsed ∧
      body.plan = some plan ∧ order.charge = (software.basePrice plan +
        coBrotherFee (body.coBrotherOptIn.getD .none).truthy +
        effectiveAddon amount parsed) * 1.18 := by
  unfold createSoftwarePurchaseOrder at h
  split at h
  · cases h
  · next req hreq =>
    obtain ⟨parsed, keys, plan, hparsed, hplan, hcharge, -⟩ := createPurchaseOrder_charge h
    unfold Body.request at hreq
    obtain ⟨amount, hamount, hreq⟩ := Option.bind_eq_some_iff.mp hreq
    cases hreq
    exact ⟨amount, parsed, plan, hamount, by simp [Body.parsed, hparsed], hplan, hcharge⟩

/-- **The buyer does not set the price.** Let two bodies that differ at most in `addonAmount` both
open an order. The first costs at least 1.18 times the price, and both cost the same, exactly when
the first amount is covered and the two amounts come to the same. -/
theorem price_fixed_iff {env' : Env} {order' : NewOrder}
    (h : createSoftwarePurchaseOrder L env software body = .ok order)
    (h' : createSoftwarePurchaseOrder L env' software { body with addonAmount := other } =
      .ok order') :
    ∃ amount amount' parsed plan, body.amount L = some amount ∧
      Body.amount L { body with addonAmount := other } = some amount' ∧
      body.parsed L = some parsed ∧ body.plan = some plan ∧
      ((software.basePrice plan * 1.18 ≤ order.charge ∧ order'.charge = order.charge) ↔
        Covered (body.coBrotherOptIn.getD .none).truthy amount parsed ∧
          SameAddon amount amount' parsed) := by
  obtain ⟨amount, parsed, plan, hamount, hparsed, hplan, hcharge⟩ :=
    createSoftwarePurchaseOrder_charge h
  obtain ⟨amount', parsed', plan', hamount', hparsed', hplan', hcharge'⟩ :=
    createSoftwarePurchaseOrder_charge h'
  obtain rfl : parsed = parsed' := Option.some.inj (hparsed.symm.trans hparsed')
  obtain rfl : plan = plan' := Option.some.inj (hplan.symm.trans hplan')
  refine ⟨amount, amount', parsed, plan, hamount, hamount', hparsed, hplan, ?_⟩
  rw [hcharge, hcharge', ← covered_iff, ← sameAddon_iff]
  refine and_congr ⟨fun hle => ?_, fun hle => ?_⟩ ⟨fun heq => ?_, fun heq => by rw [heq]⟩
  · linarith
  · linarith
  · linarith

end Charge

/-! ## A buyer who does -/

/-- ASCII texts; numbers as they are. -/
def plainLang : Lang where
  isSpace c := c = ' '
  upper := List.map Char.toUpper
  lower := List.map Char.toLower
  int _ := none
  float _ := none
  repr _ := []

def openShop : Env where
  settings := ⟨false, true⟩
  buyer := 1
  hasCompletedPurchase := false
  phone := some "9999999999".toList
  testMode := false
  convertInr _ _ := none
  razorpay := .ok 7

/-- A listing at 1000 rupees. -/
def listed : Software where
  listedByUserId := some 2
  rejected := false
  verified := true
  purchaseType := .oneTime
  softwareStatus := .available
  technologyType := .software
  price := 1000
  sellerPrice := some 900
  pricingPlans := []

/-- A body with an add-on amount only. -/
def bodyWith (amount : ℤ) : Body := ⟨none, some (.int amount), none, none, none⟩

def monthly : Software := { listed with pricingPlans := [⟨.oneMonth, 200, true⟩] }

/-- The plan with the co-brother's help and one service. -/
def monthlyBody : Body where
  coBrotherOptIn := some (.bool true)
  addonAmount := some (.int 0)
  services := some (.list [.str "GST_REGISTRATION".toList])
  selectedPlan := some (.str "1_MONTH".toList)
  currency := none

def monthlyOrder : NewOrder where
  orderId := 7
  amount := 4956
  charge := 4956
  basePrice := 200
  coBrotherFee := 1000
  addonAmount := 3000
  currency := "INR".toList
  purchaseAddonServices := ["COBROTHER_HELPER".toList, "GST_REGISTRATION".toList]
  coBrotherOptIn := true
  selectedPlan := some .oneMonth
  grossAmountInr := 200
  platformFeeInr := 200
  sellerPayoutInr := 0

/-- With the amount 0, and with the amount that the service costs. -/
theorem price_fixed_plain :
    ∃ amount amount' parsed plan, monthlyBody.amount plainLang = some amount ∧
      Body.amount plainLang { monthlyBody with addonAmount := some (.int 3000) } = some amount' ∧
      monthlyBody.parsed plainLang = some parsed ∧ monthlyBody.plan = some plan ∧
      ((monthly.basePrice plan * 1.18 ≤ monthlyOrder.charge ∧
          monthlyOrder.charge = monthlyOrder.charge) ↔
        Covered (monthlyBody.coBrotherOptIn.getD .none).truthy amount parsed ∧
          SameAddon amount amount' parsed) :=
  have hzero : createSoftwarePurchaseOrder plainLang openShop monthly monthlyBody =
      .ok monthlyOrder := by decide +kernel
  have hpriced : createSoftwarePurchaseOrder plainLang openShop monthly
      { monthlyBody with addonAmount := some (.int 3000) } = .ok monthlyOrder := by decide +kernel
  price_fixed_iff hzero hpriced

/-- `{"addonAmount": -990}` buys the listing for 11.80 rupees. -/
theorem buyer_sets_price :
    ¬ ∀ (L : Lang) (env : Env) (software : Software) (body : Body) (other : Option PyValue)
      (plan : Option Duration) (order order' : NewOrder), body.plan = some plan →
      createSoftwarePurchaseOrder L env software body = .ok order →
      createSoftwarePurchaseOrder L env software { body with addonAmount := other } =
        .ok order' →
      software.basePrice plan * 1.18 ≤ order.charge ∧ order'.charge = order.charge := by
  intro h
  have hcharge : (createSoftwarePurchaseOrder plainLang openShop listed (bodyWith (-990))).map
      NewOrder.charge = .ok (118 / 10) := by decide +kernel
  cases horder : createSoftwarePurchaseOrder plainLang openShop listed (bodyWith (-990)) with
  | error e => simp [horder, Except.map] at hcharge
  | ok order =>
    have hle := (h plainLang openShop listed (bodyWith (-990)) (bodyWith (-990)).addonAmount none
      order order rfl horder horder).1
    rw [horder] at hcharge
    obtain hcharge : order.charge = 118 / 10 := Except.ok.inj hcharge
    rw [hcharge] at hle
    exact absurd hle (by decide +kernel)

end Deltapreneur.SoftwarePrice
