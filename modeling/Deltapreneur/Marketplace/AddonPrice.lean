import Deltapreneur.Cart.Requote
import Deltapreneur.Technology.SoftwarePrice

/-!
# What a domain with add-ons costs

The amounts of a direct purchase: `_parse_addon_services` and the endpoint
(`app/controller/domain/domain_controller.py:56-80, 540-560`), `create_purchase_order`
(`app/service/domain/marketplace_payment_service.py:40-233`) and `domain_price_breakdown`
(`app/utils/domain_gst.py:15-47`). `DirectSale.lean` has what the purchase writes.

* The body is any JSON object. A conversion that Python refuses makes the endpoint fail
  (`Failure.python`).
* Amounts are exact: a `float` is a rational number. Infinities and `nan` open no order: the rounding
  or the conversion to paise raises.
* The controller's `_ADDON_PRICES` is `ADDON_PRICES`, but its keys are not stripped.
* The GST rate is a whole number of percent (18 by default).
* Exchange rates, Edge points, the resolved phone number and Razorpay's answer are up to the
  environment.

Results:

* `addons_priced_iff`: exactly when an order costs the domain and the catalogue prices.
* `addons_lower_price`: an add-on with a negative price of its own.
-/

namespace Deltapreneur.Marketplace.AddonPrice

open Decimal
open PyValue (Lang)
open RegistrationPrice (Gst domainPriceBreakdown)
open SoftwarePrice (ADDON_PRICES addonPrice entries)

abbrev Text := List Char

/-! ## Rows and requests -/

/-- The columns of `DomainListing` that a purchase reads. -/
structure Offer where
  listedByUserId : Option UserId
  domainStatus : DomainListingStatus
  purchasedByUserId : Option UserId
  askingPrice : ℚ
  /-- `CreateDomainListingRequest` asks for it. -/
  nonneg : 0 ≤ askingPrice

/-- The keys of the body that set amounts. -/
structure Body where
  services : Option PyValue
  currency : Option PyValue

/-- Why no order was opened. -/
inductive Failure
  | app (e : AppException)
  | python
  deriving Repr, DecidableEq

/-- GST settings with a whole rate. -/
structure Rates where
  enabled : Bool
  percent : ℕ
  inclusive : Bool
  deriving Repr, DecidableEq

def Rates.gst (r : Rates) : Gst := ⟨r.enabled, r.percent, r.inclusive⟩

/-- `domain_price_breakdown(price)["totalInr"]`. -/
def Rates.total (r : Rates) (price : ℚ) : ℚ := (domainPriceBreakdown r.gst price).totalInr

/-! ## Add-ons -/

variable (L : Lang)

/-- `str(entry.get("key") or entry.get("service") or "")`. -/
def memberKey (entry : List (Text × PyValue)) : Text :=
  L.str (((PyValue.get entry "key".toList).orElse (PyValue.get entry "service".toList)).orElse
    (.str []))

/-- One entry of the list: its amount and its key, if it has one. -/
def parseEntry : PyValue → Option (ℚ × List Text)
  | .str s => some (addonPrice s, [s])
  | .dict entry =>
    let key := memberKey L entry
    let price := match entry.lookup "price".toList with
      | none => some (addonPrice key)
      | some v => L.toFloat v
    price.map fun price => (price, if key = [] then [] else [key])
  | _ => some (0, [])

/-- `_parse_addon_services`: the amount, and the keys joined with commas. -/
def parseAddonServices (services : PyValue) : Option (ℚ × Text) := do
  let parsed ← (← entries services).mapM (parseEntry L)
  some ((parsed.map Prod.fst).sum, [','].intercalate (parsed.flatMap Prod.snd))

/-! ## The order -/

structure Request where
  addonAmount : ℚ
  selectedAddonServices : Text
  currency : Text

/-- `create_listing_purchase_order`, up to its call of the service. -/
def Body.request (body : Body) : Option Request := do
  let parsed ← parseAddonServices L ((body.services.getD .none).orElse (.list []))
  some ⟨parsed.1, parsed.2,
    L.str ((body.currency.getD .none).orElse (.str "INR".toList))⟩

/-- The world around one call. -/
structure Env where
  configured : Bool
  rates : Rates
  buyer : UserId
  /-- `resolve_buyer_phone`. -/
  phone : Option Text
  /-- `convert_inr`; `none` where it raises. -/
  convertInr : ℚ → Text → Option ℚ
  /-- `calculate_redemption` of the buyer. -/
  redeem : ℚ → ℚ × ℕ
  /-- `rzp.create_order`, for an amount above zero. -/
  razorpay : Except AppException OrderId

/-- What `create_purchase_order` answers with. -/
structure NewOrder where
  orderId : OrderId
  /-- `order_amount`: in INR, before Edge points. -/
  orderAmount : ℚ
  /-- What Razorpay is asked for. -/
  amount : ℚ
  currency : Text
  pointsRedeemed : ℕ
  deriving DecidableEq

/-- A purchase without a price, or an order. -/
inductive Answer
  | contactPending
  | opened (order : NewOrder)
  deriving DecidableEq

/-- The amount to charge and its currency, INR where the conversion fails. -/
def Env.charge (env : Env) (orderAmount : ℚ) (currency : Text) : ℚ × Text :=
  if currency ≠ [] ∧ L.upper currency ≠ "INR".toList then
    match env.convertInr orderAmount currency with
    | some converted => (converted, L.upper currency)
    | none => (orderAmount, "INR".toList)
  else (orderAmount, "INR".toList)

/-- `PREMIUM_MARKETPLACE_MIN_PRICE_INR`. -/
def PREMIUM_MIN_PRICE : ℚ := 500000

/-- The checks of the listing. Its price alone makes it premium here, whatever its sale type. -/
def Offer.check (offer : Offer) (buyer : UserId) : Except AppException Unit :=
  if offer.listedByUserId = some buyer then raise "You cannot buy your own domain." 400
  else if offer.domainStatus = .sold then raise "This domain has already been sold." 409
  else if offer.domainStatus = .underReview then
    raise "This domain is currently under review for premium acquisition." 409
  else if offer.domainStatus = .pending ∧ offer.purchasedByUserId ≠ some buyer then
    raise "Another buyer is completing payment for this domain." 409
  else if PREMIUM_MIN_PRICE < offer.askingPrice then
    raise ("Premium marketplace domains cannot be purchased online. " ++
      "Add to cart and submit an acquisition request.") 400
  else .ok ()

/-- `create_purchase_order`. -/
def createPurchaseOrder (env : Env) (listing : Option Offer) (req : Request) :
    Except Failure Answer :=
  if env.configured = false then .error (.app ⟨"Payment gateway is not configured.", 503⟩)
  else match listing with
    | none => .error (.app ⟨"Domain listing not found.", 404⟩)
    | some offer =>
      match offer.check env.buyer with
      | .error e => .error (.app e)
      | .ok () =>
        let orderAmount := env.rates.total (offer.askingPrice + req.addonAmount)
        let charge := env.charge L orderAmount req.currency
        let contactOnly := req.selectedAddonServices ≠ [] ∧ req.addonAmount ≤ 0 ∧
          offer.askingPrice ≤ 0
        if env.phone = none then
          .error (.app ⟨"A valid 10-digit phone number is required.", 400⟩)
        else if orderAmount ≤ 0 ∧ ¬ contactOnly then
          .error (.app ⟨"Invalid listing price for payment.", 400⟩)
        else if contactOnly then .ok .contactPending
        else
          let redeemed := if charge.2 = "INR".toList ∧ 0 < charge.1 then env.redeem charge.1
            else (charge.1, 0)
          if redeemed.1 ≤ 0 then .error (.app ⟨"Order amount must be greater than zero.", 400⟩)
          else match env.razorpay with
            | .error e => .error (.app e)
            | .ok order => .ok (.opened ⟨order, orderAmount, redeemed.1, charge.2, redeemed.2⟩)

/-- The endpoint. -/
def createListingPurchaseOrder (env : Env) (listing : Option Offer) (body : Body) :
    Except Failure Answer :=
  match body.request L with
  | none => .error .python
  | some req => createPurchaseOrder L env listing req

/-! ## What a list comes to -/

def entryKey : PyValue → Option Text
  | .str s => some s
  | .dict entry => some (memberKey L entry)
  | _ => none

/-- The catalogue price of an entry that is recognised. -/
def recognised (item : PyValue) : Option ℚ :=
  match entryKey L item with
  | some key => ADDON_PRICES.lookup key
  | none => none

/-- The catalogue prices of the recognised add-ons. -/
def catalogue (items : List PyValue) : List ℚ := items.filterMap (recognised L)

/-- By how much the price that an object states for itself is off the catalogue, 0 where it states
none and for an add-on that is not recognised its whole price. -/
def surcharge : PyValue → ℚ
  | .dict entry =>
    match entry.lookup "price".toList with
    | none => 0
    | some v => (L.toFloat v).getD 0 - addonPrice (memberKey L entry)
  | _ => 0

variable {L}

theorem sum_catalogue : ∀ items : List PyValue,
    (catalogue L items).sum = (items.map fun item => (recognised L item).getD 0).sum
  | [] => rfl
  | item :: items => by
    have ih := sum_catalogue items
    unfold catalogue at ih ⊢
    rw [List.filterMap_cons, List.map_cons, List.sum_cons]
    cases recognised L item with
    | none => simp [ih]
    | some c => simp [ih]

/-- One entry costs its catalogue price and what its own price is off. -/
theorem parseEntry_amount {item : PyValue} {parsed : ℚ × List Text}
    (h : parseEntry L item = some parsed) :
    parsed.1 = (recognised L item).getD 0 + surcharge L item := by
  cases item with
  | str s =>
    cases h
    simp [recognised, entryKey, surcharge, addonPrice]
  | dict entry =>
    simp only [parseEntry] at h
    simp only [surcharge, recognised, entryKey]
    cases hprice : entry.lookup "price".toList with
    | none =>
      rw [hprice] at h
      cases h
      simp [addonPrice]
    | some v =>
      rw [hprice] at h
      obtain ⟨price, hfloat, rfl⟩ := Option.map_eq_some_iff.mp h
      have hvalue : L.toFloat v = some price := hfloat
      simp [hvalue, addonPrice]
  | _ =>
    cases h
    simp [recognised, entryKey, surcharge]

theorem parseEntries_amount : ∀ {items : List PyValue} {parsed : List (ℚ × List Text)},
    items.mapM (parseEntry L) = some parsed →
    (parsed.map Prod.fst).sum = (catalogue L items).sum + (items.map (surcharge L)).sum
  | [], parsed, h => by
    cases h
    simp [catalogue]
  | item :: items, parsed, h => by
    rw [List.mapM_cons] at h
    obtain ⟨first, hfirst, h⟩ := Option.bind_eq_some_iff.mp h
    obtain ⟨rest, hrest, h⟩ := Option.bind_eq_some_iff.mp h
    cases h
    have ih := parseEntries_amount hrest
    rw [sum_catalogue] at ih ⊢
    simp only [List.map_cons, List.sum_cons, ih, parseEntry_amount hfirst]
    ring

/-- **What a list comes to**: the catalogue prices and what its own prices are off. -/
theorem parse_eq {services : PyValue} {amount : ℚ} {keys : Text}
    (h : parseAddonServices L services = some (amount, keys)) :
    ∃ items, entries services = some items ∧
      amount = (catalogue L items).sum + (items.map (surcharge L)).sum := by
  unfold parseAddonServices at h
  obtain ⟨items, hitems, h⟩ := Option.bind_eq_some_iff.mp h
  obtain ⟨parsed, hparsed, h⟩ := Option.bind_eq_some_iff.mp h
  refine ⟨items, hitems, ?_⟩
  rw [← parseEntries_amount hparsed]
  exact (congrArg Prod.fst (Option.some.inj h)).symm

/-! ## Totals -/

theorem mem_catalogue {items : List PyValue} {c : ℚ} (h : c ∈ catalogue L items) :
    ∃ n : ℕ, c = n := by
  have hwhole : ∀ entry ∈ ADDON_PRICES, entry.2 = (⌊entry.2⌋₊ : ℕ) := by decide +kernel
  obtain ⟨item, -, hitem⟩ := List.mem_filterMap.mp h
  unfold recognised at hitem
  cases hkey : entryKey L item with
  | none =>
    rw [hkey] at hitem
    cases hitem
  | some key =>
    rw [hkey] at hitem
    obtain ⟨before, after, htable, -⟩ := List.lookup_eq_some_iff.mp hitem
    exact ⟨_, hwhole (key, c) (by rw [htable]; simp)⟩

variable {r : Rates} {x y : ℚ}

/-- GST goes on top. -/
def Rates.onTop (r : Rates) : Prop := r.enabled = true ∧ 0 < r.percent ∧ r.inclusive = false

instance (r : Rates) : Decidable r.onTop := inferInstanceAs (Decidable (_ ∧ _))

theorem total_onTop (h : r.onTop) :
    r.total x = quantize x + quantize (quantize x * r.percent / 100) := by
  obtain ⟨henabled, hpos, hexclusive⟩ := h
  have hrate : (0 : ℚ) < r.percent := by exact_mod_cast hpos
  have hcharged : r.gst.enabled = true ∧ 0 < r.gst.rate := ⟨henabled, hrate⟩
  have hon : ¬ r.gst.inclusive = true := by simp [Rates.gst, hexclusive]
  unfold Rates.total domainPriceBreakdown
  simp only
  rw [if_neg (not_not.mpr hcharged), if_neg hon]
  exact ((cents_quantize _).add (cents_quantize _)).quantize

theorem total_within (h : ¬ r.onTop) : r.total x = quantize x := by
  unfold Rates.total domainPriceBreakdown
  simp only
  by_cases hcharged : r.gst.enabled = true ∧ 0 < r.gst.rate
  · have hinclusive : r.gst.inclusive = true := by
      by_contra hon
      have hrate : (0 : ℚ) < r.percent := hcharged.2
      refine h ⟨hcharged.1, by exact_mod_cast hrate, ?_⟩
      simpa [Rates.gst] using hon
    rw [if_neg (not_not.mpr hcharged), if_pos hinclusive]
  · rw [if_pos hcharged]

theorem cents_natCast (n : ℕ) : Cents (n : ℚ) := ⟨100 * n, by push_cast; ring⟩

/-- **Whole rupees that are added are taxed alone**: with a whole rate their GST is in paise. -/
theorem total_add (hx : 0 ≤ x) (n : ℕ) : r.total (x + n) = r.total x + r.total n := by
  have hn : (0 : ℚ) ≤ n := n.cast_nonneg
  have hsum : quantize (x + n) = quantize x + n := (cents_natCast n).quantize_add hx hn
  have halone : quantize (n : ℚ) = n := (cents_natCast n).quantize
  by_cases htop : r.onTop
  · have htax : Cents ((n : ℚ) * r.percent / 100) := ⟨n * r.percent, by push_cast; ring⟩
    have hgst : quantize ((quantize x + n) * r.percent / 100) =
        quantize (quantize x * r.percent / 100) + n * r.percent / 100 := by
      have hexpand : (quantize x + n) * r.percent / 100 =
          quantize x * r.percent / 100 + n * r.percent / 100 := by ring
      rw [hexpand]
      refine htax.quantize_add ?_ (by positivity)
      have hq := quantize_nonneg hx
      positivity
    rw [total_onTop htop, total_onTop htop, total_onTop htop, hsum, hgst, halone, htax.quantize]
    ring
  · rw [total_within htop, total_within htop, total_within htop, hsum, halone]

/-- **Add-ons of the catalogue cost the same with a domain and alone.** -/
theorem total_add_catalogue (hx : 0 ≤ x) : ∀ cs : List ℚ, (∀ c ∈ cs, ∃ n : ℕ, c = n) →
    0 ≤ cs.sum ∧ r.total (x + cs.sum) = r.total x + (cs.map r.total).sum
  | [], _ => by simp
  | c :: cs, h => by
    obtain ⟨n, rfl⟩ := h c (List.mem_cons_self ..)
    obtain ⟨hsum, ih⟩ := total_add_catalogue hx cs fun d hd => h d (List.mem_cons_of_mem _ hd)
    have hn : (0 : ℚ) ≤ n := n.cast_nonneg
    rw [List.sum_cons, List.map_cons, List.sum_cons]
    refine ⟨add_nonneg hn hsum, ?_⟩
    have hlast : x + (n + cs.sum) = x + cs.sum + n := by ring
    rw [hlast, total_add (add_nonneg hx hsum), ih]
    ring

theorem total_nonneg (hx : 0 ≤ x) : 0 ≤ r.total x := by
  have hq := quantize_nonneg hx
  by_cases htop : r.onTop
  · rw [total_onTop htop]
    exact add_nonneg hq (quantize_nonneg (by positivity))
  · rw [total_within htop]
    exact hq

theorem quantize_pos_of_total (h : 0 < r.total x) : 0 < quantize x := by
  by_contra hneg
  have hq : quantize x ≤ 0 := not_lt.mp hneg
  by_cases htop : r.onTop
  · rw [total_onTop htop] at h
    have htax : quantize x * r.percent / 100 ≤ 0 := by
      have hmul := mul_nonpos_of_nonpos_of_nonneg hq (Nat.cast_nonneg (α := ℚ) r.percent)
      linarith
    have hgst := quantize_nonpos htax
    linarith
  · rw [total_within htop] at h
    linarith

theorem total_lt (hx : 0 ≤ quantize x) (h : quantize x < quantize y) : r.total x < r.total y := by
  by_cases htop : r.onTop
  · rw [total_onTop htop, total_onTop htop]
    have hle : quantize x * r.percent / 100 ≤ quantize y * r.percent / 100 := by
      have hmul := mul_le_mul_of_nonneg_right h.le (Nat.cast_nonneg (α := ℚ) r.percent)
      linarith
    have hgst := quantize_mono (by positivity) hle
    linarith
  · rw [total_within htop, total_within htop]
    exact h

/-- **A total shows its sub-total**, to the paisa. -/
theorem total_eq_iff (hx : 0 < r.total x) (hy : 0 ≤ y) :
    r.total x = r.total y ↔ quantize x = quantize y := by
  have hposx := quantize_pos_of_total hx
  have hposy := quantize_nonneg hy
  constructor
  · intro h
    rcases lt_trichotomy (quantize x) (quantize y) with hlt | heq | hgt
    · exact absurd h (total_lt hposx.le hlt).ne
    · exact heq
    · exact absurd h (total_lt hposy hgt).ne'
  · intro h
    by_cases htop : r.onTop
    · rw [total_onTop htop, total_onTop htop, h]
    · rw [total_within htop, total_within htop, h]

/-! ## What an order costs -/

variable {env : Env} {listing : Option Offer} {body : Body} {order : NewOrder}

/-- What the endpoint reads as add-ons. -/
def Body.items (body : Body) : Option (List PyValue) :=
  entries ((body.services.getD .none).orElse (.list []))

/-- What the add-ons' own prices are off the catalogue, together. -/
def surcharges (L : Lang) (items : List PyValue) : ℚ := (items.map (surcharge L)).sum

/-- What is left to pay: Edge points are for amounts in INR. -/
def Env.payable (env : Env) (charge : ℚ × Text) : ℚ :=
  if charge.2 = "INR".toList ∧ 0 < charge.1 then (env.redeem charge.1).1 else charge.1

theorem createPurchaseOrder_amount {req : Request}
    (h : createPurchaseOrder L env listing req = .ok (.opened order)) :
    ∃ offer, listing = some offer ∧ 0 < order.orderAmount ∧
      order.orderAmount = env.rates.total (offer.askingPrice + req.addonAmount) ∧
      order.currency = (env.charge L order.orderAmount req.currency).2 ∧
      order.amount = env.payable (env.charge L order.orderAmount req.currency) := by
  unfold createPurchaseOrder at h
  split at h
  · cases h
  split at h
  · cases h
  next offer =>
  split at h
  · cases h
  dsimp only at h
  split_ifs at h with hphone hprice hcontact hredeemed
  · cases h
  all_goals
    split at h
    · cases h
    obtain rfl := Answer.opened.inj (Except.ok.inj h)
    refine ⟨offer, rfl, ?_, rfl, rfl, ?_⟩
    · by_contra hneg
      exact hprice ⟨not_lt.mp hneg, hcontact⟩
    · first | exact (if_pos hredeemed).symm | exact (if_neg hredeemed).symm

theorem createListingPurchaseOrder_amount
    (h : createListingPurchaseOrder L env listing body = .ok (.opened order)) :
    ∃ offer items, listing = some offer ∧ body.items = some items ∧ 0 < order.orderAmount ∧
      order.orderAmount = env.rates.total
        (offer.askingPrice + (catalogue L items).sum + surcharges L items) := by
  unfold createListingPurchaseOrder at h
  split at h
  · cases h
  next req hreq =>
  obtain ⟨offer, hoffer, hpos, hamount, -⟩ := createPurchaseOrder_amount h
  unfold Body.request at hreq
  obtain ⟨⟨amount, keys⟩, hparsed, hreq⟩ := Option.bind_eq_some_iff.mp hreq
  cases hreq
  obtain ⟨items, hitems, hsum⟩ := parse_eq hparsed
  refine ⟨offer, items, hoffer, hitems, hpos, ?_⟩
  rw [hamount, add_assoc]
  exact congrArg (fun a => env.rates.total (offer.askingPrice + a)) hsum

/-- **A client's add-ons and the price.** An order that is opened costs at least the domain's total,
and exactly that and the catalogue price with GST of each recognised add-on, if and only if the prices
that the list states for itself do not move the sub-total by a paisa. -/
theorem addons_priced_iff
    (h : createListingPurchaseOrder L env listing body = .ok (.opened order)) :
    ∃ offer items, listing = some offer ∧ body.items = some items ∧
      ((env.rates.total offer.askingPrice ≤ order.orderAmount ∧
        order.orderAmount = env.rates.total offer.askingPrice +
          ((catalogue L items).map env.rates.total).sum) ↔
        quantize (offer.askingPrice + (catalogue L items).sum + surcharges L items) =
          quantize (offer.askingPrice + (catalogue L items).sum)) := by
  obtain ⟨offer, items, hoffer, hitems, hpos, hamount⟩ := createListingPurchaseOrder_amount h
  obtain ⟨hsum, hlist⟩ := total_add_catalogue (r := env.rates) offer.nonneg (catalogue L items)
    fun c hc => mem_catalogue hc
  have hleast : env.rates.total offer.askingPrice ≤ env.rates.total offer.askingPrice +
      ((catalogue L items).map env.rates.total).sum := by
    refine le_add_of_nonneg_right (List.sum_nonneg fun t ht => ?_)
    obtain ⟨c, hc, rfl⟩ := List.mem_map.mp ht
    obtain ⟨n, rfl⟩ := mem_catalogue hc
    exact total_nonneg n.cast_nonneg
  refine ⟨offer, items, hoffer, hitems, ?_⟩
  rw [hamount] at hpos ⊢
  rw [← total_eq_iff hpos (add_nonneg offer.nonneg hsum), hlist]
  exact ⟨fun hboth => hboth.2, fun heq => ⟨heq ▸ hleast, heq⟩⟩

/-! ## A client who states a price -/

/-- The shop of the default settings. -/
def shop : Env where
  configured := true
  rates := ⟨true, 18, false⟩
  buyer := 1
  phone := some "9999999999".toList
  convertInr _ _ := none
  redeem amount := (amount, 0)
  razorpay := .ok 7

/-- A domain for 1000 rupees. -/
def thousand : Offer where
  listedByUserId := some 2
  domainStatus := .available
  purchasedByUserId := none
  askingPrice := 1000
  nonneg := by norm_num

def bodyWith (addon : PyValue) : Body := ⟨some (.list [addon]), none⟩

/-- `"GST_REGISTRATION"`. -/
theorem addons_priced_plain :
    ∃ offer items, some thousand = some offer ∧
      (bodyWith (.str "GST_REGISTRATION".toList)).items = some items ∧
      ((shop.rates.total offer.askingPrice ≤ 4720 ∧ (4720 : ℚ) =
          shop.rates.total offer.askingPrice +
            ((catalogue SoftwarePrice.plainLang items).map shop.rates.total).sum) ↔
        quantize (offer.askingPrice + (catalogue SoftwarePrice.plainLang items).sum +
            surcharges SoftwarePrice.plainLang items) =
          quantize (offer.askingPrice + (catalogue SoftwarePrice.plainLang items).sum)) :=
  have hopened : createListingPurchaseOrder SoftwarePrice.plainLang shop (some thousand)
      (bodyWith (.str "GST_REGISTRATION".toList)) =
      .ok (.opened ⟨7, 4720, 4720, "INR".toList, 0⟩) := by decide +kernel
  addons_priced_iff hopened

/-- `{"key": "GST_REGISTRATION", "price": -999}` buys the domain for 1.18 rupees. -/
theorem addons_lower_price :
    createListingPurchaseOrder SoftwarePrice.plainLang shop (some thousand)
      (bodyWith (.dict [("key".toList, .str "GST_REGISTRATION".toList), ("price".toList, .int (-999))])) =
      .ok (.opened ⟨7, 118 / 100, 118 / 100, "INR".toList, 0⟩) ∧
    ¬ shop.rates.total thousand.askingPrice ≤ 118 / 100 := by
  refine ⟨by decide +kernel, by decide +kernel⟩

end Deltapreneur.Marketplace.AddonPrice
