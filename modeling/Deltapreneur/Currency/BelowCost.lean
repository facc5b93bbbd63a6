import Deltapreneur.Cart.Requote
import Deltapreneur.Currency.ExchangeRates
import Mathlib.Data.Finset.Max

/-!
# What a wholesale quote is sold at

Model of the four functions that turn a registrar's wholesale quote into a price in rupees:
`_selling_for_period` of `quote_registration_period_price`, `_resolve_renewal_unit_price_inr`,
`_resolve_transfer_unit_price_inr` and `get_restore_addon_quote`
(`domain_registration_service.py:1808-1928, 3300-3368, 5513-5565`), over
`calculate_customer_price` of `domain_commission_config.py` and the exchange rates.

* A quote is the amount and the currency that the code reads out of the registrar's answer.
* `none` is an exception: the operation does not sell.
* A sale takes place in any state of the rate service that some calls of `get_exchange_rates` lead
  to; a sale that converts makes one more such call.

**`nothing_below_cost`** says, for each of the four, in which currency and at which rates no amount
is sold for less than its cost. The registration and the restore convert; the renewal and the
transfer read the amount as rupees whatever its currency is. The registration rounds to cents before
it converts, so there the quote must not be rounded down.
-/

namespace Deltapreneur.BelowCost

open Decimal Run ExchangeRates
open RegistrationPrice (ServiceRates Commission applyMarkup getRate Text)

/-! ## The functions -/

/-- `str.upper` and `str.strip`. -/
structure Language where
  upper : String → String
  strip : String → String
  upper_upper : ∀ s, upper (upper s) = upper s
  upper_strip_upper : ∀ s, upper (strip (upper s)) = strip (upper s)
  upper_inr : upper "INR" = "INR"

/-- What the registrar asks, as the code reads it. -/
structure Wholesale where
  amount : ℚ
  currency : Option String
  isPremium : Bool

/-- `currency or "INR"`. -/
def orInr : Option String → String
  | some "" | none => "INR"
  | some currency => currency

/-- The `code` of `calculate_customer_price`. -/
def Language.providerCode (lang : Language) (currency : String) : String :=
  let code := lang.strip (lang.upper currency)
  if code = "" then "INR" else code

/-- What the prices depend on besides the quote and the rates. -/
structure Shop where
  lang : Language
  registration : Commission
  renewal : ServiceRates
  transfer : ServiceRates
  restore : ServiceRates
  /-- `DOMAIN_STOREFRONT_RENEWAL_FALLBACK_UNIT_INR or 799.0`. -/
  fallback : {q : ℚ // 0 ≤ q}

/-- The `provider_unit_inr` of `calculate_customer_price`. -/
def providerUnitInr (lang : Language) (cache : Option Cache) (call : Call) (raw : ℚ)
    (currency : String) : ℚ :=
  let code := lang.providerCode currency
  if code ≠ "INR" ∧ 0 < raw then
    match (convertForeignToInr cache call raw (lang.upper code)).1 with
    | some converted => converted.amountInr
    | none => round2 raw
  else round2 raw

/-- The `customerUnitInr` of `calculate_customer_price`. -/
def calculateCustomerPrice (lang : Language) (cache : Option Cache) (call : Call)
    (svc : ServiceRates) (tld : Text) (providerPrice : ℚ) (currency : String) : ℚ :=
  let provider := providerUnitInr lang cache call providerPrice currency
  if 0 < provider then applyMarkup provider (getRate svc tld) else 0

/-- The `selling` of `_selling_for_period`. -/
def sellingForPeriod (s : Shop) (cache : Option Cache) (call : Call) (tld : Text)
    (quote : Wholesale) : Option ℚ :=
  let raw := round2 quote.amount
  if raw ≤ 0 then none
  else some (calculateCustomerPrice s.lang cache call (s.registration.service quote.isPremium) tld
    raw (orInr quote.currency))

/-- `_resolve_renewal_unit_price_inr` and `_resolve_transfer_unit_price_inr`, which differ in the
commission: the price of the quote `unit`, if there is one. -/
def resolveUnitPriceInr (s : Shop) (svc : ServiceRates) (tld : Text) (unit : Option Wholesale) :
    ℚ :=
  let basePrice := match unit with
    | some quote => if 0 < quote.amount then max 1 (round2 quote.amount) else s.fallback.val
    | none => s.fallback.val
  applyMarkup basePrice (getRate svc tld)

/-- `_resolve_renewal_unit_price_inr`. -/
def resolveRenewalUnitPriceInr (s : Shop) (tld : Text) (unit : Option Wholesale) : ℚ :=
  resolveUnitPriceInr s s.renewal tld unit

/-- `_resolve_transfer_unit_price_inr`. -/
def resolveTransferUnitPriceInr (s : Shop) (tld : Text) (unit : Option Wholesale) : ℚ :=
  resolveUnitPriceInr s s.transfer tld unit

/-- The `unitPriceInr` of `get_restore_addon_quote`. -/
def getRestoreAddonQuote (s : Shop) (cache : Option Cache) (call : Call) (tld : Text)
    (quote : Wholesale) : Option ℚ :=
  if quote.amount ≤ 0 then none
  else some (calculateCustomerPrice s.lang cache call s.restore tld quote.amount
    (s.lang.upper (orInr quote.currency)))

/-! ## The cost and the condition -/

/-- The four operations that sell. -/
inductive Sale
  | registration
  | renewal
  | transfer
  | restore

/-- The price that the operation charges for the quote. -/
def charged (s : Shop) (sale : Sale) (cache : Option Cache) (call : Call) (tld : Text)
    (quote : Wholesale) : Option ℚ :=
  match sale with
  | .registration => sellingForPeriod s cache call tld quote
  | .renewal => some (resolveRenewalUnitPriceInr s tld (some quote))
  | .transfer => some (resolveTransferUnitPriceInr s tld (some quote))
  | .restore => getRestoreAddonQuote s cache call tld quote

/-- The call of `get_exchange_rates` that a conversion makes. -/
def asked (call : Call) : Call := { call with forceRefresh := false }

/-- The snapshots of the process when the operation is over. Only the registration and the
restore ask for rates. -/
def heardBy (sale : Sale) (w : World) (call : Call) : List (List Snapshot) :=
  match sale with
  | .registration | .restore => (step w (asked call)).heard
  | .renewal | .transfer => w.heard

/-- The rates at which a quote in `code` can be read in rupees: every rate that some provider
reported for it. Rupees are rupees. -/
def costRates (code : String) (heard : List (List Snapshot)) : List Rate :=
  if code = "INR" then [1] else heard.flatMap (reported · code)

/-- The quote is not sold for less than its cost at one of the rates, up to half a rupee. -/
def NotBelowCost (s : Shop) (sale : Sale) (w : World) (call : Call) (tld : Text)
    (quote : Wholesale) : Prop :=
  ∀ price, charged s sale w.cache call tld quote = some price →
    ∃ r ∈ costRates (s.lang.providerCode (orInr quote.currency)) (heardBy sale w call),
      divided quote.amount r - 1 / 2 ≤ price

/-- The condition on the rates. A unit of the currency costs at most a rupee and its commission
where the currency is ignored. The rate in use is no higher than a reported one where the amount is
converted. -/
def CostCovered (s : Shop) (sale : Sale) (w : World) (call : Call) (tld : Text)
    (currency : Option String) : Prop :=
  let code := s.lang.providerCode (orInr currency)
  ∃ r ∈ costRates code (heardBy sale w call),
    match sale with
    | .renewal => divided 1 r ≤ 1 + (getRate s.renewal tld).val
    | .transfer => divided 1 r ≤ 1 + (getRate s.transfer tld).val
    | .registration | .restore =>
      code = "INR" ∨ ∃ u, (getExchangeRates w.cache (asked call)).1.rates code = some u ∧ u ≤ r

/-- The condition on the amount: a registration in a foreign currency does not lose a part of a
cent. -/
def KeepsCents (lang : Language) (sale : Sale) (quote : Wholesale) : Prop :=
  sale = .registration → lang.providerCode (orInr quote.currency) ≠ "INR" →
    quote.amount ≤ round2 quote.amount

/-! ## Converting -/

variable {s : Shop} {lang : Language} {m : RegistrationPrice.Rate} {a : ℚ} {r u : Rate}
  {rates : List Rate}

theorem divided_eq (a : ℚ) (r : Rate) : divided a r = a * divided 1 r := by
  cases r using WithTop.recTopCoe with
  | top => simp [divided]
  | coe q => simp [divided, div_eq_mul_inv]

theorem divided_one_nonneg (hr : 0 < r) : 0 ≤ divided 1 r := by
  cases r using WithTop.recTopCoe with
  | top => exact le_rfl
  | coe q => exact div_nonneg zero_le_one (by exact_mod_cast hr.le)

theorem divided_one_le (hu : 0 < u) (hur : u ≤ r) : divided 1 r ≤ divided 1 u := by
  cases r using WithTop.recTopCoe with
  | top => exact divided_one_nonneg hu
  | coe q =>
    cases u using WithTop.recTopCoe with
    | top => cases hur
    | coe v => exact one_div_le_one_div_of_le (by exact_mod_cast hu) (by exact_mod_cast hur)

theorem le_of_divided_one_le (hr : 0 < r) (h : divided 1 r ≤ divided 1 u) : u ≤ r := by
  cases r using WithTop.recTopCoe with
  | top => exact le_top
  | coe q =>
    have hq : 0 < q := by exact_mod_cast hr
    cases u using WithTop.recTopCoe with
    | top => exact absurd h (not_le.mpr (div_pos one_pos hq))
    | coe v =>
      by_contra hlt
      have hqv : q < v := by exact_mod_cast not_le.mp hlt
      exact absurd h (not_le.mpr (one_div_lt_one_div_of_lt hq hqv))

theorem exists_cheapest (h : rates ≠ []) :
    ∃ r ∈ rates, ∀ a p : ℚ, 0 ≤ a → (∃ x ∈ rates, divided a x - 1 / 2 ≤ p) →
      divided a r - 1 / 2 ≤ p := by
  obtain ⟨r, hr, hle⟩ := rates.toFinset.exists_min_image (divided 1)
    (List.toFinset_nonempty_iff _ |>.mpr h)
  refine ⟨r, List.mem_toFinset.mp hr, fun a p ha hx => ?_⟩
  obtain ⟨x, hx, hcost⟩ := hx
  have hworth := mul_le_mul_of_nonneg_left (hle x (List.mem_toFinset.mpr hx)) ha
  rw [divided_eq] at hcost ⊢
  linarith

/-! ## The commission -/

/-- The price of `n` rupees with the commission on it. -/
def marked (m : RegistrationPrice.Rate) (n : ℤ) : ℚ := if 0 < n then applyMarkup n m else 0

theorem le_applyMarkup {b : ℚ} (hb : Cents b) (h0 : 0 ≤ b) : b ≤ applyMarkup b m := by
  refine hb.le_round2 ?_
  have := mul_nonneg h0 m.property.1
  linarith

theorem le_marked (n : ℤ) : (n : ℚ) ≤ marked m n := by
  unfold marked
  split_ifs with hpos
  · have hcents : Cents (n : ℚ) := ⟨n * 100, by push_cast; ring⟩
    exact le_applyMarkup hcents (by exact_mod_cast hpos.le)
  · exact_mod_cast not_lt.mp hpos

theorem applyMarkup_nonneg {b : ℚ} (h0 : 0 ≤ b) : 0 ≤ applyMarkup b m := by
  have hzero : Cents 0 := ⟨0, by norm_num⟩
  exact hzero.le_round2 (mul_nonneg h0 (by linarith [m.property.1]))

/-! ## The renewal and the transfer -/

theorem applyMarkup_round2_le (ha : 1 ≤ a) :
    applyMarkup (max 1 (round2 a)) m ≤ a * (1 + m.val) + 3 / 200 := by
  obtain ⟨-, hround⟩ := abs_le.mp (abs_round2_sub_le a)
  obtain ⟨-, hmark⟩ := abs_le.mp (abs_round2_sub_le (max 1 (round2 a) * (1 + m.val)))
  have hbase : max 1 (round2 a) ≤ a + 1 / 200 := max_le (by linarith) (by linarith)
  have hm : 0 ≤ 1 + m.val := by linarith [m.property.1]
  have hprod := mul_le_mul_of_nonneg_right hbase hm
  have hm1 := m.property.2
  rw [applyMarkup]
  linarith

theorem le_applyMarkup_max (a : ℚ) :
    a * (1 + m.val) - 3 / 200 ≤ applyMarkup (max 1 (round2 a)) m := by
  obtain ⟨hround, -⟩ := abs_le.mp (abs_round2_sub_le a)
  obtain ⟨hmark, -⟩ := abs_le.mp (abs_round2_sub_le (max 1 (round2 a) * (1 + m.val)))
  have hbase : a - 1 / 200 ≤ max 1 (round2 a) := le_max_of_le_right (by linarith)
  have hm : 0 ≤ 1 + m.val := by linarith [m.property.1]
  have hprod := mul_le_mul_of_nonneg_right hbase hm
  have hm1 := m.property.2
  rw [applyMarkup]
  linarith

/-- Where the currency is ignored, every amount covers its cost exactly if a unit of the currency
costs no more than a rupee with its commission: any gap grows with the amount. -/
theorem ignored_iff (svc : ServiceRates) (tld : Text) (currency : Option String) (isPremium : Bool)
    (hpos : ∀ r ∈ rates, 0 < r) :
    (∀ amount, ∃ r ∈ rates, divided amount r - 1 / 2 ≤
      resolveUnitPriceInr s svc tld (some ⟨amount, currency, isPremium⟩)) ↔
    ∃ r ∈ rates, divided 1 r ≤ 1 + (getRate svc tld).val := by
  constructor
  · intro h
    have hne : rates ≠ [] := by
      obtain ⟨r, hr, -⟩ := h 0
      exact List.ne_nil_of_mem hr
    obtain ⟨r, hr, hcheapest⟩ := exists_cheapest hne
    refine ⟨r, hr, ?_⟩
    by_contra hgap
    obtain ⟨g, hg, hworth⟩ : ∃ g, 0 < g ∧ divided 1 r = 1 + (getRate svc tld).val + g :=
      ⟨divided 1 r - (1 + (getRate svc tld).val), by linarith [not_le.mp hgap], by ring⟩
    have ha : 1 ≤ 1 + 1 / g := by linarith [one_div_pos.mpr hg]
    have hcost := hcheapest _ _ (by linarith) (h (1 + 1 / g))
    have hprice := applyMarkup_round2_le (m := getRate svc tld) ha
    have hmul : (1 + 1 / g) * g = g + 1 := by field_simp
    simp only [resolveUnitPriceInr, if_pos (show 0 < 1 + 1 / g by linarith)] at hcost
    rw [divided_eq, hworth, mul_add, hmul] at hcost
    linarith
  · rintro ⟨r, hr, hworth⟩ amount
    refine ⟨r, hr, ?_⟩
    have hm := (getRate svc tld).property.1
    rw [divided_eq]
    by_cases ha : 0 < amount
    · simp only [resolveUnitPriceInr, if_pos ha]
      have hle := le_applyMarkup_max (m := getRate svc tld) amount
      have hcost := mul_le_mul_of_nonneg_left hworth ha.le
      linarith
    · simp only [resolveUnitPriceInr, if_neg ha]
      have hprice := applyMarkup_nonneg (m := getRate svc tld) s.fallback.property
      have hcost := mul_nonpos_of_nonpos_of_nonneg (not_lt.mp ha) (divided_one_nonneg (hpos r hr))
      linarith

/-! ## The operations that convert -/

/-- A converted amount covers its cost exactly if the rate in use is no higher than a reported
one: half of that rate is the largest amount that rounds down to nothing. -/
theorem converted_iff (hu : 0 < u) (hpos : ∀ r ∈ rates, 0 < r) :
    (∀ amount, 0 < amount → ∃ r ∈ rates, divided amount r - 1 / 2 ≤
      marked m (roundEven (divided amount u))) ↔ ∃ r ∈ rates, u ≤ r := by
  constructor
  · intro h
    have hne : rates ≠ [] := by
      obtain ⟨r, hr, -⟩ := h 1 one_pos
      exact List.ne_nil_of_mem hr
    obtain ⟨r, hr, hcheapest⟩ := exists_cheapest hne
    refine ⟨r, hr, le_of_divided_one_le (hpos r hr) ?_⟩
    have hworth := divided_one_nonneg (hpos r hr)
    -- An amount that is worth half a rupee or less in use is sold for nothing.
    have hfree : ∀ a, 0 < a → a * divided 1 u ≤ 1 / 2 → a * divided 1 r ≤ 1 / 2 := by
      intro a ha hhalf
      have hzero : roundEven (divided a u) = 0 := by
        have h0 : 0 ≤ a * divided 1 u := mul_nonneg ha.le (divided_one_nonneg hu)
        rw [divided_eq]
        rcases hhalf.lt_or_eq with hlt | heq
        · simpa using roundEven_intCast_add 0 h0 (by linarith)
        · rw [heq]
          decide +kernel
      have hcost := hcheapest a _ ha.le (h a ha)
      rw [hzero, divided_eq] at hcost
      simp only [marked, lt_irrefl, if_false] at hcost
      linarith
    by_contra hlt
    rw [not_le] at hlt
    rcases (divided_one_nonneg hu).eq_or_lt with hzero | hupos
    · have hcost := hfree (1 / divided 1 r) (one_div_pos.mpr (hzero ▸ hlt))
        (by rw [← hzero]; norm_num)
      rw [one_div_mul_cancel (hzero ▸ hlt).ne'] at hcost
      norm_num at hcost
    · have hcost := hfree (1 / (2 * divided 1 u)) (by positivity) (by field_simp; norm_num)
      have hmore := mul_lt_mul_of_pos_left hlt (show 0 < 1 / (2 * divided 1 u) by positivity)
      have hhalf : 1 / (2 * divided 1 u) * divided 1 u = 1 / 2 := by field_simp
      linarith
  · rintro ⟨r, hr, hur⟩ amount ha
    refine ⟨r, hr, ?_⟩
    have hcost := mul_le_mul_of_nonneg_left (divided_one_le hu hur) ha.le
    obtain ⟨hround, -⟩ := abs_le.mp (abs_roundEven_sub_le (divided amount u))
    have hprice := le_marked (m := m) (roundEven (divided amount u))
    rw [divided_eq amount u] at hround hprice ⊢
    rw [divided_eq amount r]
    linarith

/-! ## What the converting operations charge -/

@[simp] theorem upper_providerCode (currency : String) :
    lang.upper (lang.providerCode currency) = lang.providerCode currency := by
  simp only [Language.providerCode]
  split_ifs
  · exact lang.upper_inr
  · exact lang.upper_strip_upper currency

@[simp] theorem providerCode_upper (currency : String) :
    lang.providerCode (lang.upper currency) = lang.providerCode currency := by
  simp only [Language.providerCode, lang.upper_upper]

variable {cache : Option Cache} {call : Call} {svc : ServiceRates} {tld : Text} {currency : String}

theorem calculate_inr (hcode : lang.providerCode currency = "INR") :
    calculateCustomerPrice lang cache call svc tld a currency =
      if 0 < round2 a then applyMarkup (round2 a) (getRate svc tld) else 0 := by
  simp [calculateCustomerPrice, providerUnitInr, hcode]

theorem calculate_converted (hcode : lang.providerCode currency ≠ "INR")
    (hmem : lang.providerCode currency ∈ supportedCurrencies)
    (hrate : (getExchangeRates cache (asked call)).1.rates (lang.providerCode currency) = some u)
    (hu : 0 < u) (ha : 0 < a) :
    calculateCustomerPrice lang cache call svc tld a currency =
      marked (getRate svc tld) (roundEven (divided a u)) := by
  have hprovider : providerUnitInr lang cache call a currency = roundEven (divided a u) := by
    simp only [asked] at hrate
    simp [providerUnitInr, convertForeignToInr, hcode, hmem, ha, hrate, not_le.mpr hu]
  simp only [calculateCustomerPrice, hprovider, marked, Int.cast_pos]

theorem inr_covered (a : ℚ) :
    divided a 1 - 1 / 2 ≤ if 0 < round2 a then applyMarkup (round2 a) m else 0 := by
  have hone : divided a 1 = a := by
    change a / 1 = a
    exact div_one a
  obtain ⟨hround, -⟩ := abs_le.mp (abs_round2_sub_le a)
  rw [hone]
  split_ifs with hpos
  · have hprice := le_applyMarkup (m := m) (cents_round2 a) hpos.le
    linarith
  · linarith [not_lt.mp hpos]

/-! ## The condition -/

theorem costRates_pos (code : String) (heard : List (List Snapshot)) :
    ∀ r ∈ costRates code heard, 0 < r := by
  unfold costRates
  split_ifs
  · simp
  · intro r hr
    obtain ⟨snapshots, -, hrep⟩ := List.mem_flatMap.mp hr
    exact reported_pos hrep

theorem costRates_unsupported {code : String} {heard : List (List Snapshot)}
    (hmem : code ∉ supportedCurrencies) : costRates code heard = [] := by
  have hinr : code ≠ "INR" := fun h => hmem (h ▸ inr_supported)
  rw [costRates, if_neg hinr, List.flatMap_eq_nil_iff]
  intro snapshots _
  by_contra hne
  exact hmem (reported_supported hne)

theorem exists_rate_in_use (calls : List Call) (call : Call) {code : String}
    (hmem : code ∈ supportedCurrencies) :
    ∃ u, (getExchangeRates (exec step start calls).cache call).1.rates code = some u ∧ 0 < u := by
  refine ratesAll_get call (fun k hk => ?_) code hmem
  obtain ⟨snapshots, -, -, hrates⟩ := (follows_exec calls).merged k hk
  exact hrates ▸ ratesAll_merge snapshots

/-- A conversion covers the cost of the amount that is converted. -/
theorem converted_covered (calls : List Call) (call : Call) (svc : ServiceRates) (tld : Text)
    {currency code : String} (hcode : lang.providerCode currency = code)
    {heard : List (List Snapshot)}
    (h : ∃ r ∈ costRates code heard, code = "INR" ∨ ∃ u,
      (getExchangeRates (exec step start calls).cache (asked call)).1.rates code = some u ∧ u ≤ r)
    (ha : 0 < a) :
    ∃ r ∈ costRates code heard, divided a r - 1 / 2 ≤
      calculateCustomerPrice lang (exec step start calls).cache call svc tld a currency := by
  subst hcode
  by_cases hinr : lang.providerCode currency = "INR"
  · refine ⟨1, by simp [costRates, hinr], ?_⟩
    rw [calculate_inr hinr]
    exact inr_covered a
  · obtain ⟨r, hr, hrate⟩ := h
    obtain ⟨u, hrate, hur⟩ := hrate.resolve_left hinr
    have hmem : lang.providerCode currency ∈ supportedCurrencies := by
      by_contra hno
      rw [costRates_unsupported hno] at hr
      cases hr
    obtain ⟨u', hrate', hu⟩ := exists_rate_in_use calls (asked call) hmem
    obtain rfl : u = u' := Option.some.inj (hrate.symm.trans hrate')
    rw [calculate_converted hinr hmem hrate hu ha]
    exact (converted_iff hu (costRates_pos _ _)).mpr ⟨r, hr, hur⟩ a ha

/-- A restore that never sells below cost. -/
theorem restore_covered (calls : List Call) (call : Call) (tld : Text) (currency : Option String)
    (isPremium : Bool)
    (h : ∀ amount, NotBelowCost s .restore (exec step start calls) call tld
      ⟨amount, currency, isPremium⟩) :
    CostCovered s .restore (exec step start calls) call tld currency := by
  have hcode : s.lang.providerCode (s.lang.upper (orInr currency)) =
      s.lang.providerCode (orInr currency) := providerCode_upper _
  have hsold : ∀ amount, 0 < amount → ∃ r ∈ costRates (s.lang.providerCode (orInr currency))
      (heardBy .restore (exec step start calls) call), divided amount r - 1 / 2 ≤
        calculateCustomerPrice s.lang (exec step start calls).cache call s.restore tld amount
          (s.lang.upper (orInr currency)) := by
    intro amount ha
    refine h amount _ ?_
    simp only [charged, getRestoreAddonQuote, if_neg (not_le.mpr ha)]
  by_cases hinr : s.lang.providerCode (orInr currency) = "INR"
  · exact ⟨1, by simp [costRates, hinr], .inl hinr⟩
  by_cases hmem : s.lang.providerCode (orInr currency) ∈ supportedCurrencies
  · obtain ⟨u, hrate, hu⟩ := exists_rate_in_use calls (asked call) hmem
    obtain ⟨r, hr, hur⟩ := (converted_iff (m := getRate s.restore tld) hu
      (costRates_pos (s.lang.providerCode (orInr currency)) _)).mp fun amount ha => by
        rw [← calculate_converted (hcode ▸ hinr) (hcode ▸ hmem) (hcode ▸ hrate) hu ha]
        exact hsold amount ha
    exact ⟨r, hr, .inr ⟨u, hrate, hur⟩⟩
  · obtain ⟨r, hr, -⟩ := hsold 1 one_pos
    rw [costRates_unsupported hmem] at hr
    cases hr

/-- **Nothing is sold below cost**, in this currency and at these rates, where the condition of the
operation holds; for the renewal, the transfer and the restore only there. -/
theorem nothing_below_cost (s : Shop) (sale : Sale) (calls : List Call) (call : Call) (tld : Text)
    (currency : Option String) (isPremium : Bool) :
    (CostCovered s sale (exec step start calls) call tld currency →
      ∀ amount, KeepsCents s.lang sale ⟨amount, currency, isPremium⟩ →
        NotBelowCost s sale (exec step start calls) call tld ⟨amount, currency, isPremium⟩) ∧
    (sale ≠ .registration →
      (∀ amount, NotBelowCost s sale (exec step start calls) call tld
        ⟨amount, currency, isPremium⟩) →
      CostCovered s sale (exec step start calls) call tld currency) := by
  cases sale with
  | registration =>
    refine ⟨fun hcovered amount hcents price hprice => ?_, fun hne => absurd rfl hne⟩
    simp only [charged, sellingForPeriod] at hprice
    split_ifs at hprice with hle
    obtain rfl := Option.some.inj hprice
    obtain ⟨r, hr, hcost⟩ := converted_covered calls call
      (s.registration.service isPremium) tld rfl hcovered (not_le.mp hle)
    by_cases hinr : s.lang.providerCode (orInr currency) = "INR"
    · refine ⟨1, by simp [costRates, hinr], ?_⟩
      rw [calculate_inr hinr, (cents_round2 amount).round2]
      exact inr_covered amount
    · refine ⟨r, hr, le_trans (sub_le_sub_right ?_ _) hcost⟩
      rw [divided_eq amount, divided_eq (round2 amount)]
      exact mul_le_mul_of_nonneg_right (hcents rfl hinr) (divided_one_nonneg (costRates_pos _ _ r hr))
  | restore =>
    refine ⟨fun hcovered amount _ price hprice => ?_, fun _ =>
      restore_covered calls call tld currency isPremium⟩
    simp only [charged, getRestoreAddonQuote] at hprice
    split_ifs at hprice with hle
    obtain rfl := Option.some.inj hprice
    exact converted_covered calls call s.restore tld (providerCode_upper _) hcovered (not_le.mp hle)
  | renewal =>
    have hiff := ignored_iff (s := s) s.renewal tld currency isPremium
      (costRates_pos (s.lang.providerCode (orInr currency))
        (heardBy .renewal (exec step start calls) call))
    refine ⟨fun hcovered amount _ price hprice => ?_, fun _ h => hiff.mp fun amount => h amount _ rfl⟩
    obtain rfl := Option.some.inj hprice
    exact hiff.mpr hcovered amount
  | transfer =>
    have hiff := ignored_iff (s := s) s.transfer tld currency isPremium
      (costRates_pos (s.lang.providerCode (orInr currency))
        (heardBy .transfer (exec step start calls) call))
    refine ⟨fun hcovered amount _ price hprice => ?_, fun _ h => hiff.mp fun amount => h amount _ rfl⟩
    obtain rfl := Option.some.inj hprice
    exact hiff.mpr hcovered amount

def threePercent : Shop :=
  let rates : ServiceRates := ⟨⟨3 / 100, RegistrationPrice.threePercent_bounds⟩, fun _ => none⟩
  { lang := ⟨id, id, fun _ => rfl, fun _ => rfl, rfl⟩
    registration := ⟨rates, rates⟩, renewal := rates, transfer := rates, restore := rates
    fallback := ⟨100, by norm_num⟩ }

/-- One provider answers, and reports the dollar at 0.0105. -/
def dollarReported : Call := onlyFirst fun code =>
  if code = "USD" then some (.value ((105 / 10000 : ℚ) : Rate)) else none

theorem nothing_below_cost_dollars :
    NotBelowCost threePercent .registration (exec step start [dollarReported]) dollarReported []
      ⟨1234 / 100, some "USD", false⟩ := by
  refine (nothing_below_cost threePercent .registration [dollarReported] dollarReported []
    (some "USD") false).1 ?_ (1234 / 100) fun _ _ => by decide +kernel
  exact ⟨((105 / 10000 : ℚ) : Rate), by decide +kernel, .inr ⟨_, by decide +kernel, le_rfl⟩⟩

/-- A renewal quoted at ten dollars is sold at ten rupees and thirty paise. -/
theorem dollars_sold_as_rupees :
    ¬ ∀ (s : Shop) (sale : Sale) (calls : List Call) (call : Call) (tld : Text)
      (quote : Wholesale), NotBelowCost s sale (exec step start calls) call tld quote := by
  intro h
  have hprice : charged threePercent .renewal (exec step start [dollarReported]).cache dollarReported []
      ⟨10, some "USD", false⟩ = some (103 / 10) := by decide +kernel
  have hrates : costRates (threePercent.lang.providerCode (orInr (some "USD")))
      (heardBy .renewal (exec step start [dollarReported]) dollarReported) =
        [((105 / 10000 : ℚ) : Rate)] := by decide +kernel
  obtain ⟨r, hr, hcost⟩ :=
    h threePercent .renewal [dollarReported] dollarReported [] ⟨10, some "USD", false⟩ _ hprice
  rw [hrates, List.mem_singleton] at hr
  rw [hr] at hcost
  norm_num [divided] at hcost

end Deltapreneur.BelowCost
