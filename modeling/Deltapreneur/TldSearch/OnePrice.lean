import Deltapreneur.Cart.RegistrationPrice
import Deltapreneur.TldSearch.ListedPrice

/-!
# One name, one price

When the price of a name in the search results is the one that the single check returns for the
same entry, whatever the exchange rates and commissions.

Both paths end in the same `calculate_customer_price`. What they give it differs in three ways: the
search results fall back to `price.create` where the check does not know it; they take the currency
of the product, or of the whole price, for an amount of the reseller that comes without one; and
they divide by the minimum period that is in the cache, where the check first reads the
registrar's.

* `SamePrice`: the property of an entry.
* `Agrees`: the condition.

Results:

* `samePrice_iff`: exactly when the property holds.
* `unread_period_doubles`: an extension of two years that is not in the cache yet.
-/

namespace Deltapreneur.ListedPrice

open Decimal RegistrationPrice

variable {s : Shop} {e : CheckEntry} {v : Value} {u y y' : ℚ} {currency currency' : Option Text}
  {rates : Text → {r : ℚ // 0 < r}}

/-! ## The property and its condition -/

/-- **The price in the search results is the one that the check returns**, if it returns one. -/
def SamePrice (s : Shop) (e : CheckEntry) (label ext : Text) : Prop :=
  ∀ m p, s.checkOpenproviderDomain m e ext = some p →
    ∀ item ∈ s.buildTldItems m [e] label, item.tld = '.' :: ext → item.registrationPrice = some p

/-- The amount that the search results read where the check reads `unit`: `price.create`, if
neither the reseller nor the product states an amount. -/
def Shop.listed (s : Shop) (e : CheckEntry) (unit : ℚ) : ℚ :=
  if priceOf e.reseller = .null ∧ priceOf e.product = .null then (s.positiveNum e.create).getD unit
  else unit

/-- The amounts for a year are the same and no less than a cent, and so are the currencies that
they are converted from. -/
structure Agrees (s : Shop) (e : CheckEntry) (ext : Text) (unit : ℚ) (currency : Option Text) :
    Prop where
  amount : s.yearlyCreatePriceFromCheck s.cachedYears (s.uplift e (s.listed e unit)) ext =
    s.yearlyCreatePriceFromCheck (s.ensureTldMinPeriod ext) (s.uplift e unit) ext
  pos : 0 < s.yearlyCreatePriceFromCheck (s.ensureTldMinPeriod ext) (s.uplift e unit) ext
  currency : s.foreign (s.listCurrency e) = s.foreign currency

/-! ## The amounts -/

theorem positiveNum_of_pos (h : s.setting.lang.float v = some u) (hpos : 0 < u) :
    s.positiveNum v = some u := by
  simp [Shop.positiveNum, h, hpos]

theorem positiveNum_null : s.positiveNum .null = none := rfl

theorem panelInrCreatePrice_eq_some {panel : ℚ} (h : s.panelInrCreatePrice e u = some panel) :
    1 < s.panelFactor ∧ panel = ⌊u * s.panelFactor⌋ := by
  unfold Shop.panelInrCreatePrice at h
  dsimp only at h
  by_cases hfactor : s.panelFactor ≤ 1
  · simp [hfactor] at h
  · refine ⟨not_le.mp hfactor, ?_⟩
    grind

theorem pos_of_panelInrCreatePrice {panel : ℚ} (h : s.panelInrCreatePrice e u = some panel)
    (hpos : 0 < panel) : 0 < u := by
  obtain ⟨hfactor, rfl⟩ := panelInrCreatePrice_eq_some h
  have hone : (1 : ℤ) ≤ ⌊u * s.panelFactor⌋ := by exact_mod_cast hpos
  have hle := Int.le_floor.mp hone
  have hmul : 0 < u * s.panelFactor := by
    push_cast at hle
    linarith
  exact pos_of_mul_pos_left hmul (by linarith)

theorem pos_of_uplift_pos (h : 0 < s.uplift e u) : 0 < u := by
  unfold Shop.uplift at h
  cases hpanel : s.panelInrCreatePrice e u with
  | none => simpa [hpanel] using h
  | some panel =>
    simp only [hpanel] at h
    split_ifs at h with hpos
    · exact pos_of_panelInrCreatePrice hpanel hpos
    · exact h

/-- Where the check has an amount, the search results have one. -/
theorem createRaw_eq_listed (h : s.extractResellerPriceDetails e = some (u, currency))
    (hpos : 0 < u) : s.createRaw e = some (s.listed e u) := by
  unfold Shop.extractResellerPriceDetails at h
  by_cases hreseller : priceOf e.reseller = .null
  · by_cases hproduct : priceOf e.product = .null
    · have hlast : s.positiveNum e.premiumCreate = some u := by
        cases hpremium : e.premium with
        | none => grind
        | some price =>
          cases price with
          | scalar v => grind
          | object create =>
            by_cases hnull : create = .null
            · grind
            · simp [hreseller, hproduct, hpremium, hnull] at h
              simpa [CheckEntry.premiumCreate, hpremium] using positiveNum_of_pos h.1 hpos
      cases hblock : s.positiveNum e.create <;>
        simp [Shop.createRaw, Shop.listed, hreseller, hproduct, positiveNum_null, hblock, hlast]
    · have hfloat : s.setting.lang.float (priceOf e.product) = some u := by
        simp [hreseller, hproduct] at h
        exact h.1
      simp [Shop.createRaw, Shop.listed, hreseller, hproduct, positiveNum_null,
        positiveNum_of_pos hfloat hpos]
  · have hfloat : s.setting.lang.float (priceOf e.reseller) = some u := by
      simp [hreseller] at h
      exact h.1
    simp [Shop.createRaw, Shop.listed, hreseller, positiveNum_of_pos hfloat hpos]

section Yearly

variable (cache : Text → Option ℕ) (raw : ℚ) (ext : Text)

theorem cents_yearlyCreatePriceFromCheck : Cents (s.yearlyCreatePriceFromCheck cache raw ext) := by
  unfold Shop.yearlyCreatePriceFromCheck
  dsimp only
  split_ifs
  · exact ⟨0, by simp⟩
  · exact cents_round2 _
  · exact cents_round2 _

theorem yearlyCreatePriceFromCheck_nonneg : 0 ≤ s.yearlyCreatePriceFromCheck cache raw ext := by
  have hzero : Cents 0 := ⟨0, by simp⟩
  unfold Shop.yearlyCreatePriceFromCheck
  dsimp only
  split_ifs with hraw
  · exact le_refl 0
  · exact hzero.le_round2 (by linarith)
  · exact hzero.le_round2 (div_nonneg (by linarith) (Nat.cast_nonneg _))

end Yearly

/-! ## Rates that tell two amounts apart -/

/-- An amount in rupees: as it is, or the nearest whole rupee after a conversion. -/
def converted (rates : Text → {r : ℚ // 0 < r}) (y : ℚ) : Option Text → ℚ
  | none => y
  | some code => roundEven (y / rates code)

/-- The rates without any commission. -/
def noCommission (rates : Text → {r : ℚ // 0 < r}) : Market :=
  let free : ServiceRates := ⟨⟨0, zero_bounds⟩, fun _ => none⟩
  ⟨rates, ⟨free, free⟩⟩

theorem getRate_noCommission (isPremium : Bool) (tld : Text) :
    (getRate ((noCommission rates).commission.service isPremium) tld).val = 0 := by
  cases isPremium <;> cases tld <;> rfl

theorem cents_intCast (n : ℤ) : Cents n := ⟨n * 100, by push_cast; ring⟩

theorem customerUnitInr_noCommission (hcents : Cents y) (hle : 0 ≤ y) (isPremium : Bool)
    (tld : Text) :
    s.customerUnitInr (noCommission rates) y isPremium currency tld =
      converted rates y (s.foreign currency) := by
  have hprovider : providerUnitInr y ((s.foreign currency).map fun code => (rates code).val) =
      converted rates y (s.foreign currency) := by
    cases s.foreign currency with
    | none => simp [providerUnitInr, converted, hcents.round2]
    | some code =>
      rcases hle.eq_or_lt with rfl | hpos
      · simp [providerUnitInr, converted, hcents.round2, roundEven]
      · simp [providerUnitInr, converted, hpos]
  have hnonneg : 0 ≤ converted rates y (s.foreign currency) := by
    cases s.foreign currency with
    | none => exact hle
    | some code =>
      have hfloor : 0 ≤ ⌊y / (rates code).val⌋ :=
        Int.floor_nonneg.mpr (div_nonneg hle (rates code).property.le)
      exact Int.cast_nonneg (hfloor.trans floor_le_roundEven)
  have hconverted : Cents (converted rates y (s.foreign currency)) := by
    cases s.foreign currency with
    | none => exact hcents
    | some code => exact cents_intCast _
  have hmarkets : (noCommission rates).rates = rates := rfl
  unfold Shop.customerUnitInr calculateCustomerPrice
  dsimp only
  rw [hmarkets, hprovider]
  split_ifs with hpos
  · rw [applyMarkup, getRate_noCommission, add_zero, mul_one, hconverted.round2]
  · linarith

theorem exists_rate (hpos : 0 < y) (n : ℕ) :
    ∃ r : {r : ℚ // 0 < r}, (roundEven (y / r) : ℚ) = n + 1 := by
  refine ⟨⟨y / (n + 1), by positivity⟩, ?_⟩
  have hdiv : y / (y / (n + 1)) = ((n + 1 : ℤ) : ℚ) := by
    push_cast
    field_simp
  rw [hdiv, roundEven_intCast]
  push_cast
  ring

theorem exists_converted_ne (hpos : 0 < y') (code : Text) :
    ∃ rates, converted rates y none ≠ converted rates y' (some code) := by
  obtain ⟨r, hr⟩ := exists_rate hpos ⌊y⌋.toNat
  refine ⟨fun _ => r, fun heq => ?_⟩
  have hle : (⌊y⌋ : ℚ) ≤ ⌊y⌋.toNat := by exact_mod_cast Int.self_le_toNat _
  have hlt := Int.lt_floor_add_one y
  simp only [converted, hr] at heq
  linarith

/-- Under all rates the same in rupees: the same amount, of the same currency. -/
theorem eq_of_converted_eq (hcents : Cents y) (hcents' : Cents y') (hpos : 0 < y) (hle : 0 ≤ y')
    {c c' : Option Text} (h : ∀ rates, converted rates y c = converted rates y' c') :
    y = y' ∧ c = c' := by
  rcases hle.eq_or_lt with rfl | hpos'
  · -- nothing is nothing under every rate
    have hzero : ∀ rates, converted rates 0 c' = 0 := by
      intro rates
      cases c' <;> simp [converted, roundEven]
    cases c with
    | none => exact absurd ((h fun _ => ⟨1, one_pos⟩).trans (hzero _)) hpos.ne'
    | some code =>
      obtain ⟨r, hr⟩ := exists_rate hpos 0
      have heq := (h fun _ => r).trans (hzero _)
      simp [converted, hr] at heq
  · cases c with
    | none =>
      cases c' with
      | none => exact ⟨h fun _ => ⟨1, one_pos⟩, rfl⟩
      | some code =>
        obtain ⟨rates, hne⟩ := exists_converted_ne (y := y) hpos' code
        exact absurd (h rates) hne
    | some code =>
      cases c' with
      | none =>
        obtain ⟨rates, hne⟩ := exists_converted_ne (y := y') hpos code
        exact absurd (h rates).symm hne
      | some code' =>
        by_cases hcode : code = code'
        · subst hcode
          refine ⟨?_, rfl⟩
          -- a rate of a hundredth keeps every cent
          obtain ⟨n, rfl⟩ := hcents
          obtain ⟨n', rfl⟩ := hcents'
          have heq := h fun _ => ⟨1 / 100, by norm_num⟩
          have hcancel : ∀ k : ℤ, (k / 100 : ℚ) / (1 / 100) = k := fun k => by ring
          simp only [converted, hcancel, roundEven_intCast] at heq
          rw [heq]
        · obtain ⟨r, hr⟩ := exists_rate hpos 0
          obtain ⟨r', hr'⟩ := exists_rate hpos' 1
          have heq := h (Function.update (fun _ => r') code r)
          simp [converted, Function.update_of_ne (Ne.symm hcode), hr, hr'] at heq

/-- The customer's prices are the same under all rates and commissions just where the amounts and
the currencies are. -/
theorem customerUnitInr_separates (hcents : Cents y) (hcents' : Cents y') (hpos : 0 < y)
    (hle : 0 ≤ y') (isPremium : Bool) (tld : Text) :
    (∀ m, s.customerUnitInr m y isPremium currency tld =
        s.customerUnitInr m y' isPremium currency' tld) ↔
      y = y' ∧ s.foreign currency = s.foreign currency' := by
  constructor
  · intro h
    refine eq_of_converted_eq hcents hcents' hpos hle fun rates => ?_
    have heq := h (noCommission rates)
    rwa [customerUnitInr_noCommission hcents hpos.le, customerUnitInr_noCommission hcents' hle]
      at heq
  · rintro ⟨rfl, hforeign⟩ m
    simp only [Shop.customerUnitInr, hforeign]

/-! ## When the prices are the same -/

theorem checkOpenproviderDomain_eq_some {m : Market} {ext : Text} {p : ℚ} :
    s.checkOpenproviderDomain m e ext = some p ↔
      s.isFree e ∧ ∃ unit currency, s.extractResellerPriceDetails e = some (unit, currency) ∧
        0 < s.uplift e unit ∧
        p = s.customerUnitInr m
          (s.yearlyCreatePriceFromCheck (s.ensureTldMinPeriod ext) (s.uplift e unit) ext)
          e.isPremium.truthy currency ext := by
  unfold Shop.checkOpenproviderDomain Shop.extractCreatePriceDetails
  by_cases hfree : s.isFree e
  · cases hprice : s.extractResellerPriceDetails e with
    | none => simp [hfree]
    | some price =>
      obtain ⟨unit, currency⟩ := price
      by_cases hpos : s.uplift e unit ≤ 0
      · simp [hfree, hpos]
      · simp [hfree, hpos, not_le.mp hpos, eq_comm]
  · simp [hfree]

theorem samePrice_iff_registrationInr {label ext : Text} :
    SamePrice s e label ext ↔
      (e.ext ≠ [] → s.extLc e = ext →
        ∀ m p, s.checkOpenproviderDomain m e ext = some p → s.registrationInr m e = some p) := by
  by_cases hext : e.ext = []
  · simp [SamePrice, Shop.buildTldItems, hext]
  · simp only [SamePrice, Shop.buildTldItems, List.filterMap_cons, List.filterMap_nil, hext,
      if_false, List.mem_singleton, forall_eq, List.cons.injEq, true_and, ne_eq,
      not_false_eq_true, true_implies]
    exact ⟨fun h hlc m p hp => h m p hp hlc, fun h m p hp hlc => h hlc m p hp⟩

/-- The property where the check reads an amount. -/
theorem registrationInr_eq_check_iff {ext : Text}
    (hprice : s.extractResellerPriceDetails e = some (u, currency)) (hpos : 0 < s.uplift e u)
    (hext : s.extLc e = ext) :
    (∀ m, s.registrationInr m e =
        some (s.customerUnitInr m
          (s.yearlyCreatePriceFromCheck (s.ensureTldMinPeriod ext) (s.uplift e u) ext)
          e.isPremium.truthy currency ext)) ↔
      Agrees s e ext u currency := by
  have hraw := createRaw_eq_listed hprice (pos_of_uplift_pos hpos)
  have hcents := fun cache raw => cents_yearlyCreatePriceFromCheck (s := s) cache raw ext
  have hnonneg := fun cache raw => yearlyCreatePriceFromCheck_nonneg (s := s) cache raw ext
  simp only [Shop.registrationInr, hraw, hext]
  split_ifs with hlisted
  · simp only [Option.some.injEq]
    rw [customerUnitInr_separates (hcents _ _) (hcents _ _) hlisted (hnonneg _ _)]
    exact ⟨fun ⟨hamount, hforeign⟩ => ⟨hamount, hamount ▸ hlisted, hforeign⟩,
      fun h => ⟨h.amount, h.currency⟩⟩
  · constructor
    · intro h
      cases h (noCommission fun _ => ⟨1, one_pos⟩)
    · intro h
      exact absurd (h.amount ▸ h.pos) hlisted

/-- **The prices are the same under all rates and commissions just where `Agrees` holds.** -/
theorem samePrice_iff (s : Shop) (e : CheckEntry) (label ext : Text) :
    SamePrice s e label ext ↔
      (s.isFree e → e.ext ≠ [] → s.extLc e = ext →
        ∀ unit currency, s.extractResellerPriceDetails e = some (unit, currency) →
          0 < s.uplift e unit → Agrees s e ext unit currency) := by
  rw [samePrice_iff_registrationInr]
  constructor
  · intro h hfree hext hlc unit currency hprice hpos
    rw [← registrationInr_eq_check_iff hprice hpos hlc]
    intro m
    exact h hext hlc m _
      (checkOpenproviderDomain_eq_some.mpr ⟨hfree, unit, currency, hprice, hpos, rfl⟩)
  · intro h hext hlc m p hp
    obtain ⟨hfree, unit, currency, hprice, hpos, rfl⟩ := checkOpenproviderDomain_eq_some.mp hp
    exact (registrationInr_eq_check_iff hprice hpos hlc).mpr
      (h hfree hext hlc unit currency hprice hpos) m

/-! ## An extension of two years -/

/-- Nothing cached yet; the registrar registers `.ac` for two years at least. -/
def coldShop : Shop where
  setting := ⟨verbatim, (noCommission fun _ => ⟨1, one_pos⟩).commission, ⟨false, 0, false⟩⟩
  upper := id
  panelFactor := 1
  fallbackYears := fun _ => none
  cachedYears := fun _ => none
  liveYears := fun ext => if ext = "ac".toList then some 2 else none

/-- A free name at 1000 rupees for the least period. -/
def freeName : CheckEntry where
  domain := "a.ac".toList
  name := "a".toList
  extension := "ac".toList
  status := "free".toList
  isPremium := .bool false
  price := some ⟨some ⟨.num 1000, .text "INR".toList⟩, none, .null, .null⟩
  premium := none

theorem yearly_cold : coldShop.yearlyCreatePriceFromCheck coldShop.cachedYears 1000 "ac".toList =
    1000 := by
  have hyears : coldShop.tldMinRegistrationYears coldShop.cachedYears "ac".toList = 1 := by decide
  have hcents : Cents (1000 : ℚ) := cents_intCast 1000
  rw [Shop.yearlyCreatePriceFromCheck, hyears]
  norm_num [hcents.round2]

theorem yearly_warm :
    coldShop.yearlyCreatePriceFromCheck (coldShop.ensureTldMinPeriod "ac".toList) 1000
      "ac".toList = 500 := by
  have hyears : coldShop.tldMinRegistrationYears (coldShop.ensureTldMinPeriod "ac".toList)
      "ac".toList = 2 := by decide
  have hcents : Cents (500 : ℚ) := cents_intCast 500
  rw [Shop.yearlyCreatePriceFromCheck, hyears]
  norm_num [hcents.round2]

/-- **The results show a price twice that of the check.** -/
theorem unread_period_doubles : ¬ SamePrice coldShop freeName "a".toList "ac".toList := by
  rw [samePrice_iff_registrationInr]
  intro h
  have hprice : coldShop.extractResellerPriceDetails freeName = some (1000, some "INR".toList) := by
    rfl
  have huplift : coldShop.uplift freeName 1000 = 1000 := by rfl
  have hfree : coldShop.isFree freeName = true := by rfl
  have hext : coldShop.extLc freeName = "ac".toList := by rfl
  have hpos : 0 < coldShop.uplift freeName 1000 := by norm_num [huplift]
  have hagrees := (registrationInr_eq_check_iff hprice hpos hext).mp fun m =>
    h (by decide) hext m _ (checkOpenproviderDomain_eq_some.mpr ⟨hfree, _, _, hprice, hpos, rfl⟩)
  have hamount := hagrees.amount
  have hlisted : coldShop.listed freeName 1000 = 1000 := by rfl
  rw [hlisted, huplift, yearly_cold, yearly_warm] at hamount
  norm_num at hamount

end Deltapreneur.ListedPrice
