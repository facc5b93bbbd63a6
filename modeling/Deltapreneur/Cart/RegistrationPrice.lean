import Deltapreneur.Cart.Requote
import Mathlib.Algebra.Order.BigOperators.Group.List

/-!
# The price of a registration does not depend on the client's metadata

Whether two carts whose registrations differ only in keys other than `domainName` and `period`
are charged the same for every line: the customer price of the quote for that name and period,
which is also what the pending order records.

The price, the premium flag and the provider totals are written over by the revalidation. Two of
the client's keys survive. `tld` selects the commission of `_registration_customer_total`, and
without a `minPeriodYears` it selects the least period of the revalidation.

* `Line.honest`: a line without the other keys.
* `Independent`: the property, of two carts.
* `Line.Passes`: a line that the checkout does not refuse.
* `Line.Steady`: the client's `tld` and `minPeriodYears` lead to the same period as the name
  alone, and to a commission with the same outcome.

Results:

* `registrationPrice_iff`: exactly when the property holds.
* `foreign_tld_undercharges`: a `tld` of the client's choice lowers the charge.
-/

namespace Deltapreneur.RegistrationPrice

open Decimal

variable (s : Setting) {m : Meta}

/-! ## The property -/

/-- The keys that the customer is meant to choose. -/
def Meta.honest (m : Meta) : Meta
  | .domainName => m .domainName
  | .period => m .period
  | _ => none

/-- The line with the name and the period only. -/
def Line.honest (l : Line) : Line := { l with metadata := l.metadata.honest }

/-- The live quote for a line. -/
def Line.quoted (l : Line) : Option Quote := do
  let years ← l.periodYears s
  quoteRegistrationPeriodPrice s l.answers (l.domain s) years

/-- `minPeriodYears` is missing, or no more than the period. -/
def Line.Within (l : Line) : Prop :=
  ∀ v, l.metadata .minPeriodYears = some v → v.truthy →
    ∀ least, s.lang.int v = some least →
      ∃ period, s.lang.int (l.metadata.or .period (.num 0)) = some period ∧ least ≤ max 1 period

/-- A line is charged the quote for its name and period, and its order records that. -/
def AtQuote (l : Line) (paid : Charged) : Prop :=
  ∃ q, l.honest.quoted s = some q ∧ paid.total = round2 (q.price + l.extras / 100) ∧
    paid.order.breakdown = domainPriceBreakdown s.gst q.price ∧
    paid.order.periodYears = q.periodYears

/-- **Two carts that differ in the other keys only are charged the quotes for their names and
periods.** -/
def Independent (c d : Cart) : Prop :=
  c.lines.map Line.honest = d.lines.map Line.honest →
    (∀ l ∈ c.lines, l.Within s) → (∀ l ∈ d.lines, l.Within s) →
      ∀ r r', createCheckoutOrder s c = some r → createCheckoutOrder s d = some r' →
        r.lines.map (fun p => (p.total, p.order.breakdown, p.order.periodYears)) =
            r'.lines.map (fun p => (p.total, p.order.breakdown, p.order.periodYears)) ∧
          List.Forall₂ (AtQuote s) c.lines r.lines ∧ List.Forall₂ (AtQuote s) d.lines r'.lines

/-! ## The condition -/

/-- The checkout does not refuse the line: its name is free and no aftermarket's, the registrar
quotes a price for it, and it is no managed acquisition. -/
structure Line.Passes (l : Line) : Prop where
  available : l.answers.available (l.domain s)
  aftermarket : l.aftermarket s = false
  quoted : ∃ q, l.quoted s = some q ∧ 0 < q.price ∧ ¬ isManagedAcquisitionPayable s q.price
  ordinary : l.metadata.isTrue .isManagedAcquisition = false

/-- The years that the registrar is asked a price for. -/
def Line.quotedYears (l : Line) : Option ℤ :=
  (l.periodYears s).map fun years =>
    l.answers.resolvePeriod (max 1 years) (extensionOf (l.domain s))

/-- The client's `tld` and `minPeriodYears` change neither the years nor the commission. -/
structure Line.Steady (l : Line) : Prop where
  years : l.quotedYears s = l.honest.quotedYears s
  commission : ∀ q, l.quoted s = some q →
    applyMarkup q.registrarTotal
      (getRate (s.commission.service q.isPremium) (s.lang.lower (l.tld s))) = q.price

/-! ## The quote of a line -/

variable {s} {l : Line} {q : Quote}

theorem Line.domain_canonical (l : Line) :
    s.lang.strip (s.lang.lower (l.domain s)) = l.domain s := s.lang.strip_lower _

@[simp] theorem lstripDots_lstripDots (t : Text) : lstripDots (lstripDots t) = lstripDots t :=
  List.dropWhile_idempotent _ t

@[simp] theorem lstripDots_tld (l : Line) : lstripDots (l.tld s) = l.tld s :=
  lstripDots_lstripDots _

theorem cents_providerUnitInr (raw : ℚ) (exchange : Option ℚ) :
    Cents (providerUnitInr raw exchange) := by
  unfold providerUnitInr
  cases exchange with
  | none => exact cents_round2 raw
  | some rate =>
    dsimp only
    split_ifs
    · exact ⟨roundEven (raw / rate) * 100, by push_cast; ring⟩
    · exact cents_round2 raw

/-- A price above zero is the commission on a provider's total above zero. -/
structure Selling.Marked (p : Selling) (c : Commission) (tld : Text) : Prop where
  pos : 0 < p.provider
  cents : Cents p.provider
  selling : p.selling = applyMarkup p.provider (getRate (c.service p.isPremium) tld)

theorem calculateCustomerPrice_marked {raw : ℚ} {isPremium : Bool} {exchange : Option ℚ}
    {tld : Text} (hpos : 0 < (calculateCustomerPrice s raw isPremium exchange tld).selling) :
    (calculateCustomerPrice s raw isPremium exchange tld).Marked s.commission tld := by
  have hcents := cents_providerUnitInr raw exchange
  unfold calculateCustomerPrice at hpos ⊢
  dsimp only at hpos ⊢
  split_ifs at hpos ⊢ with h
  · exact ⟨h, hcents, rfl⟩
  · exact absurd hpos (lt_irrefl 0)

theorem sellingForPeriod_marked {a : Answers} {name ext : Text} {years : ℤ} {p : Selling}
    (hp : sellingForPeriod s a name ext years = some p) (hpos : 0 < p.selling) :
    p.Marked s.commission ext := by
  unfold sellingForPeriod at hp
  split_ifs at hp with hdemo
  · cases hp
    exact calculateCustomerPrice_marked hpos
  · obtain ⟨quote, -, hp⟩ := Option.bind_eq_some_iff.mp hp
    dsimp only at hp
    split_ifs at hp with hraw
    cases hp
    exact calculateCustomerPrice_marked hpos

theorem Line.quoted_eq (l : Line) : l.quoted s =
    (l.quotedYears s).bind fun period =>
      if '.' ∉ l.domain s then none else quoteResolved s l.answers (l.domain s) period := by
  unfold Line.quoted Line.quotedYears quoteRegistrationPeriodPrice
  simp only [l.domain_canonical]
  cases l.periodYears s <;> rfl

theorem Line.quoted_honest (h : l.quotedYears s = l.honest.quotedYears s) :
    l.quoted s = l.honest.quoted s := by
  rw [l.quoted_eq, l.honest.quoted_eq, h]
  rfl

theorem Line.quoted_dot (hq : l.quoted s = some q) : '.' ∈ l.domain s := by
  rw [l.quoted_eq] at hq
  obtain ⟨period, -, hq⟩ := Option.bind_eq_some_iff.mp hq
  by_contra hdot
  simp [hdot] at hq

theorem quoteResolved_spec {a : Answers} {domain : Text} {period : ℤ}
    (hq : quoteResolved s a domain period = some q) :
    q.periodYears = period ∧ (0 < q.price →
      (Selling.mk q.price q.registrarTotal q.isPremium).Marked s.commission
        (extensionOf domain)) := by
  obtain ⟨quote, hquote, hq⟩ := Option.bind_eq_some_iff.mp hq
  obtain ⟨perYear, -, hq⟩ := Option.bind_eq_some_iff.mp hq
  cases hq
  exact ⟨rfl, sellingForPeriod_marked hquote⟩

theorem Line.quoted_spec (hq : l.quoted s = some q) :
    l.quotedYears s = some q.periodYears ∧ (0 < q.price →
      (Selling.mk q.price q.registrarTotal q.isPremium).Marked s.commission
        (extensionOf (l.domain s))) := by
  have hdot := l.quoted_dot hq
  rw [l.quoted_eq] at hq
  obtain ⟨period, hperiod, hq⟩ := Option.bind_eq_some_iff.mp hq
  rw [if_neg (not_not.mpr hdot)] at hq
  obtain ⟨hyears, hmarked⟩ := quoteResolved_spec hq
  exact ⟨by rw [hperiod, hyears], hmarked⟩

theorem Line.one_le_periodYears (hq : l.quoted s = some q) : 1 ≤ q.periodYears := by
  obtain ⟨hyears, -⟩ := l.quoted_spec hq
  obtain ⟨years, -, heq⟩ := Option.map_eq_some_iff.mp hyears
  exact heq ▸ le_max_of_le_left (le_max_left 1 _)

/-! ## What becomes of a line -/

/-- What is charged for a line and recorded in its order, from its quote. -/
def Line.charged (s : Setting) (l : Line) (q : Quote) : Charged where
  total := round2 (applyMarkup q.registrarTotal
    (getRate (s.commission.service q.isPremium) (s.lang.lower (l.tld s))) + l.extras / 100)
  order := {
    domainName := nameOf (l.domain s)
    domainExtension := '.' :: extensionOf (l.domain s)
    periodYears := q.periodYears
    breakdown := domainPriceBreakdown s.gst q.price
    quotedUnitPriceInr :=
      if q.pricePerYear ≤ 0 then round2 (q.price / q.periodYears) else q.pricePerYear
    isPremium := q.isPremium
    registryTier := tierOf q.isPremium
    providerUnitPriceInr := some q.providerUnitPriceInr }

theorem Meta.float_num {k : Key} {x : ℚ} (h : m k = some (.num x)) : m.float s.lang k = some x := by
  by_cases hx : x = 0 <;> simp [Meta.float, Meta.or, h, Value.truthy, Language.float, hx]

theorem Meta.or_num {k : Key} {x : ℚ} {d : Value} (h : m k = some (.num x)) (hx : x ≠ 0) :
    m.or k d = .num x := by
  simp [Meta.or, h, Value.truthy, hx]

theorem Meta.str_text {k : Key} {t : Text} (h : m k = some (.text t)) :
    s.lang.str (m.or k (.text [])) = t := by
  by_cases ht : t = [] <;> simp [Meta.or, h, Value.truthy, Language.str, ht]

theorem tierOf_eq_premium (isPremium : Bool) :
    (isPremium || s.lang.lower (s.lang.strip (tierOf isPremium)) = "premium".toList) = isPremium := by
  cases isPremium with
  | false =>
    simp only [tierOf, Bool.false_eq_true, if_false, s.lang.lower_standard]
    decide
  | true => rfl

theorem managed_quoted :
    isOpenproviderManagedRegistration s (quotedMeta s l q) ↔
      l.metadata.isTrue .isManagedAcquisition = true ∨ isManagedAcquisitionPayable s q.price := by
  have hprice : (quotedMeta s l q).float s.lang .price = some q.price := Meta.float_num rfl
  rw [isOpenproviderManagedRegistration, hprice]
  rfl

theorem managed_aftermarket {minYears : ℤ} :
    isOpenproviderManagedRegistration s (aftermarketMeta s l minYears) := Or.inl rfl

theorem Line.quotedYears_of_quoted (hq : l.quoted s = some q) :
    ∃ minYears years, l.minYears s = some minYears ∧ l.periodYears s = some years := by
  obtain ⟨years, hyears, -⟩ := Option.bind_eq_some_iff.mp hq
  obtain ⟨minYears, hmin, -⟩ := Option.bind_eq_some_iff.mp hyears
  exact ⟨minYears, years, hmin, hyears⟩

theorem revalidate_of_quoted (hq : l.quoted s = some q) (hfree : l.answers.available (l.domain s))
    (hmarket : l.aftermarket s = false) (hpos : 0 < q.price) :
    revalidate s l = some (quotedMeta s l q) := by
  obtain ⟨minYears, years, hmin, hyears⟩ := l.quotedYears_of_quoted hq
  have hquote : quoteRegistrationPeriodPrice s l.answers (l.domain s) years = some q := by
    rwa [Line.quoted, hyears] at hq
  have hdot := l.quoted_dot hq
  simp [revalidate, hdot, hmin, hyears, hfree, hmarket, hquote, not_le.mpr hpos]

/-- **A line that gets past the revalidation and is no managed acquisition** has passed, and its
metadata are refreshed from its quote. -/
theorem quoted_of_revalidate (hm : revalidate s l = some m)
    (hmanaged : ¬ isOpenproviderManagedRegistration s m) :
    l.Passes s ∧ ∃ q, l.quoted s = some q ∧ 0 < q.price ∧ m = quotedMeta s l q := by
  by_cases hdot : '.' ∉ l.domain s
  · rw [revalidate, if_pos hdot] at hm
    cases hm
  rw [revalidate, if_neg hdot] at hm
  obtain ⟨minYears, -, hm⟩ := Option.bind_eq_some_iff.mp hm
  obtain ⟨years, hyears, hm⟩ := Option.bind_eq_some_iff.mp hm
  split_ifs at hm with hfree hmarket hunit
  · cases hm
    exact absurd managed_aftermarket hmanaged
  · obtain ⟨quote, hquote, hm⟩ := Option.bind_eq_some_iff.mp hm
    split_ifs at hm with hprice
    cases hm
    have hq : l.quoted s = some quote := by rw [Line.quoted, hyears]; exact hquote
    rw [managed_quoted, not_or] at hmanaged
    have hpos := not_le.mp hprice
    exact ⟨⟨hfree, Bool.eq_false_iff.mpr hmarket, ⟨quote, hq, hpos, hmanaged.2⟩,
      Bool.eq_false_iff.mpr hmanaged.1⟩, quote, hq, hpos, rfl⟩

theorem registrationProviderTotal_quoted (hflag : l.metadata.isTrue .isManagedAcquisition = false)
    (hpos : 0 < q.registrarTotal) (hcents : Cents q.registrarTotal) :
    registrationProviderTotal s (quotedMeta s l q) = some q.registrarTotal := by
  have htotal : (quotedMeta s l q).float s.lang .providerPeriodTotalInr = some q.registrarTotal :=
    Meta.float_num rfl
  have hmanaged : (quotedMeta s l q).isTrue .isManagedAcquisition = false := hflag
  simp [registrationProviderTotal, hmanaged, htotal, hpos, hcents.round2]

theorem registrationCustomerTotal_quoted (hflag : l.metadata.isTrue .isManagedAcquisition = false)
    (hpos : 0 < q.registrarTotal) (hcents : Cents q.registrarTotal) :
    registrationCustomerTotal s (quotedMeta s l q) = some (applyMarkup q.registrarTotal
      (getRate (s.commission.service q.isPremium) (s.lang.lower (l.tld s)))) := by
  have htld : s.lang.str ((quotedMeta s l q).or .tld (.text [])) = l.tld s := Meta.str_text rfl
  have htier : s.lang.str ((quotedMeta s l q).or .registryTier (.text [])) = tierOf q.isPremium :=
    Meta.str_text rfl
  have hpremium : (quotedMeta s l q).isTrue .isPremium = q.isPremium := by
    cases h : q.isPremium <;> simp [Meta.isTrue, quotedMeta, h]
  rw [registrationCustomerTotal, registrationProviderTotal_quoted hflag hpos hcents]
  simp only [Option.bind_eq_bind, Option.bind_some, not_le.mpr hpos, if_false, htld, htier,
    hpremium, tierOf_eq_premium, lstripDots_tld]

theorem applyMarkup_pos {total : ℚ} (hpos : 0 < total) (hcents : Cents total) (rate : Rate) :
    0 < applyMarkup total rate := by
  refine hpos.trans_le (hcents.le_round2 ?_)
  have hrate := rate.2.1
  nlinarith

/-- **The charge of a line**: the commission by the `tld` that the client sent. -/
theorem resolveLineTotal_quoted (hflag : l.metadata.isTrue .isManagedAcquisition = false)
    (hpos : 0 < q.registrarTotal) (hcents : Cents q.registrarTotal) :
    resolveLineTotal s (quotedMeta s l q) l.extras = some (l.charged s q).total := by
  have hne := (applyMarkup_pos hpos hcents (getRate (s.commission.service q.isPremium)
    (s.lang.lower (l.tld s)))).ne'
  rw [resolveLineTotal, registrationCustomerTotal_quoted hflag hpos hcents]
  simp [hne, Line.charged]

/-- The keys that the pending order is made from. -/
structure Refreshed (s : Setting) (l : Line) (q : Quote) (m : Meta) : Prop where
  domainName : m .domainName = some (.text (l.domain s))
  years : m .checkoutPeriodYears = some (.num q.periodYears)
  price : m .price = some (.num q.price)
  pricePerYear : m .pricePerYear = some (.num q.pricePerYear)
  isPremium : m .isPremium = some (.bool q.isPremium)
  registryTier : m .registryTier = some (.text (tierOf q.isPremium))
  providerUnit : m .providerUnitPriceInr = some (.num q.providerUnitPriceInr)

theorem int_intCast (n : ℤ) : s.lang.int (.num n) = some n := by
  rw [Language.int, truncate_intCast]

theorem Refreshed.createPendingOrder (h : Refreshed s l q m) (hdot : '.' ∈ l.domain s)
    (hone : 1 ≤ q.periodYears) (hpos : 0 < q.price) :
    createPendingOrder s m = some (l.charged s q).order := by
  have hdomain : s.lang.strip (s.lang.lower (s.lang.str (m.or .domainName (.text [])))) =
      l.domain s := by
    rw [Meta.str_text h.domainName, l.domain_canonical]
  have hperiod : ∀ d, s.lang.int (m.or .checkoutPeriodYears d) = some q.periodYears := by
    intro d
    rw [Meta.or_num h.years (by exact_mod_cast (by omega : q.periodYears ≠ 0)), int_intCast]
  have htier : ∀ d, s.lang.str (m.or .registryTier (.text d)) = tierOf q.isPremium := by
    intro d
    have hne : tierOf q.isPremium ≠ [] := by cases q.isPremium <;> decide
    simp [Meta.or, h.registryTier, Value.truthy, hne, Language.str]
  have hmax : max (1 : ℚ) q.periodYears = q.periodYears := max_eq_right (by exact_mod_cast hone)
  unfold RegistrationPrice.createPendingOrder
  rw [hdomain, if_neg (not_not.mpr hdot), hperiod, Meta.float_num h.price,
    Meta.float_num h.pricePerYear, h.providerUnit, h.isPremium]
  simp [not_le.mpr hpos, max_eq_right hone, hmax, Language.float, Value.truthy, Line.charged,
    htier]

/-- **The order of a line** records the quote. -/
theorem pendingOrder_quoted (hq : l.quoted s = some q) (hpos : 0 < q.price) :
    pendingOrder s (quotedMeta s l q) = some (l.charged s q).order := by
  have hone := l.one_le_periodYears hq
  have hyears : s.lang.int ((quotedMeta s l q).or .period (.num 1)) = some q.periodYears := by
    rw [Meta.or_num (x := q.periodYears) rfl (by exact_mod_cast (by omega : q.periodYears ≠ 0)),
      int_intCast]
  have hrefreshed : Refreshed s l q
      ((quotedMeta s l q).set .checkoutPeriodYears (.num q.periodYears)) :=
    ⟨rfl, rfl, rfl, rfl, rfl, rfl, rfl⟩
  rw [pendingOrder, hyears, Option.bind_eq_bind, Option.bind_some, max_eq_right hone]
  exact hrefreshed.createPendingOrder (l.quoted_dot hq) hone hpos

/-! ## What becomes of a cart -/

theorem mapM_eq_map {α β : Type} {f : α → Option β} {g : α → β} {xs : List α}
    (h : ∀ x ∈ xs, f x = some (g x)) : xs.mapM f = some (xs.map g) := by
  induction xs with
  | nil => rfl
  | cons x xs ih =>
    rw [List.forall_mem_cons] at h
    simp [List.mapM_cons, h.1, ih h.2]

theorem of_mapM {α β : Type} {f : α → Option β} {xs : List α} {ys : List β}
    (h : xs.mapM f = some ys) : ∀ x ∈ xs, ∃ y ∈ ys, f x = some y := by
  induction xs generalizing ys with
  | nil => exact fun _ hx => absurd hx List.not_mem_nil
  | cons x xs ih =>
    rw [List.mapM_cons] at h
    obtain ⟨y, hy, h⟩ := Option.bind_eq_some_iff.mp h
    obtain ⟨rest, hrest, h⟩ := Option.bind_eq_some_iff.mp h
    cases h
    refine List.forall_mem_cons.mpr ⟨⟨y, List.mem_cons_self, hy⟩, fun x hx => ?_⟩
    obtain ⟨y', hy', hx⟩ := ih hrest x hx
    exact ⟨y', List.mem_cons_of_mem y hy', hx⟩

def Line.quote (s : Setting) (l : Line) : Quote := (l.quoted s).getD default

theorem Line.quote_eq (h : l.quoted s = some q) : l.quote s = q := by rw [Line.quote, h]; rfl

theorem Line.Passes.quote (h : l.Passes s) :
    l.quoted s = some (l.quote s) ∧ 0 < (l.quote s).price ∧
      ¬ isManagedAcquisitionPayable s (l.quote s).price := by
  obtain ⟨q, hq, hpos, hpayable⟩ := h.quoted
  rw [Line.quote_eq hq]
  exact ⟨hq, hpos, hpayable⟩

theorem Line.Passes.marked (h : l.Passes s) :
    (Selling.mk (l.quote s).price (l.quote s).registrarTotal (l.quote s).isPremium).Marked
      s.commission (extensionOf (l.domain s)) :=
  (l.quoted_spec h.quote.1).2 h.quote.2.1

theorem Line.Passes.total_pos (h : l.Passes s) : 0 < (l.charged s (l.quote s)).total := by
  have hmarked := h.marked
  have hpos := applyMarkup_pos hmarked.pos hmarked.cents
    (getRate (s.commission.service (l.quote s).isPremium) (s.lang.lower (l.tld s)))
  refine hpos.trans_le (Cents.le_round2 (cents_round2 _) ?_)
  have hextras : (0 : ℚ) ≤ l.extras / 100 := by positivity
  rw [applyMarkup] at *
  linarith

variable {c d : Cart} {r r' : Receipt}

/-- What a checkout charges and records for the lines of a cart. -/
def Cart.charged (s : Setting) (c : Cart) : List Charged :=
  c.lines.map fun l => l.charged s (l.quote s)

theorem revalidate_passes (h : l.Passes s) :
    revalidate s l = some (quotedMeta s l (l.quote s)) :=
  revalidate_of_quoted h.quote.1 h.available h.aftermarket h.quote.2.1

theorem resolveLineTotal_passes (h : l.Passes s) :
    resolveLineTotal s (quotedMeta s l (l.quote s)) l.extras =
      some (l.charged s (l.quote s)).total :=
  resolveLineTotal_quoted h.ordinary h.marked.pos h.marked.cents

/-- The checkout of a cart whose lines pass. -/
theorem checkout_eq (h : ∀ l ∈ c.lines, l.Passes s) :
    createCheckoutOrder s c =
      let total := ((c.charged s).map Charged.total).sum + c.others.sum / 100
      if total ≤ 0 then none
      else some ⟨(domainPriceBreakdown s.gst total).totalInr, c.charged s⟩ := by
  have hmetas : c.lines.mapM (revalidate s) =
      some (c.lines.map fun l => quotedMeta s l (l.quote s)) :=
    mapM_eq_map fun l hl => revalidate_passes (h l hl)
  have hordinary : ¬ ∃ m ∈ c.lines.map fun l => quotedMeta s l (l.quote s),
      isOpenproviderManagedRegistration s m := by
    rintro ⟨m, hm, hmanaged⟩
    obtain ⟨l, hl, rfl⟩ := List.mem_map.mp hm
    rcases managed_quoted.mp hmanaged with hflag | hpayable
    · rw [(h l hl).ordinary] at hflag
      cases hflag
    · exact (h l hl).quote.2.2 hpayable
  have htotals : ((c.lines.map fun l => quotedMeta s l (l.quote s)).zip c.lines).mapM
      (fun p => resolveLineTotal s p.1 p.2.extras) = some ((c.charged s).map Charged.total) := by
    rw [List.zip_eq_zipWith, List.zipWith_map_left, List.zipWith_self, List.mapM_map, Cart.charged,
      List.map_map]
    exact mapM_eq_map fun l hl => resolveLineTotal_passes (h l hl)
  have horders : (c.lines.map fun l => quotedMeta s l (l.quote s)).mapM (pendingOrder s) =
      some ((c.charged s).map Charged.order) := by
    rw [List.mapM_map, Cart.charged, List.map_map]
    exact mapM_eq_map fun l hl => pendingOrder_quoted (h l hl).quote.1 (h l hl).quote.2.1
  have hzip : List.zipWith Charged.mk ((c.charged s).map Charged.total)
      ((c.charged s).map Charged.order) = c.charged s := by
    rw [List.zipWith_map, List.zipWith_self]
    exact List.map_id _
  rw [createCheckoutOrder, hmetas, Option.bind_eq_bind, Option.bind_some, if_neg hordinary]
  simp only [Option.bind_eq_bind, htotals, horders, Option.bind_some, hzip]

/-- **A checkout that goes through** has quoted every line, and charges and records what follows
from the quotes. -/
theorem checkout_lines (hr : createCheckoutOrder s c = some r) :
    (∀ l ∈ c.lines, l.Passes s) ∧ r.lines = c.charged s := by
  have hpasses : ∀ l ∈ c.lines, l.Passes s := by
    obtain ⟨metas, hmetas, hr⟩ := Option.bind_eq_some_iff.mp hr
    split_ifs at hr with hmanaged
    intro l hl
    obtain ⟨m, hm, hrevalidate⟩ := of_mapM hmetas l hl
    exact (quoted_of_revalidate hrevalidate fun h => hmanaged ⟨m, hm, h⟩).1
  rw [checkout_eq hpasses] at hr
  dsimp only at hr
  split_ifs at hr
  cases hr
  exact ⟨hpasses, rfl⟩

theorem checkout_of_passes (h : ∀ l ∈ c.lines, l.Passes s) (hne : c.lines ≠ []) :
    ∃ r, createCheckoutOrder s c = some r := by
  have hpos : 0 < ((c.charged s).map Charged.total).sum := by
    refine List.sum_pos _ (fun x hx => ?_) (by simpa [Cart.charged] using hne)
    obtain ⟨l, hl, rfl⟩ : ∃ l ∈ c.lines, (l.charged s (l.quote s)).total = x := by
      simpa [Cart.charged] using hx
    exact (h l hl).total_pos
  have hothers : (0 : ℚ) ≤ c.others.sum / 100 := by positivity
  rw [checkout_eq h]
  exact ⟨_, if_neg (not_le.mpr (by linarith))⟩

/-! ## When the property holds -/

/-- A line that passes is charged and recorded at the quote for its name and period exactly when
it is steady. -/
theorem atQuote_iff (h : l.Passes s) :
    AtQuote s l (l.charged s (l.quote s)) ↔ l.Steady s := by
  have hquoted := h.quote.1
  have hmarked := h.marked
  have hyears := (l.quoted_spec hquoted).1
  have hextras : Cents ((l.extras : ℚ) / 100) := cents_div l.extras
  constructor
  · rintro ⟨q, hq, htotal, -, hperiod⟩
    have hsame : l.quotedYears s = l.honest.quotedYears s := by
      rw [hyears, (l.honest.quoted_spec hq).1, ← hperiod]
      rfl
    have heq : l.quote s = q := l.quote_eq (l.quoted_honest hsame ▸ hq)
    refine ⟨hsame, fun q' hq' => ?_⟩
    cases hq'.symm.trans hquoted
    have hprice : Cents (l.quote s).price := by
      rw [show (l.quote s).price = applyMarkup _ _ from hmarked.selling]
      exact cents_round2 _
    have hmarkup : Cents (applyMarkup (l.quote s).registrarTotal
        (getRate (s.commission.service (l.quote s).isPremium) (s.lang.lower (l.tld s)))) :=
      cents_round2 _
    dsimp only [Line.charged] at htotal
    rw [← heq, (hmarkup.add hextras).round2, (hprice.add hextras).round2] at htotal
    exact add_right_cancel htotal
  · rintro ⟨hsame, hcommission⟩
    refine ⟨l.quote s, l.quoted_honest hsame ▸ hquoted, ?_, rfl, rfl⟩
    rw [← hcommission _ hquoted]
    rfl

theorem forall₂_atQuote_iff (h : ∀ l ∈ c.lines, l.Passes s) :
    List.Forall₂ (AtQuote s) c.lines (c.charged s) ↔ ∀ l ∈ c.lines, l.Steady s := by
  rw [Cart.charged, List.forall₂_map_right_iff, List.forall₂_same]
  exact forall₂_congr fun l hl => atQuote_iff (h l hl)

/-- The quote of a line, charged and recorded as it is. -/
def Line.fair (s : Setting) (l : Line) : Charged where
  total := round2 ((l.quote s).price + l.extras / 100)
  order := (l.charged s (l.quote s)).order

theorem Line.Steady.charged (hsteady : l.Steady s) (h : l.Passes s) :
    l.charged s (l.quote s) = l.honest.fair s := by
  have hquote : l.quote s = l.honest.quote s := by
    rw [Line.quote, Line.quote, l.quoted_honest hsteady.years]
  rw [Line.fair, ← hquote, Line.charged, hsteady.commission _ h.quote.1]
  rfl

theorem Cart.charged_steady (hsteady : ∀ l ∈ c.lines, l.Steady s) (h : ∀ l ∈ c.lines, l.Passes s) :
    c.charged s = (c.lines.map Line.honest).map (Line.fair s) := by
  rw [Cart.charged, List.map_map]
  exact List.map_congr_left fun l hl => (hsteady l hl).charged (h l hl)

/-- **When the client's other keys do not matter.** Two carts that differ in them only are charged
and recorded at the quotes for their names and periods exactly when, should both go through, no
line's `tld` or `minPeriodYears` changes the years that are quoted, or the commission on them. -/
theorem registrationPrice_iff (s : Setting) (c d : Cart) :
    Independent s c d ↔
      (c.lines.map Line.honest = d.lines.map Line.honest →
        (∀ l ∈ c.lines, l.Within s) → (∀ l ∈ d.lines, l.Within s) →
          (∀ l ∈ c.lines, l.Passes s) → (∀ l ∈ d.lines, l.Passes s) →
            (∀ l ∈ c.lines, l.Steady s) ∧ ∀ l ∈ d.lines, l.Steady s) := by
  constructor
  · intro h halike hwc hwd hc hd
    by_cases hne : c.lines = []
    · have hempty : d.lines = [] := by simpa [hne, eq_comm] using halike
      simp [hne, hempty]
    · have hne' : d.lines ≠ [] := by
        rintro hempty
        exact hne (by simpa [hempty] using halike)
      obtain ⟨r, hr⟩ := checkout_of_passes hc hne
      obtain ⟨r', hr'⟩ := checkout_of_passes hd hne'
      obtain ⟨-, hcq, hdq⟩ := h halike hwc hwd r r' hr hr'
      rw [(checkout_lines hr).2, forall₂_atQuote_iff hc] at hcq
      rw [(checkout_lines hr').2, forall₂_atQuote_iff hd] at hdq
      exact ⟨hcq, hdq⟩
  · intro h halike hwc hwd r r' hr hr'
    obtain ⟨hc, hlines⟩ := checkout_lines hr
    obtain ⟨hd, hlines'⟩ := checkout_lines hr'
    obtain ⟨hcs, hds⟩ := h halike hwc hwd hc hd
    rw [hlines, hlines', forall₂_atQuote_iff hc, forall₂_atQuote_iff hd]
    refine ⟨?_, hcs, hds⟩
    rw [Cart.charged_steady hcs hc, Cart.charged_steady hds hd, halike]

/-! ## A run -/

section Run

/-- The texts as they are. -/
def verbatim : Language where
  lower := id
  strip := id
  parseInt := fun _ => none
  parseFloat := fun _ => none
  shown := fun _ => []
  strip_lower := fun _ => rfl
  lower_standard := rfl

/-- Commission of 3 %, and of 10 % on `.com`; no tax. -/
def shop : Setting where
  lang := verbatim
  commission := {
    registration := {
      default := ⟨3 / 100, threePercent_bounds⟩
      byTld := fun tld =>
        if tld = ".com".toList then some ⟨10 / 100, by norm_num, by norm_num⟩ else none }
    premiumRegistration := { default := ⟨3 / 100, threePercent_bounds⟩, byTld := fun _ => none } }
  gst := { enabled := false, rate := 0, inclusive := false }

/-- The registrar asks for 100 rupees a year. -/
def registrar : Answers where
  available := fun _ => true
  unitPrice := fun _ => 0
  tldMinYears := fun _ => 1
  warmMinYears := fun _ => 1
  demo := false
  getCreatePrice := fun _ _ years => some ⟨100 * years, none, false⟩

/-- One registration of `a.com` for a year. -/
def plainCart : Cart where
  lines := [{
    metadata := fun
      | .domainName => some (.text "a.com".toList)
      | .period => some (.num 1)
      | _ => none
    extras := 0
    answers := registrar }]
  others := []

/-- The same with a `tld` that the commission has no entry for. -/
def foreignCart : Cart where
  lines := [{
    metadata := fun
      | .domainName => some (.text "a.com".toList)
      | .period => some (.num 1)
      | .tld => some (.text "zz".toList)
      | _ => none
    extras := 0
    answers := registrar }]
  others := []

/-- **A `tld` of the client's choice**: the same registration is charged 103 rupees in place of
110, and its order records 110. -/
theorem foreign_tld_undercharges : ¬ ∀ s c d, Independent s c d := by
  intro h
  have hplain : (createCheckoutOrder shop plainCart).map (fun r => r.lines.map Charged.total) =
      some [110] := by decide +kernel
  have hforeign : (createCheckoutOrder shop foreignCart).map (fun r => r.lines.map Charged.total) =
      some [103] := by decide +kernel
  obtain ⟨r, hr, hr110⟩ := Option.map_eq_some_iff.mp hplain
  obtain ⟨r', hr', hr103⟩ := Option.map_eq_some_iff.mp hforeign
  have halike : plainCart.lines.map Line.honest = foreignCart.lines.map Line.honest := by
    simp only [plainCart, foreignCart, List.map_cons, List.map_nil, Line.honest]
    congr 2
  have hwithin : ∀ l ∈ plainCart.lines ++ foreignCart.lines, l.Within shop := by
    simp [plainCart, foreignCart, Line.Within]
  rw [List.forall_mem_append] at hwithin
  have hsame := congrArg (List.map Prod.fst) (h shop plainCart foreignCart halike hwithin.1
    hwithin.2 r r' hr hr').1
  rw [List.map_map, List.map_map] at hsame
  have htotals : r.lines.map Charged.total = r'.lines.map Charged.total := hsame
  rw [hr110, hr103] at htotals
  exact absurd htotals (by decide +kernel)

end Run

end Deltapreneur.RegistrationPrice
