import Deltapreneur.Core
import Deltapreneur.Lib.Decimal
import Deltapreneur.Lib.Trim

/-!
# What the checkout re-quotes for a registration

Model of what `create_checkout_order` charges for the registrations of a cart:
`_revalidate_domain_registration_items`, `_resolve_line_total`,
`_create_pending_domain_registration_order` (`cart_checkout_service.py:772-1025, 1730-1878,
1921-2199`), `_registration_provider_total`, `_registration_customer_total`
(`cart_service.py:70-118`), `quote_registration_period_price`
(`domain_registration_service.py:1808-1928`), `domain_commission_config.py` and
`managed_acquisition_pricing.py`.

* `metadata_json` is a dict from keys to JSON values (`Meta`); a client sets every key to any
  value. Numbers are rationals of rupees, so float arithmetic is exact here up to `round`.
* `Language` holds the methods of `str` and the parsers of `int` and `float`, which are any
  functions with the two facts that the code relies on.
* `Answers` is what the registrar and its cached minimum periods say while a line is handled.
  The cache changes between the lines of a cart, so every line brings its own.
* A refusal is `none`: the entries of the failure list, the exceptions and their texts all end
  the checkout before anything is charged.
* Left out: the registrant's details, edge points, other currencies, the gateway's failures and
  the keys that are written and never read (`priceSource`, `commissionRate`,
  `providerCurrency`).
-/

namespace Deltapreneur.RegistrationPrice

open Decimal

/-! ## Metadata -/

abbrev Text := List Char

/-- A JSON value. `other` is a list or an object. -/
inductive Value
  | null
  | bool (b : Bool)
  | num (q : ℚ)
  | text (s : Text)
  | other (nonempty : Bool)
  deriving DecidableEq

/-- A key of `metadata_json`. -/
inductive Key
  | domainName | tld | period | minPeriodYears | price | pricePerYear | isPremium | registryTier
  | premiumProvider | isManagedAcquisition | providerPeriodTotalInr | providerUnitPriceInr
  | checkoutPeriodYears
  | unknown (name : String)
  deriving DecidableEq

abbrev Meta := Key → Option Value

/-- `bool(value)`. -/
def Value.truthy : Value → Bool
  | .null => false
  | .bool b => b
  | .num q => q ≠ 0
  | .text s => s ≠ []
  | .other nonempty => nonempty

/-- `meta.get(key) or default`. -/
def Meta.or (m : Meta) (k : Key) (default : Value) : Value :=
  match m k with
  | some v => if v.truthy then v else default
  | none => default

/-- `meta[key] = value`. -/
def Meta.set (m : Meta) (k : Key) (v : Value) : Meta := fun k' => if k' = k then some v else m k'

/-- `meta.get(key) is True`. -/
def Meta.isTrue (m : Meta) (k : Key) : Bool := m k = some (.bool true)

/-- The methods of `str`, and `int` and `float` on a text. -/
structure Language where
  lower : Text → Text
  strip : Text → Text
  parseInt : Text → Option ℤ
  parseFloat : Text → Option ℚ
  /-- `str` of a value that is no text. -/
  shown : Value → Text
  strip_lower : ∀ s, strip (lower (strip (lower s))) = strip (lower s)
  lower_standard : lower (strip "standard".toList) = "standard".toList

section Conversions

variable (lang : Language)

/-- `str(value)`. -/
def Language.str : Value → Text
  | .text s => s
  | v => lang.shown v

/-- `int(value)`; `none` raises. -/
def Language.int : Value → Option ℤ
  | .bool b => some (if b then 1 else 0)
  | .num q => some (truncate q)
  | .text s => lang.parseInt s
  | .null | .other _ => none

/-- `float(value)`; `none` raises. -/
def Language.float : Value → Option ℚ
  | .bool b => some (if b then 1 else 0)
  | .num q => some q
  | .text s => lang.parseFloat s
  | .null | .other _ => none

/-- `float(meta.get(key) or 0)`. -/
def Meta.float (m : Meta) (k : Key) : Option ℚ := lang.float (m.or k (.num 0))

end Conversions

/-- `domain.split(".", 1)[0]`. -/
def nameOf (domain : Text) : Text := domain.takeWhile (· ≠ '.')

/-- `domain.split(".", 1)[1]`. -/
def extensionOf (domain : Text) : Text := (domain.dropWhile (· ≠ '.')).tail

/-- `text.lstrip(".")`. -/
def lstripDots (s : Text) : Text := s.dropWhile (· = '.')

/-! ## Commission and tax -/

/-- A commission rate, as `_normalise` bounds it. -/
abbrev Rate := {r : ℚ // 0 ≤ r ∧ r ≤ 1}

theorem zero_bounds : (0 : ℚ) ≤ 0 ∧ (0 : ℚ) ≤ 1 := by norm_num

theorem threePercent_bounds : (0 : ℚ) ≤ 3 / 100 ∧ (3 / 100 : ℚ) ≤ 1 := by norm_num

/-- The commission on one service. The keys of `byTld` start with a dot. -/
structure ServiceRates where
  default : Rate
  byTld : Text → Option Rate

/-- `CommissionService.REGISTRATION` and `PREMIUM_REGISTRATION` of the configuration. -/
structure Commission where
  registration : ServiceRates
  premiumRegistration : ServiceRates

/-- `registration_service_for_premium`, and what is configured for that service. -/
def Commission.service (c : Commission) (isPremium : Bool) : ServiceRates :=
  if isPremium then c.premiumRegistration else c.registration

/-- `get_rate`. -/
def getRate (svc : ServiceRates) (tld : Text) : Rate :=
  match tld with
  | [] => svc.default
  | c :: _ => (svc.byTld (if c = '.' then tld else '.' :: tld)).getD svc.default

/-- `apply_markup`. -/
def applyMarkup (basePrice : ℚ) (rate : Rate) : ℚ := round2 (basePrice * (1 + rate.val))

/-- `DOMAIN_GST_ENABLED`, `DOMAIN_GST_RATE` and `DOMAIN_PRICE_GST_INCLUSIVE`. -/
structure Gst where
  enabled : Bool
  rate : ℚ
  inclusive : Bool

/-- What `domain_price_breakdown` returns. -/
structure Breakdown where
  subtotalInr : ℚ
  gstInr : ℚ
  totalInr : ℚ
  deriving DecidableEq

/-- `domain_price_breakdown(unit, years=1)`. -/
def domainPriceBreakdown (g : Gst) (unitBaseInr : ℚ) : Breakdown :=
  let subtotal := quantize unitBaseInr
  if ¬ (g.enabled ∧ 0 < g.rate) then ⟨subtotal, 0, subtotal⟩
  else if g.inclusive then
    let gst := quantize (subtotal - subtotal / (1 + g.rate / 100))
    ⟨quantize (subtotal - gst), gst, subtotal⟩
  else
    let gst := quantize (subtotal * g.rate / 100)
    ⟨subtotal, gst, quantize (subtotal + gst)⟩

/-- `MANAGED_ACQUISITION_MIN_PRICE_INR`. -/
def MANAGED_ACQUISITION_MIN_PRICE_INR : ℚ := 500000

/-- The settings of the process that a checkout reads. -/
structure Setting where
  lang : Language
  commission : Commission
  gst : Gst

variable (s : Setting)

/-- `is_managed_acquisition_payable`. -/
def isManagedAcquisitionPayable (quotedPriceInr : ℚ) : Prop :=
  MANAGED_ACQUISITION_MIN_PRICE_INR < (domainPriceBreakdown s.gst quotedPriceInr).totalInr

instance : DecidablePred (isManagedAcquisitionPayable s) :=
  fun price => inferInstanceAs (Decidable (_ < (domainPriceBreakdown s.gst price).totalInr))

/-- `is_openprovider_managed_registration`. -/
def isOpenproviderManagedRegistration (m : Meta) : Prop :=
  m.isTrue .isManagedAcquisition ∨
    isManagedAcquisitionPayable s ((m.float s.lang .price).getD 0)

instance : DecidablePred (isOpenproviderManagedRegistration s) :=
  fun _ => inferInstanceAs (Decidable (_ ∨ _))

/-! ## The quote -/

/-- What `get_create_price` returns. -/
structure CreatePrice where
  raw : ℚ
  /-- The exchange rate of its currency; `none` for INR, and where the conversion raises. -/
  exchange : Option ℚ
  isPremium : Bool

/-- What the registrar says while a line is handled. -/
structure Answers where
  /-- `check_registration_domain` answers, with `available`. -/
  available : Text → Bool
  /-- Its `unitPrice`. -/
  unitPrice : Text → ℚ
  /-- `tld_min_registration_years` when the line is reached. -/
  tldMinYears : Text → ℕ
  /-- The same after `_warm_tld_min_period`. -/
  warmMinYears : Text → ℕ
  /-- No registrar is configured and the demo mode is on. -/
  demo : Bool
  /-- `get_create_price` of a name, an extension and a number of years. -/
  getCreatePrice : Text → Text → ℤ → Option CreatePrice

/-- The fields that `quote_registration_period_price` reads of a priced registration. -/
structure Selling where
  selling : ℚ
  provider : ℚ
  isPremium : Bool

/-- The `provider_unit_inr` of `calculate_customer_price`. -/
def providerUnitInr (raw : ℚ) (exchange : Option ℚ) : ℚ :=
  match exchange with
  | some rate => if 0 < raw then roundEven (raw / rate) else round2 raw
  | none => round2 raw

/-- `calculate_customer_price`. -/
def calculateCustomerPrice (providerPrice : ℚ) (isPremium : Bool) (exchange : Option ℚ)
    (tld : Text) : Selling :=
  let provider := providerUnitInr providerPrice exchange
  let rate := getRate (s.commission.service isPremium) tld
  ⟨if 0 < provider then applyMarkup provider rate else 0, provider, isPremium⟩

/-- `_selling_for_period`. -/
def sellingForPeriod (a : Answers) (name ext : Text) (years : ℤ) : Option Selling :=
  if a.demo then some (calculateCustomerPrice s (499 * years) false none ext)
  else do
    let quote ← a.getCreatePrice name ext years
    let raw := round2 quote.raw
    if raw ≤ 0 then none
    else some (calculateCustomerPrice s raw quote.isPremium quote.exchange ext)

/-- `resolve_registration_period`. -/
def Answers.resolvePeriod (a : Answers) (requested : ℤ) (ext : Text) : ℤ :=
  max (max 1 requested) (a.warmMinYears ext)

/-- What `quote_registration_period_price` returns. -/
structure Quote where
  periodYears : ℤ
  minPeriodYears : ℤ
  price : ℚ
  pricePerYear : ℚ
  registrarTotal : ℚ
  providerUnitPriceInr : ℚ
  isPremium : Bool
  deriving Inhabited, DecidableEq

/-- `quote_registration_period_price`, once the period is resolved. -/
def quoteResolved (a : Answers) (domain : Text) (period : ℤ) : Option Quote := do
  let name := nameOf domain
  let ext := extensionOf domain
  let quote ← sellingForPeriod s a name ext period
  let perYear ← (if period = 1 then some quote else sellingForPeriod s a name ext 1)
  some {
    periodYears := period
    minPeriodYears := a.resolvePeriod 1 ext
    price := quote.selling
    pricePerYear := perYear.selling
    registrarTotal := quote.provider
    providerUnitPriceInr := perYear.provider
    isPremium := quote.isPremium }

/-- `quote_registration_period_price`. -/
def quoteRegistrationPeriodPrice (a : Answers) (fullDomain : Text) (periodYears : ℤ) :
    Option Quote :=
  let domain := s.lang.strip (s.lang.lower fullDomain)
  if '.' ∉ domain then none
  else quoteResolved s a domain (a.resolvePeriod (max 1 periodYears) (extensionOf domain))

/-- The `registryTier` of a quote. -/
def tierOf (isPremium : Bool) : Text := if isPremium then "premium".toList else "standard".toList

/-! ## The checkout -/

/-- A registration in the cart. -/
structure Line where
  metadata : Meta
  /-- The live add-ons and the co-brother fee. -/
  extras : Paise
  answers : Answers

/-- The `domain` of the revalidation. -/
def Line.domain (l : Line) : Text :=
  s.lang.strip (s.lang.lower (s.lang.str (l.metadata.or .domainName (.text []))))

/-- The `tld` of the revalidation. -/
def Line.tld (l : Line) : Text :=
  lstripDots (s.lang.str (l.metadata.or .tld (.text (extensionOf (l.domain s)))))

/-- The `min_years` of the revalidation. -/
def Line.minYears (l : Line) : Option ℤ :=
  (s.lang.int (l.metadata.or .minPeriodYears (.num (l.answers.tldMinYears (l.tld s))))).map (max 1)

/-- The `period_years` of the revalidation. -/
def Line.periodYears (l : Line) : Option ℤ := do
  let minYears ← l.minYears s
  let years ← s.lang.int (l.metadata.or .period (.num minYears))
  some (max (max 1 years) minYears)

/-- `premiumProvider` is one of the aftermarket's. -/
def Line.aftermarket (l : Line) : Bool :=
  let provider := s.lang.lower (s.lang.strip (s.lang.str (l.metadata.or .premiumProvider (.text []))))
  provider = "afternic".toList ∨ provider = "sedo".toList

/-- The metadata of an aftermarket line after the revalidation. -/
def aftermarketMeta (l : Line) (minYears : ℤ) : Meta := fun
  | .price | .pricePerYear => some (.num (l.answers.unitPrice (l.domain s)))
  | .domainName => some (.text (l.domain s))
  | .tld => some (.text (l.tld s))
  | .period => some (.num 1)
  | .minPeriodYears => some (.num minYears)
  | .isPremium | .isManagedAcquisition => some (.bool true)
  | .registryTier => some (.text "premium".toList)
  | .premiumProvider => some (.text (s.lang.lower (s.lang.strip
      (s.lang.str (l.metadata.or .premiumProvider (.text []))))))
  | k => l.metadata k

/-- The metadata of any other line after the revalidation. -/
def quotedMeta (l : Line) (q : Quote) : Meta := fun
  | .price => some (.num q.price)
  | .pricePerYear => some (.num q.pricePerYear)
  | .domainName => some (.text (l.domain s))
  | .tld => some (.text (l.tld s))
  | .period => some (.num q.periodYears)
  | .minPeriodYears => some (.num q.minPeriodYears)
  | .isPremium => some (.bool q.isPremium)
  | .registryTier => some (.text (tierOf q.isPremium))
  | .providerPeriodTotalInr => some (.num q.registrarTotal)
  | .providerUnitPriceInr => some (.num q.providerUnitPriceInr)
  | k => l.metadata k

/-- One round of `_revalidate_domain_registration_items`. -/
def revalidate (l : Line) : Option Meta :=
  if '.' ∉ l.domain s then none
  else do
    let minYears ← l.minYears s
    let periodYears ← l.periodYears s
    if ¬ l.answers.available (l.domain s) then none
    else if l.aftermarket s then
      if l.answers.unitPrice (l.domain s) ≤ 0 then none else some (aftermarketMeta s l minYears)
    else do
      let quote ← quoteRegistrationPeriodPrice s l.answers (l.domain s) periodYears
      if quote.price ≤ 0 then none else some (quotedMeta s l quote)

/-- `_registration_provider_total`. -/
def registrationProviderTotal (m : Meta) : Option ℚ :=
  if m.isTrue .isManagedAcquisition then none
  else
    let periodTotal := (m.float s.lang .providerPeriodTotalInr).getD 0
    if 0 < periodTotal then some (round2 periodTotal)
    else
      let providerUnit := (m.float s.lang .providerUnitPriceInr).getD 0
      if providerUnit ≤ 0 then
        let fallbackPrice := (m.float s.lang .price).getD 0
        if 0 < fallbackPrice then some (round2 fallbackPrice) else none
      else
        let period := ((s.lang.int (m.or .period (.num 1))).map (max 1)).getD 1
        some (round2 (providerUnit * period))

/-- `_registration_customer_total`. -/
def registrationCustomerTotal (m : Meta) : Option ℚ := do
  let providerTotal ← registrationProviderTotal s m
  if providerTotal ≤ 0 then none
  else
    let tld := s.lang.lower (lstripDots (s.lang.str (m.or .tld (.text []))))
    let registryTier := s.lang.lower (s.lang.strip (s.lang.str (m.or .registryTier (.text []))))
    let isPremium := m.isTrue .isPremium || registryTier = "premium".toList
    some (applyMarkup providerTotal (getRate (s.commission.service isPremium) tld))

/-- `_resolve_line_total` of a registration. -/
def resolveLineTotal (m : Meta) (extras : Paise) : Option ℚ := do
  let base ← (match registrationCustomerTotal s m with
    | some total => if total ≠ 0 then some total else s.lang.float ((m .price).getD (.num 0))
    | none => s.lang.float ((m .price).getD (.num 0)))
  some (round2 (base + extras / 100))

/-- The columns of a `DomainRegistrationOrder` that come from the price. -/
structure PendingOrder where
  domainName : Text
  domainExtension : Text
  periodYears : ℤ
  breakdown : Breakdown
  quotedUnitPriceInr : ℚ
  isPremium : Bool
  registryTier : Text
  providerUnitPriceInr : Option ℚ
  deriving DecidableEq

/-- `_create_pending_domain_registration_order`. -/
def createPendingOrder (m : Meta) : Option PendingOrder :=
  let domain := s.lang.strip (s.lang.lower (s.lang.str (m.or .domainName (.text []))))
  if '.' ∉ domain then none
  else do
    let years ← s.lang.int
      (m.or .checkoutPeriodYears (m.or .period (m.or .minPeriodYears (.num 1))))
    let period := max 1 years
    let periodTotal ← m.float s.lang .price
    let perYear ← m.float s.lang .pricePerYear
    if periodTotal ≤ 0 then none
    else do
      let providerUnit ← (match m .providerUnitPriceInr with
        | none | some .null => some none
        | some v => (s.lang.float v).map some)
      let isPremium := ((m .isPremium).map Value.truthy).getD false
      some {
        domainName := nameOf domain
        domainExtension := '.' :: extensionOf domain
        periodYears := period
        breakdown := domainPriceBreakdown s.gst periodTotal
        quotedUnitPriceInr := if perYear ≤ 0 then round2 (periodTotal / period) else perYear
        isPremium := isPremium
        registryTier := s.lang.str (m.or .registryTier (.text (tierOf isPremium)))
        providerUnitPriceInr := providerUnit }

/-- The pending order of a line: `create_checkout_order` sets `_checkout_period_years` first. -/
def pendingOrder (m : Meta) : Option PendingOrder := do
  let years ← s.lang.int (m.or .period (.num 1))
  createPendingOrder s (m.set .checkoutPeriodYears (.num (max 1 years : ℤ)))

/-- The registrations of a cart and the line totals of its other products. -/
structure Cart where
  lines : List Line
  others : List Paise

/-- What a checkout charges and records for a registration. -/
structure Charged where
  total : ℚ
  order : PendingOrder

/-- What a checkout has done: the amount of the payment order, and its registrations. -/
structure Receipt where
  amount : ℚ
  lines : List Charged

/-- `create_checkout_order`. -/
def createCheckoutOrder (c : Cart) : Option Receipt := do
  let metas ← c.lines.mapM (revalidate s)
  if ∃ m ∈ metas, isOpenproviderManagedRegistration s m then none
  else do
    let totals ← (metas.zip c.lines).mapM fun p => resolveLineTotal s p.1 p.2.extras
    let total := totals.sum + c.others.sum / 100
    if total ≤ 0 then none
    else do
      let orders ← metas.mapM (pendingOrder s)
      some ⟨(domainPriceBreakdown s.gst total).totalInr,
        List.zipWith Charged.mk totals orders⟩

end Deltapreneur.RegistrationPrice
