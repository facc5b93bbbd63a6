import Deltapreneur.Cart.Requote

/-!
# The price of a name in search results and in the single check

Model of the registration price that `_build_tld_items` shows
(`app/service/domain/domain_registration_service.py:1251-1394`) and of the unit price that
`check_openprovider_domain` returns (`:892-945`), both from one entry of the registrar's check
(`app/integrations/openprovider/client.py:1068-1170, 1314-1372`).

* A nested object of the entry is `none` where it is missing or no object; a value is `.null`
  where it is missing.
* Amounts are rational numbers.
* `convert_foreign_to_inr` has a rate for each supported currency and raises for any other.
* Out of demo mode. Renewal prices and tax are left out.
-/

namespace Deltapreneur.ListedPrice

open Decimal RegistrationPrice

/-! ## The entry -/

/-- `price.reseller` or `price.product`. -/
structure Tier where
  price : Value
  currency : Value

structure PriceBlock where
  reseller : Option Tier
  product : Option Tier
  create : Value
  currency : Value

/-- `premium.price`: a value, or an object with its `create`. -/
inductive PremiumPrice
  | scalar (v : Value)
  | object (create : Value)

/-- An entry of `domains/check`. -/
structure CheckEntry where
  domain : Text
  name : Text
  extension : Text
  status : Text
  isPremium : Value
  price : Option PriceBlock
  premium : Option PremiumPrice

def CheckEntry.reseller (e : CheckEntry) : Option Tier := e.price.bind (·.reseller)

def CheckEntry.product (e : CheckEntry) : Option Tier := e.price.bind (·.product)

/-! ## The settings -/

/-- `SUPPORTED_CURRENCIES`. -/
def SUPPORTED_CURRENCIES : List Text :=
  ["AED", "ALL", "AMD", "AUD", "AWG", "AZN", "BAM", "BBD", "BDT", "BGN", "BHD", "BIF", "BMD", "BND",
    "BOB", "BRL", "BSD", "BTN", "BWP", "BZD", "CAD", "CHF", "CLP", "CNY", "COP", "CRC", "CUP",
    "CVE", "CZK", "DJF", "DKK", "DOP", "DZD", "EGP", "ETB", "EUR", "FJD", "GBP", "GHS", "GIP",
    "GMD", "GNF", "GTQ", "GYD", "HKD", "HNL", "HRK", "HTG", "HUF", "IDR", "ILS", "INR", "IQD",
    "ISK", "JMD", "JOD", "JPY", "KES", "KGS", "KHR", "KMF", "KRW", "KWD", "KYD", "KZT", "LAK",
    "LKR", "LRD", "LSL", "MAD", "MDL", "MGA", "MKD", "MMK", "MNT", "MOP", "MUR", "MVR", "MWK",
    "MXN", "MYR", "MZN", "NAD", "NGN", "NIO", "NOK", "NPR", "NZD", "OMR", "PEN", "PGK", "PHP",
    "PKR", "PLN", "PYG", "QAR", "RON", "RSD", "RUB", "RWF", "SAR", "SCR", "SEK", "SGD", "SLL",
    "SOS", "SVC", "SZL", "THB", "TND", "TRY", "TTD", "TWD", "TZS", "UAH", "UGX", "USD", "UYU",
    "UZS", "VND", "VUV", "XAF", "XCD", "XOF", "XPF", "YER", "ZAR", "ZMW"].map String.toList

/-- The state of the exchange rates and of the commissions. -/
structure Market where
  /-- How much of a currency one rupee is. -/
  rates : Text → {r : ℚ // 0 < r}
  commission : Commission

/-- What the two paths read besides the entry. -/
structure Shop where
  setting : Setting
  upper : Text → Text
  /-- `OPENPROVIDER_PANEL_INR_FACTOR`. -/
  panelFactor : ℚ
  /-- `_TLD_MIN_REGISTRATION_YEARS`. -/
  fallbackYears : Text → Option ℕ
  /-- `_TLD_MIN_PERIOD_CACHE`, before the check. -/
  cachedYears : Text → Option ℕ
  /-- The least period that the registrar's page of the extension states, if it can be read. -/
  liveYears : Text → Option ℕ

variable (s : Shop)

/-- `is_free`. -/
def Shop.isFree (e : CheckEntry) : Bool :=
  s.setting.lang.strip (s.setting.lang.lower e.status) ∈ ["free".toList, "available".toList]

/-! ## Minimum periods -/

/-- `_normalize_tld_ext`. -/
def Shop.normalizeTldExt (ext : Text) : Text := lstripDots (s.setting.lang.lower ext)

/-- The fallback of `tld_min_registration_years` and `ensure_tld_min_period`. -/
def Shop.fallback (ext : Text) : ℕ := max 1 ((s.fallbackYears ext).getD 1)

/-- `tld_min_registration_years`, by the cache at that time. -/
def Shop.tldMinRegistrationYears (cache : Text → Option ℕ) (extensionNoDot : Text) : ℕ :=
  let ext := s.normalizeTldExt extensionNoDot
  if ext = [] then 1
  else match cache ext with
    | some years => max 1 years
    | none => s.fallback ext

/-- The cache after `ensure_tld_min_period`. -/
def Shop.ensureTldMinPeriod (extensionNoDot : Text) : Text → Option ℕ :=
  let ext := s.normalizeTldExt extensionNoDot
  if ext = [] then s.cachedYears
  else match s.cachedYears ext, s.liveYears ext with
    | none, some years => if 1 ≤ years then Function.update s.cachedYears ext (some years)
        else s.cachedYears
    | _, _ => s.cachedYears

/-- `yearly_create_price_from_check`. -/
def Shop.yearlyCreatePriceFromCheck (cache : Text → Option ℕ) (rawPrice : ℚ)
    (extensionNoDot : Text) : ℚ :=
  if rawPrice ≤ 0 then 0
  else
    let years := s.tldMinRegistrationYears cache extensionNoDot
    if years ≤ 1 then round2 rawPrice else round2 (rawPrice / years)

/-! ## Customer prices -/

/-- `(currency or "INR").upper().strip() or "INR"`. -/
def Shop.codeOf (currency : Option Text) : Text :=
  let code := s.setting.lang.strip (s.upper (match currency with
    | some (c :: cs) => c :: cs
    | _ => "INR".toList))
  if code = [] then "INR".toList else code

/-- The currency that an amount is converted from: none for INR, and where
`convert_foreign_to_inr` raises. -/
def Shop.foreign (currency : Option Text) : Option Text :=
  let code := s.codeOf currency
  if code ≠ "INR".toList ∧ code ∈ SUPPORTED_CURRENCIES then some code else none

/-- The `customerUnitInr` of `calculate_customer_price`. -/
def Shop.customerUnitInr (m : Market) (raw : ℚ) (isPremium : Bool) (currency : Option Text)
    (tld : Text) : ℚ :=
  (calculateCustomerPrice { s.setting with commission := m.commission } raw isPremium
    ((s.foreign currency).map fun code => (m.rates code).val) tld).selling

/-! ## The single check -/

/-- `str(block["currency"]).upper()`, where there is one. -/
def Shop.currencyOf (v : Value) : Option Text :=
  if v.truthy then some (s.upper (s.setting.lang.str v)) else none

/-- `tier.get("price")`. -/
def priceOf : Option Tier → Value
  | some t => t.price
  | none => .null

/-- `_panel_inr_create_price`. -/
def Shop.panelInrCreatePrice (e : CheckEntry) (unit : ℚ) : Option ℚ :=
  if s.panelFactor ≤ 1 then none
  else if e.reseller.bind (s.currencyOf ·.currency) ≠ some "INR".toList then none
  else if e.product.bind (s.currencyOf ·.currency) ∉
      ["USD", "EUR", "GBP"].map (some ·.toList) then none
  else
    let prodPrice := if (priceOf e.product).truthy then s.setting.lang.float (priceOf e.product)
      else some 0
    match prodPrice with
    | some price => if price ≤ 0 then none else some ⌊unit * s.panelFactor⌋
    | none => none

/-- The price after the optional uplift. -/
def Shop.uplift (e : CheckEntry) (unit : ℚ) : ℚ :=
  match s.panelInrCreatePrice e unit with
  | some panel => if 0 < panel then panel else unit
  | none => unit

/-- `extract_reseller_price_details`; `none` where `float` raises. -/
def Shop.extractResellerPriceDetails (e : CheckEntry) : Option (ℚ × Option Text) :=
  let currency := e.reseller.bind (s.currencyOf ·.currency)
  if priceOf e.reseller ≠ .null then
    (s.setting.lang.float (priceOf e.reseller)).map (·, currency)
  else
    let currency := currency.or (e.product.bind (s.currencyOf ·.currency))
    if priceOf e.product ≠ .null then
      (s.setting.lang.float (priceOf e.product)).map (·, currency)
    else match e.premium with
      | some (.object create) =>
        if create ≠ .null then (s.setting.lang.float create).map (·, currency)
        else some (0, currency)
      | _ => some (0, currency)

/-- `extract_create_price_details`. -/
def Shop.extractCreatePriceDetails (e : CheckEntry) : Option (ℚ × Option Text) :=
  (s.extractResellerPriceDetails e).map fun (unit, currency) => (s.uplift e unit, currency)

/-- The `unitPrice` of `check_openprovider_domain`; `none` where it answers without a price. -/
def Shop.checkOpenproviderDomain (m : Market) (e : CheckEntry) (extNoDot : Text) : Option ℚ :=
  if !s.isFree e then none
  else match s.extractCreatePriceDetails e with
    | none => none
    | some (unitPrice, currency) =>
      if unitPrice ≤ 0 then none
      else some (s.customerUnitInr m
        (s.yearlyCreatePriceFromCheck (s.ensureTldMinPeriod extNoDot) unitPrice extNoDot)
        e.isPremium.truthy currency extNoDot)

/-! ## The search results -/

/-- `_positive_num`. -/
def Shop.positiveNum (v : Value) : Option ℚ := (s.setting.lang.float v).filter (0 < ·)

/-- The `create` of `premium.price`. -/
def CheckEntry.premiumCreate (e : CheckEntry) : Value :=
  match e.premium with
  | some (.scalar v) => v
  | some (.object create) => create
  | none => .null

/-- `price.create`. -/
def CheckEntry.create (e : CheckEntry) : Value :=
  match e.price with
  | some block => block.create
  | none => .null

/-- `create_raw`, before the uplift. -/
def Shop.createRaw (e : CheckEntry) : Option ℚ :=
  (s.positiveNum (priceOf e.reseller)).or <| (s.positiveNum (priceOf e.product)).or <|
    (s.positiveNum e.create).or (s.positiveNum e.premiumCreate)

/-- `currency`: that of the reseller, else of the product, else of the whole block. -/
def Shop.listCurrency (e : CheckEntry) : Option Text :=
  (e.reseller.bind (s.currencyOf ·.currency)).or <|
    (e.product.bind (s.currencyOf ·.currency)).or (e.price.bind (s.currencyOf ·.currency))

/-- `ext`: as stated, else from the domain. -/
def CheckEntry.ext (e : CheckEntry) : Text :=
  if e.extension = [] ∧ '.' ∈ e.domain then extensionOf e.domain else e.extension

/-- `ext_lc`. -/
def Shop.extLc (e : CheckEntry) : Text := lstripDots (s.setting.lang.lower e.ext)

structure Item where
  domain : Text
  name : Text
  tld : Text
  available : Bool
  isPremium : Bool
  registrationPrice : Option ℚ
  currency : Option Text
  minPeriodYears : ℕ

/-- `registration_inr`. -/
def Shop.registrationInr (m : Market) (e : CheckEntry) : Option ℚ :=
  match s.createRaw e with
  | none => none
  | some raw =>
    let yearly := s.yearlyCreatePriceFromCheck s.cachedYears (s.uplift e raw) (s.extLc e)
    if 0 < yearly then
      some (s.customerUnitInr m yearly e.isPremium.truthy (s.listCurrency e) (s.extLc e))
    else none

/-- `_build_tld_items`. -/
def Shop.buildTldItems (m : Market) (entries : List CheckEntry) (label : Text) : List Item :=
  entries.filterMap fun e =>
    if e.ext = [] then none
    else
      let name := if e.name = [] then label else e.name
      some {
        domain := if e.domain = [] then name ++ '.' :: s.extLc e else e.domain
        name
        tld := '.' :: s.extLc e
        available := s.isFree e
        isPremium := e.isPremium.truthy
        registrationPrice := s.registrationInr m e
        currency := s.listCurrency e
        minPeriodYears := s.tldMinRegistrationYears s.cachedYears (s.extLc e) }

end Deltapreneur.ListedPrice
