import Deltapreneur.Lib.Decimal
import Deltapreneur.Lib.Run

/-!
# The exchange-rate cache

Model of `exchange_rate_service.py`: three providers, the snapshot that is kept of each answer,
the merge of the snapshots, and the cache in front of them.

* A rate is what one rupee is worth in the currency. The providers' JSON may say `Infinity`, which
  `float` accepts, so a `Rate` is a rational or infinite. `-Infinity` is read as any other rate
  that is not positive.
* `Answers` is what the providers say during one refresh: `none` where the request fails, the
  body is no JSON, or has not the shape the code takes apart.
* `World` adds to the module's globals the last result and the snapshots of the refreshes so far.

**`known_rates_kept_iff`**: a rate that some provider reported stays in every later result exactly
in the runs in which every refresh that reaches a provider hears again of all currencies known
so far. A refresh replaces the whole cache, so a currency that the providers at hand do not list
falls back to 1.
`convertForeignToInr_rate`: conversions divide by a positive rate.
-/

namespace Deltapreneur.ExchangeRates

open Decimal Run

abbrev Rate := WithTop ℚ

/-- `SUPPORTED_CURRENCIES`. -/
def supportedCurrencies : List String :=
  ["AED", "ALL", "AMD", "AUD", "AWG", "AZN", "BAM", "BBD", "BDT", "BGN", "BHD", "BIF", "BMD",
    "BND", "BOB", "BRL", "BSD", "BTN", "BWP", "BZD", "CAD", "CHF", "CLP", "CNY", "COP", "CRC",
    "CUP", "CVE", "CZK", "DJF", "DKK", "DOP", "DZD", "EGP", "ETB", "EUR", "FJD", "GBP", "GHS",
    "GIP", "GMD", "GNF", "GTQ", "GYD", "HKD", "HNL", "HRK", "HTG", "HUF", "IDR", "ILS", "INR",
    "IQD", "ISK", "JMD", "JOD", "JPY", "KES", "KGS", "KHR", "KMF", "KRW", "KWD", "KYD", "KZT",
    "LAK", "LKR", "LRD", "LSL", "MAD", "MDL", "MGA", "MKD", "MMK", "MNT", "MOP", "MUR", "MVR",
    "MWK", "MXN", "MYR", "MZN", "NAD", "NGN", "NIO", "NOK", "NPR", "NZD", "OMR", "PEN", "PGK",
    "PHP", "PKR", "PLN", "PYG", "QAR", "RON", "RSD", "RUB", "RWF", "SAR", "SCR", "SEK", "SGD",
    "SLL", "SOS", "SVC", "SZL", "THB", "TND", "TRY", "TTD", "TWD", "TZS", "UAH", "UGX", "USD",
    "UYU", "UZS", "VND", "VUV", "XAF", "XCD", "XOF", "XPF", "YER", "ZAR", "ZMW"]

/-- `_FALLBACK_RATES_FROM_INR`. -/
def fallbackRatesTable : List (String × ℚ) :=
  [("INR", 1), ("USD", 105 / 10000), ("EUR", 11 / 1000), ("GBP", 11 / 1000), ("AED", 44 / 1000),
    ("SAR", 44 / 1000), ("QAR", 44 / 1000), ("SGD", 12 / 1000), ("AUD", 12 / 1000),
    ("CAD", 12 / 1000), ("CHF", 12 / 1000)]

/-- `_CACHE_TTL_SECONDS`. -/
def cacheTtlSeconds : ℚ := 1800

/-- A rate table as the callers get it. -/
abbrev Rates := String → Option Rate

theorem inr_supported : "INR" ∈ supportedCurrencies := by decide

/-- `_fallback_rates_from_inr`. -/
def fallbackRatesFromInr : Rates := fun code =>
  match fallbackRatesTable.lookup code with
  | some rate => some (rate : Rate)
  | none => if code ∈ supportedCurrencies then some 1 else none

/-! ## What a provider answers -/

/-- What `float(value)` makes of a JSON value: a number, `NaN`, `ValueError` or `TypeError`, or
the `OverflowError` of an integer beyond the floats. -/
inductive Reading
  | value (r : Rate)
  | nan
  | unreadable
  | tooLarge
  deriving DecidableEq

/-- The entries of a provider's table. -/
abbrev Raw := String → Option Reading

/-- `time_last_update_unix`, and whether `int` reads it. -/
inductive Stamp
  | absent
  | at (unix : ℤ)
  | unreadable

structure Answers where
  openErApi : Option (Raw × Stamp)
  exchangeRateApi : Option Raw
  /-- By lower-case code, the `rate` of the entry. An entry that is no object is unreadable. -/
  floatRates : Option Raw

/-- A float that is not `<= 0`. -/
inductive Number
  | rate (r : Rate)
  | nan
  deriving DecidableEq

/-- What is kept of one provider's answer. -/
structure Snapshot where
  rates : String → Option Number
  inr : rates "INR" = some (.rate 1)
  supported : ∀ code, rates code ≠ none → code ∈ supportedCurrencies

/-- One entry of the table that `_normalize_snapshot` builds. -/
def normalizeEntry (raw : Raw) (code : String) : Option Number :=
  if code = "INR" then some (.rate 1)
  else if code ∈ supportedCurrencies then
    match raw code with
    | some (.value r) => if r ≤ 0 then none else some (.rate r)
    | some .nan => some .nan
    | some .unreadable | some .tooLarge | none => none
  else none

variable {code : String} {snapshots : List Snapshot}

theorem normalizeEntry_supported {raw : Raw} (h : normalizeEntry raw code ≠ none) :
    code ∈ supportedCurrencies := by
  unfold normalizeEntry at h
  split_ifs at h with hinr hmem
  · exact hinr ▸ inr_supported
  · exact hmem
  · exact absurd rfl h

/-- `_normalize_snapshot`; `none` is the `OverflowError`, which is not caught here. -/
def normalizeSnapshot (raw : Raw) : Option Snapshot :=
  if ∃ code ∈ supportedCurrencies, code ≠ "INR" ∧ raw code = some .tooLarge then none
  else some ⟨normalizeEntry raw, rfl, fun _ => normalizeEntry_supported⟩

/-- `_fetch_open_er_api`. -/
def fetchOpenErApi (answer : Option (Raw × Stamp)) : Option (Snapshot × Option ℤ) := do
  let (raw, stamp) ← answer
  let rates ← normalizeSnapshot raw
  match stamp with
  | .absent => some (rates, none)
  | .at unix => some (rates, some unix)
  | .unreadable => none

/-- `_fetch_exchange_rate_api_v4`. -/
def fetchExchangeRateApi (answer : Option Raw) : Option Snapshot := answer.bind normalizeSnapshot

/-- `_fetch_floatrates`. It reads the numbers itself, so one unreadable entry loses the
provider. -/
def fetchFloatrates (answer : Option Raw) : Option Snapshot := do
  let payload ← answer
  let raw : Raw := fun code => payload code.toLower
  if ∃ code ∈ supportedCurrencies, code ≠ "INR" ∧ raw code = some .unreadable then none
  else normalizeSnapshot raw

/-! ## The merge -/

/-- The positive rates that the snapshots give for the currency. -/
def reported (snapshots : List Snapshot) (code : String) : List Rate :=
  snapshots.filterMap fun s =>
    match s.rates code with
    | some (.rate r) => if 0 < r then some r else none
    | some .nan | none => none

/-- `_merge_consumer_rates`. -/
def mergeConsumerRates (snapshots : List Snapshot) : Rates := fun code =>
  if code = "INR" then some 1
  else if code ∈ supportedCurrencies then some ((reported snapshots code).min?.getD 1)
  else none

/-- What a refresh obtained: the snapshots, the names of their providers and the first
provider's time. -/
structure Fetched where
  snapshots : List Snapshot
  providers : List String
  sourceUnix : Option ℤ

/-- The three attempts of `_fetch_live_rates`. -/
def fetchAll (a : Answers) : Fetched :=
  let first := fetchOpenErApi a.openErApi
  let second := fetchExchangeRateApi a.exchangeRateApi
  let third := fetchFloatrates a.floatRates
  { snapshots := (first.map Prod.fst).toList ++ second.toList ++ third.toList
    providers := (first.map fun _ => "open.er-api").toList ++
      (second.map fun _ => "exchangerate-api").toList ++ (third.map fun _ => "floatrates").toList
    sourceUnix := first.bind Prod.snd }

/-- `_fetch_live_rates`; `none` is the `RuntimeError` of no provider at all. -/
def fetchLiveRates (a : Answers) : Option (Rates × Option ℤ × List String) :=
  let fetched := fetchAll a
  if fetched.snapshots.isEmpty then none
  else some (mergeConsumerRates fetched.snapshots, fetched.sourceUnix, fetched.providers)

/-! ## The cache -/

/-- The globals `_cache_rates`, `_cache_updated_at`, `_cache_source_unix`, `_cache_providers`
once the first of them is set. -/
structure Cache where
  rates : Rates
  updatedAt : ℚ
  sourceUnix : Option ℤ
  providers : List String

/-- What a call returns. -/
structure Result where
  base : String := "INR"
  rates : Rates
  updatedAt : Option ℤ
  sourceUpdatedAt : Option ℤ
  cached : Bool
  stale : Bool := false
  fallback : Bool := false
  ttlSeconds : ℚ := cacheTtlSeconds
  providers : List String

/-- One call of `get_exchange_rates`: the clock, the argument and what the providers would say. -/
structure Call where
  now : ℚ
  forceRefresh : Bool
  answers : Answers

/-- The result that repeats the cache. -/
def Cache.shown (k : Cache) (stale : Bool) : Result :=
  { rates := k.rates, updatedAt := some (truncate k.updatedAt), sourceUpdatedAt := k.sourceUnix
    cached := true, stale := stale, providers := k.providers }

/-- The first test of `get_exchange_rates`: the cache is fresh enough. -/
def Call.fromCache (call : Call) (cache : Option Cache) : Bool :=
  !call.forceRefresh && cache.any fun k => call.now - k.updatedAt < cacheTtlSeconds

/-- `get_exchange_rates`: the result and the cache afterwards. -/
def getExchangeRates (cache : Option Cache) (call : Call) : Result × Option Cache :=
  match call.fromCache cache, cache with
  | true, some k => (k.shown false, cache)
  | _, cache =>
    match fetchLiveRates call.answers with
    | some (live, unix, providers) =>
      ({ rates := live, updatedAt := some (truncate call.now), sourceUpdatedAt := unix
         cached := false, providers },
        some ⟨live, call.now, unix, providers⟩)
    | none =>
      match cache with
      | some k => (k.shown true, some k)
      | none =>
        ({ rates := fallbackRatesFromInr, updatedAt := none, sourceUpdatedAt := none
           cached := false, stale := true, fallback := true, providers := ["static-fallback"] },
          none)

/-- What `convert_foreign_to_inr` returns. -/
structure Conversion where
  amountForeign : ℚ
  amountInr : ℤ
  rate : Rate
  timeLastUpdateUnix : Option ℤ

/-- `foreign_amount / rate`. -/
def divided (amount : ℚ) : Rate → ℚ
  | ⊤ => 0
  | (r : ℚ) => amount / r

/-- `convert_foreign_to_inr`, with the cache afterwards. The result is `none` where it raises. The
code has gone through `upper`. -/
def convertForeignToInr (cache : Option Cache) (call : Call) (amount : ℚ) (sourceCode : String) :
    Option Conversion × Option Cache :=
  if sourceCode ∉ supportedCurrencies then (none, cache)
  else if sourceCode = "INR" then (some ⟨amount, roundEven amount, 1, none⟩, cache)
  else
    let (snapshot, cache') := getExchangeRates cache { call with forceRefresh := false }
    match snapshot.rates sourceCode with
    | none => (none, cache')
    | some rate =>
      if rate ≤ 0 then (none, cache')
      else (some ⟨amount, roundEven (divided amount rate), rate, snapshot.sourceUpdatedAt⟩, cache')

/-! ## Runs -/

/-- The globals, the last result, and the snapshots of the refreshes that reached a provider,
latest first. -/
structure World where
  cache : Option Cache
  result : Option Result
  heard : List (List Snapshot)

def start : World := ⟨none, none, []⟩

/-- The call asks the providers, and one of them answers. -/
def Call.refreshes (call : Call) (cache : Option Cache) : Bool :=
  !call.fromCache cache && !(fetchAll call.answers).snapshots.isEmpty

def step (w : World) (call : Call) : World :=
  let (result, cache) := getExchangeRates w.cache call
  { cache
    result := some result
    heard := if call.refreshes w.cache then (fetchAll call.answers).snapshots :: w.heard
      else w.heard }

/-- The rates of the latest refresh that reported the currency. -/
def latest (code : String) : List (List Snapshot) → List Rate
  | [] => []
  | snapshots :: earlier =>
    if reported snapshots code = [] then latest code earlier else reported snapshots code

/-- Every currency that was ever reported stands in the last result at a rate that a provider
reported when the currency was last heard of. -/
def KnownRatesKept (w : World) : Prop :=
  ∀ code, latest code w.heard ≠ [] →
    ∃ result r, w.result = some result ∧ result.rates code = some r ∧ r ∈ latest code w.heard

/-- A refresh that reaches a provider hears again of every currency known so far, or that
currency was last worth one rupee. -/
def HearsAgain (w : World) (call : Call) : Prop :=
  call.refreshes w.cache = true → ∀ code, latest code w.heard ≠ [] →
    reported (fetchAll call.answers).snapshots code ≠ [] ∨ 1 ∈ latest code w.heard

/-! ## What a call does -/

/-- A call merges what the providers say, or repeats the cache, or falls back to the static
table. -/
theorem get_cases (cache : Option Cache) (call : Call) :
    (call.refreshes cache = true ∧ ∃ result k, getExchangeRates cache call = (result, some k) ∧
      result.rates = mergeConsumerRates (fetchAll call.answers).snapshots ∧
      k.rates = mergeConsumerRates (fetchAll call.answers).snapshots) ∨
    (call.refreshes cache = false ∧ ∃ result k, cache = some k ∧
      getExchangeRates cache call = (result, some k) ∧ result.rates = k.rates) ∨
    (call.refreshes cache = false ∧ cache = none ∧ ∃ result,
      getExchangeRates cache call = (result, none) ∧ result.rates = fallbackRatesFromInr) := by
  cases hfresh : call.fromCache cache with
  | true =>
    obtain ⟨k, rfl⟩ : ∃ k, cache = some k := by
      cases cache with
      | none => simp [Call.fromCache] at hfresh
      | some k => exact ⟨k, rfl⟩
    refine .inr (.inl ⟨by simp [Call.refreshes, hfresh], k.shown false, k, rfl, ?_, rfl⟩)
    simp [getExchangeRates, hfresh]
  | false =>
    cases hempty : (fetchAll call.answers).snapshots.isEmpty with
    | false =>
      have hlive : fetchLiveRates call.answers =
          some (mergeConsumerRates (fetchAll call.answers).snapshots,
            (fetchAll call.answers).sourceUnix, (fetchAll call.answers).providers) := by
        simp [fetchLiveRates, hempty]
      refine .inl ⟨by simp [Call.refreshes, hfresh, hempty], ?_⟩
      simp [getExchangeRates, hfresh, hlive]
    | true =>
      have hfailed : fetchLiveRates call.answers = none := by simp [fetchLiveRates, hempty]
      have hno : call.refreshes cache = false := by simp [Call.refreshes, hempty]
      cases cache with
      | some k =>
        refine .inr (.inl ⟨hno, k.shown true, k, rfl, ?_, rfl⟩)
        simp [getExchangeRates, hfresh, hfailed]
      | none =>
        refine .inr (.inr ⟨hno, rfl, ?_⟩)
        simp [getExchangeRates, hfresh, hfailed]

/-! ## The merged rate -/

theorem reported_supported (h : reported snapshots code ≠ []) : code ∈ supportedCurrencies := by
  obtain ⟨r, hr⟩ := List.exists_mem_of_ne_nil _ h
  obtain ⟨s, -, hs⟩ := List.mem_filterMap.mp hr
  apply s.supported
  intro hnone
  rw [hnone] at hs
  cases hs

theorem reported_inr {r : Rate} (h : r ∈ reported snapshots "INR") : r = 1 := by
  obtain ⟨s, -, hs⟩ := List.mem_filterMap.mp h
  rw [s.inr] at hs
  simpa using hs.symm

theorem merge_reported (h : reported snapshots code ≠ []) :
    ∃ r, mergeConsumerRates snapshots code = some r ∧ r ∈ reported snapshots code ∧
      ∀ x ∈ reported snapshots code, r ≤ x := by
  by_cases hinr : code = "INR"
  · subst hinr
    obtain ⟨r, hr⟩ := List.exists_mem_of_ne_nil _ h
    have hone : r = 1 := reported_inr hr
    subst hone
    exact ⟨1, rfl, hr, fun x hx => (reported_inr hx).ge⟩
  · obtain ⟨r, hmin⟩ : ∃ r, (reported snapshots code).min? = some r :=
      Option.ne_none_iff_exists'.mp (by simpa [List.min?_eq_none_iff] using h)
    obtain ⟨hmem, hle⟩ := List.min?_eq_some_iff.mp hmin
    refine ⟨r, ?_, hmem, hle⟩
    simp [mergeConsumerRates, hinr, reported_supported h, hmin]

theorem merge_unreported (hmem : code ∈ supportedCurrencies) (h : reported snapshots code = []) :
    mergeConsumerRates snapshots code = some 1 := by
  by_cases hinr : code = "INR"
  · simp [mergeConsumerRates, hinr]
  · simp [mergeConsumerRates, hinr, hmem, h]

theorem latest_supported : ∀ {heard : List (List Snapshot)},
    latest code heard ≠ [] → code ∈ supportedCurrencies
  | [], h => absurd rfl h
  | snapshots :: earlier, h => by
    unfold latest at h
    split_ifs at h with hnone
    · exact latest_supported h
    · exact reported_supported hnone

theorem reported_pos {r : Rate} (h : r ∈ reported snapshots code) : 0 < r := by
  obtain ⟨s, -, hs⟩ := List.mem_filterMap.mp h
  split at hs
  · split_ifs at hs with hpos
    exact Option.some.inj hs ▸ hpos
  · cases hs
  · cases hs

/-! ## Every supported currency has a rate -/

/-- The table has a positive rate for every supported currency. -/
def RatesAll (rates : Rates) : Prop :=
  ∀ code ∈ supportedCurrencies, ∃ r, rates code = some r ∧ 0 < r

theorem ratesAll_merge (snapshots : List Snapshot) : RatesAll (mergeConsumerRates snapshots) := by
  intro code hmem
  by_cases hnone : reported snapshots code = []
  · exact ⟨1, merge_unreported hmem hnone, one_pos⟩
  · obtain ⟨r, hr, hrep, -⟩ := merge_reported hnone
    exact ⟨r, hr, reported_pos hrep⟩

theorem ratesAll_fallback : RatesAll fallbackRatesFromInr := by
  intro code hmem
  have htable : ∀ p ∈ fallbackRatesTable, 0 < p.2 := by decide +kernel
  unfold fallbackRatesFromInr
  cases hlookup : fallbackRatesTable.lookup code with
  | none => exact ⟨1, if_pos hmem, one_pos⟩
  | some r =>
    obtain ⟨before, after, hsplit, -⟩ := List.lookup_eq_some_iff.mp hlookup
    have hr : 0 < r := htable (code, r) (by rw [hsplit]; simp)
    exact ⟨(r : Rate), rfl, by exact_mod_cast hr⟩

theorem ratesAll_get {cache : Option Cache} (call : Call)
    (h : ∀ k, cache = some k → RatesAll k.rates) :
    RatesAll (getExchangeRates cache call).1.rates := by
  obtain ⟨hyes, result, k, hget, hrates, hk⟩ | ⟨hno, result, k, hcache, hget, hrates⟩ |
    ⟨hno, hcache, result, hget, hrates⟩ := get_cases cache call
  · rw [hget, hrates]
    exact ratesAll_merge _
  · rw [hget, hrates]
    exact h k hcache
  · rw [hget, hrates]
    exact ratesAll_fallback

/-! ## The exact condition -/

/-- What every call keeps: before the first answer there is no cache, and afterwards the last
result is the cache, which merges the snapshots that were heard last. -/
structure Follows (w : World) : Prop where
  unheard : w.cache = none → w.heard = []
  shown : ∀ k, w.cache = some k → ∃ result, w.result = some result ∧ result.rates = k.rates
  merged : ∀ k, w.cache = some k → ∃ snapshots earlier, w.heard = snapshots :: earlier ∧
    k.rates = mergeConsumerRates snapshots

theorem follows_start : Follows start := ⟨fun _ => rfl, nofun, nofun⟩

theorem follows_step {w : World} (call : Call) (h : Follows w) : Follows (step w call) := by
  obtain ⟨hyes, result, k, hget, hrates, hk⟩ | ⟨hno, result, k, hcache, hget, hrates⟩ |
    ⟨hno, hcache, result, hget, hrates⟩ := get_cases w.cache call
  · have hstep : step w call =
        ⟨some k, some result, (fetchAll call.answers).snapshots :: w.heard⟩ := by
      simp [step, hget, hyes]
    rw [hstep]
    refine ⟨nofun, ?_, ?_⟩
    · rintro _ ⟨⟩
      exact ⟨result, rfl, hrates.trans hk.symm⟩
    · rintro _ ⟨⟩
      exact ⟨_, _, rfl, hk⟩
  · have hstep : step w call = ⟨some k, some result, w.heard⟩ := by simp [step, hget, hno]
    rw [hstep]
    refine ⟨nofun, ?_, ?_⟩
    · rintro _ ⟨⟩
      exact ⟨result, rfl, hrates⟩
    · rintro _ ⟨⟩
      exact h.merged k hcache
  · have hstep : step w call = ⟨none, some result, w.heard⟩ := by simp [step, hget, hno]
    rw [hstep]
    exact ⟨fun _ => h.unheard hcache, nofun, nofun⟩

theorem follows_exec (calls : List Call) : Follows (exec step start calls) :=
  exec_preserves (fun _ call h => follows_step call h) calls follows_start

/-- **A conversion divides by a positive rate.** After every run, whatever the providers say to it,
`convert_foreign_to_inr` raises just for a currency that is not supported. -/
theorem convertForeignToInr_rate (calls : List Call) (call : Call) (amount : ℚ) (code : String) :
    match (convertForeignToInr (exec step start calls).cache call amount code).1 with
    | none => code ∉ supportedCurrencies
    | some c => code ∈ supportedCurrencies ∧ 0 < c.rate ∧
        c.amountInr = roundEven (divided amount c.rate) := by
  unfold convertForeignToInr
  by_cases hmem : code ∈ supportedCurrencies
  · rw [if_neg (not_not.mpr hmem)]
    by_cases hinr : code = "INR"
    · rw [if_pos hinr]
      exact ⟨hmem, one_pos, by simp [divided]⟩
    · rw [if_neg hinr]
      have hcache : ∀ k, (exec step start calls).cache = some k → RatesAll k.rates := by
        intro k hk
        obtain ⟨snapshots, earlier, -, hrates⟩ := (follows_exec calls).merged k hk
        exact hrates ▸ ratesAll_merge snapshots
      obtain ⟨r, hr, hpos⟩ := ratesAll_get { call with forceRefresh := false } hcache code hmem
      simp only [hr, if_neg (not_le.mpr hpos)]
      exact ⟨hmem, hpos, trivial⟩
  · rw [if_pos hmem]
    exact hmem

/-- **One call.** It keeps the known rates exactly if it hears again of them, or asks nobody. -/
theorem known_rates_step {w : World} (call : Call) (h : Follows w) (hkept : KnownRatesKept w) :
    KnownRatesKept (step w call) ↔ HearsAgain w call := by
  obtain ⟨hyes, result, k, hget, hrates, -⟩ | ⟨hno, result, k, hcache, hget, hrates⟩ |
    ⟨hno, hcache, result, hget, hrates⟩ := get_cases w.cache call
  · -- A refresh: only the currencies that it does not report are in question.
    have hheard : (step w call).heard = (fetchAll call.answers).snapshots :: w.heard := by
      simp [step, hyes]
    have hresult : (step w call).result = some result := by simp [step, hget]
    constructor
    · intro hkept' _ code hknown
      by_cases hnone : reported (fetchAll call.answers).snapshots code = []
      · right
        have hlatest : latest code (step w call).heard = latest code w.heard := by
          simp [hheard, latest, hnone]
        obtain ⟨result', r, hresult', hr, hmem⟩ := hkept' code (hlatest ▸ hknown)
        obtain rfl : result = result' := by simpa [hresult] using hresult'
        rw [hrates, merge_unreported (latest_supported hknown) hnone, Option.some.injEq] at hr
        rwa [← hr, hlatest] at hmem
      · exact .inl hnone
    · intro hagain code hknown
      refine ⟨result, ?_⟩
      rw [hrates]
      by_cases hnone : reported (fetchAll call.answers).snapshots code = []
      · have hlatest : latest code (step w call).heard = latest code w.heard := by
          simp [hheard, latest, hnone]
        rw [hlatest] at hknown ⊢
        have hone : 1 ∈ latest code w.heard :=
          (hagain hyes code hknown).resolve_left (not_not_intro hnone)
        exact ⟨1, hresult, merge_unreported (latest_supported hknown) hnone, hone⟩
      · obtain ⟨r, hr, hmem, -⟩ := merge_reported hnone
        have hlatest : latest code (step w call).heard =
            reported (fetchAll call.answers).snapshots code := by
          simp [hheard, latest, hnone]
        exact ⟨r, hresult, hr, hlatest ▸ hmem⟩
  · -- The cache is repeated, which is what the last call returned.
    have hheard : (step w call).heard = w.heard := by simp [step, hno]
    refine iff_of_true (fun code hknown => ?_) (fun hyes => absurd hyes (by simp [hno]))
    rw [hheard] at hknown ⊢
    obtain ⟨last, r, hlast, hr, hmem⟩ := hkept code hknown
    obtain ⟨last', hlast', hshown⟩ := h.shown k hcache
    obtain rfl : last = last' := Option.some.inj (hlast.symm.trans hlast')
    exact ⟨result, r, by simp [step, hget], by rw [hrates, ← hshown, hr], hmem⟩
  · have hheard : (step w call).heard = [] := by simpa [step, hno] using h.unheard hcache
    refine iff_of_true (fun code hknown => ?_) (fun hyes => absurd hyes (by simp [hno]))
    rw [hheard] at hknown
    exact absurd rfl hknown

theorem knownRatesKept_start : KnownRatesKept start := fun _ h => absurd rfl h

/-- **A known rate stays known** throughout exactly the runs whose refreshes hear again of every
currency that any refresh before them reported. In every refresh the merged rate is one of the
reported ones, so it lies between the least and the greatest of them. -/
theorem known_rates_kept_iff (calls : List Call) :
    ((∀ pre, pre <+: calls → KnownRatesKept (exec step start pre)) ↔
      Meets step HearsAgain start calls) ∧
    ∀ (answers : Answers) (live : Rates) (unix : Option ℤ) (providers : List String)
      (code : String) (low high : Rate), fetchLiveRates answers = some (live, unix, providers) →
      IsLeast {r | r ∈ reported (fetchAll answers).snapshots code} low →
      IsGreatest {r | r ∈ reported (fetchAll answers).snapshots code} high →
      ∃ r, live code = some r ∧ low ≤ r ∧ r ≤ high := by
  refine ⟨?_, ?_⟩
  · refine throughout_iff (I := Follows) (fun w call hI hP => ?_) follows_start
      knownRatesKept_start
    exact ⟨follows_step call hI, known_rates_step call hI hP⟩
  · intro answers live unix providers code low high hlive hlow hhigh
    obtain ⟨r, hr, hmem, hleast⟩ := merge_reported (List.ne_nil_of_mem hlow.1)
    have hmerged : live = mergeConsumerRates (fetchAll answers).snapshots := by
      simp only [fetchLiveRates] at hlive
      split_ifs at hlive
      exact (congrArg Prod.fst (Option.some.inj hlive)).symm
    exact ⟨r, hmerged ▸ hr, hlow.2 hmem, hhigh.2 hmem⟩

/-- A refresh in which only the first provider answers. -/
def onlyFirst (raw : Raw) : Call := ⟨0, true, ⟨some (raw, .absent), none, none⟩⟩

/-- The dollar is reported at 0.0105; a forced refresh then reaches a provider that does not list
it, and the dollar stands at 1. -/
theorem unlisted_currency_forgotten :
    ¬ ∀ calls : List Call, ∀ pre, pre <+: calls → KnownRatesKept (exec step start pre) := by
  intro h
  let listed : Call := onlyFirst fun code =>
    if code = "USD" then some (.value ((105 / 10000 : ℚ) : Rate)) else none
  let unlisted : Call := onlyFirst fun _ => none
  have hknown : latest "USD" (exec step start [listed, unlisted]).heard =
      [((105 / 10000 : ℚ) : Rate)] := by decide +kernel
  have hshown : (exec step start [listed, unlisted]).result.bind (·.rates "USD") = some 1 := by
    decide +kernel
  obtain ⟨result, r, hresult, hr, hmem⟩ :=
    h [listed, unlisted] _ (List.prefix_refl _) "USD" (hknown ▸ List.cons_ne_nil _ _)
  rw [hresult, Option.bind_some, hr, Option.some.injEq] at hshown
  rw [hknown, hshown, List.mem_singleton] at hmem
  exact absurd hmem (by decide +kernel)

end Deltapreneur.ExchangeRates
