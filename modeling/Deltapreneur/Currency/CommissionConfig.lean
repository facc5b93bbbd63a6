import Deltapreneur.Cart.Requote
import Deltapreneur.Lib.PyValue
import Deltapreneur.Registrar.Nameservers

/-!
# The commission settings

Model of `_normalise`, `refresh_from_db`, `save` and `get_rate`
(`app/service/domain/domain_commission_config.py:76-216`).

* The admin's data is any JSON object. An infinity or a `nan` is any number that is brought between
  0 and 1 alike; an integer too large for a `float` is not accepted and left out.
* A rate carries its bounds (`Rate`), and `byTld` is a dict in its order.
* `Setting.stored` is the value that the row's text stands for.

Results:

* `saved_rate_iff`: after a save and a refresh the configuration is the one saved, and a look-up
  finds what was configured just when the TLD is in lower case, or the default is configured.
-/

namespace Deltapreneur.CommissionConfig

open RegistrationPrice (Rate)

abbrev Text := List Char

/-- The methods of `str`, with what the code relies on. -/
structure Language extends PyValue.Lang where
  isSpace_dot : isSpace '.' = false
  /-- A text of lower-case characters and dots is in lower case. -/
  lower_fixed : ∀ t u, (∀ c ∈ u, c = '.' ∨ c ∈ lower t) → lower u = u
  /-- Lower case ends in no space if the text does not. -/
  lower_last : ∀ t, (∀ c ∈ t.getLast?, isSpace c = false) →
    ∀ c ∈ (lower t).getLast?, isSpace c = false

/-! ## Services -/

/-- `CommissionService`. -/
inductive Service
  | registration | premiumRegistration | renewal | transfer | email | ssl | dnssec | restore
  | easydmarc | spamexperts
  deriving DecidableEq

/-- `CommissionService.ALL`. -/
def Service.all : List Service :=
  [.registration, .premiumRegistration, .renewal, .transfer, .email, .ssl, .dnssec, .restore,
    .easydmarc, .spamexperts]

def Service.key : Service → Text
  | .registration => "registration".toList
  | .premiumRegistration => "premium_registration".toList
  | .renewal => "renewal".toList
  | .transfer => "transfer".toList
  | .email => "email".toList
  | .ssl => "ssl".toList
  | .dnssec => "dnssec".toList
  | .restore => "restore".toList
  | .easydmarc => "easydmarc".toList
  | .spamexperts => "spamexperts".toList

/-- `CommissionService.WITH_TLD`. -/
def Service.withTld : Service → Bool
  | .registration | .premiumRegistration | .renewal | .transfer => true
  | _ => false

/-- `_DEFAULTS`: three percent, or nothing. -/
def Service.defaultRate (svc : Service) : Rate :=
  if svc.withTld then ⟨3 / 100, RegistrationPrice.threePercent_bounds⟩
  else ⟨0, RegistrationPrice.zero_bounds⟩

/-! ## Normalising -/

/-- `min(1.0, max(0.0, rate))`. -/
def clamp (rate : ℚ) : Rate :=
  ⟨min 1 (max 0 rate), le_min zero_le_one (le_max_left 0 rate), min_le_left 1 _⟩

/-- The settings of one service; `byTld` is empty where the service has none. -/
structure ServiceConfig where
  default : Rate
  byTld : List (Text × Rate)

/-- A normalised configuration. -/
abbrev Config := Service → ServiceConfig

/-- `overrides[tld] = rate`. -/
def assign : List (Text × Rate) → Text → Rate → List (Text × Rate)
  | [], k, r => [(k, r)]
  | e :: d, k, r => if e.1 = k then (k, r) :: d else e :: assign d k r

/-- `tld if tld.startswith(".") else f".{tld}"`. -/
def dotted (tld : Text) : Text := if tld.head? = some '.' then tld else '.' :: tld

variable (L : Language)

/-- The key of an override; none for an empty one. -/
def Language.tldKey (rawTld : Text) : Option Text :=
  let tld := L.lower (L.strip rawTld)
  if tld = [] then none else some (dotted tld)

/-- One entry of `by_tld`. -/
def Language.override (overrides : List (Text × Rate)) (entry : Text × PyValue) :
    List (Text × Rate) :=
  match L.tldKey entry.1, L.toFloat entry.2 with
  | some tld, some rate => assign overrides tld (clamp rate)
  | _, _ => overrides

/-- The entries of `by_tld`. -/
def rawOverrides (svc : Service) : PyValue → List (Text × PyValue)
  | .dict supplied =>
    if svc.withTld then
      match PyValue.get supplied "by_tld".toList with
      | .dict entries => entries
      | _ => []
    else []
  | _ => []

/-- The default of a service, from what is supplied. -/
def Language.rawDefault (svc : Service) : PyValue → Rate
  | .dict supplied =>
    match L.toFloat (PyValue.getD supplied "default".toList (.float svc.defaultRate.1)) with
    | some rate => clamp rate
    | none => svc.defaultRate
  | _ => svc.defaultRate

/-- What the data supplies for a service: a missing premium registration is a copy of the
registration. -/
def supplied (data : List (Text × PyValue)) (svc : Service) : PyValue :=
  if svc = .premiumRegistration ∧ data.lookup svc.key = none then
    PyValue.get data Service.registration.key
  else PyValue.get data svc.key

/-- `_normalise`. -/
def Language.normalise (data : List (Text × PyValue)) : Config := fun svc =>
  { default := L.rawDefault svc (supplied data svc)
    byTld := (rawOverrides svc (supplied data svc)).foldl L.override [] }

/-! ## Saving and looking up -/

def ServiceConfig.value (svc : Service) (c : ServiceConfig) : PyValue :=
  .dict (("default".toList, .float c.default.1) ::
    if svc.withTld then
      [("by_tld".toList, .dict (c.byTld.map fun e => (e.1, .float e.2.1)))]
    else [])

def Config.value (cfg : Config) : List (Text × PyValue) :=
  Service.all.map fun svc => (svc.key, (cfg svc).value svc)

/-- The row of `platform_settings`, and `_runtime_config`. -/
structure Setting where
  stored : Option PyValue
  runtime : Config

/-- `save`. -/
def Setting.save (data : List (Text × PyValue)) : Setting :=
  ⟨some (.dict (Config.value (L.normalise data))), L.normalise data⟩

/-- `refresh_from_db`; `seed` is `_load_legacy_seed()`. -/
def Setting.refreshFromDb (seed : Config) (s : Setting) : Setting :=
  match s.stored with
  | none => ⟨some (.dict seed.value), L.normalise seed.value⟩
  | some (.dict parsed) => { s with runtime := L.normalise parsed }
  | some _ => { s with runtime := L.normalise [] }

/-- `get_rate`. -/
def Config.getRate (cfg : Config) (svc : Service) (tld : Text) : Rate :=
  RegistrationPrice.getRate ⟨(cfg svc).default, fun key => (cfg svc).byTld.lookup key⟩ tld

/-! ## Keys -/

variable {L} {k tld : Text} {r : Rate} {d : List (Text × Rate)}

theorem clamp_eq_self (r : Rate) : clamp r.1 = r := by
  refine Subtype.ext ?_
  show min 1 (max 0 r.1) = r.1
  rw [max_eq_right r.2.1, min_eq_right r.2.2]

theorem head_dotted (tld : Text) : (dotted tld).head? = some '.' := by
  unfold dotted
  split_ifs with h
  · exact h
  · rfl

theorem dotted_dotted (tld : Text) : dotted (dotted tld) = dotted tld := if_pos (head_dotted tld)

theorem mem_dotted {c : Char} (h : c ∈ dotted tld) : c = '.' ∨ c ∈ tld := by
  unfold dotted at h
  split_ifs at h
  · exact .inr h
  · exact List.mem_cons.mp h

/-- A key is in lower case, and is its own key. -/
theorem tldKey_key {raw : Text} (h : L.tldKey raw = some k) :
    L.lower k = k ∧ L.tldKey k = some k := by
  unfold Language.tldKey at h
  dsimp only at h
  split_ifs at h with hne
  cases h
  have hlower : L.lower (dotted (L.lower (L.strip raw))) = dotted (L.lower (L.strip raw)) :=
    L.lower_fixed _ _ fun c hc => mem_dotted hc
  have hlast : ∀ c ∈ (dotted (L.lower (L.strip raw))).getLast?, L.isSpace c = false := by
    have hend := L.lower_last (L.strip raw) Trim.getLast_strip
    unfold dotted
    split_ifs
    · exact hend
    · rw [List.getLast?_cons_of_ne_nil hne]
      exact hend
  have hstrip : L.strip (dotted (L.lower (L.strip raw))) = dotted (L.lower (L.strip raw)) := by
    refine Trim.strip_eq_self (fun c hc => ?_) hlast
    rw [head_dotted] at hc
    exact Option.some.inj hc ▸ L.isSpace_dot
  have hcons : dotted (L.lower (L.strip raw)) ≠ [] := fun hnil => by
    have hhead := head_dotted (L.lower (L.strip raw))
    rw [hnil] at hhead
    cases hhead
  refine ⟨hlower, ?_⟩
  rw [Language.tldKey, hstrip, hlower, if_neg hcons, dotted_dotted]

/-! ## The dict of overrides -/

theorem lookup_cons_eq {α : Type} (e : Text × α) (d : List (Text × α)) (key : Text) :
    (e :: d).lookup key = if key = e.1 then some e.2 else d.lookup key := by
  obtain ⟨k, r⟩ := e
  by_cases h : key = k
  · simp [h]
  · simp [List.lookup_cons, beq_false_of_ne h, h]

theorem lookup_assign (d : List (Text × Rate)) (k key : Text) (r : Rate) :
    (assign d k r).lookup key = if key = k then some r else d.lookup key := by
  induction d with
  | nil => exact lookup_cons_eq (k, r) [] key
  | cons e d ih =>
    rw [assign]
    split_ifs with hsame hkey hkey
    · rw [lookup_cons_eq, if_pos hkey]
    · rw [lookup_cons_eq, if_neg hkey, lookup_cons_eq, if_neg fun h => hkey (h.trans hsame)]
    · rw [lookup_cons_eq, if_neg fun h => hsame (h.symm.trans hkey), ih, if_pos hkey]
    · rw [lookup_cons_eq, lookup_cons_eq, ih, if_neg hkey]

theorem keys_assign (d : List (Text × Rate)) (k : Text) (r : Rate) :
    (assign d k r).map Prod.fst = if k ∈ d.map Prod.fst then d.map Prod.fst
      else d.map Prod.fst ++ [k] := by
  induction d with
  | nil => simp [assign]
  | cons e d ih =>
    rw [assign]
    by_cases hsame : e.1 = k
    · simp [hsame]
    · rw [if_neg hsame, List.map_cons, ih]
      by_cases hmem : k ∈ d.map Prod.fst
      · simp [hmem]
      · simp [hmem, Ne.symm hsame]

theorem assign_new (h : k ∉ d.map Prod.fst) : assign d k r = d ++ [(k, r)] := by
  induction d with
  | nil => rfl
  | cons e d ih =>
    rw [List.map_cons, List.mem_cons, not_or] at h
    rw [assign, if_neg (Ne.symm h.1), ih h.2]
    rfl

/-- The keys are different, and their own keys. -/
structure Canonical (L : Language) (d : List (Text × Rate)) : Prop where
  nodup : (d.map Prod.fst).Nodup
  keys : ∀ k ∈ d.map Prod.fst, L.tldKey k = some k

theorem Canonical.assign (h : Canonical L d) (hk : L.tldKey k = some k) :
    Canonical L (assign d k r) := by
  have hkeys := keys_assign d k r
  split_ifs at hkeys with hmem
  · exact ⟨hkeys ▸ h.nodup, hkeys ▸ h.keys⟩
  · constructor
    · rw [hkeys, List.nodup_append]
      exact ⟨h.nodup, by simp, fun a ha b hb heq => hmem (by simp_all)⟩
    · rw [hkeys]
      intro a ha
      rcases List.mem_append.mp ha with ha | ha
      · exact h.keys a ha
      · rw [List.mem_singleton.mp ha]
        exact hk

theorem canonical_foldl (entries : List (Text × PyValue)) (h : Canonical L d) :
    Canonical L (entries.foldl L.override d) := by
  induction entries generalizing d with
  | nil => exact h
  | cons entry entries ih =>
    refine ih ?_
    unfold Language.override
    split
    · exact h.assign (tldKey_key ‹_›).2
    · exact h

theorem canonical_byTld (L : Language) (data : List (Text × PyValue)) (svc : Service) :
    Canonical L (L.normalise data svc).byTld :=
  canonical_foldl _ ⟨List.nodup_nil, by simp⟩

theorem foldl_append_canonical (rest : List (Text × Rate)) (h : Canonical L (d ++ rest)) :
    (rest.map fun e => (e.1, PyValue.float e.2.1)).foldl L.override d = d ++ rest := by
  induction rest generalizing d with
  | nil => rw [List.append_nil]; rfl
  | cons e rest ih =>
    have hnew : e.1 ∉ d.map Prod.fst := by
      have hnodup := h.nodup
      rw [List.map_append, List.nodup_append] at hnodup
      exact fun hmem => hnodup.2.2 _ hmem _ List.mem_cons_self rfl
    have hkey : L.tldKey e.1 = some e.1 := h.keys e.1 (by simp)
    have hstep : L.override d (e.1, .float e.2.1) = d ++ [e] := by
      rw [Language.override, hkey]
      simp only [PyValue.Lang.toFloat, clamp_eq_self]
      exact assign_new hnew
    rw [List.map_cons, List.foldl_cons, hstep, ih (by rwa [List.append_assoc]), List.append_assoc]
    rfl

theorem foldl_canonical (h : Canonical L d) :
    (d.map fun e => (e.1, PyValue.float e.2.1)).foldl L.override [] = d :=
  foldl_append_canonical d h

/-! ## What is configured -/

/-- What an entry gives a key. -/
def Language.gives (L : Language) (key : Text) (entry : Text × PyValue) : Option Rate :=
  if L.tldKey entry.1 = some key then (L.toFloat entry.2).map clamp else none

/-- The override that the data has for a TLD, in any spelling: the last number given for it. -/
def Language.configured (L : Language) (data : List (Text × PyValue)) (svc : Service) (tld : Text) :
    Option Rate :=
  (rawOverrides svc (supplied data svc)).reverse.findSome? (L.gives (L.lower (dotted tld)))

theorem lookup_override (entry : Text × PyValue) (key : Text) :
    (L.override d entry).lookup key = (L.gives key entry).or (d.lookup key) := by
  unfold Language.override Language.gives
  cases hkey : L.tldKey entry.1 with
  | none => simp
  | some k =>
    cases hrate : L.toFloat entry.2 with
    | none => simp
    | some rate =>
      rw [lookup_assign]
      by_cases h : key = k
      · simp [h]
      · simp [h, Ne.symm h]

theorem lookup_foldl (entries : List (Text × PyValue)) (key : Text) :
    (entries.foldl L.override d).lookup key =
      (entries.reverse.findSome? (L.gives key)).or (d.lookup key) := by
  induction entries generalizing d with
  | nil => rfl
  | cons entry entries ih =>
    rw [List.foldl_cons, ih, lookup_override, List.reverse_cons, List.findSome?_append,
      Option.or_assoc]
    simp

/-- **A look-up in lower case finds what was configured.** -/
theorem byTld_lookup (L : Language) (data : List (Text × PyValue)) (svc : Service) (tld : Text) :
    (L.normalise data svc).byTld.lookup (L.lower (dotted tld)) = L.configured data svc tld := by
  rw [Language.normalise, lookup_foldl, List.lookup_nil, Option.or_none]
  rfl

/-! ## Normal forms -/

theorem lookup_value (cfg : Config) (svc : Service) :
    cfg.value.lookup svc.key = some ((cfg svc).value svc) := by
  cases svc <;> rfl

theorem supplied_value (cfg : Config) (svc : Service) :
    supplied cfg.value svc = (cfg svc).value svc := by
  have hlookup := lookup_value cfg svc
  rw [supplied, if_neg (by simp [hlookup]), PyValue.get, PyValue.getD, hlookup]
  rfl

theorem rawOverrides_plain {svc : Service} (h : ¬ svc.withTld = true) (v : PyValue) :
    rawOverrides svc v = [] := by
  unfold rawOverrides
  split
  · exact if_neg h
  · rfl

theorem byTld_plain {svc : Service} (h : ¬ svc.withTld = true) (data : List (Text × PyValue)) :
    (L.normalise data svc).byTld = [] := by
  rw [Language.normalise, rawOverrides_plain h]
  rfl

/-- **A normalised configuration stays as it is.** -/
theorem normalise_value (L : Language) (data : List (Text × PyValue)) :
    L.normalise (Config.value (L.normalise data)) = L.normalise data := by
  funext svc
  have hdefault : L.rawDefault svc ((L.normalise data svc).value svc) =
      (L.normalise data svc).default := clamp_eq_self _
  have hentries : rawOverrides svc ((L.normalise data svc).value svc) =
      (L.normalise data svc).byTld.map fun e => (e.1, PyValue.float e.2.1) := by
    by_cases h : svc.withTld = true
    · simp only [ServiceConfig.value, rawOverrides, h, if_true]
      rfl
    · rw [byTld_plain h, rawOverrides_plain h]
      rfl
  have hbyTld : _ = (L.normalise data svc).byTld := foldl_canonical (canonical_byTld L data svc)
  show ServiceConfig.mk _ _ = _
  rw [supplied_value, hdefault, hentries, hbyTld]

/-! ## Looking up -/

/-- The rate for a service and a TLD that the data asks for. -/
def Language.configuredRate (L : Language) (data : List (Text × PyValue)) (svc : Service)
    (tld : Text) : Rate :=
  (L.configured data svc tld).getD (L.normalise data svc).default

/-- What becomes of the admin's data. -/
structure Used (L : Language) (seed : Config) (data : List (Text × PyValue)) (svc : Service)
    (tld : Text) : Prop where
  again : L.normalise (Config.value (L.normalise data)) = L.normalise data
  refreshed : (Setting.refreshFromDb L seed (.save L data)).runtime = L.normalise data
  rate : (Setting.refreshFromDb L seed (.save L data)).runtime.getRate svc tld =
    L.configuredRate data svc tld

/-- The TLD is spelled as its key, or nothing but the default is configured for it. -/
def Spelled (L : Language) (data : List (Text × PyValue)) (svc : Service) (tld : Text) : Prop :=
  tld ≠ [] ∧ L.lower (dotted tld) = dotted tld ∨
    ∀ rate ∈ L.configured data svc tld, rate = (L.normalise data svc).default

theorem getRate_eq (cfg : Config) (svc : Service) (h : tld ≠ []) :
    cfg.getRate svc tld = ((cfg svc).byTld.lookup (dotted tld)).getD (cfg svc).default := by
  cases tld with
  | nil => exact absurd rfl h
  | cons c rest =>
    simp only [Config.getRate, RegistrationPrice.getRate, dotted, List.head?_cons,
      Option.some.injEq]

theorem lookup_upper (h : L.lower k ≠ k) (data : List (Text × PyValue)) (svc : Service) :
    (L.normalise data svc).byTld.lookup k = none := by
  cases hlookup : (L.normalise data svc).byTld.lookup k with
  | none => rfl
  | some rate =>
    obtain ⟨before, after, hsplit, -⟩ := List.lookup_eq_some_iff.mp hlookup
    have hkey := (canonical_byTld L data svc).keys k (by simp [hsplit])
    exact absurd (tldKey_key hkey).1 h

theorem configuredRate_default_iff (L : Language) (data : List (Text × PyValue)) (svc : Service)
    (tld : Text) : (L.normalise data svc).default = L.configuredRate data svc tld ↔
      ∀ rate ∈ L.configured data svc tld, rate = (L.normalise data svc).default := by
  unfold Language.configuredRate
  cases L.configured data svc tld with
  | none => simp
  | some rate => simp [eq_comm]

/-- **Saved settings are used**: the configuration is normal, it is in force after a refresh, and a
look-up finds what is configured for the TLD, in any spelling, just when it is spelled in lower case
or the default is configured for it. -/
theorem saved_rate_iff (L : Language) (seed : Config) (data : List (Text × PyValue)) (svc : Service)
    (tld : Text) : Used L seed data svc tld ↔ Spelled L data svc tld := by
  have hrefreshed : (Setting.refreshFromDb L seed (.save L data)).runtime = L.normalise data :=
    normalise_value L data
  have hrate : (L.normalise data).getRate svc tld = L.configuredRate data svc tld ↔
      Spelled L data svc tld := by
    by_cases hlower : tld ≠ [] ∧ L.lower (dotted tld) = dotted tld
    · refine iff_of_true ?_ (.inl hlower)
      rw [getRate_eq _ _ hlower.1, Language.configuredRate, ← byTld_lookup, hlower.2]
    · have hdefault : (L.normalise data).getRate svc tld = (L.normalise data svc).default := by
        by_cases hne : tld = []
        · rw [hne]
          rfl
        · rw [getRate_eq _ _ hne, lookup_upper fun heq => hlower ⟨hne, heq⟩]
          rfl
      rw [hdefault, configuredRate_default_iff]
      exact (or_iff_right hlower).symm
  constructor
  · intro h
    have hused := h.rate
    rw [hrefreshed] at hused
    exact hrate.mp hused
  · intro h
    refine ⟨normalise_value L data, hrefreshed, ?_⟩
    rw [hrefreshed]
    exact hrate.mpr h

/-- The methods on ASCII texts. -/
def ascii : Language where
  isSpace := Nameservers.isAsciiSpace
  upper := List.map Char.toUpper
  lower := List.map Char.toLower
  int _ := none
  float _ := none
  repr _ := []
  isSpace_dot := by decide
  lower_fixed t u h := by
    refine (List.map_congr_left fun c hc => ?_).trans (List.map_id u)
    rcases h c hc with rfl | hmem
    · rfl
    · obtain ⟨d, -, rfl⟩ := List.mem_map.mp hmem
      exact Nameservers.toLower_toLower d
  lower_last t h c hc := by
    rw [List.getLast?_map] at hc
    obtain ⟨d, hd, rfl⟩ := Option.map_eq_some_iff.mp hc
    rw [(Nameservers.toLower_keeps d).1, h d hd]

/-- A quarter for `.com`, three percent for the rest. -/
def comData : List (Text × PyValue) :=
  [("registration".toList, .dict [("by_tld".toList, .dict [("com".toList, .float (1 / 4))])])]

/-- **Nothing is found for `COM`.** -/
theorem upper_case_unused :
    ¬ Used ascii (fun svc => ⟨svc.defaultRate, []⟩) comData .registration "COM".toList := by
  intro h
  exact absurd h.rate (by decide +kernel)

end Deltapreneur.CommissionConfig
