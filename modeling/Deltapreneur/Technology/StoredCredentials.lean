import Deltapreneur.Lib.Json
import Deltapreneur.Lib.Run
import Deltapreneur.Lib.Trim
import Mathlib.Data.List.AList

/-!
# The stored credentials of a provider

`merge_subscription_credentials` (`app/service/technology/provider_access.py:308-374`) reads the
blob of a subscription, merges new credentials into it and writes it back as a whole, encrypted
under the key of the settings (`app/service/security/auth_code_encryption_service.py:16-43`). A
subscription carries the last thing a run knew: `latest`, the last value that is not empty given
for each name.

* `Library` holds what the code calls: `json`, `Fernet` and `str.strip`. A JSON value is of any
  type `V` with the four empty ones marked; two dictionaries are the same when their look-ups are.
* A call has settings of its own, so the key may change between any two calls.
* `Opens`: the settings of a call decrypt the blob, or it can be read without them.

Results:

* `credentials_kept_iff`: exactly the runs whose calls all open the blob keep every value and leave
  alone what they cannot read.
* `key_change_loses_password`: one call under another key.
-/

namespace Deltapreneur.StoredCredentials

abbrev Text := List Char

/-- A dictionary of credentials. -/
abbrev Dict (V : Type) := AList fun _ : Text => V

/-- `CREDENTIALS_ENC_PREFIX`. -/
def CREDENTIALS_ENC_PREFIX : Text := "enc:v1:".toList

/-- What the code calls of `json`, of `Fernet` and of `str`. -/
structure Library (V Key : Type) where
  isSpace : Char → Bool
  /-- `json.dumps(creds, separators=(",", ":"), sort_keys=True)`. -/
  dumps : Dict V → Text
  /-- `json.loads`, where it gives a dictionary. -/
  loads : Text → Option (Dict V)
  /-- `value in (None, "", [], {})`. -/
  isEmpty : V → Bool
  /-- `Fernet(key)`, where it does not raise. -/
  fernetKey : Text → Option Key
  /-- `Fernet(base64.urlsafe_b64encode(sha256(text)))`. -/
  derivedKey : Text → Key
  /-- The second argument is the time and the random start of the token. -/
  encrypt : Key → Text → Text → Text
  /-- `none` is `InvalidToken`. -/
  decrypt : Key → Text → Option Text
  loads_dumps : ∀ d, ∃ d', loads (dumps d) = some d' ∧ ∀ name, d'.lookup name = d.lookup name
  decrypt_encrypt : ∀ key start text, decrypt key (encrypt key start text) = some text
  /-- A token is signed with its key. -/
  decrypt_other : ∀ key key' start text, key' ≠ key →
    decrypt key' (encrypt key start text) = none
  /-- A token is a text of letters, digits and four other characters. -/
  token_end : ∀ key start text, ∀ c ∈ (encrypt key start text).getLast?, isSpace c = false
  prefix_plain : ∀ c ∈ CREDENTIALS_ENC_PREFIX, isSpace c = false

/-! ## The code -/

/-- `AUTH_CODE_ENCRYPTION_KEY` and `JWT_SECRET_KEY`. -/
structure Settings where
  authCodeEncryptionKey : Text
  jwtSecretKey : Text
  deriving Repr, DecidableEq

variable {V Key : Type} (L : Library V Key)

/-- `_fernet`. -/
def fernet (s : Settings) : Key :=
  let raw := Trim.strip L.isSpace s.authCodeEncryptionKey
  if raw ≠ [] then (L.fernetKey raw).getD (L.derivedKey raw) else L.derivedKey s.jwtSecretKey

/-- `dump_provider_credentials`; `start` is what the token is made of besides key and text. -/
def dumpProviderCredentials (s : Settings) (start : Text) (creds : Dict V) : Text :=
  CREDENTIALS_ENC_PREFIX ++ L.encrypt (fernet L s) start (L.dumps creds)

/-- The token of an encrypted blob. -/
def token (raw : Option Text) : Option Text :=
  let text := Trim.strip L.isSpace (raw.getD [])
  if CREDENTIALS_ENC_PREFIX <+: text then some (text.drop CREDENTIALS_ENC_PREFIX.length) else none

/-- `load_provider_credentials`: what cannot be read is taken for empty. -/
def loadProviderCredentials (s : Settings) (raw : Option Text) : Dict V :=
  match token L raw with
  | some cipher => ((L.decrypt (fernet L s) cipher).bind L.loads).getD ∅
  | none =>
    let text := Trim.strip L.isSpace (raw.getD [])
    if text = [] ∨ text = "{}".toList ∨ text = "null".toList then ∅ else (L.loads text).getD ∅

/-- One round of the inner loop of `merge_provider_credentials`. -/
def mergeEntry (merged : Dict V) (name : Text) (value : V) : Dict V :=
  if L.isEmpty value then merged else merged.insert name value

/-- `merge_provider_credentials`. -/
def mergeProviderCredentials (parts : List (Option (Dict V))) : Dict V :=
  parts.foldl (fun merged part => (part.getD ∅).foldl (mergeEntry L) merged) ∅

/-- `merge_subscription_credentials`: the new blob. -/
def mergeSubscriptionCredentials (s : Settings) (start : Text) (raw : Option Text)
    (creds : Option (Dict V)) : Text :=
  dumpProviderCredentials L s start
    (mergeProviderCredentials L [some (loadProviderCredentials L s raw), creds])

/-! ## Runs -/

/-- One call, with the settings and the start of the token at the time. -/
structure Call (V : Type) where
  settings : Settings
  start : Text
  creds : Option (Dict V)

/-- A subscription, and the last value that is not empty given for each name. -/
structure Subscription (V : Type) where
  credentialsJson : Option Text
  latest : Text → Option V

/-- The value that a dictionary gives for a name. -/
def given (d : Dict V) (name : Text) : Option V := (d.lookup name).filter fun v => !L.isEmpty v

def Call.given (c : Call V) (name : Text) : Option V :=
  StoredCredentials.given L (c.creds.getD ∅) name

def step (s : Subscription V) (c : Call V) : Subscription V where
  credentialsJson := some
    (mergeSubscriptionCredentials L c.settings c.start s.credentialsJson c.creds)
  latest name := (c.given L name).or (s.latest name)

/-- A subscription whose blob was written under `settings`, or not encrypted. -/
def Subscription.found (settings : Settings) (raw : Option Text) : Subscription V :=
  ⟨raw, given L (loadProviderCredentials L settings raw)⟩

/-- Some settings read every latest value. -/
def Subscription.Kept (s : Subscription V) : Prop :=
  ∃ settings, ∀ name v, s.latest name = some v →
    (loadProviderCredentials L settings s.credentialsJson).lookup name = some v

/-- The settings decrypt the blob, or it is not encrypted and empty or a dictionary. -/
def Opens (settings : Settings) (raw : Option Text) : Prop :=
  match token L raw with
  | some cipher => (L.decrypt (fernet L settings) cipher).isSome
  | none =>
    let text := Trim.strip L.isSpace (raw.getD [])
    text = [] ∨ text = "{}".toList ∨ text = "null".toList ∨ (L.loads text).isSome

/-- The blob is not encrypted, or one that the code wrote. -/
def Written (raw : Option Text) : Prop :=
  token L raw = none ∨ ∃ settings start d, raw = some (dumpProviderCredentials L settings start d)

/-! ## Merging -/

variable {L} {s : Subscription V} {c : Call V} {raw : Option Text} {settings settings' : Settings}
  {start name : Text} {d : Dict V} {value : V}

theorem given_eq_some : given L d name = some value ↔
    d.lookup name = some value ∧ L.isEmpty value = false := by
  simp [given, Option.filter_eq_some_iff]

theorem lookup_mergeEntry_self (merged : Dict V) :
    (mergeEntry L merged name value).lookup name =
      if L.isEmpty value then merged.lookup name else some value := by
  unfold mergeEntry
  split_ifs
  · rfl
  · exact AList.lookup_insert merged

theorem lookup_mergeEntry_other (merged : Dict V) {other : Text} (h : name ≠ other) :
    (mergeEntry L merged other value).lookup name = merged.lookup name := by
  unfold mergeEntry
  split_ifs
  · rfl
  · exact AList.lookup_insert_ne h

/-- What a loop over the members leaves under a name. The induction is on the members, whose keys
differ. -/
theorem lookup_foldl_mergeEntry (name : Text) : ∀ {members : List (Sigma fun _ : Text => V)}
    (merged : Dict V), members.NodupKeys →
    (members.foldl (fun merged e => mergeEntry L merged e.1 e.2) merged).lookup name =
      ((members.dlookup name).filter fun v => !L.isEmpty v).or (merged.lookup name)
  | [], _, _ => rfl
  | ⟨k, v⟩ :: members, merged, hnodup => by
    obtain ⟨hk, hrest⟩ := List.nodupKeys_cons.mp hnodup
    rw [List.foldl_cons, lookup_foldl_mergeEntry name _ hrest]
    by_cases hname : name = k
    · subst hname
      rw [List.dlookup_eq_none.mpr hk, List.dlookup_cons_eq, lookup_mergeEntry_self]
      cases hempty : L.isEmpty v <;> simp [hempty, Option.filter]
    · rw [lookup_mergeEntry_other _ hname, List.dlookup_cons_ne _ _ hname]

theorem lookup_foldl (part merged : Dict V) (name : Text) :
    (part.foldl (mergeEntry L) merged).lookup name = (given L part name).or (merged.lookup name) :=
  lookup_foldl_mergeEntry name merged part.nodupKeys

theorem lookup_mergeProviderCredentials (stored : Dict V) (creds : Option (Dict V)) (name : Text) :
    (mergeProviderCredentials L [some stored, creds]).lookup name =
      (given L (creds.getD ∅) name).or (given L stored name) := by
  simp [mergeProviderCredentials, lookup_foldl]

/-! ## Reading back -/

theorem strip_dump (cipher : Text) (h : ∀ c ∈ cipher.getLast?, L.isSpace c = false) :
    Trim.strip L.isSpace (CREDENTIALS_ENC_PREFIX ++ cipher) = CREDENTIALS_ENC_PREFIX ++ cipher := by
  refine Trim.strip_eq_self (fun c hc => L.prefix_plain c ?_) fun c hc => ?_
  · rw [List.head?_append_of_ne_nil _ (by decide)] at hc
    exact List.mem_of_mem_head? hc
  · rw [List.getLast?_append] at hc
    cases hlast : cipher.getLast? with
    | some e =>
      rw [hlast, Option.some_or, Option.mem_some_iff] at hc
      exact h c (hc ▸ hlast ▸ rfl)
    | none =>
      rw [hlast, Option.none_or] at hc
      exact L.prefix_plain c (List.mem_of_getLast? hc)

theorem token_dump : token L (some (dumpProviderCredentials L settings start d)) =
    some (L.encrypt (fernet L settings) start (L.dumps d)) := by
  simp [token, dumpProviderCredentials, strip_dump _ (L.token_end _ _ _)]

theorem lookup_load_dump (h : fernet L settings' = fernet L settings) (name : Text) :
    (loadProviderCredentials L settings'
      (some (dumpProviderCredentials L settings start d))).lookup name = d.lookup name := by
  obtain ⟨d', hloads, hlookup⟩ := L.loads_dumps d
  simp only [loadProviderCredentials, token_dump, h, L.decrypt_encrypt, Option.bind_some, hloads,
    Option.getD_some]
  exact hlookup name

theorem load_dump_other (h : fernet L settings' ≠ fernet L settings) :
    loadProviderCredentials L settings'
      (some (dumpProviderCredentials L settings start d)) = ∅ := by
  simp only [loadProviderCredentials, token_dump, L.decrypt_other _ _ _ _ h, Option.bind_none,
    Option.getD_none]

theorem opens_dump : Opens L settings' (some (dumpProviderCredentials L settings start d)) ↔
    fernet L settings' = fernet L settings := by
  simp only [Opens, token_dump]
  constructor
  · intro hopens
    by_contra hne
    simp [L.decrypt_other _ _ _ _ hne] at hopens
  · intro heq
    simp [heq, L.decrypt_encrypt]

theorem load_of_plain (h : token L raw = none) :
    loadProviderCredentials L settings raw = loadProviderCredentials L settings' raw := by
  simp only [loadProviderCredentials, h]

theorem load_of_not_opens (h : ¬ Opens L settings raw) : loadProviderCredentials L settings raw = ∅ := by
  cases htoken : token L raw with
  | some cipher =>
    simp only [Opens, htoken, Option.not_isSome_iff_eq_none] at h
    simp [loadProviderCredentials, htoken, h]
  | none =>
    simp only [Opens, htoken, not_or, Option.not_isSome_iff_eq_none] at h
    simp [loadProviderCredentials, htoken, h.2.2.2]

/-! ## One call -/

/-- A subscription as the runs find it. -/
structure Subscription.Sound (L : Library V Key) (s : Subscription V) : Prop where
  written : Written L s.credentialsJson
  kept : s.Kept L
  given : ∀ name v, s.latest name = some v → L.isEmpty v = false

theorem Subscription.Sound.reads (h : s.Sound L) (hopens : Opens L settings s.credentialsJson)
    (hlatest : s.latest name = some value) :
    (loadProviderCredentials L settings s.credentialsJson).lookup name = some value := by
  obtain ⟨settings', hkept⟩ := h.kept
  have hread := hkept name value hlatest
  obtain hplain | ⟨written, start, d, hraw⟩ := h.written
  · rwa [load_of_plain hplain]
  · rw [hraw] at hopens hread ⊢
    by_cases hkey : fernet L settings' = fernet L written
    · rw [lookup_load_dump (opens_dump.mp hopens)]
      rwa [lookup_load_dump hkey] at hread
    · rw [load_dump_other hkey, AList.lookup_empty] at hread
      cases hread

theorem Call.given_eq_some (h : c.given L name = some value) : L.isEmpty value = false :=
  (StoredCredentials.given_eq_some.mp h).2

theorem kept_step : (step L s c).Kept L ↔ ∀ name v, (step L s c).latest name = some v →
    (c.given L name).or
      (given L (loadProviderCredentials L c.settings s.credentialsJson) name) = some v := by
  have hmerged := lookup_mergeProviderCredentials (L := L)
    (loadProviderCredentials L c.settings s.credentialsJson) c.creds
  constructor
  · rintro ⟨settings, hkept⟩ name v hlatest
    have hread := hkept name v hlatest
    by_cases hkey : fernet L settings = fernet L c.settings
    · have hlookup := (lookup_load_dump hkey name).symm.trans hread
      exact (hmerged name).symm.trans hlookup
    · rw [step, mergeSubscriptionCredentials, load_dump_other hkey, AList.lookup_empty] at hread
      cases hread
  · intro h
    refine ⟨c.settings, fun name v hlatest => ?_⟩
    exact (lookup_load_dump rfl name).trans ((hmerged name).trans (h name v hlatest))

/-- **One call.** The latest values survive a call exactly when it opens the blob or gives every
stored name anew. -/
theorem step_latest_iff (h : s.Sound L) : (step L s c).Kept L ↔
    Opens L c.settings s.credentialsJson ∨
      ∀ name, s.latest name ≠ none → c.given L name ≠ none := by
  rw [kept_step]
  constructor
  · intro hkept
    refine or_iff_not_imp_left.mpr fun hopens name hlatest hnone => ?_
    obtain ⟨v, hv⟩ := Option.ne_none_iff_exists'.mp hlatest
    have hread := hkept name v (by simp [step, hnone, hv])
    rw [load_of_not_opens hopens, hnone] at hread
    simp [given] at hread
  · intro hcases name v hlatest
    change (c.given L name).or (s.latest name) = some v at hlatest
    cases hgiven : c.given L name with
    | some w => rwa [hgiven, Option.some_or] at hlatest
    | none =>
      rw [hgiven, Option.none_or] at hlatest
      obtain hopens | hanew := hcases
      · rw [Option.none_or]
        exact given_eq_some.mpr ⟨h.reads hopens hlatest, h.given name v hlatest⟩
      · exact absurd hgiven (hanew name (by simp [hlatest]))

theorem Subscription.Sound.step (h : s.Sound L) (hopens : Opens L c.settings s.credentialsJson) :
    (step L s c).Sound L where
  written := .inr ⟨_, _, _, rfl⟩
  kept := (step_latest_iff h).mpr (.inl hopens)
  given name v hlatest := by
    rcases Option.or_eq_some_iff.mp hlatest with hnew | ⟨-, hold⟩
    · exact Call.given_eq_some hnew
    · exact h.given name v hold

/-! ## Runs of calls -/

/-- The values survive the call, and a blob that it cannot read is left alone. -/
def Preserves (s : Subscription V) (c : Call V) (s' : Subscription V) : Prop :=
  s'.Kept L ∧ (¬ Opens L c.settings s.credentialsJson → s'.credentialsJson = s.credentialsJson)

theorem preserves_iff (h : s.Sound L) : Preserves (L := L) s c (step L s c) ↔
    Opens L c.settings s.credentialsJson := by
  constructor
  · rintro ⟨-, hsame⟩
    by_contra hopens
    refine hopens ?_
    -- The blob is the one that this very call has written.
    rw [← hsame hopens]
    exact opens_dump.mpr rfl
  · intro hopens
    exact ⟨(h.step hopens).kept, fun hnot => absurd hopens hnot⟩

theorem sound_found (hwritten : Written L raw) : (Subscription.found L settings raw).Sound L where
  written := hwritten
  kept := ⟨settings, fun _ _ h => (given_eq_some.mp h).1⟩
  given _ _ h := (given_eq_some.mp h).2

/-- **Nothing is lost, and what cannot be read is left alone,** in exactly the runs whose calls all
open the blob they find. -/
theorem credentials_kept_iff (settings : Settings) (hwritten : Written L raw)
    (calls : List (Call V)) :
    Run.AllSteps (step L) (Preserves (L := L)) (.found L settings raw) calls ↔
      Run.Meets (step L) (fun s c => Opens L c.settings s.credentialsJson)
        (.found L settings raw) calls :=
  Run.allSteps_iff_of_inv (fun _ _ => Subscription.Sound.step) (fun _ _ => preserves_iff) calls
    (sound_found hwritten)

/-! ## A change of the key -/

/-- A text value among the members of an object. -/
def textMember (m : Text × Json) : Option (Sigma fun _ : Text => Text) :=
  match m.2 with
  | .str s => some ⟨m.1, s⟩
  | _ => none

def objectOf (d : Dict Text) : Json := .obj (d.entries.map fun e => (e.1, .str e.2))

theorem plain_objectOf (d : Dict Text) : (objectOf d).Plain := by
  refine .obj fun m hm => ?_
  obtain ⟨e, -, rfl⟩ := List.mem_map.mp hm
  exact .str _

/-- What signs a text. -/
def signed (key text : Text) : Json := .arr [.str key, .str text]

theorem plain_signed (key text : Text) : (signed key text).Plain := by
  refine .arr fun x hx => ?_
  obtain rfl | rfl := by simpa using hx
  · exact .str _
  · exact .str _

/-- Credentials that are texts. A token shows its key and its text, and no text is a Fernet key. -/
def openLibrary : Library Text Text where
  isSpace c := c = ' '
  dumps d := (objectOf d).dumps
  loads text :=
    match Json.loads text with
    | .ok (.obj members) => some (members.filterMap textMember).toAList
    | _ => none
  isEmpty v := v = []
  fernetKey _ := none
  derivedKey text := text
  encrypt key _ text := (signed key text).dumps
  decrypt key token :=
    match Json.loads token with
    | .ok (.arr [.str signer, .str text]) => if signer = key then some text else none
    | _ => none
  loads_dumps d := by
    rw [Json.loads_dumps (plain_objectOf d)]
    refine ⟨_, rfl, fun name => ?_⟩
    rw [AList.lookup_to_alist, List.filterMap_map]
    exact congrArg (List.dlookup name) List.filterMap_some
  decrypt_encrypt key _ text := by
    rw [Json.loads_dumps (plain_signed key text)]
    exact if_pos rfl
  decrypt_other key key' _ text h := by
    rw [Json.loads_dumps (plain_signed key text)]
    exact if_neg (Ne.symm h)
  token_end key _ text c hc := by
    rw [signed, (Json.dumps_arr_ends _).2, Option.mem_some_iff] at hc
    subst hc
    rfl
  prefix_plain c hc := by
    have hall : (CREDENTIALS_ENC_PREFIX.all fun c => decide (c ≠ ' ')) = true := by decide +kernel
    simpa using List.all_eq_true.mp hall c hc

/-- A call under a key that stores one value. -/
def storing (key name value : String) : Call Text where
  settings := ⟨key.toList, []⟩
  start := []
  creds := some (AList.singleton name.toList value.toList)

theorem credentials_kept_same_key :
    Run.AllSteps (step openLibrary) (Preserves (L := openLibrary))
        (.found openLibrary ⟨"k1".toList, []⟩ none)
        [storing "k1" "portal_password" "s3cret", storing "k1" "username" "u"] ↔
      Run.Meets (step openLibrary) (fun s c => Opens openLibrary c.settings s.credentialsJson)
        (.found openLibrary ⟨"k1".toList, []⟩ none)
        [storing "k1" "portal_password" "s3cret", storing "k1" "username" "u"] :=
  credentials_kept_iff ⟨"k1".toList, []⟩ (.inl rfl) _

/-- The portal password is stored, and the next call has another key. -/
theorem key_change_loses_password :
    ¬ ∀ (L : Library Text Text) (settings : Settings) (raw : Option Text)
      (calls : List (Call Text)), Written L raw →
      Run.AllSteps (step L) (Preserves (L := L)) (.found L settings raw) calls := by
  intro h
  have hsound : (Subscription.found openLibrary ⟨"k1".toList, []⟩ none).Sound openLibrary :=
    sound_found (.inl rfl)
  obtain ⟨hfirst, hsecond, -⟩ := h openLibrary ⟨"k1".toList, []⟩ none
    [storing "k1" "portal_password" "s3cret", storing "k2" "username" "u"] (.inl rfl)
  have hkey := opens_dump.mp
    ((preserves_iff (hsound.step ((preserves_iff hsound).mp hfirst))).mp hsecond)
  exact absurd hkey (by decide)

end Deltapreneur.StoredCredentials
