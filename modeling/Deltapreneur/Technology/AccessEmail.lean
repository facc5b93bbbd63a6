import Deltapreneur.Technology.ProviderAccess

/-!
# What the access email lets out

Whether the email of a subscription depends on a secret that the provider sent, and where its links
lead, over every history of merged responses.

`extract_provider_credentials` drops the members of a section whose key names a secret, but keeps
values that are dictionaries or lists as they are, and `_stringify_credential_value` writes them out
whole. `is_safe_customer_url` compares what stands before the first colon of the authority with the
host of the storefront, so user info can pass for it.

* `SameBut`: two values that differ under keys of secrets at most.
* `Takes`: what the extraction may take from a response, and under which key.
* `Hidden`: a value that the email never writes out: its key is blocked, or it is a list or a
  dictionary under the key of a link.
* `Harmless`: what a response gives to the email holds no secret at any depth, and no link whose
  user info passes for the storefront.

Results:

* `email_safe`: after harmless responses, the email is the same whatever the secrets are, and its
  links lead to the storefront.
* `nested_secret_sent`: a secret in an inner object.
-/

namespace Deltapreneur.ProviderAccess

open Url (urlsplit)

variable (R : Rules) {α β : Type} {t : Text}

/-! ## Secrets -/

def SECRET_KEYS : List Text := texts
  ["access_token", "token", "api_token", "api_key", "client_secret", "refresh_token", "secret"]

/-- The key as the code compares it. -/
def normalKey (key : Text) : Text := R.lower (R.strip key)

def SecretNamed (key : Text) : Prop := normalKey R key ∈ SECRET_KEYS

instance : DecidablePred (SecretNamed R) := fun _ => inferInstanceAs (Decidable (_ ∈ _))

/-- The values differ at most in what they hold under keys of secrets. -/
inductive SameBut : Json → Json → Prop
  | refl (v : Json) : SameBut v v
  | arr {xs ys : List Json} (hlength : xs.length = ys.length)
      (h : ∀ p ∈ xs.zip ys, SameBut p.1 p.2) : SameBut (.arr xs) (.arr ys)
  | obj {ms ns : Dict} (hkeys : ms.map Prod.fst = ns.map Prod.fst)
      (h : ∀ p ∈ ms.zip ns, ¬ SecretNamed R p.1.1 → SameBut p.1.2 p.2.2) :
      SameBut (.obj ms) (.obj ns)

/-- The value has no key of a secret at any depth. -/
inductive Clean : Json → Prop
  | null : Clean .null
  | bool (b : Bool) : Clean (.bool b)
  | num (token : Text) : Clean (.num token)
  | str (s : Text) : Clean (.str s)
  | arr {xs : List Json} (h : ∀ x ∈ xs, Clean x) : Clean (.arr xs)
  | obj {ms : Dict} (hkeys : ∀ m ∈ ms, ¬ SecretNamed R m.1) (h : ∀ m ∈ ms, Clean m.2) :
      Clean (.obj ms)

def isContainer : Json → Bool
  | .arr _ | .obj _ => true
  | _ => false

/-- Two responses that differ at most in secrets. -/
def SameDict (ms ns : Dict) : Prop :=
  List.Forall₂ (fun m n => m.1 = n.1 ∧ (SecretNamed R m.1 ∨ SameBut R m.2 n.2)) ms ns

/-! ## Links -/

/-- What stands before the first colon passes for the storefront, and the host is another. -/
def Misleading (netloc : Text) : Prop :=
  (R.lower netloc).takeWhile (· ≠ ':') = CUSTOMER_STOREFRONT_HOST ∧
    Url.host (R.lower netloc) ≠ CUSTOMER_STOREFRONT_HOST

/-- The authority of the text misleads, with or without the blanks at its end. -/
def MisleadingText (t : Text) : Prop :=
  Misleading R (Url.authority t) ∨ Misleading R ((Url.authority t).rdropWhile R.isSpace)

/-- An `https` URL to the storefront. -/
def SafeLink (t : Text) : Prop :=
  ∃ p, urlsplit R.acceptsNetloc (R.strip t) = some p ∧ p.scheme = "https".toList ∧
    Url.host (R.lower p.netloc) = CUSTOMER_STOREFRONT_HOST

/-! ## What the email gets from a response -/

def IsLinkKey (key : Text) : Prop := normalKey R key ∈ CUSTOMER_ACCESS_URL_KEYS

instance : DecidablePred (IsLinkKey R) := fun _ => inferInstanceAs (Decidable (_ ∈ _))

/-- The email never writes the value out. -/
def Hidden (key : Text) (v : Json) : Prop :=
  isBlockedEmailKey (normalKey R key) = true ∨ IsLinkKey R key ∧ isContainer v = true

/-- `merge` keeps the member. -/
def Keeps (key : Text) (v : Json) : Prop :=
  R.strip key ≠ [] ∧ normalKey R key ∉ CUSTOMER_EMAIL_BLOCKED_KEYS ∧
    ¬ (normalKey R key ∈ SENSITIVE_CREDENTIAL_KEYS ∧ normalKey R key ≠ "password".toList) ∧
    ∀ s, v = .str s → IsLinkKey R key → isSafeCustomerUrl R (.str s) = some true

/-- The extraction may take the value from the response, under the key. -/
inductive Takes (payload : Dict) : Text → Json → Prop
  | member {sect keyPrefix key : Text} {ms : Dict} {v : Json} (hsect : (sect, keyPrefix) ∈ SECTIONS)
      (hms : Json.get? payload sect = some (.obj ms)) (hv : (key, v) ∈ ms)
      (hkeeps : Keeps R key v) : Takes payload (keyPrefix ++ R.strip key) v
  | link {source target t : Text} (htarget : (source, target) ∈
        [("client_access_url".toList, "client_access_url".toList),
          ("portal_login_url".toList, "account_portal_url".toList)])
      (ht : nonemptyStr R ((Json.get? payload source).getD .null) = some t)
      (hsafe : isSafeCustomerUrl R (.str t) = some true) : Takes payload target (.str t)
  | nested {sect key : Text} {allowed : List Text} {ms : Dict} {v : Json}
      (hsect : (sect, allowed) ∈ NESTED_SECTIONS) (hkey : key ∈ allowed)
      (hms : Json.get? payload sect = some (.obj ms)) (hv : Json.get? ms key = some v)
      (hempty : isEmpty v = false)
      (hsafe : key ∈ CUSTOMER_ACCESS_URL_KEYS → isSafeCustomerUrl R v = some true) :
      Takes payload key v

/-- A stored value that is a link leads where it seems to. -/
def Linked (key : Text) (v : Json) : Prop :=
  IsLinkKey R key → isContainer v = false → ¬ MisleadingText R (stringify R v)

/-- The value holds no secret that the email would write out, and is no link that misleads. -/
structure Innocuous (key : Text) (v : Json) : Prop where
  clean : ¬ Hidden R key v → Clean R v
  linked : Linked R key v

/-- What the response gives to the email is free of secrets, and of links that mislead. -/
def Harmless (payload : Dict) : Prop := ∀ key v, Takes R payload key v → Innocuous R key v

/-! ## Values that differ in secrets -/

section Same

variable {R} {v w : Json} {xs ys : List Json} {ms ns : Dict} {key : Text} {c : Char}

theorem forall₂_of_zip {P : α → β → Prop} {l : List α} {l' : List β}
    (hlength : l.length = l'.length) (h : ∀ p ∈ l.zip l', P p.1 p.2) : List.Forall₂ P l l' :=
  List.forall₂_iff_zip.mpr ⟨hlength, fun {a b} hab => h (a, b) hab⟩

theorem keys_of_zip (hkeys : ms.map Prod.fst = ns.map Prod.fst) :
    ∀ p ∈ ms.zip ns, p.1.1 = p.2.1 := by
  have hall : List.Forall₂ (fun m n : Text × Json => m.1 = n.1) ms ns := by
    rw [← List.forall₂_eq_eq_eq, List.forall₂_map_left_iff, List.forall₂_map_right_iff] at hkeys
    exact hkeys
  exact fun p hp => (List.forall₂_iff_zip.mp hall).2 hp

theorem SameBut.sameDict (hkeys : ms.map Prod.fst = ns.map Prod.fst)
    (h : ∀ p ∈ ms.zip ns, ¬ SecretNamed R p.1.1 → SameBut R p.1.2 p.2.2) : SameDict R ms ns := by
  have hlength : ms.length = ns.length := by simpa using congrArg List.length hkeys
  refine forall₂_of_zip hlength fun p hp => ⟨keys_of_zip hkeys p hp, ?_⟩
  exact or_iff_not_imp_left.mpr (h p hp)

theorem SameBut.eq_of_clean (h : SameBut R v w) (hclean : Clean R v) : v = w := by
  induction h with
  | refl v => rfl
  | arr hlength _ ih =>
    cases hclean with
    | arr hxs =>
      refine congrArg Json.arr (List.forall₂_eq_eq_eq ▸ forall₂_of_zip hlength fun p hp => ?_)
      exact ih p hp (hxs _ (List.of_mem_zip hp).1)
  | obj hkeys _ ih =>
    cases hclean with
    | obj hsecret hms =>
      have hlength := congrArg List.length hkeys
      rw [List.length_map, List.length_map] at hlength
      refine congrArg Json.obj (List.forall₂_eq_eq_eq ▸ forall₂_of_zip hlength fun p hp => ?_)
      have hmem := (List.of_mem_zip hp).1
      exact Prod.ext (keys_of_zip hkeys p hp) (ih p hp (hsecret _ hmem) (hms _ hmem))

theorem SameBut.eq_of_scalar (h : SameBut R v w) (hv : isContainer v = false) : v = w := by
  cases h with
  | refl => rfl
  | arr => cases hv
  | obj => cases hv

theorem SameBut.isContainer (h : SameBut R v w) : isContainer w = isContainer v := by
  cases h <;> rfl

theorem SameBut.isEmpty (h : SameBut R v w) : isEmpty w = isEmpty v := by
  cases h with
  | refl => rfl
  | @arr xs ys hlength _ => cases xs <;> cases ys <;> simp at hlength <;> rfl
  | @obj ms ns hkeys _ => cases ms <;> cases ns <;> simp at hkeys <;> rfl

theorem SameDict.refl (ms : Dict) : SameDict R ms ms :=
  List.forall₂_same.mpr fun m _ => ⟨rfl, .inr (.refl m.2)⟩

theorem lookup_same (h : SameDict R ms ns) (hkey : ¬ SecretNamed R key) :
    Option.Rel (SameBut R) (ms.lookup key) (ns.lookup key) := by
  induction h with
  | nil => exact .none
  | @cons m n ms ns hmn _ ih =>
    obtain ⟨k, v⟩ := m
    obtain ⟨k', w⟩ := n
    obtain ⟨rfl, hvw⟩ := hmn
    simp only [List.lookup_cons]
    cases hk : key == k with
    | true =>
      obtain rfl := eq_of_beq hk
      exact .some (hvw.resolve_left hkey)
    | false => exact ih

theorem get_same (h : SameDict R ms ns) (hkey : ¬ SecretNamed R key) :
    Option.Rel (SameBut R) (Json.get? ms key) (Json.get? ns key) :=
  lookup_same (List.forall₂_reverse_iff.mpr h) hkey

theorem foldlM_same {δ ε : Type} {P : α → β → Prop} {Q : δ → ε → Prop} {l : List α} {l' : List β}
    {f : δ → α → Option δ} {g : ε → β → Option ε} (h : List.Forall₂ P l l')
    (hstep : ∀ a ∈ l, ∀ b d e, P a b → Q d e → Option.Rel Q (f d a) (g e b)) :
    ∀ {d : δ} {e : ε}, Q d e → Option.Rel Q (l.foldlM f d) (l'.foldlM g e) := by
  induction h with
  | nil => exact fun hde => .some hde
  | @cons a b l l' hab _ ih =>
    intro d e hde
    simp only [List.foldlM_cons]
    have hrel := hstep a (by simp) b d e hab hde
    generalize f d a = x at hrel ⊢
    generalize g e b = y at hrel ⊢
    cases hrel with
    | none => exact .none
    | some hnext => exact ih (fun a ha => hstep a (by simp [ha])) hnext

/-! ## Lists and dictionaries are no links -/

theorem strip_of_head (hc : R.isSpace c = false) : ∃ t', R.strip (c :: t) = c :: t' := by
  have hdrop : (c :: t).dropWhile R.isSpace = c :: t := List.dropWhile_cons_of_neg (by simp [hc])
  rw [Rules.strip, Trim.strip, hdrop]
  cases hrest : (c :: t).rdropWhile R.isSpace with
  | nil =>
    have hall := List.rdropWhile_eq_nil_iff.mp hrest c (by simp)
    rw [hc] at hall
    cases hall
  | cons d t' =>
    have hhead := Trim.head_of_initial (List.rdropWhile_prefix R.isSpace (l := c :: t)) d
      (by rw [hrest]; rfl)
    cases hhead
    exact ⟨t', rfl⟩

/-- The bracket that a list or a dictionary is written with. -/
structure Bracket (R : Rules) (c : Char) : Prop where
  space : R.isSpace c = false
  start : Url.PlainStart c

theorem bracket_obj : Bracket R '{' := ⟨R.bracket_plain.1, ⟨rfl, rfl, rfl⟩⟩

theorem bracket_arr : Bracket R '[' := ⟨R.bracket_plain.2, ⟨rfl, rfl, rfl⟩⟩

theorem unsafe_of_head (hc : Bracket R c) (v : Json) (hv : nonemptyStr R v = some (c :: t)) :
    isSafeCustomerUrl R v = some false := by
  obtain ⟨p, hsplit, hscheme, -⟩ := Url.urlsplit_of_head R.acceptsNetloc_nil hc.start t
  unfold isSafeCustomerUrl
  rw [hv]
  dsimp only
  split_ifs
  · rfl
  · rw [hsplit]
    simp [safeParts, hscheme]

theorem nonemptyStr_of_head (hc : Bracket R c) (hv : R.str v = c :: t) (hnull : v ≠ .null) :
    ∃ t', nonemptyStr R v = some (c :: t') := by
  obtain ⟨t', hstrip⟩ := strip_of_head (t := t) hc.space
  refine ⟨t', ?_⟩
  cases v with
  | null => exact absurd rfl hnull
  | _ => simp [nonemptyStr, hv, hstrip]

theorem cons_of_head (h : t.head? = some c) : ∃ t', t = c :: t' := by
  cases t with
  | nil => cases h
  | cons d t => exact ⟨t, by rw [Option.some.inj h]⟩

theorem nonemptyStr_of_container (hv : isContainer v = true) :
    ∃ c t, Bracket R c ∧ nonemptyStr R v = some (c :: t) := by
  cases v with
  | arr xs =>
    obtain ⟨t, ht⟩ := cons_of_head (R.repr_arr xs)
    obtain ⟨t', ht'⟩ := nonemptyStr_of_head (v := .arr xs) bracket_arr ht (by simp)
    exact ⟨_, t', bracket_arr, ht'⟩
  | obj ms =>
    obtain ⟨t, ht⟩ := cons_of_head (R.repr_obj ms)
    obtain ⟨t', ht'⟩ := nonemptyStr_of_head (v := .obj ms) bracket_obj ht (by simp)
    exact ⟨_, t', bracket_obj, ht'⟩
  | _ => cases hv

theorem unsafe_of_container (hv : isContainer v = true) : isSafeCustomerUrl R v = some false := by
  obtain ⟨c, t, hc, ht⟩ := nonemptyStr_of_container (R := R) hv
  exact unsafe_of_head hc v ht

theorem unsafe_str_of_head (hc : Bracket R c) :
    isSafeCustomerUrl R (.str (c :: t)) = some false := by
  obtain ⟨t', ht'⟩ := nonemptyStr_of_head (v := .str (c :: t)) hc rfl (by simp)
  exact unsafe_of_head hc _ ht'

theorem stripSecretQuery_of_head (hc : Bracket R c) : stripSecretQuery R (c :: t) = some none := by
  obtain ⟨p, hsplit, hscheme, hnetloc, hpath⟩ :=
    Url.urlsplit_of_head R.acceptsNetloc_nil hc.start t
  unfold stripSecretQuery
  rw [hsplit]
  dsimp only
  split_ifs
  · rfl
  · rfl
  · obtain ⟨t', ht'⟩ := cons_of_head (Url.urlunsplit_head
      (p := { p with query := R.urlencode ((R.parseQsl p.query).filter fun field =>
        R.lower field.1 ∉ SECRET_QUERY_KEYS) }) hscheme hnetloc hpath hc.start.delim)
    rw [ht', unsafe_str_of_head hc]
    rfl

theorem stripSecretQuery_of_container (hv : isContainer v = true) :
    stripSecretQuery R (stringify R v) = some none := by
  cases v with
  | arr xs =>
    obtain ⟨t, ht⟩ := cons_of_head (Json.dumps_arr_ends xs).1
    rw [stringify, ht]
    exact stripSecretQuery_of_head bracket_arr
  | obj ms =>
    obtain ⟨t, ht⟩ := cons_of_head (Json.dumps_obj_ends ms).1
    rw [stringify, ht]
    exact stripSecretQuery_of_head bracket_obj
  | _ => cases hv

end Same

/-! ## Extraction -/

section Extraction

/-- Two values that the email cannot tell apart under their key. -/
def Alike (key : Text) (v w : Json) : Prop :=
  v = w ∨ isEmpty w = isEmpty v ∧ Hidden R key v ∧ Hidden R key w

/-- Credentials that the email cannot tell apart, and whose links do not mislead. -/
def SameCreds (d e : Dict) : Prop :=
  List.Forall₂ (fun m n => m.1 = n.1 ∧ Alike R m.1 m.2 n.2 ∧ Linked R m.1 m.2) d e

variable {R} {v w : Json} {key keyPrefix : Text} {d e : Dict} {m n : Text × Json}
  {payload payload' : Dict}

theorem Alike.isEmpty (h : Alike R key v w) : isEmpty w = isEmpty v := by
  obtain rfl | h := h
  · rfl
  · exact h.1

theorem alike_of_same (h : SameBut R v w) (hclean : ¬ Hidden R key v → Clean R v) :
    Alike R key v w := by
  by_cases hhidden : Hidden R key v
  · exact .inr ⟨h.isEmpty, hhidden, hhidden.imp_right (And.imp_right h.isContainer.trans)⟩
  · exact .inl (h.eq_of_clean (hclean hhidden))

theorem setKey_same (h : SameCreds R d e) (hvw : Alike R key v w) (hlinked : Linked R key v) :
    SameCreds R (setKey d key v) (setKey e key w) := by
  induction h with
  | nil => exact .cons ⟨rfl, hvw, hlinked⟩ .nil
  | @cons m n d e hmn hde ih =>
    obtain ⟨k, x⟩ := m
    obtain ⟨k', y⟩ := n
    obtain ⟨rfl, hxy⟩ := hmn
    unfold setKey
    split_ifs with hk
    · subst hk
      exact .cons ⟨rfl, hvw, hlinked⟩ hde
    · exact .cons ⟨rfl, hxy⟩ ih

theorem map_safe_same {safe : Option Bool} (h : SameCreds R d e)
    (hlinked : safe = some true → Linked R key v) :
    Option.Rel (SameCreds R) (safe.map fun ok => if ok then setKey d key v else d)
      (safe.map fun ok => if ok then setKey e key v else e) := by
  cases safe with
  | none => exact .none
  | some ok =>
    cases ok with
    | true => exact .some (setKey_same h (.inl rfl) (hlinked rfl))
    | false => exact .some h

theorem secret_blocked (h : SecretNamed R key) : normalKey R key ∈ CUSTOMER_EMAIL_BLOCKED_KEYS := by
  have hsub : ∀ k ∈ SECRET_KEYS, k ∈ CUSTOMER_EMAIL_BLOCKED_KEYS := by decide +kernel
  exact hsub _ h

/-- A member of a section whose value is kept is none of a secret. -/
theorem mergeMember_same (hmn : m.1 = n.1 ∧ (SecretNamed R m.1 ∨ SameBut R m.2 n.2))
    (hgood : Keeps R m.1 m.2 → Innocuous R (keyPrefix ++ R.strip m.1) m.2)
    (h : SameCreds R d e) :
    Option.Rel (SameCreds R) (mergeMember R keyPrefix d m) (mergeMember R keyPrefix e n) := by
  obtain ⟨k, v⟩ := m
  obtain ⟨k', w⟩ := n
  obtain ⟨rfl, hvw⟩ := hmn
  dsimp only at hvw hgood
  unfold mergeMember
  dsimp only
  by_cases hblocked : R.strip k = [] ∨ R.lower (R.strip k) ∈ CUSTOMER_EMAIL_BLOCKED_KEYS
  · rw [if_pos hblocked, if_pos hblocked]
    exact .some h
  rw [if_neg hblocked, if_neg hblocked]
  by_cases hsensitive : R.lower (R.strip k) ∈ SENSITIVE_CREDENTIAL_KEYS ∧
      R.lower (R.strip k) ≠ "password".toList
  · rw [if_pos hsensitive, if_pos hsensitive]
    exact .some h
  rw [if_neg hsensitive, if_neg hsensitive]
  have hsame : SameBut R v w :=
    hvw.resolve_left fun hsecret => hblocked (.inr (secret_blocked hsecret))
  rw [not_or] at hblocked
  have htaken (hstr : ∀ s, v = .str s → IsLinkKey R k → isSafeCustomerUrl R (.str s) = some true) :
      SameCreds R (setKey d (keyPrefix ++ R.strip k) v)
        (setKey e (keyPrefix ++ R.strip k) w) := by
    have hinnocuous := hgood ⟨hblocked.1, hblocked.2, hsensitive, hstr⟩
    exact setKey_same h (alike_of_same hsame hinnocuous.clean) hinnocuous.linked
  cases hsame with
  | refl =>
    cases v with
    | str s =>
      dsimp only
      by_cases hlink : R.lower (R.strip k) ∈ CUSTOMER_ACCESS_URL_KEYS
      · rw [if_pos hlink, if_pos hlink]
        refine map_safe_same h fun hsafe => (hgood ⟨hblocked.1, hblocked.2, hsensitive, ?_⟩).linked
        rintro s' hs' -
        obtain rfl := Json.str.inj hs'
        exact hsafe
      · rw [if_neg hlink, if_neg hlink]
        exact .some (htaken fun _ _ h => absurd h hlink)
    | _ => exact .some (htaken (by simp))
  | arr => exact .some (htaken (by simp))
  | obj => exact .some (htaken (by simp))

/-! The names of sections and of their fields are no secrets. -/

theorem normalKey_name (h : ∀ c ∈ key, isNameChar c = true) : normalKey R key = key := by
  have hstrip : R.strip key = key := by
    refine Trim.strip_eq_self (fun c hc => ?_) fun c hc => ?_
    · exact R.name_plain c (h c (List.mem_of_mem_head? hc))
    · exact R.name_plain c (h c (List.mem_of_mem_getLast? hc))
  rw [normalKey, hstrip, R.lower_name key h]

/-- The texts that the extraction looks up. -/
def IsField (key : Text) : Prop := key.all isNameChar = true ∧ key ∉ SECRET_KEYS

instance : DecidablePred IsField := fun _ => inferInstanceAs (Decidable (_ ∧ _))

theorem IsField.not_secret (h : IsField key) : ¬ SecretNamed R key := by
  rw [SecretNamed, normalKey_name (List.all_eq_true.mp h.1)]
  exact h.2

theorem isField_section : ∀ sect ∈ SECTIONS, IsField sect.1 := by decide +kernel

theorem isField_nested : ∀ sect ∈ NESTED_SECTIONS,
    IsField sect.1 ∧ ∀ key ∈ sect.2, IsField key := by decide +kernel

/-- A section counts if it is a dictionary, on both sides. -/
theorem obj_same {x y : Option Json} {f g : Dict → Option Dict} (hde : SameCreds R d e) :
    Option.Rel (SameBut R) x y →
    (∀ ms ns, x = some (.obj ms) → SameDict R ms ns → Option.Rel (SameCreds R) (f ms) (g ns)) →
    Option.Rel (SameCreds R)
      (match x with
        | some (.obj ms) => f ms
        | _ => some d)
      (match y with
        | some (.obj ns) => g ns
        | _ => some e) := by
  intro hxy hobj
  cases hxy with
  | none => exact .some hde
  | @some v w hvw =>
    cases hvw with
    | refl =>
      cases v with
      | obj ms => exact hobj ms ms rfl (.refl ms)
      | _ => exact .some hde
    | arr => exact .some hde
    | obj hkeys h => exact hobj _ _ rfl (SameBut.sameDict hkeys h)

theorem mergeSection_same {sect : Text × Text} (hpayload : SameDict R payload payload')
    (hharmless : Harmless R payload) (hsect : sect ∈ SECTIONS) (h : SameCreds R d e) :
    Option.Rel (SameCreds R) (mergeSection R payload d sect) (mergeSection R payload' e sect) := by
  have hget := get_same hpayload (isField_section sect hsect).not_secret
  have hmember : ∀ key ms v, Json.get? payload sect.1 = some (.obj ms) → (key, v) ∈ ms →
      Keeps R key v → Takes R payload (sect.2 ++ R.strip key) v :=
    fun _ _ _ hms hv hkeeps => .member hsect hms hv hkeeps
  unfold mergeSection
  refine obj_same h hget fun ms ns hms hmembers => ?_
  refine foldlM_same hmembers (fun m hm n d e hmn hde => ?_) h
  refine mergeMember_same hmn (fun hkeeps => ?_) hde
  exact hharmless _ _ (hmember m.1 ms m.2 hms hm hkeeps)

theorem mergeLink_same {source target : Text} (hpayload : SameDict R payload payload')
    (hharmless : Harmless R payload) (hfield : IsField source)
    (htarget : (source, target) ∈ [("client_access_url".toList, "client_access_url".toList),
      ("portal_login_url".toList, "account_portal_url".toList)]) (h : SameCreds R d e) :
    Option.Rel (SameCreds R) (mergeLink R payload d source target)
      (mergeLink R payload' e source target) := by
  have hget := get_same hpayload hfield.not_secret
  have hlink : ∀ t, nonemptyStr R ((Json.get? payload source).getD .null) = some t →
      isSafeCustomerUrl R (.str t) = some true → Takes R payload target (.str t) :=
    fun _ ht hsafe => .link htarget ht hsafe
  unfold mergeLink
  generalize Json.get? payload source = x at hget hlink ⊢
  generalize Json.get? payload' source = y at hget ⊢
  cases hget with
  | none => exact .some h
  | @some v w hvw =>
    simp only [Option.getD_some] at hlink ⊢
    by_cases hv : isContainer v = true
    · obtain ⟨c, t, hc, ht⟩ := nonemptyStr_of_container (R := R) hv
      obtain ⟨c', t', hc', ht'⟩ := nonemptyStr_of_container (R := R) (hvw.isContainer.trans hv)
      rw [ht, ht']
      dsimp only
      rw [unsafe_str_of_head hc, unsafe_str_of_head hc']
      exact .some h
    · obtain rfl := hvw.eq_of_scalar (by simpa using hv)
      cases ht : nonemptyStr R v with
      | none => exact .some h
      | some t => exact map_safe_same h fun hsafe => (hharmless _ _ (hlink t ht hsafe)).linked

theorem mergeNestedKey_same {members members' : Dict} (hmembers : SameDict R members members')
    (hfield : IsField key) (hgood : ∀ v, Json.get? members key = some v → isEmpty v = false →
      (key ∈ CUSTOMER_ACCESS_URL_KEYS → isSafeCustomerUrl R v = some true) → Innocuous R key v)
    (h : SameCreds R d e) : Option.Rel (SameCreds R) (mergeNestedKey R members d key)
      (mergeNestedKey R members' e key) := by
  have hget := get_same hmembers hfield.not_secret
  unfold mergeNestedKey
  generalize Json.get? members key = x at hget hgood ⊢
  generalize Json.get? members' key = y at hget ⊢
  cases hget with
  | none => exact .some h
  | @some v w hvw =>
    simp only [Option.getD_some, hvw.isEmpty]
    cases hempty : ProviderAccess.isEmpty v with
    | true => exact .some h
    | false =>
      simp only [Bool.false_eq_true, if_false]
      by_cases hlink : key ∈ CUSTOMER_ACCESS_URL_KEYS
      · rw [if_pos hlink, if_pos hlink]
        by_cases hv : isContainer v = true
        · rw [unsafe_of_container hv, unsafe_of_container (hvw.isContainer.trans hv)]
          exact .some h
        · obtain rfl := hvw.eq_of_scalar (by simpa using hv)
          exact map_safe_same h fun hsafe => (hgood v rfl hempty fun _ => hsafe).linked
      · rw [if_neg hlink, if_neg hlink]
        have hinnocuous := hgood v rfl hempty fun h => absurd h hlink
        exact .some (setKey_same h (alike_of_same hvw hinnocuous.clean) hinnocuous.linked)

theorem mergeNested_same {sect : Text × List Text} (hpayload : SameDict R payload payload')
    (hharmless : Harmless R payload) (hsect : sect ∈ NESTED_SECTIONS) (h : SameCreds R d e) :
    Option.Rel (SameCreds R) (mergeNested R payload d sect) (mergeNested R payload' e sect) := by
  obtain ⟨hfield, hallowed⟩ := isField_nested sect hsect
  have hget := get_same hpayload hfield.not_secret
  have htakes : ∀ key ms v, key ∈ sect.2 → Json.get? payload sect.1 = some (.obj ms) →
      Json.get? ms key = some v → isEmpty v = false →
      (key ∈ CUSTOMER_ACCESS_URL_KEYS → isSafeCustomerUrl R v = some true) →
      Takes R payload key v :=
    fun _ _ _ hkey hms hv hempty hsafe => .nested hsect hkey hms hv hempty hsafe
  unfold mergeNested
  refine obj_same h hget fun ms ns hms hmembers => ?_
  refine foldlM_same (List.forall₂_same.mpr fun key _ => rfl) (fun key hkey _ d e hk hde => ?_) h
  obtain rfl := hk
  refine mergeNestedKey_same hmembers (hallowed key hkey) (fun v hv hempty hsafe => ?_) hde
  exact hharmless _ _ (htakes key ms v hkey hms hv hempty hsafe)

theorem bind_same {δ ε : Type} {P : α → β → Prop} {Q : δ → ε → Prop} {x : Option α} {y : Option β}
    {f : α → Option δ} {g : β → Option ε} (h : Option.Rel P x y)
    (hnext : ∀ a b, P a b → Option.Rel Q (f a) (g b)) : Option.Rel Q (x >>= f) (y >>= g) := by
  cases h with
  | none => exact .none
  | some hab => exact hnext _ _ hab

/-- **Extraction.** What is taken from a harmless response does not depend on its secrets, up to
what the email never writes out. -/
theorem extract_same (hpayload : SameDict R payload payload') (hharmless : Harmless R payload) :
    Option.Rel (SameCreds R) (extractProviderCredentials R payload)
      (extractProviderCredentials R payload') := by
  have hsections : Option.Rel (SameCreds R) (SECTIONS.foldlM (mergeSection R payload) [])
      (SECTIONS.foldlM (mergeSection R payload') []) := by
    refine foldlM_same (List.forall₂_same.mpr fun sect _ => rfl) (fun sect hsect _ d e hs hde => ?_)
      List.Forall₂.nil
    obtain rfl := hs
    exact mergeSection_same hpayload hharmless hsect hde
  unfold extractProviderCredentials
  refine bind_same hsections fun d e hde => ?_
  refine bind_same (mergeLink_same hpayload hharmless (by decide +kernel) (by simp) hde)
    fun d e hde => ?_
  refine bind_same (mergeLink_same hpayload hharmless (by decide +kernel) (by simp) hde)
    fun d e hde => ?_
  refine foldlM_same (List.forall₂_same.mpr fun sect _ => rfl)
    (fun sect hsect _ d e hs hde => ?_) hde
  obtain rfl := hs
  exact mergeNested_same hpayload hharmless hsect hde

/-! ## The stored credentials -/

theorem mergePart_same {part part' : Dict} (hpart : SameCreds R part part') :
    ∀ {d e : Dict}, SameCreds R d e → SameCreds R (mergePart d part) (mergePart e part') := by
  induction hpart with
  | nil => exact fun hde => hde
  | @cons m n part part' hmn _ ih =>
    intro d e hde
    obtain ⟨k, v⟩ := m
    obtain ⟨k', w⟩ := n
    obtain ⟨rfl, hvw, hlinked⟩ := hmn
    refine ih ?_
    dsimp only at hvw hlinked ⊢
    rw [hvw.isEmpty]
    split_ifs
    · exact hde
    · exact setKey_same hde hvw hlinked

theorem isContainer_sortKeys (v : Json) : isContainer (sortKeys v) = isContainer v := by
  cases v <;> simp [sortKeys, isContainer]

theorem sortKeys_of_scalar (hv : isContainer v = false) : sortKeys v = v := by
  cases v <;> first | rfl | cases hv

theorem length_sortMembers : ∀ ms : Dict, (sortMembers ms).length = ms.length
  | [] => rfl
  | (k, x) :: ms => by simp [sortMembers, length_sortMembers ms]

theorem isEmpty_sortKeys (v : Json) : isEmpty (sortKeys v) = isEmpty v := by
  cases v with
  | arr xs => cases xs <;> rfl
  | obj ms =>
    cases hs : (sortMembers ms).insertionSort byKey with
    | nil =>
      have hlength := congrArg List.length hs
      rw [List.length_insertionSort, length_sortMembers] at hlength
      rw [List.length_eq_zero_iff.mp hlength]
      rfl
    | cons m ns =>
      have hne : ms ≠ [] := by
        rintro rfl
        cases hs
      obtain ⟨n, ms, rfl⟩ := List.exists_cons_of_ne_nil hne
      rw [sortKeys, hs]
      rfl
  | _ => rfl

theorem Hidden.sortKeys (h : Hidden R key v) : Hidden R key (sortKeys v) :=
  h.imp_right (And.imp_right (isContainer_sortKeys v).trans)

theorem Alike.sortKeys (h : Alike R key v w) : Alike R key (sortKeys v) (sortKeys w) := by
  obtain rfl | ⟨hempty, hv, hw⟩ := h
  · exact .inl rfl
  · exact .inr ⟨by rw [isEmpty_sortKeys, isEmpty_sortKeys, hempty], hv.sortKeys, hw.sortKeys⟩

theorem Linked.sortKeys (h : Linked R key v) : Linked R key (sortKeys v) := by
  intro hlink hv
  rw [isContainer_sortKeys] at hv
  rw [sortKeys_of_scalar hv]
  exact h hlink hv

theorem sortMembers_same (h : SameCreds R d e) : SameCreds R (sortMembers d) (sortMembers e) := by
  induction h with
  | nil => exact .nil
  | @cons m n d e hmn _ ih =>
    obtain ⟨k, v⟩ := m
    obtain ⟨k', w⟩ := n
    obtain ⟨rfl, hvw, hlinked⟩ := hmn
    exact .cons ⟨rfl, hvw.sortKeys, hlinked.sortKeys⟩ ih

theorem orderedInsert_same (hmn : m.1 = n.1 ∧ Alike R m.1 m.2 n.2 ∧ Linked R m.1 m.2)
    (h : SameCreds R d e) : SameCreds R (d.orderedInsert byKey m) (e.orderedInsert byKey n) := by
  induction h with
  | nil => exact .cons hmn .nil
  | @cons m' n' d e hmn' hde ih =>
    have hiff : byKey m m' ↔ byKey n n' := by rw [byKey, byKey, hmn.1, hmn'.1]
    rw [List.orderedInsert_cons, List.orderedInsert_cons]
    by_cases hle : byKey m m'
    · rw [if_pos hle, if_pos (hiff.mp hle)]
      exact .cons hmn (.cons hmn' hde)
    · rw [if_neg hle, if_neg (mt hiff.mpr hle)]
      exact .cons hmn' ih

theorem insertionSort_same (h : SameCreds R d e) :
    SameCreds R (d.insertionSort byKey) (e.insertionSort byKey) := by
  induction h with
  | nil => exact .nil
  | cons hmn _ ih =>
    rw [List.insertionSort_cons, List.insertionSort_cons]
    exact orderedInsert_same hmn ih

/-- **A merge.** -/
theorem merge_same (hpayload : SameDict R payload payload') (hharmless : Harmless R payload)
    (h : SameCreds R d e) : SameCreds R (mergeSubscriptionCredentials R d payload)
      (mergeSubscriptionCredentials R e payload') := by
  have hextract := extract_same hpayload hharmless
  unfold mergeSubscriptionCredentials
  generalize extractProviderCredentials R payload = x at hextract ⊢
  generalize extractProviderCredentials R payload' = y at hextract ⊢
  cases hextract with
  | none => exact h
  | some hcreds =>
    exact insertionSort_same (sortMembers_same (mergePart_same hcreds (mergePart_same h .nil)))

/-- **A history of merges.** -/
theorem history_same {history history' : List Dict}
    (hsame : List.Forall₂ (SameDict R) history history') :
    ∀ {d e : Dict}, (∀ payload ∈ history, Harmless R payload) → SameCreds R d e →
      SameCreds R (Run.exec (mergeSubscriptionCredentials R) d history)
        (Run.exec (mergeSubscriptionCredentials R) e history') := by
  induction hsame with
  | nil => exact fun _ h => h
  | cons hpayload _ ih =>
    intro d e hharmless h
    refine ih (fun payload hmem => hharmless payload (by simp [hmem])) ?_
    exact merge_same hpayload (hharmless _ (by simp)) h

end Extraction

/-! ## The email -/

section Email

variable {R} {v : Json} {key : Text} {d e : Dict} {production : Bool} {draft : Draft}

theorem draftMember_hidden (h : Hidden R key v) :
    draftMember R production draft (key, v) = some draft := by
  unfold draftMember
  dsimp only
  obtain h | ⟨hlink, hv⟩ := h
  · rw [if_pos (.inr h)]
  · rw [stripSecretQuery_of_container hv]
    have hlink' : R.lower (R.strip key) ∈ CUSTOMER_ACCESS_URL_KEYS := hlink
    rw [if_pos hlink']
    split_ifs <;> rfl

theorem draft_same (h : SameCreds R d e) (draft : Draft) :
    d.foldlM (draftMember R production) draft = e.foldlM (draftMember R production) draft := by
  induction h generalizing draft with
  | nil => rfl
  | @cons m n d e hmn _ ih =>
    obtain ⟨k, v⟩ := m
    obtain ⟨k', w⟩ := n
    obtain ⟨rfl, rfl | ⟨-, hv, hw⟩, -⟩ := hmn
    · rw [List.foldlM_cons, List.foldlM_cons]
      exact congrArg _ (funext ih)
    · rw [List.foldlM_cons, List.foldlM_cons, draftMember_hidden hv, draftMember_hidden hw]
      exact ih draft

/-- **The email.** Credentials alike give one email. -/
theorem email_same (h : SameCreds R d e) :
    customerAccessEmailFields R production d = customerAccessEmailFields R production e := by
  rw [customerAccessEmailFields, customerAccessEmailFields, draft_same h]

/-! The links of the email. -/

theorem safe_spec (h : isSafeCustomerUrl R (.str t) = some true) :
    ∃ p, urlsplit R.acceptsNetloc (R.strip t) = some p ∧ p.scheme = "https".toList ∧
      p.netloc ≠ [] ∧ (R.lower p.netloc).takeWhile (· ≠ ':') = CUSTOMER_STOREFRONT_HOST := by
  have hstr : nonemptyStr R (.str t) = if R.strip t = [] then none else some (R.strip t) := rfl
  unfold isSafeCustomerUrl at h
  rw [hstr] at h
  by_cases hempty : R.strip t = []
  · rw [if_pos hempty] at h
    cases h
  rw [if_neg hempty] at h
  dsimp only at h
  split_ifs at h
  · cases h
  · cases hsplit : urlsplit R.acceptsNetloc (R.strip t) with
    | none =>
      rw [hsplit] at h
      cases h
    | some p =>
      rw [hsplit] at h
      have hparts : safeParts R p = true := Option.some.inj h
      simp only [safeParts, decide_eq_true_eq] at hparts
      obtain ⟨hscheme, hnetloc, -, -, -, -, -, -, -, hhost, -⟩ := hparts
      exact ⟨p, rfl, hscheme, hnetloc, hhost⟩

/-- A link that is sent leads to the storefront unless its user info misleads. -/
theorem cleaned_safe {cleaned : Text} (h : stripSecretQuery R t = some (some cleaned))
    (hplain : ¬ MisleadingText R t) : SafeLink R cleaned := by
  unfold stripSecretQuery at h
  cases hsplit : urlsplit R.acceptsNetloc t with
  | none =>
    rw [hsplit] at h
    cases h
  | some p =>
    rw [hsplit] at h
    dsimp only at h
    split_ifs at h
    · cases h
    · cases h
    · obtain ⟨safe, hsafe, hcleaned⟩ := Option.map_eq_some_iff.mp h
      split_ifs at hcleaned with hok
      cases hcleaned
      rw [hok] at hsafe
      obtain ⟨p', hsplit', hscheme, hnetloc, hhost⟩ := safe_spec hsafe
      refine ⟨p', hsplit', hscheme, ?_⟩
      by_contra hother
      have hmisleading : Misleading R p'.netloc := ⟨hhost, hother⟩
      have hauthority := Url.netloc_of_resplit R.removed_blank R.delim_plain hsplit hsplit'
        hnetloc
      obtain heq | heq := hauthority
      · exact hplain (.inl (heq ▸ hmisleading))
      · exact hplain (.inr (heq ▸ hmisleading))

variable (R) in
/-- The links of the fields lead to the storefront. -/
def SafeFields (fields : List Field) : Prop :=
  ∀ field ∈ fields, R.lower field.key ∈ CUSTOMER_ACCESS_URL_KEYS → SafeLink R field.value

variable (R) in
structure SafeDraft (draft : Draft) : Prop where
  fields : SafeFields R draft.fields
  candidates : ∀ e ∈ draft.urlCandidates, SafeLink R e.2

theorem mem_setUrl {url : Text} : ∀ {l : List (Text × Text)} {e : Text × Text},
    e ∈ setUrl l key url → e ∈ l ∨ e.2 = url
  | [], e, h => .inr (by rw [List.mem_singleton.mp h])
  | (k, u) :: l, e, h => by
    unfold setUrl at h
    split_ifs at h
    · rcases List.mem_cons.mp h with rfl | h
      · exact .inr rfl
      · exact .inl (List.mem_cons_of_mem _ h)
    · rcases List.mem_cons.mp h with rfl | h
      · exact .inl List.mem_cons_self
      · exact (mem_setUrl h).imp_left (List.mem_cons_of_mem _)

theorem draftMember_safe {draft' : Draft} (hlinked : Linked R key v) (h : SafeDraft R draft)
    (hstep : draftMember R production draft (key, v) = some draft') : SafeDraft R draft' := by
  by_cases hhidden : Hidden R key v
  · rw [draftMember_hidden hhidden] at hstep
    exact Option.some.inj hstep ▸ h
  unfold draftMember at hstep
  dsimp only at hstep
  split_ifs at hstep with _ _ _ _ _ _ hlink
  -- The six tests that pass over a member.
  iterate 6 exact Option.some.inj hstep ▸ h
  · have hcontainer : isContainer v = false := by
      by_contra hv
      exact hhidden (.inr ⟨hlink, by simpa using hv⟩)
    cases hclean : stripSecretQuery R (stringify R v) with
    | none =>
      rw [hclean] at hstep
      cases hstep
    | some cleaned? =>
      rw [hclean] at hstep
      cases cleaned? with
      | none => exact Option.some.inj hstep ▸ h
      | some cleaned =>
        have hsafe := cleaned_safe hclean (hlinked hlink hcontainer)
        have hcandidates : ∀ e ∈ setUrl draft.urlCandidates (R.lower (R.strip key)) cleaned,
            SafeLink R e.2 := by
          intro e he
          rcases mem_setUrl he with he | heq
          · exact h.candidates e he
          · exact heq ▸ hsafe
        dsimp only at hstep
        split_ifs at hstep
        · cases hstep
          exact ⟨h.fields, hcandidates⟩
        · cases hstep
          refine ⟨fun field hfield hkey => ?_, hcandidates⟩
          rcases List.mem_append.mp hfield with hfield | hfield
          · exact h.fields field hfield hkey
          · rw [List.mem_singleton.mp hfield]
            exact hsafe
  · cases hstep
    refine ⟨fun field hfield hkey => ?_, h.candidates⟩
    rcases List.mem_append.mp hfield with hfield | hfield
    · exact h.fields field hfield hkey
    · rw [List.mem_singleton.mp hfield] at hkey
      exact absurd hkey hlink

theorem draft_safe : ∀ {d : Dict} {draft draft' : Draft}, (∀ m ∈ d, Linked R m.1 m.2) →
    SafeDraft R draft → d.foldlM (draftMember R production) draft = some draft' →
    SafeDraft R draft'
  | [], _, _, _, h, hrun => Option.some.inj hrun ▸ h
  | m :: d, draft, draft', hlinked, h, hrun => by
    rw [List.foldlM_cons] at hrun
    obtain ⟨next, hstep, hrest⟩ := Option.bind_eq_some_iff.mp hrun
    refine draft_safe (fun m' hm' => hlinked m' (List.mem_cons_of_mem _ hm')) ?_ hrest
    exact draftMember_safe (hlinked m List.mem_cons_self) h hstep

theorem pickLoginUrl_mem {candidates : List (Text × Text)} {url : Text}
    (h : pickLoginUrl candidates = some url) : ∃ e ∈ candidates, e.2 = url := by
  unfold pickLoginUrl at h
  cases hpref : (URL_KEY_PREFERENCE.filterMap fun key => candidates.lookup key).head? with
  | none =>
    rw [hpref] at h
    exact List.mem_map.mp (List.mem_of_mem_head? h)
  | some u =>
    rw [hpref] at h
    obtain rfl := Option.some.inj h
    obtain ⟨k, -, hk⟩ := List.mem_filterMap.mp (List.mem_of_mem_head? hpref)
    obtain ⟨l, l', rfl, -⟩ := List.lookup_eq_some_iff.mp hk
    exact ⟨(k, u), by simp, rfl⟩

variable (R) in
/-- The links of an email, and its login URL, lead to the storefront. -/
def SafeEmail (email : List Field × Option Text) : Prop :=
  SafeFields R email.1 ∧ ∀ url ∈ email.2, SafeLink R url

theorem safe_of_linked {email : List Field × Option Text} (hlinked : ∀ m ∈ d, Linked R m.1 m.2)
    (h : customerAccessEmailFields R production d = some email) : SafeEmail R email := by
  obtain ⟨draft, hrun, rfl⟩ := Option.map_eq_some_iff.mp h
  have hsafe := draft_safe hlinked ⟨by simp [SafeFields], by simp⟩ hrun
  refine ⟨hsafe.fields, fun url hurl => ?_⟩
  obtain ⟨e, he, rfl⟩ := pickLoginUrl_mem hurl
  exact hsafe.candidates e he

end Email

/-- **The access email.** After harmless responses the email is the same whatever the secrets of the
responses are, and its links lead to the storefront. -/
theorem email_safe (production : Bool) (stored : Dict)
    (hstored : ∀ m ∈ stored, Linked R m.1 m.2) {history : List Dict}
    (hharmless : ∀ payload ∈ history, Harmless R payload) :
    (∀ history', List.Forall₂ (SameDict R) history history' →
      customerAccessEmailFields R production
          (Run.exec (mergeSubscriptionCredentials R) stored history) =
        customerAccessEmailFields R production
          (Run.exec (mergeSubscriptionCredentials R) stored history')) ∧
    ∀ email, customerAccessEmailFields R production
        (Run.exec (mergeSubscriptionCredentials R) stored history) = some email →
      SafeEmail R email := by
  have hself : SameCreds R stored stored :=
    List.forall₂_same.mpr fun m hm => ⟨rfl, .inl rfl, hstored m hm⟩
  refine ⟨fun history' hsame => email_same (history_same hsame hharmless hself),
    fun email hemail => ?_⟩
  have hkept := history_same (List.forall₂_same.mpr fun payload _ => .refl payload) hharmless hself
  exact safe_of_linked (fun m hm => (List.forall₂_same.mp hkept m hm).2.2) hemail

def isAsciiSpace (c : Char) : Bool := c = ' ' ∨ ('\t' ≤ c ∧ c ≤ '\r')

theorem nameChar_ascii : ∀ c, isNameChar c = true → c.toLower = c ∧ isAsciiSpace c = false := by
  have htable : ("abcdefghijklmnopqrstuvwxyz_".toList.all fun c =>
      c.toLower = c ∧ isAsciiSpace c = false) = true := by decide +kernel
  exact fun c hc => of_decide_eq_true (List.all_eq_true.mp htable c (of_decide_eq_true hc))

/-- The rules for texts of ASCII characters without a query. -/
def asciiRules : Rules where
  isSpace := isAsciiSpace
  lower := List.map Char.toLower
  title t := t
  numText t := t
  repr := Json.dumps
  acceptsNetloc _ := true
  parseQsl _ := []
  urlencode _ := []
  repr_obj ms := (Json.dumps_obj_ends ms).1
  repr_arr xs := (Json.dumps_arr_ends xs).1
  removed_blank c hc := by
    simp only [Url.isRemoved, Bool.decide_or, Bool.or_eq_true, decide_eq_true_eq] at hc
    obtain rfl | rfl | rfl := hc <;> rfl
  delim_plain c hc := by
    simp only [Url.isDelim, Bool.decide_or, Bool.or_eq_true, decide_eq_true_eq] at hc
    obtain rfl | rfl | rfl := hc <;> rfl
  bracket_plain := ⟨rfl, rfl⟩
  acceptsNetloc_nil := rfl
  name_plain c hc := (nameChar_ascii c hc).2
  lower_name t ht := by
    rw [List.map_congr_left fun c hc => (nameChar_ascii c (ht c hc)).1, List.map_id']

def storefrontLink : Text := "https://deltaosportal.deltapreneur.com/jo".toList

/-- A response with a key, a user name and a link. -/
def keyedResponse (key : String) : Dict :=
  [("credentials".toList, .obj [("username".toList, .str "jo".toList),
      ("api_key".toList, .str key.toList)]),
    ("client_access_url".toList, .str storefrontLink)]

theorem sameDict_keyed (key key' : String) :
    SameDict asciiRules (keyedResponse key) (keyedResponse key') := by
  refine .cons ⟨rfl, .inr (.obj rfl ?_)⟩ (.cons ⟨rfl, .inr (.refl _)⟩ .nil)
  simp only [List.zip_cons_cons, List.zip_nil_right, List.mem_cons, List.not_mem_nil, or_false,
    forall_eq_or_imp, forall_eq]
  refine ⟨fun _ => .refl _, fun h => absurd ?_ h⟩
  decide +kernel

theorem harmless_keyed : Harmless asciiRules (keyedResponse "k1") := by
  intro k v htakes
  cases htakes with
  | @member sect _ key ms v hsect hms hv hkeeps =>
    have hsects : ∀ s ∈ SECTIONS, s.1 = "credentials".toList ∨
        (Json.get? (keyedResponse "k1") s.1).isNone := by decide +kernel
    rcases hsects _ hsect with rfl | hnone
    · obtain rfl : _ = ms := Json.obj.inj (Option.some.inj hms)
      simp only [List.mem_cons, List.not_mem_nil, or_false, Prod.mk.injEq] at hv
      obtain ⟨rfl, rfl⟩ | ⟨rfl, rfl⟩ := hv
      · have hprefixes : ∀ s ∈ SECTIONS, s.1 = "credentials".toList → s.2 = [] := by decide +kernel
        have hplain : ¬ IsLinkKey asciiRules (asciiRules.strip "username".toList) := by
          decide +kernel
        refine ⟨fun _ => .str _, fun hlink => absurd ?_ hplain⟩
        have hnil := hprefixes _ hsect rfl
        dsimp only at hnil
        rw [hnil] at hlink
        exact hlink
      · exact absurd hkeeps.2.1 (by decide +kernel)
    · rw [hms] at hnone
      cases hnone
  | @link source target t htarget ht hsafe =>
    refine ⟨fun _ => .str _, fun _ _ => ?_⟩
    simp only [List.mem_cons, List.not_mem_nil, or_false, Prod.mk.injEq] at htarget
    obtain ⟨rfl, rfl⟩ | ⟨rfl, rfl⟩ := htarget
    · obtain rfl : storefrontLink = t := Option.some.inj ht
      rintro (h | h) <;> exact absurd h.2 (by decide +kernel)
    · cases ht
  | @nested sect _ allowed ms v hsect hkey hms hv hempty hsafe =>
    have hsects : ∀ s ∈ NESTED_SECTIONS, (Json.get? (keyedResponse "k1") s.1).isNone := by
      decide +kernel
    have hnone := hsects _ hsect
    rw [hms] at hnone
    cases hnone

/-- The access email of a response with a key, and of one with another key. -/
theorem email_safe_keyed :
    customerAccessEmailFields asciiRules true
        (Run.exec (mergeSubscriptionCredentials asciiRules) [] [keyedResponse "k1"]) =
      customerAccessEmailFields asciiRules true
        (Run.exec (mergeSubscriptionCredentials asciiRules) [] [keyedResponse "k2"]) := by
  have hharmless : ∀ payload ∈ [keyedResponse "k1"], Harmless asciiRules payload :=
    fun payload h => List.mem_singleton.mp h ▸ harmless_keyed
  exact (email_safe asciiRules true [] (by simp) hharmless).1 _
    (.cons (sameDict_keyed "k1" "k2") .nil)

/-- A response with a key inside a member of its credentials. -/
def nestedResponse (key : String) : Dict :=
  [("credentials".toList, .obj [("smtp".toList, .obj [("api_key".toList, .str key.toList)])])]

/-- **A nested secret is sent.** -/
theorem nested_secret_sent :
    List.Forall₂ (SameDict asciiRules) [nestedResponse "k1"] [nestedResponse "k2"] ∧
      customerAccessEmailFields asciiRules true
          (Run.exec (mergeSubscriptionCredentials asciiRules) [] [nestedResponse "k1"]) ≠
        customerAccessEmailFields asciiRules true
          (Run.exec (mergeSubscriptionCredentials asciiRules) [] [nestedResponse "k2"]) := by
  refine ⟨.cons (.cons ⟨rfl, .inr (.obj rfl ?_)⟩ .nil) .nil, by decide +kernel⟩
  intro p hp _
  obtain rfl := List.mem_singleton.mp hp
  refine .obj rfl fun p hp h => absurd ?_ h
  obtain rfl := List.mem_singleton.mp hp
  decide +kernel

end Deltapreneur.ProviderAccess
