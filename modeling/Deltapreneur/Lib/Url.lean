import Deltapreneur.Lib.Trim

/-!
# Splitting a URL

`urlsplit` and `urlunsplit` of the Python standard library. What `urlsplit` refuses as an authority
(brackets that are not an IP address, characters that normalise to delimiters) is a parameter;
there it raises `ValueError`.

* `host`: what an authority names once user info and port are removed.
* `authority`: what stands after the first two slashes of a text, up to the next delimiter.

Results:

* `netloc_of_resplit`: a split URL that is put together with another query, trimmed and split again
  has the authority of the first text, up to blanks at its end.
* `urlsplit_of_head`: a text that starts with neither a letter nor a delimiter has no scheme and no
  authority.
-/

namespace Url

/-- `SplitResult`. -/
structure Split where
  scheme : List Char
  netloc : List Char
  path : List Char
  query : List Char
  fragment : List Char
  deriving Repr, DecidableEq

/-- Cut from the left: `_WHATWG_C0_CONTROL_OR_SPACE`. -/
def isStripped (c : Char) : Bool := c.toNat ≤ 32

/-- Cut everywhere: `_UNSAFE_URL_BYTES_TO_REMOVE`. -/
def isRemoved (c : Char) : Bool := c = '\t' ∨ c = '\r' ∨ c = '\n'

/-- `scheme_chars`. -/
def isSchemeChar (c : Char) : Bool := c.isAlphanum ∨ c = '+' ∨ c = '-' ∨ c = '.'

/-- What ends an authority. -/
def isDelim (c : Char) : Bool := c = '/' ∨ c = '?' ∨ c = '#'

/-- `uses_netloc`. -/
def USES_NETLOC : List String :=
  ["", "ftp", "http", "gopher", "nntp", "telnet", "imap", "wais", "file", "mms", "https", "shttp",
    "snews", "prospero", "rtsp", "rtsps", "rtspu", "rsync", "svn", "svn+ssh", "sftp", "nfs", "git",
    "git+ssh", "ws", "wss"]

def clean (url : List Char) : List Char := (url.dropWhile isStripped).filter fun c => !isRemoved c

def splitScheme (url : List Char) : List Char × List Char :=
  let name := url.takeWhile (· ≠ ':')
  if name.length < url.length ∧ name.head?.any Char.isAlpha ∧ name.all isSchemeChar then
    (name.map Char.toLower, url.drop (name.length + 1))
  else ([], url)

/-- The authority after two slashes, and the rest. -/
def splitNetloc : List Char → List Char × List Char
  | '/' :: '/' :: rest => (rest.takeWhile (!isDelim ·), rest.dropWhile (!isDelim ·))
  | url => ([], url)

/-- `url.split(c, 1)`, with an empty second part where `c` is missing. -/
def splitFirst (c : Char) (url : List Char) : List Char × List Char :=
  (url.takeWhile (· ≠ c), (url.dropWhile (· ≠ c)).tail)

/-- `urlsplit`. -/
def urlsplit (accepts : List Char → Bool) (url : List Char) : Option Split :=
  let scheme := splitScheme (clean url)
  let netloc := splitNetloc scheme.2
  let fragment := splitFirst '#' netloc.2
  let query := splitFirst '?' fragment.1
  if accepts netloc.1 then some ⟨scheme.1, netloc.1, query.1, query.2, fragment.2⟩ else none

/-- A path after an authority. -/
def rooted (path : List Char) : List Char :=
  if path ≠ [] ∧ path.head? ≠ some '/' then '/' :: path else path

/-- Authority and path put together. -/
def body (scheme netloc path : List Char) : List Char :=
  if netloc ≠ [] ∨ (scheme ≠ [] ∧ String.ofList scheme ∈ USES_NETLOC) ∨ ['/', '/'] <+: path then
    '/' :: '/' :: netloc ++ rooted path
  else path

/-- Scheme, authority and path put together. -/
def front (scheme netloc path : List Char) : List Char :=
  if scheme ≠ [] then scheme ++ ':' :: body scheme netloc path else body scheme netloc path

/-- Query and fragment put together. -/
def back (query fragment : List Char) : List Char :=
  (if query ≠ [] then '?' :: query else []) ++ if fragment ≠ [] then '#' :: fragment else []

/-- `urlunsplit`. -/
def urlunsplit (p : Split) : List Char := front p.scheme p.netloc p.path ++ back p.query p.fragment

/-- The host of an authority. An address in brackets is cut short, at its first colon. -/
def host (netloc : List Char) : List Char :=
  ((netloc.reverse.takeWhile (· ≠ '@')).reverse).takeWhile (· ≠ ':')

/-! ## Schemes -/

variable {accepts : List Char → Bool} {url u name rest t q v scheme : List Char} {c : Char}
  {p p' : Split} {isSpace : Char → Bool}

/-- A scheme, with its colon and what follows it. -/
def SchemeAt (name rest u : List Char) : Prop :=
  u = name ++ ':' :: rest ∧ name.head?.any Char.isAlpha = true ∧ ∀ c ∈ name, isSchemeChar c = true

def HasScheme (u : List Char) : Prop := ∃ name rest, SchemeAt name rest u

theorem not_schemeChar_colon : isSchemeChar ':' = false := by decide

theorem takeWhile_scheme (h : SchemeAt name rest u) : u.takeWhile (· ≠ ':') = name := by
  obtain ⟨rfl, -, hall⟩ := h
  have hname : ∀ c ∈ name, decide (c ≠ ':') = true := by
    intro c hc
    have hne : c ≠ ':' := by
      rintro rfl
      exact absurd (hall _ hc) (by simp [not_schemeChar_colon])
    exact decide_eq_true hne
  rw [List.takeWhile_append_of_pos hname]
  simp

theorem splitScheme_of_schemeAt (h : SchemeAt name rest u) :
    splitScheme u = (name.map Char.toLower, rest) := by
  have htake := takeWhile_scheme h
  obtain ⟨rfl, hhead, hall⟩ := h
  unfold splitScheme
  rw [htake]
  dsimp only
  rw [if_pos ⟨by simp, hhead, List.all_eq_true.mpr hall⟩]
  simp

theorem HasScheme.head (h : HasScheme u) : ∃ c ∈ u.head?, c.isAlpha = true := by
  obtain ⟨name, rest, rfl, hhead, -⟩ := h
  cases name with
  | nil => cases hhead
  | cons c name => exact ⟨c, rfl, hhead⟩

theorem splitScheme_cases (u : List Char) :
    (∃ name rest, SchemeAt name rest u) ∨ ¬ HasScheme u ∧ splitScheme u = ([], u) := by
  by_cases h : HasScheme u
  · exact .inl h
  · refine .inr ⟨h, ?_⟩
    unfold splitScheme
    refine if_neg ?_
    rintro ⟨hlt, hhead, hall⟩
    have hsplit := List.takeWhile_append_dropWhile (p := (· ≠ ':')) (l := u)
    cases hdrop : u.dropWhile (· ≠ ':') with
    | nil =>
      rw [hdrop, List.append_nil] at hsplit
      rw [hsplit] at hlt
      exact absurd hlt (lt_irrefl _)
    | cons c rest =>
      have hc : c = ':' := by
        have hhead' := List.head?_dropWhile_not (· ≠ ':') u
        rw [hdrop] at hhead'
        simpa using hhead'
      subst hc
      rw [hdrop] at hsplit
      exact h ⟨_, rest, hsplit.symm, hhead, List.all_eq_true.mp hall⟩

/-! ## Texts that go after a path -/

/-- A query, a fragment or nothing. -/
def Tail (t : List Char) : Prop := ∀ c ∈ t.head?, c = '?' ∨ c = '#'

theorem tail_back (q f : List Char) : Tail (back q f) := by
  unfold Tail back
  split_ifs <;> simp

theorem Tail.filter (h : Tail t) : Tail (t.filter fun c => !isRemoved c) := by
  cases t with
  | nil => exact h
  | cons c t =>
    have hkept : isRemoved c = false := by
      obtain rfl | rfl := h c rfl <;> rfl
    rw [List.filter_cons_of_pos (by simp [hkept])]
    exact h

theorem clean_kept : ∀ c ∈ clean url, isRemoved c = false := by
  intro c hc
  simpa using (List.mem_filter.mp hc).2

theorem isRemoved_of_not_stripped (h : isStripped c = false) : isRemoved c = false := by
  by_contra hne
  simp only [isRemoved, Bool.decide_or, Bool.or_eq_true, decide_eq_true_eq, Bool.not_eq_false] at hne
  obtain rfl | rfl | rfl := hne <;> cases h

/-! ## Authorities -/

theorem splitNetloc_slashes : splitNetloc ('/' :: '/' :: u) =
    (u.takeWhile (!isDelim ·), u.dropWhile (!isDelim ·)) := rfl

theorem splitNetloc_other (h : ¬ ['/', '/'] <+: u) : splitNetloc u = ([], u) := by
  unfold splitNetloc
  split
  · next rest => exact absurd ⟨rest, rfl⟩ h
  · rfl

/-- An authority, and what comes after it. -/
theorem splitNetloc_spec (u : List Char) :
    (∀ c ∈ (splitNetloc u).1, isDelim c = false) ∧
      (∀ c ∈ (splitNetloc u).1 ++ (splitNetloc u).2, c ∈ u) ∧
      ((∃ v, u = '/' :: '/' :: v) → ∀ c ∈ (splitNetloc u).2.head?, isDelim c = true) := by
  by_cases h : ['/', '/'] <+: u
  · obtain ⟨v, rfl⟩ := h
    refine ⟨fun c hc => ?_, fun c hc => ?_, fun _ c hc => ?_⟩
    · simpa using List.mem_takeWhile_imp hc
    · rw [List.cons_append, List.cons_append, List.nil_append, splitNetloc_slashes,
        List.takeWhile_append_dropWhile] at hc
      simp [hc]
    · have hhead := List.head?_dropWhile_not (!isDelim ·) v
      have hc' : c ∈ (v.dropWhile (!isDelim ·)).head? := hc
      rw [Option.mem_def.mp hc'] at hhead
      simpa using hhead
  · rw [splitNetloc_other h]
    refine ⟨by simp, by simp, ?_⟩
    rintro ⟨v, rfl⟩
    exact absurd ⟨v, rfl⟩ h

/-- What `urlsplit` returns, part by part. -/
theorem urlsplit_spec (h : urlsplit accepts url = some p) :
    p.scheme = (splitScheme (clean url)).1 ∧
      p.netloc = (splitNetloc (splitScheme (clean url)).2).1 ∧
      p.path <+: (splitNetloc (splitScheme (clean url)).2).2 := by
  unfold urlsplit at h
  dsimp only at h
  split_ifs at h
  cases h
  exact ⟨rfl, rfl, (List.takeWhile_prefix _).trans (List.takeWhile_prefix _)⟩

theorem rooted_head (path : List Char) : ∀ c ∈ (rooted path).head?, c = '/' := by
  intro c hc
  unfold rooted at hc
  split_ifs at hc with h
  · exact (Option.some.inj hc).symm
  · rw [not_and_or, not_not, not_not] at h
    obtain rfl | h := h
    · cases hc
    · rw [h] at hc
      exact (Option.some.inj hc).symm

/-- The authority of two slashes, an authority and a text that starts with a delimiter. -/
theorem splitNetloc_append (hnetloc : ∀ c ∈ u, isDelim c = false)
    (ht : ∀ c ∈ t.head?, isDelim c = true) : splitNetloc ('/' :: '/' :: (u ++ t)) = (u, t) := by
  have htake : (u ++ t).takeWhile (!isDelim ·) = u := by
    rw [List.takeWhile_append_of_pos fun c hc => by simp [hnetloc c hc]]
    cases t with
    | nil => simp
    | cons c t => simp [ht c rfl]
  have hsplit := List.takeWhile_append_dropWhile (p := (!isDelim ·)) (l := u ++ t)
  rw [htake] at hsplit
  rw [splitNetloc_slashes, htake, List.append_cancel_left hsplit]

theorem mem_netloc_rest (h : splitNetloc u = (v, rest)) (hv : v ≠ []) :
    u = '/' :: '/' :: (v ++ rest) := by
  by_cases hpre : ['/', '/'] <+: u
  · obtain ⟨w, rfl⟩ := hpre
    obtain ⟨rfl, rfl⟩ := Prod.mk.inj h
    rw [List.takeWhile_append_dropWhile]
    rfl
  · rw [splitNetloc_other hpre] at h
    exact absurd (Prod.mk.inj h).1.symm hv

/-- What follows the authority of a split URL is its path, and a query or fragment. -/
theorem path_append (r : List Char) : ∃ t, Tail t ∧ r = (splitFirst '?' (splitFirst '#' r).1).1 ++ t := by
  refine ⟨(r.takeWhile (· ≠ '#')).dropWhile (· ≠ '?') ++ r.dropWhile (· ≠ '#'), ?_, ?_⟩
  · intro c hc
    cases hquery : (r.takeWhile (· ≠ '#')).dropWhile (· ≠ '?') with
    | cons d t =>
      have hhead := List.head?_dropWhile_not (· ≠ '?') (r.takeWhile (· ≠ '#'))
      rw [hquery] at hhead hc
      cases hc
      exact .inl (by simpa using hhead)
    | nil =>
      have hhead := List.head?_dropWhile_not (· ≠ '#') r
      rw [hquery, List.nil_append] at hc
      rw [Option.mem_def.mp hc] at hhead
      exact .inr (by simpa using hhead)
  · rw [← List.append_assoc]
    simp only [splitFirst, List.takeWhile_append_dropWhile]

/-! ## The authority of a text -/

/-- What follows the first two slashes. -/
def afterSlashes : List Char → List Char
  | [] => []
  | c :: rest => if c = '/' ∧ rest.head? = some '/' then rest.tail else afterSlashes rest

/-- The authority that a text shows, wherever it starts. -/
def authority (t : List Char) : List Char :=
  (afterSlashes (t.filter fun c => !isRemoved c)).takeWhile (!isDelim ·)

theorem afterSlashes_append (hu : '/' ∉ u) : afterSlashes (u ++ '/' :: '/' :: v) = v := by
  induction u with
  | nil => rfl
  | cons c u ih =>
    rw [List.mem_cons, not_or] at hu
    rw [List.cons_append, afterSlashes, if_neg (fun h => hu.1 h.1.symm), ih hu.2]

theorem takeWhile_tail (ht : Tail t) :
    (v ++ t).takeWhile (!isDelim ·) = v.takeWhile (!isDelim ·) := by
  induction v with
  | nil =>
    cases t with
    | nil => rfl
    | cons c t =>
      have hc : isDelim c = true := by obtain rfl | rfl := ht c rfl <;> rfl
      simp [hc]
  | cons c v ih =>
    rw [List.cons_append, List.takeWhile_cons, List.takeWhile_cons, ih]

theorem Tail.not_slash (ht : Tail t) (v : List Char) : t ≠ '/' :: v := by
  rintro rfl
  rcases ht '/' rfl with h | h <;> cases h

/-- Slashes that follow no delimiter are those of the front of a URL. -/
theorem tail_of_append {w : List Char} (ht : Tail t) (hu : ∀ c ∈ u, isDelim c = false)
    (h : v ++ t = u ++ '/' :: '/' :: w) : ∃ a, v = u ++ '/' :: '/' :: a ∧ w = a ++ t := by
  rcases List.append_eq_append_iff.mp h with ⟨a, rfl, hta⟩ | ⟨a, rfl, hat⟩
  · cases a with
    | nil => exact absurd hta (ht.not_slash _)
    | cons c a =>
      have hc := hu c (by simp)
      subst hta
      obtain rfl | rfl := ht c rfl <;> cases hc
  · match a with
    | [] => exact absurd hat.symm (ht.not_slash _)
    | [c] => exact absurd (List.cons.inj hat).2.symm (ht.not_slash _)
    | c :: d :: a =>
      obtain ⟨rfl, hrest⟩ := List.cons.inj hat
      obtain ⟨rfl, rfl⟩ := List.cons.inj hrest
      exact ⟨a, rfl, rfl⟩

/-- Two slashes in the front of a URL that was put together are in the text that it came from, with
the same authority after them. -/
theorem slashes_of_body {netloc path r : List Char} (hsplit : splitNetloc rest = (netloc, r))
    (hpath : path = (splitFirst '?' (splitFirst '#' r).1).1) (ht : Tail t)
    (hu : ∀ c ∈ u, isDelim c = false) (h : body scheme netloc path ++ t = u ++ '/' :: '/' :: v)
    (hv : v.takeWhile (!isDelim ·) ≠ []) :
    ∃ u' v', rest = u' ++ '/' :: '/' :: v' ∧ '/' ∉ u' ∧
      v'.takeWhile (!isDelim ·) = v.takeWhile (!isDelim ·) := by
  obtain ⟨hnetloc, -, hend⟩ := splitNetloc_spec rest
  rw [hsplit] at hnetloc hend
  have hslash : '/' ∉ u := fun hmem => by cases hu '/' hmem
  obtain ⟨t', ht', hr⟩ := path_append r
  rw [← hpath] at hr
  unfold body at h
  split_ifs at h with hslashes
  · -- The slashes are those before the authority, which is not empty.
    cases u with
    | cons c u =>
      rw [List.cons_append, List.cons_append] at h
      exact absurd (List.cons.inj h).1 fun heq => hslash (by simp [← heq])
    | nil =>
      have hrest : netloc ++ (rooted path ++ t) = v := by
        simpa using h
      have htail : ∀ c ∈ (rooted path ++ t).head?, isDelim c = true := by
        intro c hc
        cases hroot : rooted path with
        | nil =>
          rw [hroot] at hc
          obtain rfl | rfl := ht c hc <;> rfl
        | cons d w =>
          rw [hroot] at hc
          obtain rfl := Option.some.inj hc
          rw [rooted_head path d (by rw [hroot]; rfl)]
          rfl
      have htake : v.takeWhile (!isDelim ·) = netloc := by
        have hsplit' := splitNetloc_append hnetloc htail
        rw [hrest] at hsplit'
        exact (Prod.mk.inj hsplit').1
      rw [htake] at hv ⊢
      refine ⟨[], netloc ++ r, mem_netloc_rest hsplit hv, by simp, ?_⟩
      have hsplit' := splitNetloc_append hnetloc (hend ⟨_, mem_netloc_rest hsplit hv⟩)
      exact (Prod.mk.inj hsplit').1
  · obtain ⟨a, rfl, rfl⟩ := tail_of_append ht hu h
    rw [takeWhile_tail ht]
    by_cases hpre : ['/', '/'] <+: rest
    · -- An empty authority is followed by a delimiter.
      obtain ⟨w, hw⟩ := hpre
      have hhead := hend ⟨w, hw.symm⟩
      cases u with
      | nil => exact absurd ⟨a, rfl⟩ (not_or.mp (not_or.mp hslashes).2).2
      | cons c u =>
        have hc := hhead c (by rw [hr]; rfl)
        rw [hu c (by simp)] at hc
        cases hc
    · rw [splitNetloc_other hpre] at hsplit
      obtain ⟨-, rfl⟩ := Prod.mk.inj hsplit
      refine ⟨u, a ++ t', by rw [hr]; simp, hslash, ?_⟩
      rw [takeWhile_tail ht']

/-- A text before its authority: blanks and a scheme. -/
theorem filter_eq (t : List Char) :
    ∃ u, (t.filter fun c => !isRemoved c) = u ++ clean t ∧ ∀ c ∈ u, isDelim c = false := by
  refine ⟨(t.takeWhile isStripped).filter fun c => !isRemoved c, ?_, fun c hc => ?_⟩
  · rw [clean, ← List.filter_append, List.takeWhile_append_dropWhile]
  · have hstripped := List.mem_takeWhile_imp (List.mem_filter.mp hc).1
    by_contra hdelim
    simp only [isDelim, Bool.decide_or, Bool.or_eq_true, decide_eq_true_eq, Bool.not_eq_false]
      at hdelim
    obtain rfl | rfl | rfl := hdelim <;> cases hstripped

theorem schemeChar_lt (h : isSchemeChar c = true) : c.toNat < 128 := by
  have halnum : c.isAlphanum = ((decide (c.val ≥ 'A'.val ∧ c.val ≤ 'Z'.val) ||
      (decide (c.val ≥ 'a'.val) && decide (c.val ≤ 'z'.val))) ||
      (decide (c.val ≥ '0'.val) && decide (c.val ≤ '9'.val))) := rfl
  simp only [isSchemeChar, halnum, Bool.or_eq_true, Bool.and_eq_true, decide_eq_true_eq,
    UInt32.le_iff_toNat_le, ge_iff_le] at h
  have hval : c.toNat = c.val.toNat := rfl
  have hZ : 'Z'.val.toNat = 90 := rfl
  have hz : 'z'.val.toNat = 122 := rfl
  have h9 : '9'.val.toNat = 57 := rfl
  rcases h with h | rfl | rfl | rfl
  · omega
  all_goals decide

/-- A scheme holds no mark of a URL, in lower case either. -/
theorem schemeChar_plain (h : isSchemeChar c = true) : isDelim c = false ∧
    isDelim c.toLower = false ∧ isRemoved c.toLower = false := by
  have htable : ∀ n < 128, isSchemeChar (Char.ofNat n) = true → isDelim (Char.ofNat n) = false ∧
      isDelim (Char.ofNat n).toLower = false ∧ isRemoved (Char.ofNat n).toLower = false := by
    decide +kernel
  simpa using htable c.toNat (schemeChar_lt h) (by simpa using h)

theorem kept_body {netloc path : List Char} (h : ∀ c ∈ netloc ++ path, isRemoved c = false) :
    ∀ c ∈ body scheme netloc path, isRemoved c = false := by
  intro c hc
  have hmem : c = '/' ∨ c ∈ netloc ++ path := by
    unfold body rooted at hc
    split_ifs at hc <;> simp at hc ⊢ <;> tauto
  obtain rfl | hmem := hmem
  · rfl
  · exact h c hmem

/-- What a split URL is put together from: `before` and `before'` are its scheme as it was and in
lower case. -/
theorem front_spec (h : urlsplit accepts url = some p) : ∃ before before' rest r,
    clean url = before ++ rest ∧ (∀ c ∈ before, isDelim c = false) ∧
      (∀ c ∈ before', isDelim c = false ∧ isRemoved c = false) ∧
      splitNetloc rest = (p.netloc, r) ∧ p.path = (splitFirst '?' (splitFirst '#' r).1).1 ∧
      front p.scheme p.netloc p.path = before' ++ body p.scheme p.netloc p.path ∧
      ∀ c ∈ body p.scheme p.netloc p.path, isRemoved c = false := by
  unfold urlsplit at h
  dsimp only at h
  split_ifs at h
  cases h
  have hkept : ∀ rest, (∀ c ∈ rest, c ∈ clean url) → ∀ c ∈ (splitNetloc rest).1 ++
      (splitFirst '?' (splitFirst '#' (splitNetloc rest).2).1).1, isRemoved c = false := by
    intro rest hrest c hc
    refine clean_kept c (hrest c ((splitNetloc_spec rest).2.1 c ?_))
    rcases List.mem_append.mp hc with hc | hc
    · exact List.mem_append_left _ hc
    · exact List.mem_append_right _
        ((List.takeWhile_prefix _).trans (List.takeWhile_prefix _) |>.subset hc)
  rcases splitScheme_cases (clean url) with ⟨name, rest, hat⟩ | ⟨-, hnone⟩
  · rw [splitScheme_of_schemeAt hat]
    obtain ⟨heq, hhead, hall⟩ := hat
    have hname : name.map Char.toLower ≠ [] := by
      rintro hnil
      rw [List.map_eq_nil_iff.mp hnil] at hhead
      cases hhead
    refine ⟨name ++ [':'], name.map Char.toLower ++ [':'], rest, _, by rw [heq]; simp, ?_, ?_, rfl,
      rfl, ?_, kept_body (hkept rest fun c hc => by rw [heq]; simp [hc])⟩
    · intro c hc
      rcases List.mem_append.mp hc with hc | hc
      · exact (schemeChar_plain (hall c hc)).1
      · obtain rfl := List.mem_singleton.mp hc
        rfl
    · intro c hc
      rcases List.mem_append.mp hc with hc | hc
      · obtain ⟨d, hd, rfl⟩ := List.mem_map.mp hc
        exact (schemeChar_plain (hall d hd)).2
      · obtain rfl := List.mem_singleton.mp hc
        exact ⟨rfl, rfl⟩
    · simp [front, hname]
  · rw [hnone]
    exact ⟨[], [], clean url, _, rfl, by simp, by simp, rfl, rfl, by simp [front],
      kept_body (hkept _ fun c hc => hc)⟩

/-- Where a text has its authority. -/
theorem slashes_of_netloc (h : urlsplit accepts url = some p) (hn : p.netloc ≠ []) :
    ∃ u v, (url.filter fun c => !isRemoved c) = u ++ '/' :: '/' :: v ∧
      (∀ c ∈ u, isDelim c = false) ∧ p.netloc = v.takeWhile (!isDelim ·) ∧ v ≠ [] := by
  obtain ⟨-, hnetloc, -⟩ := urlsplit_spec h
  obtain ⟨u, hfilter, hu⟩ := filter_eq url
  have hrest : ∃ before rest, clean url = before ++ rest ∧ (∀ c ∈ before, isDelim c = false) ∧
      p.netloc = (splitNetloc rest).1 := by
    rcases splitScheme_cases (clean url) with ⟨name, rest, hat⟩ | ⟨-, hnone⟩
    · rw [splitScheme_of_schemeAt hat] at hnetloc
      refine ⟨name ++ [':'], rest, by simpa using hat.1, fun c hc => ?_, hnetloc⟩
      rcases List.mem_append.mp hc with hc | hc
      · exact (schemeChar_plain (hat.2.2 c hc)).1
      · obtain rfl := List.mem_singleton.mp hc
        rfl
    · rw [hnone] at hnetloc
      exact ⟨[], clean url, rfl, by simp, hnetloc⟩
  obtain ⟨before, rest, hclean, hbefore, hnetloc⟩ := hrest
  obtain ⟨hdelim, -, hend⟩ := splitNetloc_spec rest
  have hslashes : rest = '/' :: '/' :: ((splitNetloc rest).1 ++ (splitNetloc rest).2) :=
    mem_netloc_rest rfl (hnetloc ▸ hn)
  have hsplit := splitNetloc_append hdelim (hend ⟨_, hslashes⟩)
  refine ⟨u ++ before, (splitNetloc rest).1 ++ (splitNetloc rest).2, ?_, ?_, ?_, ?_⟩
  · rw [hfilter, hclean, List.append_assoc, ← hslashes]
  · intro c hc
    exact (List.mem_append.mp hc).elim (hu c) (hbefore c)
  · exact hnetloc.trans (Prod.mk.inj hsplit).1.symm
  · simp [← hnetloc, hn]

/-- What holds no delimiter, at the end. -/
theorem takeWhile_append_blank (v : List Char) {z : List Char} (hz : ∀ c ∈ z, isDelim c = false) :
    (v ++ z).takeWhile (!isDelim ·) = v.takeWhile (!isDelim ·) ∨
      v.takeWhile (!isDelim ·) = v ∧ (v ++ z).takeWhile (!isDelim ·) = v ++ z := by
  rw [List.takeWhile_append]
  split_ifs with hlength
  · have hself : v.takeWhile (!isDelim ·) = v := (List.takeWhile_prefix _).eq_of_length hlength
    have hz' : z.takeWhile (!isDelim ·) = z :=
      List.takeWhile_eq_self_iff.mpr fun c hc => by simp [hz c hc]
    exact .inr ⟨hself, by rw [hz']⟩
  · exact .inl rfl

theorem not_mem_slash (h : ∀ c ∈ u, isDelim c = false) : '/' ∉ u := fun hmem => by cases h '/' hmem

theorem drop_before {w : List Char} (hu : '/' ∉ u) (h : u ++ v = t ++ '/' :: w) :
    ∃ t', t = u ++ t' ∧ v = t' ++ '/' :: w := by
  rcases List.append_eq_append_iff.mp h with ⟨a, rfl, hv⟩ | ⟨a, rfl, hw⟩
  · exact ⟨a, rfl, hv⟩
  · cases a with
    | nil => exact ⟨[], by simp, by simpa using hw.symm⟩
    | cons c a =>
      obtain ⟨rfl, -⟩ := List.cons.inj hw
      exact absurd hu (by simp)

/-- A trimmed text still ends in no blank when the removed characters, all blanks, are gone. -/
theorem getLast_filter_strip (hremoved : ∀ c, isRemoved c = true → isSpace c = true) (t : List Char)
    : ∀ c ∈ ((Trim.strip isSpace t).filter fun c => !isRemoved c).getLast?, isSpace c = false := by
  intro c hc
  have hlast := Trim.getLast_strip (p := isSpace) (t := t)
  generalize Trim.strip isSpace t = l at hc hlast
  rcases List.eq_nil_or_concat l with rfl | ⟨l, d, rfl⟩
  · cases hc
  · have hd : isSpace d = false := hlast d (by simp)
    have hkept : isRemoved d = false := by
      by_contra hne
      rw [hremoved d (by simpa using hne)] at hd
      cases hd
    rw [List.concat_eq_append, List.filter_append, List.filter_singleton, hkept] at hc
    obtain rfl : d = c := by simpa using hc
    exact hd

/-- **A URL put together, trimmed and split again.** It has the authority that the first text
shows, up to blanks at its end. The query may change. -/
theorem netloc_of_resplit (hremoved : ∀ c, isRemoved c = true → isSpace c = true)
    (hdelim : ∀ c, isDelim c = true → isSpace c = false) (h : urlsplit accepts url = some p)
    (h' : urlsplit accepts (Trim.strip isSpace (urlunsplit { p with query := q })) = some p')
    (hn : p'.netloc ≠ []) :
    p'.netloc = authority url ∨ p'.netloc = (authority url).rdropWhile isSpace := by
  obtain ⟨before, before', rest, r, hclean, hbefore, hbefore', hsplit, hpath, hfront, hkept⟩ :=
    front_spec h
  obtain ⟨u, v, htext, hu, hnetloc, hv⟩ := slashes_of_netloc h' hn
  obtain ⟨a, b, hstrip, ha, hb⟩ :=
    Trim.strip_split (p := isSpace) (urlunsplit { p with query := q })
  have hblank : ∀ c, isSpace c = true → isDelim c = false := by
    intro c hc
    by_contra hne
    rw [hdelim c (by simpa using hne)] at hc
    cases hc
  -- The two readings of what was put together, without what `urlsplit` removes.
  have hfilter : before' ++ (body p.scheme p.netloc p.path ++
      (back q p.fragment).filter fun c => !isRemoved c) =
      ((a.filter fun c => !isRemoved c) ++ u) ++ '/' :: '/' ::
        (v ++ b.filter fun c => !isRemoved c) := by
    have hleft := congrArg (List.filter fun c => !isRemoved c) hstrip
    rw [List.filter_append, List.filter_append, htext, urlunsplit, hfront, List.filter_append,
      List.filter_append] at hleft
    rw [List.filter_eq_self.mpr fun c hc => by simp [(hbefore' c hc).2],
      List.filter_eq_self.mpr fun c hc => by simp [hkept c hc]] at hleft
    simpa using hleft
  obtain ⟨t, hbefore'', hbody⟩ := drop_before (not_mem_slash fun c hc => (hbefore' c hc).1) hfilter
  have ht : ∀ c ∈ t, isDelim c = false := by
    intro c hc
    have hmem : c ∈ (a.filter fun c => !isRemoved c) ++ u := by rw [hbefore'']; simp [hc]
    rcases List.mem_append.mp hmem with hmem | hmem
    · exact hblank c (ha c (List.mem_filter.mp hmem).1)
    · exact hu c hmem
  have hz : ∀ c ∈ b.filter fun c => !isRemoved c, isSpace c = true := fun c hc =>
    hb c (List.mem_filter.mp hc).1
  have hlast := getLast_filter_strip hremoved (urlunsplit { p with query := q })
  rw [htext] at hlast
  generalize (b.filter fun c => !isRemoved c) = z at hbody hz
  have htake := takeWhile_append_blank v fun c hc => hblank c (hz c hc)
  have hne : (v ++ z).takeWhile (!isDelim ·) ≠ [] := by
    rcases htake with htake | ⟨-, htake⟩
    · rw [htake, ← hnetloc]
      exact hn
    · rw [htake]
      simp [hv]
  obtain ⟨u', v', hrest, hu', hv'⟩ :=
    slashes_of_body hsplit hpath (tail_back _ _).filter ht hbody hne
  have hauthority : authority url = (v ++ z).takeWhile (!isDelim ·) := by
    obtain ⟨u₀, hu₀, hplain⟩ := filter_eq url
    have hafter : (url.filter fun c => !isRemoved c) = (u₀ ++ (before ++ u')) ++ '/' :: '/' :: v' := by
      rw [hu₀, hclean, hrest]
      simp
    rw [authority, hafter, afterSlashes_append, hv']
    simp only [List.mem_append, not_or]
    exact ⟨not_mem_slash hplain, not_mem_slash hbefore, hu'⟩
  rcases htake with htake | ⟨hself, htake⟩
  · exact .inl (hnetloc.trans (htake.symm.trans hauthority.symm))
  · refine .inr ?_
    rw [hauthority, htake, hnetloc, hself, Trim.rdropWhile_append ?_ hz]
    intro c hc
    refine hlast c ?_
    cases v with
    | nil => exact absurd rfl hv
    | cons d v =>
      rw [List.getLast?_append, List.getLast?_cons_cons, List.getLast?_cons_cons,
        Option.mem_def.mp hc]
      rfl

/-! ## Texts that are no URL -/

/-- The first character of a text is neither a letter nor a mark of a URL. -/
structure PlainStart (c : Char) : Prop where
  alpha : c.isAlpha = false
  stripped : isStripped c = false
  delim : isDelim c = false

/-- Such a text is a path, with a query and a fragment at most. -/
theorem urlsplit_of_head (haccepts : accepts [] = true) (hc : PlainStart c) (t : List Char) :
    ∃ p, urlsplit accepts (c :: t) = some p ∧ p.scheme = [] ∧ p.netloc = [] ∧
      p.path.head? = some c := by
  have hclean : clean (c :: t) = c :: t.filter fun d => !isRemoved d := by
    rw [clean, List.dropWhile_cons_of_neg (by simp [hc.stripped]),
      List.filter_cons_of_pos (by simp [isRemoved_of_not_stripped hc.stripped])]
  generalize (t.filter fun d => !isRemoved d) = v at hclean
  have hdelim := hc.delim
  simp only [isDelim, Bool.decide_or, Bool.or_eq_false_iff, decide_eq_false_iff_not] at hdelim
  have hscheme : splitScheme (c :: v) = ([], c :: v) := by
    rcases splitScheme_cases (c :: v) with ⟨name, rest, hat⟩ | ⟨-, hnone⟩
    · obtain ⟨d, hd, halpha⟩ := HasScheme.head ⟨name, rest, hat⟩
      obtain rfl := Option.some.inj hd
      rw [hc.alpha] at halpha
      cases halpha
    · exact hnone
  have hnetloc : splitNetloc (c :: v) = ([], c :: v) := by
    refine splitNetloc_other ?_
    rintro ⟨w, hw⟩
    exact hdelim.1 (List.cons.inj hw).1.symm
  have hsplit : urlsplit accepts (c :: t) = some ⟨[], [],
      (splitFirst '?' (splitFirst '#' (c :: v)).1).1, (splitFirst '?' (splitFirst '#' (c :: v)).1).2,
      (splitFirst '#' (c :: v)).2⟩ := by
    unfold urlsplit
    dsimp only
    rw [hclean, hscheme, hnetloc, if_pos haccepts]
  exact ⟨_, hsplit, rfl, rfl, by simp [splitFirst, hdelim]⟩

/-- What is put together from it starts with that character. -/
theorem urlunsplit_head (hscheme : p.scheme = []) (hnetloc : p.netloc = [])
    (hpath : p.path.head? = some c) (hc : isDelim c = false) :
    (urlunsplit p).head? = some c := by
  have hdelim := hc
  simp only [isDelim, Bool.decide_or, Bool.or_eq_false_iff, decide_eq_false_iff_not] at hdelim
  cases hp : p.path with
  | nil => rw [hp] at hpath; cases hpath
  | cons d path =>
    rw [hp] at hpath
    obtain rfl := Option.some.inj hpath
    have hslashes : ¬ ['/', '/'] <+: d :: path := by
      rintro ⟨w, hw⟩
      exact hdelim.1 (List.cons.inj hw).1.symm
    simp [urlunsplit, front, body, hscheme, hnetloc, hp, hslashes]

end Url
