import Deltapreneur.TldSearch.Search
import Mathlib.Data.Bool.AllAny
import Mathlib.Data.List.Chain

/-!
# Labels and names for the search

Model of `app/utils/domain_label.py:15-40`. `strip` and `lower` are any functions that leave the
characters of a name alone (`Strings`). `None` is the empty text.

* `core` is what `sanitize_sld` cuts to 63 characters, after it has taken the dashes off the ends.

Results:

* `sanitizer_valid_iff`: labels and names are valid, and cleaning them again changes nothing, just
  when the cut leaves no dash at the end and the extension has no such dot and no long part.
-/

namespace Deltapreneur.DomainLabel

open RegistrationPrice (Text nameOf extensionOf)
open TldSearch (SLD_CHARS)

/-! ## The functions -/

/-- `_EXT_CHARS`. -/
def EXT_CHARS : List Char := '.' :: SLD_CHARS

/-- `_SLD_MAX`. -/
def SLD_MAX : Nat := 63

/-- The methods of `str`. -/
structure Strings where
  isSpace : Char → Bool
  lower : Text → Text
  isSpace_ext : ∀ c ∈ EXT_CHARS, isSpace c = false
  lower_ext : ∀ t, (∀ c ∈ t, c ∈ EXT_CHARS) → lower t = t

def isDash (c : Char) : Bool := c = '-'

/-- A dot or a dash. -/
def isEdge (c : Char) : Bool := c = '.' || c = '-'

variable (S : Strings) {c : Char}

/-- `str(raw or "").strip().lower()`. -/
def Strings.text (raw : Text) : Text := S.lower (Trim.strip S.isSpace raw)

/-- `cleaned.strip("-")`. -/
def Strings.core (raw : Text) : Text :=
  Trim.strip isDash ((nameOf (S.text raw)).filter (· ∈ SLD_CHARS))

/-- `sanitize_sld`. -/
def Strings.sanitizeSld (raw : Text) : Text := (S.core raw).take SLD_MAX

/-- `sanitize_extension`: without a dot there is none. -/
def Strings.sanitizeExtension (raw : Text) : Text :=
  Trim.strip isEdge ((extensionOf (S.text raw)).filter (· ∈ EXT_CHARS))

/-- The extension of `compose_search_fqdn`. -/
def Strings.extension (raw defaultExt : Text) : Text :=
  if S.sanitizeExtension raw ≠ [] then S.sanitizeExtension raw
  else if S.sanitizeSld defaultExt ≠ [] then S.sanitizeSld defaultExt
  else ['c', 'o', 'm']

/-- `compose_search_fqdn`. -/
def Strings.composeSearchFqdn (raw defaultExt : Text) : Text :=
  if S.sanitizeSld raw = [] then []
  else S.sanitizeSld raw ++ '.' :: S.extension raw defaultExt

/-! ## Valid names -/

/-- Not empty, and no dash at an end. -/
structure Trimmed (part : Text) : Prop where
  nonempty : part ≠ []
  head : ∀ c ∈ part.head?, c ≠ '-'
  last : ∀ c ∈ part.getLast?, c ≠ '-'

structure Label (part : Text) : Prop extends Trimmed part where
  chars : ∀ c ∈ part, c ∈ SLD_CHARS
  length : part.length ≤ 63

/-- What the sanitiser is to give for an input. -/
structure Sound (raw defaultExt : Text) : Prop where
  sld : S.sanitizeSld raw = [] ∨ Label (S.sanitizeSld raw)
  fqdn : S.composeSearchFqdn raw defaultExt = [] ∨
    ∀ part ∈ (S.composeSearchFqdn raw defaultExt).splitOn '.', Label part
  sldAgain : S.sanitizeSld (S.sanitizeSld raw) = S.sanitizeSld raw
  fqdnAgain : S.composeSearchFqdn (S.composeSearchFqdn raw defaultExt) defaultExt =
    S.composeSearchFqdn raw defaultExt

/-- A dot does not stand next to a dot or a dash. -/
def Apart (a b : Char) : Prop := ¬ (a = '.' ∧ isEdge b = true) ∧ ¬ (isEdge a = true ∧ b = '.')

/-- The cut leaves no dash at the end. -/
def CutsWell (raw : Text) : Prop := (S.core raw)[62]? ≠ some '-'

/-- The dots of an extension stand apart, and no part is longer than 63 characters. -/
structure Dotted (ext : Text) : Prop where
  apart : ext.IsChain Apart
  length : ∀ part ∈ ext.splitOn '.', part.length ≤ 63

/-- When the input names nothing, the extension does not matter. -/
structure CleansWell (raw defaultExt : Text) : Prop where
  name : CutsWell S raw
  given : S.core raw ≠ [] → S.sanitizeExtension raw ≠ [] → Dotted (S.sanitizeExtension raw)
  default : S.core raw ≠ [] → S.sanitizeExtension raw = [] → CutsWell S defaultExt

/-! ## Parts between dots -/

variable {S} {t part : Text} {raw defaultExt : Text}

theorem apart_iff {a b : Char} (ha : a ≠ '.') : Apart a b ↔ ¬ (isEdge a = true ∧ b = '.') := by
  simp [Apart, ha]

/-- A part, between two dots. -/
theorem trimmed_iff (h : '.' ∉ part) :
    ('.' :: (part ++ ['.'])).IsChain Apart ↔ Trimmed part := by
  have hdot : ∀ c ∈ part, c ≠ '.' := fun c hc heq => h (heq ▸ hc)
  have hinner : part.IsChain Apart := List.Pairwise.isChain <|
    List.pairwise_of_forall_mem_list fun a ha b hb =>
      (apart_iff (hdot a ha)).mpr fun hedge => hdot b hb hedge.2
  have hhead : ∀ c ∈ part, Apart '.' c ↔ c ≠ '-' := by
    intro c hc
    simp [Apart, isEdge, hdot c hc]
  have hlast : ∀ c ∈ part, Apart c '.' ↔ c ≠ '-' := by
    intro c hc
    simp [Apart, isEdge, hdot c hc]
  cases part with
  | nil => exact iff_of_false (by simp [Apart, isEdge]) fun htrim => htrim.nonempty rfl
  | cons c rest =>
    rw [List.isChain_cons, List.isChain_append]
    constructor
    · rintro ⟨hfirst, -, -, hend⟩
      refine ⟨List.cons_ne_nil c rest, fun d hd => ?_, fun d hd => ?_⟩
      · exact (hhead d (List.mem_of_mem_head? hd)).mp (hfirst d hd)
      · exact (hlast d (List.mem_of_mem_getLast? hd)).mp (hend d hd '.' rfl)
    · intro htrim
      refine ⟨fun d hd => ?_, hinner, .singleton _, fun d hd e he => ?_⟩
      · exact (hhead d (List.mem_of_mem_head? hd)).mpr (htrim.head d hd)
      · cases he
        exact (hlast d (List.mem_of_mem_getLast? hd)).mpr (htrim.last d hd)

theorem parts_induction {P : Text → Prop} (last : ∀ part, '.' ∉ part → P part)
    (more : ∀ part rest, '.' ∉ part → P rest → P (part ++ '.' :: rest)) (t : Text) : P t := by
  by_cases h : '.' ∈ t
  · obtain ⟨part, rest, ht, hpart⟩ := List.eq_append_cons_of_mem h
    have hlen : rest.length < t.length := by
      rw [ht, List.length_append, List.length_cons]
      omega
    exact ht ▸ more part rest hpart (parts_induction last more rest)
  · exact last t h
termination_by t.length

theorem labels_iff (t : Text) : ('.' :: (t ++ ['.'])).IsChain Apart ↔
    ∀ part ∈ t.splitOn '.', Trimmed part := by
  induction t using parts_induction with
  | last part h => rw [List.splitOn_eq_singleton h, List.forall_mem_singleton, trimmed_iff h]
  | more part rest h ih =>
    rw [List.splitOn_append_cons_self_of_not_mem h, List.forall_mem_cons, ← trimmed_iff h, ← ih,
      List.append_assoc, List.cons_append, List.isChain_cons_split]

theorem chain_iff (hne : t ≠ []) (hhead : ∀ c ∈ t.head?, isEdge c = false)
    (hlast : ∀ c ∈ t.getLast?, isEdge c = false) :
    ('.' :: (t ++ ['.'])).IsChain Apart ↔ t.IsChain Apart := by
  have hfirst : (t ++ ['.']).head? = t.head? := List.head?_append_of_ne_nil t hne
  rw [List.isChain_cons, List.isChain_append, hfirst]
  constructor
  · exact fun h => h.2.1
  · refine fun h => ⟨fun c hc => ?_, h, .singleton _, fun c hc d hd => ?_⟩
    · have hedge := hhead c hc
      refine ⟨fun hbad => by simp [hedge] at hbad, fun hbad => ?_⟩
      rw [hbad.2] at hedge
      cases hedge
    · have hedge := hlast c hc
      refine ⟨fun hbad => ?_, fun hbad => by simp [hedge] at hbad⟩
      rw [hbad.1] at hedge
      cases hedge

/-! ## Labels -/

theorem mem_strip {p : Char → Bool} (h : c ∈ Trim.strip p t) : c ∈ t :=
  (List.dropWhile_sublist _).subset ((List.rdropWhile_prefix _ _).subset h)

theorem mem_core (h : c ∈ S.core raw) : c ∈ SLD_CHARS :=
  of_decide_eq_true (List.mem_filter.mp (mem_strip h)).2

theorem not_dash (h : isDash c = false) : c ≠ '-' := by
  rintro rfl
  cases h

theorem dot_not_sld : '.' ∉ SLD_CHARS := by decide

/-- **A cut name is a label** just when the cut leaves no dash at the end. -/
theorem label_iff (h : S.core raw ≠ []) : Label (S.sanitizeSld raw) ↔ CutsWell S raw := by
  have hlast : (S.sanitizeSld raw).getLast? = (S.core raw)[62]?.or (S.core raw).getLast? := by
    rw [Strings.sanitizeSld, List.getLast?_take]
    rfl
  have hnot : (S.core raw).getLast? ≠ some '-' := fun heq =>
    not_dash (Trim.getLast_strip '-' heq) rfl
  have hcut : (S.sanitizeSld raw).getLast? ≠ some '-' ↔ CutsWell S raw := by
    rw [hlast, CutsWell]
    cases hchar : (S.core raw)[62]? with
    | none => simpa using hnot
    | some c => simp
  rw [← hcut]
  constructor
  · exact fun hlabel heq => hlabel.last '-' heq rfl
  · intro hend
    refine ⟨⟨?_, fun c hc => ?_, ?_⟩, fun c hc => mem_core (List.mem_of_mem_take hc),
      List.length_take_le _ _⟩
    · rw [Strings.sanitizeSld, ne_eq, List.take_eq_nil_iff, not_or]
      exact ⟨by decide, h⟩
    · exact not_dash (Trim.head_strip c (Trim.head_of_initial (List.take_prefix _ _) c hc))
    · rintro c hc rfl
      exact hend hc

theorem sanitizeSld_eq_nil_iff : S.sanitizeSld raw = [] ↔ S.core raw = [] := by
  rw [Strings.sanitizeSld, List.take_eq_nil_iff]
  simp [SLD_MAX]

/-! ## Cleaning again -/

theorem text_eq_self (h : ∀ c ∈ t, c ∈ EXT_CHARS) : S.text t = t := by
  have hspace : ∀ c ∈ t, S.isSpace c = false := fun c hc => S.isSpace_ext c (h c hc)
  rw [Strings.text, Trim.strip_eq_self (fun c hc => hspace c (List.mem_of_mem_head? hc))
    (fun c hc => hspace c (List.mem_of_mem_getLast? hc)), S.lower_ext t h]

theorem nameOf_append (h : '.' ∉ part) : nameOf (part ++ '.' :: t) = part := by
  rw [nameOf, List.takeWhile_append_of_pos fun c hc => by
    simpa using fun heq : c = '.' => h (heq ▸ hc)]
  simp

theorem Label.no_dot (h : Label part) : '.' ∉ part := fun hmem => dot_not_sld (h.chars _ hmem)

theorem sanitizeSld_label (h : Label part) (ht : nameOf (S.text t) = part) :
    S.sanitizeSld t = part := by
  have hfilter : part.filter (· ∈ SLD_CHARS) = part :=
    List.filter_eq_self.mpr fun c hc => decide_eq_true (h.chars c hc)
  have hstrip : Trim.strip isDash part = part :=
    Trim.strip_eq_self (fun c hc => decide_eq_false (h.head c hc))
      fun c hc => decide_eq_false (h.last c hc)
  rw [Strings.sanitizeSld, Strings.core, ht, hfilter, hstrip]
  exact List.take_of_length_le h.length

/-! ## The extension -/

theorem extensionOf_append (h : '.' ∉ part) : extensionOf (part ++ '.' :: t) = t := by
  rw [extensionOf, List.dropWhile_append_of_pos fun c hc => by
    simpa using fun heq : c = '.' => h (heq ▸ hc)]
  simp

theorem mem_extension (h : c ∈ S.sanitizeExtension raw) : c ∈ EXT_CHARS :=
  of_decide_eq_true (List.mem_filter.mp (mem_strip h)).2

theorem mem_part (t : Text) : ∀ part ∈ t.splitOn '.', ∀ c ∈ part, c ∈ t ∧ c ≠ '.' := by
  induction t using parts_induction with
  | last part h =>
    rw [List.splitOn_eq_singleton h, List.forall_mem_singleton]
    exact fun c hc => ⟨hc, fun heq => h (heq ▸ hc)⟩
  | more part rest h ih =>
    rw [List.splitOn_append_cons_self_of_not_mem h, List.forall_mem_cons]
    constructor
    · exact fun c hc => ⟨List.mem_append_left _ hc, fun heq => h (heq ▸ hc)⟩
    · exact fun q hq c hc => ⟨List.mem_append_right _ (List.mem_cons_of_mem _ (ih q hq c hc).1),
        (ih q hq c hc).2⟩

theorem dotted_iff (h : S.sanitizeExtension raw ≠ []) :
    (∀ part ∈ (S.sanitizeExtension raw).splitOn '.', Label part) ↔
      Dotted (S.sanitizeExtension raw) := by
  have hchain := (labels_iff _).symm.trans
    (chain_iff h Trim.head_strip (Trim.getLast_strip (p := isEdge)))
  constructor
  · exact fun hall => ⟨hchain.mp fun part hp => (hall part hp).toTrimmed,
      fun part hp => (hall part hp).length⟩
  · refine fun hdotted part hp => ⟨hchain.mpr hdotted.apart part hp, fun c hc => ?_,
      hdotted.length part hp⟩
    obtain ⟨hmem, hdot⟩ := mem_part _ part hp c hc
    exact (List.mem_cons.mp (mem_extension hmem)).resolve_left hdot

/-- What the extension has to be, to be kept. -/
structure Kept (ext : Text) : Prop where
  nonempty : ext ≠ []
  chars : ∀ c ∈ ext, c ∈ EXT_CHARS
  head : ∀ c ∈ ext.head?, isEdge c = false
  last : ∀ c ∈ ext.getLast?, isEdge c = false

theorem Label.kept (h : Label part) : Kept part := by
  have hedge : ∀ c ∈ part, c ≠ '-' → isEdge c = false := by
    intro c hc hne
    have hdot : c ≠ '.' := fun heq => h.no_dot (heq ▸ hc)
    simp [isEdge, hne, hdot]
  exact ⟨h.nonempty, fun c hc => List.mem_cons_of_mem _ (h.chars c hc),
    fun c hc => hedge c (List.mem_of_mem_head? hc) (h.head c hc),
    fun c hc => hedge c (List.mem_of_mem_getLast? hc) (h.last c hc)⟩

theorem label_com : Label ['c', 'o', 'm'] where
  nonempty := by decide
  head := by simp
  last := by simp
  chars := List.all_iff_forall_prop.mp (by decide)
  length := by decide

theorem extension_iff (S : Strings) (raw defaultExt : Text) :
    (∀ part ∈ (S.extension raw defaultExt).splitOn '.', Label part) ↔
      (S.sanitizeExtension raw ≠ [] → Dotted (S.sanitizeExtension raw)) ∧
        (S.sanitizeExtension raw = [] → CutsWell S defaultExt) := by
  unfold Strings.extension
  split_ifs with hgiven hname
  · rw [dotted_iff hgiven]
    simp [hgiven]
  · have hcore := mt sanitizeSld_eq_nil_iff.mpr hname
    have hdot : '.' ∉ S.sanitizeSld defaultExt := fun hmem =>
      dot_not_sld (mem_core (List.mem_of_mem_take hmem))
    rw [List.splitOn_eq_singleton hdot, List.forall_mem_singleton, label_iff hcore]
    simp [not_not.mp hgiven]
  · have hcore := sanitizeSld_eq_nil_iff.mp (not_not.mp hname)
    rw [List.splitOn_eq_singleton (by decide), List.forall_mem_singleton]
    simp [not_not.mp hgiven, CutsWell, hcore, label_com]

theorem kept_extension (h : S.sanitizeExtension raw = [] → CutsWell S defaultExt) :
    Kept (S.extension raw defaultExt) := by
  unfold Strings.extension
  split_ifs with hgiven hname
  · exact ⟨hgiven, fun c hc => mem_extension hc, Trim.head_strip, Trim.getLast_strip⟩
  · exact ((label_iff (mt sanitizeSld_eq_nil_iff.mpr hname)).mpr (h (not_not.mp hgiven))).kept
  · exact label_com.kept

/-! ## The sanitiser -/

theorem sanitizeSld_nil : S.sanitizeSld [] = [] := by
  have htext : S.text [] = [] := text_eq_self (by simp)
  rw [Strings.sanitizeSld, Strings.core, htext]
  rfl

theorem compose_again (hlabel : Label part) {ext : Text} (hext : Kept ext) :
    S.composeSearchFqdn (part ++ '.' :: ext) defaultExt = part ++ '.' :: ext := by
  have htext : S.text (part ++ '.' :: ext) = part ++ '.' :: ext := by
    refine text_eq_self fun c hc => ?_
    rcases List.mem_append.mp hc with hc | hc
    · exact List.mem_cons_of_mem _ (hlabel.chars c hc)
    · rcases List.mem_cons.mp hc with rfl | hc
      · exact List.mem_cons_self
      · exact hext.chars c hc
  have hname : S.sanitizeSld (part ++ '.' :: ext) = part :=
    sanitizeSld_label hlabel (by rw [htext, nameOf_append hlabel.no_dot])
  have hgiven : S.sanitizeExtension (part ++ '.' :: ext) = ext := by
    have hfilter : ext.filter (· ∈ EXT_CHARS) = ext :=
      List.filter_eq_self.mpr fun c hc => decide_eq_true (hext.chars c hc)
    rw [Strings.sanitizeExtension, htext, extensionOf_append hlabel.no_dot, hfilter,
      Trim.strip_eq_self hext.head hext.last]
  rw [Strings.composeSearchFqdn, hname, if_neg hlabel.nonempty, Strings.extension, hgiven,
    if_pos hext.nonempty]

/-- **The sanitiser is sound** for an input just when the name and the extension clean well. -/
theorem sanitizer_valid_iff (S : Strings) (raw defaultExt : Text) :
    Sound S raw defaultExt ↔ CleansWell S raw defaultExt := by
  by_cases hcore : S.core raw = []
  · have hnil := sanitizeSld_eq_nil_iff.mpr hcore
    have hfqdn : S.composeSearchFqdn raw defaultExt = [] := if_pos hnil
    refine iff_of_true ⟨.inl hnil, .inl hfqdn, ?_, ?_⟩ ⟨by simp [CutsWell, hcore], ?_, ?_⟩
    · rw [hnil, sanitizeSld_nil]
    · rw [hfqdn, Strings.composeSearchFqdn, if_pos sanitizeSld_nil]
    · exact fun hne => absurd hcore hne
    · exact fun hne => absurd hcore hne
  · have hnil := mt sanitizeSld_eq_nil_iff.mp hcore
    have hfqdn : S.composeSearchFqdn raw defaultExt =
        S.sanitizeSld raw ++ '.' :: S.extension raw defaultExt := if_neg hnil
    have hdot : '.' ∉ S.sanitizeSld raw := fun hmem =>
      dot_not_sld (mem_core (List.mem_of_mem_take hmem))
    have hparts := extension_iff S raw defaultExt
    constructor
    · intro h
      have hlabels := h.fqdn.resolve_left (by rw [hfqdn]; simp)
      rw [hfqdn, List.splitOn_append_cons_self_of_not_mem hdot, List.forall_mem_cons] at hlabels
      obtain ⟨hgiven, hdefault⟩ := hparts.mp hlabels.2
      exact ⟨(label_iff hcore).mp hlabels.1, fun _ => hgiven, fun _ => hdefault⟩
    · intro h
      have hlabel := (label_iff hcore).mpr h.name
      refine ⟨.inr hlabel, .inr ?_, ?_, ?_⟩
      · rw [hfqdn, List.splitOn_append_cons_self_of_not_mem hdot, List.forall_mem_cons]
        exact ⟨hlabel, hparts.mpr ⟨h.given hcore, h.default hcore⟩⟩
      · refine sanitizeSld_label hlabel ?_
        rw [text_eq_self fun c hc => List.mem_cons_of_mem _ (hlabel.chars c hc), nameOf,
          List.takeWhile_eq_self_iff]
        exact fun c hc => by simpa using fun heq : c = '.' => hdot (heq ▸ hc)
      · rw [hfqdn]
        exact compose_again hlabel (kept_extension (h.default hcore))

/-- The methods on ASCII texts. -/
def ascii : Strings where
  isSpace c := c = ' '
  lower := List.map Char.toLower
  isSpace_ext := List.all_iff_forall_prop.mp (by decide)
  lower_ext t h := by
    have hlower : ∀ c ∈ EXT_CHARS, c.toLower = c :=
      List.all_iff_forall_prop.mp (by decide)
    exact (List.map_congr_left fun c hc => hlower c (h c hc)).trans (List.map_id t)

/-- 62 letters, a dash and a letter. -/
def dashAtCut : Text := List.replicate 62 'a' ++ ['-', 'b']

/-- **The cut leaves a dash at the end, and two dots an empty label.** -/
theorem invalid_names : ¬ Sound ascii dashAtCut ['c', 'o', 'm'] ∧
    ¬ Sound ascii ['x', '.', 'c', 'o', '.', '.', 'u', 'k'] ['c', 'o', 'm'] := by
  constructor
  · intro h
    have hlast : (ascii.sanitizeSld dashAtCut).getLast? = some '-' := by decide +kernel
    rcases h.sld with hnil | hlabel
    · rw [hnil] at hlast
      cases hlast
    · exact hlabel.last '-' hlast rfl
  · intro h
    rcases h.fqdn with hnil | hlabels
    · exact absurd hnil (by decide +kernel)
    · exact (hlabels [] (by decide +kernel)).nonempty rfl

end Deltapreneur.DomainLabel
