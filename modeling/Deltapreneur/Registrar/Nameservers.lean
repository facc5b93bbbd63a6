import Deltapreneur.Lib.Json
import Deltapreneur.Lib.Windows
import Deltapreneur.Lib.Trim

/-!
# The nameserver column of an order

Model of `app/utils/domain_nameservers.py`: how the hosts of a domain are cleaned, written to
`custom_nameservers` and read back in any of the four encodings the column has held.

* `Language` holds the methods of `str` that depend on Unicode, with the facts the code relies on,
  and `str(...)` of the JSON values that are no strings.
* A host that is handed to the writer is any object: what counts of it is whether it is true and
  what `str` makes of it.
* `parseOrderNameservers` raises what `json.loads` raises, the `JSONDecodeError` apart, which the
  code handles.

`nameservers_read_back_iff`: what is written reads back, and the encodings agree, just if no host
ends in a blank once it is trimmed and rid of its trailing dots, the source is trimmed and the
comma-separated text does not start with an integer that Python refuses to read.
-/

namespace Deltapreneur.Nameservers

open Windows (firsts)
open Trim (rdropWhile_of_getLast getLast_rdropWhile head_of_initial)

abbrev Text := List Char

/-! ## Python's strings -/

structure Language where
  /-- `str.isspace` of one character. -/
  isSpace : Char → Bool
  /-- `str.lower`. -/
  lower : Text → Text
  /-- `str(value)` of a value that is no string. -/
  str : Json → Text
  /-- `bool(value)` of a number. -/
  isZero : Text → Bool
  isSpace_ascii : ∀ c : Char, c.toNat < 128 →
    (isSpace c = true ↔ (9 ≤ c.toNat ∧ c.toNat ≤ 13) ∨ (28 ≤ c.toNat ∧ c.toNat ≤ 32))
  lower_ascii : ∀ t : Text, (∀ c ∈ t, c.toNat < 128) → lower t = t.map Char.toLower
  /-- The characters of a text in lower case are in lower case. -/
  lower_lower : ∀ t u : Text, (∀ c ∈ u, c ∈ lower t) → lower u = u
  /-- The first character stays a space or a dot if it is one, and becomes neither. -/
  lower_head : ∀ (c : Char) (t : Text), ∃ d u, lower (c :: t) = d :: u ∧
    isSpace d = isSpace c ∧ (d = '.' ↔ c = '.')
  /-- So does the last one. -/
  lower_last : ∀ (t : Text) (c : Char), ∃ u d, lower (t ++ [c]) = u ++ [d] ∧
    isSpace d = isSpace c ∧ (d = '.' ↔ c = '.')

/-- An object that is taken for a host. -/
structure Object where
  truthy : Bool
  str : Text

/-- A string. -/
def Object.ofText (s : Text) : Object := ⟨s ≠ [], s⟩

variable (L : Language) {p : Char → Bool} {c sep : Char} {parts names : List Text}

def Language.object : Json → Object
  | .null => ⟨false, L.str .null⟩
  | .bool b => ⟨b, L.str (.bool b)⟩
  | .num token => ⟨!L.isZero token, L.str (.num token)⟩
  | .str s => .ofText s
  | .arr items => ⟨!items.isEmpty, L.str (.arr items)⟩
  | .obj members => ⟨!members.isEmpty, L.str (.obj members)⟩

/-- `str(value or "")`. -/
def Object.orEmpty (o : Object) : Text := if o.truthy then o.str else []

/-- `str.strip`. -/
def Language.strip (t : Text) : Text :=
  (t.dropWhile fun c => L.isSpace c).rdropWhile fun c => L.isSpace c

/-! ## Cleaning -/

/-- The host trimmed and rid of its trailing dots. -/
def Language.bare (host : Object) : Text := (L.strip host.orEmpty).rdropWhile (· = '.')

/-- `normalize_nameserver_host`. -/
def Language.normalizeNameserverHost (host : Object) : Text := L.lower (L.bare host)

/-- `_clean_hosts`. -/
def Language.cleanHosts (hosts : List Object) : List Text :=
  hosts.foldl (fun cleaned host =>
    if L.normalizeNameserverHost host ≠ [] ∧ L.normalizeNameserverHost host ∉ cleaned then
      cleaned ++ [L.normalizeNameserverHost host]
    else cleaned) []

def isLabelChar (c : Char) : Bool :=
  (97 ≤ c.toNat && c.toNat ≤ 122) || (48 ≤ c.toNat && c.toNat ≤ 57) || c = '-'

/-- `[a-z0-9]([a-z0-9-]*[a-z0-9])?`. -/
def isLabel (l : Text) : Bool :=
  l ≠ [] && l.all isLabelChar && l.head? ≠ some '-' && l.getLast? ≠ some '-'

/-- A host name: two labels or more. -/
def isHostname (t : Text) : Bool := 2 ≤ (t.splitOn '.').length && (t.splitOn '.').all isLabel

/-- `_HOSTNAME_RE.match`, whose `$` also matches before a line feed at the end. -/
def matchesHostnameRe (t : Text) : Bool :=
  isHostname t || (t.getLast? = some '\n' && isHostname t.dropLast)

/-- `_parse_host_string`. -/
def Language.parseHostString (raw : Text) : List Text :=
  (L.cleanHosts ((raw.splitOn ',').map Object.ofText)).filter matchesHostnameRe

/-! ## Reading and writing -/

def custom : Text := "custom".toList

/-- `parse_order_nameservers`. -/
def Language.parseOrderNameservers (customNameservers : Option Text) :
    Except Json.Error (List Text × Option Text) :=
  match customNameservers with
  | none => .ok ([], none)
  | some raw =>
    let raw := L.strip raw
    if raw = [] then .ok ([], none)
    else match Json.loads raw with
      | .error .decode => .ok (L.parseHostString raw, some custom)
      | .error e => .error e
      | .ok (.obj members) =>
        match Json.get? members "hosts".toList with
        | some (.arr hosts) =>
          let source := L.strip <| match Json.get? members "source".toList with
            | some value => (L.object value).orEmpty
            | none => []
          .ok (L.cleanHosts (hosts.map L.object), if source = [] then none else some source)
        | _ => .ok ([], none)
      | .ok (.arr items) => .ok (L.cleanHosts (items.map L.object), some custom)
      | .ok (.str s) => .ok (L.parseHostString s, some custom)
      | .ok _ => .ok (L.parseHostString raw, some custom)

def canonical (hosts : List Text) (source syncedAt : Text) : Text :=
  Json.dumps (.obj [("hosts".toList, .arr (hosts.map .str)), ("source".toList, .str source),
    ("syncedAt".toList, .str syncedAt)])

/-- `set_order_nameservers`: the new value of the column. -/
def Language.setOrderNameservers (hosts : List Object) (source syncedAt : Text) : Text :=
  canonical (L.cleanHosts hosts) source syncedAt

/-- `json.dumps(hosts)`. -/
def listEncoding (hosts : List Text) : Text := Json.dumps (.arr (hosts.map .str))

/-- `",".join(hosts)`. -/
def commaEncoding (hosts : List Text) : Text := [','].intercalate hosts

/-- `json.dumps(",".join(hosts))`. -/
def stringEncoding (hosts : List Text) : Text := Json.dumps (.str (commaEncoding hosts))

/-! ## The property and its condition -/

/-- Cleaning yields no host twice and changes nothing the second time, and what the writer is given
reads back: the cleaned hosts and the source. -/
structure Language.ReadsBack (hosts : List Object) (source : Text) : Prop where
  nodup : (L.cleanHosts hosts).Nodup
  idempotent : L.cleanHosts ((L.cleanHosts hosts).map .ofText) = L.cleanHosts hosts
  parsed : ∀ syncedAt, L.parseOrderNameservers (some (L.setOrderNameservers hosts source syncedAt)) =
    .ok (L.cleanHosts hosts, some source)

/-- The four encodings of the hosts parse to the same hosts. -/
def Language.EncodingsAgree (hosts : List Text) : Prop :=
  ∃ parsed, ∀ encoding, encoding = listEncoding hosts ∨ encoding = stringEncoding hosts ∨
      encoding = commaEncoding hosts ∨ (∃ source syncedAt, encoding = canonical hosts source syncedAt) →
    (L.parseOrderNameservers (some encoding)).map Prod.fst = .ok parsed

/-- No host ends in a blank once it is trimmed and rid of its trailing dots. -/
def Language.Settled (hosts : List Object) : Prop :=
  ∀ host ∈ hosts, ∀ c ∈ (L.bare host).getLast?, L.isSpace c = false

/-! ## Trimming -/

variable {L} {t : Text} {host : Object} {hosts : List Object}

theorem strip_eq_self (hhead : ∀ c ∈ t.head?, L.isSpace c = false)
    (hlast : ∀ c ∈ t.getLast?, L.isSpace c = false) : L.strip t = t :=
  Trim.strip_eq_self hhead hlast

theorem head_strip : ∀ c ∈ (L.strip t).head?, L.isSpace c = false := Trim.head_strip

theorem getLast_strip : ∀ c ∈ (L.strip t).getLast?, L.isSpace c = false := getLast_rdropWhile

theorem strip_sublist (t : Text) : (L.strip t).Sublist t :=
  (List.rdropWhile_prefix _ _).sublist.trans (List.dropWhile_sublist _)

/-! ## A normalised host -/

theorem head_bare : ∀ c ∈ (L.bare host).head?, L.isSpace c = false := fun c hc =>
  head_strip c (head_of_initial (List.rdropWhile_prefix _ _) c hc)

theorem getLast_bare : ∀ c ∈ (L.bare host).getLast?, c ≠ '.' := fun c hc =>
  of_decide_eq_false (getLast_rdropWhile c hc)

theorem lower_nil : L.lower [] = [] := by
  rw [L.lower_ascii [] fun c hc => absurd hc List.not_mem_nil]
  rfl

theorem head_normalize :
    ∀ c ∈ (L.normalizeNameserverHost host).head?, L.isSpace c = false := by
  intro c hc
  unfold Language.normalizeNameserverHost at hc
  cases hbare : L.bare host with
  | nil => rw [hbare, lower_nil] at hc; cases hc
  | cons d t =>
    obtain ⟨e, u, hlower, hspace, -⟩ := L.lower_head d t
    rw [hbare, hlower] at hc
    obtain rfl : e = c := Option.some.inj hc
    exact hspace.trans (head_bare d (by rw [hbare]; rfl))

theorem getLast_normalize (hc : c ∈ (L.normalizeNameserverHost host).getLast?) :
    c ≠ '.' ∧ ∃ d ∈ (L.bare host).getLast?, L.isSpace c = L.isSpace d := by
  unfold Language.normalizeNameserverHost at hc
  rcases List.eq_nil_or_concat (L.bare host) with hbare | ⟨t, d, hbare⟩
  · rw [hbare, lower_nil] at hc
    cases hc
  · obtain ⟨u, e, hlower, hspace, hdot⟩ := L.lower_last t d
    have hd : d ∈ (L.bare host).getLast? := by simp [hbare]
    rw [hbare, List.concat_eq_append, hlower] at hc
    obtain rfl : e = c := by simpa using hc
    exact ⟨fun h => getLast_bare d hd (hdot.mp h), d, hd, hspace⟩

theorem exists_getLast_normalize {d : Char} (hd : d ∈ (L.bare host).getLast?) :
    ∃ c ∈ (L.normalizeNameserverHost host).getLast?, L.isSpace c = L.isSpace d := by
  obtain ⟨t, hbare⟩ := List.getLast?_eq_some_iff.mp hd
  obtain ⟨u, e, hlower, hspace, -⟩ := L.lower_last t d
  refine ⟨e, ?_, hspace⟩
  rw [Language.normalizeNameserverHost, hbare, hlower]
  simp

theorem bare_ofText (t : Text) : L.bare (.ofText t) = (L.strip t).rdropWhile (· = '.') := by
  cases t <;> rfl

/-- **A normalised host is its own normal form just if the bare host does not end in a blank.** -/
theorem normalize_normalize_iff : L.normalizeNameserverHost
      (.ofText (L.normalizeNameserverHost host)) = L.normalizeNameserverHost host ↔
    ∀ c ∈ (L.bare host).getLast?, L.isSpace c = false := by
  set t := L.normalizeNameserverHost host with ht
  have hlower (u : Text) (hu : ∀ c ∈ u, c ∈ t) : L.lower u = u := L.lower_lower _ u hu
  have hbare := bare_ofText (L := L) t
  constructor
  · intro heq c hc
    -- Without its dots the trimmed text is as long as the text, so nothing was trimmed.
    have hsub : ((L.strip t).rdropWhile (· = '.')).Sublist (L.strip t) :=
      (List.rdropWhile_prefix _ _).sublist
    have hw : (L.strip t).rdropWhile (· = '.') = t := by
      rw [Language.normalizeNameserverHost, hbare] at heq
      rwa [hlower _ fun c hc => (hsub.trans (strip_sublist t)).subset hc] at heq
    have hstrip : L.strip t = t :=
      (strip_sublist t).eq_of_length_le (by simpa [hw] using hsub.length_le)
    obtain ⟨e, he, hspace⟩ := exists_getLast_normalize hc
    exact hspace.symm.trans (getLast_strip e (by rwa [hstrip]))
  · intro hend
    have hstrip : L.strip t = t := strip_eq_self head_normalize fun c hc => by
      obtain ⟨-, d, hd, heq⟩ := getLast_normalize hc
      exact heq.trans (hend d hd)
    have hdots : t.rdropWhile (fun c => decide (c = '.')) = t :=
      rdropWhile_of_getLast fun c hc => decide_eq_false (getLast_normalize hc).1
    rw [Language.normalizeNameserverHost, hbare, hstrip, hdots]
    exact hlower t fun c hc => hc

/-! ## A cleaned host -/

/-- The cleaned hosts are the normalised ones that are not empty, each where it occurs first. -/
theorem cleanHosts_eq (hosts : List Object) :
    L.cleanHosts hosts = firsts [] ((hosts.map L.normalizeNameserverHost).filter (· ≠ [])) := by
  have hfold (cleaned seen : List Text) (hseen : ∀ x, x ∈ seen ↔ x ∈ cleaned) :
      hosts.foldl (fun cleaned host =>
        if L.normalizeNameserverHost host ≠ [] ∧ L.normalizeNameserverHost host ∉ cleaned then
          cleaned ++ [L.normalizeNameserverHost host]
        else cleaned) cleaned =
      cleaned ++ firsts seen ((hosts.map L.normalizeNameserverHost).filter (· ≠ [])) := by
    induction hosts generalizing cleaned seen with
    | nil => simp [firsts]
    | cons host hosts ih =>
      rw [List.foldl_cons, List.map_cons]
      by_cases hempty : L.normalizeNameserverHost host = []
      · rw [if_neg fun h => h.1 hempty, List.filter_cons_of_neg (by simp [hempty]), ih _ _ hseen]
      · rw [List.filter_cons_of_pos (by simp [hempty]), firsts]
        by_cases hmem : L.normalizeNameserverHost host ∈ cleaned
        · rw [if_neg fun h => h.2 hmem, if_neg fun h => h ((hseen _).mpr hmem), ih _ _ hseen]
        · rw [if_pos ⟨hempty, hmem⟩, if_pos fun h => hmem ((hseen _).mp h),
            ih _ (L.normalizeNameserverHost host :: seen) fun x => by simp [hseen, or_comm]]
          simp
  exact hfold [] [] fun _ => Iff.rfl

theorem nodup_cleanHosts (hosts : List Object) : (L.cleanHosts hosts).Nodup := by
  rw [cleanHosts_eq]
  exact Windows.nodup_firsts _ _

theorem mem_cleanHosts : t ∈ L.cleanHosts hosts ↔
    t ≠ [] ∧ ∃ host ∈ hosts, L.normalizeNameserverHost host = t := by
  rw [cleanHosts_eq, Windows.mem_firsts]
  simp [and_comm]

theorem cleanHosts_normal {ts : List Text} (hne : ∀ t ∈ ts, t ≠ [])
    (h : ∀ t ∈ ts, L.normalizeNameserverHost (.ofText t) = t) :
    L.cleanHosts (ts.map .ofText) = firsts [] ts := by
  have hmap : (ts.map Object.ofText).map L.normalizeNameserverHost = ts := by
    rw [List.map_map]
    exact (List.map_congr_left h).trans (List.map_id' ts)
  rw [cleanHosts_eq, hmap, List.filter_eq_self.mpr fun t ht => by simpa using hne t ht]

/-- **Cleaning twice is cleaning once just if no bare host ends in a blank.** -/
theorem cleanHosts_idempotent_iff :
    L.cleanHosts ((L.cleanHosts hosts).map .ofText) = L.cleanHosts hosts ↔ L.Settled hosts := by
  set cleaned := L.cleanHosts hosts with hcleaned
  have hnormal : L.Settled hosts ↔
      ∀ t ∈ cleaned, L.normalizeNameserverHost (.ofText t) = t := by
    constructor
    · intro h t ht
      obtain ⟨-, host, hhost, rfl⟩ := mem_cleanHosts.mp ht
      exact normalize_normalize_iff.mpr (h host hhost)
    · intro h host hhost c hc
      obtain ⟨d, hd, -⟩ := exists_getLast_normalize hc
      have hmem : L.normalizeNameserverHost host ∈ cleaned :=
        mem_cleanHosts.mpr ⟨fun hnil => by simp [hnil] at hd, host, hhost, rfl⟩
      exact normalize_normalize_iff.mp (h _ hmem) c hc
  rw [hnormal]
  constructor
  · intro heq t ht
    -- A list that is as long after cleaning was cleaned entry by entry.
    have hsub := (Windows.firsts_sublist []
        (((cleaned.map Object.ofText).map L.normalizeNameserverHost).filter (· ≠ []))).trans
      List.filter_sublist
    rw [← cleanHosts_eq, heq, List.map_map] at hsub
    have hmap := hsub.eq_of_length (by simp)
    exact List.map_inj_left.mp (hmap.symm.trans (List.map_id' cleaned).symm) t ht
  · intro h
    rw [cleanHosts_normal (fun t ht => (mem_cleanHosts.mp ht).1) h]
    exact Windows.firsts_eq_self (nodup_cleanHosts hosts) fun _ _ => List.not_mem_nil

/-! ## The canonical encoding -/

theorem isSpace_eq_false (hascii : c.toNat < 128)
    (h : ¬ ((9 ≤ c.toNat ∧ c.toNat ≤ 13) ∨ (28 ≤ c.toNat ∧ c.toNat ≤ 32))) :
    L.isSpace c = false := by
  rw [← Bool.not_eq_true, L.isSpace_ascii c hascii]
  exact h

theorem strip_of_ends {d : Char} (hhead : t.head? = some c) (hlast : t.getLast? = some d)
    (hc : L.isSpace c = false) (hd : L.isSpace d = false) : L.strip t = t ∧ t ≠ [] := by
  refine ⟨strip_eq_self ?_ ?_, fun h => by simp [h] at hhead⟩
  · rw [hhead]
    exact fun e he => Option.some.inj he ▸ hc
  · rw [hlast]
    exact fun e he => Option.some.inj he ▸ hd

theorem parse_of_loads {raw : Text} (hstrip : L.strip raw = raw ∧ raw ≠ []) {x : Json}
    (hloads : Json.loads raw = .ok x) :
    L.parseOrderNameservers (some raw) = match x with
      | .obj members =>
        match Json.get? members "hosts".toList with
        | some (.arr hosts) =>
          let source := L.strip <| match Json.get? members "source".toList with
            | some value => (L.object value).orEmpty
            | none => []
          .ok (L.cleanHosts (hosts.map L.object), if source = [] then none else some source)
        | _ => .ok ([], none)
      | .arr items => .ok (L.cleanHosts (items.map L.object), some custom)
      | .str s => .ok (L.parseHostString s, some custom)
      | _ => .ok (L.parseHostString raw, some custom) := by
  simp only [Language.parseOrderNameservers, hstrip.1, if_neg hstrip.2, hloads]
  cases x <;> rfl

theorem orEmpty_ofText (s : Text) : (Object.ofText s).orEmpty = s := by
  cases s <;> rfl

theorem map_object (hosts : List Text) :
    (hosts.map Json.str).map L.object = hosts.map Object.ofText := by
  rw [List.map_map]
  rfl

theorem plain_strings (hosts : List Text) : Json.Plain (.arr (hosts.map .str)) := by
  refine .arr fun x hx => ?_
  obtain ⟨s, -, rfl⟩ := List.mem_map.mp hx
  exact .str s

/-- **The canonical encoding is read as the hosts, cleaned, and the source, trimmed.** -/
theorem parse_canonical (hosts : List Text) (source syncedAt : Text) :
    L.parseOrderNameservers (some (canonical hosts source syncedAt)) =
      .ok (L.cleanHosts (hosts.map .ofText),
        if L.strip source = [] then none else some (L.strip source)) := by
  have hplain : Json.Plain (.obj [("hosts".toList, .arr (hosts.map .str)),
      ("source".toList, .str source), ("syncedAt".toList, .str syncedAt)]) := by
    refine .obj fun m hm => ?_
    simp only [List.mem_cons, List.not_mem_nil, or_false] at hm
    rcases hm with rfl | rfl | rfl
    · exact plain_strings hosts
    · exact .str source
    · exact .str syncedAt
  obtain ⟨hhead, hlast⟩ := Json.dumps_obj_ends [("hosts".toList, .arr (hosts.map .str)),
    ("source".toList, .str source), ("syncedAt".toList, .str syncedAt)]
  have hstrip := strip_of_ends (L := L) hhead hlast (isSpace_eq_false (by decide) (by decide))
    (isSpace_eq_false (by decide) (by decide))
  rw [canonical, parse_of_loads hstrip (Json.loads_dumps hplain)]
  have hhosts : Json.get? [("hosts".toList, .arr (hosts.map .str)), ("source".toList, .str source),
      ("syncedAt".toList, .str syncedAt)] "hosts".toList = some (.arr (hosts.map .str)) := rfl
  have hsource : Json.get? [("hosts".toList, .arr (hosts.map .str)),
      ("source".toList, .str source), ("syncedAt".toList, .str syncedAt)] "source".toList =
        some (.str source) := rfl
  simp only [hhosts, hsource, map_object, Language.object, orEmpty_ofText]

/-- **What is written reads back just if the hosts are settled and the source is trimmed.** -/
theorem readsBack_iff {source : Text} (hsource : source ≠ []) :
    L.ReadsBack hosts source ↔ L.Settled hosts ∧ L.strip source = source := by
  have hparsed (syncedAt : Text) : L.parseOrderNameservers
      (some (L.setOrderNameservers hosts source syncedAt)) =
        .ok (L.cleanHosts ((L.cleanHosts hosts).map .ofText),
          if L.strip source = [] then none else some (L.strip source)) := parse_canonical _ _ _
  constructor
  · intro h
    have hread := h.parsed []
    rw [hparsed] at hread
    have hboth := Prod.mk.inj (Except.ok.inj hread)
    refine ⟨cleanHosts_idempotent_iff.mp h.idempotent, ?_⟩
    have hsnd := hboth.2
    split_ifs at hsnd
    exact Option.some.inj hsnd
  · rintro ⟨hsettled, htrim⟩
    have hidem := cleanHosts_idempotent_iff.mpr hsettled
    refine ⟨nodup_cleanHosts hosts, hidem, fun syncedAt => ?_⟩
    rw [hparsed, hidem, htrim, if_neg hsource]

/-! ## Host names -/

/-- A character of a host name. -/
def IsHostChar (c : Char) : Prop := isLabelChar c = true ∨ c = '.'

theorem IsHostChar.cases (h : IsHostChar c) :
    (97 ≤ c.toNat ∧ c.toNat ≤ 122) ∨ (48 ≤ c.toNat ∧ c.toNat ≤ 57) ∨ c = '-' ∨ c = '.' := by
  simpa [IsHostChar, isLabelChar, or_assoc] using h

theorem IsHostChar.bounds (h : IsHostChar c) :
    45 ≤ c.toNat ∧ c.toNat ≤ 122 ∧ ¬ (65 ≤ c.toNat ∧ c.toNat ≤ 90) := by
  rcases h.cases with h | h | rfl | rfl
  · omega
  · omega
  · decide
  · decide

theorem IsHostChar.isSpace (h : IsHostChar c) : L.isSpace c = false := by
  have hb := h.bounds
  exact isSpace_eq_false (by omega) (by omega)

theorem IsHostChar.toLower (h : IsHostChar c) : c.toLower = c := by
  refine dif_neg fun hupper => h.bounds.2.2 ?_
  simp only [ge_iff_le, UInt32.le_iff_toNat_le] at hupper
  exact hupper

/-- What a text put together of parts consists of. -/
theorem mem_intercalate (h : c ∈ [sep].intercalate parts) : c = sep ∨ ∃ part ∈ parts, c ∈ part := by
  induction parts with
  | nil => cases h
  | cons part parts ih =>
    cases parts with
    | nil =>
      rw [List.intercalate_singleton] at h
      exact .inr ⟨part, List.mem_cons_self, h⟩
    | cons next parts =>
      rw [List.intercalate_cons_cons, List.append_assoc, List.mem_append, List.mem_append,
        List.mem_singleton] at h
      rcases h with h | rfl | h
      · exact .inr ⟨part, List.mem_cons_self, h⟩
      · exact .inl rfl
      · rcases ih h with rfl | ⟨p, hp, hc⟩
        · exact .inl rfl
        · exact .inr ⟨p, List.mem_cons_of_mem part hp, hc⟩

theorem head_intercalate {part : Text} (h : c ∈ part.head?) :
    c ∈ ([sep].intercalate (part :: parts)).head? := by
  cases parts with
  | nil => rwa [List.intercalate_singleton]
  | cons next parts =>
    rw [List.intercalate_cons_cons, List.append_assoc]
    exact head_of_initial (List.prefix_append _ _) c h

theorem getLast_intercalate (hne : parts ≠ []) (hparts : ∀ part ∈ parts, part ≠ []) :
    ∃ part ∈ parts, ([sep].intercalate parts).getLast? = part.getLast? := by
  induction parts with
  | nil => exact absurd rfl hne
  | cons part parts ih =>
    cases parts with
    | nil => exact ⟨part, List.mem_cons_self, by rw [List.intercalate_singleton]⟩
    | cons next parts =>
      obtain ⟨p, hp, hlast⟩ := ih (List.cons_ne_nil _ _) fun q hq =>
        hparts q (List.mem_cons_of_mem part hq)
      refine ⟨p, List.mem_cons_of_mem part hp, ?_⟩
      obtain ⟨d, hd⟩ := Option.ne_none_iff_exists'.mp
        (mt List.getLast?_eq_none_iff.mp (hparts p (List.mem_cons_of_mem part hp)))
      rw [List.intercalate_cons_cons, List.append_assoc, List.getLast?_append,
        List.getLast?_append, hlast, hd]
      rfl

/-- A text that holds host names put together: it starts and ends with a character of a label. -/
structure HostText (t : Text) : Prop where
  head : ∃ c, t.head? = some c ∧ isLabelChar c = true ∧ c ≠ '-'
  last : ∃ c, t.getLast? = some c ∧ isLabelChar c = true

theorem isLabel_ends {l : Text} (h : isLabel l = true) :
    l ≠ [] ∧ HostText l ∧ ∀ c ∈ l, isLabelChar c = true := by
  simp only [isLabel, Bool.and_eq_true, decide_eq_true_eq, List.all_eq_true] at h
  obtain ⟨⟨⟨hne, hall⟩, hhead⟩, -⟩ := h
  refine ⟨hne, ⟨?_, ?_⟩, hall⟩
  · obtain ⟨c, hc⟩ := Option.ne_none_iff_exists'.mp (mt List.head?_eq_none_iff.mp hne)
    exact ⟨c, hc, hall c (List.mem_of_mem_head? hc), fun hdash => hhead (hdash ▸ hc)⟩
  · obtain ⟨c, hc⟩ := Option.ne_none_iff_exists'.mp (mt List.getLast?_eq_none_iff.mp hne)
    exact ⟨c, hc, hall c (List.mem_of_getLast? hc)⟩

theorem hostText_intercalate (hne : parts ≠ []) (hparts : ∀ part ∈ parts, HostText part) :
    HostText ([sep].intercalate parts) := by
  have hnil : ∀ part ∈ parts, part ≠ [] := fun part hpart h => by
    obtain ⟨c, hc, -⟩ := (hparts part hpart).head
    simp [h] at hc
  constructor
  · cases parts with
    | nil => exact absurd rfl hne
    | cons part parts =>
      obtain ⟨c, hc, hlabel⟩ := (hparts part List.mem_cons_self).head
      exact ⟨c, head_intercalate hc, hlabel⟩
  · obtain ⟨part, hpart, hlast⟩ := getLast_intercalate hne hnil
    rw [hlast]
    exact (hparts part hpart).last

theorem hostname_spec {host : Text} (h : isHostname host = true) :
    HostText host ∧ ∀ c ∈ host, IsHostChar c := by
  simp only [isHostname, Bool.and_eq_true, List.all_eq_true] at h
  have hlabels : ∀ l ∈ host.splitOn '.', isLabel l = true := h.2
  have hjoin : ['.'].intercalate (host.splitOn '.') = host := List.intercalate_splitOn '.'
  constructor
  · rw [← hjoin]
    exact hostText_intercalate (List.splitOn_ne_nil _ _) fun l hl =>
      (isLabel_ends (hlabels l hl)).2.1
  · intro c hc
    rw [← hjoin] at hc
    rcases mem_intercalate hc with rfl | ⟨l, hl, hcl⟩
    · exact .inr rfl
    · exact .inl ((isLabel_ends (hlabels l hl)).2.2 c hcl)

theorem strip_hostText (h : HostText t) : L.strip t = t ∧ t ≠ [] := by
  obtain ⟨c, hc, hlabel, -⟩ := h.head
  obtain ⟨d, hd, hlabel'⟩ := h.last
  exact strip_of_ends hc hd (IsHostChar.isSpace (.inl hlabel)) (IsHostChar.isSpace (.inl hlabel'))

theorem normalize_hostname {host : Text} (h : isHostname host = true) :
    L.normalizeNameserverHost (.ofText host) = host := by
  obtain ⟨htext, hchars⟩ := hostname_spec h
  have hdots : host.rdropWhile (fun c => decide (c = '.')) = host := by
    refine rdropWhile_of_getLast fun c hc => decide_eq_false ?_
    rintro rfl
    obtain ⟨d, hd, hlabel⟩ := htext.last
    obtain rfl : '.' = d := Option.some.inj ((Option.mem_def.mp hc).symm.trans hd)
    exact absurd hlabel (by decide)
  rw [Language.normalizeNameserverHost, bare_ofText, (strip_hostText htext).1, hdots,
    L.lower_ascii host fun c hc => by have := (hchars c hc).bounds; omega]
  exact (List.map_congr_left fun c hc => (hchars c hc).toLower).trans (List.map_id' host)

/-! ## The encodings -/

theorem cleanHosts_hostnames (h : ∀ v ∈ names, isHostname v = true) :
    L.cleanHosts (names.map .ofText) = firsts [] names :=
  cleanHosts_normal (fun v hv => (strip_hostText (L := L) (hostname_spec (h v hv)).1).2)
    fun v hv => normalize_hostname (h v hv)

/-- The comma-separated host names are read as such. -/
theorem parseHostString_comma (h : ∀ v ∈ names, isHostname v = true) :
    L.parseHostString (commaEncoding names) = firsts [] names := by
  by_cases hnil : names = []
  · subst hnil
    have hempty : L.normalizeNameserverHost (.ofText []) = [] := by
      rw [Language.normalizeNameserverHost, bare_ofText]
      exact lower_nil
    have hsplit : (commaEncoding []).splitOn ',' = [[]] := rfl
    rw [Language.parseHostString, hsplit, cleanHosts_eq]
    simp [hempty, firsts]
  · have hsplit : (commaEncoding names).splitOn ',' = names := by
      refine List.splitOn_intercalate ',' (fun v hv hcomma => ?_) hnil
      have := ((hostname_spec (h v hv)).2 _ hcomma).bounds
      exact absurd this.1 (by decide)
    rw [Language.parseHostString, hsplit, cleanHosts_hostnames h, List.filter_eq_self]
    intro v hv
    rw [matchesHostnameRe, h v (Windows.mem_firsts.mp hv).1]
    rfl

theorem parse_list (h : ∀ v ∈ names, isHostname v = true) :
    L.parseOrderNameservers (some (listEncoding names)) = .ok (firsts [] names, some custom) := by
  obtain ⟨hhead, hlast⟩ := Json.dumps_arr_ends (names.map .str)
  rw [listEncoding, parse_of_loads (strip_of_ends hhead hlast
    (isSpace_eq_false (by decide) (by decide)) (isSpace_eq_false (by decide) (by decide)))
    (Json.loads_dumps (plain_strings names))]
  simp only [map_object, cleanHosts_hostnames h]

theorem parse_string (h : ∀ v ∈ names, isHostname v = true) :
    L.parseOrderNameservers (some (stringEncoding names)) = .ok (firsts [] names, some custom) := by
  obtain ⟨hhead, hlast⟩ := Json.dumps_str_ends (commaEncoding names)
  rw [stringEncoding, parse_of_loads (strip_of_ends hhead hlast
    (isSpace_eq_false (by decide) (by decide)) (isSpace_eq_false (by decide) (by decide)))
    (Json.loads_dumps (.str _))]
  simp only [parseHostString_comma h]

/-- The comma-separated text is no JSON string, list or object: it is read as it is, unless it
starts with too long an integer. -/
theorem parse_comma (h : ∀ v ∈ names, isHostname v = true) :
    (Json.Overlong (commaEncoding names) ∧
        L.parseOrderNameservers (some (commaEncoding names)) = .error .tooManyDigits) ∨
      (¬ Json.Overlong (commaEncoding names) ∧ ∃ source,
        L.parseOrderNameservers (some (commaEncoding names)) = .ok (firsts [] names, source)) := by
  by_cases hnil : names = []
  · subst hnil
    refine .inr ⟨fun hlong => absurd hlong.1 (Nat.not_lt_zero _), none, ?_⟩
    have hstrip : L.strip (commaEncoding []) = [] := rfl
    simp only [Language.parseOrderNameservers, hstrip, if_true]
    rfl
  have htext : HostText (commaEncoding names) :=
    hostText_intercalate hnil fun v hv => (hostname_spec (h v hv)).1
  have hstrip := strip_hostText (L := L) htext
  have hparse := parseHostString_comma (L := L) h
  obtain ⟨c, hc, hlabel, hdash⟩ := htext.head
  obtain ⟨t, ht⟩ : ∃ t, commaEncoding names = c :: t := List.head?_eq_some_iff.mp hc
  have hne (d : Char) (hd : isLabelChar d = false) : c ≠ d := fun h => by
    rw [h, hd] at hlabel
    cases hlabel
  have hstarts : Json.Starts c :=
    ⟨fun h => by
      rcases h with h | h | h | h
      · exact hne _ (by decide) h
      · exact hne _ (by decide) h
      · exact hne _ (by decide) h
      · exact hne _ (by decide) h, hne _ (by decide)⟩
  rw [ht] at hstrip hparse ⊢
  rcases Json.loads_cases (t := t) hstarts hdash (hne _ (by decide)) (hne _ (by decide))
    (hne _ (by decide)) (hne _ (by decide)) with ⟨hlong, herror⟩ | ⟨hshort, hdecode | ⟨x, hok, hx⟩⟩
  · refine .inl ⟨hlong, ?_⟩
    simp only [Language.parseOrderNameservers, hstrip.1, if_neg hstrip.2, herror]
  · refine .inr ⟨hshort, some custom, ?_⟩
    simp only [Language.parseOrderNameservers, hstrip.1, if_neg hstrip.2, hdecode, hparse]
  · refine .inr ⟨hshort, some custom, ?_⟩
    rw [parse_of_loads hstrip hok]
    cases x with
    | null | bool _ | num _ => simp only [hparse]
    | str _ | arr _ | obj _ => exact hx.elim

/-- **The encodings agree just if the comma-separated text does not start with too long an
integer.** -/
theorem encodingsAgree_iff (h : ∀ v ∈ names, isHostname v = true) :
    L.EncodingsAgree names ↔ ¬ Json.Overlong (commaEncoding names) := by
  rcases parse_comma (L := L) h with ⟨hlong, herror⟩ | ⟨hshort, source, hok⟩
  · refine iff_of_false ?_ fun hshort => hshort hlong
    rintro ⟨parsed, hagree⟩
    have hcomma := hagree (commaEncoding names) (.inr (.inr (.inl rfl)))
    rw [herror] at hcomma
    cases hcomma
  · refine iff_of_true ⟨firsts [] names, ?_⟩ hshort
    rintro encoding (rfl | rfl | rfl | ⟨source, syncedAt, rfl⟩)
    · rw [parse_list h]
      rfl
    · rw [parse_string h]
      rfl
    · rw [hok]
      rfl
    · rw [parse_canonical, cleanHosts_hostnames h]
      rfl

/-- **When stored nameservers read back**: for all hosts, every source that is not empty and all
lists of host names. -/
theorem nameservers_read_back_iff (L : Language) (hosts : List Object) (source : Text)
    (hsource : source ≠ []) (names : List Text) (hnames : ∀ v ∈ names, isHostname v = true) :
    (L.ReadsBack hosts source ∧ L.EncodingsAgree names) ↔
      L.Settled hosts ∧ L.strip source = source ∧ ¬ Json.Overlong (commaEncoding names) := by
  rw [readsBack_iff hsource, encodingsAgree_iff hnames, and_assoc]

/-! ## Texts in ASCII -/

theorem toLower_cases (c : Char) :
    c.toLower = c ∨ ((65 ≤ c.toNat ∧ c.toNat ≤ 90) ∧ c.toLower.toNat = c.toNat + 32) := by
  by_cases hupper : c.val ≥ 'A'.val ∧ c.val ≤ 'Z'.val
  · right
    have hbounds : 65 ≤ c.toNat ∧ c.toNat ≤ 90 := by
      simp only [ge_iff_le, UInt32.le_iff_toNat_le] at hupper
      exact hupper
    refine ⟨hbounds, ?_⟩
    rw [show c.toLower = _ from dif_pos hupper]
    change (c.val + ('a'.val - 'A'.val)).toNat = c.val.toNat + 32
    have hlt : c.val.toNat ≤ 90 := hbounds.2
    rw [UInt32.toNat_add]
    exact Nat.mod_eq_of_lt (by change c.val.toNat + 32 < 2 ^ 32; omega)
  · exact .inl (dif_neg hupper)

theorem toLower_toLower (c : Char) : c.toLower.toLower = c.toLower := by
  rcases toLower_cases c with h | ⟨hbounds, h⟩
  · rw [h, h]
  · rcases toLower_cases c.toLower with h' | ⟨hbounds', -⟩
    · exact h'
    · omega

/-- `str.isspace` in ASCII. -/
def isAsciiSpace (c : Char) : Bool :=
  (9 ≤ c.toNat && c.toNat ≤ 13) || (28 ≤ c.toNat && c.toNat ≤ 32)

theorem toLower_keeps (c : Char) :
    isAsciiSpace c.toLower = isAsciiSpace c ∧ (c.toLower = '.' ↔ c = '.') := by
  rcases toLower_cases c with h | ⟨hbounds, h⟩
  · rw [h]
    exact ⟨rfl, Iff.rfl⟩
  · refine ⟨?_, iff_of_false (fun hdot => ?_) fun hdot => ?_⟩
    · rw [Bool.eq_iff_iff]
      simp only [isAsciiSpace, h, Bool.or_eq_true, Bool.and_eq_true, decide_eq_true_eq]
      omega
    · rw [hdot] at h
      have h46 : '.'.toNat = 46 := rfl
      omega
    · rw [hdot] at hbounds
      exact absurd hbounds (by decide)

/-- `str` on texts in ASCII. -/
def ascii : Language where
  isSpace := isAsciiSpace
  lower t := t.map Char.toLower
  str _ := []
  isZero _ := false
  isSpace_ascii c _ := by simp [isAsciiSpace]
  lower_ascii _ _ := rfl
  lower_lower t u h := by
    refine (List.map_congr_left fun c hc => ?_).trans (List.map_id' u)
    obtain ⟨d, -, rfl⟩ := List.mem_map.mp (h c hc)
    exact toLower_toLower d
  lower_head c t := ⟨c.toLower, t.map Char.toLower, rfl, toLower_keeps c⟩
  lower_last t c := ⟨t.map Char.toLower, c.toLower, List.map_append, toLower_keeps c⟩

/-- Two hosts, one of them with capitals and a dot at its end, and the names that come of them. -/
theorem nameservers_read_back_openprovider :
    (ascii.ReadsBack [.ofText "NS1.Openprovider.nl.".toList, .ofText " ns2.openprovider.be".toList]
        "openprovider".toList ∧
      ascii.EncodingsAgree ["ns1.openprovider.nl".toList, "ns2.openprovider.be".toList]) ↔
    ascii.Settled [.ofText "NS1.Openprovider.nl.".toList, .ofText " ns2.openprovider.be".toList] ∧
      ascii.strip "openprovider".toList = "openprovider".toList ∧
      ¬ Json.Overlong (commaEncoding ["ns1.openprovider.nl".toList, "ns2.openprovider.be".toList]) :=
  nameservers_read_back_iff ascii _ _ (by decide) _ (by decide +kernel)

/-- A host with a blank between its last dots: what is written is cleaned once more when it is
read. -/
theorem blank_before_dot :
    ¬ (ascii.ReadsBack [.ofText "ns1.openprovider.nl. .".toList] "openprovider".toList ∧
      ascii.EncodingsAgree ["ns1.openprovider.nl".toList]) := by
  rintro ⟨hreads, -⟩
  have hsettled := ((readsBack_iff (by decide)).mp hreads).1
  exact absurd (hsettled _ List.mem_cons_self ' ' (by decide +kernel)) (by decide)

end Deltapreneur.Nameservers
