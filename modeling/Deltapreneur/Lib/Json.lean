import Mathlib.Data.List.Basic

/-!
# JSON texts

Values, the text that `json.dumps` writes for them and the reader `json.loads` of the Python
standard library.

* A text is a list of Unicode scalar values. A number stays the text it was read from.
* The reader takes fuel, twice the length of the text: of two nested calls one reads a character.
* Left out: the limit on nesting. A string with half of a surrogate pair is no text here; the
  reader says so (`Error.surrogate`).

`loads_dumps`: a value without numbers reads back from its text.
-/

/-- A JSON value. -/
inductive Json
  | null
  | bool (b : Bool)
  | num (token : List Char)
  | str (s : List Char)
  | arr (items : List Json)
  | obj (members : List (List Char × Json))

namespace Json

/-! ## Writing -/

/-- A digit of `\uXXXX`. -/
def hexDigit (n : ℕ) : Char := Char.ofNat (if n < 10 then 48 + n else 87 + n)

/-- `\uXXXX`. -/
def unicodeEscape (n : ℕ) : List Char :=
  ['\\', 'u', hexDigit (n / 4096 % 16), hexDigit (n / 256 % 16), hexDigit (n / 16 % 16),
    hexDigit (n % 16)]

/-- A character inside a string: `py_encode_basestring_ascii`. -/
def escape (c : Char) : List Char :=
  if c = '"' then ['\\', '"']
  else if c = '\\' then ['\\', '\\']
  else if c = '\n' then ['\\', 'n']
  else if c = '\r' then ['\\', 'r']
  else if c = '\t' then ['\\', 't']
  else if c = '\x0c' then ['\\', 'f']
  else if c = '\x08' then ['\\', 'b']
  else if 32 ≤ c.toNat ∧ c.toNat ≤ 126 then [c]
  else if c.toNat < 0x10000 then unicodeEscape c.toNat
  else unicodeEscape (0xd800 + (c.toNat - 0x10000) / 1024) ++
    unicodeEscape (0xdc00 + (c.toNat - 0x10000) % 1024)

/-- A string with its quotes. -/
def quote (s : List Char) : List Char := '"' :: s.flatMap escape ++ ['"']

mutual

/-- `json.dumps`. -/
def dumps : Json → List Char
  | null => ['n', 'u', 'l', 'l']
  | bool true => ['t', 'r', 'u', 'e']
  | bool false => ['f', 'a', 'l', 's', 'e']
  | num token => token
  | str s => quote s
  | arr [] => ['[', ']']
  | arr (x :: xs) => '[' :: dumps x ++ dumpsItems xs
  | obj [] => ['{', '}']
  | obj ((k, x) :: ms) => '{' :: quote k ++ ':' :: ' ' :: dumps x ++ dumpsMembers ms

/-- The items after the first one, and the end of the list. -/
def dumpsItems : List Json → List Char
  | [] => [']']
  | x :: xs => ',' :: ' ' :: dumps x ++ dumpsItems xs

/-- The members after the first one, and the end of the object. -/
def dumpsMembers : List (List Char × Json) → List Char
  | [] => ['}']
  | (k, x) :: ms => ',' :: ' ' :: quote k ++ ':' :: ' ' :: dumps x ++ dumpsMembers ms

end

/-! ## Reading -/

/-- Why a text is not read. -/
inductive Error
  /-- `JSONDecodeError`. -/
  | decode
  /-- `ValueError` of `int`, for an integer with too many digits. -/
  | tooManyDigits
  /-- Half of a surrogate pair. -/
  | surrogate
  deriving DecidableEq

/-- A character, or half of a surrogate pair. -/
inductive Piece
  | char (c : Char)
  | half (n : ℕ)

/-- What `\uXXXX` stands for. -/
def piece (n : ℕ) : Piece :=
  if 0xd800 ≤ n ∧ n ≤ 0xdfff then .half n else .char (Char.ofNat n)

def hexValue (c : Char) : Option ℕ :=
  if '0'.toNat ≤ c.toNat ∧ c.toNat ≤ '9'.toNat then some (c.toNat - '0'.toNat)
  else if 'a'.toNat ≤ c.toNat ∧ c.toNat ≤ 'f'.toNat then some (c.toNat - 'a'.toNat + 10)
  else if 'A'.toNat ≤ c.toNat ∧ c.toNat ≤ 'F'.toNat then some (c.toNat - 'A'.toNat + 10)
  else none

/-- The number of four hexadecimal digits. -/
def hex4 (a b c d : Char) : Option ℕ := do
  let a ← hexValue a
  let b ← hexValue b
  let c ← hexValue c
  let d ← hexValue d
  some (((a * 16 + b) * 16 + c) * 16 + d)

/-- The character after a backslash. -/
def unescape : Char → Option Char
  | '"' => some '"'
  | '\\' => some '\\'
  | '/' => some '/'
  | 'b' => some '\x08'
  | 'f' => some '\x0c'
  | 'n' => some '\n'
  | 'r' => some '\r'
  | 't' => some '\t'
  | _ => none

/-- The pieces of a string up to its closing quote, and the text behind it. -/
def scanString : List Char → Option (List Piece × List Char)
  | [] => none
  | '"' :: rest => some ([], rest)
  | '\\' :: 'u' :: a :: b :: c :: d :: rest =>
    match hex4 a b c d with
    | none => none
    | some n => (scanString rest).map fun p => (piece n :: p.1, p.2)
  | '\\' :: e :: rest =>
    match unescape e with
    | none => none
    | some c => (scanString rest).map fun p => (.char c :: p.1, p.2)
  | c :: rest =>
    if c = '\\' ∨ c.toNat < 32 then none
    else (scanString rest).map fun p => (.char c :: p.1, p.2)

/-- The pieces put together; `none` if half of a pair is left. -/
def join : List Piece → Option (List Char)
  | [] => some []
  | .char c :: rest => (join rest).map (c :: ·)
  | .half hi :: .half lo :: rest =>
    if hi < 0xdc00 ∧ 0xdc00 ≤ lo then
      (join rest).map (Char.ofNat (0x10000 + ((hi - 0xd800) * 1024 + (lo - 0xdc00))) :: ·)
    else none
  | .half _ :: _ => none

/-- A string after its opening quote. -/
def string (text : List Char) : Except Error (List Char × List Char) :=
  match scanString text with
  | none => .error .decode
  | some (pieces, rest) =>
    match join pieces with
    | none => .error .surrogate
    | some s => .ok (s, rest)

/-- `(\.\d+)?`. -/
def fraction (text : List Char) : List Char × List Char :=
  match text with
  | '.' :: rest =>
    if rest.takeWhile Char.isDigit = [] then ([], text)
    else ('.' :: rest.takeWhile Char.isDigit, rest.dropWhile Char.isDigit)
  | _ => ([], text)

/-- `([eE][-+]?\d+)?`. -/
def exponent (text : List Char) : List Char × List Char :=
  match text with
  | e :: rest =>
    let (sign, digits) : List Char × List Char := match rest with
      | '-' :: digits => (['-'], digits)
      | '+' :: digits => (['+'], digits)
      | digits => ([], digits)
    if (e = 'e' ∨ e = 'E') ∧ digits.takeWhile Char.isDigit ≠ [] then
      (e :: sign ++ digits.takeWhile Char.isDigit, digits.dropWhile Char.isDigit)
    else ([], text)
  | [] => ([], text)

/-- `0|[1-9]\d*`; empty if there is none. -/
def integer (text : List Char) : List Char × List Char :=
  match text with
  | '0' :: rest => (['0'], rest)
  | _ => (text.takeWhile Char.isDigit, text.dropWhile Char.isDigit)

/-- What `int` reads at most. -/
def MAX_STR_DIGITS : ℕ := 4300

/-- A number after its sign. -/
def number (sign text : List Char) : Except Error (Json × List Char) :=
  let (digits, rest) := integer text
  let (frac, rest) := fraction rest
  let (exp, rest) := exponent rest
  if digits = [] then .error .decode
  else if frac = [] ∧ exp = [] ∧ MAX_STR_DIGITS < digits.length then .error .tooManyDigits
  else .ok (.num (sign ++ digits ++ frac ++ exp), rest)

/-- A value that is neither a string nor a list nor an object. -/
def scalar : List Char → Except Error (Json × List Char)
  | 'n' :: 'u' :: 'l' :: 'l' :: rest => .ok (.null, rest)
  | 't' :: 'r' :: 'u' :: 'e' :: rest => .ok (.bool true, rest)
  | 'f' :: 'a' :: 'l' :: 's' :: 'e' :: rest => .ok (.bool false, rest)
  | 'N' :: 'a' :: 'N' :: rest => .ok (.num ['N', 'a', 'N'], rest)
  | 'I' :: 'n' :: 'f' :: 'i' :: 'n' :: 'i' :: 't' :: 'y' :: rest =>
    .ok (.num ['I', 'n', 'f', 'i', 'n', 'i', 't', 'y'], rest)
  | '-' :: 'I' :: 'n' :: 'f' :: 'i' :: 'n' :: 'i' :: 't' :: 'y' :: rest =>
    .ok (.num ['-', 'I', 'n', 'f', 'i', 'n', 'i', 't', 'y'], rest)
  | '-' :: rest => number ['-'] rest
  | text => number [] text

/-- The text behind blanks. -/
def skip (text : List Char) : List Char :=
  text.dropWhile fun c => c = ' ' ∨ c = '\t' ∨ c = '\n' ∨ c = '\r'

mutual

/-- `scan_once`. -/
def value : ℕ → List Char → Except Error (Json × List Char)
  | 0, _ => .error .decode
  | n + 1, text =>
    match text with
    | '"' :: rest =>
      match string rest with
      | .error e => .error e
      | .ok (s, rest) => .ok (.str s, rest)
    | '[' :: rest =>
      match skip rest with
      | ']' :: rest => .ok (.arr [], rest)
      | rest => match items n rest with
        | .error e => .error e
        | .ok (xs, rest) => .ok (.arr xs, rest)
    | '{' :: rest =>
      match skip rest with
      | '}' :: rest => .ok (.obj [], rest)
      | rest => match members n rest with
        | .error e => .error e
        | .ok (ms, rest) => .ok (.obj ms, rest)
    | text => scalar text

/-- The items of a list that is not empty. -/
def items : ℕ → List Char → Except Error (List Json × List Char)
  | 0, _ => .error .decode
  | n + 1, text =>
    match value n text with
    | .error e => .error e
    | .ok (x, rest) => match skip rest with
      | ']' :: rest => .ok ([x], rest)
      | ',' :: rest => match items n (skip rest) with
        | .error e => .error e
        | .ok (xs, rest) => .ok (x :: xs, rest)
      | _ => .error .decode

/-- The members of an object that is not empty. -/
def members : ℕ → List Char → Except Error (List (List Char × Json) × List Char)
  | 0, _ => .error .decode
  | n + 1, text =>
    match text with
    | '"' :: rest => match string rest with
      | .error e => .error e
      | .ok (k, rest) => match skip rest with
        | ':' :: rest => match value n (skip rest) with
          | .error e => .error e
          | .ok (x, rest) => match skip rest with
            | '}' :: rest => .ok ([(k, x)], rest)
            | ',' :: rest => match members n (skip rest) with
              | .error e => .error e
              | .ok (ms, rest) => .ok ((k, x) :: ms, rest)
            | _ => .error .decode
        | _ => .error .decode
    | _ => .error .decode

end

/-- `json.loads`. -/
def loads (text : List Char) : Except Error Json :=
  if text.head? = some '\ufeff' then .error .decode
  else match value (2 * text.length + 1) (skip text) with
    | .error e => .error e
    | .ok (x, rest) => if skip rest = [] then .ok x else .error .decode

/-- `dict.get`: of two members with one key the later counts. -/
def get? (members : List (List Char × Json)) (key : List Char) : Option Json :=
  members.reverse.lookup key

/-- `dict[key] = value`. -/
def set (members : List (List Char × Json)) (key : List Char) (value : Json) :
    List (List Char × Json) :=
  if members.any (·.1 = key) then
    members.map fun m => if m.1 = key then (key, value) else m
  else members ++ [(key, value)]

theorem get?_set_self (members : List (List Char × Json)) (key : List Char) (value : Json) :
    get? (set members key value) key = some value := by
  unfold set get?
  split_ifs with hany
  · rw [← List.map_reverse]
    rw [← List.any_reverse] at hany
    generalize members.reverse = ms at hany
    induction ms with
    | nil => simp at hany
    | cons m ms ih =>
      obtain ⟨k, v⟩ := m
      by_cases hk : k = key
      · simp [hk]
      · have hne : (key == k) = false := by simpa using Ne.symm hk
        simpa [List.lookup_cons, hk, hne] using ih (by simpa [hk] using hany)
  · simp

theorem get?_set_ne (members : List (List Char × Json)) {key other : List Char} (value : Json)
    (h : other ≠ key) : get? (set members key value) other = get? members other := by
  unfold set get?
  split_ifs with hany
  · rw [← List.map_reverse]
    generalize members.reverse = ms
    induction ms with
    | nil => rfl
    | cons m ms ih =>
      obtain ⟨k, v⟩ := m
      by_cases hk : k = key
      · have hne : (other == key) = false := by simpa using h
        simpa [List.lookup_cons, hk, hne] using ih
      · simp only [List.map_cons, if_neg hk, List.lookup_cons, ih]
  · have hne : (other == key) = false := by simpa using h
    simp [List.lookup_cons, hne]

/-! ## Strings read back -/

theorem hexValue_hexDigit : ∀ n < 16, hexValue (hexDigit n) = some n := by decide

theorem hex4_unicodeEscape {n : ℕ} (h : n < 65536) :
    hex4 (hexDigit (n / 4096 % 16)) (hexDigit (n / 256 % 16)) (hexDigit (n / 16 % 16))
      (hexDigit (n % 16)) = some n := by
  have hdigit (m : ℕ) : hexValue (hexDigit (m % 16)) = some (m % 16) :=
    hexValue_hexDigit _ (Nat.mod_lt m (by decide))
  simp only [hex4, hdigit, Option.bind_eq_bind, Option.bind_some, Option.some.injEq]
  omega

/-- An escape is read as its piece. -/
theorem scanString_unicodeEscape {n : ℕ} (h : n < 65536) (rest : List Char) :
    scanString (unicodeEscape n ++ rest) =
      (scanString rest).map fun p => (piece n :: p.1, p.2) := by
  simp only [unicodeEscape, List.cons_append, List.nil_append, scanString, hex4_unicodeEscape h]

/-- The pieces that a character is read as. -/
def pieces (c : Char) : List Piece :=
  if c.toNat < 0x10000 then [.char c]
  else [.half (0xd800 + (c.toNat - 0x10000) / 1024), .half (0xdc00 + (c.toNat - 0x10000) % 1024)]

theorem toNat_lt (c : Char) : c.toNat < 0x110000 := by
  rcases c.valid with h | h
  · exact Nat.lt_trans h (by decide)
  · exact h.2

variable {c : Char} {x : Json}

theorem piece_toNat : piece c.toNat = .char c := by
  have hvalid : ¬ (0xd800 ≤ c.toNat ∧ c.toNat ≤ 0xdfff) := by
    rcases c.valid with h | h
    · exact fun hle => absurd hle.1 (Nat.not_le.mpr h)
    · exact fun hle => absurd hle.2 (Nat.not_le.mpr h.1)
  rw [piece, if_neg hvalid, Char.ofNat_toNat]

theorem scanString_cons (hquote : c ≠ '"') (hback : c ≠ '\\') (h : 32 ≤ c.toNat) (rest : List Char)
    : scanString (c :: rest) = (scanString rest).map fun p => (.char c :: p.1, p.2) := by
  rw [scanString.eq_def]
  split
  · contradiction
  · simp_all
  · simp_all
  · simp_all
  · rename_i heq
    obtain ⟨rfl, rfl⟩ := List.cons.inj heq
    rw [if_neg (by simp only [hback, false_or]; omega)]

/-- What is written for a character is read as its pieces. -/
theorem scanString_escape (c : Char) (rest : List Char) :
    scanString (escape c ++ rest) = (scanString rest).map fun p => (pieces c ++ p.1, p.2) := by
  have hsmall (h : c.toNat < 0x10000) : pieces c = [.char c] := if_pos h
  unfold escape
  split_ifs with h1 h2 h3 h4 h5 h6 h7 hprint hbmp
  · subst h1; rfl
  · subst h2; rfl
  · subst h3; rfl
  · subst h4; rfl
  · subst h5; rfl
  · subst h6; rfl
  · subst h7; rfl
  · rw [hsmall (by omega)]
    exact scanString_cons h1 h2 hprint.1 rest
  · rw [hsmall hbmp, scanString_unicodeEscape hbmp, piece_toNat]
    rfl
  · have hlt := toNat_lt c
    rw [List.append_assoc, scanString_unicodeEscape (by omega), scanString_unicodeEscape (by omega),
      Option.map_map, pieces, if_neg hbmp, piece, if_pos (by omega), piece, if_pos (by omega)]
    rfl

theorem join_pieces (c : Char) (ps : List Piece) :
    join (pieces c ++ ps) = (join ps).map (c :: ·) := by
  unfold pieces
  split_ifs with h
  · rfl
  · have hlt := toNat_lt c
    have hc : 0x10000 + ((0xd800 + (c.toNat - 0x10000) / 1024 - 0xd800) * 1024 +
        (0xdc00 + (c.toNat - 0x10000) % 1024 - 0xdc00)) = c.toNat := by omega
    simp only [List.cons_append, List.nil_append, join]
    rw [if_pos (by omega), hc, Char.ofNat_toNat]

/-- **A string reads back from what is written for it.** -/
theorem string_quote (s rest : List Char) :
    string (s.flatMap escape ++ '"' :: rest) = .ok (s, rest) := by
  have hscan : scanString (s.flatMap escape ++ '"' :: rest) = some (s.flatMap pieces, rest) := by
    induction s with
    | nil => rfl
    | cons c s ih =>
      rw [List.flatMap_cons, List.append_assoc, scanString_escape, ih]
      rfl
  have hjoin : join (s.flatMap pieces) = some s := by
    clear hscan
    induction s with
    | nil => rfl
    | cons c s ih =>
      rw [List.flatMap_cons, join_pieces, ih]
      rfl
  simp only [string, hscan, hjoin]

/-! ## Values read back -/

/-- A value without numbers. -/
inductive Plain : Json → Prop
  | null : Plain .null
  | bool (b : Bool) : Plain (.bool b)
  | str (s : List Char) : Plain (.str s)
  | arr {xs : List Json} (h : ∀ x ∈ xs, Plain x) : Plain (.arr xs)
  | obj {ms : List (List Char × Json)} (h : ∀ m ∈ ms, Plain m.2) : Plain (.obj ms)

/-- The value reads back from its text, with enough fuel for the text. -/
def Reads (x : Json) : Prop :=
  ∀ n rest, 2 * (dumps x).length ≤ n → value n (dumps x ++ rest) = .ok (x, rest)

/-- Not a blank, and no bracket that ends a list. -/
def Starts (c : Char) : Prop := ¬ (c = ' ' ∨ c = '\t' ∨ c = '\n' ∨ c = '\r') ∧ c ≠ ']'

instance (c : Char) : Decidable (Starts c) :=
  inferInstanceAs (Decidable (¬ (c = ' ' ∨ c = '\t' ∨ c = '\n' ∨ c = '\r') ∧ c ≠ ']'))

theorem dumps_starts (h : Plain x) : ∃ c t, dumps x = c :: t ∧ Starts c := by
  cases h with
  | null => exact ⟨_, _, rfl, by decide⟩
  | bool b => cases b <;> exact ⟨_, _, rfl, by decide⟩
  | str s => exact ⟨_, _, rfl, by decide⟩
  | @arr xs => cases xs <;> exact ⟨_, _, rfl, by decide⟩
  | @obj ms => cases ms <;> exact ⟨_, _, rfl, by decide⟩

theorem skip_cons (h : Starts c) (t : List Char) : skip (c :: t) = c :: t :=
  List.dropWhile_cons_of_neg (by simpa using h.1)

theorem skip_dumps (h : Plain x) (t : List Char) : skip (dumps x ++ t) = dumps x ++ t := by
  obtain ⟨c, u, hx, hc⟩ := dumps_starts h
  rw [hx, List.cons_append, skip_cons hc]

theorem skip_blank (t : List Char) : skip (' ' :: t) = skip t := rfl

/-- The items of a list are read one by one. -/
theorem items_dumps (xs : List Json) (x : Json) (hplain : ∀ y ∈ x :: xs, Plain y)
    (hreads : ∀ y ∈ x :: xs, Reads y) (n : ℕ) (rest : List Char)
    (hn : 2 * ((dumps x).length + (dumpsItems xs).length) < n) :
    items n (dumps x ++ (dumpsItems xs ++ rest)) = .ok (x :: xs, rest) := by
  induction xs generalizing x n with
  | nil =>
    obtain ⟨n, rfl⟩ : ∃ m, n = m + 1 := ⟨n - 1, by omega⟩
    rw [items, hreads x List.mem_cons_self n _ (by simp only [dumpsItems, List.length_cons] at hn; omega)]
    rfl
  | cons y ys ih =>
    obtain ⟨n, rfl⟩ : ∃ m, n = m + 1 := ⟨n - 1, by omega⟩
    have hlen : 2 * ((dumps x).length + (2 + (dumps y).length + (dumpsItems ys).length)) < n + 1 := by
      simpa [dumpsItems, Nat.add_comm, Nat.add_left_comm, Nat.add_assoc] using hn
    rw [items, hreads x List.mem_cons_self n _ (by omega)]
    simp only [dumpsItems, List.cons_append, List.append_assoc]
    rw [skip_cons (by decide)]
    simp only [skip_blank]
    rw [skip_dumps (hplain y (by simp)),
      ih y (fun z hz => hplain z (List.mem_cons_of_mem x hz))
        (fun z hz => hreads z (List.mem_cons_of_mem x hz)) n (by omega)]

/-- The members of an object are read one by one. -/
theorem members_dumps (ms : List (List Char × Json)) (k : List Char) (x : Json)
    (hplain : ∀ m ∈ (k, x) :: ms, Plain m.2) (hreads : ∀ m ∈ (k, x) :: ms, Reads m.2) (n : ℕ)
    (rest : List Char) (hn : 2 * ((dumps x).length + (dumpsMembers ms).length) < n) :
    members n (quote k ++ (':' :: ' ' :: (dumps x ++ (dumpsMembers ms ++ rest)))) =
      .ok ((k, x) :: ms, rest) := by
  induction ms generalizing k x n with
  | nil =>
    obtain ⟨n, rfl⟩ : ∃ m, n = m + 1 := ⟨n - 1, by omega⟩
    have hx : Reads x := hreads (k, x) List.mem_cons_self
    simp only [quote, List.cons_append, List.append_assoc, List.nil_append, members, string_quote]
    rw [skip_cons (by decide)]
    simp only [skip_blank]
    rw [skip_dumps (hplain _ List.mem_cons_self), hx n _ (by omega)]
    rfl
  | cons m ms ih =>
    obtain ⟨l, y⟩ := m
    obtain ⟨n, rfl⟩ : ∃ m, n = m + 1 := ⟨n - 1, by omega⟩
    have hlen : (dumpsMembers ((l, y) :: ms)).length =
        2 + (quote l).length + 2 + (dumps y).length + (dumpsMembers ms).length := by
      simp only [dumpsMembers, List.length_cons, List.length_append]
      omega
    have hx : Reads x := hreads (k, x) List.mem_cons_self
    have hrest := ih l y (fun z hz => hplain z (List.mem_cons_of_mem _ hz))
      (fun z hz => hreads z (List.mem_cons_of_mem _ hz)) n (by omega)
    rw [quote]
    simp only [List.cons_append, List.append_assoc, List.nil_append, members, string_quote]
    rw [skip_cons (by decide)]
    simp only [skip_blank]
    rw [skip_dumps (hplain _ List.mem_cons_self), hx n _ (by omega)]
    simp only [dumpsMembers, List.cons_append, List.append_assoc]
    rw [skip_cons (by decide)]
    have hskip (t : List Char) : skip (quote l ++ t) = quote l ++ t := skip_cons (by decide) _
    simp only [skip_blank, hskip, hrest]

/-- **A value without numbers reads back from its text**, whatever follows. -/
theorem reads_of_plain (h : Plain x) : Reads x := by
  intro n rest hn
  induction h generalizing n rest with
  | null =>
    obtain ⟨n, rfl⟩ : ∃ m, n = m + 1 := ⟨n - 1, by simp [dumps] at hn; omega⟩
    rfl
  | bool b =>
    obtain ⟨n, rfl⟩ : ∃ m, n = m + 1 := ⟨n - 1, by cases b <;> simp [dumps] at hn <;> omega⟩
    cases b <;> rfl
  | str s =>
    obtain ⟨n, rfl⟩ : ∃ m, n = m + 1 := ⟨n - 1, by simp [dumps, quote] at hn; omega⟩
    simp only [dumps, quote, List.cons_append, List.append_assoc, List.nil_append, value,
      string_quote]
  | @arr xs hplain ih =>
    cases xs with
    | nil =>
      obtain ⟨n, rfl⟩ : ∃ m, n = m + 1 := ⟨n - 1, by simp [dumps] at hn; omega⟩
      rfl
    | cons x xs =>
      obtain ⟨c, t, hx, hc⟩ := dumps_starts (hplain x List.mem_cons_self)
      simp only [dumps, List.length_cons, List.length_append] at hn
      obtain ⟨n, rfl⟩ : ∃ m, n = m + 1 := ⟨n - 1, by omega⟩
      have hitems := items_dumps xs x hplain (fun y hy => ih y hy) n rest (by omega)
      simp only [dumps, List.cons_append, List.append_assoc, value]
      rw [skip_dumps (hplain x List.mem_cons_self)]
      rw [hx, List.cons_append] at hitems ⊢
      split
      · rename_i heq
        exact absurd (List.cons.inj heq).1 hc.2
      · rw [hitems]
  | @obj ms hplain ih =>
    cases ms with
    | nil =>
      obtain ⟨n, rfl⟩ : ∃ m, n = m + 1 := ⟨n - 1, by simp [dumps] at hn; omega⟩
      rfl
    | cons m ms =>
      obtain ⟨k, x⟩ := m
      simp only [dumps, List.length_cons, List.length_append] at hn
      obtain ⟨n, rfl⟩ : ∃ m, n = m + 1 := ⟨n - 1, by omega⟩
      have hmembers := members_dumps ms k x hplain (fun m hm => ih m hm) n rest (by omega)
      have hskip (t : List Char) : skip (quote k ++ t) = quote k ++ t := skip_cons (by decide) _
      simp only [dumps, List.cons_append, List.append_assoc, value, hskip]
      rw [quote, List.cons_append, List.cons_append] at hmembers ⊢
      split
      · rename_i heq
        exact absurd (List.cons.inj heq).1 (by decide)
      · rw [hmembers]

/-- **`json.loads` reads what `json.dumps` writes.** -/
theorem loads_dumps (h : Plain x) : loads (dumps x) = .ok x := by
  obtain ⟨c, t, hx, hc⟩ := dumps_starts h
  have hskip := skip_dumps h []
  have hread := reads_of_plain h (2 * (dumps x).length + 1) [] (by omega)
  rw [List.append_nil] at hskip hread
  have hbom : (dumps x).head? ≠ some '\ufeff' := by
    cases h with
    | null => decide
    | bool b => cases b <;> decide
    | str s => simp [dumps, quote]
    | @arr xs => cases xs <;> simp [dumps]
    | @obj ms => cases ms <;> simp [dumps]
  unfold loads
  rw [if_neg hbom, hskip, hread]
  rfl

/-! ## The ends of a text -/

theorem dumpsItems_ends (xs : List Json) : ∃ t, dumpsItems xs = t ++ [']'] := by
  induction xs with
  | nil => exact ⟨[], rfl⟩
  | cons x xs ih =>
    obtain ⟨t, ht⟩ := ih
    exact ⟨',' :: ' ' :: dumps x ++ t, by simp [dumpsItems, ht]⟩

theorem dumpsMembers_ends (ms : List (List Char × Json)) : ∃ t, dumpsMembers ms = t ++ ['}'] := by
  induction ms with
  | nil => exact ⟨[], rfl⟩
  | cons m ms ih =>
    obtain ⟨t, ht⟩ := ih
    exact ⟨',' :: ' ' :: quote m.1 ++ ':' :: ' ' :: dumps m.2 ++ t, by simp [dumpsMembers, ht]⟩

/-- A list is written between brackets. -/
theorem dumps_arr_ends (xs : List Json) :
    (dumps (.arr xs)).head? = some '[' ∧ (dumps (.arr xs)).getLast? = some ']' := by
  cases xs with
  | nil => exact ⟨rfl, rfl⟩
  | cons x xs =>
    obtain ⟨t, ht⟩ := dumpsItems_ends xs
    refine ⟨rfl, ?_⟩
    rw [dumps, ht, ← List.append_assoc, List.getLast?_concat]

/-- An object is written between braces. -/
theorem dumps_obj_ends (ms : List (List Char × Json)) :
    (dumps (.obj ms)).head? = some '{' ∧ (dumps (.obj ms)).getLast? = some '}' := by
  cases ms with
  | nil => exact ⟨rfl, rfl⟩
  | cons m ms =>
    obtain ⟨t, ht⟩ := dumpsMembers_ends ms
    refine ⟨rfl, ?_⟩
    rw [dumps, ht, ← List.append_assoc, List.getLast?_concat]

/-- A string is written between quotes. -/
theorem dumps_str_ends (s : List Char) :
    (dumps (.str s)).head? = some '"' ∧ (dumps (.str s)).getLast? = some '"' := by
  refine ⟨rfl, ?_⟩
  rw [dumps, quote, List.getLast?_concat]

/-! ## Texts of other values -/

/-- A number, `null` or a truth value. -/
def Scalar : Json → Prop
  | .null | .bool _ | .num _ => True
  | .str _ | .arr _ | .obj _ => False

/-- The text starts with an integer of more digits than `int` reads. -/
def Overlong (text : List Char) : Prop :=
  MAX_STR_DIGITS < (integer text).1.length ∧
    (fraction (integer text).2).1 = [] ∧ (exponent (integer text).2).1 = []

theorem fraction_eq_nil {text : List Char} (h : (fraction text).1 = []) :
    (fraction text).2 = text := by
  unfold fraction at h ⊢
  split at h
  · split_ifs at h ⊢
    rfl
  · rfl

/-- What is read of a number: it is too long, there is none, or it is one. -/
theorem number_cases (sign text : List Char) :
    (Overlong text ∧ number sign text = .error .tooManyDigits) ∨
      (¬ Overlong text ∧ (number sign text = .error .decode ∨
        ∃ token rest, number sign text = .ok (.num token, rest))) := by
  unfold number
  by_cases hover : Overlong text
  · obtain ⟨hlong, hfrac, hexp⟩ := hover
    refine .inl ⟨⟨hlong, hfrac, hexp⟩, ?_⟩
    have hne : (integer text).1 ≠ [] := List.ne_nil_of_length_pos (by omega)
    simp only [fraction_eq_nil hfrac, hfrac, hexp, hne, hlong, if_false, true_and, if_true]
  · refine .inr ⟨hover, ?_⟩
    simp only
    split_ifs with hnil hlong
    · exact .inl rfl
    · refine absurd ⟨hlong.2.2, hlong.1, ?_⟩ hover
      rw [← fraction_eq_nil hlong.1]
      exact hlong.2.1
    · exact .inr ⟨_, _, rfl⟩

theorem not_overlong_of_head {t : List Char} (h : c.isDigit = false) : ¬ Overlong (c :: t) := by
  have hzero : c ≠ '0' := fun hc => by simp [hc] at h
  have hint : integer (c :: t) = ([], c :: t) := by
    unfold integer
    split
    · rename_i heq
      exact absurd (List.cons.inj heq).1 hzero
    · rw [List.takeWhile_cons_of_neg (by simp [h]), List.dropWhile_cons_of_neg (by simp [h])]
  rintro ⟨hlong, -⟩
  rw [hint] at hlong
  exact absurd hlong (Nat.not_lt_zero _)

/-- What is read of a text that starts with neither a sign nor a quote nor a bracket. -/
theorem scalar_cases {text : List Char} (hsign : text.head? ≠ some '-') :
    (Overlong text ∧ scalar text = .error .tooManyDigits) ∨
      (¬ Overlong text ∧ (scalar text = .error .decode ∨
        ∃ x rest, scalar text = .ok (x, rest) ∧ Scalar x)) := by
  rw [scalar.eq_def]
  split
  · exact .inr ⟨not_overlong_of_head rfl, .inr ⟨_, _, rfl, trivial⟩⟩
  · exact .inr ⟨not_overlong_of_head rfl, .inr ⟨_, _, rfl, trivial⟩⟩
  · exact .inr ⟨not_overlong_of_head rfl, .inr ⟨_, _, rfl, trivial⟩⟩
  · exact .inr ⟨not_overlong_of_head rfl, .inr ⟨_, _, rfl, trivial⟩⟩
  · exact .inr ⟨not_overlong_of_head rfl, .inr ⟨_, _, rfl, trivial⟩⟩
  · exact absurd rfl hsign
  · exact absurd rfl hsign
  · rcases number_cases [] text with hlong | ⟨hshort, hdecode | ⟨token, rest, hnum⟩⟩
    · exact .inl hlong
    · exact .inr ⟨hshort, .inl hdecode⟩
    · exact .inr ⟨hshort, .inr ⟨_, rest, hnum, trivial⟩⟩

/-- **What `json.loads` makes of a text that starts with neither a sign nor a quote nor a bracket**:
no string, no list and no object. -/
theorem loads_cases {t : List Char} (hc : Starts c) (hsign : c ≠ '-') (hquote : c ≠ '"')
    (hlist : c ≠ '[') (hobj : c ≠ '{') (hbom : c ≠ '\ufeff') :
    (Overlong (c :: t) ∧ loads (c :: t) = .error .tooManyDigits) ∨
      (¬ Overlong (c :: t) ∧ (loads (c :: t) = .error .decode ∨
        ∃ x, loads (c :: t) = .ok x ∧ Scalar x)) := by
  have hvalue (n : ℕ) : value (n + 1) (c :: t) = scalar (c :: t) := by
    rw [value]
    · exact fun rest heq => hquote (List.cons.inj heq).1
    · exact fun rest heq => hlist (List.cons.inj heq).1
    · exact fun rest heq => hobj (List.cons.inj heq).1
  unfold loads
  rw [if_neg (by simpa using hbom), skip_cons hc, hvalue]
  have hhead : (c :: t).head? ≠ some '-' := by simpa using hsign
  rcases scalar_cases hhead with
    ⟨hlong, herror⟩ | ⟨hshort, hdecode | ⟨x, rest, hok, hx⟩⟩
  · exact .inl ⟨hlong, by rw [herror]⟩
  · exact .inr ⟨hshort, .inl (by rw [hdecode])⟩
  · refine .inr ⟨hshort, ?_⟩
    simp only [hok]
    split_ifs
    · exact .inr ⟨x, rfl, hx⟩
    · exact .inl rfl

end Json
