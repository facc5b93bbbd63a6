import Deltapreneur.Lib.Decimal
import Deltapreneur.Lib.Trim

/-!
# Values that a program has read from JSON

`PyValue` is what `json.loads` gives: dictionaries keep their order and have one value for a key,
and a `float` is a rational number, so infinities and `nan` are left out. What depends on Unicode
or on how numbers are written is collected in `Lang`.

* `truthy`, `orElse`, `get`: truth tests and look-ups.
* `Lang.str`, `Lang.toInt`, `Lang.toFloat`: `str(v)`, `int(v)` and `float(v)`; the last two are
  `none` where they raise.
* `Lang.text`: `str(v or "").strip()`; it is empty for what is not truthy (`Lang.text_of_falsy`).
-/

/-- A value of a JSON text. -/
inductive PyValue
  | none
  | bool (b : Bool)
  | int (n : ℤ)
  | float (x : ℚ)
  | str (s : List Char)
  | list (items : List PyValue)
  | dict (members : List (List Char × PyValue))

namespace PyValue

/-- The truth value. -/
def truthy : PyValue → Bool
  | none => false
  | bool b => b
  | int n => n ≠ 0
  | float x => x ≠ 0
  | str s => s ≠ []
  | list items => !items.isEmpty
  | dict members => !members.isEmpty

/-- `v is None`. -/
def isNone : PyValue → Bool
  | none => true
  | _ => false

/-- `a or b`. -/
def orElse (a b : PyValue) : PyValue := if a.truthy then a else b

/-- `members.get(key, default)`. -/
def getD (members : List (List Char × PyValue)) (key : List Char) (default : PyValue) : PyValue :=
  (members.lookup key).getD default

/-- `members.get(key)`. -/
def get (members : List (List Char × PyValue)) (key : List Char) : PyValue :=
  getD members key none

/-- The rules of a language for its texts. -/
structure Lang where
  isSpace : Char → Bool
  upper : List Char → List Char
  lower : List Char → List Char
  /-- `int(text)`. -/
  int : List Char → Option ℤ
  /-- `float(text)`. -/
  float : List Char → Option ℚ
  /-- `str(v)` of a number with a fraction, a list or a dictionary. -/
  repr : PyValue → List Char

variable (L : Lang)

/-- `text.strip()`. -/
def Lang.strip (s : List Char) : List Char := Trim.strip L.isSpace s

/-- `str(v)`. -/
def Lang.str : PyValue → List Char
  | .none => ['N', 'o', 'n', 'e']
  | .bool true => ['T', 'r', 'u', 'e']
  | .bool false => ['F', 'a', 'l', 's', 'e']
  | .int n => (toString n).toList
  | .str s => s
  | v => L.repr v

/-- `int(v)`. -/
def Lang.toInt : PyValue → Option ℤ
  | .bool b => some b.toNat
  | .int n => some n
  | .float x => some (Decimal.truncate x)
  | .str s => L.int s
  | _ => Option.none

/-- `float(v)`. -/
def Lang.toFloat : PyValue → Option ℚ
  | .bool b => some b.toNat
  | .int n => some n
  | .float x => some x
  | .str s => L.float s
  | _ => Option.none

/-- `str(v or "").strip()`. -/
def Lang.text (v : PyValue) : List Char := L.strip (L.str (v.orElse (.str [])))

variable {L} {v : PyValue}

@[simp] theorem Lang.strip_nil : L.strip [] = [] := rfl

theorem Lang.text_of_falsy (h : v.truthy = false) : L.text v = [] := by
  simp [text, orElse, h, str]

theorem Lang.text_of_truthy (h : v.truthy = true) : L.text v = L.strip (L.str v) := by
  simp [text, orElse, h]

end PyValue
