import Deltapreneur.Core
import Mathlib.Data.Bool.AllAny
import Mathlib.Data.Nat.Digits.Defs

/-!
# Tax invoice numbers as text

Model of `format_tax_invoice_number` and `parse_tax_invoice_number`
(`app/service/domain/tax_invoice_number_service.py:29-49`): a number is the text
`AI` + two digits of the year + the sequence, padded to five digits.

* Strings are lists of characters. What `strip`, `upper` and `\d` do to a character is a table
  (`CharTables`): nothing below depends on its entries outside the characters of a number.
* A year is one of the product's window 2000 to 2099 (`Year`); `parse` builds no other.

Results:

* `format_injective`: different years or sequences have different numbers, also where the
  sequence has outgrown the five digits.
* `parse_format`, `parse_le`: a formatted number reads back as long as it has five digits, and
  the parser knows no other.
-/

namespace Deltapreneur.Registration

/-- A tax invoice number, as the column holds it. -/
abbrev Invoice := List Char

/-- A year of the product's window. -/
abbrev Year := { y : Nat // 2000 ≤ y ∧ y ≤ 2099 }

/-! ## Formatting -/

/-- `str(int(year))[-2:]`. -/
def yearSuffix (year : Nat) : List Char :=
  (Nat.toDigits 10 year).drop ((Nat.toDigits 10 year).length - 2)

/-- `f"{int(sequence):05d}"`. -/
def paddedSequence (sequence : Nat) : List Char := (Nat.toDigits 10 sequence).leftpad 5 '0'

/-- `format_tax_invoice_number`. -/
def formatTaxInvoiceNumber (year sequence : Nat) : Invoice :=
  'A' :: 'I' :: (yearSuffix year ++ paddedSequence sequence)

theorem yearSuffix_window :
    ∀ y : Fin 100, (yearSuffix (2000 + y)).length = 2 ∧
      Nat.ofDigitChars 10 (yearSuffix (2000 + y)) 0 = y := by
  decide +kernel

theorem Year.exists_fin (year : Year) : ∃ y : Fin 100, year.1 = 2000 + y := by
  obtain ⟨year, hlo, hhi⟩ := year
  exact ⟨⟨year - 2000, by omega⟩, by simp; omega⟩

theorem ofDigitChars_paddedSequence (sequence : Nat) :
    Nat.ofDigitChars 10 (paddedSequence sequence) 0 = sequence := by
  unfold paddedSequence List.leftpad
  rw [Nat.ofDigitChars_append, Nat.ofDigitChars_replicate_zero, Nat.mul_zero,
    Nat.ofDigitChars_ten_toDigits]

/-- **Different numbers look different.** -/
theorem format_injective {year year' : Year} {sequence sequence' : Nat}
    (h : formatTaxInvoiceNumber year sequence = formatTaxInvoiceNumber year' sequence') :
    year = year' ∧ sequence = sequence' := by
  obtain ⟨y, hy⟩ := year.exists_fin
  obtain ⟨y', hy'⟩ := year'.exists_fin
  obtain ⟨hlen, hval⟩ := yearSuffix_window y
  obtain ⟨hlen', hval'⟩ := yearSuffix_window y'
  simp only [formatTaxInvoiceNumber, List.cons.injEq, true_and] at h
  rw [hy, hy'] at h
  obtain ⟨hsuffix, hpadded⟩ := List.append_inj h (hlen.trans hlen'.symm)
  constructor
  · apply Subtype.ext
    rw [hsuffix, hval'] at hval
    rw [hy, hy', hval]
  · rw [← ofDigitChars_paddedSequence sequence, hpadded, ofDigitChars_paddedSequence]

/-! ## Parsing -/

/-- What the string methods do to one character. -/
structure CharTables where
  /-- `str.isspace`, the characters `strip` removes. -/
  isSpace : Char → Bool
  /-- `str.upper` of the one-character string. -/
  upper : Char → List Char
  /-- The value of a character that `\d` matches, as `int` reads it. -/
  digit : Char → Option (Fin 10)

/-- `s.strip()`. -/
def CharTables.strip (t : CharTables) (s : List Char) : List Char :=
  ((s.dropWhile t.isSpace).reverse.dropWhile t.isSpace).reverse

/-- `s.strip().upper()`. -/
def CharTables.stripUpper (t : CharTables) (s : List Char) : List Char :=
  (t.strip s).flatMap t.upper

/-- `_INVOICE_RE.fullmatch`: the values of the two groups. -/
def CharTables.matchInvoice (t : CharTables) : List Char → Option (Fin 100 × Nat)
  | 'A' :: 'I' :: digits =>
    match digits.mapM t.digit with
    | some [a, b, c, d, e, f, g] =>
      some (⟨10 * a + b, by omega⟩, 10000 * c + 1000 * d + 100 * e + 10 * f + g)
    | _ => none
  | _ => none

/-- `parse_tax_invoice_number`. -/
def parseTaxInvoiceNumber (t : CharTables) (invoiceNumber : List Char) :
    Except AppException (Year × Nat) :=
  match t.matchInvoice ((t.stripUpper invoiceNumber).filter (· ≠ ' ')) with
  | none => raise "Invalid invoice number. Use format AI + year + 5 digits (e.g. AI2600001)." 400
  | some (yy, seq) =>
    if seq < 1 then raise "Invoice sequence must be at least 00001." 400
    else .ok (⟨2000 + yy, by omega⟩, seq)

/-! ## Reading back -/

/-- The characters a number is made of. -/
def isPlain (c : Char) : Bool := c == 'A' || c == 'I' || c.isDigit

/-- The table knows the characters of a number. -/
structure CharTables.Reads (t : CharTables) : Prop where
  notSpace : ∀ c, isPlain c = true → t.isSpace c = false
  upper : ∀ c, isPlain c = true → t.upper c = [c]
  digit : ∀ c, c.isDigit = true → ∃ d, t.digit c = some d ∧ (d : Nat) = c.toNat - '0'.toNat

def CharTables.ascii : CharTables where
  isSpace := Char.isWhitespace
  upper c := [c.toUpper]
  digit c := if h : c.toNat - '0'.toNat < 10 ∧ c.isDigit then some ⟨_, h.1⟩ else none

variable {t : CharTables} {s : List Char} {seq : Nat}

/-- A text of such characters is left as it is. -/
theorem CharTables.Reads.stripUpper (ht : t.Reads) (hs : ∀ c ∈ s, isPlain c = true) :
    t.stripUpper s = s := by
  have hkept : ∀ l : List Char, (∀ c ∈ l, isPlain c = true) → l.dropWhile t.isSpace = l := by
    intro l hl
    cases l with
    | nil => rfl
    | cons c l => rw [List.dropWhile_cons, ht.notSpace c (hl c List.mem_cons_self)]; rfl
  have hstrip : t.strip s = s := by
    unfold CharTables.strip
    rw [hkept s hs, hkept s.reverse (by simpa using hs), List.reverse_reverse]
  unfold CharTables.stripUpper
  rw [hstrip]
  clear hkept hstrip
  induction s with
  | nil => rfl
  | cons c s ih =>
    rw [List.flatMap_cons, ht.upper c (hs c List.mem_cons_self),
      ih fun d hd => hs d (List.mem_cons_of_mem c hd)]
    rfl

theorem CharTables.Reads.mapM_digit (ht : t.Reads) :
    ∀ l : List Char, (∀ c ∈ l, c.isDigit = true) →
      ∃ ds : List (Fin 10), l.mapM t.digit = some ds ∧ ds.length = l.length ∧
        ∀ start, ds.foldl (fun n d => 10 * n + d.val) start = Nat.ofDigitChars 10 l start
  | [], _ => ⟨[], rfl, rfl, fun _ => rfl⟩
  | c :: l, hl => by
    obtain ⟨d, hd, hval⟩ := ht.digit c (hl c List.mem_cons_self)
    obtain ⟨ds, hds, hlen, hfold⟩ := ht.mapM_digit l fun e he => hl e (List.mem_cons_of_mem c he)
    refine ⟨d :: ds, by simp [hd, hds], by simp [hlen], fun start => ?_⟩
    rw [List.foldl_cons, hfold, Nat.ofDigitChars_cons, hval]

theorem paddedSequence_isDigit (seq : Nat) : ∀ c ∈ paddedSequence seq, c.isDigit = true := by
  intro c hc
  simp only [paddedSequence, List.leftpad, List.mem_append, List.mem_replicate] at hc
  rcases hc with ⟨-, rfl⟩ | hc
  · rfl
  · exact Nat.isDigit_of_mem_toDigits (by decide) (by decide) hc

theorem paddedSequence_length (h : seq ≤ 99999) : (paddedSequence seq).length = 5 := by
  have hlen : (Nat.toDigits 10 seq).length ≤ 5 := Nat.toDigits_length 10 seq 5 (by decide) (by omega)
  rw [paddedSequence, List.length_leftpad]
  omega

theorem yearSuffix_isDigit (year : Nat) : ∀ c ∈ yearSuffix year, c.isDigit = true :=
  fun _ hc => Nat.isDigit_of_mem_toDigits (by decide) (by decide) (List.mem_of_mem_drop hc)

/-- Seven digits after the prefix are a year and a sequence. -/
theorem CharTables.Reads.matchInvoice (ht : t.Reads) {suffix padded : List Char}
    (hs : ∀ c ∈ suffix, c.isDigit = true) (hp : ∀ c ∈ padded, c.isDigit = true)
    (hslen : suffix.length = 2) (hplen : padded.length = 5) :
    ∃ yy, t.matchInvoice ('A' :: 'I' :: (suffix ++ padded)) =
        some (yy, Nat.ofDigitChars 10 padded 0) ∧
      (yy : Nat) = Nat.ofDigitChars 10 suffix 0 := by
  obtain ⟨ds, hds, hdlen, hdval⟩ := ht.mapM_digit suffix hs
  obtain ⟨es, hes, helen, heval⟩ := ht.mapM_digit padded hp
  rw [hslen] at hdlen
  rw [hplen] at helen
  match ds, es, hdlen, helen with
  | [a, b], [c, d, e, f, g], _, _ =>
    have hall : (suffix ++ padded).mapM t.digit = some [a, b, c, d, e, f, g] := by
      rw [List.mapM_append, hds, hes]
      rfl
    have hseq : 10000 * c.val + 1000 * d + 100 * e + 10 * f + g =
        Nat.ofDigitChars 10 padded 0 := by
      rw [← heval]
      simp only [List.foldl]
      omega
    refine ⟨⟨10 * a + b, by omega⟩, ?_, ?_⟩
    · simp only [CharTables.matchInvoice, hall, hseq]
    · rw [← hdval]
      simp

/-- The trimming before the pattern leaves a formatted number alone. -/
theorem CharTables.Reads.raw_format (ht : t.Reads) (year seq : Nat) :
    (t.stripUpper (formatTaxInvoiceNumber year seq)).filter (· ≠ ' ') =
      formatTaxInvoiceNumber year seq := by
  have hplain : ∀ c ∈ formatTaxInvoiceNumber year seq, isPlain c = true ∧ c ≠ ' ' := by
    intro c hc
    have hdigit : c = 'A' ∨ c = 'I' ∨ c.isDigit = true := by
      simp only [formatTaxInvoiceNumber, List.mem_cons, List.mem_append] at hc
      rcases hc with h | h | h | h
      · exact .inl h
      · exact .inr (.inl h)
      · exact .inr (.inr (yearSuffix_isDigit _ c h))
      · exact .inr (.inr (paddedSequence_isDigit _ c h))
    rcases hdigit with rfl | rfl | h
    · decide
    · decide
    · refine ⟨by simp [isPlain, h], ?_⟩
      rintro rfl
      cases h
  rw [ht.stripUpper fun c hc => (hplain c hc).1, List.filter_eq_self]
  exact fun c hc => by simpa using (hplain c hc).2

/-- **A formatted number reads back.** -/
theorem parse_format (ht : t.Reads) (year : Year) (hlo : 1 ≤ seq) (hhi : seq ≤ 99999) :
    parseTaxInvoiceNumber t (formatTaxInvoiceNumber year seq) = .ok (year, seq) := by
  obtain ⟨y, hy⟩ := year.exists_fin
  obtain ⟨hlen, hval⟩ := yearSuffix_window y
  obtain ⟨yy, hmatch, hyy⟩ := ht.matchInvoice (yearSuffix_isDigit (2000 + y))
    (paddedSequence_isDigit seq) hlen (paddedSequence_length hhi)
  rw [hval] at hyy
  rw [ofDigitChars_paddedSequence] at hmatch
  unfold parseTaxInvoiceNumber
  rw [ht.raw_format, formatTaxInvoiceNumber, hy, hmatch]
  simp only [show ¬ seq < 1 by omega, if_false]
  congr
  rw [hy, hyy]

theorem matchInvoice_le {yy : Fin 100} (h : t.matchInvoice s = some (yy, seq)) : seq ≤ 99999 := by
  unfold CharTables.matchInvoice at h
  split at h
  · split at h
    · cases h
      omega
    · cases h
  · cases h

theorem parse_le {year : Year} (h : parseTaxInvoiceNumber t s = .ok (year, seq)) : seq ≤ 99999 := by
  unfold parseTaxInvoiceNumber at h
  split at h
  · cases h
  next heq =>
    split at h
    · cases h
    · cases h
      exact matchInvoice_le heq

theorem digit_mem {c : Char} (h : c.isDigit = true) :
    c ∈ ['0', '1', '2', '3', '4', '5', '6', '7', '8', '9'] := by
  simp only [Char.isDigit, Bool.and_eq_true, decide_eq_true_eq] at h
  have hlo : 48 ≤ c.toNat := h.1
  have hhi : c.toNat ≤ 57 := h.2
  have hall : ∀ d : Fin 10,
      Char.ofNat (48 + d) ∈ ['0', '1', '2', '3', '4', '5', '6', '7', '8', '9'] := by decide
  have hc := hall ⟨c.toNat - 48, by omega⟩
  rwa [show 48 + (c.toNat - 48) = c.toNat by omega, Char.ofNat_toNat] at hc

theorem reads_ascii : CharTables.ascii.Reads := by
  have hplain : ∀ c, isPlain c = true →
      c ∈ ['A', 'I', '0', '1', '2', '3', '4', '5', '6', '7', '8', '9'] := by
    intro c hc
    simp only [isPlain, Bool.or_eq_true, beq_iff_eq] at hc
    rcases hc with (rfl | rfl) | hc
    · decide
    · decide
    · exact List.mem_cons_of_mem _ (List.mem_cons_of_mem _ (digit_mem hc))
  have hall : ∀ c ∈ ['A', 'I', '0', '1', '2', '3', '4', '5', '6', '7', '8', '9'],
      CharTables.ascii.isSpace c = false ∧ CharTables.ascii.upper c = [c] :=
    List.all_iff_forall_prop.mp (by decide)
  have hdigit : ∀ c ∈ ['0', '1', '2', '3', '4', '5', '6', '7', '8', '9'],
      ∃ d, CharTables.ascii.digit c = some d ∧ (d : Nat) = c.toNat - '0'.toNat :=
    List.all_iff_forall_prop.mp (by decide)
  exact ⟨fun c hc => (hall c (hplain c hc)).1, fun c hc => (hall c (hplain c hc)).2,
    fun c hc => hdigit c (digit_mem hc)⟩

example : parseTaxInvoiceNumber .ascii [' ', 'a', 'i', '2', '6', '0', '0', '0', '0', '2', ' '] =
    .ok (⟨2026, by decide⟩, 2) := by
  decide

end Deltapreneur.Registration
