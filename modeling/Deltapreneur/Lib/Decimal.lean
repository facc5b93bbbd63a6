import Mathlib.Data.Rat.Floor

/-!
# Rounding to two decimals

`round2` rounds half to even and `quantize` half away from zero. A multiple of a hundredth
(`Cents`) is its own rounding, and rounding half to even never drops below a multiple of a
hundredth that the number reaches (`Cents.le_round2`). Hundredths go through a rounding as they are
(`Cents.quantize_add`).
-/

namespace Decimal

/-- The nearest integer, the even one of two. -/
def roundEven (q : ℚ) : ℤ :=
  if q - ⌊q⌋ < 1 / 2 then ⌊q⌋
  else if 1 / 2 < q - ⌊q⌋ then ⌊q⌋ + 1
  else if ⌊q⌋ % 2 = 0 then ⌊q⌋ else ⌊q⌋ + 1

/-- The nearest integer, the one further from zero of two. -/
def roundAway (q : ℚ) : ℤ :=
  if 0 ≤ q then ⌊q + 1 / 2⌋ else -⌊-q + 1 / 2⌋

/-- The integer part. -/
def truncate (q : ℚ) : ℤ := if 0 ≤ q then ⌊q⌋ else ⌈q⌉

/-- Two decimals, half to even. -/
def round2 (q : ℚ) : ℚ := roundEven (q * 100) / 100

/-- Two decimals, half away from zero. -/
def quantize (q : ℚ) : ℚ := roundAway (q * 100) / 100

/-- A multiple of a hundredth. -/
def Cents (q : ℚ) : Prop := ∃ n : ℤ, q = n / 100

variable {p q : ℚ} {n : ℤ}

@[simp] theorem roundEven_intCast : roundEven n = n := by simp [roundEven]

@[simp] theorem truncate_intCast : truncate n = n := by simp [truncate]

theorem floor_le_roundEven : ⌊q⌋ ≤ roundEven q := by
  unfold roundEven
  split_ifs <;> omega

theorem roundEven_nonneg (h : 0 ≤ q) : 0 ≤ roundEven q :=
  (Int.floor_nonneg.mpr h).trans floor_le_roundEven

/-- Rounding moves a number by at most a half. -/
theorem abs_roundEven_sub_le (q : ℚ) : |(roundEven q : ℚ) - q| ≤ 1 / 2 := by
  have hlow := Int.floor_le q
  have hhigh := Int.lt_floor_add_one q
  rw [abs_le]
  unfold roundEven
  split_ifs <;> push_cast <;> constructor <;> linarith

/-- Less than a half above an integer, rounding goes back to it. -/
theorem roundEven_intCast_add (n : ℤ) {d : ℚ} (h0 : 0 ≤ d) (hd : d < 1 / 2) :
    roundEven (n + d) = n := by
  have hfloor : ⌊(n + d : ℚ)⌋ = n := Int.floor_eq_iff.mpr ⟨by linarith, by linarith⟩
  rw [roundEven, hfloor, if_pos (by linarith)]

/-- Two decimals are at most half a hundredth away. -/
theorem abs_round2_sub_le (q : ℚ) : |round2 q - q| ≤ 1 / 200 := by
  obtain ⟨hlow, hhigh⟩ := abs_le.mp (abs_roundEven_sub_le (q * 100))
  rw [round2, abs_le]
  constructor <;> linarith

/-- Hundredths of an integer are rounded by their last two digits. -/
theorem roundEven_div_hundred (n : ℤ) : roundEven (n / 100) =
    if n % 100 < 50 ∨ n % 100 = 50 ∧ n / 100 % 2 = 0 then n / 100 else n / 100 + 1 := by
  have hfloor : ⌊(n / 100 : ℚ)⌋ = n / 100 := by exact_mod_cast Rat.floor_intCast_div_natCast n 100
  have hdigits : (n / 100 : ℚ) - (n / 100 : ℤ) = (n % 100 : ℤ) / 100 := by
    have hn : (n : ℚ) = 100 * (n / 100 : ℤ) + (n % 100 : ℤ) := by
      exact_mod_cast (Int.mul_ediv_add_emod n 100).symm
    linarith
  have hlow : (n % 100 : ℤ) / 100 < (1 / 2 : ℚ) ↔ n % 100 < 50 := by
    rw [div_lt_iff₀ (by norm_num), show (1 / 2 * 100 : ℚ) = (50 : ℤ) by norm_num, Int.cast_lt]
  have hhigh : (1 / 2 : ℚ) < (n % 100 : ℤ) / 100 ↔ 50 < n % 100 := by
    rw [lt_div_iff₀ (by norm_num), show (1 / 2 * 100 : ℚ) = (50 : ℤ) by norm_num, Int.cast_lt]
  rw [roundEven, hfloor, hdigits]
  simp only [hlow, hhigh]
  split_ifs <;> omega

/-- An even integer goes through the rounding. -/
theorem roundEven_sub_two_mul (q : ℚ) (n : ℤ) : roundEven (q - 2 * n) = roundEven q - 2 * n := by
  have hcast : (2 * n : ℚ) = ((2 * n : ℤ) : ℚ) := by push_cast; rfl
  have hfloor : ⌊q - 2 * n⌋ = ⌊q⌋ - 2 * n := by rw [hcast, Int.floor_sub_intCast]
  have hparity : (⌊q⌋ - 2 * n) % 2 = ⌊q⌋ % 2 := by omega
  have hfract : q - 2 * n - ((⌊q⌋ - 2 * n : ℤ) : ℚ) = q - ⌊q⌋ := by push_cast; ring
  unfold roundEven
  rw [hfloor, hfract, hparity]
  split_ifs <;> ring

theorem cents_round2 (q : ℚ) : Cents (round2 q) := ⟨roundEven (q * 100), rfl⟩

theorem cents_div (n : ℤ) : Cents (n / 100) := ⟨n, rfl⟩

theorem Cents.add (hp : Cents p) (hq : Cents q) : Cents (p + q) := by
  obtain ⟨m, rfl⟩ := hp
  obtain ⟨n, rfl⟩ := hq
  exact ⟨m + n, by push_cast; ring⟩

theorem Cents.sub (hp : Cents p) (hq : Cents q) : Cents (p - q) := by
  obtain ⟨m, rfl⟩ := hp
  obtain ⟨n, rfl⟩ := hq
  exact ⟨m - n, by push_cast; ring⟩

theorem Cents.round2 (h : Cents q) : round2 q = q := by
  obtain ⟨n, rfl⟩ := h
  have hmul : (n / 100 : ℚ) * 100 = n := by ring
  rw [Decimal.round2, hmul, roundEven_intCast]

theorem round2_eq_iff : Decimal.round2 q = q ↔ Cents q :=
  ⟨fun h => h ▸ cents_round2 q, fun h => h.round2⟩

/-- What rounds to an integer or less is less than a half above it, or a half above an even one. -/
theorem roundEven_le_iff : roundEven q ≤ n ↔ q - n < 1 / 2 ∨ q - n = 1 / 2 ∧ n % 2 = 0 := by
  have hlow := Int.floor_le q
  have hhigh := Int.lt_floor_add_one q
  rcases lt_trichotomy ⌊q⌋ n with hlt | rfl | hgt
  · have hle : (⌊q⌋ : ℚ) + 1 ≤ n := by exact_mod_cast hlt
    refine iff_of_true ?_ (.inl (by linarith))
    unfold roundEven
    split_ifs <;> omega
  · unfold roundEven
    split_ifs with h1 h2 h3
    · exact iff_of_true le_rfl (.inl h1)
    · refine iff_of_false (by omega) ?_
      rintro (h | ⟨h, -⟩) <;> linarith
    · exact iff_of_true le_rfl (.inr ⟨by linarith, h3⟩)
    · refine iff_of_false (by omega) ?_
      rintro (h | ⟨-, h⟩)
      · exact h1 h
      · exact h3 h
  · have hle : (n : ℚ) + 1 ≤ ⌊q⌋ := by exact_mod_cast hgt
    refine iff_of_false ?_ ?_
    · have hfloor := floor_le_roundEven (q := q)
      omega
    · rintro (h | ⟨h, -⟩) <;> linarith

theorem roundEven_mono {r : ℚ} (h : q ≤ r) : roundEven q ≤ roundEven r := by
  rcases roundEven_le_iff.mp (le_refl (roundEven r)) with hlt | ⟨heq, heven⟩
  · exact roundEven_le_iff.mpr (.inl (by linarith))
  · rcases eq_or_lt_of_le h with rfl | hlt
    · exact le_rfl
    · exact roundEven_le_iff.mpr (.inl (by linarith))

theorem Cents.round2_le_iff (h : Cents p) : Decimal.round2 q ≤ p ↔
    q * 100 - p * 100 < 1 / 2 ∨ q * 100 - p * 100 = 1 / 2 ∧ ⌊p * 100⌋ % 2 = 0 := by
  obtain ⟨n, rfl⟩ := h
  have hmul : (n / 100 : ℚ) * 100 = n := by ring
  rw [hmul, Int.floor_intCast, ← roundEven_le_iff, Decimal.round2,
    div_le_div_iff_of_pos_right (by norm_num)]
  exact_mod_cast Iff.rfl

theorem round2_nonneg (h : 0 ≤ q) : 0 ≤ Decimal.round2 q := by
  have hround : (0 : ℚ) ≤ roundEven (q * 100) := by
    exact_mod_cast roundEven_nonneg (mul_nonneg h (by norm_num))
  exact div_nonneg hround (by norm_num)

/-- A number that is half a hundredth below zero at most is not rounded below it. -/
theorem round2_nonneg_iff : 0 ≤ Decimal.round2 q ↔ -1 / 200 ≤ q := by
  have hround : 0 ≤ Decimal.round2 q ↔ ¬ roundEven (q * 100) ≤ -1 := by
    rw [Decimal.round2, le_div_iff₀ (by norm_num), zero_mul, not_le, ← Int.add_one_le_iff]
    norm_num
  rw [hround, roundEven_le_iff]
  constructor
  · intro h
    by_contra hlt
    exact h (.inl (by push_cast; linarith))
  · rintro h (hlt | ⟨-, hodd⟩)
    · push_cast at hlt
      linarith
    · cases hodd

/-- What half a hundredth at most separates from zero is zero. -/
theorem round2_eq_zero_iff : Decimal.round2 q = 0 ↔ |q| ≤ 1 / 200 := by
  have hnear := abs_round2_sub_le q
  constructor
  · intro h
    rwa [h, zero_sub, abs_neg] at hnear
  · intro h
    obtain ⟨hlow, hhigh⟩ := abs_le.mp h
    have hle : Decimal.round2 q ≤ 0 := by
      have hcents : Cents (0 : ℚ) := ⟨0, by simp⟩
      refine hcents.round2_le_iff.mpr ?_
      rcases hhigh.lt_or_eq with hlt | heq
      · exact .inl (by linarith)
      · exact .inr ⟨by linarith, by norm_num⟩
    exact le_antisymm hle (round2_nonneg_iff.mpr (by linarith))

@[simp] theorem roundAway_intCast : roundAway n = n := by
  rcases le_or_gt 0 (n : ℚ) with h | h
  · rw [roundAway, if_pos h, Int.floor_intCast_add]
    norm_num
  · rw [roundAway, if_neg (not_le.mpr h), ← Int.cast_neg, Int.floor_intCast_add]
    norm_num

theorem roundAway_div_hundred (n : ℕ) : roundAway (n / 100) = ((n + 50) / 100 : ℕ) := by
  have hhalf : (n / 100 + 1 / 2 : ℚ) = ((n + 50 : ℕ) : ℚ) / (100 : ℕ) := by
    push_cast
    ring
  rw [roundAway, if_pos (by positivity), hhalf, Rat.floor_natCast_div_natCast]
  rfl

theorem roundAway_nonneg (h : 0 ≤ q) : 0 ≤ roundAway q := by
  rw [roundAway, if_pos h]
  exact Int.floor_nonneg.mpr (by linarith)

theorem roundAway_mono (h : 0 ≤ p) (hle : p ≤ q) : roundAway p ≤ roundAway q := by
  rw [roundAway, roundAway, if_pos h, if_pos (h.trans hle)]
  exact Int.floor_mono (by linarith)

theorem cents_quantize (q : ℚ) : Cents (quantize q) := ⟨roundAway (q * 100), rfl⟩

theorem Cents.quantize (h : Cents q) : quantize q = q := by
  obtain ⟨n, rfl⟩ := h
  have hmul : (n / 100 : ℚ) * 100 = n := by ring
  rw [Decimal.quantize, hmul, roundAway_intCast]

theorem quantize_nonneg (h : 0 ≤ q) : 0 ≤ Decimal.quantize q := by
  have hround : (0 : ℚ) ≤ roundAway (q * 100) := by
    exact_mod_cast roundAway_nonneg (mul_nonneg h (by norm_num))
  exact div_nonneg hround (by norm_num)

theorem quantize_nonpos (h : q ≤ 0) : Decimal.quantize q ≤ 0 := by
  have hround : roundAway (q * 100) ≤ 0 := by
    rcases h.lt_or_eq with hlt | rfl
    · rw [roundAway, if_neg (by linarith), neg_nonpos]
      exact Int.floor_nonneg.mpr (by linarith)
    · norm_num [roundAway]
  have hcast : (roundAway (q * 100) : ℚ) ≤ 0 := by exact_mod_cast hround
  rw [Decimal.quantize]
  linarith

theorem quantize_mono (h : 0 ≤ p) (hle : p ≤ q) : Decimal.quantize p ≤ Decimal.quantize q := by
  have hround : (roundAway (p * 100) : ℚ) ≤ roundAway (q * 100) := by
    exact_mod_cast roundAway_mono (by linarith) (by linarith)
  rw [Decimal.quantize, Decimal.quantize]
  linarith

/-- A number from zero on goes to the hundredth that is half a hundredth away at most. -/
theorem Cents.quantize_eq_iff (h : Cents p) (hq : 0 ≤ q) :
    Decimal.quantize q = p ↔ p - 1 / 200 ≤ q ∧ q < p + 1 / 200 := by
  obtain ⟨n, rfl⟩ := h
  rw [Decimal.quantize, roundAway, if_pos (by linarith), div_left_inj' (by norm_num), Int.cast_inj,
    Int.floor_eq_iff]
  constructor
  · rintro ⟨hlow, hhigh⟩
    constructor <;> linarith
  · rintro ⟨hlow, hhigh⟩
    constructor <;> linarith

/-- Hundredths that are added are not rounded. -/
theorem Cents.quantize_add (h : Cents q) (hp : 0 ≤ p) (hq : 0 ≤ q) :
    Decimal.quantize (p + q) = Decimal.quantize p + q := by
  obtain ⟨n, rfl⟩ := h
  have hsum : (p + n / 100) * 100 + 1 / 2 = p * 100 + 1 / 2 + n := by ring
  have hround : roundAway ((p + n / 100) * 100) = roundAway (p * 100) + n := by
    rw [roundAway, roundAway, if_pos (by linarith), if_pos (by linarith), hsum,
      Int.floor_add_intCast]
  rw [Decimal.quantize, hround, Decimal.quantize]
  push_cast
  ring

theorem Cents.le_round2 (h : Cents p) (hle : p ≤ q) : p ≤ Decimal.round2 q := by
  obtain ⟨n, rfl⟩ := h
  have hfloor : n ≤ ⌊q * 100⌋ := Int.le_floor.mpr (by linarith)
  have hround : (n : ℚ) ≤ roundEven (q * 100) := by exact_mod_cast hfloor.trans floor_le_roundEven
  rw [Decimal.round2]
  linarith

end Decimal
