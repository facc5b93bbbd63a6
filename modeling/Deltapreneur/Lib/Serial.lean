import Mathlib.Logic.Function.Basic
import Mathlib.Tactic.Common

/-!
# Serial numbers

Items may hold a number `(k, n)`: the `n`-th of the series `k`. For every series the book knows a
last number. A number is given out automatically, as the next one of its series, or chosen by
hand.

`Book.Sound` says that no two items hold the same number and that every series' last number
covers the numbers held. Both ways to give out a number keep that: `Sound.next` needs nothing,
`Sound.assign` needs that no other item holds the number.
-/

namespace Serial

/-- What the items hold, and the last number of every series. -/
structure Book (ι κ : Type*) where
  held : ι → Option (κ × Nat)
  last : κ → Nat

variable {ι κ : Type*} {b : Book ι κ} {i : ι} {k : κ} {n : Nat}

/-- No item holds a number. -/
def Book.empty : Book ι κ := ⟨fun _ => none, fun _ => 0⟩

/-- No number is held twice, and every number held is at most the last of its series. -/
structure Book.Sound (b : Book ι κ) : Prop where
  unique : ∀ i j a, b.held i = some a → b.held j = some a → i = j
  covered : ∀ i k n, b.held i = some (k, n) → n ≤ b.last k

theorem Book.Sound.empty : (Book.empty : Book ι κ).Sound :=
  ⟨fun _ _ _ h => absurd h (by simp [Book.empty]), fun _ _ _ h => absurd h (by simp [Book.empty])⟩

/-- Nobody holds the next number of a series. -/
theorem Book.Sound.next_fresh (h : b.Sound) (k : κ) (j : ι) :
    b.held j ≠ some (k, b.last k + 1) := by
  intro hj
  have hle := h.covered j k _ hj
  omega

/-! ## Giving out a number -/

variable [DecidableEq ι] [DecidableEq κ]

/-- Give the item the number `n` of the series `k`. -/
def Book.assign (b : Book ι κ) (i : ι) (k : κ) (n : Nat) : Book ι κ where
  held := Function.update b.held i (some (k, n))
  last := Function.update b.last k (max (b.last k) n)

/-- Give the item the next number of the series. -/
def Book.next (b : Book ι κ) (i : ι) (k : κ) : Book ι κ where
  held := Function.update b.held i (some (k, b.last k + 1))
  last := Function.update b.last k (b.last k + 1)

theorem Book.next_eq_assign (b : Book ι κ) (i : ι) (k : κ) :
    b.next i k = b.assign i k (b.last k + 1) := by
  simp [Book.next, Book.assign]

theorem Book.last_le_assign (b : Book ι κ) (i : ι) (k : κ) (n : Nat) (k' : κ) :
    b.last k' ≤ (b.assign i k n).last k' := by
  simp only [Book.assign]
  by_cases hk : k' = k
  · subst hk
    rw [Function.update_self]
    exact Nat.le_max_left _ _
  · exact Nat.le_of_eq (Function.update_of_ne hk _ _).symm

/-- **A number chosen by hand.** -/
theorem Book.Sound.assign (h : b.Sound) (hfree : ∀ j, j ≠ i → b.held j ≠ some (k, n)) :
    (b.assign i k n).Sound := by
  constructor
  · intro i₁ i₂ a h₁ h₂
    simp only [Book.assign] at h₁ h₂
    by_cases e₁ : i₁ = i <;> by_cases e₂ : i₂ = i
    · rw [e₁, e₂]
    · rw [e₁, Function.update_self] at h₁
      rw [Function.update_of_ne e₂, ← h₁] at h₂
      exact absurd h₂ (hfree i₂ e₂)
    · rw [e₂, Function.update_self] at h₂
      rw [Function.update_of_ne e₁, ← h₂] at h₁
      exact absurd h₁ (hfree i₁ e₁)
    · rw [Function.update_of_ne e₁] at h₁
      rw [Function.update_of_ne e₂] at h₂
      exact h.unique i₁ i₂ a h₁ h₂
  · intro j k' m hj
    by_cases e : j = i
    · subst e
      simp only [Book.assign, Function.update_self, Option.some.injEq, Prod.mk.injEq] at hj
      obtain ⟨rfl, rfl⟩ := hj
      simp only [Book.assign, Function.update_self]
      exact Nat.le_max_right _ _
    · simp only [Book.assign, Function.update_of_ne e] at hj
      exact Nat.le_trans (h.covered j k' m hj) (b.last_le_assign i k n k')

/-- **The next number of a series.** -/
theorem Book.Sound.next (h : b.Sound) (i : ι) (k : κ) : (b.next i k).Sound := by
  rw [Book.next_eq_assign]
  exact h.assign fun j _ => h.next_fresh k j

end Serial
