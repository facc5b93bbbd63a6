import Mathlib.Data.List.DropRight

/-!
# Trimming a text

`strip p t` cuts the elements that satisfy `p` from both ends of a list, as `str.strip` does with
blanks.

Results:

* `strip_eq_self`: a list whose ends do not satisfy `p` is left as it is.
* `head_strip`, `getLast_strip`: the ends of what is left do not satisfy `p`.
* `strip_strip`: trimming twice is trimming once.
-/

namespace Trim

variable {α : Type*} {p : α → Bool} {t u : List α}

/-- Texts are equal as they compare. -/
instance lawfulBEq_text : LawfulBEq (List Char) := inferInstance

def strip (p : α → Bool) (t : List α) : List α := (t.dropWhile p).rdropWhile p

theorem dropWhile_of_head (h : ∀ c ∈ t.head?, p c = false) : t.dropWhile p = t := by
  cases t with
  | nil => rfl
  | cons c t => exact List.dropWhile_cons_of_neg (by simp [h c rfl])

theorem rdropWhile_of_getLast (h : ∀ c ∈ t.getLast?, p c = false) : t.rdropWhile p = t := by
  refine List.rdropWhile_eq_self_iff.mpr fun hne => ?_
  simpa using h _ (List.getLast?_eq_some_getLast hne)

theorem head_dropWhile : ∀ c ∈ (t.dropWhile p).head?, p c = false := by
  intro c hc
  have hnot := List.head?_dropWhile_not p t
  rw [Option.mem_def.mp hc] at hnot
  exact hnot

theorem getLast_rdropWhile : ∀ c ∈ (t.rdropWhile p).getLast?, p c = false := by
  intro c hc
  rw [List.rdropWhile, List.getLast?_reverse] at hc
  exact head_dropWhile c hc

/-- A list that is left keeps its head when it is cut from the right. -/
theorem head_of_initial (h : u <+: t) : ∀ c ∈ u.head?, c ∈ t.head? := by
  intro c hc
  obtain ⟨v, rfl⟩ := h
  cases u with
  | nil => cases hc
  | cons d u => exact hc

theorem strip_eq_self (hhead : ∀ c ∈ t.head?, p c = false)
    (hlast : ∀ c ∈ t.getLast?, p c = false) : strip p t = t := by
  rw [strip, dropWhile_of_head hhead, rdropWhile_of_getLast hlast]

theorem head_strip : ∀ c ∈ (strip p t).head?, p c = false := fun c hc =>
  head_dropWhile c (head_of_initial (List.rdropWhile_prefix _ _) c hc)

theorem getLast_strip : ∀ c ∈ (strip p t).getLast?, p c = false := getLast_rdropWhile

@[simp] theorem strip_strip (t : List α) : strip p (strip p t) = strip p t :=
  strip_eq_self head_strip getLast_strip

/-- What is cut off from the two ends. -/
theorem strip_split (t : List α) : ∃ a b, t = a ++ (strip p t ++ b) ∧ (∀ c ∈ a, p c = true) ∧
    ∀ c ∈ b, p c = true := by
  refine ⟨t.takeWhile p, (t.dropWhile p).rtakeWhile p, ?_, fun c hc => List.mem_takeWhile_imp hc,
    fun c hc => List.mem_rtakeWhile_imp hc⟩
  rw [strip, List.rdropWhile, List.rtakeWhile, ← List.reverse_append,
    List.takeWhile_append_dropWhile, List.reverse_reverse, List.takeWhile_append_dropWhile]

theorem rdropWhile_append (ht : ∀ c ∈ t.getLast?, p c = false) (hu : ∀ c ∈ u, p c = true) :
    (t ++ u).rdropWhile p = t := by
  rw [List.rdropWhile, List.reverse_append,
    List.dropWhile_append_of_pos fun c hc => hu c (List.mem_reverse.mp hc)]
  exact rdropWhile_of_getLast ht

@[simp] theorem strip_nil : strip p [] = [] := rfl

end Trim
