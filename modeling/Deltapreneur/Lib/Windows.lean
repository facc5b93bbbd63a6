import Mathlib.Data.List.Nodup

/-!
# Reading a list in windows

`window size i l` is the `i`-th window of `size` entries; windows put end to end are a prefix of
the list (`flatMap_window`), and the whole list once they reach its end (`flatMap_window_all`).
`windows size l` is the list of them, none empty (`flatten_windows`, `ne_nil_of_mem_windows`).
`firsts` keeps the first occurrence of each entry.
-/

namespace Windows

variable {α : Type*} {l : List α} {size n : ℕ}

/-- The `i`-th window of `size` entries. -/
def window (size i : ℕ) (l : List α) : List α := (l.drop (i * size)).take size

theorem flatMap_window (size n : ℕ) (l : List α) :
    (List.range n).flatMap (fun i => window size i l) = l.take (n * size) := by
  induction n with
  | zero => simp
  | succ n ih =>
    rw [List.range_succ, List.flatMap_append, ih, List.flatMap_singleton, window, Nat.succ_mul,
      List.take_add]

/-- Windows that reach the end of the list are the whole list. -/
theorem flatMap_window_all (h : l.length ≤ n * size) :
    (List.range n).flatMap (fun i => window size i l) = l := by
  rw [flatMap_window, List.take_of_length_le h]

/-- No window starts behind the end. -/
theorem window_eq_nil (h : l.length ≤ n * size) : window size n l = [] := by
  rw [window, List.drop_of_length_le h, List.take_nil]

/-- The windows that it takes to reach the end of the list. -/
def windows (size : ℕ) (l : List α) : List (List α) :=
  (List.range ((l.length + size - 1) / size)).map fun i => window size i l

theorem flatten_windows (hsize : 0 < size) : (windows size l).flatten = l := by
  rw [windows, ← List.flatMap_def]
  apply flatMap_window_all
  have hlt := Nat.lt_div_mul_add (a := l.length + size - 1) hsize
  omega

theorem ne_nil_of_mem_windows (hsize : 0 < size) {c : List α} (hc : c ∈ windows size l) :
    c ≠ [] := by
  obtain ⟨i, hi, rfl⟩ := List.mem_map.mp hc
  have hlt := (Nat.lt_div_iff_mul_lt hsize).mp (List.mem_range.mp hi)
  apply List.ne_nil_of_length_pos
  rw [window, List.length_take, List.length_drop]
  omega

section Firsts

variable [DecidableEq α]

/-- The entries that are not in `seen`, each where it occurs first. -/
def firsts (seen : List α) : List α → List α
  | [] => []
  | x :: xs => if x ∉ seen then x :: firsts (x :: seen) xs else firsts seen xs

theorem mem_firsts {x : α} {seen : List α} : x ∈ firsts seen l ↔ x ∈ l ∧ x ∉ seen := by
  induction l generalizing seen with
  | nil => simp [firsts]
  | cons y ys ih =>
    by_cases hy : y ∈ seen
    · simp only [firsts, hy, not_true_eq_false, if_false, ih, List.mem_cons]
      constructor
      · exact fun h => ⟨.inr h.1, h.2⟩
      · rintro ⟨rfl | h, hx⟩
        · exact absurd hy hx
        · exact ⟨h, hx⟩
    · simp only [firsts, hy, not_false_eq_true, if_true, List.mem_cons, ih, not_or]
      constructor
      · rintro (rfl | ⟨h, -, hx⟩)
        · exact ⟨.inl rfl, hy⟩
        · exact ⟨.inr h, hx⟩
      · rintro ⟨rfl | h, hx⟩
        · exact .inl rfl
        · by_cases heq : x = y
          · exact .inl heq
          · exact .inr ⟨h, heq, hx⟩

theorem nodup_firsts (seen : List α) (l : List α) : (firsts seen l).Nodup := by
  induction l generalizing seen with
  | nil => exact List.nodup_nil
  | cons y ys ih =>
    by_cases hy : y ∈ seen
    · simpa [firsts, hy] using ih seen
    · simp only [firsts, hy, not_false_eq_true, if_true, List.nodup_cons]
      exact ⟨fun h => (mem_firsts.mp h).2 List.mem_cons_self, ih _⟩

theorem firsts_sublist (seen : List α) (l : List α) : (firsts seen l).Sublist l := by
  induction l generalizing seen with
  | nil => exact List.Sublist.refl _
  | cons y ys ih =>
    by_cases hy : y ∈ seen
    · simpa [firsts, hy] using (ih seen).cons y
    · simpa [firsts, hy] using (ih (y :: seen)).cons_cons y

theorem firsts_eq_self {seen : List α} (hl : l.Nodup) (hseen : ∀ x ∈ l, x ∉ seen) :
    firsts seen l = l := by
  induction l generalizing seen with
  | nil => rfl
  | cons y ys ih =>
    obtain ⟨hy, hys⟩ := List.nodup_cons.mp hl
    rw [firsts, if_pos (hseen y List.mem_cons_self), ih hys fun x hx => ?_]
    simp only [List.mem_cons, not_or]
    exact ⟨fun h => hy (h ▸ hx), hseen x (List.mem_cons_of_mem y hx)⟩

end Firsts

end Windows
