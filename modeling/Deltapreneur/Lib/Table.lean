import Mathlib.Algebra.BigOperators.Group.List.Basic
import Mathlib.Data.List.Nodup
import Mathlib.Tactic.Abel

/-!
# Tables: lists of rows with a key

A database table as the list of its rows, in the order of insertion. `lookup` is a `SELECT` by
key, `update` an `UPDATE … WHERE key = k`.

Results:

* `find?_and`: with unique keys, a select by the key and more is a select by the key.
* `map_key_update`, `map_key_update_const`: an update that keeps the key keeps the list of keys, so
  keys stay unique.
* `update_eq_self_iff`, `filter_update`: when an update changes nothing, and what it does to some of
  the rows. `filter_map_eq_iff`: when a change of the rows leaves some of them alone.
* `lookup_update_self`, `lookup_update_ne`: what a select sees after an update.
* `find?_reverse_range`: a search from the last id down finds the latest row.
* `sum_update`: with unique keys, an update moves a sum over the rows by the change of the one
  row it touches.
* `countP_update`: the same for the number of rows with a property.
-/

namespace Table

variable {ρ κ M : Type*} [DecidableEq κ] {key : ρ → κ} {k k' : κ} {f : ρ → ρ} {r : ρ}
  {rows : List ρ} {p : ρ → Bool}

/-- `SELECT * WHERE key = k`. -/
def lookup (key : ρ → κ) (k : κ) (rows : List ρ) : Option ρ := rows.find? fun r => key r = k

/-- `UPDATE … WHERE key = k`. -/
def update (key : ρ → κ) (k : κ) (f : ρ → ρ) (rows : List ρ) : List ρ :=
  rows.map fun r => if key r = k then f r else r

/-! ## Lookup -/

theorem lookup_eq_some (h : lookup key k rows = some r) : r ∈ rows ∧ key r = k := by
  unfold lookup at h
  have hmem := List.mem_of_find?_eq_some h
  have hkey := List.find?_some h
  exact ⟨hmem, by simpa using hkey⟩

theorem lookup_eq_none : lookup key k rows = none ↔ ∀ r ∈ rows, key r ≠ k := by
  simp [lookup]

/-- With unique keys, a row is what a select of its key returns. -/
theorem lookup_of_mem : ∀ {rows : List ρ}, (rows.map key).Nodup → r ∈ rows →
    lookup key (key r) rows = some r
  | [], _, h => absurd h (by simp)
  | x :: rows, hnd, h => by
    rw [List.map_cons, List.nodup_cons] at hnd
    rcases List.mem_cons.mp h with rfl | h
    · simp [lookup]
    · have hne : key x ≠ key r := fun heq => hnd.1 (heq ▸ List.mem_map_of_mem h)
      have ih := lookup_of_mem hnd.2 h
      unfold lookup at ih ⊢
      rwa [List.find?_cons_of_neg (by simpa using hne)]

/-- With unique keys, a select with more conditions is one of the row with the key. -/
theorem find?_and : ∀ {rows : List ρ}, (rows.map key).Nodup →
    (rows.find? fun r => decide (key r = k) && p r) = (lookup key k rows).filter p
  | [], _ => rfl
  | x :: rows, hnd => by
    rw [List.map_cons, List.nodup_cons] at hnd
    by_cases hx : key x = k
    · have hlookup : lookup key k (x :: rows) = some x := List.find?_cons_of_pos (by simpa using hx)
      rw [hlookup]
      by_cases hp : p x = true
      · rw [List.find?_cons_of_pos (by simp [hx, hp]), Option.filter_some_pos hp]
      · rw [List.find?_cons_of_neg (by simp [hp]), Option.filter_some_neg (by simpa using hp)]
        refine List.find?_eq_none.mpr fun r hr => ?_
        have hne : key r ≠ k := fun heq => hnd.1 (hx.trans heq.symm ▸ List.mem_map_of_mem hr)
        simp [hne]
    · have hlookup : lookup key k (x :: rows) = lookup key k rows :=
        List.find?_cons_of_neg (by simpa using hx)
      rw [hlookup, List.find?_cons_of_neg (by simp [hx])]
      exact find?_and hnd.2

/-! ## Update -/

@[simp] theorem update_cons (x : ρ) (rows : List ρ) :
    update key k f (x :: rows) = (if key x = k then f x else x) :: update key k f rows := rfl

theorem map_key_update (hf : ∀ r, key (f r) = key r) (rows : List ρ) :
    (update key k f rows).map key = rows.map key := by
  unfold update
  rw [List.map_map]
  refine List.map_congr_left fun r _ => ?_
  by_cases h : key r = k
  · simp [h, hf]
  · simp [h]

/-- The same for a row that replaces the one with its key. -/
theorem map_key_update_const (hk : key r = k) (rows : List ρ) :
    (update key k (fun _ => r) rows).map key = rows.map key := by
  unfold update
  rw [List.map_map]
  refine List.map_congr_left fun x _ => ?_
  by_cases h : key x = k
  · simp [h, hk]
  · simp [h]

theorem update_of_absent (h : ∀ r ∈ rows, key r ≠ k) : update key k f rows = rows := by
  unfold update
  conv_rhs => rw [← List.map_id rows]
  exact List.map_congr_left fun r hr => if_neg (h r hr)

/-- A row written back is no change. -/
theorem update_eq_self (hnd : (rows.map key).Nodup) (hr : r ∈ rows) (hk : key r = k) :
    update key k (fun _ => r) rows = rows := by
  unfold update
  conv_rhs => rw [← List.map_id rows]
  refine List.map_congr_left fun x hx => ?_
  by_cases h : key x = k
  · rw [if_pos h]
    exact List.inj_on_of_nodup_map hnd hr hx (hk.trans h.symm)
  · rw [if_neg h]
    rfl

theorem update_eq_self_iff : update key k f rows = rows ↔ ∀ r ∈ rows, key r = k → f r = r := by
  unfold update
  conv_lhs => rhs; rw [← List.map_id rows]
  rw [List.map_inj_left]
  refine forall₂_congr fun r _ => ?_
  by_cases h : key r = k
  · simp [h]
  · simp [h]

/-- A change that keeps a property, under the rows that have it. -/
theorem filter_map (hp : ∀ r, p (f r) = p r) (rows : List ρ) :
    (rows.map f).filter p = (rows.filter p).map f := by
  rw [List.filter_map]
  exact congrArg _ (List.filter_congr fun r _ => hp r)

theorem filter_update (hp : ∀ r, p (f r) = p r) (rows : List ρ) :
    (update key k f rows).filter p = update key k f (rows.filter p) := by
  refine filter_map (fun r => ?_) rows
  split_ifs
  · exact hp r
  · rfl

/-- It leaves the rows with the property alone just when it leaves each of them alone. -/
theorem filter_map_eq_iff (hp : ∀ r, p (f r) = p r) :
    (rows.map f).filter p = rows.filter p ↔ ∀ r ∈ rows, p r = true → f r = r := by
  rw [filter_map hp]
  conv_lhs => rhs; rw [← List.map_id (rows.filter p)]
  rw [List.map_inj_left]
  exact ⟨fun h r hr hpr => h r (List.mem_filter.mpr ⟨hr, hpr⟩),
    fun h r hr => h r (List.mem_filter.mp hr).1 (List.mem_filter.mp hr).2⟩

theorem lookup_update_self (hf : ∀ r, key (f r) = key r) (rows : List ρ) :
    lookup key k (update key k f rows) = (lookup key k rows).map f := by
  induction rows with
  | nil => rfl
  | cons x rows ih =>
    by_cases h : key x = k
    · simp [lookup, h, hf]
    · simpa [lookup, h] using ih

theorem lookup_update_ne (hne : k' ≠ k) (hf : ∀ r, key (f r) = key r) (rows : List ρ) :
    lookup key k' (update key k f rows) = lookup key k' rows := by
  induction rows with
  | nil => rfl
  | cons x rows ih =>
    by_cases h : key x = k
    · simpa [lookup, h, hf, hne.symm] using ih
    · by_cases hx : key x = k'
      · simp [lookup, hx, hne]
      · simpa [lookup, h, hx] using ih

/-! ## The latest row -/

/-- `ORDER BY created_at DESC LIMIT 1` where the position is the id. -/
theorem find?_reverse_range {p : Nat → Bool} {i : Nat} : ∀ {n : Nat},
    (List.range n).reverse.find? p = some i → p i = true ∧ ∀ j, i < j → j < n → p j = false
  | 0, h => absurd h (by simp)
  | n + 1, h => by
    rw [List.range_succ, List.reverse_append, List.reverse_singleton, List.singleton_append,
      List.find?_cons] at h
    split at h
    · next hn =>
      cases h
      exact ⟨hn, fun j hj hlt => by omega⟩
    · next hn =>
      obtain ⟨hi, hlater⟩ := find?_reverse_range h
      refine ⟨hi, fun j hj hlt => ?_⟩
      by_cases hjn : j = n
      · rw [hjn, hn]
      · exact hlater j hj (by omega)

/-! ## Sums over a table -/

variable [AddCommMonoid M] {v : ρ → M}

/-- **An update moves a sum by the change of its row.** -/
theorem sum_update : ∀ {rows : List ρ}, (rows.map key).Nodup → r ∈ rows → key r = k →
    ((update key k f rows).map v).sum + v r = (rows.map v).sum + v (f r)
  | [], _, h, _ => absurd h (by simp)
  | x :: rows, hnd, h, hk => by
    rw [List.map_cons, List.nodup_cons] at hnd
    rw [update_cons, List.map_cons, List.sum_cons, List.map_cons, List.sum_cons]
    rcases List.mem_cons.mp h with rfl | h
    · have habs : ∀ y ∈ rows, key y ≠ k := fun y hy heq =>
        hnd.1 (hk ▸ heq ▸ List.mem_map_of_mem hy)
      rw [if_pos hk, update_of_absent habs]
      abel
    · have hx : key x ≠ k := fun heq => hnd.1 (heq ▸ hk ▸ List.mem_map_of_mem h)
      have ih := sum_update hnd.2 h hk
      rw [if_neg hx, add_assoc, ih, add_assoc]

theorem countP_eq_sum (p : ρ → Bool) (rows : List ρ) :
    rows.countP p = (rows.map fun r => (p r).toNat).sum := by
  induction rows with
  | nil => rfl
  | cons x rows ih =>
    rw [List.countP_cons, ih, List.map_cons, List.sum_cons]
    cases p x <;> simp [Nat.add_comm]

/-- With unique keys, an update moves a count by the change of its row. -/
theorem countP_update (p : ρ → Bool) (hnd : (rows.map key).Nodup) (hr : r ∈ rows) (hk : key r = k) :
    (update key k f rows).countP p + (p r).toNat = rows.countP p + (p (f r)).toNat := by
  rw [countP_eq_sum, countP_eq_sum]
  exact sum_update hnd hr hk

end Table
