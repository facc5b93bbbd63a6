import Mathlib.Data.List.Nodup

/-!
# A dictionary of sets

`Buckets κ α` is a `defaultdict(set)`: under every key a list without duplicates. A key without
members and a key that is absent are the same.

Results:

* `mem_add`, `mem_discard`, `mem_discardAll`: who is under which key after a write.
* `count_get`: a loop over a bucket meets each member once.
-/

variable {κ α : Type*} [DecidableEq κ] [DecidableEq α]

structure Buckets (κ α : Type*) where
  get : κ → List α
  nodup : ∀ k, (get k).Nodup

namespace Buckets

def empty : Buckets κ α := ⟨fun _ => [], fun _ => List.nodup_nil⟩

variable (b : Buckets κ α) (k : κ) (a : α)

/-- `b[k].add(a)`. -/
def add : Buckets κ α where
  get := Function.update b.get k ((b.get k).insert a)
  nodup k' := by
    by_cases h : k' = k
    · subst h
      rw [Function.update_self]
      exact (b.nodup k').insert
    · rw [Function.update_of_ne h]
      exact b.nodup k'

/-- `b[k].discard(a)`. -/
def discard : Buckets κ α where
  get := Function.update b.get k ((b.get k).erase a)
  nodup k' := by
    by_cases h : k' = k
    · subst h
      rw [Function.update_self]
      exact (b.nodup k').erase a
    · rw [Function.update_of_ne h]
      exact b.nodup k'

/-- `a` is discarded under every key of the list. -/
def discardAll (ks : List κ) : Buckets κ α := ks.foldl (fun b k => b.discard k a) b

variable {b k a} {k' : κ} {x : α}

omit [DecidableEq κ] [DecidableEq α] in
@[simp] theorem get_empty : (empty : Buckets κ α).get k = [] := rfl

@[simp] theorem mem_add : x ∈ (b.add k a).get k' ↔ k' = k ∧ x = a ∨ x ∈ b.get k' := by
  by_cases h : k' = k
  · subst h
    simp [add]
  · simp [add, h]

@[simp] theorem mem_discard : x ∈ (b.discard k a).get k' ↔ x ∈ b.get k' ∧ ¬ (k' = k ∧ x = a) := by
  by_cases h : k' = k
  · subst h
    simp [discard, (b.nodup k').mem_erase_iff, and_comm]
  · simp [discard, h]

theorem mem_discardAll : ∀ {ks : List κ} {b : Buckets κ α},
    x ∈ (b.discardAll a ks).get k' ↔ x ∈ b.get k' ∧ ¬ (k' ∈ ks ∧ x = a)
  | [], b => by simp [discardAll]
  | k :: ks, b => by
    have ih : x ∈ ((b.discard k a).discardAll a ks).get k' ↔ _ := mem_discardAll
    unfold discardAll at ih ⊢
    rw [List.foldl_cons, ih, mem_discard, List.mem_cons]
    tauto

omit [DecidableEq κ] in
/-- Every member is met once. -/
theorem count_get (h : x ∈ b.get k) : (b.get k).count x = 1 :=
  List.count_eq_one_of_mem (b.nodup k) h

end Buckets
