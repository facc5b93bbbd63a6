import Mathlib.Logic.Function.Basic
import Mathlib.Tactic.SplitIfs

/-!
# An object-relational session: cached rows and column write-back

A session keeps the row it loaded as an object. Code assigns to the object's attributes; a
flush then sends an `UPDATE` for the columns whose value differs from the loaded one and for
no other column. While the session holds the object, a second `SELECT` of the row (with or
without `FOR UPDATE`) returns the same object with its attributes as they are.

* `flushColumn loaded new row` is the value one column has after the flush: `new` when the
  code changed it, the committed `row` value when it did not.
* `flushColumn_fresh`: a session whose loaded value is the committed one writes what it means
  to write. Everything that goes wrong with a stale session is the failure of this equation.
-/

namespace UnitOfWork

variable {α : Type*} [DecidableEq α]

/-- A column after a flush: written only when the object's value differs from the loaded
one. -/
def flushColumn (loaded new row : α) : α := if new = loaded then row else new

/-- With a loaded value that is the committed one, the flush stores the object's value. -/
@[simp] theorem flushColumn_fresh (row new : α) : flushColumn row new row = new := by
  unfold flushColumn
  split
  · next h => exact h.symm
  · rfl

/-- A column the code did not touch keeps its committed value. -/
@[simp] theorem flushColumn_untouched (loaded row : α) : flushColumn loaded loaded row = row :=
  if_pos rfl

/-- A column the code changed is overwritten, whatever is committed. -/
theorem flushColumn_changed {loaded new : α} (h : new ≠ loaded) (row : α) :
    flushColumn loaded new row = new :=
  if_neg h

theorem flushColumn_eq_iff {loaded new row v : α} :
    flushColumn loaded new row = v ↔ if new = loaded then row = v else new = v := by
  unfold flushColumn
  split_ifs <;> rfl

end UnitOfWork
