import Mathlib.Logic.Function.Basic
import Mathlib.Tactic.SplitIfs

/-!
# Calls that commit on the way

A call of a service on one database session, alone. It reads what the session sees, writes into the
open transaction, commits, and may raise anywhere; what it has not committed by then is lost. So a
call that raises changes nothing just if it has committed nothing of effect before.

* `Conn`: the committed tables and the tables as the session sees them.
* `Work`: a call. An exception keeps what was committed.
* `strike`: one place of the code at which the database, or something else outside the code, may
  fail; `fault` says which one does.
* `Raising X w c`: if `w` raises, started in `c`, the committed tables then satisfy `X`. This is a
  weakest precondition, and the rules about it are equations: the property of a call is rewritten,
  statement by statement, into a condition on its inputs.

Results:

* `raising_check_bind`, `raising_strike_bind`, `raising_write_bind`, …: the rules.
* `raising_bind`: the rule for a part of a call, by what it leaves.
* `raising_eachCommitted`: the rule for a loop of writes that commits each on its own.
-/

namespace Commits

/-- What is committed, and what the session sees. -/
structure Conn (σ : Type) where
  committed : σ
  session : σ

/-- A call, or a part of one. -/
def Work (σ ε α : Type) := Conn σ → Except ε α × Conn σ

variable {σ ε α β π : Type} {fault : Option π}

namespace Work

/-- Run `w`, then `f`. -/
protected def bind (w : Work σ ε α) (f : α → Work σ ε β) : Work σ ε β := fun c =>
  match w c with
  | (.ok a, c') => f a c'
  | (.error e, c') => (.error e, c')

instance : Monad (Work σ ε) where
  pure a c := (.ok a, c)
  bind := Work.bind

end Work

/-! ## Statements -/

def fail (e : ε) : Work σ ε α := fun c => (.error e, c)

/-- Code that does not touch the database. -/
def check (x : Except ε α) : Work σ ε α := fun c => (x, c)

/-- What the session sees. -/
def read : Work σ ε σ := fun c => (.ok c.session, c)

def write (f : σ → σ) : Work σ ε Unit := fun c => (.ok (), { c with session := f c.session })

def commit : Work σ ε Unit := fun c => (.ok (), ⟨c.session, c.session⟩)

/-- The place `p` of the code, where `e` is raised if this is the fault. -/
def strike [DecidableEq π] (fault : Option π) (p : π) (e : ε) : Work σ ε Unit :=
  if fault = some p then fail e else pure ()

/-- Every exception is followed by a rollback. -/
def orRollback (w : Work σ ε α) : Work σ ε α := fun c =>
  match w c with
  | (.ok a, c') => (.ok a, c')
  | (.error e, c') => (.error e, ⟨c'.committed, c'.committed⟩)

/-- A write with its own commit for each item, the `i`-th at the place `p i`. -/
def eachCommitted [DecidableEq π] (fault : Option π) (p : Nat → π) (e : ε) (g : α → σ → σ) :
    Nat → List α → Work σ ε Unit
  | _, [] => pure ()
  | i, a :: as => do
    strike fault (p i) e
    write (g a)
    commit
    eachCommitted fault p e g (i + 1) as

/-! ## Whole calls -/

/-- What a call returns or raises, and the tables it leaves. -/
structure Outcome (σ ε α : Type) where
  tables : σ
  result : Except ε α

/-- The call in a new session. -/
def call (w : Work σ ε α) (db : σ) : Outcome σ ε α :=
  let r := w ⟨db, db⟩
  ⟨r.2.committed, r.1⟩

/-- If `w` raises, what is committed then satisfies `X`. -/
def Raising (X : σ → Prop) (w : Work σ ε α) (c : Conn σ) : Prop :=
  match w c with
  | (.ok _, _) => True
  | (.error _, c') => X c'.committed

variable {X : σ → Prop} {w : Work σ ε α} {f : α → Work σ ε β} {c : Conn σ} {db : σ} {e : ε}

/-- **A call that raises**, in terms of its outcome. -/
theorem raising_call :
    Raising X w ⟨db, db⟩ ↔ ((call w db).result.isOk = false → X (call w db).tables) := by
  unfold Raising call
  rcases w ⟨db, db⟩ with ⟨e | a, c'⟩
  · simp [Except.isOk, Except.toBool]
  · simp [Except.isOk, Except.toBool]

/-! ## Running -/

theorem run_bind (c : Conn σ) : (w >>= f) c = match w c with
    | (.ok a, c') => f a c'
    | (.error e, c') => (.error e, c') := rfl

/-! ## Rules -/

/-- The rule for a part of a call. -/
theorem raising_bind : Raising X (w >>= f) c ↔ match w c with
    | (.ok a, c') => Raising X (f a) c'
    | (.error _, c') => X c'.committed := by
  unfold Raising
  rw [run_bind]
  rcases w c with ⟨e | a, c'⟩
  · exact Iff.rfl
  · exact Iff.rfl

/-! Statements at the end of a call. -/

@[simp] theorem raising_pure (a : α) : Raising X (pure a : Work σ ε α) c ↔ True := Iff.rfl

@[simp] theorem raising_check_error :
    Raising X (check (.error e) : Work σ ε α) c ↔ X c.committed := Iff.rfl

@[simp] theorem raising_commit : Raising X (commit : Work σ ε Unit) c ↔ True := Iff.rfl

theorem raising_strike [DecidableEq π] {p : π} :
    Raising X (strike fault p e) c ↔ (fault = some p → X c.committed) := by
  unfold strike
  split_ifs with h
  · exact ⟨fun hX _ => hX, fun hX => hX h⟩
  · exact ⟨fun _ heq => absurd heq h, fun _ => trivial⟩

/-! Statements with more to come. -/

@[simp] theorem raising_pure_bind (a : α) : Raising X (pure a >>= f) c ↔ Raising X (f a) c := Iff.rfl

theorem raising_check_bind {x : Except ε α} : Raising X (check x >>= f) c ↔ match x with
    | .ok a => Raising X (f a) c
    | .error _ => X c.committed := by
  cases x with
  | ok a => exact Iff.rfl
  | error e => exact Iff.rfl

@[simp] theorem raising_check_ok_bind (a : α) :
    Raising X (check (.ok a) >>= f) c ↔ Raising X (f a) c := Iff.rfl

@[simp] theorem raising_check_error_bind :
    Raising X (check (.error e) >>= f) c ↔ X c.committed := Iff.rfl

@[simp] theorem raising_read_bind {f : σ → Work σ ε β} :
    Raising X (read >>= f) c ↔ Raising X (f c.session) c := Iff.rfl

@[simp] theorem raising_write_bind {g : σ → σ} {f : Unit → Work σ ε β} :
    Raising X (write g >>= f) c ↔ Raising X (f ()) { c with session := g c.session } := Iff.rfl

@[simp] theorem raising_commit_bind {f : Unit → Work σ ε β} :
    Raising X (commit >>= f) c ↔ Raising X (f ()) ⟨c.session, c.session⟩ := Iff.rfl

theorem raising_strike_bind [DecidableEq π] {p : π} {f : Unit → Work σ ε β} :
    Raising X (strike fault p e >>= f) c ↔
      (fault = some p → X c.committed) ∧ (fault ≠ some p → Raising X (f ()) c) := by
  unfold strike
  split_ifs with h
  · exact ⟨fun hX => ⟨fun _ => hX, fun hne => absurd h hne⟩, fun hboth => hboth.1 h⟩
  · exact ⟨fun hf => ⟨fun heq => absurd heq h, fun _ => hf⟩, fun hboth => hboth.2 h⟩

/-- A part in parentheses. -/
theorem raising_assoc {γ : Type} {g : β → Work σ ε γ} :
    Raising X ((w >>= f) >>= g) c ↔ Raising X (w >>= fun a => f a >>= g) c := by
  rw [raising_bind, raising_bind, run_bind]
  rcases w c with ⟨e | a, c'⟩
  · exact Iff.rfl
  · exact raising_bind.symm

/-- **The rule for a loop** that commits each of its writes: if it fails at an item, the items before
it are committed. The induction is over the items. -/
theorem raising_eachCommitted [DecidableEq π] {p : Nat → π} {g : α → σ → σ} {f : Unit → Work σ ε β}
    (hp : Function.Injective p) : ∀ (as : List α) (i : Nat) (d : σ),
      Raising X (eachCommitted fault p e g i as >>= f) ⟨d, d⟩ ↔
        (∀ k < as.length, fault = some (p (i + k)) → X ((as.take k).foldl (fun s a => g a s) d)) ∧
        ((∀ k < as.length, fault ≠ some (p (i + k))) →
          Raising X (f ()) ⟨as.foldl (fun s a => g a s) d, as.foldl (fun s a => g a s) d⟩)
  | [], i, d => by simp [eachCommitted]
  | a :: as, i, d => by
    unfold eachCommitted
    rw [raising_assoc, raising_strike_bind]
    simp only [raising_assoc, raising_write_bind, raising_commit_bind]
    rw [raising_eachCommitted hp as (i + 1) (g a d)]
    have hshift (k : Nat) : i + 1 + k = i + (k + 1) := by omega
    simp only [hshift]
    constructor
    · rintro ⟨hfirst, hrest⟩
      refine ⟨fun k hk hfault => ?_, fun hnone => ?_⟩
      · cases k with
        | zero => exact hfirst hfault
        | succ k =>
          have hne : fault ≠ some (p i) := by
            rw [hfault]
            intro heq
            have hidx := hp (Option.some.inj heq)
            omega
          exact (hrest hne).1 k (Nat.lt_of_succ_lt_succ hk) hfault
      · refine (hrest (hnone 0 (Nat.succ_pos _))).2 fun k hk => ?_
        exact hnone (k + 1) (Nat.succ_lt_succ hk)
    · rintro ⟨hitems, hend⟩
      refine ⟨fun hfault => hitems 0 (Nat.succ_pos _) hfault, fun hne => ⟨fun k hk hfault => ?_,
        fun hnone => hend fun k hk => ?_⟩⟩
      · exact hitems (k + 1) (Nat.succ_lt_succ hk) hfault
      · cases k with
        | zero => exact hne
        | succ k => exact hnone k (Nat.lt_of_succ_lt_succ hk)

@[simp] theorem raising_orRollback : Raising X (orRollback w) c ↔ Raising X w c := by
  unfold Raising orRollback
  rcases w c with ⟨e | a, c'⟩
  · exact Iff.rfl
  · exact Iff.rfl

end Commits
