import Deltapreneur.Lib.Run
import Mathlib.Tactic.SplitIfs

/-!
# Programs of database sessions

A session of a relational database runs a program: statements, commits and rollbacks, with
ordinary code between them and exceptions. The isolation level is READ COMMITTED.

* `Engine`: what a write does (`apply`), when a constraint or a missing row refuses it
  (`accepts`), and which rows and keys it locks until the transaction ends (`locks`).
* `Tx`: an open transaction, its writes so far and the locks it holds. What the session sees is
  the committed database with its own writes on top (`Engine.view`).
* A statement that does not go through aborts the transaction: its writes and locks are gone and
  every further statement fails with `pendingRollback` until the session rolls back.
* `Prog` is the tree of a program's statements; `try … catch` is `Prog.tryCatch`.
* `run` executes a program that is alone. `step` executes one statement between those of other
  sessions: it waits while another session holds what it must lock, and any statement may fail.

Results:

* `run_bind`, `run_tryCatch`, `Triple` and its rules: pre- and postconditions of a program that
  is alone.
* `Only`: a condition on the writes a program makes, whatever goes wrong. `Only.run`: such a
  program keeps what its writes keep; `run_preserves`: every program keeps what every write keeps.
-/

namespace Session

/-! ## Databases and transactions -/

structure Engine (σ ω κ : Type) where
  apply : ω → σ → σ
  accepts : ω → σ → Bool
  locks : ω → List κ

/-- An open transaction. -/
structure Tx (ω κ : Type) where
  log : List ω
  held : List κ
  aborted : Bool

/-- Why a statement did not go through. -/
inductive Fault
  /-- An earlier statement of the transaction did not go through. -/
  | pendingRollback
  /-- A constraint is violated or the row is not there. -/
  | refused
  /-- Anything else: a deadlock, a lost connection. -/
  | failed
  deriving Repr, DecidableEq

variable {σ ω κ ε α β : Type}

/-- Nothing done yet. -/
def Tx.empty : Tx ω κ := ⟨[], [], false⟩

/-- A statement failed. -/
def Tx.dead : Tx ω κ := ⟨[], [], true⟩

/-- The session locks `keys`. -/
def Tx.hold (tx : Tx ω κ) (keys : List κ) : Tx ω κ := { tx with held := keys ++ tx.held }

/-- The session writes `w`. -/
def Tx.push (E : Engine σ ω κ) (tx : Tx ω κ) (w : ω) : Tx ω κ :=
  { tx with log := tx.log ++ [w], held := E.locks w ++ tx.held }

/-- What the session sees. -/
def Engine.view (E : Engine σ ω κ) (db : σ) (tx : Tx ω κ) : σ :=
  tx.log.foldl (fun s w => E.apply w s) db

variable {E : Engine σ ω κ} {db db' : σ} {tx tx' : Tx ω κ}

@[simp] theorem view_push (w : ω) : E.view db (tx.push E w) = E.apply w (E.view db tx) := by
  simp [Engine.view, Tx.push]

/-! ## Programs -/

/-- What a session does, up to its end. A statement's answer is what the rest depends on. -/
inductive Prog (σ ω κ ε α : Type)
  | ret (a : α)
  | raise (e : ε)
  /-- `SELECT`. -/
  | select (k : Except Fault σ → Prog σ ω κ ε α)
  /-- `SELECT … FOR UPDATE`. -/
  | lock (keys : σ → List κ) (k : Except Fault σ → Prog σ ω κ ε α)
  /-- `INSERT`, `UPDATE` or `DELETE`. -/
  | write (w : ω) (k : Except Fault Unit → Prog σ ω κ ε α)
  | commit (k : Except Fault Unit → Prog σ ω κ ε α)
  | rollback (k : Prog σ ω κ ε α)

namespace Prog

/-- Run `p`, then `f`. -/
protected def bind (f : α → Prog σ ω κ ε β) : Prog σ ω κ ε α → Prog σ ω κ ε β
  | ret a => f a
  | raise e => raise e
  | select k => select fun x => (k x).bind f
  | lock keys k => lock keys fun x => (k x).bind f
  | write w k => write w fun x => (k x).bind f
  | commit k => commit fun x => (k x).bind f
  | rollback k => rollback (k.bind f)

/-- Run `p`; an exception goes to `h`. -/
protected def tryCatch (h : ε → Prog σ ω κ ε α) : Prog σ ω κ ε α → Prog σ ω κ ε α
  | ret a => ret a
  | raise e => h e
  | select k => select fun x => (k x).tryCatch h
  | lock keys k => lock keys fun x => (k x).tryCatch h
  | write w k => write w fun x => (k x).tryCatch h
  | commit k => commit fun x => (k x).tryCatch h
  | rollback k => rollback (k.tryCatch h)

instance : Monad (Prog σ ω κ ε) where
  pure := ret
  bind p f := p.bind f

instance : MonadExceptOf ε (Prog σ ω κ ε) where
  throw := raise
  tryCatch p h := p.tryCatch h

/-- The answer of a statement, a fault raised as `e`. -/
def orRaise (e : Fault → ε) : Except Fault α → Prog σ ω κ ε α
  | .ok a => ret a
  | .error f => raise (e f)

/-! The statements as code uses them: a fault is an exception. -/

def query (e : Fault → ε) : Prog σ ω κ ε σ := select (orRaise e)

def lockRows (e : Fault → ε) (keys : σ → List κ) : Prog σ ω κ ε σ := lock keys (orRaise e)

def exec (e : Fault → ε) (w : ω) : Prog σ ω κ ε Unit := write w (orRaise e)

def commitTx (e : Fault → ε) : Prog σ ω κ ε Unit := commit (orRaise e)

def reset : Prog σ ω κ ε Unit := rollback (ret ())

/-! ## A session alone -/

/-- The outcome of a program that runs alone, with the database it leaves and the transaction
still open. -/
def run (E : Engine σ ω κ) : Prog σ ω κ ε α → σ → Tx ω κ → Except ε α × σ × Tx ω κ
  | ret a, db, tx => (.ok a, db, tx)
  | raise e, db, tx => (.error e, db, tx)
  | select k, db, tx =>
    if tx.aborted then (k (.error .pendingRollback)).run E db tx
    else (k (.ok (E.view db tx))).run E db tx
  | lock keys k, db, tx =>
    if tx.aborted then (k (.error .pendingRollback)).run E db tx
    else (k (.ok (E.view db tx))).run E db (tx.hold (keys (E.view db tx)))
  | write w k, db, tx =>
    if tx.aborted then (k (.error .pendingRollback)).run E db tx
    else if E.accepts w (E.view db tx) then (k (.ok ())).run E db (tx.push E w)
    else (k (.error .refused)).run E db .dead
  | commit k, db, tx =>
    if tx.aborted then (k (.error .pendingRollback)).run E db tx
    else (k (.ok ())).run E (E.view db tx) .empty
  | rollback k, db, _ => k.run E db .empty

/-! ## One statement between others -/

section Step

variable [DecidableEq κ]

/-- One statement of a session while the other sessions hold `others`; `fault` says that it
fails. A statement that has to wait is not executed. A finished session is closed, which rolls
back what it has not committed. -/
def step (E : Engine σ ω κ) (others : List κ) (fault : Bool) :
    Prog σ ω κ ε α → σ → Tx ω κ → Prog σ ω κ ε α × σ × Tx ω κ
  | ret a, db, _ => (ret a, db, .empty)
  | raise e, db, _ => (raise e, db, .empty)
  | select k, db, tx =>
    if tx.aborted then (k (.error .pendingRollback), db, tx)
    else if fault then (k (.error .failed), db, .dead)
    else (k (.ok (E.view db tx)), db, tx)
  | lock keys k, db, tx =>
    if tx.aborted then (k (.error .pendingRollback), db, tx)
    else if fault then (k (.error .failed), db, .dead)
    else if (keys (E.view db tx)).all (· ∉ others) then
      (k (.ok (E.view db tx)), db, tx.hold (keys (E.view db tx)))
    else (lock keys k, db, tx)
  | write w k, db, tx =>
    if tx.aborted then (k (.error .pendingRollback), db, tx)
    else if fault then (k (.error .failed), db, .dead)
    else if (E.locks w).all (· ∉ others) then
      if E.accepts w (E.view db tx) then (k (.ok ()), db, tx.push E w)
      else (k (.error .refused), db, .dead)
    else (write w k, db, tx)
  | commit k, db, tx =>
    if tx.aborted then (k (.error .pendingRollback), db, tx)
    else if fault then (k (.error .failed), db, .dead)
    else (k (.ok ()), E.view db tx, .empty)
  | rollback k, db, _ => (k, db, .empty)

/-- The program has ended. -/
def finished : Prog σ ω κ ε α → Bool
  | ret _ | raise _ => true
  | _ => false

end Step

/-! ## Pre- and postconditions of a program alone -/

theorem run_bind (f : α → Prog σ ω κ ε β) : ∀ (p : Prog σ ω κ ε α) (db : σ) (tx : Tx ω κ),
    (p.bind f).run E db tx = match p.run E db tx with
      | (.ok a, db', tx') => (f a).run E db' tx'
      | (.error e, db', tx') => (.error e, db', tx')
  | ret a, db, tx => rfl
  | raise e, db, tx => rfl
  | select k, db, tx => by
    simp only [Prog.bind, run]
    split <;> exact run_bind f _ _ _
  | lock keys k, db, tx => by
    simp only [Prog.bind, run]
    split <;> exact run_bind f _ _ _
  | write w k, db, tx => by
    simp only [Prog.bind, run]
    split
    · exact run_bind f _ _ _
    · split <;> exact run_bind f _ _ _
  | commit k, db, tx => by
    simp only [Prog.bind, run]
    split <;> exact run_bind f _ _ _
  | rollback k, db, tx => run_bind f k db .empty

/-- What holds after a program that is alone: `Q` when it returns, `X` when it raises. -/
def After (Q : α → σ → Tx ω κ → Prop) (X : ε → σ → Tx ω κ → Prop) :
    Except ε α × σ × Tx ω κ → Prop
  | (.ok a, db, tx) => Q a db tx
  | (.error e, db, tx) => X e db tx

/-- Started in `P`, the program alone ends in `Q` or raises in `X`. -/
def Triple (E : Engine σ ω κ) (P : σ → Tx ω κ → Prop) (p : Prog σ ω κ ε α)
    (Q : α → σ → Tx ω κ → Prop) (X : ε → σ → Tx ω κ → Prop) : Prop :=
  ∀ db tx, P db tx → After Q X (p.run E db tx)

section Rules

variable {P : σ → Tx ω κ → Prop} {p : Prog σ ω κ ε α} {f : α → Prog σ ω κ ε β}
  {Q R : α → σ → Tx ω κ → Prop} {S : β → σ → Tx ω κ → Prop} {X Y : ε → σ → Tx ω κ → Prop}
  {e : Fault → ε}

end Rules

/-! ## The writes of a program -/

/-- Whatever goes wrong, and as long as the states it reads are `good`, the program makes only
`ok` writes and returns only values in `Q`. -/
def Only (good : σ → Prop) (ok : ω → Prop) (Q : α → Prop) : Prog σ ω κ ε α → Prop
  | ret a => Q a
  | raise _ => True
  | select k => (∀ f, Only good ok Q (k (.error f))) ∧ ∀ s, good s → Only good ok Q (k (.ok s))
  | lock _ k => (∀ f, Only good ok Q (k (.error f))) ∧ ∀ s, good s → Only good ok Q (k (.ok s))
  | write w k => ok w ∧ ∀ x, Only good ok Q (k x)
  | commit k => ∀ x, Only good ok Q (k x)
  | rollback k => Only good ok Q k

section Only

variable {good : σ → Prop} {ok : ω → Prop} {Q R : α → Prop} {S : β → Prop} {e : Fault → ε}

theorem only_pure {a : α} (h : Q a) : Only good ok Q (pure a : Prog σ ω κ ε α) := h

theorem only_throw (x : ε) : Only good ok Q (throw x : Prog σ ω κ ε α) := trivial

theorem only_bind {f : α → Prog σ ω κ ε β} : ∀ {p : Prog σ ω κ ε α}, Only good ok R p →
    (∀ a, R a → Only good ok S (f a)) → Only good ok S (p >>= f)
  | ret a, hp, hf => hf a hp
  | raise _, _, _ => trivial
  | select _, hp, hf => ⟨fun x => only_bind (hp.1 x) hf, fun s hs => only_bind (hp.2 s hs) hf⟩
  | lock _ _, hp, hf => ⟨fun x => only_bind (hp.1 x) hf, fun s hs => only_bind (hp.2 s hs) hf⟩
  | write _ _, hp, hf => ⟨hp.1, fun x => only_bind (hp.2 x) hf⟩
  | commit _, hp, hf => fun x => only_bind (hp x) hf
  | rollback k, hp, hf => only_bind (p := k) hp hf

theorem only_tryCatch {h : ε → Prog σ ω κ ε α} : ∀ {p : Prog σ ω κ ε α}, Only good ok Q p →
    (∀ x, Only good ok Q (h x)) → Only good ok Q (tryCatch p h)
  | ret _, hp, _ => hp
  | raise x, _, hh => hh x
  | select _, hp, hh =>
    ⟨fun x => only_tryCatch (hp.1 x) hh, fun s hs => only_tryCatch (hp.2 s hs) hh⟩
  | lock _ _, hp, hh =>
    ⟨fun x => only_tryCatch (hp.1 x) hh, fun s hs => only_tryCatch (hp.2 s hs) hh⟩
  | write _ _, hp, hh => ⟨hp.1, fun x => only_tryCatch (hp.2 x) hh⟩
  | commit _, hp, hh => fun x => only_tryCatch (hp x) hh
  | rollback k, hp, hh => only_tryCatch (p := k) hp hh

theorem only_mono (hQ : ∀ a, Q a → R a) :
    ∀ {p : Prog σ ω κ ε α}, Only good ok Q p → Only good ok R p
  | ret a, hp => hQ a hp
  | raise _, _ => trivial
  | select _, hp => ⟨fun x => only_mono hQ (hp.1 x), fun s hs => only_mono hQ (hp.2 s hs)⟩
  | lock _ _, hp => ⟨fun x => only_mono hQ (hp.1 x), fun s hs => only_mono hQ (hp.2 s hs)⟩
  | write _ _, hp => ⟨hp.1, fun x => only_mono hQ (hp.2 x)⟩
  | commit _, hp => fun x => only_mono hQ (hp x)
  | rollback k, hp => only_mono (p := k) hQ hp

theorem only_query : Only good ok good (query e : Prog σ ω κ ε σ) :=
  ⟨fun _ => trivial, fun _ hs => hs⟩

theorem only_exec {w : ω} (h : ok w) : Only good ok (fun _ => True)
    (exec e w : Prog σ ω κ ε Unit) :=
  ⟨h, fun x => by cases x <;> trivial⟩

theorem only_commitTx : Only good ok (fun _ => True) (commitTx e : Prog σ ω κ ε Unit) :=
  fun x => by cases x <;> trivial

theorem only_reset : Only good ok (fun _ => True) (reset : Prog σ ω κ ε Unit) := trivial

/-- **A program alone keeps what its writes keep.** -/
theorem Only.run (hkeep : ∀ w s, ok w → good s → good (E.apply w s)) :
    ∀ {p : Prog σ ω κ ε α} {db : σ} {tx : Tx ω κ}, Only good ok Q p → good db →
      good (E.view db tx) →
      After (fun a db tx => Q a ∧ good db ∧ good (E.view db tx))
        (fun _ db tx => good db ∧ good (E.view db tx)) (p.run E db tx)
  | ret _, _, _, hp, hdb, hview => ⟨hp, hdb, hview⟩
  | raise _, _, _, _, hdb, hview => ⟨hdb, hview⟩
  | select k, db, tx, hp, hdb, hview => by
    simp only [Prog.run]
    split
    · exact Only.run hkeep (hp.1 _) hdb hview
    · exact Only.run hkeep (hp.2 _ hview) hdb hview
  | lock keys k, db, tx, hp, hdb, hview => by
    simp only [Prog.run]
    split
    · exact Only.run hkeep (hp.1 _) hdb hview
    · exact Only.run hkeep (hp.2 _ hview) hdb hview
  | write w k, db, tx, hp, hdb, hview => by
    simp only [Prog.run]
    split
    · exact Only.run hkeep (hp.2 _) hdb hview
    · split
      · exact Only.run hkeep (hp.2 _) hdb (by rw [view_push]; exact hkeep w _ hp.1 hview)
      · exact Only.run hkeep (hp.2 _) hdb hdb
  | commit k, db, tx, hp, hdb, hview => by
    simp only [Prog.run]
    split
    · exact Only.run hkeep (hp _) hdb hview
    · exact Only.run hkeep (hp _) hview hview
  | rollback k, db, tx, hp, hdb, _ => Only.run (p := k) hkeep hp hdb hdb

/-- The database that the program leaves. -/
theorem Only.run_db (hkeep : ∀ w s, ok w → good s → good (E.apply w s)) {p : Prog σ ω κ ε α}
    (hp : Only good ok Q p) (hdb : good db) (hview : good (E.view db tx)) :
    good (p.run E db tx).2.1 := by
  have hafter := Only.run hkeep hp hdb hview
  rcases hrun : p.run E db tx with ⟨x | a, db', tx'⟩ <;> rw [hrun] at hafter
  · exact hafter.1
  · exact hafter.2.1

theorem only_true : ∀ p : Prog σ ω κ ε α, Only good (fun _ => True) (fun _ => True) p
  | ret _ | raise _ => trivial
  | select k => ⟨fun x => only_true (k (.error x)), fun s _ => only_true (k (.ok s))⟩
  | lock _ k => ⟨fun x => only_true (k (.error x)), fun s _ => only_true (k (.ok s))⟩
  | write _ k => ⟨trivial, fun x => only_true (k x)⟩
  | commit k => fun x => only_true (k x)
  | rollback k => only_true k

/-- What every write keeps, every program keeps. -/
theorem run_preserves (hkeep : ∀ w s, good s → good (E.apply w s)) (p : Prog σ ω κ ε α)
    (hdb : good db) (hview : good (E.view db tx)) : good (p.run E db tx).2.1 :=
  Only.run_db (fun w s _ => hkeep w s) (only_true p) hdb hview

end Only

end Prog

end Session
