import Deltapreneur.Lib.Run
import Mathlib.Logic.Function.Basic
import Mathlib.Tactic.SplitIfs

/-!
# Sessions that hold a copy of one row

The unit of work of an object-relational mapper on one row, at READ COMMITTED. Every session has a
copy of a document column. It changes the copy, and `save` writes the whole document back:

* `save` is flush and refresh. The flush sends an `UPDATE` if the copy has changed, or another
  column of the row (`touch`). An `UPDATE` waits while another session holds the row, and holds it
  until the transaction ends. The refresh reads the row back, the session's own writes included.
* `load` reads the row. A session that has ended is closed, which rolls back what is open.
* An `Edit` carries the keys that it is about, and that it changes no others.
* A write is blind if the session did not hold the row when it read the copy that it changes.

Results:

* `Inv.step`: a copy that was read under the lock stays that of the row.
* `kept_iff_fresh`: **the lost update.** A commit leaves the keys that its edits are not about as
  they are exactly if it was not blind, or what the session had read is still true of these keys.
-/

namespace Copies

variable {ι δ κ α β : Type} {ν : κ → Type}

/-- A change of a document, and the keys that it is about. -/
structure Edit (proj : (k : κ) → δ → ν k) where
  keys : κ → Prop
  change : δ → δ
  confined : ∀ d k, ¬ keys k → proj k (change d) = proj k d

/-- The edit that changes nothing. -/
def Edit.nothing (proj : (k : κ) → δ → ν k) : Edit proj := ⟨fun _ => False, id, fun _ _ _ => rfl⟩

/-! ## Programs -/

/-- What a session does, up to its end; the answers are the copy. -/
inductive Prog (proj : (k : κ) → δ → ν k) (α : Type)
  | ret (a : α)
  | raise
  | load (k : δ → Prog proj α)
  | save (touch : Bool) (e : Edit proj) (k : δ → Prog proj α)
  | commit (k : Prog proj α)

namespace Prog

variable {proj : (k : κ) → δ → ν k}

/-- Run `p`, then `f`. -/
protected def bind (f : α → Prog proj β) : Prog proj α → Prog proj β
  | ret a => f a
  | raise => raise
  | load k => load fun d => (k d).bind f
  | save touch e k => save touch e fun d => (k d).bind f
  | commit k => commit (k.bind f)

instance : Monad (Prog proj) where
  pure := ret
  bind p f := p.bind f

/-! The statements as code uses them. -/

def read : Prog proj δ := load ret

def write (touch : Bool) (e : Edit proj) : Prog proj δ := save touch e ret

def commitTx : Prog proj Unit := commit (ret ())

/-- The next statement is a commit. -/
def commits : Prog proj α → Bool
  | commit _ => true
  | _ => false

end Prog

/-! ## Sessions -/

variable {proj : (k : κ) → δ → ν k}

/-- The document that a session has written and not committed. -/
structure Pending (proj : (k : κ) → δ → ν k) where
  /-- The copy before the first edit. -/
  base : δ
  doc : δ
  /-- The keys that the edits are about. -/
  keys : κ → Prop
  /-- The row was not held when `base` was read. -/
  blind : Bool

structure Member (proj : (k : κ) → δ → ν k) (α : Type) where
  prog : Prog proj α
  copy : δ
  pending : Option (Pending proj)

/-- The committed document, the session that holds the row, and the sessions. -/
structure State (proj : (k : κ) → δ → ν k) (ι α : Type) where
  doc : δ
  holder : Option ι
  member : ι → Member proj α

namespace State

/-- The sessions before their first statement. -/
def start (doc : δ) (prog : ι → Prog proj α) : State proj ι α :=
  ⟨doc, none, fun i => ⟨prog i, doc, none⟩⟩

/-- What a session reads: its own write, or the committed document. -/
def seen (s : State proj ι α) (pending : Option (Pending proj)) : δ :=
  match pending with
  | some p => p.doc
  | none => s.doc

variable [DecidableEq ι]

/-- The session reads the row and goes on. -/
def resume (s : State proj ι α) (i : ι) (pending : Option (Pending proj)) (k : δ → Prog proj α) :
    State proj ι α :=
  { s with member := Function.update s.member i ⟨k (s.seen pending), s.seen pending, pending⟩ }

/-- The transaction of the session ends. -/
def finish (s : State proj ι α) (i : ι) (doc : δ) (p : Prog proj α) : State proj ι α where
  doc := doc
  holder := if s.holder = some i then none else s.holder
  member := Function.update s.member i ⟨p, (s.member i).copy, none⟩

variable [DecidableEq δ]

/-- What an `UPDATE` of the session leaves to be committed. -/
def written (s : State proj ι α) (i : ι) (e : Edit proj) : Option (Pending proj) :=
  if e.change (s.member i).copy = (s.member i).copy then (s.member i).pending
  else match (s.member i).pending with
    | some p => some { p with
        doc := e.change (s.member i).copy
        keys := fun k => p.keys k ∨ e.keys k }
    | none => some {
        base := (s.member i).copy
        doc := e.change (s.member i).copy
        keys := e.keys
        blind := s.holder ≠ some i }

/-- The session `i` executes one statement. -/
def step (s : State proj ι α) (i : ι) : State proj ι α :=
  match (s.member i).prog with
  | .ret a => s.finish i s.doc (.ret a)
  | .raise => s.finish i s.doc .raise
  | .load k => s.resume i (s.member i).pending k
  | .save touch e k =>
    if e.change (s.member i).copy = (s.member i).copy ∧ touch = false then
      s.resume i (s.member i).pending k
    else if s.holder = none ∨ s.holder = some i then
      { s.resume i (s.written i e) k with holder := some i }
    else s
  | .commit k => s.finish i (s.seen (s.member i).pending) k

/-! ## The property and the condition -/

/-- **No lost update.** The step changes no key but those that the session's edits are about. -/
def Kept (s : State proj ι α) (i : ι) (s' : State proj ι α) : Prop :=
  ∀ k, proj k s'.doc ≠ proj k s.doc → ∃ p, (s.member i).pending = some p ∧ p.keys k

omit [DecidableEq ι] [DecidableEq δ] in
/-- A session that is about to commit a blind write has read what the row still says, for the keys
that its edits are not about. -/
def Fresh (s : State proj ι α) (i : ι) : Prop :=
  (s.member i).prog.commits = true → ∀ p, (s.member i).pending = some p → p.blind = true →
    ∀ k, ¬ p.keys k → proj k p.base = proj k s.doc

/-! ## The invariant -/

/-- What holds of a session: it has written only what it holds the row for, and a copy that it
read while it held the row is that of the row. -/
structure Sound (s : State proj ι α) (i : ι) : Prop where
  held : ∀ p, (s.member i).pending = some p → s.holder = some i
  current : s.holder = some i → (s.member i).copy = s.seen (s.member i).pending
  sighted : ∀ p, (s.member i).pending = some p → p.blind = false → p.base = s.doc
  confined : ∀ p, (s.member i).pending = some p → ∀ k, ¬ p.keys k → proj k p.doc = proj k p.base

omit [DecidableEq ι] [DecidableEq δ] in
theorem sound_start (doc : δ) (prog : ι → Prog proj α) (i : ι) : (start doc prog).Sound i :=
  ⟨nofun, nofun, nofun, nofun⟩

variable {s s' : State proj ι α} {i j : ι}

omit [DecidableEq ι] [DecidableEq δ] in
/-- What the others do to a session. -/
theorem Sound.other (h : s.Sound j) (hmember : s'.member j = s.member j)
    (hholder : s'.holder = some j ↔ s.holder = some j)
    (hdoc : s.holder = some j → s'.doc = s.doc) : s'.Sound j := by
  constructor
  · rw [hmember, hholder]
    exact h.held
  · intro hj
    have hold := hholder.mp hj
    rw [hmember, h.current hold]
    unfold seen
    rw [hdoc hold]
  · intro p hp hblind
    rw [hmember] at hp
    rw [hdoc (h.held p hp)]
    exact h.sighted p hp hblind
  · rw [hmember]
    exact h.confined

omit [DecidableEq δ] in
theorem Sound.resume (h : s.Sound i) (k : δ → Prog proj α) :
    (s.resume i (s.member i).pending k).Sound i := by
  constructor <;> simp only [State.resume, Function.update_self]
  · exact h.held
  · exact fun _ => rfl
  · exact h.sighted
  · exact h.confined

omit [DecidableEq δ] in
theorem sound_finish (s : State proj ι α) (i : ι) (doc : δ) (p : Prog proj α) :
    (s.finish i doc p).Sound i := by
  constructor <;> simp only [finish, Function.update_self]
  · exact nofun
  · intro hi
    split_ifs at hi with hold
    exact absurd hi hold
  · exact nofun
  · exact nofun

theorem written_cases (s : State proj ι α) (i : ι) (e : Edit proj) (p : Pending proj)
    (hp : s.written i e = some p) :
    ((s.member i).pending = some p) ∨
    (∃ q, (s.member i).pending = some q ∧ p = { q with
      doc := e.change (s.member i).copy, keys := fun k => q.keys k ∨ e.keys k }) ∨
    ((s.member i).pending = none ∧ p = {
      base := (s.member i).copy, doc := e.change (s.member i).copy, keys := e.keys
      blind := s.holder ≠ some i }) := by
  unfold written at hp
  split_ifs at hp with hsame
  · exact .inl hp
  · cases hpending : (s.member i).pending with
    | some q =>
      rw [hpending] at hp
      exact .inr (.inl ⟨q, rfl, (Option.some.inj hp).symm⟩)
    | none =>
      rw [hpending] at hp
      exact .inr (.inr ⟨rfl, (Option.some.inj hp).symm⟩)

/-- A session that writes while it holds the row, or nobody does. -/
theorem Sound.written (h : s.Sound i) (e : Edit proj) (k : δ → Prog proj α) :
    State.Sound { s.resume i (s.written i e) k with holder := some i } i := by
  constructor <;> simp only [State.resume, Function.update_self]
  · exact fun _ _ => trivial
  · exact fun _ => rfl
  · intro p hp hblind
    rcases written_cases s i e p hp with hold | ⟨q, hq, rfl⟩ | ⟨hnone, rfl⟩
    · exact h.sighted p hold hblind
    · exact h.sighted q hq hblind
    · have hheld : s.holder = some i := by simpa using hblind
      rw [h.current hheld, hnone]
      rfl
  · intro p hp key hkey
    rcases written_cases s i e p hp with hold | ⟨q, hq, rfl⟩ | ⟨hnone, rfl⟩
    · exact h.confined p hold key hkey
    · rw [not_or] at hkey
      have hcopy : (s.member i).copy = q.doc := by
        rw [h.current (h.held q hq), hq]
        rfl
      rw [e.confined _ key hkey.2, hcopy]
      exact h.confined q hq key hkey.1
    · exact e.confined _ key hkey

/-- What a session that takes a step leaves to another one. -/
theorem step_other (hij : j ≠ i) (hi : s.Sound i) :
    (s.step i).member j = s.member j ∧
      ((s.step i).holder = some j ↔ s.holder = some j) ∧
      (s.holder = some j → (s.step i).doc = s.doc) := by
  have hfinish : (if s.holder = some i then none else s.holder) = some j ↔ s.holder = some j := by
    split_ifs with h
    · simp [h, Ne.symm hij]
    · exact Iff.rfl
  unfold step
  cases (s.member i).prog with
  | ret | raise => exact ⟨Function.update_of_ne hij _ _, hfinish, fun _ => rfl⟩
  | load k => exact ⟨Function.update_of_ne hij _ _, Iff.rfl, fun _ => rfl⟩
  | save touch e k =>
    dsimp only
    split_ifs with hsame hfree
    · exact ⟨Function.update_of_ne hij _ _, Iff.rfl, fun _ => rfl⟩
    · refine ⟨Function.update_of_ne hij _ _, ?_, fun _ => rfl⟩
      rcases hfree with h | h <;> simp [h, Ne.symm hij]
    · exact ⟨rfl, Iff.rfl, fun _ => rfl⟩
  | commit k =>
    refine ⟨Function.update_of_ne hij _ _, hfinish, fun hj => ?_⟩
    -- a session that has something to commit holds the row itself
    cases hpending : (s.member i).pending with
    | none => simp only [finish, seen]
    | some p => exact absurd (hj.symm.trans (hi.held p hpending)) (by simpa using hij)

/-- **One statement keeps every session sound.** -/
theorem sound_step (h : ∀ j, s.Sound j) (i : ι) : ∀ j, (s.step i).Sound j := by
  intro j
  by_cases hij : j = i
  · subst hij
    unfold step
    cases (s.member j).prog with
    | ret | raise => exact sound_finish s j _ _
    | load k => exact (h j).resume k
    | save touch e k =>
      dsimp only
      split_ifs
      · exact (h j).resume k
      · exact (h j).written e k
      · exact h j
    | commit k => exact sound_finish s j _ _
  · obtain ⟨hmember, hholder, hdoc⟩ := step_other hij (h i)
    exact (h j).other hmember hholder hdoc

/-- Only a commit changes the document, to what the session has written. -/
theorem step_doc (s : State proj ι α) (i : ι) :
    (s.step i).doc =
      if (s.member i).prog.commits then s.seen (s.member i).pending else s.doc := by
  unfold step
  cases (s.member i).prog with
  | save touch e k =>
    simp only [Prog.commits, Bool.false_eq_true, if_false]
    split_ifs <;> rfl
  | _ => rfl

/-- **A lost update is a blind write of what is no longer true.** -/
theorem kept_iff_fresh (h : ∀ j, s.Sound j) (i : ι) : s.Kept i (s.step i) ↔ s.Fresh i := by
  rw [Kept, Fresh, step_doc]
  by_cases hcommits : (s.member i).prog.commits = true
  · rw [if_pos hcommits]
    cases hpending : (s.member i).pending with
    | none => simp [seen]
    | some p =>
      simp only [seen, Option.some.injEq, exists_eq_left', forall_eq', hcommits, forall_const]
      constructor
      · intro hkept _ key hkey
        rw [← (h i).confined p hpending key hkey]
        exact not_not.mp fun hne => hkey (hkept key hne)
      · intro hfresh key hne
        by_contra hkey
        refine hne (((h i).confined p hpending key hkey).trans ?_)
        cases hblind : p.blind with
        | true => exact hfresh hblind key hkey
        | false => rw [(h i).sighted p hpending hblind]
  · simp [hcommits]

end State

/-- While `held` is false, the program changes nothing in the document. -/
def Prog.Sighted : Bool → Prog proj α → Prop
  | _, .ret _ | _, .raise => True
  | held, .load k => ∀ d, (k d).Sighted held
  | held, .save touch e k =>
    (held = true ∨ ∀ d, e.change d = d) ∧ ∀ d, (k d).Sighted (held || touch)
  | _, .commit k => k.Sighted false

theorem Prog.Sighted.held : ∀ {p : Prog proj α}, p.Sighted false → p.Sighted true
  | .ret _, _ | .raise, _ => trivial
  | .load _, h => fun d => (h d).held
  | .save true _ _, h => ⟨.inl rfl, h.2⟩
  | .save false _ _, h => ⟨.inl rfl, fun d => (h.2 d).held⟩
  | .commit _, h => h

/-- The rule for one program after the other. -/
theorem Prog.sighted_bind {f : α → Prog proj β} (hf : ∀ a, (f a).Sighted false) :
    ∀ {p : Prog proj α} {held : Bool}, p.Sighted held → (p >>= f).Sighted held
  | .ret a, true, _ => (hf a).held
  | .ret a, false, _ => hf a
  | .raise, _, _ => trivial
  | .load _, _, h => fun d => sighted_bind hf (h d)
  | .save _ _ _, _, h => ⟨h.1, fun d => sighted_bind hf (h.2 d)⟩
  | .commit k, _, h => sighted_bind (p := k) hf h

namespace State

variable [DecidableEq ι] {s : State proj ι α} {i j : ι}

/-- The session has written nothing blindly, and its program will not. -/
structure Sees (s : State proj ι α) (i : ι) : Prop where
  prog : ∃ held, (s.member i).prog.Sighted held ∧ (held = true → s.holder = some i)
  pending : ∀ p, (s.member i).pending = some p → p.blind = false

omit [DecidableEq ι] in
theorem sees_start {doc : δ} {prog : ι → Prog proj α} (h : (prog i).Sighted false) :
    (start doc prog).Sees i :=
  ⟨⟨false, h, nofun⟩, nofun⟩

theorem sees_finish {doc : δ} {p : Prog proj α} (h : p.Sighted false) : (s.finish i doc p).Sees i :=
  ⟨⟨false, by simpa only [finish, Function.update_self] using h, nofun⟩,
    by simp [finish, Function.update_self]⟩

variable [DecidableEq δ]

theorem sees_step (hsound : ∀ j, s.Sound j) (h : s.Sees j) (i : ι) : (s.step i).Sees j := by
  by_cases hij : j = i
  · subst hij
    obtain ⟨held, hprog, hheld⟩ := h.prog
    unfold step
    cases hp : (s.member j).prog with
    | ret a => exact sees_finish trivial
    | raise => exact sees_finish trivial
    | load k =>
      rw [hp] at hprog
      refine ⟨⟨held, ?_, hheld⟩, ?_⟩ <;> simp only [resume, Function.update_self]
      · exact hprog _
      · exact h.pending
    | commit k =>
      rw [hp] at hprog
      exact sees_finish hprog
    | save touch e k =>
      rw [hp] at hprog
      dsimp only
      split_ifs with hsame hfree
      · refine ⟨⟨held, ?_, hheld⟩, ?_⟩ <;> simp only [resume, Function.update_self]
        · simpa [hsame.2] using hprog.2 (s.seen (s.member j).pending)
        · exact h.pending
      · refine ⟨⟨held || touch, ?_, fun _ => rfl⟩, ?_⟩ <;>
          simp only [resume, Function.update_self]
        · exact hprog.2 _
        · intro p hwritten
          unfold written at hwritten
          split_ifs at hwritten with hnothing
          · exact h.pending p hwritten
          -- the edit changes something, so the session holds the row
          have hholder := hheld (hprog.1.resolve_right fun hall => hnothing (hall _))
          cases hpending : (s.member j).pending with
          | some q =>
            rw [hpending] at hwritten
            cases hwritten
            exact h.pending q hpending
          | none =>
            rw [hpending] at hwritten
            cases hwritten
            simpa using hholder
      · exact h
  · obtain ⟨hmember, hholder, -⟩ := step_other hij (hsound i)
    obtain ⟨held, hprog, hheld⟩ := h.prog
    refine ⟨⟨held, ?_, fun ht => hholder.mpr (hheld ht)⟩, ?_⟩ <;> rw [hmember]
    · exact hprog
    · exact h.pending

/-- **In every run**, no commit loses an update exactly if those of the sessions that do not lock
the row first are fresh. -/
theorem allSteps_kept_iff (doc : δ) (prog : ι → Prog proj α) {locksFirst : ι → Prop}
    (hfirst : ∀ i, locksFirst i → (prog i).Sighted false) (ls : List ι) :
    Run.AllSteps step Kept (start doc prog) ls ↔
      Run.Meets step (fun s i => ¬ locksFirst i → s.Fresh i) (start doc prog) ls := by
  refine Run.allSteps_iff_meets (P := fun s => (∀ j, s.Sound j) ∧ ∀ j, locksFirst j → s.Sees j)
    (fun s i h => ⟨sound_step h.1 i, fun j hj => sees_step h.1 (h.2 j hj) i⟩) (fun s i h => ?_) ls
    ⟨sound_start doc prog, fun j hj => sees_start (hfirst j hj)⟩
  rw [kept_iff_fresh h.1]
  refine ⟨fun hfresh _ => hfresh, fun hfresh => ?_⟩
  by_cases hi : locksFirst i
  · intro _ p hp hblind
    rw [(h.2 i hi).pending p hp] at hblind
    cases hblind
  · exact hfresh hi

end State

end Copies
