import Deltapreneur.Lib.Session
import Mathlib.Data.List.FinRange

/-!
# Sessions side by side

Any number of sessions run their programs on one database, one statement at a time and in any
order; no statement fails by itself. The rules are those of rely and guarantee.

* `Sessions.step`: the session `i` executes its next statement, or waits for a lock. What its last
  query has read is kept (`read`).
* `Sessions.Allowed fresh`: if the session's next statement is a write that is executed, what the
  session has read last is `fresh` beside what it would read now.
* `R held db db'`: what the others may do to the committed database while a session holds `held`.
* `Safe R fresh Q X p db tx last`: from here the program ends in `Q` or raises in `X`, and what it
  commits is an `R` step for everybody else. It may assume that the others only take `R` steps and
  that its writes are allowed.

Results:

* `safe_bind`, `safe_tryCatch` and one rule for each statement.
* `Guarded.step`: if all sessions are safe and no two hold the same lock, then so it is after an
  allowed step.
* `Guarded.run`: a session that has ended in an allowed run has ended in its postcondition.
-/

namespace Session

variable {σ ω κ ε α β : Type}

/-- What the session has read last, after its next statement. -/
def Prog.reads [DecidableEq κ] (E : Engine σ ω κ) (others : List κ) (db : σ) (tx : Tx ω κ)
    (last : σ) : Prog σ ω κ ε α → σ
  | .select _ => if tx.aborted then last else E.view db tx
  | .lock keys _ =>
    if tx.aborted then last
    else if (keys (E.view db tx)).all (· ∉ others) then E.view db tx else last
  | _ => last

/-- If the next statement is a write that need not wait for `others`, what was read last is fresh. -/
def Prog.Allowed [DecidableEq κ] (E : Engine σ ω κ) (fresh : σ → σ → Prop) (others : List κ)
    (db : σ) (tx : Tx ω κ) (last : σ) : Prog σ ω κ ε α → Prop
  | .write w _ => (E.locks w).all (· ∉ others) = true → fresh last (E.view db tx)
  | _ => True

/-- Sessions on one database: what each has left to do, its open transaction, and what it has read
last (before its first query, the database at the start). -/
structure Sessions (n : Nat) (σ ω κ ε α : Type) where
  db : σ
  prog : Fin n → Prog σ ω κ ε α
  tx : Fin n → Tx ω κ
  read : Fin n → σ

namespace Sessions

variable {n : Nat} {E : Engine σ ω κ}

/-- The locks that the other sessions hold. -/
def others (s : Sessions n σ ω κ ε α) (i : Fin n) : List κ :=
  ((List.finRange n).filter (· ≠ i)).flatMap fun j => (s.tx j).held

/-- The sessions before their first statement. -/
def start (db : σ) (prog : Fin n → Prog σ ω κ ε α) : Sessions n σ ω κ ε α :=
  ⟨db, prog, fun _ => .empty, fun _ => db⟩

/-- The session `i` executes one statement. -/
def step [DecidableEq κ] (E : Engine σ ω κ) (s : Sessions n σ ω κ ε α) (i : Fin n) :
    Sessions n σ ω κ ε α :=
  let r := (s.prog i).step E (s.others i) false s.db (s.tx i)
  ⟨r.2.1, Function.update s.prog i r.1, Function.update s.tx i r.2.2,
    Function.update s.read i ((s.prog i).reads E (s.others i) s.db (s.tx i) (s.read i))⟩

/-- The statement that the session `i` would execute is allowed. -/
def Allowed [DecidableEq κ] (E : Engine σ ω κ) (fresh : σ → σ → Prop) (s : Sessions n σ ω κ ε α)
    (i : Fin n) : Prop :=
  (s.prog i).Allowed E fresh (s.others i) s.db (s.tx i) (s.read i)

instance [DecidableEq κ] {fresh : σ → σ → Prop} [∀ a b, Decidable (fresh a b)] (others : List κ)
    (db : σ) (tx : Tx ω κ) (last : σ) :
    (p : Prog σ ω κ ε α) → Decidable (p.Allowed E fresh others db tx last)
  | .write _ _ => inferInstanceAs (Decidable (_ → _))
  | .ret _ | .raise _ | .select _ | .lock _ _ | .commit _ | .rollback _ => .isTrue trivial

instance [DecidableEq κ] {fresh : σ → σ → Prop} [∀ a b, Decidable (fresh a b)]
    (s : Sessions n σ ω κ ε α) (i : Fin n) : Decidable (s.Allowed E fresh i) :=
  inferInstanceAs
    (Decidable ((s.prog i).Allowed E fresh (s.others i) s.db (s.tx i) (s.read i)))

theorem mem_others {s : Sessions n σ ω κ ε α} {i j : Fin n} (hij : i ≠ j) {key : κ}
    (hkey : key ∈ (s.tx j).held) : key ∈ s.others i :=
  List.mem_flatMap.mpr
    ⟨j, List.mem_filter.mpr ⟨List.mem_finRange j, by simpa using Ne.symm hij⟩, hkey⟩

end Sessions

/-! ## Safe programs -/

namespace Prog

/-- From `db` and `tx` on, whatever `R` steps the others take. -/
def Safe (E : Engine σ ω κ) (R : List κ → σ → σ → Prop) (fresh : σ → σ → Prop)
    (Q : α → σ → Tx ω κ → σ → Prop) (X : ε → σ → Tx ω κ → σ → Prop) :
    Prog σ ω κ ε α → σ → Tx ω κ → σ → Prop
  | ret a, db, tx, last => ∀ db', R tx.held db db' → Q a db' tx last
  | raise e, db, tx, last => ∀ db', R tx.held db db' → X e db' tx last
  | select k, db, tx, last => ∀ db', R tx.held db db' →
    if tx.aborted then Safe E R fresh Q X (k (.error .pendingRollback)) db' tx last
    else Safe E R fresh Q X (k (.ok (E.view db' tx))) db' tx (E.view db' tx)
  | lock keys k, db, tx, last => ∀ db', R tx.held db db' →
    if tx.aborted then Safe E R fresh Q X (k (.error .pendingRollback)) db' tx last
    else Safe E R fresh Q X (k (.ok (E.view db' tx))) db' (tx.hold (keys (E.view db' tx)))
      (E.view db' tx)
  | write w k, db, tx, last => ∀ db', R tx.held db db' →
    if tx.aborted then Safe E R fresh Q X (k (.error .pendingRollback)) db' tx last
    else fresh last (E.view db' tx) →
      if E.accepts w (E.view db' tx) then Safe E R fresh Q X (k (.ok ())) db' (tx.push E w) last
      else Safe E R fresh Q X (k (.error .refused)) db' .dead last
  | commit k, db, tx, last => ∀ db', R tx.held db db' →
    if tx.aborted then Safe E R fresh Q X (k (.error .pendingRollback)) db' tx last
    else (∀ held, held.Disjoint tx.held → R held db' (E.view db' tx)) ∧
      Safe E R fresh Q X (k (.ok ())) (E.view db' tx) .empty last
  | rollback k, db, tx, last => ∀ db', R tx.held db db' →
    Safe E R fresh Q X k db' .empty last

section Rules

variable {E : Engine σ ω κ} {R : List κ → σ → σ → Prop} {fresh : σ → σ → Prop}
  {Q P : α → σ → Tx ω κ → σ → Prop} {S : β → σ → Tx ω κ → σ → Prop}
  {X Y : ε → σ → Tx ω κ → σ → Prop} {db db' last : σ} {tx : Tx ω κ} {e : Fault → ε}
  {p : Prog σ ω κ ε α}

/-- The others may take a step first. -/
theorem Safe.wait (htrans : ∀ held a b c, R held a b → R held b c → R held a c)
    (h : p.Safe E R fresh Q X db tx last) (hR : R tx.held db db') :
    p.Safe E R fresh Q X db' tx last := by
  cases p <;> exact fun db'' h' => h db'' (htrans _ _ _ _ hR h')

theorem safe_pure {a : α} (h : ∀ db', R tx.held db db' → Q a db' tx last) :
    (pure a : Prog σ ω κ ε α).Safe E R fresh Q X db tx last := h

theorem safe_throw {x : ε} (h : ∀ db', R tx.held db db' → X x db' tx last) :
    (throw x : Prog σ ω κ ε α).Safe E R fresh Q X db tx last := h

/-- Both branches of a condition. -/
theorem ite_imp {c A A' B B' : Prop} [Decidable c] (hA : A → A') (hB : B → B')
    (h : if c then A else B) : if c then A' else B' := by
  split_ifs at h ⊢
  · exact hA h
  · exact hB h

/-- One program after the other. The induction is on the first one. -/
theorem safe_bind (hrefl : ∀ held db, R held db db) {f : α → Prog σ ω κ ε β}
    (hf : ∀ a db tx last, P a db tx last → (f a).Safe E R fresh S X db tx last) :
    ∀ {p : Prog σ ω κ ε α} {db : σ} {tx : Tx ω κ} {last : σ}, p.Safe E R fresh P X db tx last →
      (p >>= f).Safe E R fresh S X db tx last
  | ret a, db, _, _, hp => hf a db _ _ (hp db (hrefl _ _))
  | raise _, _, _, _, hp => hp
  | select _, _, _, _, hp => fun db' hR =>
    ite_imp (safe_bind hrefl hf) (safe_bind hrefl hf) (hp db' hR)
  | lock _ _, _, _, _, hp => fun db' hR =>
    ite_imp (safe_bind hrefl hf) (safe_bind hrefl hf) (hp db' hR)
  | write _ _, _, _, _, hp => fun db' hR =>
    ite_imp (safe_bind hrefl hf)
      (fun hw hok => ite_imp (safe_bind hrefl hf) (safe_bind hrefl hf) (hw hok)) (hp db' hR)
  | commit _, _, _, _, hp => fun db' hR =>
    ite_imp (safe_bind hrefl hf) (fun hc => ⟨hc.1, safe_bind hrefl hf hc.2⟩) (hp db' hR)
  | rollback k, _, _, _, hp => fun db' hR => safe_bind (p := k) hrefl hf (hp db' hR)

/-- A program and its handler. The induction is on the program. -/
theorem safe_tryCatch (hrefl : ∀ held db, R held db db) {h : ε → Prog σ ω κ ε α}
    (hh : ∀ e db tx last, Y e db tx last → (h e).Safe E R fresh Q X db tx last) :
    ∀ {p : Prog σ ω κ ε α} {db : σ} {tx : Tx ω κ} {last : σ}, p.Safe E R fresh Q Y db tx last →
      (tryCatch p h).Safe E R fresh Q X db tx last
  | ret _, _, _, _, hp => hp
  | raise e, db, _, _, hp => hh e db _ _ (hp db (hrefl _ _))
  | select _, _, _, _, hp => fun db' hR =>
    ite_imp (safe_tryCatch hrefl hh) (safe_tryCatch hrefl hh) (hp db' hR)
  | lock _ _, _, _, _, hp => fun db' hR =>
    ite_imp (safe_tryCatch hrefl hh) (safe_tryCatch hrefl hh) (hp db' hR)
  | write _ _, _, _, _, hp => fun db' hR =>
    ite_imp (safe_tryCatch hrefl hh)
      (fun hw hok => ite_imp (safe_tryCatch hrefl hh) (safe_tryCatch hrefl hh) (hw hok))
      (hp db' hR)
  | commit _, _, _, _, hp => fun db' hR =>
    ite_imp (safe_tryCatch hrefl hh) (fun hc => ⟨hc.1, safe_tryCatch hrefl hh hc.2⟩) (hp db' hR)
  | rollback k, _, _, _, hp => fun db' hR => safe_tryCatch (p := k) hrefl hh (hp db' hR)

/-- Weaker knowledge at the end. -/
theorem safe_conseq (hQ : ∀ a db tx last, P a db tx last → Q a db tx last)
    (hX : ∀ e db tx last, Y e db tx last → X e db tx last) :
    ∀ {p : Prog σ ω κ ε α} {db : σ} {tx : Tx ω κ} {last : σ}, p.Safe E R fresh P Y db tx last →
      p.Safe E R fresh Q X db tx last
  | ret a, _, _, _, hp => fun db' hR => hQ a db' _ _ (hp db' hR)
  | raise e, _, _, _, hp => fun db' hR => hX e db' _ _ (hp db' hR)
  | select _, _, _, _, hp => fun db' hR =>
    ite_imp (safe_conseq hQ hX) (safe_conseq hQ hX) (hp db' hR)
  | lock _ _, _, _, _, hp => fun db' hR =>
    ite_imp (safe_conseq hQ hX) (safe_conseq hQ hX) (hp db' hR)
  | write _ _, _, _, _, hp => fun db' hR =>
    ite_imp (safe_conseq hQ hX)
      (fun hw hok => ite_imp (safe_conseq hQ hX) (safe_conseq hQ hX) (hw hok)) (hp db' hR)
  | commit _, _, _, _, hp => fun db' hR =>
    ite_imp (safe_conseq hQ hX) (fun hc => ⟨hc.1, safe_conseq hQ hX hc.2⟩) (hp db' hR)
  | rollback k, _, _, _, hp => fun db' hR => safe_conseq (p := k) hQ hX (hp db' hR)

theorem safe_mono (h : ∀ a db tx last, P a db tx last → Q a db tx last)
    (hp : p.Safe E R fresh P X db tx last) : p.Safe E R fresh Q X db tx last :=
  safe_conseq h (fun _ _ _ _ => id) hp

theorem safe_raises (h : ∀ e db tx last, Y e db tx last → X e db tx last)
    (hp : p.Safe E R fresh Q Y db tx last) : p.Safe E R fresh Q X db tx last :=
  safe_conseq (fun _ _ _ _ => id) h hp

theorem safe_query {Q : σ → σ → Tx ω κ → σ → Prop} (ha : tx.aborted = false)
    (h : ∀ db₁ db₂, R tx.held db db₁ → R tx.held db₁ db₂ →
      Q (E.view db₁ tx) db₂ tx (E.view db₁ tx)) :
    (query e).Safe E R fresh Q X db tx last := by
  intro db' hR
  rw [if_neg (by simp [ha])]
  exact fun db'' hR' => h db' db'' hR hR'

theorem safe_exec {w : ω} {Q : Unit → σ → Tx ω κ → σ → Prop} (ha : tx.aborted = false)
    (hacc : ∀ s, E.accepts w s = true)
    (h : ∀ db₁ db₂, R tx.held db db₁ → fresh last (E.view db₁ tx) →
      R (tx.push E w).held db₁ db₂ → Q () db₂ (tx.push E w) last) :
    (exec e w).Safe E R fresh Q X db tx last := by
  intro db' hR
  rw [if_neg (by simp [ha])]
  intro hok
  rw [if_pos (hacc _)]
  exact fun db'' hR' => h db' db'' hR hok hR'

theorem safe_commitTx {Q : Unit → σ → Tx ω κ → σ → Prop} (ha : tx.aborted = false)
    (hgives : ∀ db₁ held, R tx.held db db₁ → held.Disjoint tx.held →
      R held db₁ (E.view db₁ tx))
    (h : ∀ db₁ db₂, R tx.held db db₁ → R [] (E.view db₁ tx) db₂ → Q () db₂ .empty last) :
    (commitTx e).Safe E R fresh Q X db tx last := by
  intro db' hR
  rw [if_neg (by simp [ha])]
  exact ⟨fun held hheld => hgives db' held hR hheld, fun db'' hR' => h db' db'' hR hR'⟩

theorem safe_reset {Q : Unit → σ → Tx ω κ → σ → Prop}
    (h : ∀ db₁ db₂, R tx.held db db₁ → R [] db₁ db₂ → Q () db₂ .empty last) :
    (reset : Prog σ ω κ ε Unit).Safe E R fresh Q X db tx last :=
  fun db' hR db'' hR' => h db' db'' hR hR'

/-- A postcondition that holds however the others go on after the session is closed. -/
def Closed (R : List κ → σ → σ → Prop) (P : α → σ → Prop) (a : α) (db : σ) (_ : Tx ω κ) (_ : σ) :
    Prop :=
  ∀ db', R [] db db' → P a db'

/-- What one statement of a safe program does: the rest is safe, the others see an `R` step, and
a new lock is one that nobody else held. -/
theorem Safe.step [DecidableEq κ] (hrefl : ∀ held db, R held db db)
    (htrans : ∀ held a b c, R held a b → R held b c → R held a c) {others : List κ}
    {P : α → σ → Prop} {Y : ε → σ → Prop} (hp : p.Safe E R fresh (Closed R P) (Closed R Y) db tx last)
    (hok : p.Allowed E fresh others db tx last) :
    (p.step E others false db tx).1.Safe E R fresh (Closed R P) (Closed R Y)
        (p.step E others false db tx).2.1 (p.step E others false db tx).2.2
        (p.reads E others db tx last) ∧
      (∀ held, held.Disjoint tx.held → R held db (p.step E others false db tx).2.1) ∧
      ∀ key ∈ (p.step E others false db tx).2.2.held, key ∈ tx.held ∨ key ∉ others := by
  have hstay : ∀ held : List κ, held.Disjoint tx.held → R held db db := fun _ _ => hrefl _ _
  have hkeep : ∀ key ∈ tx.held, key ∈ tx.held ∨ key ∉ others := fun _ hkey => .inl hkey
  have hnone : ∀ key ∈ ([] : List κ), key ∈ tx.held ∨ key ∉ others := fun _ hkey =>
    absurd hkey List.not_mem_nil
  have hnew : ∀ keys : List κ, keys.all (· ∉ others) = true →
      ∀ key ∈ keys ++ tx.held, key ∈ tx.held ∨ key ∉ others := by
    intro keys hfree key hkey
    rcases List.mem_append.mp hkey with hkey | hkey
    · exact .inr (by simpa using List.all_eq_true.mp hfree key hkey)
    · exact .inl hkey
  cases p with
  | ret a =>
    refine ⟨fun db' hR db'' hR' => ?_, hstay, hnone⟩
    exact hp db (hrefl _ _) db'' (htrans _ _ _ _ hR hR')
  | raise x =>
    refine ⟨fun db' hR db'' hR' => ?_, hstay, hnone⟩
    exact hp db (hrefl _ _) db'' (htrans _ _ _ _ hR hR')
  | select k =>
    have hk := hp db (hrefl _ _)
    simp only [Prog.step, Prog.reads, Bool.false_eq_true, if_false]
    split at hk <;> rename_i ha
    · rw [if_pos ha, if_pos ha]
      exact ⟨hk, hstay, hkeep⟩
    · rw [if_neg ha, if_neg ha]
      exact ⟨hk, hstay, hkeep⟩
  | lock keys k =>
    have hk := hp db (hrefl _ _)
    simp only [Prog.step, Prog.reads, Bool.false_eq_true, if_false]
    split at hk <;> rename_i ha
    · rw [if_pos ha, if_pos ha]
      exact ⟨hk, hstay, hkeep⟩
    · rw [if_neg ha, if_neg ha]
      by_cases hfree : (keys (E.view db tx)).all (· ∉ others) = true
      · rw [if_pos hfree, if_pos hfree]
        exact ⟨hk, hstay, hnew _ hfree⟩
      · rw [if_neg hfree, if_neg hfree]
        exact ⟨hp, hstay, hkeep⟩
  | write w k =>
    have hk := hp db (hrefl _ _)
    simp only [Prog.step, Bool.false_eq_true, if_false]
    split at hk <;> rename_i ha
    · rw [if_pos ha]
      exact ⟨hk, hstay, hkeep⟩
    · rw [if_neg ha]
      by_cases hfree : (E.locks w).all (· ∉ others) = true
      · rw [if_pos hfree]
        have hw := hk (hok hfree)
        split at hw <;> rename_i hacc
        · rw [if_pos hacc]
          exact ⟨hw, hstay, hnew _ hfree⟩
        · rw [if_neg hacc]
          exact ⟨hw, hstay, hnone⟩
      · rw [if_neg hfree]
        exact ⟨hp, hstay, hkeep⟩
  | commit k =>
    have hk := hp db (hrefl _ _)
    simp only [Prog.step, Bool.false_eq_true, if_false]
    split at hk <;> rename_i ha
    · rw [if_pos ha]
      exact ⟨hk, hstay, hkeep⟩
    · rw [if_neg ha]
      exact ⟨hk.2, hk.1, hnone⟩
  | rollback k => exact ⟨hp db (hrefl _ _), hstay, hnone⟩

end Rules

end Prog

/-! ## All sessions -/

section Run

variable {n : Nat} {E : Engine σ ω κ} {R : List κ → σ → σ → Prop}
  {fresh : σ → σ → Prop} {P : Fin n → α → σ → Prop} {Y : Fin n → ε → σ → Prop}
  {s : Sessions n σ ω κ ε α}

/-- All sessions are safe, and no two hold the same lock. -/
structure Guarded (E : Engine σ ω κ) (R : List κ → σ → σ → Prop) (fresh : σ → σ → Prop)
    (P : Fin n → α → σ → Prop) (Y : Fin n → ε → σ → Prop) (s : Sessions n σ ω κ ε α) : Prop where
  safe : ∀ i, (s.prog i).Safe E R fresh (Prog.Closed R (P i)) (Prog.Closed R (Y i)) s.db (s.tx i)
    (s.read i)
  apart : ∀ i j, i ≠ j → (s.tx i).held.Disjoint (s.tx j).held

theorem Guarded.start {db : σ} {prog : Fin n → Prog σ ω κ ε α}
    (h : ∀ i, (prog i).Safe E R fresh (Prog.Closed R (P i)) (Prog.Closed R (Y i)) db .empty
      db) :
    Guarded E R fresh P Y (.start db prog) :=
  ⟨h, fun _ _ _ _ hkey => absurd hkey List.not_mem_nil⟩

variable [DecidableEq κ]

/-- **A statement of one session.** -/
theorem Guarded.step (hrefl : ∀ held db, R held db db)
    (htrans : ∀ held a b c, R held a b → R held b c → R held a c)
    (h : Guarded E R fresh P Y s) {i : Fin n} (hok : s.Allowed E fresh i) :
    Guarded E R fresh P Y (s.step E i) := by
  obtain ⟨hsafe, hothers, hlocks⟩ := (h.safe i).step hrefl htrans hok
  constructor
  · intro j
    simp only [Sessions.step]
    by_cases hj : j = i
    · subst hj
      rw [Function.update_self, Function.update_self, Function.update_self]
      exact hsafe
    · rw [Function.update_of_ne hj, Function.update_of_ne hj, Function.update_of_ne hj]
      exact (h.safe j).wait htrans (hothers _ (h.apart j i hj))
  · -- a lock that `i` takes is one that no other session holds
    have hnew : ∀ j, j ≠ i →
        ((s.prog i).step E (s.others i) false s.db (s.tx i)).2.2.held.Disjoint (s.tx j).held := by
      intro j hj key hkey hkey'
      rcases hlocks key hkey with hold | hfree
      · exact h.apart j i hj hkey' hold
      · exact hfree (Sessions.mem_others (Ne.symm hj) hkey')
    intro j k hjk
    simp only [Sessions.step]
    by_cases hj : j = i
    · subst hj
      rw [Function.update_self, Function.update_of_ne (Ne.symm hjk)]
      exact hnew k (Ne.symm hjk)
    · by_cases hk : k = i
      · subst hk
        rw [Function.update_self, Function.update_of_ne hj]
        exact fun key hkey hkey' => hnew j hj hkey' hkey
      · rw [Function.update_of_ne hj, Function.update_of_ne hk]
        exact h.apart j k hjk

/-- **Sessions that have ended in an allowed run have ended in their postconditions.** -/
theorem Guarded.run (hrefl : ∀ held db, R held db db)
    (htrans : ∀ held a b c, R held a b → R held b c → R held a c)
    (h : Guarded E R fresh P Y s) {ls : List (Fin n)}
    (hok : Run.Meets (Sessions.step E) (Sessions.Allowed E fresh) s ls) {i : Fin n} {a : α}
    (hret : (Run.exec (Sessions.step E) s ls).prog i = .ret a) :
    P i a (Run.exec (Sessions.step E) s ls).db := by
  have hstep : ∀ (s : Sessions n σ ω κ ε α) (i : Fin n), Guarded E R fresh P Y s →
      s.Allowed E fresh i → Guarded E R fresh P Y (s.step E i) :=
    fun _ _ hs hl => hs.step hrefl htrans hl
  have hend := Run.exec_inv hstep h hok
  have hi := hend.safe i
  rw [hret] at hi
  exact hi _ (hrefl _ _) _ (hrefl _ _)

end Run

end Session
