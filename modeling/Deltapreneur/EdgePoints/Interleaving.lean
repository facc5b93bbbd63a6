import Deltapreneur.Lib.Run
import Deltapreneur.EdgePoints.Wallet

/-!
# Concurrent calls on the Edge-points wallets

Any number of calls of `_award_referrer_points`, of order creation (`calculate_redemption`, then
`create_pending_redemption`), of `confirm_redemption` and of `cancel_redemption`, interleaved at
their database steps (`app/service/user/edge_points_service.py:201-229, 497-589`). None of them
locks a row.

* A reward loads the referrer, then commits.
* An order uses the balance of the user object that authentication loaded, reads the sum of the
  pending redemptions, and inserts its redemption once Razorpay has answered with an order id.
* A confirmation reads the pending redemption, loads its user, and commits status, balance and
  history together.
* A cancellation reads the pending redemption, then commits its status.

Results:

* `wallet_consistent`: then in every state reached, balances equal histories, they cover the
  pending redemptions, and no pending redemption would be clamped.
* `concurrent_awards_lose_update`: two rewards at once lose one of them.
-/

namespace Deltapreneur.EdgePoints

/-! ## State -/

/-- Where a call stands, with what it has read. -/
inductive Call
  | idle
  | awarding (user : UserId) (points loaded : Nat)
  /-- The order's user is loaded. -/
  | ordering (user : UserId) (amount : Paise) (loaded : Nat)
  /-- The pending sum is read too; the discount is fixed. -/
  | reserving (user : UserId) (amount : Paise) (loaded pending : Nat)
  /-- The pending redemption is read. -/
  | confirming (r : Redemption)
  /-- The owner of the redemption is loaded too. -/
  | debiting (r : Redemption) (loaded : Nat)
  | cancelling (order : OrderId)
  deriving Repr

/-- The committed tables and the calls in flight. -/
structure State where
  db : Wallets
  calls : Nat → Call

/-- Empty wallets, no call in flight. -/
def State.init : State := ⟨.empty, fun _ => .idle⟩

/-- No call is mid-flight. -/
def State.Quiet (s : State) : Prop := ∀ k, s.calls k = .idle

/-! ## Steps -/

inductive Label
  | awardLoad (call : Nat) (user : UserId) (points : Nat)
  | awardCommit (call : Nat)
  | orderLoad (call : Nat) (user : UserId) (amount : Paise)
  | orderPending (call : Nat)
  | orderCommit (call : Nat) (order : OrderId)
  | confirmRead (call : Nat) (order : OrderId)
  | confirmLoad (call : Nat)
  | confirmCommit (call : Nat)
  | cancelRead (call : Nat) (order : OrderId)
  | cancelCommit (call : Nat)
  deriving Repr

def State.setCall (s : State) (k : Nat) (c : Call) : State :=
  { s with calls := Function.update s.calls k c }

/-- A call commits `db` and returns. -/
def State.finish (s : State) (k : Nat) (db : Wallets) : State :=
  ⟨db, Function.update s.calls k .idle⟩

/-- Start call `k` if it is free. -/
def State.start (s : State) (k : Nat) (c : Call) : State :=
  match s.calls k with
  | .idle => s.setCall k c
  | _ => s

def step (s : State) : Label → State
  | .awardLoad k user points => s.start k (.awarding user points (s.db.edgePoints user))
  | .awardCommit k =>
    match s.calls k with
    | .awarding user points loaded => s.finish k (s.db.commitAward user points loaded)
    | _ => s
  | .orderLoad k user amount => s.start k (.ordering user amount (s.db.edgePoints user))
  | .orderPending k =>
    match s.calls k with
    | .ordering user amount loaded =>
      s.setCall k (.reserving user amount loaded (s.db.pending user))
    | _ => s
  | .orderCommit k order =>
    match s.calls k with
    | .reserving user amount loaded pending =>
      s.finish k (s.db.createPendingRedemption user order
        (calculateRedemption loaded pending amount true).2)
    | _ => s
  | .confirmRead k order =>
    match s.db.pendingRedemption order with
    | some r => s.start k (.confirming r)
    | none => s
  | .confirmLoad k =>
    match s.calls k with
    | .confirming r => s.setCall k (.debiting r (s.db.edgePoints r.userId))
    | _ => s
  | .confirmCommit k =>
    match s.calls k with
    | .debiting r loaded => s.finish k (s.db.commitConfirm r loaded)
    | _ => s
  | .cancelRead k order =>
    match s.db.pendingRedemption order with
    | some _ => s.start k (.cancelling order)
    | none => s
  | .cancelCommit k =>
    match s.calls k with
    | .cancelling order => s.finish k (s.db.commitStatus order .failed)
    | _ => s

/-! ## Consistency -/

/-- Balances equal histories and cover the pending redemptions, so that confirming any of these
would not be clamped. -/
def Wallets.Consistent (w : Wallets) : Prop :=
  (∀ u, (w.edgePoints u : Int) = w.earned u) ∧ (∀ u, w.pending u ≤ w.edgePoints u) ∧
    ∀ r ∈ w.redemptions, r.status = .pending → r.points ≤ w.edgePoints r.userId

theorem Balanced.consistent {w : Wallets} (h : Balanced w) : w.Consistent :=
  ⟨h.sum, h.covered, fun _ hr hst => h.points_le hr hst⟩

/-- What the call read still holds when it commits: the balance a reward or a confirmation
writes over is the committed one, a redemption to confirm is still pending, and the points an
order found available are still available. -/
def Call.Fresh (db : Wallets) : Call → Prop
  | .awarding user _ loaded => loaded = db.edgePoints user
  | .reserving user _ loaded pending =>
    loaded - pending ≤ db.edgePoints user - db.pending user
  | .debiting r loaded =>
    loaded = db.edgePoints r.userId ∧ db.pendingRedemption r.orderId = some r
  | _ => True

instance (db : Wallets) : (c : Call) → Decidable (c.Fresh db)
  | .awarding _ _ _ => inferInstanceAs (Decidable (_ = _))
  | .reserving _ _ _ _ => inferInstanceAs (Decidable (_ ≤ _))
  | .debiting _ _ => inferInstanceAs (Decidable (_ ∧ _))
  | .idle | .ordering _ _ _ | .confirming _ | .cancelling _ => .isTrue trivial

/-- The condition on a step: a committing call is fresh. -/
def Fresh (s : State) : Label → Prop
  | .awardCommit k | .orderCommit k _ | .confirmCommit k => (s.calls k).Fresh s.db
  | _ => True

instance (s : State) : (l : Label) → Decidable (Fresh s l)
  | .awardCommit k | .orderCommit k _ | .confirmCommit k =>
    inferInstanceAs (Decidable ((s.calls k).Fresh s.db))
  | .awardLoad _ _ _ | .orderLoad _ _ _ | .orderPending _ | .confirmRead _ _ | .confirmLoad _
  | .cancelRead _ _ | .cancelCommit _ => .isTrue trivial

@[simp] theorem start_db (s : State) (k : Nat) (c : Call) : (s.start k c).db = s.db := by
  unfold State.start
  split <;> rfl

/-- **Every fresh step keeps the wallets balanced.** -/
theorem balanced_step (s : State) (l : Label) (h : Balanced s.db) (hok : Fresh s l) :
    Balanced (step s l).db := by
  cases l with
  | awardLoad k user points => rwa [step, start_db]
  | awardCommit k =>
    simp only [step]
    split
    · next user points loaded hk =>
      simp only [Fresh, hk] at hok
      exact balanced_commitAward h hok
    · exact h
  | orderLoad k user amount => rwa [step, start_db]
  | orderPending k =>
    simp only [step]
    split <;> exact h
  | orderCommit k order =>
    simp only [step]
    split
    · next user amount loaded pending hk =>
      simp only [Fresh, hk] at hok
      have hcalc := calculateRedemption_le_available loaded pending amount true
      exact balanced_createPendingRedemption h (hcalc.trans hok)
    · exact h
  | confirmRead k order =>
    simp only [step]
    split
    · rwa [start_db]
    · exact h
  | confirmLoad k =>
    simp only [step]
    split <;> exact h
  | confirmCommit k =>
    simp only [step]
    split
    · next r loaded hk =>
      simp only [Fresh, hk] at hok
      obtain ⟨hloaded, hpend⟩ := hok
      obtain ⟨hmem, -, hst⟩ := pendingRedemption_eq_some hpend
      exact balanced_commitConfirm h hmem hst hloaded
    · exact h
  | cancelRead k order =>
    simp only [step]
    split
    · rwa [start_db]
    · exact h
  | cancelCommit k =>
    -- a cancellation that comes late only takes back a status, never points
    simp only [step]
    split
    · exact balanced_commitStatus h (by decide)
    · exact h

/-- **No double spend and no lost update.** In every interleaving whose commits are fresh, and
so in every state without a call mid-flight, the wallets are consistent. -/
theorem wallet_consistent (ls : List Label) (h : Run.Meets step Fresh .init ls) :
    (Run.exec step .init ls).db.Consistent := by
  have hinit : Balanced State.init.db := balanced_empty
  exact (Run.exec_inv (P := fun s => Balanced s.db) balanced_step hinit h).consistent

/-- A reward, an order that redeems it, and its confirmation while another order is opened and
given up. -/
def spendRun : List Label :=
  [.awardLoad 0 1 20, .awardCommit 0, .orderLoad 0 1 100, .orderPending 0, .orderCommit 0 7,
    .orderLoad 1 1 100, .confirmRead 2 7, .orderPending 1, .orderCommit 1 8, .confirmLoad 2,
    .confirmCommit 2, .cancelRead 3 8, .cancelCommit 3]

theorem wallet_consistent_spendRun :
    Run.Meets step Fresh .init spendRun ∧ (Run.exec step .init spendRun).db.Consistent :=
  ⟨by decide, wallet_consistent spendRun (by decide)⟩

/-- Two visitors bring user 1 a reward at the same time. -/
def concurrentAwards : List Label :=
  [.awardLoad 0 1 20, .awardLoad 1 1 20, .awardCommit 0, .awardCommit 1]

/-- **Two rewards at once lose one of them.** Both calls have returned, the history holds 40
points and the balance 20. -/
theorem concurrent_awards_lose_update :
    (Run.exec step .init concurrentAwards).Quiet ∧
      ¬ (Run.exec step .init concurrentAwards).db.Consistent := by
  constructor
  · intro k
    simp only [concurrentAwards, Run.exec_cons, Run.exec_nil, step, State.start, State.init,
      State.setCall, State.finish]
    by_cases h0 : k = 0
    · subst h0; rfl
    · by_cases h1 : k = 1
      · subst h1; rfl
      · simp [h0, h1]
  · rintro ⟨hsum, -⟩
    exact absurd (hsum 1) (by decide)

end Deltapreneur.EdgePoints
