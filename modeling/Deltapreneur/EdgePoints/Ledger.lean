import Deltapreneur.EdgePoints.Wallet

/-!
# What the history of a wallet says about an order

A redemption is paid when `confirm_redemption` books its points in the history. Whole calls, one
after another, keep the books in order (`Ledger`): a completed redemption is booked exactly once, one
that is pending or cancelled not at all.

* `WalletStep` lists what a service call can do to the wallets; `cancels` says which redemptions
  it may cancel.

Results:

* `ledger_step`: every step keeps the books.
* `WalletStep.kept`: a redemption that no step cancels is never `FAILED`.
* `debited_of_confirmed`: once a kept redemption is confirmed, its points are debited, exactly
  once.
-/

namespace Deltapreneur.EdgePoints

variable {w w' : Wallets} {user : UserId} {order o : OrderId} {points : Nat} {r : Redemption}
  {status : RedemptionStatus}

def Wallets.redemption (w : Wallets) (order : OrderId) : Option Redemption :=
  Table.lookup Redemption.orderId order w.redemptions

/-- The history of an order. -/
def Wallets.booked (w : Wallets) (order : OrderId) : List HistoryEntry :=
  w.history.filter fun e => e.orderId = some order

def Redemption.debit (r : Redemption) : HistoryEntry := ⟨r.userId, -r.points, some r.orderId⟩

/-- The history an order should have. -/
def Wallets.due (w : Wallets) (order : OrderId) : List HistoryEntry :=
  match w.redemption order with
  | some r => if r.status = .completed then [r.debit] else []
  | none => []

/-- The books are in order. -/
structure Ledger (w : Wallets) : Prop extends Balanced w where
  books : ∀ order, w.booked order = w.due order

theorem redemption_eq_some (h : w.redemption order = some r) :
    r ∈ w.redemptions ∧ r.orderId = order :=
  Table.lookup_eq_some h

theorem pendingRedemption_eq_redemption (h : w.redemption order = some r) :
    w.pendingRedemption order = if r.status = .pending then some r else none := by
  unfold Wallets.pendingRedemption
  rw [show Table.lookup Redemption.orderId order w.redemptions = some r from h]
  by_cases hs : r.status = .pending
  · simp [hs, Option.filter]
  · simp [hs, Option.filter]

theorem redemption_of_pending (h : w.pendingRedemption order = some r) :
    w.redemption order = some r ∧ r.status = .pending := by
  unfold Wallets.pendingRedemption at h
  rw [Option.filter_eq_some_iff] at h
  exact ⟨h.1, by simpa using h.2⟩

theorem redemption_commitStatus_self :
    (w.commitStatus order status).redemption order =
      (w.redemption order).map (.withStatus status) := by
  have hkey : ∀ r : Redemption, (r.withStatus status).orderId = r.orderId := fun _ => rfl
  exact Table.lookup_update_self hkey w.redemptions

theorem redemption_commitStatus_ne (h : o ≠ order) :
    (w.commitStatus order status).redemption o = w.redemption o := by
  have hkey : ∀ r : Redemption, (r.withStatus status).orderId = r.orderId := fun _ => rfl
  exact Table.lookup_update_ne h hkey w.redemptions

theorem redemption_cons_self :
    { w with redemptions := r :: w.redemptions }.redemption r.orderId = some r := by
  simp [Wallets.redemption, Table.lookup]

theorem redemption_cons_ne (h : o ≠ r.orderId) :
    { w with redemptions := r :: w.redemptions }.redemption o = w.redemption o := by
  simp only [Wallets.redemption, Table.lookup]
  rw [List.find?_cons_of_neg (by simpa using Ne.symm h)]

/-! ## Steps -/

/-- What a service call does to the wallets. -/
inductive WalletStep (cancels : OrderId → Prop) (w : Wallets) : Wallets → Prop
  | same : WalletStep cancels w w
  | award (user : UserId) (points : Nat) :
      WalletStep cancels w (w.awardReferrerPoints user points)
  | reserve (user : UserId) (order : OrderId) (points : Nat)
      (havail : points ≤ w.edgePoints user - w.pending user) :
      WalletStep cancels w (w.createPendingRedemption user order points)
  | confirm (order : OrderId) : WalletStep cancels w (w.confirmRedemption order)
  | cancel (order : OrderId) (h : cancels order) :
      WalletStep cancels w (w.cancelRedemption order)

variable {cancels : OrderId → Prop}

theorem WalletStep.of_eq (h : w' = w) : WalletStep cancels w w' := h ▸ .same

theorem WalletStep.of_confirm (h : w' = w.confirmRedemption order) : WalletStep cancels w w' :=
  h ▸ .confirm order

theorem ledger_empty : Ledger .empty := ⟨balanced_empty, fun _ => rfl⟩

theorem due_congr (h : w'.redemption o = w.redemption o) : w'.due o = w.due o := by
  unfold Wallets.due
  rw [h]

theorem ledger_award (h : Ledger w) : Ledger (w.awardReferrerPoints user points) where
  toBalanced := balanced_commitAward h.toBalanced rfl
  books o := by
    have hsame : (w.awardReferrerPoints user points).booked o = w.booked o := by
      simp [Wallets.booked, Wallets.awardReferrerPoints, Wallets.commitAward]
    rw [hsame, h.books o]
    exact (due_congr rfl).symm

theorem ledger_reserve (h : Ledger w) (havail : points ≤ w.edgePoints user - w.pending user) :
    Ledger (w.createPendingRedemption user order points) where
  toBalanced := balanced_createPendingRedemption h.toBalanced havail
  books o := by
    have hbooks := h.books o
    unfold Wallets.createPendingRedemption
    split_ifs with hzero hdup
    · exact hbooks
    · exact hbooks
    · change w.booked o = _
      rw [hbooks]
      by_cases ho : o = order
      · subst ho
        have hnone : w.redemption o = none := by simpa [Wallets.redemption] using hdup
        rw [Wallets.due, hnone, Wallets.due, redemption_cons_self]
        rfl
      · exact (due_congr (redemption_cons_ne ho)).symm

theorem ledger_cancel (h : Ledger w) : Ledger (w.cancelRedemption order) := by
  unfold Wallets.cancelRedemption
  split
  · next r hpend =>
    obtain ⟨hrow, hst⟩ := redemption_of_pending hpend
    refine ⟨balanced_commitStatus h.toBalanced (by decide), fun o => ?_⟩
    change w.booked o = _
    rw [h.books o]
    by_cases ho : o = order
    · subst ho
      simp [Wallets.due, redemption_commitStatus_self, hrow, Redemption.withStatus, hst]
    · exact (due_congr (redemption_commitStatus_ne ho)).symm
  · exact h

theorem redemption_commitConfirm {loaded : Nat} :
    (w.commitConfirm r loaded).redemption o = (w.commitStatus r.orderId .completed).redemption o :=
  rfl

/-- A row that is pending becomes completed, and is booked. -/
theorem ledger_confirm (h : Ledger w) : Ledger (w.confirmRedemption order) := by
  unfold Wallets.confirmRedemption
  split
  · next r hpend =>
    obtain ⟨hrow, hst⟩ := redemption_of_pending hpend
    obtain ⟨hmem, rfl⟩ := redemption_eq_some hrow
    refine ⟨balanced_commitConfirm h.toBalanced hmem hst rfl, fun o => ?_⟩
    by_cases ho : o = r.orderId
    · subst ho
      have hbefore : w.booked r.orderId = [] := by
        rw [h.books, Wallets.due, hrow]
        simp [hst]
      have hafter : (w.commitConfirm r (w.edgePoints r.userId)).booked r.orderId =
          r.debit :: w.booked r.orderId := by
        simp [Wallets.booked, Wallets.commitConfirm, Redemption.debit]
      rw [hafter, hbefore, Wallets.due, redemption_commitConfirm, redemption_commitStatus_self, hrow]
      rfl
    · have hafter : (w.commitConfirm r (w.edgePoints r.userId)).booked o = w.booked o := by
        simp [Wallets.booked, Wallets.commitConfirm, Ne.symm ho]
      rw [hafter, h.books]
      refine (due_congr ?_).symm
      rw [redemption_commitConfirm, redemption_commitStatus_ne ho]
  · exact h

/-- **Every step keeps the books.** -/
theorem ledger_step (h : Ledger w) (hs : WalletStep cancels w w') : Ledger w' := by
  cases hs with
  | same => exact h
  | award user points => exact ledger_award h
  | reserve user order points havail => exact ledger_reserve h havail
  | confirm order => exact ledger_confirm h
  | cancel order _ => exact ledger_cancel h

/-! ## Redemptions that are not cancelled -/

/-- The redemption of `o`, if there is one, is not `FAILED`. -/
def Kept (o : OrderId) (w : Wallets) : Prop := ∀ r, w.redemption o = some r → r.status ≠ .failed

theorem kept_commitStatus (h : Kept o w) (hs : o = order → status ≠ .failed) :
    Kept o (w.commitStatus order status) := by
  intro r hr
  by_cases ho : o = order
  · subst ho
    rw [redemption_commitStatus_self, Option.map_eq_some_iff] at hr
    obtain ⟨r, -, rfl⟩ := hr
    exact hs rfl
  · rw [redemption_commitStatus_ne ho] at hr
    exact h r hr

/-- **A pending redemption that a step does not cancel is kept.** -/
theorem WalletStep.kept (hs : WalletStep cancels w w') (h : Kept o w)
    (hno : (w.pendingRedemption o).isSome = true → ¬ cancels o) : Kept o w' := by
  cases hs with
  | same => exact h
  | award user points => exact h
  | reserve user order points havail =>
    intro r hr
    unfold Wallets.createPendingRedemption at hr
    split_ifs at hr
    · exact h r hr
    · exact h r hr
    · by_cases ho : o = order
      · subst ho
        rw [redemption_cons_self] at hr
        cases hr
        simp
      · rw [redemption_cons_ne ho] at hr
        exact h r hr
  | confirm order =>
    unfold Wallets.confirmRedemption
    split
    · intro r hr
      exact kept_commitStatus h (fun _ => by decide) r hr
    · exact h
  | cancel order hc =>
    unfold Wallets.cancelRedemption
    split
    · next hpend =>
      refine kept_commitStatus h fun ho => ?_
      subst ho
      exact absurd hc (hno (by rw [hpend]; rfl))
    · exact h

/-! ## Debits -/

/-- The points of the redemption are debited from its owner for the order, exactly once. -/
structure Debited (w : Wallets) (r : Redemption) : Prop where
  once : w.booked r.orderId = [r.debit]
  sum : (w.edgePoints r.userId : Int) = w.earned r.userId

theorem Ledger.debited (h : Ledger w) {s : RedemptionStatus}
    (hrow : w.redemption r.orderId = some (r.withStatus s)) (hs : s = .completed) :
    Debited w r where
  once := by
    subst hs
    rw [h.books, Wallets.due, hrow]
    rfl
  sum := h.sum r.userId

/-- **Confirming a redemption that is kept debits it, exactly once**, whether it was pending or had
been confirmed before. -/
theorem debited_of_confirmed (h : Ledger w) (hrow : w.redemption o = some r)
    (hkept : r.status ≠ .failed) : Debited (w.confirmRedemption o) r := by
  obtain ⟨hmem, rfl⟩ := redemption_eq_some hrow
  have hledger : Ledger (w.confirmRedemption r.orderId) := ledger_confirm h
  have hpend := pendingRedemption_eq_redemption hrow
  cases hst : r.status with
  | failed => exact absurd hst hkept
  | pending =>
    rw [if_pos hst] at hpend
    refine hledger.debited (s := .completed) ?_ rfl
    simp only [Wallets.confirmRedemption, hpend]
    rw [redemption_commitConfirm, redemption_commitStatus_self, hrow]
    rfl
  | completed =>
    rw [if_neg (by simp [hst])] at hpend
    refine hledger.debited (s := .completed) ?_ rfl
    simp only [Wallets.confirmRedemption, hpend, hrow]
    rw [← hst]
    rfl

end Deltapreneur.EdgePoints
