import Mathlib.Algebra.Order.BigOperators.Group.List
import Mathlib.Algebra.Order.Group.Nat
import Deltapreneur.Core
import Deltapreneur.Lib.Table
import Deltapreneur.Lib.UnitOfWork

/-!
# The Edge-points wallet

Model of `EdgePointsService` (`app/service/user/edge_points_service.py:201-229, 497-589`) and of
the three tables it writes: `AppUser.edge_points`, `EdgePointsHistory` and
`EdgePointsRedemption` (unique in `razorpay_order_id`).

* A balance starts at zero, grows by rewards and shrinks by `max(0, …)`, so it is a natural
  number and the clamp is truncated subtraction.
* Ten points are one rupee: a point is ten paise. `round` rounds half to even.
* Every writing function comes in two layers. `commitAward`, `commitConfirm` and `commitStatus`
  say what a session commits that has loaded some value of the balance earlier, which need not
  be the committed one any more. `awardReferrerPoints`, `confirmRedemption` and
  `cancelRedemption` are whole calls that nothing disturbs.
* A history entry carries the order it was written for, which the source keeps in the
  description only.

Results:

* `Balanced`: the balance is the sum of the history and covers the pending redemptions.
* `balanced_commitAward`, `balanced_createPendingRedemption`, `balanced_commitConfirm`,
  `balanced_commitStatus`: each commit keeps it when what it read still holds.
* `redeemable_le_available`: an order never redeems more than is available.
-/

namespace Deltapreneur.EdgePoints

open UnitOfWork

/-! ## Tables -/

/-- `RedemptionStatus`. -/
inductive RedemptionStatus
  | pending | completed | failed
  deriving Repr, DecidableEq

/-- `EdgePointsRedemption`. -/
structure Redemption where
  orderId : OrderId
  userId : UserId
  points : Nat
  status : RedemptionStatus
  deriving Repr, DecidableEq

/-- `EdgePointsHistory`; `orderId` names the order of a redemption. -/
structure HistoryEntry where
  userId : UserId
  points : Int
  orderId : Option OrderId
  deriving Repr, DecidableEq

/-- The committed tables. -/
structure Wallets where
  edgePoints : UserId → Nat
  history : List HistoryEntry
  redemptions : List Redemption

def Wallets.empty : Wallets := ⟨fun _ => 0, [], []⟩

/-- What a redemption row reserves of the wallet of `u`. -/
def Redemption.reserved (u : UserId) (r : Redemption) : Nat :=
  if r.userId = u ∧ r.status = .pending then r.points else 0

/-- What a history row adds to the wallet of `u`. -/
def HistoryEntry.credit (u : UserId) (e : HistoryEntry) : Int :=
  if e.userId = u then e.points else 0

/-- `SELECT sum(edge_points_redeemed) … status = PENDING`. -/
def Wallets.pending (w : Wallets) (u : UserId) : Nat := (w.redemptions.map (·.reserved u)).sum

/-- The sum of the user's `EdgePointsHistory.points`. -/
def Wallets.earned (w : Wallets) (u : UserId) : Int := (w.history.map (·.credit u)).sum

/-- `SELECT … razorpay_order_id = order AND status = PENDING`. -/
def Wallets.pendingRedemption (w : Wallets) (order : OrderId) : Option Redemption :=
  (Table.lookup Redemption.orderId order w.redemptions).filter fun r => r.status = .pending

/-! ## Computing a discount -/

/-- `int(round(order_amount_inr * 10))`: the amount in points, rounded half to even. -/
def amountInPoints (amount : Paise) : Nat :=
  if amount % 10 < 5 ∨ (amount % 10 = 5 ∧ amount / 10 % 2 = 0) then amount / 10
  else amount / 10 + 1

/-- `max_points_redeemable`: at most 5000 points, what is available, and the amount. -/
def redeemable (edgePoints pending : Nat) (amount : Paise) : Nat :=
  min 5000 (min (edgePoints - pending) (amountInPoints amount))

/-- `calculate_redemption`: the amount left to pay and the points redeemed. -/
def calculateRedemption (edgePoints pending : Nat) (amount : Paise) (requested : Bool) :
    Paise × Nat :=
  if requested = false ∨ amount = 0 then (amount, 0)
  else if edgePoints - pending = 0 then (amount, 0)
  else (amount - 10 * redeemable edgePoints pending amount, redeemable edgePoints pending amount)

theorem redeemable_le_available (edgePoints pending : Nat) (amount : Paise) :
    redeemable edgePoints pending amount ≤ edgePoints - pending :=
  (min_le_right _ _).trans (min_le_left _ _)

theorem calculateRedemption_le_available (edgePoints pending : Nat) (amount : Paise)
    (requested : Bool) :
    (calculateRedemption edgePoints pending amount requested).2 ≤ edgePoints - pending := by
  unfold calculateRedemption
  split_ifs
  · exact Nat.zero_le _
  · exact Nat.zero_le _
  · exact redeemable_le_available edgePoints pending amount

/-! ## Commits -/

/-- The commit of `_award_referrer_points` by a session that loaded the balance `loaded`. -/
def Wallets.commitAward (w : Wallets) (user : UserId) (points loaded : Nat) : Wallets :=
  { w with
    edgePoints := Function.update w.edgePoints user
      (flushColumn loaded (loaded + points) (w.edgePoints user))
    history := ⟨user, points, none⟩ :: w.history }

/-- `create_pending_redemption`: nothing for zero points; the unique order id refuses a second
row. -/
def Wallets.createPendingRedemption (w : Wallets) (user : UserId) (order : OrderId)
    (points : Nat) : Wallets :=
  if points = 0 then w
  else if (Table.lookup Redemption.orderId order w.redemptions).isSome then w
  else { w with redemptions := ⟨order, user, points, .pending⟩ :: w.redemptions }

/-- `redemption.status = status`. -/
def Redemption.withStatus (status : RedemptionStatus) (r : Redemption) : Redemption :=
  { r with status := status }

/-- The redemption rows after a change of one row's status. -/
def Wallets.commitStatus (w : Wallets) (order : OrderId) (status : RedemptionStatus) : Wallets :=
  { w with
    redemptions := Table.update Redemption.orderId order (.withStatus status) w.redemptions }

/-- The commit of `confirm_redemption` by a session that read the redemption `r` and the balance
`loaded`. -/
def Wallets.commitConfirm (w : Wallets) (r : Redemption) (loaded : Nat) : Wallets :=
  { w.commitStatus r.orderId .completed with
    edgePoints := Function.update w.edgePoints r.userId
      (flushColumn loaded (loaded - r.points) (w.edgePoints r.userId))
    history := ⟨r.userId, -r.points, some r.orderId⟩ :: w.history }

/-! ## Whole calls -/

/-- `_award_referrer_points` and the caller's commit. -/
def Wallets.awardReferrerPoints (w : Wallets) (user : UserId) (points : Nat) : Wallets :=
  w.commitAward user points (w.edgePoints user)

/-- `confirm_redemption`. -/
def Wallets.confirmRedemption (w : Wallets) (order : OrderId) : Wallets :=
  match w.pendingRedemption order with
  | some r => w.commitConfirm r (w.edgePoints r.userId)
  | none => w

/-- `cancel_redemption`. -/
def Wallets.cancelRedemption (w : Wallets) (order : OrderId) : Wallets :=
  match w.pendingRedemption order with
  | some _ => w.commitStatus order .failed
  | none => w

/-! ## Balanced wallets -/

/-- Order ids are unique, every balance is the sum of its history, and it covers the user's
pending redemptions. -/
structure Balanced (w : Wallets) : Prop where
  unique : (w.redemptions.map Redemption.orderId).Nodup
  sum : ∀ u, (w.edgePoints u : Int) = w.earned u
  covered : ∀ u, w.pending u ≤ w.edgePoints u

variable {w : Wallets} {user : UserId} {order : OrderId} {points loaded : Nat} {r : Redemption}
  {status : RedemptionStatus}

theorem balanced_empty : Balanced .empty :=
  ⟨List.nodup_nil, fun _ => rfl, fun _ => le_rfl⟩

theorem pendingRedemption_eq_some (h : w.pendingRedemption order = some r) :
    r ∈ w.redemptions ∧ r.orderId = order ∧ r.status = .pending := by
  unfold Wallets.pendingRedemption at h
  rw [Option.filter_eq_some_iff] at h
  obtain ⟨hlook, hst⟩ := h
  obtain ⟨hmem, hkey⟩ := Table.lookup_eq_some hlook
  exact ⟨hmem, hkey, by simpa using hst⟩

theorem reserved_le_pending (h : r ∈ w.redemptions) (u : UserId) : r.reserved u ≤ w.pending u :=
  List.single_le_sum (by simp) _ (List.mem_map_of_mem h)

/-- A pending redemption of a balanced wallet is covered: the clamp of `confirm_redemption` does
not discard any of it. -/
theorem Balanced.points_le (h : Balanced w) (hr : r ∈ w.redemptions) (hst : r.status = .pending) :
    r.points ≤ w.edgePoints r.userId := by
  have hres := reserved_le_pending hr r.userId
  rw [Redemption.reserved, if_pos ⟨rfl, hst⟩] at hres
  exact hres.trans (h.covered r.userId)

/-- A reward written over the committed balance. -/
theorem balanced_commitAward (h : Balanced w) (hfresh : loaded = w.edgePoints user) :
    Balanced (w.commitAward user points loaded) := by
  subst hfresh
  refine ⟨h.unique, fun u => ?_, fun u => ?_⟩
  · have hsum := h.sum u
    by_cases hu : u = user
    · subst hu
      simp only [Wallets.commitAward, Wallets.earned, Function.update_self, flushColumn_fresh,
        List.map_cons, List.sum_cons, HistoryEntry.credit, if_true]
      rw [Wallets.earned] at hsum
      push_cast
      simp only [HistoryEntry.credit] at hsum
      omega
    · simp only [Wallets.commitAward, Wallets.earned, Function.update_of_ne hu, List.map_cons,
        List.sum_cons, HistoryEntry.credit, if_neg (Ne.symm hu), zero_add]
      exact hsum
  · have hcov := h.covered u
    by_cases hu : u = user
    · subst hu
      simp only [Wallets.commitAward, Function.update_self, flushColumn_fresh]
      exact hcov.trans (Nat.le_add_right _ _)
    · simp only [Wallets.commitAward, Function.update_of_ne hu]
      exact hcov

/-- Reserving no more than what is available. -/
theorem balanced_createPendingRedemption (h : Balanced w)
    (havail : points ≤ w.edgePoints user - w.pending user) :
    Balanced (w.createPendingRedemption user order points) := by
  unfold Wallets.createPendingRedemption
  split_ifs with hzero hdup
  · exact h
  · exact h
  · rw [Bool.not_eq_true, Option.isSome_eq_false_iff, Option.isNone_iff_eq_none,
      Table.lookup_eq_none] at hdup
    refine ⟨?_, h.sum, fun u => ?_⟩
    · rw [List.map_cons, List.nodup_cons]
      refine ⟨fun hmem => ?_, h.unique⟩
      obtain ⟨r, hr, heq⟩ := List.mem_map.mp hmem
      exact hdup r hr heq
    · have hcov := h.covered u
      simp only [Wallets.pending, List.map_cons, List.sum_cons, Redemption.reserved, and_true]
      simp only [Wallets.pending, Redemption.reserved] at hcov havail
      split_ifs with hu
      · subst hu
        omega
      · omega

/-- Taking a redemption out of `PENDING`, or changing one that is not pending, reserves no
more. -/
theorem pending_commitStatus_le (hst : status ≠ .pending) (u : UserId) :
    (w.commitStatus order status).pending u ≤ w.pending u := by
  simp only [Wallets.pending, Wallets.commitStatus, Table.update, List.map_map]
  refine List.sum_le_sum fun r _ => ?_
  simp only [Function.comp_apply]
  split_ifs
  · simp [Redemption.reserved, Redemption.withStatus, hst]
  · exact le_rfl

theorem balanced_commitStatus (h : Balanced w) (hst : status ≠ .pending) :
    Balanced (w.commitStatus order status) where
  unique := by
    have hkey : ∀ r : Redemption, (r.withStatus status).orderId = r.orderId := fun _ => rfl
    simp only [Wallets.commitStatus]
    rw [Table.map_key_update hkey]
    exact h.unique
  sum := h.sum
  covered u := (pending_commitStatus_le hst u).trans (h.covered u)

theorem pending_commitStatus (h : Balanced w) (hr : r ∈ w.redemptions) (hpend : r.status = .pending)
    (hst : status ≠ .pending) (u : UserId) :
    (w.commitStatus r.orderId status).pending u + (if r.userId = u then r.points else 0) =
      w.pending u := by
  have hsum := Table.sum_update (f := .withStatus status) (v := Redemption.reserved u) h.unique hr
    rfl
  have hold : r.reserved u = if r.userId = u then r.points else 0 := by
    simp [Redemption.reserved, hpend]
  have hnew : (r.withStatus status).reserved u = 0 := by
    simp [Redemption.reserved, Redemption.withStatus, hst]
  rw [hold, hnew, add_zero] at hsum
  exact hsum

/-- A confirmation over the committed balance, of a redemption that is still pending. -/
theorem balanced_commitConfirm (h : Balanced w) (hr : r ∈ w.redemptions)
    (hpend : r.status = .pending) (hfresh : loaded = w.edgePoints r.userId) :
    Balanced (w.commitConfirm r loaded) := by
  subst hfresh
  have hle := h.points_le hr hpend
  have hdone : RedemptionStatus.completed ≠ .pending := by decide
  refine ⟨(balanced_commitStatus h hdone).unique, fun u => ?_, fun u => ?_⟩
  · have hsum := h.sum u
    simp only [Wallets.earned] at hsum
    simp only [Wallets.commitConfirm, Wallets.earned, List.map_cons, List.sum_cons, flushColumn_fresh]
    by_cases hu : u = r.userId
    · subst hu
      simp only [Function.update_self, HistoryEntry.credit, if_true] at hsum ⊢
      omega
    · rw [Function.update_of_ne hu, hsum]
      simp [HistoryEntry.credit, Ne.symm hu]
  · have hfree := pending_commitStatus h hr hpend hdone u
    have hcov := h.covered u
    change (w.commitStatus r.orderId .completed).pending u ≤ _
    simp only [Wallets.commitConfirm, flushColumn_fresh]
    by_cases hu : u = r.userId
    · subst hu
      rw [Function.update_self]
      rw [if_pos rfl] at hfree
      omega
    · rw [Function.update_of_ne hu]
      rw [if_neg (Ne.symm hu)] at hfree
      omega

end Deltapreneur.EdgePoints
