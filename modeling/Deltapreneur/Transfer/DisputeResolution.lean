import Deltapreneur.Lib.Commits
import Deltapreneur.Transfer.Interleaving

/-!
# Resolving a dispute

One call of `DomainTransferDisputeService.resolve`
(`app/service/domain/domain_transfer_dispute_service.py:36-88`), alone, with the commits on its way:
the dispute is closed and committed, a payout may commit `TRANSFER_COMPLETED`, and then `refund`, or
`approve_payout` and `release_payout`, commit what they did. What these check and write is in
`Transaction.lean`.

* `Point`: the statements at which the database or a notification may fail. A commit that fails has
  committed nothing.
* `Call.payment`, `net` and `existing` are Razorpay's record of the payment and its answers.
* A transaction that is refunded already gets its refund id filled in at most. An exception there is
  swallowed, but a flush that fails leaves a session that cannot read the amount for the answer.
* The restored listing, the events and the notifications are left out; they are committed together
  with the statuses.

Results:

* `resolve_atomic_iff`: a call that raises leaves dispute and statuses alone, exactly if it raises
  before its first commit.
* `refused_refund_closes`: Razorpay refuses the refund, the dispute is closed as refunded, and a
  second attempt finds it resolved.
-/

namespace Deltapreneur.Transfer.DisputeResolution

open Commits Razorpay

/-! ## Tables -/

/-- The columns of `DomainDispute` that `resolve` reads or writes. -/
structure Dispute where
  /-- `transaction_id` is that of the call. -/
  ofTransaction : Bool
  status : DisputeStatus
  resolutionNote : Option String
  resolvedByUserId : Option UserId
  resolvedAt : Option Time
  deriving Repr, DecidableEq

/-- The rows that the call asks for, and the payouts. -/
structure Tables where
  row : Option Transaction
  dispute : Option Dispute
  payouts : List SellerPayout
  deriving Repr, DecidableEq

/-- Where something outside the checks may fail. -/
inductive Point
  /-- The two `SELECT`s at the start. -/
  | lookup
  /-- The first commit and what it flushes. -/
  | close
  /-- The commit of `TRANSFER_COMPLETED`. -/
  | complete
  /-- The locked read of `refund`. -/
  | lock
  /-- The commit of a missing refund id. -/
  | fillIn
  /-- The flush of a missing refund id, and the amount that the answer reads after it. -/
  | answer
  /-- What `refund` does after Razorpay's answer. -/
  | refund
  /-- `approve_payout`. -/
  | approve
  /-- `release_payout`. -/
  | release
  deriving Repr, DecidableEq

structure Call where
  admin : UserId
  resolution : Resolution
  /-- The note, stripped; `none` where it is blank. -/
  note : Option String
  now : Time
  payment : Payment
  net : RefundNetwork
  /-- The refund id that Razorpay has for the payment. -/
  existing : Option RefundId
  /-- The seller's payout profile is complete. -/
  profileComplete : Bool
  fault : Option Point

def failure : AppException := ⟨"Internal server error", 500⟩

/-- The call gets to the statement `p`. -/
def reach (c : Call) (p : Point) : Work Tables AppException Unit := strike c.fault p failure

/-! ## The call -/

/-- `UPDATE domain_marketplace_transactions`. -/
def store (tx : Transaction) (t : Tables) : Tables := { t with row := some tx }

/-- The dispute is resolved, and the transaction says so. -/
def close (c : Call) (tx : Transaction) (d : Dispute) (t : Tables) : Tables :=
  { t with
    row := some { tx with disputeStatus := c.resolution.transferDisputeStatus }
    dispute := some { d with
      status := c.resolution.disputeStatus
      resolutionNote := c.note
      resolvedByUserId := some c.admin
      resolvedAt := some c.now } }

/-- The transaction is refunded already. -/
def Refunded (tx : Transaction) : Prop :=
  tx.escrowStatus = .refunded ∨ tx.transferStatus = .refunded

instance (tx : Transaction) : Decidable (Refunded tx) := inferInstanceAs (Decidable (_ ∨ _))

/-- `DomainTransferEscrowService.refund`. -/
def refundTransaction (c : Call) : Work Tables AppException Unit := do
  reach c .lock
  let t ← read
  match t.row with
  | none => check (raise "Transfer transaction not found." 404)
  | some tx =>
    match (refund tx c.payment c.net c.existing).result with
    | .error e => check (.error e)
    | .ok tx' =>
      if Refunded tx then
        if tx'.razorpayRefundId = tx.razorpayRefundId ∨ c.fault = some .fillIn then pure ()
        else do
          reach c .answer
          write (store tx')
          commit
      else do
        write (store tx')
        reach c .refund
        commit

/-- `DomainTransferPayoutService.approve_payout`. -/
def approve (c : Call) : Work Tables AppException Unit := do
  reach c .approve
  let t ← read
  match t.row with
  | none => check (raise "Transfer transaction not found." 404)
  | some tx =>
    match approvePayout tx c.profileComplete c.now with
    | .error e => check (.error e)
    | .ok tx' => do
      write (store tx')
      commit

/-- `DomainTransferPayoutService.release_payout`. -/
def release (c : Call) : Work Tables AppException Unit := do
  reach c .release
  let t ← read
  match t.row with
  | none => check (raise "Transfer transaction not found." 404)
  | some tx =>
    match releasePayout tx c.profileComplete with
    | .error e => check (.error e)
    | .ok tx' => do
      write fun t => { store tx' t with payouts := t.payouts ++ [⟨tx.sellerId, c.admin⟩] }
      commit

/-- The statuses from which a payout goes on without `TRANSFER_COMPLETED`. -/
def Transferred (status : TransferStatus) : Prop :=
  status = .transferCompleted ∨ status = .payoutPending ∨ status = .payoutApproved

instance (status : TransferStatus) : Decidable (Transferred status) :=
  inferInstanceAs (Decidable (_ ∨ _))

/-- A transfer that is not there yet is set to `TRANSFER_COMPLETED`. -/
def completeTransfer (c : Call) : Work Tables AppException Unit := do
  let t ← read
  match t.row with
  | none => pure ()
  | some tx =>
    if Transferred tx.transferStatus then pure ()
    else do
      reach c .complete
      write (store { tx with transferStatus := .transferCompleted })
      commit

/-- `DomainTransferDisputeService.resolve`. -/
def resolve (c : Call) : Work Tables AppException Unit := do
  reach c .lookup
  let t ← read
  match t.row with
  | none => check (raise "Transfer transaction not found." 404)
  | some tx =>
    match t.dispute with
    | none => check (raise "Dispute not found." 404)
    | some d =>
      check (if d.ofTransaction then .ok () else raise "Dispute not found." 404)
      check (if d.status.isOpen then .ok () else raise "Dispute is already resolved." 400)
      write (close c tx d)
      reach c .close
      commit
      match c.resolution with
      | .refund => refundTransaction c
      | .payout => do
        completeTransfer c
        approve c
        release c

/-! ## When the second half raises -/

/-- Razorpay's answer is neither a refund nor that the payment is refunded. -/
def GatewayRefuses (payment : Payment) (amount : Paise) (net : RefundNetwork) : Prop :=
  match (refundPayment payment amount net).1 with
  | .refund _ _ | .alreadyFullyRefunded => False
  | _ => True

/-- A guard of `refund` or Razorpay refuses. -/
def RefundRefused (c : Call) (tx : Transaction) : Prop :=
  tx.razorpayPaymentId = none ∨ tx.escrowStatus = .released ∨
    (tx.transferStatus = .payoutApproved ∨ tx.transferStatus = .payoutReleased ∨
      tx.transferStatus = .completed ∨ tx.transferStatus = .sellerPaid) ∨
    GatewayRefuses c.payment tx.gstInclusiveAmount c.net

/-- Razorpay has a refund id that the transaction lacks. -/
def LacksRefundId (c : Call) (tx : Transaction) : Prop :=
  tx.knownRefundId c.existing ≠ tx.razorpayRefundId

/-- The refund of a resolved dispute raises. -/
def RefundFails (c : Call) (tx : Transaction) : Prop :=
  c.fault = some .lock ∨
    Refunded tx ∧ LacksRefundId c tx ∧ c.fault = some .answer ∨
    ¬ Refunded tx ∧ (RefundRefused c tx ∨ c.fault = some .refund)

/-- The payout of a resolved dispute raises. -/
def PayoutFails (c : Call) (tx : Transaction) : Prop :=
  tx.transferStatus = .payoutApproved ∨ tx.escrowStatus ≠ .held ∨ c.profileComplete = false ∨
    ¬ Transferred tx.transferStatus ∧ c.fault = some .complete ∨
    c.fault = some .approve ∨ c.fault = some .release

variable {c : Call} {tx tx' : Transaction} {X : Tables → Prop} {s t : Tables} {d : Dispute}
  {p : Point} {conn : Conn Tables}

theorem raising_reach {f : Unit → Work Tables AppException Unit} :
    Raising X (reach c p >>= f) conn ↔
      (c.fault = some p → X conn.committed) ∧ (c.fault ≠ some p → Raising X (f ()) conn) :=
  raising_strike_bind

theorem refund_error_iff (hopen : ¬ Refunded tx) :
    (∃ e, (refund tx c.payment c.net c.existing).result = .error e) ↔ RefundRefused c tx := by
  have hnot : ¬ (tx.escrowStatus = .refunded ∨ tx.transferStatus = .refunded) := hopen
  unfold refund RefundRefused
  rw [if_neg hnot]
  by_cases hpaid : tx.razorpayPaymentId = none
  · simp [hpaid, raise]
  by_cases hreleased : tx.escrowStatus = .released
  · simp [hpaid, hreleased, raise]
  by_cases hfinal : tx.transferStatus = .payoutApproved ∨ tx.transferStatus = .payoutReleased ∨
      tx.transferStatus = .completed ∨ tx.transferStatus = .sellerPaid
  · simp [hpaid, hreleased, hfinal, raise]
  rw [if_neg hpaid, if_neg hreleased, if_neg hfinal]
  simp only [hpaid, hreleased, hfinal, false_or, GatewayRefuses]
  rcases refundPayment c.payment tx.gstInclusiveAmount c.net with ⟨reply, p, issued⟩
  cases reply <;> simp

theorem refund_again (h : Refunded tx) :
    (refund tx c.payment c.net c.existing).result =
      .ok { tx with razorpayRefundId := tx.knownRefundId c.existing } := by
  have hdone : tx.escrowStatus = .refunded ∨ tx.transferStatus = .refunded := h
  unfold refund
  rw [if_pos hdone]

/-- **The refund**, where an exception is bad whatever else is committed. -/
theorem raising_refund (hrow : s.row = some tx) (hX : ∀ t', t'.dispute = s.dispute → ¬ X t') :
    Raising X (refundTransaction c) ⟨s, s⟩ ↔ ¬ RefundFails c tx := by
  have hself : ¬ X s := hX s rfl
  unfold refundTransaction RefundFails
  rw [raising_reach]
  by_cases hlock : c.fault = some .lock
  · simp [hlock, hself]
  simp only [hlock, ne_eq, not_false_eq_true, IsEmpty.forall_iff, forall_const, true_and, false_or,
    raising_read_bind, hrow]
  by_cases hdone : Refunded tx
  · simp only [refund_again hdone, hdone, if_true, true_and, not_true_eq_false, false_and, or_false]
    by_cases hnew : tx.knownRefundId c.existing = tx.razorpayRefundId
    · simp [hnew, LacksRefundId]
    · by_cases hfill : c.fault = some .fillIn
      · simp [hfill]
      · simp [hnew, hfill, LacksRefundId, raising_reach, hself]
  · have herror := refund_error_iff (c := c) hdone
    cases hresult : (refund tx c.payment c.net c.existing).result with
    | error e =>
      have hrefused : RefundRefused c tx := herror.mp ⟨e, hresult⟩
      simp [hdone, hrefused, hself]
    | ok tx' =>
      have hpassed : ¬ RefundRefused c tx := fun h => by
        obtain ⟨e, he⟩ := herror.mpr h
        cases hresult.symm.trans he
      simp only [hdone, if_false, raising_write_bind, raising_reach, raising_commit]
      by_cases hfault : c.fault = some .refund
      · simp [hfault, hself]
      · simp [hfault, hpassed]

/-! ## The payout -/

/-- The transaction as `approve_payout` finds it. -/
def completed (tx : Transaction) : Transaction :=
  if Transferred tx.transferStatus then tx else { tx with transferStatus := .transferCompleted }

/-- The transaction as `approve_payout` leaves it. -/
def approved (c : Call) (tx : Transaction) : Transaction :=
  { tx with transferStatus := .payoutApproved, payoutApprovedAt := some c.now }

theorem completed_transferred : Transferred (completed tx).transferStatus := by
  unfold completed
  split_ifs with h
  · exact h
  · exact .inl rfl

theorem completed_escrow : (completed tx).escrowStatus = tx.escrowStatus := by
  unfold completed
  split_ifs <;> rfl

theorem completed_approved_iff :
    (completed tx).transferStatus = .payoutApproved ↔ tx.transferStatus = .payoutApproved := by
  unfold completed
  split_ifs with h
  · exact Iff.rfl
  · refine ⟨fun heq => absurd heq (by simp), fun heq => absurd ?_ h⟩
    exact .inr (.inr heq)

/-- The guards of `approve_payout`, on a transfer that is there. -/
theorem approvePayout_of_transferred (hdone : Transferred tx.transferStatus) :
    (tx.transferStatus = .payoutApproved ∨ tx.escrowStatus ≠ .held ∨ c.profileComplete = false →
      ∃ e, approvePayout tx c.profileComplete c.now = .error e) ∧
    (¬ (tx.transferStatus = .payoutApproved ∨ tx.escrowStatus ≠ .held ∨
        c.profileComplete = false) →
      approvePayout tx c.profileComplete c.now = .ok (approved c tx)) := by
  have hthere : tx.transferStatus = .transferCompleted ∨ tx.transferStatus = .payoutPending ∨
      tx.transferStatus = .payoutApproved := hdone
  unfold approvePayout approved raise
  rcases hthere with hstatus | hstatus | hstatus
  · cases hescrow : tx.escrowStatus <;> cases hprofile : c.profileComplete <;> simp [hstatus]
  · cases hescrow : tx.escrowStatus <;> cases hprofile : c.profileComplete <;> simp [hstatus]
  · cases hescrow : tx.escrowStatus <;> simp [hstatus]

theorem releasePayout_approved (hescrow : tx.escrowStatus = .held)
    (hprofile : c.profileComplete = true) :
    ∃ tx', releasePayout (approved c tx) c.profileComplete = .ok tx' := by
  unfold releasePayout approved
  simp [hescrow, hprofile]

variable {f : Unit → Work Tables AppException Unit}

theorem raising_completeTransfer (hrow : s.row = some tx) (hself : ¬ X s) :
    Raising X (completeTransfer c >>= f) ⟨s, s⟩ ↔
      ¬ (¬ Transferred tx.transferStatus ∧ c.fault = some .complete) ∧
        Raising X (f ()) ⟨store (completed tx) s, store (completed tx) s⟩ := by
  unfold completeTransfer completed
  rw [raising_assoc, raising_read_bind]
  simp only [hrow]
  by_cases hdone : Transferred tx.transferStatus
  · have hsame : store tx s = s := by
      unfold store
      rw [← hrow]
    simp [hdone, hsame]
  · simp only [hdone, if_false, raising_assoc, raising_reach, raising_write_bind,
      raising_commit_bind, not_false_eq_true, true_and]
    by_cases hfault : c.fault = some .complete
    · simp [hfault, hself]
    · simp [hfault]

theorem raising_approve (hrow : s.row = some tx) (hdone : Transferred tx.transferStatus)
    (hself : ¬ X s) :
    Raising X (approve c >>= f) ⟨s, s⟩ ↔
      ¬ (c.fault = some .approve ∨ tx.transferStatus = .payoutApproved ∨
          tx.escrowStatus ≠ .held ∨ c.profileComplete = false) ∧
        Raising X (f ()) ⟨store (approved c tx) s, store (approved c tx) s⟩ := by
  obtain ⟨hguarded, hpassed⟩ := approvePayout_of_transferred (c := c) hdone
  unfold approve
  rw [raising_assoc, raising_reach]
  simp only [raising_assoc, raising_read_bind, hrow]
  by_cases hfault : c.fault = some .approve
  · simp [hfault, hself]
  by_cases hrefused : tx.transferStatus = .payoutApproved ∨ tx.escrowStatus ≠ .held ∨
      c.profileComplete = false
  · obtain ⟨e, he⟩ := hguarded hrefused
    simp [hrefused, he, hself, hfault]
  · simp only [hpassed hrefused, hrefused, hfault, raising_assoc, raising_write_bind,
      raising_commit_bind]
    simp [hfault]

theorem raising_release (hrow : s.row = some (approved c tx)) (hescrow : tx.escrowStatus = .held)
    (hprofile : c.profileComplete = true) (hself : ¬ X s) :
    Raising X (release c) ⟨s, s⟩ ↔ ¬ c.fault = some .release := by
  obtain ⟨tx', hok⟩ := releasePayout_approved (c := c) hescrow hprofile
  unfold release
  rw [raising_reach]
  simp only [raising_read_bind, hrow, hok, raising_write_bind, raising_commit]
  by_cases hfault : c.fault = some .release
  · simp [hfault, hself]
  · simp [hfault]

/-- **The payout**, likewise. -/
theorem raising_payout (hrow : s.row = some tx) (hX : ∀ t', t'.dispute = s.dispute → ¬ X t') :
    Raising X (completeTransfer c >>= fun _ => approve c >>= fun _ => release c) ⟨s, s⟩ ↔
      ¬ PayoutFails c tx := by
  have hcompleted : ¬ X (store (completed tx) s) := hX _ rfl
  have happroved : ¬ X (store (approved c (completed tx)) (store (completed tx) s)) := hX _ rfl
  rw [raising_completeTransfer hrow (hX s rfl),
    raising_approve rfl completed_transferred hcompleted,
    completed_escrow, completed_approved_iff]
  unfold PayoutFails
  by_cases hescrow : tx.escrowStatus = .held
  · by_cases hprofile : c.profileComplete = true
    · rw [raising_release rfl (completed_escrow.trans hescrow) hprofile happroved]
      simp only [hescrow, hprofile]
      tauto
    · simp [hescrow, hprofile]
  · simp [hescrow]

/-! ## The whole call -/

/-- The dispute and the two statuses of the transaction are as they were. -/
def Kept (t t' : Tables) : Prop :=
  t'.dispute = t.dispute ∧
    t'.row.map (fun tx => (tx.transferStatus, tx.escrowStatus)) =
      t.row.map fun tx => (tx.transferStatus, tx.escrowStatus)

instance (t t' : Tables) : Decidable (Kept t t') := inferInstanceAs (Decidable (_ ∧ _))

theorem Kept.refl (t : Tables) : Kept t t := ⟨rfl, rfl⟩

/-- The dispute is open and its resolution gets committed. -/
def Closes (c : Call) (d : Dispute) : Prop :=
  d.ofTransaction = true ∧ d.status.isOpen = true ∧
    c.fault ≠ some .lookup ∧ c.fault ≠ some .close

/-- What comes after the resolution raises. -/
def Fails (c : Call) (tx : Transaction) : Prop :=
  match c.resolution with
  | .refund => RefundFails c tx
  | .payout => PayoutFails c tx

/-! Neither half looks at the `dispute_status` of the transaction. -/

theorem refundFails_disputeStatus (v : TransferDisputeStatus) :
    RefundFails c { tx with disputeStatus := v } ↔ RefundFails c tx := Iff.rfl

theorem payoutFails_disputeStatus (v : TransferDisputeStatus) :
    PayoutFails c { tx with disputeStatus := v } ↔ PayoutFails c tx := Iff.rfl

theorem not_kept_close (tx : Transaction) (hd : t.dispute = some d) (hopen : d.status.isOpen = true)
    (t' : Tables) (h : t'.dispute = (close c tx d t).dispute) : ¬ Kept t t' := by
  rintro ⟨hkept, -⟩
  have hsame := (h.symm.trans hkept).trans hd
  have hstatus : c.resolution.disputeStatus = d.status :=
    congrArg Dispute.status (Option.some.inj hsame)
  rw [← hstatus] at hopen
  cases hres : c.resolution <;> rw [hres] at hopen <;> cases hopen

/-- **A call that raises leaves dispute and statuses alone**, exactly if it raises before it commits
the resolution. -/
theorem resolve_atomic_iff (t : Tables) (c : Call) :
    ((call (resolve c) t).result.isOk = false → Kept t (call (resolve c) t).tables) ↔
      ¬ ∃ tx d, t.row = some tx ∧ t.dispute = some d ∧ Closes c d ∧ Fails c tx := by
  rw [← raising_call (X := Kept t)]
  unfold resolve
  rw [raising_reach]
  by_cases hlookup : c.fault = some .lookup
  · simp [hlookup, Kept.refl, Closes]
  simp only [hlookup, ne_eq, not_false_eq_true, IsEmpty.forall_iff, forall_const, true_and,
    raising_read_bind]
  cases hrow : t.row with
  | none => simp [Kept.refl, raise]
  | some tx =>
    cases hd : t.dispute with
    | none => simp [Kept.refl, raise]
    | some d =>
      simp only [Option.some.injEq, exists_and_left, exists_eq_left', Closes, raise]
      by_cases hof : d.ofTransaction = true
      swap
      · simp [hof, Kept.refl]
      by_cases hopen : d.status.isOpen = true
      swap
      · simp [hof, hopen, Kept.refl]
      simp only [hof, hopen, if_true, raising_check_ok_bind, raising_write_bind, raising_reach]
      by_cases hclose : c.fault = some .close
      · simp [hclose, Kept.refl]
      have hX := not_kept_close (c := c) tx hd hopen
      have hrefund := raising_refund (c := c) (s := close c tx d t) (X := Kept t) rfl hX
      have hpayout := raising_payout (c := c) (s := close c tx d t) (X := Kept t) rfl hX
      rw [refundFails_disputeStatus] at hrefund
      rw [payoutFails_disputeStatus] at hpayout
      cases hres : c.resolution with
      | refund => simpa [hlookup, hclose, Fails, hres] using hrefund
      | payout => simpa [hlookup, hclose, Fails, hres] using hpayout

/-- A disputed transaction of ₹1000. -/
def disputed : Tables where
  row := some { Transaction.create 0 1 2 100000 5 86400 with
    transferStatus := .disputed, disputeStatus := .open }
  dispute := some ⟨true, .open, none, none, none⟩
  payouts := []

/-- An admin refunds it, and Razorpay refuses. -/
def refusedRefund : Call where
  admin := 9
  resolution := .refund
  note := none
  now := 100
  payment := ⟨.captured, 118000, 0⟩
  net := .rejected .invalidRequest
  existing := none
  profileComplete := true
  fault := none

/-- **A refused refund closes the dispute**: it is recorded as refunded, nothing is refunded, and
there is no second attempt. -/
theorem refused_refund_closes :
    let o := call (resolve refusedRefund) disputed
    o.result = .error ⟨"Razorpay rejected refund", 400⟩ ∧ ¬ Kept disputed o.tables ∧
      o.tables.dispute.map Dispute.status = some .resolvedRefund ∧
      o.tables.row.map Transaction.escrowStatus = some .held ∧
      call (resolve refusedRefund) o.tables =
        ⟨o.tables, .error ⟨"Dispute is already resolved.", 400⟩⟩ := by
  refine ⟨rfl, by decide, rfl, rfl, rfl⟩

end Deltapreneur.Transfer.DisputeResolution
