import Deltapreneur.Lib.Run
import Deltapreneur.Lib.UnitOfWork
import Deltapreneur.Transfer.Transaction

/-!
# Interleaved operations on one transfer transaction

Model of what concurrent requests do to one `DomainMarketplaceTransaction` row, its disputes,
its `SellerPayout` rows and its payment at Razorpay. A label is one atomic step.

* An operation that takes the row `FOR UPDATE` in a new session and commits once is a single
  step: it sees the committed row and nobody writes the row before it commits.
* `run_tick` selects its candidates without a lock: `tickRead`, then `tickWrite`.
* `DomainTransferDisputeService.resolve` (`domain_transfer_dispute_service.py:36-88`) is a
  session of up to four commits: the unlocked read (`resolveRead`), the commit of the dispute
  (`resolveCommit`), then either the refund, or the status change, `approve_payout` and
  `release_payout` (each a `resolveNext`). The session keeps its object for the row in a local
  variable, `expire_on_commit` is off, and a `SELECT … FOR UPDATE` does not reload an object
  that is already there: after its first commit the call works on what it saw then.
  Only `save` (flush and refresh) brings the object up to date.
* An admin may refund the payment by hand at Razorpay (`dashboardRefund`).

Results:

* `settled_step`: the escrow column accounts for the money, as long as no
  `resolve` pays out or refunds on an escrow status that is out of date and no answer of the
  refund API gets lost.
* `escrow_money_safe`: then a refund issued by the service and a payout exclude each other,
  and there is at most one payout.
* `stale_resolve_refunds_after_payout`: without that condition the code does both.
-/

namespace Deltapreneur.Transfer

open Razorpay UnitOfWork

/-! ## State -/

/-- `DomainDispute.status`. -/
inductive DisputeStatus
  | open | underReview | resolvedRefund | resolvedPayout
  deriving Repr, DecidableEq

/-- The statuses `get_open_by_transaction` and `resolve` treat as open. -/
def DisputeStatus.isOpen : DisputeStatus → Bool
  | .open | .underReview => true
  | _ => false

/-- The `resolution` an admin chooses for a dispute. -/
inductive Resolution
  | refund | payout
  deriving Repr, DecidableEq

def Resolution.disputeStatus : Resolution → DisputeStatus
  | .refund => .resolvedRefund
  | .payout => .resolvedPayout

def Resolution.transferDisputeStatus : Resolution → TransferDisputeStatus
  | .refund => .resolvedRefund
  | .payout => .resolvedPayout

/-- Where a call of `resolve` stands, with the session's object for the row. -/
inductive ResolveAt
  | idle
  /-- The transaction and the dispute are read, nothing is written yet. -/
  | read (loaded : Transaction) (dispute : Nat) (resolution : Resolution)
  /-- The first commit is done. -/
  | resolved (loaded : Transaction) (resolution : Resolution)
  /-- `approve_payout` comes next. -/
  | toApprove (loaded : Transaction)
  /-- `release_payout` comes next. -/
  | toRelease (loaded : Transaction)
  deriving Repr

/-- The committed rows, the gateway's record of the payment, the number of refunds that
`refund` made Razorpay pay, and the calls in flight. -/
structure World where
  row : Transaction
  disputes : List DisputeStatus
  payouts : List SellerPayout
  payment : Payment
  refundsIssued : Nat
  resolves : Nat → ResolveAt
  ticks : Nat → Option Transaction

/-- A transaction as `create_from_payment` leaves it, with nothing in flight. -/
def World.init (tx : Transaction) (payment : Payment) : World where
  row := tx
  disputes := []
  payouts := []
  payment := payment
  refundsIssued := 0
  resolves := fun _ => .idle
  ticks := fun _ => none

/-- The row after a session flushes its object `new`, which it had loaded as `loaded`. -/
def Transaction.flush (loaded new row : Transaction) : Transaction where
  listingId := flushColumn loaded.listingId new.listingId row.listingId
  buyerId := flushColumn loaded.buyerId new.buyerId row.buyerId
  sellerId := flushColumn loaded.sellerId new.sellerId row.sellerId
  grossAmount := flushColumn loaded.grossAmount new.grossAmount row.grossAmount
  razorpayPaymentId :=
    flushColumn loaded.razorpayPaymentId new.razorpayPaymentId row.razorpayPaymentId
  razorpayRefundId :=
    flushColumn loaded.razorpayRefundId new.razorpayRefundId row.razorpayRefundId
  escrowStatus := flushColumn loaded.escrowStatus new.escrowStatus row.escrowStatus
  transferStatus := flushColumn loaded.transferStatus new.transferStatus row.transferStatus
  disputeStatus := flushColumn loaded.disputeStatus new.disputeStatus row.disputeStatus
  authCode := flushColumn loaded.authCode new.authCode row.authCode
  sellerDeadlineAt :=
    flushColumn loaded.sellerDeadlineAt new.sellerDeadlineAt row.sellerDeadlineAt
  payoutApprovedAt :=
    flushColumn loaded.payoutApprovedAt new.payoutApprovedAt row.payoutApprovedAt
  adminReviewReason :=
    flushColumn loaded.adminReviewReason new.adminReviewReason row.adminReviewReason

@[simp] theorem Transaction.flush_fresh (row new : Transaction) :
    Transaction.flush row new row = new := by
  simp [Transaction.flush]

/-! ## Steps -/

/-- What the environment adds to the next segment of a `resolve`: the acting admin, the clock,
the seller's profile and the answers of Razorpay. -/
structure Segment where
  admin : UserId
  now : Time
  profileComplete : Bool
  net : RefundNetwork
  existing : Option RefundId
  deriving Repr, DecidableEq

inductive Label
  | party (call : PartyCall)
  | openDispute (buyer : UserId)
  | refund (net : RefundNetwork) (existing : Option RefundId)
  | syncRefund (reachable : Bool) (existing : Option RefundId)
  | dashboardRefund (amount : Paise)
  | resolveAdminReview (action : ReviewAction) (deadline : Time)
  | forceComplete (reason : String)
  | approvePayout (profileComplete : Bool) (now : Time)
  | releasePayout (admin : UserId) (profileComplete : Bool)
  | tickRead (job : Nat) (now : Time)
  | tickWrite (job : Nat)
  | resolveRead (call : Nat) (dispute : Nat) (resolution : Resolution)
  | resolveCommit (call : Nat)
  | resolveNext (call : Nat) (env : Segment)

/-- A commit of the row alone: an exception rolls back. -/
def World.commit (w : World) (result : Except AppException Transaction) : World :=
  match result with
  | .ok tx => { w with row := tx }
  | .error _ => w

/-- `refund` by a session that holds `loaded`: money that Razorpay has paid stays paid even
when the call raises. -/
def World.commitRefund (w : World) (loaded : Transaction) (net : RefundNetwork)
    (existing : Option RefundId) : World :=
  let o := Transfer.refund loaded w.payment net existing
  { w.commit (o.result.map fun new => loaded.flush new w.row) with
    payment := o.payment
    refundsIssued := w.refundsIssued + if o.issued then 1 else 0 }

/-- `release_payout` by a session that holds `loaded`: the row and the payout commit
together. -/
def World.commitRelease (w : World) (loaded : Transaction) (admin : UserId)
    (profileComplete : Bool) : World :=
  match Transfer.releasePayout loaded profileComplete with
  | .ok new =>
    { w with
      row := loaded.flush new w.row
      payouts := ⟨loaded.sellerId, admin⟩ :: w.payouts }
  | .error _ => w

def World.setResolve (w : World) (call : Nat) (at_ : ResolveAt) : World :=
  { w with resolves := Function.update w.resolves call at_ }

/-- The segments of `resolve` after its first commit. -/
def World.resolveNext (w : World) (call : Nat) (env : Segment) : World :=
  match w.resolves call with
  | .resolved loaded .refund => (w.commitRefund loaded env.net env.existing).setResolve call .idle
  | .resolved loaded .payout =>
    if loaded.transferStatus = .transferCompleted ∨ loaded.transferStatus = .payoutPending ∨
        loaded.transferStatus = .payoutApproved then
      w.setResolve call (.toApprove loaded)
    else
      -- `save` refreshes the object, so it is up to date after this commit
      let row := loaded.flush { loaded with transferStatus := .transferCompleted } w.row
      { w with row := row }.setResolve call (.toApprove row)
  | .toApprove loaded =>
    match Transfer.approvePayout loaded env.profileComplete env.now with
    | .ok new =>
      let row := loaded.flush new w.row
      { w with row := row }.setResolve call (.toRelease row)
    | .error _ => w.setResolve call .idle
  | .toRelease loaded =>
    (w.commitRelease loaded env.admin env.profileComplete).setResolve call .idle
  | _ => w

/-- One atomic step. A label that is not enabled leaves the state as it is. -/
def step (w : World) : Label → World
  | .party call => w.commit (call.run w.row)
  | .openDispute buyer =>
    match Transfer.openDispute w.row buyer (w.disputes.any DisputeStatus.isOpen) with
    | .ok tx => { w with row := tx, disputes := w.disputes ++ [.open] }
    | .error _ => w
  | .refund net existing => w.commitRefund w.row net existing
  | .syncRefund reachable existing =>
    w.commit (Transfer.syncRefundFromRazorpay w.row w.payment reachable existing)
  | .dashboardRefund amount =>
    { w with payment := w.payment.payBack (w.payment.refundAmount amount) }
  | .resolveAdminReview action deadline =>
    w.commit (Transfer.resolveAdminReview w.row action deadline)
  | .forceComplete reason => w.commit (Transfer.forceComplete w.row reason)
  | .approvePayout profile now => w.commit (Transfer.approvePayout w.row profile now)
  | .releasePayout admin profile => w.commitRelease w.row admin profile
  | .tickRead job now =>
    if w.row.deadlinePassed now then
      { w with ticks := Function.update w.ticks job (some w.row) }
    else w
  | .tickWrite job =>
    match w.ticks job with
    | some loaded =>
      { w with
        row := loaded.flush loaded.escalate w.row
        ticks := Function.update w.ticks job none }
    | none => w
  | .resolveRead call dispute resolution =>
    match w.resolves call, w.disputes[dispute]? with
    | .idle, some status =>
      if status.isOpen then w.setResolve call (.read w.row dispute resolution) else w
    | _, _ => w
  | .resolveCommit call =>
    match w.resolves call with
    | .read loaded dispute resolution =>
      let row := loaded.flush
        { loaded with disputeStatus := resolution.transferDisputeStatus } w.row
      { w with row := row, disputes := w.disputes.set dispute resolution.disputeStatus }.setResolve
        call (.resolved row resolution)
    | _ => w
  | .resolveNext call env => w.resolveNext call env

/-! ## The escrow column accounts for the money -/

/-- What the escrow status says about the money of a transaction. -/
def Accounts : EscrowStatus → Nat → List SellerPayout → Prop
  | .held, refunds, payouts => refunds = 0 ∧ payouts = []
  | .released, refunds, payouts => refunds = 0 ∧ payouts.length = 1
  -- refunded by the service, or by hand after the payout and then synchronised
  | .refunded, refunds, payouts => payouts = [] ∨ (refunds = 0 ∧ payouts.length = 1)

/-- The escrow column of the committed row accounts for the money. -/
def World.Settled (w : World) : Prop :=
  Accounts w.row.escrowStatus w.refundsIssued w.payouts

/-- Never both a refund issued by `refund` and a payout, and at most one payout. -/
def World.MoneySafe (w : World) : Prop :=
  ¬ (0 < w.refundsIssued ∧ w.payouts ≠ []) ∧ w.payouts.length ≤ 1

instance (w : World) : Decidable w.MoneySafe := inferInstanceAs (Decidable (¬ (_ ∧ _) ∧ _))

/-- A `resolve` that is about to refund or to pay out holds the committed escrow status, and
Razorpay's answer to its refund arrives. -/
def ResolveAt.Sound (w : World) (env : Segment) : ResolveAt → Prop
  | .resolved loaded .refund =>
    env.net ≠ .replyLost ∧ loaded.escrowStatus = w.row.escrowStatus
  | .toRelease loaded => loaded.escrowStatus = w.row.escrowStatus
  | _ => True

instance (w : World) (env : Segment) : (at_ : ResolveAt) → Decidable (at_.Sound w env)
  | .resolved _ .refund => inferInstanceAs (Decidable (_ ∧ _))
  | .toRelease _ => inferInstanceAs (Decidable (_ = _))
  | .resolved _ .payout | .idle | .read _ _ _ | .toApprove _ => .isTrue trivial

/-- The condition on a step: the answer to a refund arrives, and no `resolve` refunds or pays
out on an escrow status that is out of date. -/
def Sound (w : World) : Label → Prop
  | .refund net _ => net ≠ .replyLost
  | .resolveNext call env => (w.resolves call).Sound w env
  | _ => True

instance (w : World) : (l : Label) → Decidable (Sound w l)
  | .refund _ _ => inferInstanceAs (Decidable (_ ≠ _))
  | .resolveNext call env => inferInstanceAs (Decidable ((w.resolves call).Sound w env))
  | .party _ | .openDispute _ | .syncRefund _ _ | .dashboardRefund _
  | .resolveAdminReview _ _ | .forceComplete _ | .approvePayout _ _ | .releasePayout _ _
  | .tickRead _ _ | .tickWrite _ | .resolveRead _ _ _ | .resolveCommit _ => .isTrue trivial

variable {w w' : World} {loaded new : Transaction}

theorem moneySafe_of_settled (h : w.Settled) : w.MoneySafe := by
  unfold World.Settled at h
  unfold World.MoneySafe
  generalize w.row.escrowStatus = e at h
  cases e with
  | held => simp [Accounts] at h; simp [h]
  | released => simp [Accounts] at h; simp [h]
  | refunded =>
    rcases h with h | ⟨h, h'⟩
    · simp [h]
    · simp [h, h']

theorem World.Settled.frame (h : w.Settled) (he : w'.row.escrowStatus = w.row.escrowStatus)
    (hr : w'.refundsIssued = w.refundsIssued) (hp : w'.payouts = w.payouts) : w'.Settled := by
  unfold World.Settled at h ⊢
  rwa [he, hr, hp]

theorem Accounts.refunded {e : EscrowStatus} {n : Nat} {ps : List SellerPayout}
    (h : Accounts e n ps) : Accounts .refunded n ps := by
  cases e with
  | held => exact .inl h.2
  | released => exact .inr h
  | refunded => exact h

theorem flush_escrowStatus_untouched (h : new.escrowStatus = loaded.escrowStatus) :
    (loaded.flush new w.row).escrowStatus = w.row.escrowStatus := by
  simp [Transaction.flush, h]

theorem settled_commit {result : Except AppException Transaction} (h : w.Settled)
    (hres : ∀ tx, result = .ok tx → tx.escrowStatus = w.row.escrowStatus) :
    (w.commit result).Settled := by
  cases result with
  | ok tx => exact h.frame (hres tx rfl) rfl rfl
  | error e => exact h

/-- A refund by a session that holds the committed escrow status, with the answer arrived. -/
theorem settled_commitRefund {net : RefundNetwork} {existing : Option RefundId} (h : w.Settled)
    (hnet : net ≠ .replyLost) (hfresh : loaded.escrowStatus = w.row.escrowStatus) :
    (w.commitRefund loaded net existing).Settled := by
  unfold World.commitRefund
  have hdoes := refund_does loaded w.payment net existing
  generalize Transfer.refund loaded w.payment net existing = o at hdoes
  cases hdoes with
  | already id p _ => exact h.frame (flush_escrowStatus_untouched rfl) rfl rfl
  | refused e p => exact h.frame rfl rfl rfl
  | done id p issued hheld =>
    have hrow : w.row.escrowStatus = .held := hfresh ▸ hheld
    have hnew : (loaded.flush (loaded.markRefunded id) w.row).escrowStatus = .refunded := by
      simp [Transaction.flush, Transaction.markRefunded, hheld, flushColumn]
    unfold World.Settled at h ⊢
    rw [hrow] at h
    simp only [World.commit, Except.map]
    rw [hnew]
    exact .inl h.2
  | lost e p _ hlost => exact absurd hlost hnet

theorem settled_commitRelease {admin : UserId} {profile : Bool} (h : w.Settled)
    (hfresh : loaded.escrowStatus = w.row.escrowStatus) :
    (w.commitRelease loaded admin profile).Settled := by
  unfold World.commitRelease
  split
  · next new hok =>
    obtain ⟨hheld, -, rfl⟩ := releasePayout_ok hok
    unfold World.Settled at h ⊢
    rw [← hfresh, hheld] at h
    obtain ⟨hr, hp⟩ := h
    simp [Transaction.flush, hheld, flushColumn, Accounts, hr, hp]
  · exact h

theorem settled_resolveNext {call : Nat} {env : Segment} (h : w.Settled)
    (hok : Sound w (.resolveNext call env)) : (w.resolveNext call env).Settled := by
  unfold World.resolveNext
  simp only [Sound] at hok
  split
  · next loaded hat =>
    rw [hat] at hok
    exact (settled_commitRefund h hok.1 hok.2).frame rfl rfl rfl
  · split_ifs
    · exact h.frame rfl rfl rfl
    · exact h.frame (flush_escrowStatus_untouched rfl) rfl rfl
  · split
    · next loaded hat new hap =>
      obtain ⟨-, -, rfl⟩ := approvePayout_ok hap
      exact h.frame (flush_escrowStatus_untouched rfl) rfl rfl
    · exact h.frame rfl rfl rfl
  · next loaded hat =>
    rw [hat] at hok
    exact (settled_commitRelease h hok).frame rfl rfl rfl
  · exact h

/-- **Every sound step keeps the accounts.** -/
theorem settled_step (w : World) (l : Label) (h : w.Settled) (hok : Sound w l) :
    (step w l).Settled := by
  cases l with
  | party call => exact settled_commit h fun tx htx => (PartyCall.run_transfer htx).escrow
  | openDispute buyer =>
    simp only [step]
    split
    · next tx htx => exact h.frame (openDispute_transfer htx).escrow rfl rfl
    · exact h
  | refund net existing => exact settled_commitRefund h hok rfl
  | syncRefund reachable existing =>
    simp only [step, World.commit]
    split
    · next tx htx =>
      rcases syncRefundFromRazorpay_cases htx with rfl | ⟨-, rfl⟩
      · exact h
      · exact Accounts.refunded h
    · exact h
  | dashboardRefund amount => exact h.frame rfl rfl rfl
  | resolveAdminReview action deadline =>
    refine settled_commit h fun tx htx => ?_
    rcases resolveAdminReview_cases htx with hstep | ⟨-, rfl⟩
    · exact hstep.escrow
    · rfl
  | forceComplete reason => exact settled_commit h fun tx htx => (forceComplete_transfer htx).escrow
  | approvePayout profile now =>
    refine settled_commit h fun tx htx => ?_
    obtain ⟨-, -, rfl⟩ := approvePayout_ok htx
    rfl
  | releasePayout admin profile => exact settled_commitRelease h rfl
  | tickRead job now =>
    simp only [step]
    split_ifs
    · exact h.frame rfl rfl rfl
    · exact h
  | tickWrite job =>
    simp only [step]
    split
    · exact h.frame (flush_escrowStatus_untouched rfl) rfl rfl
    · exact h
  | resolveRead call dispute resolution =>
    simp only [step]
    split
    · split_ifs
      · exact h.frame rfl rfl rfl
      · exact h
    · exact h
  | resolveCommit call =>
    simp only [step]
    split
    · exact h.frame (flush_escrowStatus_untouched rfl) rfl rfl
    · exact h
  | resolveNext call env => exact settled_resolveNext h hok

theorem settled_init {tx : Transaction} (payment : Payment) (h : tx.escrowStatus = .held) :
    (World.init tx payment).Settled := by
  unfold World.Settled World.init
  rw [h]
  exact ⟨rfl, rfl⟩

/-- **Escrow money safety.** Whatever the order of the steps of any number of operations on a
transaction, if no `resolve` refunds or pays out on an escrow status that is out of date and no
answer of the refund API is lost, then a refund issued by `refund` and a `SellerPayout` exclude
each other and there is at most one `SellerPayout`. -/
theorem escrow_money_safe (listing : ListingId) (buyer seller : UserId) (gross : Paise)
    (paymentId : PaymentId) (deadline : Time) (payment : Payment) (ls : List Label)
    (h : Run.Meets step Sound
      (.init (.create listing buyer seller gross paymentId deadline) payment) ls) :
    (Run.exec step
      (.init (.create listing buyer seller gross paymentId deadline) payment) ls).MoneySafe :=
  moneySafe_of_settled (Run.exec_inv settled_step (settled_init payment rfl) h)

/-- A dispute that one admin resolves with a refund: an ordinary run. -/
def refundedDisputeRun : List Label :=
  [.openDispute 1, .resolveRead 0 0 .refund, .resolveCommit 0,
    .resolveNext 0 ⟨9, 100, true, .accepted 77, none⟩, .releasePayout 9 true]

theorem escrow_money_safe_refundedDisputeRun :
    Run.Meets step Sound (.init (.create 0 1 2 100000 5 86400) ⟨.captured, 118000, 0⟩)
        refundedDisputeRun ∧
      (Run.exec step (.init (.create 0 1 2 100000 5 86400) ⟨.captured, 118000, 0⟩)
        refundedDisputeRun).MoneySafe :=
  ⟨by decide, escrow_money_safe 0 1 2 100000 5 86400 _ _ (by decide)⟩

/-- The first admin resolves the dispute with a refund and is held up after the first commit;
a second one forces the transfer, approves and releases the payout; then the first call goes on
with the escrow status it read before. -/
def staleResolveRun : List Label :=
  [.openDispute 1, .resolveRead 0 0 .refund, .resolveCommit 0,
    .forceComplete "registrar confirmed", .approvePayout true 100, .releasePayout 9 true,
    .resolveNext 0 ⟨8, 101, true, .accepted 77, none⟩]

/-- **A stale `resolve` refunds after the payout.** -/
theorem stale_resolve_refunds_after_payout :
    ¬ (Run.exec step (.init (.create 0 1 2 100000 5 86400) ⟨.captured, 118000, 0⟩)
        staleResolveRun).MoneySafe := by
  decide

end Deltapreneur.Transfer
