import Deltapreneur.Razorpay

/-!
# The domain transfer transaction and the services that write it

Model of the row `DomainMarketplaceTransaction`
(`app/entity/domain/domain_marketplace_transaction_entity.py`) and of the calls that change it:

| here | source (`app/service/domain/…`) |
| --- | --- |
| `refund`, `syncRefundFromRazorpay`, `resolveAdminReview`, `forceComplete` | `domain_transfer_escrow_service.py:71-622` |
| `approvePayout`, `releasePayout` | `domain_transfer_payout_service.py:47-173` |
| `chooseSelfTransfer` … `openDispute` | `domain_transfer_buyer_service.py:43-272` |
| `submitAuthCode` | `domain_transfer_seller_service.py:34-84` |
| `Transaction.escalate` | `domain_transfer_ops_service.py:33-50` |

* Every function here works on the session's object for the row: it checks the attributes the
  object holds and returns the object as the source leaves it. How the object gets to be stale,
  and what a flush then writes, is the business of `Interleaving.lean`.
* The auth code is kept in the clear (`auth_code_ciphertext` is only tested for presence), and
  timestamps nothing reads are left out.
* The seller's payout profile lives in another table; whether it is complete is an argument.
* `_compute_gst_inclusive_amount` is rounded half-up on exact paise.

Results:

* `refund_does`, `syncRefundFromRazorpay_cases`: everything a refund and a sync can do.
* `approvePayout_ok`, `releasePayout_ok`, `resolveAdminReview_cases`: what a call that got through
  has checked, and the object it leaves.
* `PartyCall.run_transfer`, `openDispute_transfer`, `forceComplete_transfer`: the buyer's, the
  seller's and the admin's steps leave the escrow alone and start from an open transfer.
-/

namespace Deltapreneur.Transfer

open Razorpay

/-! ## The row -/

/-- `MarketplaceEscrowStatus` (`app/utils/transfer_enums.py`). -/
inductive EscrowStatus
  | held | released | refunded
  deriving Repr, DecidableEq

/-- `MarketplaceTransferStatus`. -/
inductive TransferStatus
  | paymentCompleted | awaitingAuthCode | authCodeAvailable | authCodeReceived | authCodeViewed
  | transferInProgress | transferCompleted | payoutPending | payoutApproved | payoutReleased
  | completed | sellerPaid | authCodeTimeout | adminReviewRequired | buyerTransferTimeout
  | refunded | disputed | cancelled
  deriving Repr, DecidableEq

/-- The value the enum has in the database and in messages. -/
def TransferStatus.value : TransferStatus → String
  | .paymentCompleted => "PAYMENT_COMPLETED"
  | .awaitingAuthCode => "AWAITING_AUTH_CODE"
  | .authCodeAvailable => "AUTH_CODE_AVAILABLE"
  | .authCodeReceived => "AUTH_CODE_RECEIVED"
  | .authCodeViewed => "AUTH_CODE_VIEWED"
  | .transferInProgress => "TRANSFER_IN_PROGRESS"
  | .transferCompleted => "TRANSFER_COMPLETED"
  | .payoutPending => "PAYOUT_PENDING"
  | .payoutApproved => "PAYOUT_APPROVED"
  | .payoutReleased => "PAYOUT_RELEASED"
  | .completed => "COMPLETED"
  | .sellerPaid => "SELLER_PAID"
  | .authCodeTimeout => "AUTH_CODE_TIMEOUT"
  | .adminReviewRequired => "ADMIN_REVIEW_REQUIRED"
  | .buyerTransferTimeout => "BUYER_TRANSFER_TIMEOUT"
  | .refunded => "REFUNDED"
  | .disputed => "DISPUTED"
  | .cancelled => "CANCELLED"

/-- `TransferDisputeStatus`. -/
inductive TransferDisputeStatus
  | none | open | underReview | resolvedRefund | resolvedPayout | closed
  deriving Repr, DecidableEq

/-- The columns of `DomainMarketplaceTransaction` that the services read. -/
structure Transaction where
  listingId : ListingId
  buyerId : UserId
  sellerId : UserId
  grossAmount : Paise
  razorpayPaymentId : Option PaymentId
  razorpayRefundId : Option RefundId
  escrowStatus : EscrowStatus
  transferStatus : TransferStatus
  disputeStatus : TransferDisputeStatus
  authCode : Option String
  sellerDeadlineAt : Time
  payoutApprovedAt : Option Time
  adminReviewReason : Option String
  deriving Repr, DecidableEq

/-- The row `create_from_payment` inserts
(`domain_marketplace_transaction_service.py:96-108`). -/
def Transaction.create (listing : ListingId) (buyer seller : UserId) (gross : Paise)
    (payment : PaymentId) (deadline : Time) : Transaction where
  listingId := listing
  buyerId := buyer
  sellerId := seller
  grossAmount := gross
  razorpayPaymentId := some payment
  razorpayRefundId := none
  escrowStatus := .held
  transferStatus := .awaitingAuthCode
  disputeStatus := .none
  authCode := none
  sellerDeadlineAt := deadline
  payoutApprovedAt := none
  adminReviewReason := none

/-- The transfer statuses the buyer's and the admin's guards call closed. -/
def TransferStatus.closed : TransferStatus → Bool
  | .sellerPaid | .payoutReleased | .completed | .refunded | .cancelled => true
  | _ => false

/-! ## Escrow service -/

/-- `_compute_gst_inclusive_amount`: the gross amount with 18% GST. -/
def Transaction.gstInclusiveAmount (tx : Transaction) : Paise := (tx.grossAmount * 118 + 50) / 100

/-- The columns a refund sets. -/
def Transaction.markRefunded (tx : Transaction) (refundId : Option RefundId) : Transaction :=
  { tx with
    razorpayRefundId := refundId
    escrowStatus := .refunded
    transferStatus := .refunded }

/-- The refund id of a refunded transaction: the stored one, else the one Razorpay has
(`domain_transfer_escrow_service.py:87-107`). -/
def Transaction.knownRefundId (tx : Transaction) (existing : Option RefundId) : Option RefundId :=
  if tx.razorpayPaymentId.isSome then tx.razorpayRefundId <|> existing else tx.razorpayRefundId

/-- What one call of `refund` leaves: its result with the session's object, the gateway's
record, and whether it made Razorpay pay back money. -/
structure RefundOutcome where
  result : Except AppException Transaction
  payment : Payment
  issued : Bool
  deriving Repr

/-- The exception `refund` raises for a reply without a refund
(`domain_transfer_escrow_service.py:176-205`). -/
def refundError : RefundReply → AppException
  | .cannotRefundInStatus s =>
    ⟨"Cannot refund payment in '" ++ s.value ++
      "' status. Only captured or authorized payments can be refunded.", 409⟩
  | .nothingLeft => ⟨"Nothing left to refund.", 409⟩
  | .rejected .alreadyRefunded => ⟨"Razorpay rejected refund", 409⟩
  | .rejected _ => ⟨"Razorpay rejected refund", 400⟩
  | _ => ⟨"Razorpay refund failed", 502⟩

/-- `refund`. `existing` is what `_fetch_existing_refund_id` finds at Razorpay. -/
def refund (tx : Transaction) (payment : Payment) (net : RefundNetwork)
    (existing : Option RefundId) : RefundOutcome :=
  if tx.escrowStatus = .refunded ∨ tx.transferStatus = .refunded then
    -- idempotent: only a missing refund id is filled in
    ⟨.ok { tx with razorpayRefundId := tx.knownRefundId existing }, payment, false⟩
  else if tx.razorpayPaymentId = none then
    ⟨raise "No payment to refund." 400, payment, false⟩
  else if tx.escrowStatus = .released then
    ⟨raise "Escrow already released (seller paid). Cannot refund." 409, payment, false⟩
  else if tx.transferStatus = .payoutApproved ∨ tx.transferStatus = .payoutReleased ∨
      tx.transferStatus = .completed ∨ tx.transferStatus = .sellerPaid then
    ⟨raise ("Transaction is in terminal state '" ++ tx.transferStatus.value ++
      "'; cannot refund.") 409, payment, false⟩
  else match refundPayment payment tx.gstInclusiveAmount net with
    | (.refund id _, p, issued) => ⟨.ok (tx.markRefunded (some id)), p, issued⟩
    | (.alreadyFullyRefunded, p, issued) => ⟨.ok (tx.markRefunded existing), p, issued⟩
    | (reply, p, issued) => ⟨.error (refundError reply), p, issued⟩

/-- Razorpay reports the payment as fully refunded, as `sync_refund_from_razorpay` reads it
(`domain_transfer_escrow_service.py:348-356`). -/
def hasFullRefund (payment : Payment) (existing : Option RefundId) : Bool :=
  payment.status == .refunded ||
    (0 < payment.amount && payment.amount ≤ payment.amountRefunded && existing.isSome)

/-- `sync_refund_from_razorpay`; `reachable` says whether Razorpay answers. -/
def syncRefundFromRazorpay (tx : Transaction) (payment : Payment) (reachable : Bool)
    (existing : Option RefundId) : Except AppException Transaction :=
  if tx.razorpayPaymentId = none then
    raise "No Razorpay payment ID on this transaction." 400
  else if tx.escrowStatus = .refunded ∧ tx.razorpayRefundId.isSome then .ok tx
  else if reachable = false then raise "Could not fetch payment from Razorpay" 502
  else if hasFullRefund payment existing then .ok (tx.markRefunded existing)
  else .ok tx

/-- The `action` of `resolve_admin_review`. -/
inductive ReviewAction
  | refund | extendDeadline | cancel
  deriving Repr, DecidableEq

/-- `resolve_admin_review`. The action `refund` only opens the Razorpay dashboard. -/
def resolveAdminReview (tx : Transaction) (action : ReviewAction) (deadline : Time) :
    Except AppException Transaction :=
  match action with
  | .cancel =>
    if tx.transferStatus = .refunded ∨ tx.transferStatus = .cancelled ∨
        tx.transferStatus = .completed ∨ tx.transferStatus = .sellerPaid ∨
        tx.transferStatus = .payoutApproved ∨ tx.transferStatus = .payoutReleased then
      raise ("Cannot cancel transaction in terminal state '" ++ tx.transferStatus.value ++ "'.")
        409
    else .ok { tx with transferStatus := .cancelled }
  | .refund =>
    if tx.transferStatus ≠ .adminReviewRequired then
      raise "Transaction is not awaiting admin review." 400
    else if tx.razorpayPaymentId = none then
      raise "No Razorpay payment ID for this transaction." 400
    else .ok tx
  | .extendDeadline =>
    if tx.transferStatus ≠ .adminReviewRequired then
      raise "Transaction is not awaiting admin review." 400
    else .ok { tx with
      transferStatus := .awaitingAuthCode
      sellerDeadlineAt := deadline
      adminReviewReason := none }

/-- `force_complete`; `reason` is blank when the admin gave none. -/
def forceComplete (tx : Transaction) (reason : String) : Except AppException Transaction :=
  if tx.transferStatus.closed then raise "Transaction is already closed." 409
  else if reason = "" then raise "A reason is required to force-complete a transfer." 400
  else .ok { tx with transferStatus := .payoutPending }

/-! ## Payout service -/

/-- `_require_complete_profile`. -/
def incompleteProfile : AppException :=
  ⟨"Cannot approve payout. Seller payout profile is incomplete.", 400⟩

/-- `approve_payout`. -/
def approvePayout (tx : Transaction) (profileComplete : Bool) (now : Time) :
    Except AppException Transaction :=
  if tx.transferStatus = .refunded ∨ tx.transferStatus = .cancelled then
    raise "Transaction has been refunded/cancelled; payout is not eligible." 409
  else if tx.escrowStatus = .refunded then
    raise "Escrow has been refunded; payout is not eligible." 409
  else if tx.transferStatus ≠ .transferCompleted ∧ tx.transferStatus ≠ .payoutPending then
    raise "Transfer must be completed before payout approval." 400
  else if tx.escrowStatus ≠ .held then
    raise "Escrow is not held; cannot approve payout." 409
  else if profileComplete = false then
    raise incompleteProfile.message incompleteProfile.statusCode
  else .ok { tx with transferStatus := .payoutApproved, payoutApprovedAt := some now }

/-- `release_payout`, up to the `SellerPayout` row it adds. -/
def releasePayout (tx : Transaction) (profileComplete : Bool) : Except AppException Transaction :=
  if tx.transferStatus = .refunded ∨ tx.transferStatus = .cancelled then
    raise "Transaction has been refunded/cancelled; payout cannot be released." 409
  else if tx.escrowStatus = .refunded then
    raise "Escrow has been refunded; payout cannot be released." 409
  else if tx.transferStatus ≠ .payoutApproved then
    raise "Payout must be approved before release." 400
  else if tx.payoutApprovedAt = none then
    raise "Payout must be approved before release." 400
  else if tx.escrowStatus ≠ .held then raise "Escrow is not held." 400
  else if profileComplete = false then
    raise incompleteProfile.message incompleteProfile.statusCode
  else .ok { tx with escrowStatus := .released, transferStatus := .completed }

/-- `SellerPayout`, the row that records a payout. -/
structure SellerPayout where
  sellerId : UserId
  releasedBy : UserId
  deriving Repr, DecidableEq

/-! ## Buyer, seller and background steps -/

/-- The shape of the buyer's steps: ownership, a list of statuses, an update. -/
def buyerStep (tx : Transaction) (buyer : UserId) (allowed : List TransferStatus)
    (message : String) (update : Transaction → Transaction) : Except AppException Transaction :=
  if tx.buyerId ≠ buyer then raise "Forbidden." 403
  else if tx.transferStatus ∉ allowed then raise message 400
  else .ok (update tx)

/-- `choose_self_transfer` (its columns `transfer_method` and `buyer_target_registrar` are read
by the WHOIS evidence only). -/
def chooseSelfTransfer (tx : Transaction) (buyer : UserId) : Except AppException Transaction :=
  buyerStep tx buyer [.authCodeAvailable, .authCodeReceived, .authCodeViewed]
    "Cannot choose transfer path in the current state." id

/-- `request_assistance`. -/
def requestAssistance (tx : Transaction) (buyer : UserId) : Except AppException Transaction :=
  buyerStep tx buyer [.authCodeAvailable, .authCodeReceived, .authCodeViewed, .transferInProgress]
    "Cannot request assistance in the current state." id

/-- `mark_transfer_started`. -/
def markTransferStarted (tx : Transaction) (buyer : UserId) : Except AppException Transaction :=
  buyerStep tx buyer [.authCodeViewed, .authCodeAvailable, .authCodeReceived]
    "Cannot start transfer in the current state."
    fun tx => { tx with transferStatus := .transferInProgress }

/-- `confirm_transfer`. -/
def confirmTransfer (tx : Transaction) (buyer : UserId) : Except AppException Transaction :=
  buyerStep tx buyer [.transferInProgress, .authCodeViewed]
    "Cannot confirm transfer in the current state."
    fun tx => { tx with transferStatus := .payoutPending }

/-- `verify_reveal_otp`. There is no check of the transfer status; `otp` is the outcome of the
OTP service and of the decryption. -/
def verifyRevealOtp (tx : Transaction) (buyer : UserId) (otp : Except AppException Unit) :
    Except AppException Transaction :=
  if tx.buyerId ≠ buyer then raise "Forbidden." 403
  else if tx.authCode = none then raise "Auth code is not available yet." 400
  else match otp with
    | .error e => .error e
    | .ok () =>
      if tx.transferStatus = .authCodeAvailable ∨ tx.transferStatus = .authCodeReceived then
        .ok { tx with transferStatus := .authCodeViewed }
      else .ok tx

/-- `open_dispute`, up to the `DomainDispute` row it adds. -/
def openDispute (tx : Transaction) (buyer : UserId) (hasOpen : Bool) :
    Except AppException Transaction :=
  if tx.buyerId ≠ buyer then raise "Forbidden." 403
  else if tx.transferStatus.closed then
    raise "Cannot open a dispute for a closed transaction." 400
  else if hasOpen then raise "A dispute is already open for this transaction." 409
  else .ok { tx with disputeStatus := .open, transferStatus := .disputed }

/-- `submit_auth_code`; `code` comes stripped. -/
def submitAuthCode (tx : Transaction) (seller : UserId) (code : String) :
    Except AppException Transaction :=
  if tx.sellerId ≠ seller then raise "Forbidden." 403
  else if tx.transferStatus ≠ .awaitingAuthCode ∧ tx.transferStatus ≠ .adminReviewRequired then
    raise "Auth code cannot be submitted in the current state." 400
  else if code.length < 4 then raise "Auth code is too short." 400
  else .ok { tx with authCode := some code, transferStatus := .authCodeAvailable }

/-- A row of `list_seller_deadline_candidates`. -/
def Transaction.deadlinePassed (tx : Transaction) (now : Time) : Prop :=
  tx.transferStatus = .awaitingAuthCode ∧ tx.sellerDeadlineAt ≤ now

instance (tx : Transaction) (now : Time) : Decidable (tx.deadlinePassed now) :=
  inferInstanceAs (Decidable (_ ∧ _))

/-- `run_tick` on one candidate: the seller missed the deadline. -/
def Transaction.escalate (tx : Transaction) : Transaction :=
  { tx with
    transferStatus := .adminReviewRequired
    adminReviewReason := some "SELLER_AUTH_CODE_TIMEOUT" }

/-- The steps of the two parties that write nothing but the transaction row. -/
inductive PartyCall
  | chooseSelfTransfer (buyer : UserId)
  | requestAssistance (buyer : UserId)
  | verifyRevealOtp (buyer : UserId) (otp : Except AppException Unit)
  | markTransferStarted (buyer : UserId)
  | confirmTransfer (buyer : UserId)
  | submitAuthCode (seller : UserId) (code : String)

def PartyCall.run (tx : Transaction) : PartyCall → Except AppException Transaction
  | .chooseSelfTransfer buyer => Transfer.chooseSelfTransfer tx buyer
  | .requestAssistance buyer => Transfer.requestAssistance tx buyer
  | .verifyRevealOtp buyer otp => Transfer.verifyRevealOtp tx buyer otp
  | .markTransferStarted buyer => Transfer.markTransferStarted tx buyer
  | .confirmTransfer buyer => Transfer.confirmTransfer tx buyer
  | .submitAuthCode seller code => Transfer.submitAuthCode tx seller code

/-! ## What a call that got through has done -/

/-- The three final statuses of a transfer: nothing but a refund of a cancelled transaction
should change them. -/
def TransferStatus.final : TransferStatus → Bool
  | .completed | .refunded | .cancelled => true
  | _ => false

/-- A change of the row that belongs to a running transfer: listing and escrow stay, and a
transfer status that changes goes from one open status to another. -/
structure TransferStep (tx tx' : Transaction) : Prop where
  listing : tx'.listingId = tx.listingId
  escrow : tx'.escrowStatus = tx.escrowStatus
  status : tx'.transferStatus = tx.transferStatus ∨
    (tx.transferStatus.final = false ∧ tx'.transferStatus.final = false)

variable {tx tx' : Transaction} {buyer seller : UserId} {now deadline : Time} {profile : Bool}

theorem TransferStep.refl (tx : Transaction) : TransferStep tx tx := ⟨rfl, rfl, .inl rfl⟩

theorem buyerStep_transfer {allowed : List TransferStatus} {message : String}
    {update : Transaction → Transaction}
    (h : buyerStep tx buyer allowed message update = .ok tx')
    (hopen : ∀ s ∈ allowed, s.final = false)
    (hlist : (update tx).listingId = tx.listingId)
    (hesc : (update tx).escrowStatus = tx.escrowStatus)
    (hnew : (update tx).transferStatus = tx.transferStatus ∨
      (update tx).transferStatus.final = false) : TransferStep tx tx' := by
  simp only [buyerStep, ite_raise_eq_ok, not_not, Except.ok.injEq] at h
  obtain ⟨-, hmem, rfl⟩ := h
  exact ⟨hlist, hesc, hnew.imp_right fun hn => ⟨hopen _ hmem, hn⟩⟩

theorem verifyRevealOtp_transfer {otp : Except AppException Unit}
    (h : verifyRevealOtp tx buyer otp = .ok tx') : TransferStep tx tx' := by
  simp only [verifyRevealOtp, ite_raise_eq_ok] at h
  obtain ⟨-, -, h⟩ := h
  cases otp with
  | error e => cases h
  | ok u =>
    dsimp only at h
    split_ifs at h with hs
    · cases h
      refine ⟨rfl, rfl, .inr ⟨?_, rfl⟩⟩
      rcases hs with hs | hs <;> rw [hs] <;> rfl
    · cases h
      exact .refl tx

theorem submitAuthCode_transfer {code : String} (h : submitAuthCode tx seller code = .ok tx') :
    TransferStep tx tx' := by
  simp only [submitAuthCode, ite_raise_eq_ok, Except.ok.injEq] at h
  obtain ⟨-, hs, -, rfl⟩ := h
  refine ⟨rfl, rfl, .inr ⟨?_, rfl⟩⟩
  by_cases ha : tx.transferStatus = .awaitingAuthCode
  · rw [ha]; rfl
  · rw [not_not.mp (not_and.mp hs ha)]; rfl

/-- **Every step of the two parties is a transfer step.** -/
theorem PartyCall.run_transfer {c : PartyCall} (h : c.run tx = .ok tx') : TransferStep tx tx' := by
  cases c with
  | chooseSelfTransfer buyer =>
    exact buyerStep_transfer h (by decide) rfl rfl (.inl rfl)
  | requestAssistance buyer =>
    exact buyerStep_transfer h (by decide) rfl rfl (.inl rfl)
  | verifyRevealOtp buyer otp => exact verifyRevealOtp_transfer h
  | markTransferStarted buyer =>
    unfold run Transfer.markTransferStarted at h
    exact buyerStep_transfer h (by decide) rfl rfl (.inr rfl)
  | confirmTransfer buyer =>
    unfold run Transfer.confirmTransfer at h
    exact buyerStep_transfer h (by decide) rfl rfl (.inr rfl)
  | submitAuthCode seller code => exact submitAuthCode_transfer h

theorem TransferStatus.final_of_closed {s : TransferStatus} (h : s.closed = false) :
    s.final = false := by
  cases s <;> first | rfl | cases h

theorem openDispute_transfer {hasOpen : Bool} (h : openDispute tx buyer hasOpen = .ok tx') :
    TransferStep tx tx' := by
  simp only [openDispute, ite_raise_eq_ok, Except.ok.injEq] at h
  obtain ⟨-, hc, -, rfl⟩ := h
  exact ⟨rfl, rfl, .inr ⟨TransferStatus.final_of_closed (by simpa using hc), rfl⟩⟩

theorem forceComplete_transfer {reason : String} (h : forceComplete tx reason = .ok tx') :
    TransferStep tx tx' := by
  simp only [forceComplete, ite_raise_eq_ok, Except.ok.injEq] at h
  obtain ⟨hc, -, rfl⟩ := h
  exact ⟨rfl, rfl, .inr ⟨TransferStatus.final_of_closed (by simpa using hc), rfl⟩⟩

/-- `resolve_admin_review` is a transfer step, or it cancels a transfer that is not final. -/
theorem resolveAdminReview_cases {action : ReviewAction}
    (h : resolveAdminReview tx action deadline = .ok tx') :
    TransferStep tx tx' ∨
      (tx.transferStatus.final = false ∧ tx' = { tx with transferStatus := .cancelled }) := by
  cases action with
  | cancel =>
    simp only [resolveAdminReview, ite_raise_eq_ok, Except.ok.injEq, not_or] at h
    obtain ⟨⟨hr, hc, hd, -⟩, rfl⟩ := h
    refine .inr ⟨?_, rfl⟩
    generalize tx.transferStatus = s at hr hc hd
    cases s <;> first | rfl | contradiction
  | refund =>
    simp only [resolveAdminReview, ite_raise_eq_ok, Except.ok.injEq] at h
    obtain ⟨-, -, rfl⟩ := h
    exact .inl (.refl tx)
  | extendDeadline =>
    simp only [resolveAdminReview, ite_raise_eq_ok, Except.ok.injEq, not_not] at h
    obtain ⟨hs, rfl⟩ := h
    exact .inl ⟨rfl, rfl, .inr ⟨by rw [hs]; rfl, rfl⟩⟩

/-- `approve_payout` got through: the escrow was held and the transfer done. -/
theorem approvePayout_ok (h : approvePayout tx profile now = .ok tx') :
    tx.escrowStatus = .held ∧
      (tx.transferStatus = .transferCompleted ∨ tx.transferStatus = .payoutPending) ∧
      tx' = { tx with transferStatus := .payoutApproved, payoutApprovedAt := some now } := by
  simp only [approvePayout, ite_raise_eq_ok, Except.ok.injEq, not_not] at h
  obtain ⟨-, -, ht, he, -, rfl⟩ := h
  exact ⟨he, by tauto, rfl⟩

/-- `release_payout` got through: the escrow was held and the payout approved. -/
theorem releasePayout_ok (h : releasePayout tx profile = .ok tx') :
    tx.escrowStatus = .held ∧ tx.transferStatus = .payoutApproved ∧
      tx' = { tx with escrowStatus := .released, transferStatus := .completed } := by
  simp only [releasePayout, ite_raise_eq_ok, Except.ok.injEq, not_not] at h
  obtain ⟨-, -, ht, -, he, -, rfl⟩ := h
  exact ⟨he, ht, rfl⟩

/-- Everything `release_payout` asks for. -/
theorem releasePayout_iff : (∃ tx', releasePayout tx profile = .ok tx') ↔
    tx.transferStatus = .payoutApproved ∧ tx.payoutApprovedAt ≠ none ∧ tx.escrowStatus = .held ∧
      profile = true := by
  simp only [releasePayout, ite_raise_eq_ok, Except.ok.injEq, not_not]
  constructor
  · rintro ⟨-, -, -, hstatus, happroved, hheld, hprofile, -⟩
    exact ⟨hstatus, happroved, hheld, by simpa using hprofile⟩
  · rintro ⟨hstatus, happroved, hheld, rfl⟩
    exact ⟨_, by simp [hstatus], by simp [hheld], hstatus, happroved, hheld, by simp, rfl⟩

/-! ## What a refund can do -/

/-- Everything `refund` can do to an object: nothing to a transaction that is already refunded,
an exception, a refund, or an exception after Razorpay has paid. -/
inductive RefundDoes (tx : Transaction) (net : RefundNetwork) : RefundOutcome → Prop
  | already (id : Option RefundId) (p : Payment)
      (h : tx.escrowStatus = .refunded ∨ tx.transferStatus = .refunded) :
      RefundDoes tx net ⟨.ok { tx with razorpayRefundId := id }, p, false⟩
  | refused (e : AppException) (p : Payment) : RefundDoes tx net ⟨.error e, p, false⟩
  | done (id : Option RefundId) (p : Payment) (issued : Bool) (h : tx.escrowStatus = .held) :
      RefundDoes tx net ⟨.ok (tx.markRefunded id), p, issued⟩
  | lost (e : AppException) (p : Payment) (h : tx.escrowStatus = .held)
      (hnet : net = .replyLost) : RefundDoes tx net ⟨.error e, p, true⟩

theorem RefundDoes.of_error {net : RefundNetwork} {e : AppException} {p : Payment} {issued : Bool}
    (hheld : tx.escrowStatus = .held) (h : issued = true → net = .replyLost) :
    RefundDoes tx net ⟨.error e, p, issued⟩ := by
  cases issued with
  | false => exact .refused e p
  | true => exact .lost e p hheld (h rfl)

/-- **`refund`, case by case.** -/
theorem refund_does (tx : Transaction) (payment : Payment) (net : RefundNetwork)
    (existing : Option RefundId) : RefundDoes tx net (refund tx payment net existing) := by
  unfold refund
  split_ifs with h1 h2 h3 h4
  · exact .already _ _ h1
  · exact .refused _ _
  · exact .refused _ _
  · exact .refused _ _
  · have hheld : tx.escrowStatus = .held := by
      generalize tx.escrowStatus = s at h1 h3
      cases s with
      | held => rfl
      | released => exact absurd rfl h3
      | refunded => exact absurd (.inl rfl) h1
    have hproc := @refundPayment_processed payment tx.gstInclusiveAmount net
    split
    · exact .done _ _ _ hheld
    · exact .done _ _ _ hheld
    · next reply p issued hne hna heq =>
      refine .of_error hheld fun hissued => ?_
      rw [heq] at hproc
      refine (hproc hissued).resolve_left ?_
      rintro ⟨id, amount, hr⟩
      exact hne id amount hr

/-- `sync_refund_from_razorpay` leaves the object alone, or marks it refunded because Razorpay
reports a full refund. -/
theorem syncRefundFromRazorpay_cases {payment : Payment} {reachable : Bool}
    {existing : Option RefundId}
    (h : syncRefundFromRazorpay tx payment reachable existing = .ok tx') :
    tx' = tx ∨ ((reachable = true ∧ hasFullRefund payment existing = true) ∧
      tx' = tx.markRefunded existing) := by
  simp only [syncRefundFromRazorpay, ite_raise_eq_ok] at h
  obtain ⟨-, h⟩ := h
  split_ifs at h with hdone hnet hfull
  · exact .inl (Except.ok.inj h).symm
  · exact absurd h raise_ne_ok
  · exact .inr ⟨⟨by simpa using hnet, hfull⟩, (Except.ok.inj h).symm⟩
  · exact .inl (Except.ok.inj h).symm

end Deltapreneur.Transfer
