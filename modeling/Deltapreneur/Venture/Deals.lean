import Deltapreneur.Lib.Decimal
import Deltapreneur.Transfer.Transaction

/-!
# Venture deals

The rows of a venture listing and the decisions of the calls on them: what
`venture_pitch_service.py`, `partnership_service.py` and `venture_deal_service.py`
(`app/service/venture/`) check of the objects they have read, and the objects they write.

* One venture, with its pitches, its co-venture applications and its deals; a row's id is its
  position.
* Amounts are rupees. `deal_value` of the listing is a whole number of them.
* Left out: the columns that are written and not read here (`purchased_by_user_id`, `closed_at`,
  `closed_by_user_id`, `platform_fee_inr`, the times), the timeline and the notifications.
-/

namespace Deltapreneur.VentureDeals

open Decimal Razorpay
open Transfer (EscrowStatus)

/-! ## Rows -/

abbrev PitchId := Nat
abbrev ApplicationId := Nat
abbrev DealId := Nat

/-- `VentureListingMode`. -/
inductive ListingMode
  | venture | coVenture
  deriving Repr, DecidableEq

/-- `VentureListingStatus`. -/
inductive ListingStatus
  | active | closed | dealFinalized | partnershipFinalized | completed
  deriving Repr, DecidableEq

/-- `VentureAcquisitionApplicationStatus`. -/
inductive PitchStatus
  | pending | shortlisted | sellerAccepted | sellerRejected | dealSelected | cancelled | completed
  deriving Repr, DecidableEq

/-- `CoVentureStatus`. -/
inductive CoVentureStatus
  | pending | approved | rejected | selected
  deriving Repr, DecidableEq

/-- `VentureDealKind`. -/
inductive DealKind
  | ventureSale | coVenture
  deriving Repr, DecidableEq

/-- `VentureDealStatus`. -/
inductive DealStatus
  | pendingAdminApproval | pendingPayment | paymentHeld | inProgress | completed | cancelled
  | refunded
  deriving Repr, DecidableEq

structure Venture where
  listedByUserId : Option UserId
  /-- `status and not taken_down`. -/
  onDisplay : Bool
  /-- `listing_approval_status` is `APPROVED`. -/
  approved : Bool
  listingMode : ListingMode
  listingStatus : ListingStatus
  /-- `deal_type` is `FULL_ACQUISITION`. -/
  fullAcquisition : Bool
  /-- `equity_percent_offered` is set. -/
  equityOffered : Bool
  /-- `brand_details.deal_value`. -/
  dealValue : Option ℤ
  selectedPitchId : Option PitchId
  selectedCoventureId : Option ApplicationId
  deriving DecidableEq

/-- `VenturePitch`. -/
structure Pitch where
  buyerUserId : UserId
  status : PitchStatus
  offerAmount : ℚ
  deriving DecidableEq

/-- `CoVenture`: an application to become a partner. -/
structure CoVenture where
  applicantUserId : UserId
  status : CoVentureStatus
  deriving Repr, DecidableEq

/-- `VentureDealTransaction`. -/
structure Deal where
  buyerId : UserId
  pitchId : Option PitchId
  coVentureApplicationId : Option ApplicationId
  dealKind : DealKind
  dealStatus : DealStatus
  escrowStatus : EscrowStatus
  grossAmountInr : ℚ
  sellerPayoutInr : ℚ
  razorpayOrderId : Option OrderId
  razorpayPaymentId : Option PaymentId
  razorpayRefundId : Option RefundId
  deriving DecidableEq

structure Rows where
  venture : Venture
  pitches : List Pitch
  applications : List CoVenture
  deals : List Deal
  deriving DecidableEq

/-! ## Pitches -/

/-- The arguments of `submit_pitch`. -/
structure Bid where
  buyer : UserId
  offeredAmount : ℚ
  requestedEquityPercent : ℚ
  /-- The message is not blank. -/
  hasMessage : Bool
  deriving DecidableEq

/-- The statuses that keep a buyer from bidding again. -/
def PitchStatus.isActive : PitchStatus → Bool
  | .pending | .shortlisted | .sellerAccepted | .dealSelected => true
  | _ => false

/-- `submit_pitch` up to its lock. -/
def checkBid (bid : Bid) : Except AppException Unit :=
  if bid.offeredAmount ≤ 0 then raise "Bid amount must be positive." 400
  else if bid.requestedEquityPercent ≤ 0 ∨ 100 < bid.requestedEquityPercent then
    raise "Equity percent must be between 0 and 100." 400
  else if ¬ bid.hasMessage then raise "Message is required." 400
  else .ok ()

/-- `submit_pitch` on the locked listing: the pitch that it inserts. -/
def submitPitch (venture : Venture) (prior : Option Pitch) (bid : Bid) :
    Except AppException Pitch :=
  if venture.listingMode ≠ .venture then
    raise "Bids are only accepted on venture sale listings." 400
  else if ¬ venture.approved then raise "This venture is not available for bids yet." 400
  else if ¬ venture.fullAcquisition ∧ ¬ venture.equityOffered then
    raise "This venture is not available for bids yet." 400
  else if venture.listingStatus ≠ .active then
    raise "This venture is no longer accepting bids." 400
  else if venture.listedByUserId = some bid.buyer then
    raise "You cannot bid on your own venture." 400
  else if (prior.map (·.status.isActive)).getD false then
    raise "You already have an active bid on this venture." 409
  else .ok ⟨bid.buyer, .pending, bid.offeredAmount⟩

/-- `seller_accept`. -/
def sellerAccept (venture : Venture) (app : Pitch) (seller : UserId) : Except AppException Pitch :=
  if venture.listedByUserId ≠ some seller then raise "Not authorized." 403
  else if app.status ∉ [.pending, .shortlisted] then raise "Bid is not pending." 400
  else .ok { app with status := .sellerAccepted }

/-- `seller_reject`. -/
def sellerReject (venture : Venture) (app : Pitch) (seller : UserId) : Except AppException Pitch :=
  if venture.listedByUserId ≠ some seller then raise "Not authorized." 403
  else if app.status ∉ [.pending, .shortlisted, .sellerAccepted] then
    raise "Bid cannot be rejected in its current state." 400
  else .ok { app with status := .sellerRejected }

/-- `buyer_withdraw`. -/
def buyerWithdraw (app : Pitch) (buyer : UserId) : Except AppException Pitch :=
  if app.buyerUserId ≠ buyer then raise "Not authorized." 403
  else if app.status ∉ [.pending, .shortlisted] then
    raise "Only pending pitches can be withdrawn." 400
  else .ok { app with status := .cancelled }

/-! ## Closing a listing with a deal -/

/-- `finalize_deal` on the locked listing. -/
def finalizeListing (venture : Venture) (seller : UserId) : Except AppException Unit :=
  if venture.listedByUserId ≠ some seller then raise "Not authorized." 403
  else if ¬ venture.approved then raise "This venture is not approved for deals yet." 400
  else if venture.listingStatus ≠ .active then raise "Listing is not active." 400
  else .ok ()

/-- `finalize_deal` on the pitch. -/
def selectPitch (app : Pitch) : Except AppException Pitch :=
  if app.status ∉ [.pending, .shortlisted, .sellerAccepted] then
    raise "Pitch cannot be selected for deal." 400
  else .ok { app with status := .dealSelected }

/-- `finalize_deal` on the listing. -/
def Venture.finalized (v : Venture) (pitch : PitchId) : Venture :=
  { v with listingStatus := .dealFinalized, selectedPitchId := some pitch }

/-- `round_inr`. -/
def roundInr (value : ℚ) : ℤ := roundAway value

/-- `seller_payout_inr` of a new deal. -/
def sellerPayout (gross commissionPct : ℚ) : ℚ :=
  roundInr gross - roundInr (roundInr (gross * commissionPct / 100))

/-- `create_from_pitch`. -/
def createFromPitch (id : PitchId) (pitch : Pitch) (commissionPct : ℚ) :
    Except AppException Deal :=
  if pitch.offerAmount ≤ 0 then raise "Pitch must include a valid offer amount." 400
  else .ok {
    buyerId := pitch.buyerUserId
    pitchId := some id
    coVentureApplicationId := none
    dealKind := .ventureSale
    dealStatus := .pendingAdminApproval
    escrowStatus := .held
    grossAmountInr := pitch.offerAmount
    sellerPayoutInr := sellerPayout pitch.offerAmount commissionPct
    razorpayOrderId := none
    razorpayPaymentId := none
    razorpayRefundId := none }

/-! ## Deals -/

/-- `admin_approve_deal`. -/
def adminApproveDeal (txn : Deal) : Except AppException Deal :=
  if txn.dealStatus ≠ .pendingAdminApproval then raise "Deal is not awaiting admin approval." 400
  else .ok { txn with dealStatus := .pendingPayment }

/-- `admin_reject_deal`. -/
def adminRejectDeal (txn : Deal) : Except AppException Deal :=
  if txn.dealStatus ≠ .pendingAdminApproval then raise "Deal is not awaiting admin approval." 400
  else .ok { txn with dealStatus := .cancelled }

/-- What `admin_reject_deal` and `admin_refund` do to the listing. -/
def Venture.reopened (v : Venture) : Venture :=
  { v with listingStatus := .active, selectedPitchId := none }

/-- The checks of `create_payment_order`. -/
def createPaymentOrder (txn : Deal) (buyer : UserId) (configured : Bool) :
    Except AppException Unit :=
  if ¬ configured then raise "Payment gateway is not configured." 503
  else if txn.buyerId ≠ buyer then raise "Not authorized." 403
  else if txn.dealStatus ≠ .pendingPayment then raise "Deal is not awaiting payment." 400
  else .ok ()

/-- The deal after `create_payment_order`: without a price it needs no payment. -/
def Deal.ordered (txn : Deal) (order : OrderId) : Deal :=
  if txn.grossAmountInr ≤ 0 then { txn with dealStatus := .inProgress }
  else { txn with razorpayOrderId := some order }

/-- `verify_payment` on the locked deal: `none` for a deal whose payment is held already. -/
def verifyPayment (txn : Deal) (buyer : UserId) (payment : PaymentId) (order : OrderId)
    (signatureOk : Bool) : Except AppException (Option Deal) :=
  if txn.buyerId ≠ buyer then raise "Not authorized." 403
  else if txn.dealStatus = .paymentHeld then .ok none
  else if txn.dealStatus ≠ .pendingPayment then raise "Deal is not awaiting payment." 400
  else if txn.razorpayOrderId.isSome ∧ txn.razorpayOrderId ≠ some order then
    raise "Payment order does not match this deal." 400
  else if ¬ signatureOk then raise "Payment verification failed." 400
  else .ok (some { txn with
    razorpayPaymentId := some payment
    razorpayOrderId := some order
    dealStatus := .paymentHeld
    escrowStatus := .held })

/-- `admin_release_escrow` on the deal. -/
def adminReleaseEscrow (txn : Deal) (profileComplete : Bool) : Except AppException Deal :=
  if txn.dealStatus ≠ .paymentHeld then raise "Deal is not awaiting escrow release." 400
  else if txn.escrowStatus ≠ .held then raise "Escrow is not in a held state." 400
  else if 0 < txn.grossAmountInr ∧ txn.razorpayPaymentId = none then
    raise "Cannot release escrow without a recorded payment." 400
  else if 0 < txn.sellerPayoutInr ∧ ¬ profileComplete then
    raise "Cannot release escrow. Seller payout profile is incomplete." 400
  else .ok { txn with dealStatus := .completed, escrowStatus := .released }

/-- `admin_release_escrow` on the listing. -/
def Venture.released (v : Venture) (kind : DealKind) : Venture :=
  if kind = .ventureSale then { v with listingStatus := .completed } else v

/-- `admin_refund` before it calls Razorpay: the payment, or `none` for a deal that is refunded
already. -/
def adminRefund (txn : Deal) : Except AppException (Option PaymentId) :=
  if txn.dealStatus = .refunded then .ok none
  else if txn.escrowStatus = .released then raise "Escrow already released; cannot refund." 400
  else match txn.razorpayPaymentId with
    | none => raise "No payment to refund." 400
    | some payment => .ok (some payment)

/-- `admin_refund` on the deal. -/
def Deal.refunded (txn : Deal) (id : RefundId) : Deal :=
  { txn with razorpayRefundId := some id, dealStatus := .refunded, escrowStatus := .refunded }

/-- `_to_smallest_unit` of rupees. -/
def toSmallestUnit (amount : ℚ) : Paise := (roundEven (amount * 100)).toNat

/-! ## What a call has checked -/

section Checks

variable {venture : Venture} {txn new : Deal} {app app' : Pitch} {buyer seller : UserId}
  {payment : PaymentId} {order : OrderId}

theorem submitPitch_ok {prior : Option Pitch} {bid : Bid}
    (h : submitPitch venture prior bid = .ok app) : app.status = .pending := by
  simp only [submitPitch, ite_raise_eq_ok, Except.ok.injEq] at h
  rw [← h.2.2.2.2.2.2]

theorem finalizeListing_ok (h : finalizeListing venture seller = .ok ()) :
    venture.listingStatus = .active := by
  simp only [finalizeListing, ite_raise_eq_ok, not_not] at h
  exact h.2.2.1

theorem selectPitch_ok (h : selectPitch app = .ok app') : app'.status = .dealSelected := by
  simp only [selectPitch, ite_raise_eq_ok, Except.ok.injEq] at h
  rw [← h.2]

theorem createFromPitch_ok {id : PitchId} {pct : ℚ} (h : createFromPitch id app pct = .ok new) :
    new.dealStatus = .pendingAdminApproval ∧ new.razorpayPaymentId = none ∧
      new.dealKind = .ventureSale := by
  simp only [createFromPitch, ite_raise_eq_ok, Except.ok.injEq] at h
  obtain ⟨-, rfl⟩ := h
  exact ⟨rfl, rfl, rfl⟩

theorem adminApproveDeal_ok (h : adminApproveDeal txn = .ok new) :
    txn.dealStatus = .pendingAdminApproval ∧ new = { txn with dealStatus := .pendingPayment } := by
  simp only [adminApproveDeal, ite_raise_eq_ok, not_not, Except.ok.injEq] at h
  exact ⟨h.1, h.2.symm⟩

theorem adminRejectDeal_ok (h : adminRejectDeal txn = .ok new) :
    txn.dealStatus = .pendingAdminApproval ∧ new = { txn with dealStatus := .cancelled } := by
  simp only [adminRejectDeal, ite_raise_eq_ok, not_not, Except.ok.injEq] at h
  exact ⟨h.1, h.2.symm⟩

theorem createPaymentOrder_ok {configured : Bool}
    (h : createPaymentOrder txn buyer configured = .ok ()) : txn.dealStatus = .pendingPayment := by
  simp only [createPaymentOrder, ite_raise_eq_ok, not_not] at h
  exact h.2.2.1

/-- The deal when its payment is held. -/
def Deal.paidBy (txn : Deal) (payment : PaymentId) (order : OrderId) : Deal :=
  { txn with
    razorpayPaymentId := some payment
    razorpayOrderId := some order
    dealStatus := .paymentHeld
    escrowStatus := .held }

theorem verifyPayment_iff {signatureOk : Bool} :
    verifyPayment txn buyer payment order signatureOk = .ok (some new) ↔
      txn.buyerId = buyer ∧ txn.dealStatus = .pendingPayment ∧
        (∀ stored ∈ txn.razorpayOrderId, stored = order) ∧ signatureOk = true ∧
        txn.paidBy payment order = new := by
  have hstored : ¬ (txn.razorpayOrderId.isSome = true ∧ txn.razorpayOrderId ≠ some order) ↔
      ∀ stored ∈ txn.razorpayOrderId, stored = order := by
    cases txn.razorpayOrderId <;> simp
  unfold verifyPayment
  rw [ite_raise_eq_ok, not_not]
  refine and_congr_right fun _ => ?_
  by_cases hheld : txn.dealStatus = .paymentHeld
  · simp [hheld]
  · simp only [hheld, if_false, ite_raise_eq_ok, not_not, Except.ok.injEq, Option.some.injEq,
      hstored]
    rfl

theorem verifyPayment_ok {signatureOk : Bool}
    (h : verifyPayment txn buyer payment order signatureOk = .ok (some new)) :
    txn.dealStatus = .pendingPayment ∧ new = txn.paidBy payment order := by
  obtain ⟨-, hstatus, -, -, hnew⟩ := verifyPayment_iff.mp h
  exact ⟨hstatus, hnew.symm⟩

theorem adminReleaseEscrow_ok {profileComplete : Bool}
    (h : adminReleaseEscrow txn profileComplete = .ok new) :
    txn.dealStatus = .paymentHeld ∧ txn.escrowStatus = .held ∧
      new = { txn with dealStatus := .completed, escrowStatus := .released } := by
  simp only [adminReleaseEscrow, ite_raise_eq_ok, not_not, Except.ok.injEq] at h
  exact ⟨h.1, h.2.1, h.2.2.2.2.symm⟩

theorem adminRefund_ok (h : adminRefund txn = .ok (some payment)) :
    txn.dealStatus ≠ .refunded ∧ txn.escrowStatus ≠ .released ∧
      txn.razorpayPaymentId = some payment := by
  unfold adminRefund at h
  by_cases hrefunded : txn.dealStatus = .refunded
  · simp [hrefunded] at h
  · rw [if_neg hrefunded, ite_raise_eq_ok] at h
    cases hpayment : txn.razorpayPaymentId with
    | none => simp [hpayment] at h
    | some payment' =>
      simp only [hpayment, Except.ok.injEq, Option.some.injEq] at h
      exact ⟨hrefunded, h.1, by rw [h.2]⟩

theorem adminRefund_of (hstatus : txn.dealStatus ≠ .refunded)
    (hescrow : txn.escrowStatus ≠ .released) (hpayment : txn.razorpayPaymentId = some payment) :
    adminRefund txn = .ok (some payment) := by
  simp [adminRefund, hstatus, hescrow, hpayment]

end Checks

end Deltapreneur.VentureDeals
