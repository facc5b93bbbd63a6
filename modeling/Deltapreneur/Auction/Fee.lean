import Deltapreneur.Marketplace.Tables

/-!
# Auction fees

Model of `AuctionFeeService` (`app/service/auction/auction_fee_service.py`) and of its
synchronous twin for community auctions (`app/service/auction/auction_fee_sync.py`): the row
`AuctionFeePayment` from its order to its consumption.

* Users whose role waives the fees are left out: no row and no order is made for them.
* A fee verification runs inside the caller's transaction. `verifyBidFeePayment` returns the tables
  as its session sees them, with everything it flushed; `committed` says which tables a rollback
  of the caller goes back to, since `confirm_redemption` and `cancel_redemption` commit.
* Razorpay is configured.
-/

namespace Deltapreneur.Auction

open EdgePoints Marketplace Razorpay

/-! ## Rows -/

/-- `AuctionFeePaymentKind`. -/
inductive FeeKind
  | creation | bid
  deriving Repr, DecidableEq

/-- `AuctionFeeAuctionType`. -/
inductive FeeAuctionType
  | domain | software | community
  deriving Repr, DecidableEq

/-- `AuctionFeePaymentStatus`. -/
inductive FeeStatus
  | created | completed | consumed
  deriving Repr, DecidableEq

/-- `AuctionFeePayment`, unique in `razorpay_order_id`. -/
structure FeePayment where
  paymentKind : FeeKind
  auctionType : FeeAuctionType
  userId : UserId
  auctionId : Option AuctionId
  bidAmount : Option Paise
  feeAmount : Paise
  razorpayOrderId : OrderId
  razorpayPaymentId : Option PaymentId
  status : FeeStatus
  deriving Repr, DecidableEq

structure FeeTables where
  fees : List FeePayment
  wallets : Wallets
  gateway : Gateway Notes

/-- `get_by_order_id`. -/
def FeeTables.feeByOrder (t : FeeTables) (order : OrderId) : Option FeePayment :=
  Table.lookup FeePayment.razorpayOrderId order t.fees

/-- `UPDATE auction_fee_payments … WHERE razorpay_order_id = order`. -/
def FeeTables.editFee (t : FeeTables) (order : OrderId) (f : FeePayment → FeePayment) : FeeTables :=
  { t with fees := Table.update FeePayment.razorpayOrderId order f t.fees }

/-! ## Orders -/

/-- The request of a fee order; `fee` is the platform setting. -/
structure FeeOrderRequest where
  auctionType : FeeAuctionType
  user : UserId
  fee : Paise
  redeemPoints : Bool
  /-- Razorpay answers the order request. -/
  gatewayUp : Bool
  deriving Repr, DecidableEq

/-- The part of the two order calls that is the same: the discount, the order, the pending
redemption and the row; `unreachable` is the text when Razorpay does not answer. -/
def FeeTables.issueFee (t : FeeTables) (r : FeeOrderRequest) (kind : FeeKind)
    (auction : Option AuctionId) (bidAmount : Option Paise) (unreachable : String) :
    FeeTables × Except AppException Unit :=
  let charge := calculateRedemption (t.wallets.edgePoints r.user) (t.wallets.pending r.user) r.fee
    r.redeemPoints
  if r.gatewayUp = false then (t, raise unreachable 502)
  else match t.gateway.createOrder charge.1 (.other r.user) with
    | none => (t, raise "Order amount must be greater than zero." 400)
    | some (order, gateway) =>
      ({ fees := t.fees ++ [⟨kind, r.auctionType, r.user, auction, bidAmount, charge.1, order, none,
            .created⟩]
         wallets := t.wallets.createPendingRedemption r.user order charge.2
         gateway := gateway }, .ok ())

/-- `create_creation_fee_order`. -/
def createCreationFeeOrder (t : FeeTables) (r : FeeOrderRequest) :
    FeeTables × Except AppException Unit :=
  t.issueFee r .creation none none "Unable to create auction creation fee order"

/-- `create_bid_fee_order`. -/
def createBidFeeOrder (t : FeeTables) (r : FeeOrderRequest) (auction : AuctionId)
    (bidAmount : Paise) : FeeTables × Except AppException Unit :=
  if bidAmount = 0 then (t, raise "Bid amount must be positive." 400)
  else if r.fee = 0 then (t, raise "Auction bid placement fee is not configured." 503)
  else t.issueFee r .bid (some auction) (some bidAmount)
    "Unable to reach the payment gateway. Please check your connection and try again."

/-! ## Verification -/

/-- The triple a caller presents. -/
structure Triple where
  order : OrderId
  payment : PaymentId
  /-- The presented signature is the HMAC of `order|payment`. -/
  genuine : Bool
  deriving Repr, DecidableEq

/-- `verify_payment_signature` on a triple. -/
def Triple.verifies (p : Triple) (g : Gateway Notes) : Bool :=
  g.verifyPaymentSignature p.order p.payment p.genuine

/-- `row.status = COMPLETED`, with the payment. -/
def FeePayment.complete (payment : PaymentId) (row : FeePayment) : FeePayment :=
  { row with status := .completed, razorpayPaymentId := some payment }

/-- `row.status = CONSUMED`. -/
def FeePayment.consume (row : FeePayment) : FeePayment := { row with status := .consumed }

/-- `verify_creation_fee_payment`. -/
def verifyCreationFeePayment (t : FeeTables) (user : UserId) (auctionType : FeeAuctionType)
    (p : Triple) : FeeTables × Except AppException Unit :=
  if p.verifies t.gateway = false then
    ({ t with wallets := t.wallets.cancelRedemption p.order },
      raise "Invalid payment signature." 400)
  else match t.feeByOrder p.order with
    | none => (t, raise "Creation fee payment not found." 404)
    | some row =>
      if row.userId ≠ user ∨ row.paymentKind ≠ .creation ∨ row.auctionType ≠ auctionType then
        (t, raise "Creation fee payment not found." 404)
      else if row.status = .consumed then (t, raise "Creation fee payment already used." 409)
      else
        ({ t.editFee p.order (.complete p.payment) with
            wallets := t.wallets.confirmRedemption p.order }, .ok ())

/-- `consume_creation_fee` and `consume_creation_fee_sync`: the row stored as completed. -/
def consumeCreationFee (t : FeeTables) (user : UserId) (auctionType : FeeAuctionType)
    (order : OrderId) (auction : AuctionId) : Except AppException FeeTables :=
  match t.feeByOrder order with
  | none => raise "Valid auction creation fee payment is required." 402
  | some row =>
    if row.userId ≠ user ∨ row.paymentKind ≠ .creation ∨ row.auctionType ≠ auctionType ∨
        row.status ≠ .completed then
      raise "Valid auction creation fee payment is required." 402
    else .ok (t.editFee order fun row => { row.consume with auctionId := some auction })

/-- The checks of a bid fee row, the same in both twins. -/
def checkBidFee (t : FeeTables) (auctionType : FeeAuctionType) (auction : AuctionId) (user : UserId)
    (order : OrderId) (bidAmount : Paise) : Except AppException Unit :=
  match t.feeByOrder order with
  | none => raise "Bid fee payment not found." 404
  | some row =>
    if row.userId ≠ user ∨ row.paymentKind ≠ .bid ∨ row.auctionType ≠ auctionType ∨
        row.auctionId ≠ some auction then
      raise "Bid fee payment not found." 404
    else if row.status = .consumed then raise "Bid fee payment already used." 409
    else if row.bidAmount ≠ some bidAmount then
      raise "Bid amount does not match the paid bid fee order." 400
    else .ok ()

/-- What a verification leaves: the tables its session sees, those that are committed already,
and its result. -/
structure FeeOutcome where
  session : FeeTables
  committed : FeeTables
  result : Except AppException Unit

/-- `verify_bid_fee_payment`. -/
def verifyBidFeePayment (t : FeeTables) (auctionType : FeeAuctionType) (auction : AuctionId)
    (user : UserId) (p : Triple) (bidAmount : Paise) : FeeOutcome :=
  if p.verifies t.gateway = false then
    let cancelled := { t with wallets := t.wallets.cancelRedemption p.order }
    ⟨cancelled, cancelled, raise "Invalid payment signature." 400⟩
  else match checkBidFee t auctionType auction user p.order bidAmount with
    | .error e => ⟨t, t, .error e⟩
    | .ok () =>
      let confirmed := { t.editFee p.order (.complete p.payment) with
        wallets := t.wallets.confirmRedemption p.order }
      ⟨confirmed,
        if (t.wallets.pendingRedemption p.order).isSome then confirmed else t, .ok ()⟩

/-- `verify_bid_fee_sync`: it neither cancels nor confirms the redemption. -/
def verifyBidFeeSync (t : FeeTables) (auction : AuctionId) (user : UserId) (p : Triple)
    (bidAmount : Paise) : FeeOutcome :=
  if p.verifies t.gateway = false then
    ⟨t, t, raise "Invalid bid fee payment signature." 400⟩
  else match checkBidFee t .community auction user p.order bidAmount with
    | .error e => ⟨t, t, .error e⟩
    | .ok () => ⟨t.editFee p.order (.complete p.payment), t, .ok ()⟩

/-- `consume_bid_fee` and `consume_bid_fee_sync` on a row that was just completed. -/
def FeeTables.consumeBidFee (t : FeeTables) (order : OrderId) : FeeTables :=
  t.editFee order .consume

end Deltapreneur.Auction
