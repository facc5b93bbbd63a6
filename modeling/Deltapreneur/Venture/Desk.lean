import Deltapreneur.Lib.Run
import Deltapreneur.Lib.UnitOfWork
import Deltapreneur.Venture.Deals

/-!
# The calls on a venture, statement by statement

Model of what concurrent calls of `venture_pitch_service.py` and `venture_deal_service.py`
(`app/service/venture/`) do to one venture, its pitches and its deals. A label starts a call with
its first statement, or executes the next one of a call in flight.

* `submit_pitch`, `finalize_deal` and `close_listing` lock the listing; `verify_payment` and
  `admin_release_escrow` lock the deal. The others read without a lock. A `SELECT … FOR UPDATE` and
  an `UPDATE` wait while another call holds the row; locks are held until the commit.
* The `UPDATE`s right before a commit and the commit are one statement, as nothing is read in
  between. `admin_reject_deal` and `admin_refund` update the deal first and read the listing again
  with it (`VentureDealRepository.save`), which is a statement of its own.
* An `UPDATE` sets the columns that differ from what the call has read (`UnitOfWork`).
* The call of `refund_payment` is a step between the read and the `UPDATE`. What becomes of it, of
  the order that is created and of the signature comes with the call; so does whether a deal of
  another venture has the payment.
* A call that raises rolls back. A pitch of a buyer who has one is refused by
  `uq_venture_pitches_venture_buyer`, and a payment that another deal has by the unique column.
* Left out: the redemption of points, which other tables hold.
-/

namespace Deltapreneur.VentureDeals

open Razorpay UnitOfWork

/-! ## Columns that an `UPDATE` sets -/

def Venture.flush (loaded new row : Venture) : Venture :=
  { row with
    listingStatus := flushColumn loaded.listingStatus new.listingStatus row.listingStatus
    selectedPitchId := flushColumn loaded.selectedPitchId new.selectedPitchId row.selectedPitchId }

def Pitch.flush (loaded new row : Pitch) : Pitch :=
  { row with status := flushColumn loaded.status new.status row.status }

def Deal.flush (loaded new row : Deal) : Deal :=
  { row with
    dealStatus := flushColumn loaded.dealStatus new.dealStatus row.dealStatus
    escrowStatus := flushColumn loaded.escrowStatus new.escrowStatus row.escrowStatus
    razorpayOrderId := flushColumn loaded.razorpayOrderId new.razorpayOrderId row.razorpayOrderId
    razorpayPaymentId :=
      flushColumn loaded.razorpayPaymentId new.razorpayPaymentId row.razorpayPaymentId
    razorpayRefundId :=
      flushColumn loaded.razorpayRefundId new.razorpayRefundId row.razorpayRefundId }

/-! ## Calls -/

inductive Op
  | submitPitch (bid : Bid)
  | sellerAccept (pitch : PitchId) (seller : UserId)
  | sellerReject (pitch : PitchId) (seller : UserId)
  | buyerWithdraw (pitch : PitchId) (buyer : UserId)
  | finalizeDeal (pitch : PitchId) (seller : UserId) (commissionPct : ℚ)
  | closeListing (actor : UserId) (admin : Bool)
  | adminApproveDeal (deal : DealId)
  | adminRejectDeal (deal : DealId)
  /-- Without an order the gateway has raised. -/
  | createPaymentOrder (deal : DealId) (buyer : UserId) (configured : Bool)
    (order : Option OrderId)
  | verifyPayment (deal : DealId) (buyer : UserId) (payment : PaymentId) (order : OrderId)
    (signatureOk linkedElsewhere : Bool)
  | adminReleaseEscrow (deal : DealId) (profileComplete : Bool)
  | adminRefund (deal : DealId) (net : RefundNetwork)

/-- Where a call stands, with the objects it has read and what it has made of them. -/
inductive Call
  | idle
  /-- `submit_pitch` has locked the listing. -/
  | submitting (bid : Bid)
  /-- A decision on a pitch is about to be written. -/
  | deciding (pitch : PitchId) (loaded new : Pitch)
  /-- `finalize_deal` has locked the listing. -/
  | finalizing (pitch : PitchId) (commissionPct : ℚ)
  /-- `finalize_deal` has read the pitch. -/
  | selecting (pitch : PitchId) (loaded new : Pitch) (deal : Deal)
  /-- `close_listing` has locked the listing. -/
  | closing
  | approving (deal : DealId) (loaded new : Deal)
  | ordering (deal : DealId) (loaded new : Deal)
  /-- `verify_payment` has found no deal with the payment. -/
  | verifying (deal : DealId) (buyer : UserId) (payment : PaymentId) (order : OrderId)
    (signatureOk : Bool)
  /-- `verify_payment` has locked the deal. -/
  | paying (deal : DealId) (loaded new : Deal)
  /-- `admin_release_escrow` has locked the deal. -/
  | releasing (deal : DealId) (loaded new : Deal) (listing : Venture)
  /-- `admin_refund` is about to call Razorpay. -/
  | refunding (deal : DealId) (loaded : Deal) (payment : PaymentId) (net : RefundNetwork)
  /-- A rejected or refunded deal is about to be updated. -/
  | ending (deal : DealId) (loaded new : Deal) (reopens : Bool)
  /-- The deal is updated and the listing is read again. -/
  | reopening (deal : DealId) (loaded new : Deal) (reopens : Bool) (listing : Venture)

/-- What happened to a deal's money. -/
inductive Event
  /-- A release is committed. -/
  | released (deal : DealId)
  /-- Razorpay has paid back. -/
  | paidBack (deal : DealId) (amount : Paise)
  /-- A refund is committed. -/
  | refunded (deal : DealId)
  deriving Repr, DecidableEq

/-! ## State -/

/-- The committed rows, Razorpay's records of the payments, the locks and the calls in flight. -/
structure World where
  rows : Rows
  payments : PaymentId → Payment
  events : List Event
  ventureLock : Option Nat
  dealLock : DealId → Option Nat
  calls : Nat → Call

/-- Nothing is in flight. -/
def World.init (rows : Rows) (payments : PaymentId → Payment) : World :=
  ⟨rows, payments, [], none, fun _ => none, fun _ => .idle⟩

def World.setCall (w : World) (k : Nat) (c : Call) : World :=
  { w with calls := Function.update w.calls k c }

/-- The transaction of call `k` ends: its locks are free. -/
def World.finish (w : World) (k : Nat) : World :=
  { w with
    ventureLock := if w.ventureLock = some k then none else w.ventureLock
    dealLock := fun d => if w.dealLock d = some k then none else w.dealLock d }.setCall k .idle

/-- Call `k` commits `rows`. -/
def World.commit (w : World) (k : Nat) (rows : Rows) : World := { w with rows }.finish k

def World.lockVenture (w : World) (k : Nat) (c : Call) : World :=
  { w with ventureLock := some k }.setCall k c

def World.lockDeal (w : World) (k : Nat) (d : DealId) (c : Call) : World :=
  { w with dealLock := Function.update w.dealLock d (some k) }.setCall k c

def Rows.setDeal (r : Rows) (d : DealId) (f : Deal → Deal) : Rows :=
  { r with deals := r.deals.modify d f }

def Rows.setPitch (r : Rows) (p : PitchId) (f : Pitch → Pitch) : Rows :=
  { r with pitches := r.pitches.modify p f }

/-- A deal of the venture, other than `d`, has the payment. -/
def Rows.linked (r : Rows) (payment : PaymentId) (d : Option DealId) : Bool :=
  (List.range r.deals.length).any fun i =>
    some i ≠ d && (r.deals[i]?.bind (·.razorpayPaymentId)) == some payment

/-! ## Steps -/

/-- A decision on a pitch that was read goes on. -/
def World.decide (w : World) (k : Nat) (p : PitchId)
    (decision : Pitch → Except AppException Pitch) : World :=
  match w.rows.pitches[p]? with
  | none => w
  | some loaded =>
    match decision loaded with
    | .ok new => w.setCall k (.deciding p loaded new)
    | .error _ => w

/-- The first statement of a call. -/
def World.start (w : World) (k : Nat) : Op → World
  | .submitPitch bid =>
    match checkBid bid, w.ventureLock with
    | .ok (), none => w.lockVenture k (.submitting bid)
    | _, _ => w
  | .sellerAccept p seller => w.decide k p fun app => sellerAccept w.rows.venture app seller
  | .sellerReject p seller => w.decide k p fun app => sellerReject w.rows.venture app seller
  | .buyerWithdraw p buyer => w.decide k p fun app => buyerWithdraw app buyer
  | .finalizeDeal p seller commissionPct =>
    match finalizeListing w.rows.venture seller, w.ventureLock with
    | .ok (), none => w.lockVenture k (.finalizing p commissionPct)
    | _, _ => w
  | .closeListing actor admin =>
    match w.ventureLock with
    | none =>
      if ¬ admin ∧ w.rows.venture.listedByUserId ≠ some actor then w
      else w.lockVenture k .closing
    | some _ => w
  | .adminApproveDeal d =>
    match w.rows.deals[d]? with
    | none => w
    | some txn =>
      match adminApproveDeal txn with
      | .ok new => w.setCall k (.approving d txn new)
      | .error _ => w
  | .adminRejectDeal d =>
    match w.rows.deals[d]? with
    | none => w
    | some txn =>
      match adminRejectDeal txn with
      | .ok new => w.setCall k (.ending d txn new true)
      | .error _ => w
  | .createPaymentOrder d buyer configured order =>
    match w.rows.deals[d]? with
    | none => w
    | some txn =>
      match createPaymentOrder txn buyer configured, order with
      | .ok (), some order => w.setCall k (.ordering d txn (txn.ordered order))
      | .ok (), none =>
        if txn.grossAmountInr ≤ 0 then w.setCall k (.ordering d txn (txn.ordered 0)) else w
      | .error _, _ => w
  | .verifyPayment d buyer payment order signatureOk linkedElsewhere =>
    if linkedElsewhere ∨ w.rows.linked payment none then w
    else w.setCall k (.verifying d buyer payment order signatureOk)
  | .adminReleaseEscrow d profileComplete =>
    match w.dealLock d, w.rows.deals[d]? with
    | none, some txn =>
      match adminReleaseEscrow txn profileComplete with
      | .ok new => w.lockDeal k d (.releasing d txn new w.rows.venture)
      | .error _ => w
    | _, _ => w
  | .adminRefund d net =>
    match w.rows.deals[d]? with
    | none => w
    | some txn =>
      match adminRefund txn with
      | .ok (some payment) => w.setCall k (.refunding d txn payment net)
      | _ => w

/-- The call of `refund_payment` in `admin_refund`. -/
def World.callRazorpay (w : World) (k : Nat) (d : DealId) (loaded : Deal) (payment : PaymentId)
    (net : RefundNetwork) : World :=
  let (reply, record, issued) :=
    refundPayment (w.payments payment) (toSmallestUnit loaded.grossAmountInr) net
  let amount := record.amountRefunded - (w.payments payment).amountRefunded
  let w := { w with
    payments := Function.update w.payments payment record
    events := if issued then .paidBack d amount :: w.events else w.events }
  match reply with
  | .refund id _ =>
    w.setCall k (.ending d loaded (loaded.refunded id) (loaded.dealKind = .ventureSale))
  | _ => w.finish k

/-- The rows after `finalize_deal`. -/
def Rows.finalize (r : Rows) (p : PitchId) (loaded new : Pitch) (deal : Deal) : Rows :=
  { r.setPitch p (Pitch.flush loaded new) with
    venture := r.venture.finalized p
    deals := r.deals ++ [deal] }

/-- The rows after `admin_release_escrow`. -/
def Rows.release (r : Rows) (d : DealId) (loaded new : Deal) (listing : Venture) : Rows :=
  { r.setDeal d (Deal.flush loaded new) with
    venture := listing.flush (listing.released loaded.dealKind) r.venture }

/-- The rows after `admin_reject_deal` or `admin_refund`. -/
def Rows.endDeal (r : Rows) (d : DealId) (loaded new : Deal) (reopens : Bool)
    (listing : Venture) : Rows :=
  { r.setDeal d (Deal.flush loaded new) with
    venture := if reopens then listing.flush listing.reopened r.venture else r.venture }

/-- The next statement of call `k`. -/
def World.next (w : World) (k : Nat) : Call → World
  | .idle => w
  | .submitting bid =>
    let prior := w.rows.pitches.find? fun p => p.buyerUserId = bid.buyer
    match submitPitch w.rows.venture prior bid, prior with
    | .ok pitch, none => w.commit k { w.rows with pitches := w.rows.pitches ++ [pitch] }
    | _, _ => w.finish k
  | .deciding p loaded new => w.commit k (w.rows.setPitch p (Pitch.flush loaded new))
  | .finalizing p commissionPct =>
    match w.rows.pitches[p]? with
    | none => w.finish k
    | some app =>
      match selectPitch app, createFromPitch p app commissionPct with
      | .ok new, .ok deal => w.setCall k (.selecting p app new deal)
      | _, _ => w.finish k
  | .selecting p loaded new deal => w.commit k (w.rows.finalize p loaded new deal)
  | .closing =>
    w.commit k { w.rows with venture := { w.rows.venture with listingStatus := .closed } }
  | .approving d loaded new | .ordering d loaded new =>
    if w.dealLock d = none then w.commit k (w.rows.setDeal d (Deal.flush loaded new)) else w
  | .verifying d buyer payment order signatureOk =>
    if w.dealLock d = none then
      match w.rows.deals[d]? with
      | none => w.finish k
      | some txn =>
        match verifyPayment txn buyer payment order signatureOk with
        | .ok (some new) => w.lockDeal k d (.paying d txn new)
        | _ => w.finish k
    else w
  | .paying d loaded new =>
    if (new.razorpayPaymentId.map (w.rows.linked · (some d))).getD false then w.finish k
    else w.commit k (w.rows.setDeal d (Deal.flush loaded new))
  | .releasing d loaded new listing =>
    if listing.released loaded.dealKind ≠ listing ∧ w.ventureLock ≠ none then w
    else { w with events := .released d :: w.events }.commit k (w.rows.release d loaded new listing)
  | .refunding d loaded payment net => w.callRazorpay k d loaded payment net
  | .ending d loaded new reopens =>
    if w.dealLock d = none then w.lockDeal k d (.reopening d loaded new reopens w.rows.venture)
    else w
  | .reopening d loaded new reopens listing =>
    if reopens ∧ listing.reopened ≠ listing ∧ w.ventureLock ≠ none then w
    else
      { w with
        events := if new.dealStatus = DealStatus.refunded then .refunded d :: w.events else w.events }.commit
          k (w.rows.endDeal d loaded new reopens listing)

inductive Label
  | call (k : Nat) (op : Op)
  | next (k : Nat)

/-- One statement. A label that is not enabled, or whose statement has to wait, leaves the state as
it is. -/
def step (w : World) : Label → World
  | .call k op =>
    match w.calls k with
    | .idle => w.start k op
    | _ => w
  | .next k => w.next k (w.calls k)

end Deltapreneur.VentureDeals
