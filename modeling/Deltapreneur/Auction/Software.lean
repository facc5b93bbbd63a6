import Deltapreneur.Auction.Bidding
import Deltapreneur.Auction.Fee

/-!
# Software auctions

Model of `SoftwareAuctionService` (`app/service/cocreation/software_auction_service.py`), whole
calls on committed tables, and of the branch of `_forfeit_unpaid_winner`
(`app/service/auction/winner_payment_lifecycle.py:218-231`) that writes a software auction.

* An auction is its row in `software`; the position is the id.
* What other tables say is part of a request: who lists the software, whether the technology is
  verified, whether the user is blocked from bidding.
* The purchase that a paid winner gets (`complete_auction_winner_purchase`,
  `cocreation_payment_service.py:557-617`) is remembered by its order id; `completes` says whether
  its other rows and mails go through. The columns of the software listing itself are left out.
* `list_by_auction` returns the bids of all rounds: `re_auction` does not remove them.
-/

namespace Deltapreneur.Auction

open EdgePoints Marketplace Razorpay

/-! ## Rows -/

/-- `SoftwareAuctionApprovalStatus`. -/
inductive ApprovalStatus
  | pendingApproval | approved | rejected
  deriving Repr, DecidableEq

/-- The columns of `SoftwareAuction` that the service reads. -/
structure SoftwareAuction where
  softwareId : Nat
  minBidPrice : Paise
  /-- `duration.to_days()`. -/
  durationDays : Nat
  status : AuctionStatus
  approvalStatus : ApprovalStatus
  endTime : Option Time
  currentHighestBid : Paise
  currentWinnerId : Option UserId
  totalBids : Nat
  winnerPaymentOrderId : Option OrderId
  winnerPaymentId : Option PaymentId
  winnerPaymentPaid : Bool
  deriving Repr, DecidableEq

/-- A bid on an auction, of either service. -/
structure BidRow where
  auctionId : AuctionId
  bidderId : UserId
  amount : Paise
  bidTime : Time
  isWinningBid : Bool
  deriving Repr, DecidableEq

/-- The columns of `CommunityAuction` that its service reads. -/
structure CommunityAuction where
  communityId : Nat
  createdBy : UserId
  minBidPrice : Paise
  durationDays : Nat
  status : AuctionStatus
  endTime : Option Time
  currentHighestBid : Option Paise
  currentWinnerId : Option UserId
  totalBids : Nat
  winnerPaymentOrderId : Option OrderId
  winnerPaymentId : Option PaymentId
  winnerPaymentPaid : Bool
  deriving Repr, DecidableEq

/-- The committed tables of the two services, with the fees, wallets and gateway they share. Bids
are kept newest first; `communityBids` holds those that are not deleted. -/
structure AuctionDb extends FeeTables where
  software : List SoftwareAuction
  softwareBids : List BidRow
  purchases : List OrderId
  community : List CommunityAuction
  communityBids : List BidRow

/-- The committed tables after a call, and its result. -/
structure AuctionOutcome where
  db : AuctionDb
  result : Except AppException Unit

def AuctionDb.done (db : AuctionDb) : AuctionOutcome := ⟨db, .ok ()⟩

def AuctionDb.fail (db : AuctionDb) (message : String) (statusCode : Nat) : AuctionOutcome :=
  ⟨db, raise message statusCode⟩

@[simp] theorem auctionDone_db (db : AuctionDb) : db.done.db = db := rfl

@[simp] theorem auctionFail_db (db : AuctionDb) (m : String) (n : Nat) : (db.fail m n).db = db := rfl

/-- `UPDATE software_auctions … WHERE id = auction`. -/
def AuctionDb.editSoftware (db : AuctionDb) (auction : AuctionId)
    (f : SoftwareAuction → SoftwareAuction) : AuctionDb :=
  { db with software := db.software.modify auction f }

/-- The shape of the calls that only change one row: find it, check it, update it. -/
def AuctionDb.onSoftware (db : AuctionDb) (auction : AuctionId)
    (check : SoftwareAuction → Except AppException Unit)
    (update : SoftwareAuction → SoftwareAuction) : AuctionOutcome :=
  match db.software[auction]? with
  | none => db.fail "Auction not found." 404
  | some a =>
    match check a with
    | .error e => ⟨db, .error e⟩
    | .ok () => (db.editSoftware auction update).done

/-- The fee tables are replaced. -/
def AuctionDb.withFees (db : AuctionDb) (t : FeeTables) : AuctionDb := { db with toFeeTables := t }

def day : Nat := 86400

namespace Software

/-! ## Listing and approval -/

structure CreateRequest where
  softwareId : Nat
  /-- Who lists the software; `none` when there is no such listing. -/
  listedBy : Option UserId
  lister : UserId
  minBidPrice : Paise
  durationDays : Nat
  creationFeeOrderId : OrderId
  /-- The lister's role waives the fee. -/
  feeWaived : Bool
  deriving Repr, DecidableEq

/-- The row `create_auction` inserts. -/
def CreateRequest.row (r : CreateRequest) : SoftwareAuction where
  softwareId := r.softwareId
  minBidPrice := r.minBidPrice
  durationDays := r.durationDays
  status := .draft
  approvalStatus := .pendingApproval
  endTime := none
  currentHighestBid := 0
  currentWinnerId := none
  totalBids := 0
  winnerPaymentOrderId := none
  winnerPaymentId := none
  winnerPaymentPaid := false

/-- `create_auction` without an auction of the software yet. -/
def insertAuction (db : AuctionDb) (r : CreateRequest) : AuctionOutcome :=
  if r.feeWaived then { db with software := db.software ++ [r.row] }.done
  else match consumeCreationFee db.toFeeTables r.lister .software r.creationFeeOrderId
      db.software.length with
    | .error e => ⟨db, .error e⟩
    | .ok t => ({ db with software := db.software ++ [r.row] }.withFees t).done

/-- `create_auction`. -/
def createAuction (db : AuctionDb) (r : CreateRequest) : AuctionOutcome :=
  match r.listedBy with
  | none => db.fail "Software listing not found." 404
  | some owner =>
    if owner ≠ r.lister then db.fail "Not your listing." 403
    else match db.software.findIdx? fun a => a.softwareId = r.softwareId with
      | none => insertAuction db r
      | some i =>
        if (db.software[i]?).any fun a => a.approvalStatus = .rejected then
          (db.editSoftware i fun a =>
            { a with
              minBidPrice := r.minBidPrice
              durationDays := r.durationDays
              approvalStatus := .pendingApproval
              status := .draft }).done
        else db.done

/-- `approve_auction`. -/
def approveAuction (db : AuctionDb) (auction : AuctionId) (now : Time) : AuctionOutcome :=
  db.onSoftware auction
    (fun a => if a.approvalStatus ≠ .pendingApproval then
      raise "Auction is not pending approval." 400 else .ok ())
    fun a => { a with
      approvalStatus := .approved
      status := .active
      endTime := some (now + a.durationDays * day) }

/-- `reject_auction`. -/
def rejectAuction (db : AuctionDb) (auction : AuctionId) : AuctionOutcome :=
  db.onSoftware auction
    (fun a => if a.approvalStatus ≠ .pendingApproval then
      raise "Auction is not pending approval." 400 else .ok ())
    fun a => { a with approvalStatus := .rejected, status := .closed }

/-- `take_down_auction`. -/
def takeDownAuction (db : AuctionDb) (auction : AuctionId) : AuctionOutcome :=
  db.onSoftware auction
    (fun a => if a.status ≠ .active ∧ a.status ≠ .draft ∧ a.status ≠ .extended ∧
        a.approvalStatus ≠ .approved then
      raise "Only approved or active auctions can be taken down." 400 else .ok ())
    fun a => { a with approvalStatus := .rejected, status := .takenDown }

/-- `approve_again_auction`: the winner columns stay. -/
def approveAgainAuction (db : AuctionDb) (auction : AuctionId) (now : Time) : AuctionOutcome :=
  db.onSoftware auction
    (fun a => if a.approvalStatus ≠ .rejected then
      raise "Auction must be rejected or taken down to approve again." 400 else .ok ())
    fun a => { a with
      approvalStatus := .approved
      status := .active
      endTime := some (now + a.durationDays * day) }

/-! ## Bidding -/

structure BidRequest where
  auction : AuctionId
  bidder : UserId
  amount : Paise
  fee : Triple
  now : Time
  /-- `assert_user_can_bid_async` lets the bidder through. -/
  canBid : Bool
  /-- Who lists the software. -/
  listedBy : Option UserId
  /-- `ensure_technology_verified` lets the listing through. -/
  technologyVerified : Bool
  deriving Repr, DecidableEq

/-- What an accepted bid leaves on the row. -/
def bidOn (r : BidRequest) (a : SoftwareAuction) : SoftwareAuction :=
  { a with
    currentHighestBid := r.amount
    currentWinnerId := some r.bidder
    totalBids := a.totalBids + 1
    endTime := (applyAntiSnipe a.endTime r.now a.status).1
    status := (applyAntiSnipe a.endTime r.now a.status).2.1 }

/-- `place_bid`. -/
def placeBid (db : AuctionDb) (r : BidRequest) : AuctionOutcome :=
  if r.canBid = false then
    db.fail "Your account is blocked from bidding after an unpaid auction win." 403
  else match db.software[r.auction]? with
    | none => db.fail "Auction not found." 404
    | some a =>
      if a.approvalStatus ≠ .approved then db.fail "Auction is not approved yet." 400
      else if a.status.live = false then db.fail "Auction is not active." 400
      else if (a.endTime.any fun e => e < r.now) then db.fail "Auction has ended." 400
      else if r.listedBy = some r.bidder then
        db.fail "You cannot bid on your own listing." 400
      else if r.technologyVerified = false then
        db.fail ("This technology listing is not verified yet. " ++
          "Purchases and bids are blocked until an admin approves it.") 400
      else match normalizeBidAmount r.amount a.currentHighestBid a.minBidPrice with
        | .error message => db.fail message 400
        | .ok _ =>
          let fee := verifyBidFeePayment db.toFeeTables .software r.auction r.bidder r.fee r.amount
          match fee.result with
          | .error e => ⟨db.withFees fee.committed, .error e⟩
          | .ok () =>
            (({ db with
                softwareBids := ⟨r.auction, r.bidder, r.amount, r.now, false⟩ :: db.softwareBids
              }.editSoftware r.auction (bidOn r)).withFees
                (fee.session.consumeBidFee r.fee.order)).done

/-! ## End and next round -/

/-- `max(bids, key=amount)` over bids ordered by time, newest first: the first of the greatest. -/
def topBid (bids : List BidRow) (auction : AuctionId) : Option BidRow :=
  (bids.filter fun b => b.auctionId = auction).foldl
    (fun best b => match best with
      | none => some b
      | some t => if t.amount < b.amount then some b else some t) none

/-- The winning flags after an end: the top bid's only. -/
def flagWinner (bids : List BidRow) (auction : AuctionId) (top : BidRow) : List BidRow :=
  bids.map fun b => if b.auctionId = auction then { b with isWinningBid := b = top } else b

/-- `clear_winning_flags`. -/
def clearWinningFlags (bids : List BidRow) (auction : AuctionId) : List BidRow :=
  bids.map fun b => if b.auctionId = auction then { b with isWinningBid := false } else b

/-- `_end_auction`. -/
def endAuction (db : AuctionDb) (auction : AuctionId) (a : SoftwareAuction) : AuctionDb :=
  if a.totalBids = 0 then db.editSoftware auction fun a => { a with status := .unsold }
  else
    let ended := fun winner (a : SoftwareAuction) => { a with
      status := .ended
      winnerPaymentPaid := false
      winnerPaymentOrderId := none
      winnerPaymentId := none
      currentWinnerId := winner }
    match topBid db.softwareBids auction with
    | none => db.editSoftware auction (ended a.currentWinnerId)
    | some top =>
      { db with softwareBids := flagWinner db.softwareBids auction top }.editSoftware auction
        (ended (some top.bidderId))

/-- `end_expired_auctions` on one auction of `list_expired`. -/
def endExpired (db : AuctionDb) (auction : AuctionId) (now : Time) : AuctionDb :=
  match db.software[auction]? with
  | none => db
  | some a =>
    if a.status.live = true ∧ (a.endTime.any fun e => e < now) then endAuction db auction a else db

structure ReAuctionRequest where
  auction : AuctionId
  listedBy : Option UserId
  lister : UserId
  minBidPrice : Paise
  durationDays : Nat
  creationFeeOrderId : OrderId
  now : Time
  deriving Repr, DecidableEq

/-- The row after `re_auction`. -/
def restart (r : ReAuctionRequest) (a : SoftwareAuction) : SoftwareAuction :=
  { a with
    minBidPrice := r.minBidPrice
    durationDays := r.durationDays
    currentHighestBid := 0
    currentWinnerId := none
    winnerPaymentOrderId := none
    winnerPaymentId := none
    winnerPaymentPaid := false
    totalBids := 0
    approvalStatus := .approved
    status := .active
    endTime := some (r.now + r.durationDays * day) }

/-- `re_auction`. -/
def reAuction (db : AuctionDb) (r : ReAuctionRequest) : AuctionOutcome :=
  match db.software[r.auction]? with
  | none => db.fail "Auction not found." 404
  | some a =>
    if r.listedBy ≠ some r.lister then db.fail "Not your auction." 403
    else if a.status ≠ .unsold then db.fail "Can only re-auction an unsold auction." 400
    else match consumeCreationFee db.toFeeTables r.lister .software r.creationFeeOrderId
        r.auction with
      | .error e => ⟨db, .error e⟩
      | .ok t =>
        (({ db with softwareBids := clearWinningFlags db.softwareBids r.auction
          }.editSoftware r.auction (restart r)).withFees t).done

/-- `close_auction`. -/
def closeAuction (db : AuctionDb) (auction : AuctionId) (listedBy : Option UserId)
    (lister : UserId) : AuctionOutcome :=
  db.onSoftware auction
    (fun a => if listedBy ≠ some lister then raise "Not your auction." 403
      else if a.status ≠ .unsold then raise "Can only close an unsold auction." 400 else .ok ())
    fun a => { a with status := .closed }

/-- The winner did not pay in time: `_forfeit_unpaid_winner` on the auction row. -/
def forfeit (db : AuctionDb) (auction : AuctionId) : AuctionDb :=
  match (db.software[auction]?).map SoftwareAuction.status with
  | some .ended | some .paymentPending =>
    db.editSoftware auction fun a => { a with status := .unsold, currentWinnerId := none }
  | _ => db

/-! ## Winner payment -/

structure WinnerOrderRequest where
  auction : AuctionId
  winner : UserId
  redeemPoints : Bool
  gatewayUp : Bool
  deriving Repr, DecidableEq

/-- The charge of a winner order: the winning bid, less the points. -/
def WinnerOrderRequest.charge (r : WinnerOrderRequest) (w : Wallets) (bid : Paise) : Paise × Nat :=
  calculateRedemption (w.edgePoints r.winner) (w.pending r.winner) bid r.redeemPoints

/-- `create_winner_payment_order`. -/
def createWinnerPaymentOrder (db : AuctionDb) (r : WinnerOrderRequest) : AuctionOutcome :=
  match db.software[r.auction]? with
  | none => db.fail "Auction not found." 404
  | some a =>
    if a.currentWinnerId ≠ some r.winner then
      db.fail "Only the auction winner can pay the winning bid amount." 403
    else if a.status ≠ .ended then db.fail "Auction is not awaiting winner payment." 409
    else if a.winnerPaymentPaid then db.fail "Winning bid has already been paid." 409
    else if a.currentHighestBid = 0 then db.fail "Invalid winning bid amount." 400
    else if r.gatewayUp = false then db.fail "Payment order creation failed" 502
    else match db.gateway.createOrder (r.charge db.wallets a.currentHighestBid).1
        (.other r.winner) with
      | none => db.fail "Payment order creation failed" 502
      | some (order, gateway) =>
        ({ db with
            gateway := gateway
            wallets := db.wallets.createPendingRedemption r.winner order
              (r.charge db.wallets a.currentHighestBid).2
          }.editSoftware r.auction fun a => { a with winnerPaymentOrderId := some order }).done

structure VerifyRequest where
  auction : AuctionId
  winner : UserId
  paid : Triple
  /-- The software listing still exists. -/
  softwareExists : Bool
  /-- The rest of the purchase goes through. -/
  completes : Bool
  deriving Repr, DecidableEq

/-- `complete_auction_winner_purchase`. -/
def completeAuctionWinnerPurchase (db : AuctionDb) (a : SoftwareAuction) (r : VerifyRequest) :
    Except AppException AuctionDb :=
  if r.paid.order ∈ db.purchases then .ok db
  else if r.softwareExists = false then raise "Software listing not found." 404
  else if a.currentHighestBid = 0 then raise "Invalid winning bid amount." 400
  else if r.completes = false then raise "Internal server error" 500
  else .ok { db with purchases := r.paid.order :: db.purchases }

/-- The row after a verified winner payment. -/
def paidRow (payment : PaymentId) (a : SoftwareAuction) : SoftwareAuction :=
  { a with winnerPaymentPaid := true, winnerPaymentId := some payment, status := .completed }

/-- `verify_winner_payment`. The check of the order id is skipped when none is stored. -/
def verifyWinnerPayment (db : AuctionDb) (r : VerifyRequest) : AuctionOutcome :=
  match db.software[r.auction]? with
  | none => db.fail "Auction not found." 404
  | some a =>
    if a.currentWinnerId ≠ some r.winner then
      db.fail "Only the auction winner can pay the winning bid amount." 403
    else if a.winnerPaymentPaid = true ∧ a.status = .completed then db.done
    else if a.status ≠ .ended then db.fail "Auction is not awaiting winner payment." 409
    else if a.winnerPaymentOrderId ≠ none ∧ a.winnerPaymentOrderId ≠ some r.paid.order then
      db.fail "Order id does not match this auction payment." 400
    else if r.paid.verifies db.gateway = false then
      { db with wallets := db.wallets.cancelRedemption r.paid.order }.fail
        "Payment verification failed — invalid signature" 400
    else
      let confirmed := { db with wallets := db.wallets.confirmRedemption r.paid.order }
      match completeAuctionWinnerPurchase confirmed a r with
      | .error e => ⟨confirmed, .error e⟩
      | .ok db' => (db'.editSoftware r.auction (paidRow r.paid.payment)).done

end Software

end Deltapreneur.Auction
