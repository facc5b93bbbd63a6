import Deltapreneur.Auction.Software

/-!
# Community auctions

Model of `CommunityAuctionService` (`app/service/community/community_auction_service.py`), whole
calls on committed tables.

* `CommunityAuctionRepository.save` commits. `create_auction` and `re_auction` save the running
  auction first and ask for the creation fee after that: the exception of a missing fee leaves
  the auction running.
* Bids are soft-deleted at a new listing and at a re-auction, so `communityBids` holds the bids
  of the current round.
* Winner orders take no points, and verification neither confirms nor cancels a redemption.
-/

namespace Deltapreneur.Auction

open Marketplace Razorpay

/-- `UPDATE community_auctions … WHERE id = auction`. -/
def AuctionDb.editCommunity (db : AuctionDb) (auction : AuctionId)
    (f : CommunityAuction → CommunityAuction) : AuctionDb :=
  { db with community := db.community.modify auction f }

namespace Community

/-! ## Listing -/

structure CreateRequest where
  communityId : Nat
  /-- The owner of the profile; `none` when there is no such profile. -/
  owner : Option UserId
  user : UserId
  minBidPrice : Paise
  durationDays : Nat
  creationFeeOrderId : OrderId
  feeWaived : Bool
  now : Time
  deriving Repr, DecidableEq

/-- `_prepare_auction_for_new_listing`, on the row. -/
def prepare (r : CreateRequest) (a : CommunityAuction) : CommunityAuction :=
  { a with
    createdBy := r.user
    status := .paymentPending
    durationDays := r.durationDays
    minBidPrice := r.minBidPrice
    currentHighestBid := none
    totalBids := 0
    currentWinnerId := none
    endTime := none
    winnerPaymentOrderId := none
    winnerPaymentId := none
    winnerPaymentPaid := false }

/-- A prepared row goes live. -/
def goLive (now : Time) (a : CommunityAuction) : CommunityAuction :=
  { a with status := .active, endTime := some (now + a.durationDays * day) }

/-- The row `create_auction` inserts. -/
def CreateRequest.row (r : CreateRequest) : CommunityAuction where
  communityId := r.communityId
  createdBy := r.user
  minBidPrice := r.minBidPrice
  durationDays := r.durationDays
  status := .active
  endTime := some (r.now + r.durationDays * day)
  currentHighestBid := none
  currentWinnerId := none
  totalBids := 0
  winnerPaymentOrderId := none
  winnerPaymentId := none
  winnerPaymentPaid := false

/-- `_TERMINAL_LISTING_STATUSES`. -/
def terminal : AuctionStatus → Bool
  | .ended | .completed | .unsold | .closed => true
  | _ => false

/-- `find_by_community_id`: the newest auction of the profile. -/
def latest (db : AuctionDb) (communityId : Nat) : Option AuctionId :=
  ((List.range db.community.length).reverse).find? fun i =>
    (db.community[i]?).any fun a => a.communityId = communityId

/-- The fee of an auction that is live already. -/
def thenConsume (db : AuctionDb) (user : UserId) (order : OrderId) (auction : AuctionId)
    (waived : Bool) : AuctionOutcome :=
  if waived then db.done
  else match consumeCreationFee db.toFeeTables user .community order auction with
    | .error e => ⟨db, .error e⟩
    | .ok t => (db.withFees t).done

/-- The bids of the auction are soft-deleted. -/
def clearBids (db : AuctionDb) (auction : AuctionId) : AuctionDb :=
  { db with communityBids := db.communityBids.filter fun b => b.auctionId ≠ auction }

/-- `create_auction`. -/
def createAuction (db : AuctionDb) (r : CreateRequest) : AuctionOutcome :=
  match r.owner with
  | none => db.fail "Creator profile not found" 404
  | some owner =>
    if owner ≠ r.user then db.fail "You can only auction your own community profile" 403
    else match latest db r.communityId with
      | none =>
        thenConsume { db with community := db.community ++ [r.row] } r.user r.creationFeeOrderId
          db.community.length r.feeWaived
      | some i =>
        match (db.community[i]?).map CommunityAuction.status with
        | none => db.fail "Creator auction not found" 404
        | some status =>
          if status = .paymentPending then (db.editCommunity i (prepare r)).done
          else if status.live then
            db.fail "You already have a live auction. View it from your Creator profile." 409
          else if terminal status then
            thenConsume ((clearBids db i).editCommunity i fun a => goLive r.now (prepare r a)) r.user
              r.creationFeeOrderId i r.feeWaived
          else
            thenConsume { db with community := db.community ++ [r.row] } r.user
              r.creationFeeOrderId db.community.length r.feeWaived

/-- `activate_auction_after_payment`. -/
def activateAuctionAfterPayment (db : AuctionDb) (auction : AuctionId) (user : UserId)
    (now : Time) : AuctionOutcome :=
  match db.community[auction]? with
  | none => db.fail "Creator auction not found" 404
  | some a =>
    if a.createdBy ≠ user then db.fail "You can only activate your own auction" 403
    else if a.status ≠ .paymentPending then db.fail "Auction is not waiting for payment" 409
    else (db.editCommunity auction (goLive now)).done

/-! ## Bidding -/

structure BidRequest where
  auction : AuctionId
  bidder : UserId
  amount : Paise
  fee : Triple
  now : Time
  canBid : Bool
  /-- The owner of the auctioned profile. -/
  owner : Option UserId
  deriving Repr, DecidableEq

/-- What an accepted bid leaves on the row. -/
def bidOn (r : BidRequest) (a : CommunityAuction) : CommunityAuction :=
  { a with
    currentHighestBid := some r.amount
    currentWinnerId := some r.bidder
    totalBids := a.totalBids + 1
    endTime := (applyAntiSnipe a.endTime r.now a.status).1
    status := (applyAntiSnipe a.endTime r.now a.status).2.1 }

/-- `place_bid`. -/
def placeBid (db : AuctionDb) (r : BidRequest) : AuctionOutcome :=
  if r.canBid = false then
    db.fail "Your account is blocked from bidding after an unpaid auction win." 403
  else match db.community[r.auction]? with
    | none => db.fail "Creator auction not found" 404
    | some a =>
      if a.status.live = false then db.fail "Auction is not active" 409
      else if (a.endTime.any fun e => e < r.now) then db.fail "Auction has already ended" 409
      else if a.createdBy = r.bidder ∨ r.owner = some r.bidder then
        db.fail "You cannot bid on your own auction" 403
      else match normalizeBidAmount r.amount (a.currentHighestBid.getD 0) a.minBidPrice with
        | .error message => db.fail message 400
        | .ok _ =>
          let fee := verifyBidFeeSync db.toFeeTables r.auction r.bidder r.fee r.amount
          match fee.result with
          | .error e => ⟨db.withFees fee.committed, .error e⟩
          | .ok () =>
            (({ db with
                communityBids := ⟨r.auction, r.bidder, r.amount, r.now, true⟩ ::
                  Software.clearWinningFlags db.communityBids r.auction
              }.editCommunity r.auction (bidOn r)).withFees
                (fee.session.consumeBidFee r.fee.order)).done

/-! ## End and next round -/

/-- `end_auction` on a running auction. -/
def endAuction (db : AuctionDb) (auction : AuctionId) (a : CommunityAuction) : AuctionDb :=
  if 0 < a.totalBids ∧ 0 < a.currentHighestBid.getD 0 then
    let ended := fun winner (a : CommunityAuction) => { a with
      status := .ended
      winnerPaymentPaid := false
      winnerPaymentOrderId := none
      winnerPaymentId := none
      currentWinnerId := winner }
    match Software.topBid db.communityBids auction with
    | none => db.editCommunity auction (ended a.currentWinnerId)
    | some top =>
      { db with communityBids := Software.flagWinner db.communityBids auction top
        }.editCommunity auction (ended (some top.bidderId))
  else db.editCommunity auction fun a => { a with status := .unsold }

/-- `end_expired_auctions` on one auction of `find_expired_active`. -/
def endExpired (db : AuctionDb) (auction : AuctionId) (now : Time) : AuctionDb :=
  match db.community[auction]? with
  | none => db
  | some a =>
    if a.status.live = true ∧ (a.endTime.any fun e => e < now) then endAuction db auction a else db

structure ReAuctionRequest where
  auction : AuctionId
  owner : Option UserId
  user : UserId
  minBidPrice : Paise
  durationDays : Nat
  creationFeeOrderId : OrderId
  now : Time
  deriving Repr, DecidableEq

/-- The row after `re_auction`. -/
def restart (r : ReAuctionRequest) (a : CommunityAuction) : CommunityAuction :=
  { a with
    minBidPrice := r.minBidPrice
    durationDays := r.durationDays
    currentHighestBid := none
    currentWinnerId := none
    totalBids := 0
    status := .active
    endTime := some (r.now + r.durationDays * day)
    winnerPaymentOrderId := none
    winnerPaymentId := none
    winnerPaymentPaid := false }

/-- `re_auction`. -/
def reAuction (db : AuctionDb) (r : ReAuctionRequest) : AuctionOutcome :=
  match db.community[r.auction]? with
  | none => db.fail "Auction not found" 404
  | some a =>
    if r.owner ≠ some r.user then db.fail "Not your auction" 403
    else if a.status ≠ .unsold then db.fail "Can only re-auction an unsold auction" 400
    else
      thenConsume ((clearBids db r.auction).editCommunity r.auction (restart r)) r.user
        r.creationFeeOrderId r.auction false

/-- `close_auction`. -/
def closeAuction (db : AuctionDb) (auction : AuctionId) (owner : Option UserId)
    (user : UserId) : AuctionOutcome :=
  match db.community[auction]? with
  | none => db.fail "Auction not found" 404
  | some a =>
    if owner ≠ some user then db.fail "Not your auction" 403
    else if a.status ≠ .unsold ∧ a.status.live = false then
      db.fail ("Cannot close auction in status " ++ a.status.value) 400
    else if a.status.live = true ∧ 0 < a.totalBids then
      db.fail "Cannot close an auction that has active bids" 400
    else (db.editCommunity auction fun a => { a with status := .closed }).done

/-! ## Winner payment -/

/-- `create_winner_payment_order`. -/
def createWinnerPaymentOrder (db : AuctionDb) (auction : AuctionId) (user : UserId)
    (gatewayUp : Bool) : AuctionOutcome :=
  match db.community[auction]? with
  | none => db.fail "Auction not found" 404
  | some a =>
    if a.currentWinnerId ≠ some user then
      db.fail "Only the auction winner can pay the winning bid amount." 403
    else if a.status ≠ .ended then db.fail "Auction is not awaiting winner payment." 409
    else if a.winnerPaymentPaid then db.fail "Winning bid has already been paid." 409
    else if a.currentHighestBid.getD 0 = 0 then db.fail "Invalid winning bid amount." 400
    else if gatewayUp = false then db.fail "Payment order creation failed" 502
    else match db.gateway.createOrder (a.currentHighestBid.getD 0) (.other user) with
      | none => db.fail "Payment order creation failed" 502
      | some (order, gateway) =>
        ({ db with gateway := gateway
          }.editCommunity auction fun a => { a with winnerPaymentOrderId := some order }).done

/-- The row after a verified winner payment. -/
def paidRow (payment : PaymentId) (a : CommunityAuction) : CommunityAuction :=
  { a with winnerPaymentPaid := true, winnerPaymentId := some payment, status := .completed }

/-- `verify_winner_payment`. The check of the order id is skipped when none is stored. -/
def verifyWinnerPayment (db : AuctionDb) (auction : AuctionId) (user : UserId) (paid : Triple) :
    AuctionOutcome :=
  match db.community[auction]? with
  | none => db.fail "Auction not found" 404
  | some a =>
    if a.currentWinnerId ≠ some user then
      db.fail "Only the auction winner can verify this payment." 403
    else if a.winnerPaymentPaid = true ∧ a.status = .completed then db.done
    else if a.status ≠ .ended then db.fail "Auction is not awaiting winner payment." 409
    else if a.winnerPaymentOrderId ≠ none ∧ a.winnerPaymentOrderId ≠ some paid.order then
      db.fail "Order id does not match this auction payment." 400
    else if paid.verifies db.gateway = false then
      db.fail "Payment verification failed — invalid signature" 400
    else (db.editCommunity auction (paidRow paid.payment)).done

end Community

end Deltapreneur.Auction
