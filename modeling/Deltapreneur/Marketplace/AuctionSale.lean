import Deltapreneur.Marketplace.DirectSale

/-!
# Sale of a domain listing by auction

Model of the way from a listing to a paid auction: `AuctionService.create_auction`
(`app/service/auction/auction_service.py:108-169`), `approve_and_go_live`
(`app/service/domain/domain_auction_verification_service.py:145-214`),
`WinnerService.resolve_auction` (`app/service/auction/winner_service.py:51-157`) with
`restore_listing_after_no_sale` (`app/service/domain/direct_sale_restore.py:30-105`), and
`AuctionPaymentService` (`app/service/auction/auction_payment_service.py`).

* Bidding itself is in `Auction/`; here `recordBid` is what an accepted bid leaves on the auction
  row: its amount and its bidder.
* The creation fee is paid to another service; `create_auction` is told whether a valid one was
  presented.
* The price of a listing that goes back to direct sale is the minimum bid plus commission, which
  the pricing service computes; `resolve_auction` is told the result.
* An auction payment sells the listing whatever the listing's status (`ensureDomainTransfer`).
-/

namespace Deltapreneur.Marketplace

open EdgePoints Razorpay

/-! ## Auctions -/

/-- `UPDATE auctions … WHERE id = auction`. -/
def Db.editAuction (db : Db) (auction : AuctionId) (f : Auction → Auction) : Db :=
  { db with auctions := db.auctions.modify auction f }

/-- `get_auction_by_domain`: the latest auction of the listing. -/
def Db.latestAuction (db : Db) (listing : ListingId) : Option AuctionId :=
  ((List.range db.auctions.length).reverse).find? fun i =>
    (db.auctions[i]?).any fun a => a.domainId = listing

/-- `_BLOCKING_STATUSES`. -/
def AuctionStatus.blocking : AuctionStatus → Bool
  | .draft | .active | .extended => true
  | _ => false

/-- `NON_RESOLVABLE`. -/
def AuctionStatus.nonResolvable : AuctionStatus → Bool
  | .completed | .cancelled | .unsold | .paymentPending => true
  | _ => false

/-- `NO_SALE_AUCTION_STATUSES`. -/
def AuctionStatus.noSale : AuctionStatus → Bool
  | .unsold | .cancelled | .closed | .takenDown => true
  | _ => false

structure CreateAuctionRequest where
  listing : ListingId
  actor : UserId
  isAdmin : Bool
  minBidPrice : Paise
  /-- `creation_fee_order_id` is given. -/
  feeOrderGiven : Bool
  /-- It is a completed creation fee of the actor. -/
  feeValid : Bool
  deriving Repr, DecidableEq

/-- The row `create_auction` inserts. -/
def CreateAuctionRequest.auction (r : CreateAuctionRequest) : Auction where
  domainId := r.listing
  createdBy := r.actor
  status := .draft
  minBidPrice := r.minBidPrice
  currentHighestBid := none
  currentWinnerId := none

/-- `create_auction`. -/
def createAuction (db : Db) (r : CreateAuctionRequest) : Outcome :=
  match db.listings r.listing with
  | none => db.fail "Domain not found." 404
  | some l =>
    if r.isAdmin = false ∧ l.listedByUserId ≠ some r.actor then
      db.fail "You do not have access to this domain." 403
    else if r.isAdmin = false ∧ r.feeOrderGiven = false then
      db.fail "Auction creation fee payment is required." 402
    else if db.auctions.any fun a => a.domainId = r.listing && a.status.blocking then
      db.fail "Domain already has an active or pending auction." 409
    else if r.isAdmin = false ∧ r.feeValid = false then
      db.fail "Valid auction creation fee payment is required." 402
    else
      ({ db with auctions := db.auctions ++ [r.auction] }.editListing r.listing fun l =>
          { l with saleType := .auction, verificationStatus := .pending, verified := false }).done

/-- The listing after the admin's approval. -/
def Listing.verify (l : Listing) : Listing :=
  { l with verificationStatus := .verified, verified := true }

/-- `approve_and_go_live`. -/
def approveAndGoLive (db : Db) (listing : ListingId) : Outcome :=
  match db.listings listing with
  | none => db.fail "Domain listing not found." 404
  | some l =>
    if l.saleType ≠ .auction then
      db.fail "Approve & Go Live applies only to auction domain listings." 400
    else if l.verificationStatus ≠ .pending ∧ l.verificationStatus ≠ .moreInfoRequested then
      db.fail "Listing is not awaiting admin verification approval." 400
    else match db.latestAuction listing with
      | none =>
        db.fail ("No auction found for this domain listing. " ++
          "The seller may not have completed auction payment during listing.") 400
      | some i =>
        match (db.auctions[i]?).map Auction.status with
        | some .draft | some .cancelled =>
          ((db.editAuction i fun a => { a with status := .active }).editListing listing
            .verify).done
        | some .active | some .extended => (db.editListing listing .verify).done
        | _ => db.fail "Auction cannot be published from its current state." 400

/-- An accepted bid on a running auction. -/
def recordBid (db : Db) (auction : AuctionId) (bidder : UserId) (amount : Paise) : Db :=
  match (db.auctions[auction]?).map Auction.status with
  | some .active | some .extended =>
    db.editAuction auction fun a =>
      { a with currentHighestBid := some amount, currentWinnerId := some bidder }
  | _ => db

/-- `restore_listing_after_no_sale` for a listing row that is not sold. -/
def Listing.relist (status : AuctionStatus) (price : Paise) (l : Listing) : Listing :=
  { l with
    saleType := .oneTime
    domainStatus := .available
    verificationStatus :=
      if status = .unsold ∧ l.verificationStatus ≠ .rejected then .verified
      else l.verificationStatus
    verified := l.verified || (status = .unsold && l.verificationStatus ≠ .rejected)
    askingPrice := if status = .unsold ∧ l.askingPrice = 0 then price else l.askingPrice }

/-- Nothing to restore: `restore_listing_after_no_sale` returns early. -/
def Listing.onDirectSale (l : Listing) : Prop :=
  l.saleType ≠ .auction ∧ 0 < l.askingPrice ∧ l.verificationStatus = .verified ∧
    l.verified = true ∧ l.domainStatus = .available

instance (l : Listing) : Decidable l.onDirectSale := inferInstanceAs (Decidable (_ ∧ _))

/-- `restore_listing_after_no_sale`. -/
def Db.restoreAfterNoSale (db : Db) (listing : ListingId) (price : Paise) : Db :=
  match db.listings listing with
  | none => db
  | some l =>
    if l.domainStatus = .sold ∨ l.onDirectSale then db
    else match (db.latestAuction listing).bind fun i => (db.auctions[i]?).map Auction.status with
      | some status =>
        if status.noSale then db.editListing listing (.relist status price) else db
      | none => db

/-- `resolve_auction`. -/
def resolveAuction (db : Db) (auction : AuctionId) (price : Paise) : Outcome :=
  match db.auctions[auction]? with
  | none => db.fail "Auction not found." 404
  | some a =>
    if a.status.nonResolvable then db.done
    else if a.currentHighestBid.isSome then
      (db.editAuction auction fun a => { a with status := .paymentPending }).done
    else
      ((db.editAuction auction fun a => { a with status := .unsold, currentWinnerId := none
        }).restoreAfterNoSale a.domainId price).done

/-! ## Winner payment -/

/-- `get_open_for_auction_user`: the latest pending payment. -/
def Db.openPayment (db : Db) (auction : AuctionId) (user : UserId) : Option Nat :=
  ((List.range db.payments.length).reverse).find? fun i =>
    (db.payments[i]?).any fun p =>
      p.auctionId = auction && p.userId = user && p.paymentStatus = .pending

/-- `_require_payment_pending`. -/
def notAwaitingPayment (s : AuctionStatus) : String :=
  "Auction is not awaiting payment (status=" ++ s.value ++ ")."

structure WinnerOrderRequest where
  auction : AuctionId
  user : UserId
  redeemPoints : Bool
  gatewayUp : Bool
  deriving Repr, DecidableEq

/-- The payment row of a new winner order: the open one is reused. -/
def Db.storeWinnerPayment (db : Db) (r : WinnerOrderRequest) (order : OrderId) (amount : Paise) :
    Db :=
  match db.openPayment r.auction r.user with
  | some i =>
    { db with payments := db.payments.modify i fun p =>
        { p with
          razorpayOrderId := order
          amount := amount
          paymentStatus := .pending
          razorpayPaymentId := none } }
  | none =>
    { db with payments := db.payments ++ [⟨r.auction, r.user, order, amount, .pending, none⟩] }

/-- The last part of `create_winner_order`: the order, its redemption and the payment row. -/
def Db.issueWinnerOrder (db : Db) (r : WinnerOrderRequest) (amount : Paise) : Outcome :=
  let charge := calculateRedemption (db.wallets.edgePoints r.user) (db.wallets.pending r.user)
    amount r.redeemPoints
  let issued := if r.gatewayUp then
    db.gateway.createOrder charge.1 (.auctionWinner r.auction r.user) else none
  match issued with
  | none => db.fail "Could not create payment order. Please try again." 502
  | some (order, gateway) =>
    ({ db with
        gateway := gateway
        wallets := db.wallets.createPendingRedemption r.user order charge.2
      }.storeWinnerPayment r order amount).done

/-- `create_winner_order`. -/
def createWinnerOrder (db : Db) (r : WinnerOrderRequest) : Outcome :=
  match db.auctions[r.auction]? with
  | none => db.fail "Auction not found." 404
  | some a =>
    if a.currentWinnerId ≠ some r.user then
      db.fail "Only the auction winner can complete this payment." 403
    else if a.status ≠ .paymentPending then db.fail (notAwaitingPayment a.status) 409
    else if db.payments.any fun p => p.auctionId = r.auction && p.paymentStatus = .success then
      db.fail "This auction has already been paid for." 409
    else match a.currentHighestBid with
      | none => db.fail "No winning bid amount is available for this auction." 409
      | some amount =>
        if amount = 0 then db.fail "No winning bid amount is available for this auction." 409
        else db.issueWinnerOrder r amount

/-- `winning_amount`: the amount of the payment row, else the highest bid. -/
def WinnerPayment.winningAmount (p : WinnerPayment) (a : Auction) : Paise :=
  if p.amount = 0 then a.currentHighestBid.getD 0 else p.amount

/-- The columns an auction payment sets on the listing. -/
def Listing.markAuctionSold (p : WinnerPayment) (payment : PaymentId) (amount : Paise)
    (l : Listing) : Listing :=
  { l.markSold p.userId payment with
    razorpayOrderId := some p.razorpayOrderId
    askingPrice := amount }

/-- `_ensure_domain_transfer`. -/
def Db.ensureDomainTransfer (db : Db) (a : Auction) (p : WinnerPayment) (deadline : Time) :
    Except AppException Db :=
  match p.razorpayPaymentId with
  | none => .ok db
  | some payment =>
    if (db.txByPayment payment).isSome then .ok db
    else match db.listings a.domainId with
      | none => .ok db
      | some l =>
        if p.winningAmount a = 0 then .ok db
        else (db.editListing a.domainId (.markAuctionSold p payment (p.winningAmount a))
          ).createFromPayment a.domainId l p.userId payment (p.winningAmount a) deadline

structure VerifyWinnerRequest where
  user : UserId
  order : OrderId
  payment : PaymentId
  genuine : Bool
  deadline : Time
  deriving Repr, DecidableEq

/-- A verified payment is stored: payment row, auction row and the transfer, in one commit. -/
def Db.storeVerified (db : Db) (i : Nat) (p : WinnerPayment) (a : Auction) (deadline : Time) :
    Except AppException Db :=
  ({ db with payments := db.payments.set i p }.editAuction p.auctionId fun a =>
    { a with status := .completed }).ensureDomainTransfer a p deadline

/-- `verify_winner_payment`. -/
def verifyWinnerPayment (db : Db) (r : VerifyWinnerRequest) : Outcome :=
  match db.payments.findIdx? fun p => p.razorpayOrderId = r.order with
  | none => db.fail "Payment record not found." 404
  | some i =>
    match db.payments[i]? with
    | none => db.fail "Payment record not found." 404
    | some p =>
      if p.userId ≠ r.user then
        db.fail "You are not authorized to verify this payment." 403
      else match db.auctions[p.auctionId]? with
        | none => db.fail "Auction not found." 404
        | some a =>
          if p.paymentStatus = .success then
            match db.storeVerified i p a r.deadline with
            | .error e => ⟨db, .error e⟩
            | .ok db' => { db' with wallets := db'.wallets.confirmRedemption r.order }.done
          else if db.gateway.verifyPaymentSignature r.order r.payment r.genuine = false then
            { db with
              wallets := db.wallets.cancelRedemption r.order
              payments := db.payments.set i { p with paymentStatus := .failed }
            }.fail "Invalid payment signature." 400
          else
            let paid := { p with
              paymentStatus := .success
              razorpayPaymentId := some r.payment }
            if a.status = .completed then
              -- paid by another order meanwhile: no confirmation of this order's redemption
              match db.storeVerified i paid a r.deadline with
              | .error e => ⟨db, .error e⟩
              | .ok db' => db'.done
            else if a.status ≠ .paymentPending then db.fail (notAwaitingPayment a.status) 409
            else if a.currentWinnerId ≠ some r.user then
              db.fail "Only the auction winner can complete this payment." 403
            else match db.storeVerified i paid a r.deadline with
              | .error e => ⟨db, .error e⟩
              | .ok db' => { db' with wallets := db'.wallets.confirmRedemption r.order }.done

end Deltapreneur.Marketplace
