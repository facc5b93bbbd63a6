import Deltapreneur.Lib.Run
import Deltapreneur.Marketplace.AuctionSale
import Deltapreneur.Marketplace.CartSale

/-!
# The system of domain sales

All the operations that sell a domain listing or take a sale back, on one database, one whole
call after another: direct sale, auction, cart, and the escrow operations on the transfer
transactions (`Transfer/Transaction.lean`) with `_restore_listing`.

* A label is one call with everything its environment decides. Customers pay orders at Razorpay
  (`capture`), and other services issue orders too (`otherOrder`).
* What Razorpay reports about a payment when a refund is asked for is part of the label.
-/

namespace Deltapreneur.Marketplace

open EdgePoints Razorpay Transfer

/-! ## Escrow operations on the table of transactions -/

/-- A call that changes one transaction row and nothing else. -/
def Db.onTx (db : Db) (id : TxId) (f : Transaction → Except AppException Transaction) : Outcome :=
  match db.txs[id]? with
  | none => db.fail "Transfer transaction not found." 404
  | some tx =>
    match f tx with
    | .error e => ⟨db, .error e⟩
    | .ok tx' => { db with txs := db.txs.set id tx' }.done

/-- A transaction row is settled and its listing restored, in one commit. -/
def Db.settle (db : Db) (id : TxId) (tx : Transaction) : Db :=
  { db with txs := db.txs.set id tx }.editListing tx.listingId .restore

/-- `DomainTransferEscrowService.refund`. -/
def refundTx (db : Db) (id : TxId) (record : Payment) (net : RefundNetwork)
    (existing : Option RefundId) : Outcome :=
  match db.txs[id]? with
  | none => db.fail "Transfer transaction not found." 404
  | some tx =>
    match (Transfer.refund tx record net existing).result with
    | .error e => ⟨db, .error e⟩
    | .ok tx' =>
      if tx.escrowStatus = .refunded ∨ tx.transferStatus = .refunded then
        { db with txs := db.txs.set id tx' }.done
      else (db.settle id tx').done

/-- `sync_refund_from_razorpay` goes on to mark the row: it is not synchronised yet and Razorpay
reports a full refund. -/
def syncMarks (tx : Transaction) (record : Payment) (existing : Option RefundId) : Bool :=
  !(tx.escrowStatus = .refunded && tx.razorpayRefundId.isSome) && hasFullRefund record existing

/-- `DomainTransferEscrowService.sync_refund_from_razorpay`. -/
def syncRefundTx (db : Db) (id : TxId) (record : Payment) (reachable : Bool)
    (existing : Option RefundId) : Outcome :=
  match db.txs[id]? with
  | none => db.fail "Transfer transaction not found." 404
  | some tx =>
    match Transfer.syncRefundFromRazorpay tx record reachable existing with
    | .error e => ⟨db, .error e⟩
    | .ok tx' =>
      if syncMarks tx record existing then (db.settle id tx').done else db.done

/-- `DomainTransferEscrowService.resolve_admin_review`: a cancellation restores the listing. -/
def resolveAdminReviewTx (db : Db) (id : TxId) (action : ReviewAction) (deadline : Time) :
    Outcome :=
  match action with
  | .cancel =>
    match db.txs[id]? with
    | none => db.fail "Transfer transaction not found." 404
    | some tx =>
      match Transfer.resolveAdminReview tx .cancel deadline with
      | .error e => ⟨db, .error e⟩
      | .ok tx' => (db.settle id tx').done
  | action => db.onTx id fun tx => Transfer.resolveAdminReview tx action deadline

/-! ## Labels and steps -/

inductive Label
  | createPurchaseOrder (r : PurchaseRequest)
  | verifyPayment (r : VerifyRequest)
  | handlePaymentFailure (listing : ListingId)
  | createAuction (r : CreateAuctionRequest)
  | approveAndGoLive (listing : ListingId)
  | recordBid (auction : AuctionId) (bidder : UserId) (amount : Paise)
  | resolveAuction (auction : AuctionId) (price : Paise)
  | createWinnerOrder (r : WinnerOrderRequest)
  | verifyWinnerPayment (r : VerifyWinnerRequest)
  | addToCart (buyer : UserId) (listing : ListingId) (addonAmount : Paise)
  | createCheckoutOrder (r : CheckoutRequest)
  | verifyCheckoutPayment (r : VerifyCheckoutRequest)
  | refund (id : TxId) (record : Payment) (net : RefundNetwork) (existing : Option RefundId)
  | syncRefund (id : TxId) (record : Payment) (reachable : Bool) (existing : Option RefundId)
  | resolveAdminReview (id : TxId) (action : ReviewAction) (deadline : Time)
  | party (id : TxId) (call : PartyCall)
  | forceComplete (id : TxId) (reason : String)
  | approvePayout (id : TxId) (profileComplete : Bool) (now : Time)
  | releasePayout (id : TxId) (profileComplete : Bool)
  | otherOrder (user : UserId) (amount : Paise)
  | capture (order : OrderId)

def call (db : Db) : Label → Outcome
  | .createPurchaseOrder r => createPurchaseOrder db r
  | .verifyPayment r => verifyPayment db r
  | .handlePaymentFailure listing => handlePaymentFailure db listing
  | .createAuction r => createAuction db r
  | .approveAndGoLive listing => approveAndGoLive db listing
  | .recordBid auction bidder amount => (recordBid db auction bidder amount).done
  | .resolveAuction auction price => resolveAuction db auction price
  | .createWinnerOrder r => createWinnerOrder db r
  | .verifyWinnerPayment r => verifyWinnerPayment db r
  | .addToCart buyer listing addonAmount => (addToCart db buyer listing addonAmount).done
  | .createCheckoutOrder r => createCheckoutOrder db r
  | .verifyCheckoutPayment r => verifyCheckoutPayment db r
  | .refund id record net existing => refundTx db id record net existing
  | .syncRefund id record reachable existing => syncRefundTx db id record reachable existing
  | .resolveAdminReview id action deadline => resolveAdminReviewTx db id action deadline
  | .party id c => db.onTx id fun tx => c.run tx
  | .forceComplete id reason => db.onTx id fun tx => Transfer.forceComplete tx reason
  | .approvePayout id profile now => db.onTx id fun tx => Transfer.approvePayout tx profile now
  | .releasePayout id profile => db.onTx id fun tx => Transfer.releasePayout tx profile
  | .otherOrder user amount =>
    match db.gateway.createOrder amount (.other user) with
    | some (_, gateway) => { db with gateway := gateway }.done
    | none => db.fail "Order amount must be greater than zero." 400
  | .capture order => { db with gateway := db.gateway.capture order }.done

/-- The database after one call. -/
def step (db : Db) (l : Label) : Db := (call db l).db

/-- Listings that nobody has bought yet; everything else is empty. -/
structure Fresh (db : Db) : Prop where
  noTxs : db.txs = []
  noOrders : db.gateway.orders = []

/-- User 9 offers listing 0 for 1000 rupees. -/
def oneListing : Db where
  listings := fun i => if i = 0 then
    some ⟨some 9, 100000, .oneTime, .verified, true, .available, none, none, none, none, none⟩
    else none
  txs := []
  auctions := []
  payments := []
  carts := fun _ => []
  wallets := .empty
  gateway := .empty

/-- `buyer` orders listing 0, pays order `n` and has the payment verified. -/
def buys (buyer : UserId) (n : Nat) : List Label :=
  [.createPurchaseOrder ⟨0, buyer, 0, false, false, none, true⟩, .capture n,
    .verifyPayment ⟨0, n, n, true, buyer, 0, true⟩]

end Deltapreneur.Marketplace
