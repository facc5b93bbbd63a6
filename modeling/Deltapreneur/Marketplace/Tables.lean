import Deltapreneur.EdgePoints.Wallet
import Deltapreneur.Transfer.Transaction

/-!
# The tables a domain sale goes through

Model of the rows that the three ways of selling a domain listing share: the listing
(`app/entity/cobranding/domain_listing_entity.py`), the transfer transaction, the domain auction
with its winner payments (`app/entity/auction/…`), the buyers' carts, the wallets and the
payment gateway.

* Transactions, auctions and winner payments are lists; the position is the id, so a new row has
  an id no row had before.
* A service call returns the database it leaves committed together with its result
  (`Outcome`): some exceptions are raised after a commit.
* `createFromPayment` is `create_from_payment`
  (`domain_marketplace_transaction_service.py:43-133`), `Listing.restore` is `_restore_listing`
  (`domain_transfer_escrow_service.py:45-64`).
* The fee split of a transaction and the buyer's contact fields are left out.

Results:

* `editListing_self`, `editListing_ne`: what an update of one listing row touches.
* `createFromPayment_cases`: a payment that is already recorded adds nothing, any other adds one
  transaction and points the listing to it.
-/

namespace Deltapreneur.Marketplace

open EdgePoints Razorpay Transfer

/-! ## Rows -/

/-- `DomainListingStatus`. -/
inductive DomainListingStatus
  | available | sold | pending | underReview
  deriving Repr, DecidableEq

/-- `MarketplacePaymentStatus`. -/
inductive MarketplacePaymentStatus
  | created | completed | failed | contactPending | refunded
  deriving Repr, DecidableEq

/-- `SaleType`. -/
inductive SaleType
  | oneTime | auction
  deriving Repr, DecidableEq

/-- `DomainListingVerificationStatus`. -/
inductive VerificationStatus
  | pending | verified | rejected | moreInfoRequested
  deriving Repr, DecidableEq

/-- The columns of `DomainListing` that the services read. -/
structure Listing where
  listedByUserId : Option UserId
  askingPrice : Paise
  saleType : SaleType
  verificationStatus : VerificationStatus
  verified : Bool
  domainStatus : DomainListingStatus
  paymentStatus : Option MarketplacePaymentStatus
  purchasedByUserId : Option UserId
  razorpayOrderId : Option OrderId
  razorpayPaymentId : Option PaymentId
  activeTransactionId : Option TxId
  deriving Repr, DecidableEq

/-- `AuctionStatus` (`app/utils/enums.py`). -/
inductive AuctionStatus
  | draft | active | extended | ended | unsold | closed | cancelled | takenDown
  | paymentPending | completed
  deriving Repr, DecidableEq

def AuctionStatus.value : AuctionStatus → String
  | .draft => "DRAFT"
  | .active => "ACTIVE"
  | .extended => "EXTENDED"
  | .ended => "ENDED"
  | .unsold => "UNSOLD"
  | .closed => "CLOSED"
  | .cancelled => "CANCELLED"
  | .takenDown => "TAKEN_DOWN"
  | .paymentPending => "PAYMENT_PENDING"
  | .completed => "COMPLETED"

/-- The auction takes bids. -/
def AuctionStatus.live : AuctionStatus → Bool
  | .active | .extended => true
  | _ => false

/-- A domain `Auction`, with its highest bid and that bid's bidder. -/
structure Auction where
  domainId : ListingId
  createdBy : UserId
  status : AuctionStatus
  minBidPrice : Paise
  currentHighestBid : Option Paise
  currentWinnerId : Option UserId
  deriving Repr, DecidableEq

/-- `PaymentStatus` of a winner payment. -/
inductive PaymentStatus
  | pending | success | failed | refunded
  deriving Repr, DecidableEq

/-- `Payment` (`app/entity/auction/payment_entity.py`), unique in `razorpay_order_id`. -/
structure WinnerPayment where
  auctionId : AuctionId
  userId : UserId
  razorpayOrderId : OrderId
  amount : Paise
  paymentStatus : PaymentStatus
  razorpayPaymentId : Option PaymentId
  deriving Repr, DecidableEq

/-- A `CartItem` for a domain listing; `checkoutOrderId` is
`metadata_json["_checkout_razorpay_order_id"]`. -/
structure CartLine where
  productId : ListingId
  addonAmount : Paise
  checkoutOrderId : Option OrderId
  deriving Repr, DecidableEq

/-- The `notes` a service attaches to its Razorpay order. -/
inductive Notes
  /-- `create_purchase_order`: `domainListingId`, `buyerId`. -/
  | domainListing (listing : ListingId) (buyer : UserId)
  /-- `create_winner_order`: `auctionId`, `userId`. -/
  | auctionWinner (auction : AuctionId) (user : UserId)
  /-- `create_checkout_order`: `cartCheckout`, `buyerId`. -/
  | cartCheckout (buyer : UserId)
  /-- An order of any other service: a fee, a subscription, a product. -/
  | other (user : UserId)
  deriving Repr, DecidableEq

/-- The note `buyerId` (or `buyer_id`), which not every service sets. -/
def Notes.buyerId : Notes → Option UserId
  | .domainListing _ buyer | .cartCheckout buyer => some buyer
  | .auctionWinner _ _ | .other _ => none

/-! ## The database -/

/-- The committed tables and the gateway. -/
structure Db where
  listings : ListingId → Option Listing
  txs : List Transaction
  auctions : List Auction
  payments : List WinnerPayment
  carts : UserId → List CartLine
  wallets : Wallets
  gateway : Gateway Notes

/-- What a call leaves: the committed database and its result. -/
structure Outcome where
  db : Db
  result : Except AppException Unit

/-- A call that returns normally. -/
def Db.done (db : Db) : Outcome := ⟨db, .ok ()⟩

/-- A call that raises, with `db` committed before. -/
def Db.fail (db : Db) (message : String) (statusCode : Nat) : Outcome :=
  ⟨db, raise message statusCode⟩

@[simp] theorem done_db (db : Db) : db.done.db = db := rfl

@[simp] theorem fail_db (db : Db) (m : String) (n : Nat) : (db.fail m n).db = db := rfl

/-- `UPDATE domain_listings … WHERE id = listing`. -/
def Db.editListing (db : Db) (listing : ListingId) (f : Listing → Listing) : Db :=
  { db with listings := Function.update db.listings listing ((db.listings listing).map f) }

variable {db db' : Db} {listing : ListingId} {f : Listing → Listing} {payment : PaymentId}

@[simp] theorem editListing_txs : (db.editListing listing f).txs = db.txs := rfl

theorem editListing_self {l : Listing} (h : db.listings listing = some l) :
    (db.editListing listing f).listings listing = some (f l) := by
  simp [Db.editListing, h]

theorem editListing_ne {other : ListingId} (h : other ≠ listing) :
    (db.editListing listing f).listings other = db.listings other := by
  simp [Db.editListing, h]

/-- `get_by_razorpay_payment_id`. -/
def Db.txByPayment (db : Db) (payment : PaymentId) : Option TxId :=
  db.txs.findIdx? fun tx => tx.razorpayPaymentId = some payment

/-! ## Writing a sale and taking it back -/

/-- The columns a completed payment sets on the listing. -/
def Listing.markSold (buyer : UserId) (payment : PaymentId) (l : Listing) : Listing :=
  { l with
    domainStatus := .sold
    paymentStatus := some .completed
    razorpayPaymentId := some payment
    purchasedByUserId := some buyer }

/-- `create_from_payment` for the listing row `l` with id `listing`. -/
def Db.createFromPayment (db : Db) (listing : ListingId) (l : Listing) (buyer : UserId)
    (payment : PaymentId) (gross : Paise) (deadline : Time) : Except AppException Db :=
  if (db.txByPayment payment).isSome then .ok db
  else match l.listedByUserId with
    | none => raise "Domain listing has no seller." 400
    | some seller =>
      let tx := Transaction.create listing buyer seller gross payment deadline
      .ok ({ db with txs := db.txs ++ [tx] }.editListing listing
        fun l => { l with activeTransactionId := some db.txs.length })

/-- `_restore_listing`: unconditionally back on the market. -/
def Listing.restore (l : Listing) : Listing :=
  { l with
    domainStatus := .available
    paymentStatus := none
    purchasedByUserId := none
    activeTransactionId := none }

/-- A payment that is already recorded adds nothing; any other adds one transaction of the
listing and points the listing to it. -/
theorem createFromPayment_cases {l : Listing} {buyer : UserId} {gross : Paise} {deadline : Time}
    (h : db.createFromPayment listing l buyer payment gross deadline = .ok db') :
    ((db.txByPayment payment).isSome = true ∧ db' = db) ∨
      ∃ seller, (db.txByPayment payment).isSome = false ∧
        db' = { db with
          txs := db.txs ++ [Transaction.create listing buyer seller gross payment deadline]
          }.editListing listing fun l => { l with activeTransactionId := some db.txs.length } := by
  unfold Db.createFromPayment at h
  split_ifs at h with hex
  · exact .inl ⟨hex, (Except.ok.inj h).symm⟩
  · cases hs : l.listedByUserId with
    | none => simp [hs] at h
    | some seller =>
      rw [hs] at h
      exact .inr ⟨seller, by simpa using hex, (Except.ok.inj h).symm⟩

end Deltapreneur.Marketplace
