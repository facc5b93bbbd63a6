import Deltapreneur.Marketplace.Tables

/-!
# Direct sale of a domain listing

Model of `MarketplacePaymentService` (`app/service/domain/marketplace_payment_service.py`):
`create_purchase_order` (:40-233), `verify_payment` (:235-432), `handle_payment_failure`
(:434-455).

* Razorpay is configured. Whether it answers an order request is part of the request.
* A price in another currency comes from an exchange-rate service; the request carries the
  converted amount, and no points are redeemed then.
* GST is 18% on top (`DOMAIN_GST_RATE`, the default settings).
* `confirm_redemption` commits when it finds a pending redemption. What `verify_payment` has
  flushed by then stays, whatever happens later in the call; `completes` says whether the rest
  (operations requests, registration order, invoice number, track record) goes through.
* Neither the listing's status nor its stored order id is among the checks of `verify_payment`.
-/

namespace Deltapreneur.Marketplace

open EdgePoints Razorpay

/-! ## `create_purchase_order` -/

/-- `PREMIUM_MARKETPLACE_MIN_PRICE_INR`. -/
def premiumMinPrice : Paise := 50000000

/-- `is_premium_marketplace_listing`. -/
def Listing.isPremium (l : Listing) : Prop := l.saleType ≠ .auction ∧ premiumMinPrice < l.askingPrice

instance (l : Listing) : Decidable l.isPremium := inferInstanceAs (Decidable (_ ∧ _))

/-- `domain_price_breakdown(sub_total)["totalInr"]`. -/
def gstTotal (subTotal : Paise) : Paise := subTotal + (subTotal * 18 + 50) / 100

structure PurchaseRequest where
  listing : ListingId
  buyer : UserId
  addonAmount : Paise
  /-- `selected_addon_services` is not empty. -/
  addonsSelected : Bool
  redeemPoints : Bool
  /-- The amount in the buyer's currency, when it is not rupees. -/
  converted : Option Paise
  /-- Razorpay answers the order request. -/
  gatewayUp : Bool
  deriving Repr, DecidableEq

/-- The amount to charge and the points redeemed. -/
def PurchaseRequest.charge (r : PurchaseRequest) (w : Wallets) (l : Listing) : Paise × Nat :=
  match r.converted with
  | some amount => (amount, 0)
  | none =>
    calculateRedemption (w.edgePoints r.buyer) (w.pending r.buyer)
      (gstTotal (l.askingPrice + r.addonAmount)) r.redeemPoints

/-- `contact_only`. -/
def PurchaseRequest.contactOnly (r : PurchaseRequest) (l : Listing) : Prop :=
  r.addonsSelected = true ∧ r.addonAmount = 0 ∧ l.askingPrice = 0

instance (r : PurchaseRequest) (l : Listing) : Decidable (r.contactOnly l) :=
  inferInstanceAs (Decidable (_ ∧ _))

/-- A purchase without a price: sold at once, to be paid by arrangement. -/
def Listing.markContactPending (buyer : UserId) (l : Listing) : Listing :=
  { l with
    domainStatus := .sold
    paymentStatus := some .contactPending
    purchasedByUserId := some buyer }

/-- The listing is held for `buyer` while `order` is paid. -/
def Listing.hold (buyer : UserId) (order : OrderId) (l : Listing) : Listing :=
  { l with
    domainStatus := .pending
    razorpayOrderId := some order
    paymentStatus := some .created
    purchasedByUserId := some buyer }

/-- The order id `create_purchase_order` gets from Razorpay for the listing row `l`. -/
def Db.issueOrder (db : Db) (r : PurchaseRequest) (l : Listing) :
    Option (OrderId × Gateway Notes) :=
  if r.gatewayUp then
    db.gateway.createOrder (r.charge db.wallets l).1 (.domainListing r.listing r.buyer)
  else none

/-- The last part of `create_purchase_order`: the order, its redemption and the hold. -/
def Db.holdListing (db : Db) (r : PurchaseRequest) (l : Listing) : Outcome :=
  match db.issueOrder r l with
  | none =>
    if r.gatewayUp then db.fail "Order amount must be greater than zero." 400
    else db.fail "Could not create payment order. Please try again." 502
  | some (order, gateway) =>
    ({ db with
        gateway := gateway
        wallets := db.wallets.createPendingRedemption r.buyer order (r.charge db.wallets l).2
      }.editListing r.listing (.hold r.buyer order)).done

/-- `create_purchase_order`. -/
def createPurchaseOrder (db : Db) (r : PurchaseRequest) : Outcome :=
  match db.listings r.listing with
  | none => db.fail "Domain listing not found." 404
  | some l =>
    if l.listedByUserId = some r.buyer then db.fail "You cannot buy your own domain." 400
    else if l.domainStatus = .sold then db.fail "This domain has already been sold." 409
    else if l.domainStatus = .underReview then
      db.fail "This domain is currently under review for premium acquisition." 409
    else if l.domainStatus = .pending ∧ l.purchasedByUserId ≠ some r.buyer then
      db.fail "Another buyer is completing payment for this domain." 409
    else if l.isPremium ∨ premiumMinPrice < l.askingPrice then
      db.fail ("Premium marketplace domains cannot be purchased online. " ++
        "Add to cart and submit an acquisition request.") 400
    else if gstTotal (l.askingPrice + r.addonAmount) = 0 ∧ ¬ r.contactOnly l then
      db.fail "Invalid listing price for payment." 400
    else if r.contactOnly l then (db.editListing r.listing (.markContactPending r.buyer)).done
    else db.holdListing r l

/-! ## `verify_payment` -/

structure VerifyRequest where
  listing : ListingId
  order : OrderId
  payment : PaymentId
  /-- The presented signature is the HMAC of `order|payment`. -/
  genuine : Bool
  buyer : UserId
  /-- `seller_deadline_at` of the transaction to create. -/
  deadline : Time
  /-- The rest of the call goes through. -/
  completes : Bool
  deriving Repr, DecidableEq

/-- What a failed payment leaves of a hold. -/
def Listing.markFailed (l : Listing) : Listing :=
  { l with
    domainStatus := .available
    paymentStatus := some .failed
    purchasedByUserId := none
    razorpayOrderId := none }

/-- The listing belongs to another buyer. -/
def Listing.heldByOther (buyer : UserId) (l : Listing) : Prop :=
  l.purchasedByUserId ≠ none ∧ l.purchasedByUserId ≠ some buyer

instance (buyer : UserId) (l : Listing) : Decidable (l.heldByOther buyer) :=
  inferInstanceAs (Decidable (_ ∧ _))

/-- The database with the listing sold and the redemption confirmed. -/
def Db.sell (db : Db) (r : VerifyRequest) : Db :=
  { db.editListing r.listing (.markSold r.buyer r.payment) with
    wallets := db.wallets.confirmRedemption r.order }

/-- What is left when the call raises after the sale was flushed: everything so far when
`confirm_redemption` has committed it, nothing otherwise. -/
def Db.afterRollback (db : Db) (r : VerifyRequest) : Db :=
  if (db.wallets.pendingRedemption r.order).isSome then db.sell r else db

/-- The sale branch of `verify_payment`. -/
def Db.completeSale (db : Db) (r : VerifyRequest) (l : Listing) : Outcome :=
  match (db.sell r).createFromPayment r.listing l r.buyer r.payment l.askingPrice r.deadline with
  | .error e => ⟨db.afterRollback r, .error e⟩
  | .ok db' =>
    if r.completes then db'.done
    else (db.afterRollback r).fail "Internal server error" 500

/-- `verify_payment`. -/
def verifyPayment (db : Db) (r : VerifyRequest) : Outcome :=
  if (db.txByPayment r.payment).isSome then db.done
  else match db.listings r.listing with
    | none => db.fail "Domain listing not found." 404
    | some l =>
      if l.heldByOther r.buyer then db.fail "This purchase order belongs to another user." 403
      else if db.gateway.verifyPaymentSignature r.order r.payment r.genuine = false then
        ({ db with wallets := db.wallets.cancelRedemption r.order
          }.editListing r.listing .markFailed).fail "Payment verification failed." 400
      else db.completeSale r l

/-! ## `handle_payment_failure` -/

/-- `handle_payment_failure`: anybody may call it, for a listing in any state. -/
def handlePaymentFailure (db : Db) (listing : ListingId) : Outcome :=
  match db.listings listing with
  | none => db.fail "Domain listing not found." 404
  | some l =>
    let wallets := match l.razorpayOrderId with
      | some order => db.wallets.cancelRedemption order
      | none => db.wallets
    ({ db with wallets := wallets }.editListing listing .markFailed).done

end Deltapreneur.Marketplace
