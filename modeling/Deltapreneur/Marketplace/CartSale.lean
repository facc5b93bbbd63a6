import Deltapreneur.Marketplace.DirectSale

/-!
# Sale of a domain listing through the cart

Model of `CartCheckoutService` for carts of domain listings
(`app/service/cart/cart_checkout_service.py`): `create_checkout_order` (:772-1028),
`_resolve_line_total` (:1730-1755), `verify_checkout_payment` (:1030-1500) and
`_complete_domain_purchase` (:2527-2632). Other products in a cart do not touch listings.

* `verify_checkout_payment` asks Razorpay for the captured payment and compares the order's note
  `buyerId` (`assert_captured_payment_for_order`, `client.py:242-283`). A verified signature means
  that the payment is captured for the order, so the note is what is left to check.
* A line that fails after its listing was flushed is reported and the loop goes on; the flushed
  listing commits with the rest. `fails` says which listings fail before their transaction.
* A paid line sells its listing whatever the listing's status.
-/

namespace Deltapreneur.Marketplace

open EdgePoints Razorpay

/-! ## Checkout -/

/-- A line is added to the buyer's cart. -/
def addToCart (db : Db) (buyer : UserId) (listing : ListingId) (addonAmount : Paise) : Db :=
  { db with
    carts := Function.update db.carts buyer (db.carts buyer ++ [⟨listing, addonAmount, none⟩]) }

/-- `_resolve_line_total`: `none` for a line that cannot be bought now. -/
def Db.resolveLineTotal (db : Db) (buyer : UserId) (line : CartLine) : Option Paise :=
  match db.listings line.productId with
  | none => none
  | some l =>
    if l.domainStatus ≠ .available ∧ l.domainStatus ≠ .pending then none
    else if l.listedByUserId = some buyer then none
    else some (l.askingPrice + line.addonAmount)

/-- A premium listing is in the cart. -/
def Db.hasPremium (db : Db) (lines : List CartLine) : Bool :=
  lines.any fun line => (db.listings line.productId).any fun l => l.isPremium

structure CheckoutRequest where
  buyer : UserId
  redeemPoints : Bool
  converted : Option Paise
  gatewayUp : Bool
  deriving Repr, DecidableEq

/-- The lines that can be bought, stamped with the checkout's order. -/
def Db.stampCart (db : Db) (buyer : UserId) (order : OrderId) : Db :=
  { db with
    carts := Function.update db.carts buyer ((db.carts buyer).map fun line =>
      if (db.resolveLineTotal buyer line).isSome then { line with checkoutOrderId := some order }
      else line) }

/-- `create_checkout_order`. -/
def createCheckoutOrder (db : Db) (r : CheckoutRequest) : Outcome :=
  let lines := db.carts r.buyer
  let totals := lines.filterMap (db.resolveLineTotal r.buyer)
  if lines = [] then db.fail "Cart is empty." 400
  else if db.hasPremium lines then
    db.fail ("Premium marketplace domains require acquisition confirmation, " ++
      "not payment checkout. Use Confirm Request in cart.") 400
  else if totals = [] then db.fail "No available items in cart." 400
  else if totals.sum = 0 then db.fail "Cart total must be greater than zero." 400
  else
    let charge := match r.converted with
      | some amount => (amount, 0)
      | none => calculateRedemption (db.wallets.edgePoints r.buyer) (db.wallets.pending r.buyer)
          (gstTotal totals.sum) r.redeemPoints
    let issued := if r.gatewayUp then
      db.gateway.createOrder charge.1 (.cartCheckout r.buyer) else none
    match issued with
    | none => db.fail "Could not create payment order. Please try again." 502
    | some (order, gateway) =>
      ({ db with
          gateway := gateway
          wallets := db.wallets.createPendingRedemption r.buyer order charge.2
        }.stampCart r.buyer order).done

/-! ## Verification -/

structure VerifyCheckoutRequest where
  buyer : UserId
  order : OrderId
  payment : PaymentId
  genuine : Bool
  deadline : Time
  /-- The line of this listing fails between the listing's flush and its transaction. -/
  fails : ListingId → Bool

/-- The order belongs to the buyer, by its note `buyerId`. -/
def Db.orderOfBuyer (db : Db) (order : OrderId) (buyer : UserId) : Bool :=
  db.gateway.orders.any fun o => o.id = order && o.notes.buyerId = some buyer

/-- The checkout is accepted: the signature verifies and the order is the buyer's. -/
def Db.acceptsCheckout (db : Db) (r : VerifyCheckoutRequest) : Bool :=
  db.gateway.verifyPaymentSignature r.order r.payment r.genuine && db.orderOfBuyer r.order r.buyer

/-- `_complete_domain_purchase`, with the exceptions that the caller's loop swallows. -/
def Db.completeDomainPurchase (db : Db) (r : VerifyCheckoutRequest) (listing : ListingId) : Db :=
  match db.listings listing with
  | none => db
  | some l =>
    let sold := db.editListing listing (.markSold r.buyer r.payment)
    if r.fails listing ∨ l.listedByUserId = none then sold
    else match sold.createFromPayment listing l r.buyer r.payment l.askingPrice r.deadline with
      | .ok db' => db'
      | .error _ => sold

/-- The buyer's lines stamped with the order. -/
def Db.checkoutLines (db : Db) (buyer : UserId) (order : OrderId) : List CartLine :=
  (db.carts buyer).filter fun line => line.checkoutOrderId = some order

/-- `remove_fulfilled_cart_items_for_payment`. -/
def Db.clearCart (db : Db) (buyer : UserId) (order : OrderId) : Db :=
  { db with
    carts := Function.update db.carts buyer
      ((db.carts buyer).filter fun line => line.checkoutOrderId ≠ some order) }

/-- `verify_checkout_payment`. -/
def verifyCheckoutPayment (db : Db) (r : VerifyCheckoutRequest) : Outcome :=
  let cancelled := { db with wallets := db.wallets.cancelRedemption r.order }
  if db.gateway.verifyPaymentSignature r.order r.payment r.genuine = false then
    cancelled.fail "Payment verification failed." 400
  else if db.orderOfBuyer r.order r.buyer = false then
    cancelled.fail "Payment order does not belong to this buyer." 400
  else if db.checkoutLines r.buyer r.order = [] then db.done
  else
    let confirmed := { db with wallets := db.wallets.confirmRedemption r.order }
    (((db.checkoutLines r.buyer r.order).map CartLine.productId).foldl
      (fun db listing => db.completeDomainPurchase r listing) confirmed |>.clearCart
        r.buyer r.order).done

end Deltapreneur.Marketplace
