import Deltapreneur.Cart.Basket
import Deltapreneur.Cart.Fulfilment

/-!
# Checkout of a cart

Model of `CartCheckoutService.create_checkout_order` (:772-1028), `cancel_checkout_order`
(:1680-1728), `_resolve_line_total` (:1730-1876) and `_revalidate_domain_registration_items`
(:1941-2120) of `app/service/cart/cart_checkout_service.py`, and the shop that a user's requests
act on.

* The checkout prices the lines that can be bought now, asks Razorpay for an order over their
  total and stamps them with its id. A registration also gets a pending registration order, a
  piece of software a pending purchase. Nothing else of a line is frozen.
* A cancelled checkout takes the stamps off and expires the pending registration orders.
* A request runs alone, in one transaction that its exception rolls back.
* `Shop.quotes` is a history variable: what each line was when its order was priced.
-/

namespace Deltapreneur.Cart

open EdgePoints Marketplace Razorpay

/-! ## Prices -/

/-- `_registration_provider_total`. -/
def ClientMeta.registrationProviderTotal (m : ClientMeta) : Option Paise :=
  if m.isManagedAcquisition then none
  else if m.providerPeriodTotal ≠ 0 then some m.providerPeriodTotal
  else if m.providerUnitPrice ≠ 0 then some (m.providerUnitPrice * max 1 m.period)
  else if m.price ≠ 0 then some m.price
  else none

/-- `_registration_customer_total`. -/
def ClientMeta.registrationCustomerTotal (m : ClientMeta) (cat : Catalogue) : Option Paise :=
  m.registrationProviderTotal.map (cat.markup m.isPremium m.domainName)

/-- `_registration_customer_total`, else the price of the metadata. -/
def ClientMeta.registrationTotal (m : ClientMeta) (cat : Catalogue) : Paise :=
  match m.registrationCustomerTotal cat with
  | some total => if total ≠ 0 then total else m.price
  | none => m.price

def Software.planPrice (sw : Software) (plan : Option Plan) : Paise :=
  match plan.bind Plan.duration? with
  | none => sw.price
  | some d => ((sw.plans.find? fun x => x.1 = d).map Prod.snd).getD sw.price

/-- The base price of a line; `none` when it cannot be bought now. -/
def CartItem.basePrice (it : CartItem) (cat : Catalogue) : Option Paise :=
  match it.productType with
  | .domainListing => do
    let l ← cat.listings it.productId
    if l.domainStatus ≠ .available ∧ l.domainStatus ≠ .pending then none
    else if l.listedByUserId = some it.userId then none
    else some l.askingPrice
  | .technology =>
    match cat.software it.productId with
    | some sw =>
      if sw.purchasable = false ∨ sw.available = false ∨ sw.listedByUserId = some it.userId ∨
          sw.auction = true then none
      else some (sw.planPrice it.selectedPlan)
    | none => do
      let sv ← cat.services it.productId
      if sv.available = false ∨ sv.productKey = false ∨ sv.validInput true it.client = false then
        none
      else some (sv.price it.selectedPlan it.client.annual)
  | .ventureDeal => do
    let v ← cat.ventures it.productId
    if v.available = false ∨ v.listedByUserId = it.userId then none else some v.dealValue
  | .domainRegistration => some (it.client.registrationTotal cat)

/-- `_resolve_line_total`. The opt-in costs ₹1,000. -/
def CartItem.lineTotal (it : CartItem) (cat : Catalogue) : Option Paise :=
  (it.basePrice cat).map fun base =>
    base + (it.addonServices.filterMap cat.addons).sum + if it.coBrotherOptIn then 100000 else 0

/-! ## Registrations before checkout -/

/-- One line in `_revalidate_domain_registration_items`: the registrar says it is free, and the
price is its live quote. `none` is a failure. -/
def CartItem.revalidate (it : CartItem) (cat : Catalogue) : Option CartItem :=
  match it.client.domainName with
  | none => none
  | some domain =>
    let minYears := it.client.minYears cat domain
    let years := max (if it.client.period ≠ 0 then it.client.period else minYears) minYears
    if cat.free domain = false then none
    else if it.client.aftermarket then
      (cat.quote domain 1).bind fun quote =>
        if quote.price = 0 then none
        else some { it with client := { it.client with
          price := quote.price, period := 1, minPeriodYears := minYears, isPremium := true
          isManagedAcquisition := true } }
    else (cat.periodQuote domain years).bind fun quote =>
      if quote.price = 0 then none
      else some { it with client := it.client.quoted cat domain years quote }

/-- The line as the checkout prices it. -/
def CartItem.forCheckout (it : CartItem) (cat : Catalogue) : Option CartItem :=
  if it.productType = .domainRegistration then it.revalidate cat else some it

/-! ## The checkout -/

structure CheckoutRequest where
  buyer : UserId
  redeemPoints : Bool
  /-- The charge in another currency; `none` for rupees. -/
  converted : Option Paise
  /-- `_require_registrant` passes. -/
  registrant : Bool
  gatewayUp : Bool
  deriving Repr, DecidableEq

/-- A line with the stamps of its order. -/
def CartItem.stamped (it : CartItem) (call : Nat) (order : OrderId) : CartItem :=
  { it with
    checkout :=
      if it.productType = .domainRegistration then
        { it.checkout with
          razorpayOrderId := some order
          registrationOrderId := some (call, it.id)
          periodYears := some (max 1 it.client.period) }
      else { it.checkout with razorpayOrderId := some order } }

/-- `_create_pending_domain_registration_order`. -/
def CartItem.pendingRegistration (it : CartItem) (call : Nat) (order : OrderId) :
    Option RegistrationOrder :=
  if it.productType = .domainRegistration then
    it.client.domainName.map fun domain =>
      { id := (call, it.id), buyerId := it.userId, domain := domain
        periodYears := max 1 it.client.period, razorpayOrderId := order, razorpayPaymentId := none
        status := .created, marketplace := false, registrarId := false, line := it.id }
  else none

/-- `create_pending_from_cart`. -/
def CartItem.pendingPurchase (it : CartItem) (cat : Catalogue) (call : Nat) (order : OrderId) :
    Option Purchase :=
  if it.productType = .technology ∧ (cat.software it.productId).isSome then
    some { id := (call, it.id), softwareId := it.productId, buyerId := it.userId
           razorpayOrderId := order, razorpayPaymentId := none, completed := false
           selectedPlan := it.selectedPlan.bind Plan.duration?, addonServices := it.addonServices
           coBrotherOptIn := it.coBrotherOptIn, line := it.id }
  else none

/-- The rows after the checkout: lines as priced and stamped, and the pending orders. -/
def Db.stamp (db : Db) (cat : Catalogue) (call : Nat) (order : OrderId) (items valid : List CartItem) :
    Db :=
  let saved := items.foldl Db.setItem db
  { (valid.map (·.stamped call order)).foldl Db.setItem saved with
    registrations := db.registrations ++ valid.filterMap (·.pendingRegistration call order)
    purchases := db.purchases ++ valid.filterMap (·.pendingPurchase cat call order) }

/-- What a line was when its order was priced. -/
structure Quote where
  order : OrderId
  line : ItemId
  selectedPlan : Option Plan
  addonServices : List Addon
  coBrotherOptIn : Bool
  /-- The billing cycle. -/
  annual : Bool
  periodYears : Nat
  deriving Repr, DecidableEq

def CartItem.quote (it : CartItem) (order : OrderId) : Quote :=
  { order := order, line := it.id, selectedPlan := it.selectedPlan
    addonServices := it.addonServices, coBrotherOptIn := it.coBrotherOptIn
    annual := it.client.annual, periodYears := max 1 it.client.period }

/-- A user's shop: the tables, the gateway with the buyer as an order's note, and what is
counted. -/
structure Shop where
  db : Db
  gateway : Gateway UserId
  /-- The id of the next cart row. -/
  nextItem : ItemId
  /-- The number of the next call. -/
  nextCall : Nat
  quotes : List Quote

def Shop.empty : Shop := ⟨.empty, .empty, 0, 0, []⟩

/-- The lines of a cart that can be bought, as the checkout prices them. -/
def validItems (cat : Catalogue) (items : List CartItem) : List CartItem :=
  items.filter fun it => (it.lineTotal cat).isSome

/-- `create_checkout_order`. -/
def Shop.createCheckoutOrder (s : Shop) (cat : Catalogue) (r : CheckoutRequest) :
    Except Raised (OrderId × Shop) :=
  let cart := s.db.cart r.buyer
  if cart = [] then throw (.app "Cart is empty.")
  else if cart.any fun it => it.productType = .domainListing &&
      (cat.listings it.productId).any fun l => l.isPremium then
    throw (.app ("Premium marketplace domains require acquisition confirmation, " ++
      "not payment checkout. Use Confirm Request in cart."))
  else if (cart.any fun it => it.productType = .domainRegistration) && !r.registrant then
    throw (.app "Registrant details are required to register domains.")
  else match cart.mapM fun it => it.forCheckout cat with
  | none => throw (.app ("Some domains are no longer available or their price could not be " ++
      "verified. Remove them from your cart and try again."))
  | some items =>
    let valid := validItems cat items
    let total := (items.filterMap fun it => it.lineTotal cat).sum
    if items.any fun it => it.productType = .domainRegistration && it.client.isManaged then
      throw (.app ("This domain requires managed acquisition confirmation, not payment " ++
        "checkout. Use Confirm Request in cart."))
    else if valid = [] then throw (.app "No available items in cart.")
    else if total = 0 then throw (.app "Cart total must be greater than zero.")
    else
      let charge := match r.converted with
        | some amount => (amount, 0)
        | none => calculateRedemption (s.db.wallets.edgePoints r.buyer)
            (s.db.wallets.pending r.buyer) (gstTotal total) r.redeemPoints
      match if r.gatewayUp then s.gateway.createOrder charge.1 r.buyer else none with
      | none => throw (.app "Could not create payment order. Please try again.")
      | some (order, gateway) => pure (order,
          { s with
            db := { s.db.stamp cat s.nextCall order items valid with
              wallets := s.db.wallets.createPendingRedemption r.buyer order charge.2 }
            gateway := gateway
            nextCall := s.nextCall + 1
            quotes := s.quotes ++ valid.map (·.quote order) })

/-- A line without the stamps of its checkout. The flag of a fulfilled line stays. -/
def CartItem.unstamped (it : CartItem) : CartItem :=
  { it with
    checkout := { it.checkout with
      razorpayOrderId := none, registrationOrderId := none, periodYears := none } }

/-- `cancel_checkout_order`. -/
def Db.cancelCheckoutOrder (db : Db) (buyer : UserId) (order : OrderId) : Db :=
  { db with
    wallets := db.wallets.cancelRedemption order
    items := db.items.map fun it =>
      if it.userId = buyer ∧ it.checkout.razorpayOrderId = some order then it.unstamped else it
    registrations := db.registrations.map fun o =>
      if o.razorpayOrderId = order ∧ o.status = .created then { o with status := .expired } else o }

end Deltapreneur.Cart
