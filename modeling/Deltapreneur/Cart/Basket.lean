import Deltapreneur.Cart.Tables

/-!
# Filling the cart

Model of `CartService` (`app/service/cart/cart_service.py`): `add_item` (:120-199),
`update_item` (:274-302), `remove_item`, `clear_cart` (:304-314),
`update_domain_registration_period` (:316-409), `cleanup_stale_purchased_cart_items` (:412-545)
and `_validate_product_available` (:577-706).

* A request runs alone, in one transaction that its exception rolls back. Only the purge of stale
  lines, which `add_item` and `get_cart` do first, commits on its own.
* Metadata sent by a client replaces the whole `metadata_json`, reserved keys included: the link
  to a checkout is lost. A request without metadata leaves it alone.
* `AddRequest.metadata` is `none` for a missing or an empty object, which `add_item` treats alike;
  `update_item` takes an empty object as metadata.
* Names of products, and with them part of one message, are left out.
-/

namespace Deltapreneur.Cart

open Marketplace

/-! ## Metadata of a registration -/

/-- `is_openprovider_managed_registration`: above ₹5,00,000 with tax. -/
def ClientMeta.isManaged (m : ClientMeta) : Bool :=
  m.isManagedAcquisition || gstTotal m.price > 50000000

/-- `max(1, minPeriodYears or tld_min_registration_years(tld))`. -/
def ClientMeta.minYears (m : ClientMeta) (cat : Catalogue) (domain : Domain) : Nat :=
  max 1 (if m.minPeriodYears ≠ 0 then m.minPeriodYears else cat.minYears domain)

/-- The keys that `quote_registration_period_price` fills in for a number of years. -/
def ClientMeta.quoted (m : ClientMeta) (cat : Catalogue) (domain : Domain) (years : Nat)
    (quote : PeriodQuote) : ClientMeta :=
  { m with
    price := quote.price
    period := max (max 1 years) (cat.minYears domain)
    minPeriodYears := max 1 (cat.minYears domain)
    providerPeriodTotal := quote.registrarTotal
    providerUnitPrice := quote.providerUnitPrice
    isPremium := quote.isPremium }

/-- The live quote for a number of years, raised to the registry's minimum. -/
def Catalogue.periodQuote (cat : Catalogue) (domain : Domain) (years : Nat) : Option PeriodQuote :=
  cat.quote domain (max (max 1 years) (cat.minYears domain))

/-- A registration's metadata after `_validate_product_available`. -/
def ClientMeta.validated (m : ClientMeta) (cat : Catalogue) : ClientMeta :=
  match m.domainName with
  | none => m
  | some domain => { m with minPeriodYears := m.minYears cat domain, period := max 1 m.period }

/-! ## Checks -/

/-- `validate_order_input`. -/
def Service.validInput (sv : Service) (plan : Bool) (m : ClientMeta) : Bool :=
  sv.required = [] ||
    sv.required.any fun group => group.all fun key => key ∈ m.input || (plan && key = 0)

def checkListing (user : UserId) : Option Listing → Except Raised Unit
  | none => throw (.app "Domain listing not found.")
  | some l =>
    if l.listedByUserId = some user then throw (.app "You cannot add your own listing to cart.")
    else if l.domainStatus = .underReview then
      throw (.app ("This domain is no longer available for acquisition. " ++
        "It is currently under review."))
    else if l.domainStatus ≠ .available ∧ l.domainStatus ≠ .pending then
      throw (.app "This domain is not available.")
    else pure ()

def checkSoftware (user : UserId) (sw : Software) : Except Raised Unit :=
  if sw.listedByUserId = some user then throw (.app "You cannot add your own listing to cart.")
  else if sw.available = false then throw (.app "This technology is not available.")
  else if sw.auction then throw (.app "Auction items cannot be added to cart.")
  else if sw.purchasable = false then
    throw (.app ("This technology listing is not verified yet. " ++
      "Purchases and bids are blocked until an admin approves it."))
  else pure ()

def checkService (m : ClientMeta) (plan : Option Plan) : Option Service → Except Raised Unit
  | none => throw (.app "Technology listing not found.")
  | some sv =>
    if sv.available = false then throw (.app "This technology is not available.")
    else if sv.productKey = false then
      throw (.app "This technology service is not available for automated purchase.")
    else if sv.validInput plan.isSome m = false then
      throw (.app "The service requires additional configuration before purchase.")
    else pure ()

def checkVenture (user : UserId) : Option Venture → Except Raised Unit
  | none => throw (.app "Venture not found.")
  | some v =>
    if v.listedByUserId = user then throw (.app "You cannot add your own venture to cart.")
    else if v.available = false then throw (.app "This venture is not available.")
    else pure ()

/-- A piece of software, else a service of the catalogue. -/
def checkTechnology (cat : Catalogue) (user : UserId) (product : ProductId) (m : ClientMeta)
    (plan : Option Plan) : Except Raised Unit :=
  match cat.software product with
  | some sw => checkSoftware user sw
  | none => checkService m plan (cat.services product)

/-- `_validate_product_available`, with the metadata as it leaves it. -/
def validateProductAvailable (cat : Catalogue) (user : UserId) (type : ProductType)
    (product : ProductId) (m : ClientMeta) (plan : Option Plan) : Except Raised ClientMeta :=
  match type with
  | .domainListing => do
    checkListing user (cat.listings product)
    pure m
  | .technology => do
    checkTechnology cat user product m plan
    pure m
  | .ventureDeal => do
    checkVenture user (cat.ventures product)
    pure m
  | .domainRegistration =>
    if m.price = 0 then throw (.app "Registration price is unavailable for this domain.")
    else pure (m.validated cat)

/-- A premium listing or a managed registration: it must be bought alone. -/
def Catalogue.alone (cat : Catalogue) (type : ProductType) (product : ProductId)
    (m : ClientMeta) : Bool :=
  match type with
  | .domainListing => (cat.listings product).any fun l => l.isPremium
  | .domainRegistration => m.isManaged
  | .technology | .ventureDeal => false

/-- `_enforce_managed_acquisition_cart_rules`. -/
def enforceManagedAcquisitionCartRules (cat : Catalogue) (items : List CartItem)
    (type : ProductType) (product : ProductId) (m : ClientMeta) (updatingExisting : Bool) :
    Except Raised Unit :=
  if cat.alone type product m then
    if items.any fun it => !(it.productType = type && it.productId = product) then
      throw (.app ("Premium domains above ₹5,00,000 use a dedicated managed acquisition " ++
        "checkout and cannot be mixed with other cart items. " ++
        "Please clear your cart first, then add this domain."))
    else pure ()
  else if (items.any fun it => cat.alone it.productType it.productId it.client) &&
      !updatingExisting then
    throw (.app ("Your cart already holds a managed acquisition domain. " ++
      "Complete or remove that request before adding other items."))
  else pure ()

/-! ## Stale lines -/

/-- The domains a user owns: registered, or bought on the marketplace. -/
def Db.purchasedDomains (db : Db) (cat : Catalogue) (user : UserId) : List Domain :=
  (db.registrations.filter fun o => o.buyerId = user &&
    (o.status = .active || o.status = .registrationPending || o.status = .paymentCompleted)).map
      RegistrationOrder.domain ++ (cat.purchased user).map cat.listingDomain

/-- The line is for something the user has already bought. -/
def Db.stale (db : Db) (cat : Catalogue) (user : UserId) (it : CartItem) : Bool :=
  ((it.checkout.registrationOrderId.or it.client.registrationOrder).any fun id =>
    db.registrations.any fun o => o.id = id && o.buyerId = user &&
      (o.status = .active || o.status = .registrationPending || o.status = .paymentCompleted)) ||
  match it.productType with
  | .domainRegistration => it.client.domainName.any (· ∈ db.purchasedDomains cat user)
  | .domainListing => it.productId ∈ cat.purchased user ||
      (cat.listings it.productId).any fun l =>
        l.domainStatus = .sold || l.paymentStatus = some .completed
  | .technology =>
    (db.purchases.any fun p => p.buyerId = user && p.completed && p.softwareId = it.productId) ||
      it.client.providerOrderId.any fun order => db.subscriptions.any fun s =>
        s.userId = user && (s.status = .active || s.status = .pending) && !s.isDeleted &&
          s.providerOrderId = some order
  | .ventureDeal => false

/-- `cleanup_stale_purchased_cart_items`. -/
def Db.cleanupStalePurchasedCartItems (db : Db) (cat : Catalogue) (user : UserId) : Db :=
  { db with items := db.items.filter fun it => !(it.userId = user && db.stale cat user it) }

/-! ## Requests -/

structure AddRequest where
  productType : ProductType
  productId : ProductId
  selectedPlan : Option Plan
  addonServices : List Addon
  coBrotherOptIn : Bool
  metadata : Option ClientMeta
  deriving Repr, DecidableEq

/-- The flag of a managed registration. -/
def ClientMeta.tagged (m : ClientMeta) (type : ProductType) : ClientMeta :=
  if type = .domainRegistration ∧ m.isManaged then { m with isManagedAcquisition := true } else m

/-- What `add_item` makes of a line that is already in the cart. -/
def CartItem.readd (it : CartItem) (req : AddRequest) (validated : ClientMeta) : CartItem :=
  { it with
    selectedPlan := req.selectedPlan.or it.selectedPlan
    addonServices := if req.addonServices = [] then it.addonServices else req.addonServices
    coBrotherOptIn := req.coBrotherOptIn
    client := validated.tagged req.productType
    checkout := if req.metadata.isSome then {} else it.checkout }

/-- A row of the cart is replaced. -/
def Db.setItem (db : Db) (it : CartItem) : Db :=
  { db with items := db.items.map fun x => if x.id = it.id then it else x }

/-- `add_item` once stale lines are purged; `id` is the new row's. -/
def Db.addItem (db : Db) (cat : Catalogue) (user : UserId) (id : ItemId) (req : AddRequest) :
    Except Raised Db :=
  match (db.cart user).find? fun it =>
      it.productType = req.productType && it.productId = req.productId with
  | some it => do
    let m := req.metadata.getD it.client
    let validated ← validateProductAvailable cat user req.productType req.productId m
      (req.selectedPlan.or it.selectedPlan)
    enforceManagedAcquisitionCartRules cat (db.cart user) req.productType req.productId validated
      true
    pure (db.setItem (it.readd req validated))
  | none => do
    let validated ← validateProductAvailable cat user req.productType req.productId
      (req.metadata.getD {}) req.selectedPlan
    enforceManagedAcquisitionCartRules cat (db.cart user) req.productType req.productId validated
      false
    pure { db with
      items := db.items ++ [{
        id := id, userId := user, productType := req.productType, productId := req.productId
        selectedPlan := req.selectedPlan, addonServices := req.addonServices
        coBrotherOptIn := req.coBrotherOptIn, client := validated.tagged req.productType
        checkout := {} }] }

structure UpdateRequest where
  /-- `some none` is an empty text. -/
  selectedPlan : Option (Option Plan)
  addonServices : Option (List Addon)
  coBrotherOptIn : Option Bool
  metadata : Option ClientMeta
  deriving Repr, DecidableEq

def CartItem.update (it : CartItem) (req : UpdateRequest) : CartItem :=
  { it with
    selectedPlan := req.selectedPlan.getD it.selectedPlan
    addonServices := req.addonServices.getD it.addonServices
    coBrotherOptIn := req.coBrotherOptIn.getD it.coBrotherOptIn
    client := req.metadata.getD it.client
    checkout := if req.metadata.isSome then {} else it.checkout }

/-- The user's line with this id. -/
def Db.itemOf (db : Db) (user : UserId) (id : ItemId) : Option CartItem :=
  (db.cart user).find? fun it => it.id = id

/-- `update_item`. -/
def Db.updateItem (db : Db) (cat : Catalogue) (user : UserId) (id : ItemId) (req : UpdateRequest) :
    Except Raised Db :=
  match db.itemOf user id with
  | none => throw (.app "Cart item not found.")
  | some it => do
    let updated := it.update req
    let validated ← validateProductAvailable cat user updated.productType updated.productId
      updated.client updated.selectedPlan
    pure (db.setItem { updated with client := validated })

/-- `remove_item`. -/
def Db.removeItem (db : Db) (user : UserId) (id : ItemId) : Except Raised Db :=
  match db.itemOf user id with
  | none => throw (.app "Cart item not found.")
  | some _ => pure { db with items := db.items.filter fun it => it.id ≠ id }

/-- `clear_cart`. -/
def Db.clearCart (db : Db) (user : UserId) : Db :=
  { db with items := db.items.filter fun it => it.userId ≠ user }

/-- `_apply_registration_period_quote`. -/
def applyRegistrationPeriodQuote (cat : Catalogue) (years : Nat) (it : CartItem) :
    Except Raised CartItem :=
  match it.client.domainName with
  | none => throw (.app "A domain registration cart item is missing its domain name.")
  | some domain =>
    let years := max years (it.client.minYears cat domain)
    match cat.periodQuote domain years with
    | none => throw (.app "Could not fetch registration price.")
    | some quote => pure { it with
        client := (it.client.quoted cat domain years quote).tagged .domainRegistration }

def Db.registrationItems (db : Db) (user : UserId) : List CartItem :=
  (db.cart user).filter fun it => it.productType = .domainRegistration

/-- The line that is asked for, or all registrations of the cart. -/
def Db.periodTargets (db : Db) (user : UserId) : Option ItemId → List CartItem
  | none => db.registrationItems user
  | some id => ((db.registrationItems user).find? fun it => it.id = id).toList

/-- `update_domain_registration_period`. -/
def Db.updateDomainRegistrationPeriod (db : Db) (cat : Catalogue) (user : UserId) (years : Nat)
    (id : Option ItemId) : Except Raised Db :=
  if db.registrationItems user = [] then
    throw (.app "No domain registrations in cart to update.")
  else if db.periodTargets user id = [] then
    throw (.app "Domain registration cart item not found.")
  else do
    let quoted ← (db.periodTargets user id).mapM
      (applyRegistrationPeriodQuote cat (max 1 (min 10 years)))
    pure (quoted.foldl Db.setItem db)

end Deltapreneur.Cart
