import Deltapreneur.Lib.Session
import Deltapreneur.Marketplace.DirectSale

/-!
# The cart, its catalogue and what a paid line leaves behind

Model of `app/entity/cart/cart_item_entity.py` and of the rows that fulfilling a cart writes:
technology subscriptions, domain registration orders, software purchases, venture deals, domain
transactions, operations requests and track records.

* `metadata_json` is split into the keys a client may send (`ClientMeta`) and the reserved keys
  `_checkout_…`, `_fulfilled_…` (`CheckoutMeta`), which `_sanitize_client_cart_metadata` drops
  from every request (`cart_service.py:50-63`). Values are taken as well typed: a period is a
  number, a slug a text. `serviceSlug` is kept stripped and in lower case, as every reader uses
  it. A `None` metadata is an empty one.
* A `uuid4` is the pair of the call that drew it and the cart line it was drawn for.
* Rows carry the cart line whose fulfilment wrote them. The source's rows do not; the column is
  a history variable.
* `Catalogue` is what the product tables and the registrar say at the moment of a call. Other
  services change them at any time, so every call brings its own.
* `Write`, `engine`: the statements that fulfilment sends, with the unique indexes
  (`idempotency_key`, `razorpay_payment_id`, `uq_software_purchases_…`, `internal_order_id`) and
  the row locks. An `UPDATE` of the object-relational mapper that matches no row is refused.
* Names and addresses of the buyer, invoices, e-mails and amounts on the rows are left out.
-/

namespace Deltapreneur.Cart

open EdgePoints Marketplace Session

/-! ## Products -/

abbrev ItemId := Nat
abbrev ProductId := Nat
/-- A domain name with its extension, in lower case. -/
abbrev Domain := Nat
/-- A compliance add-on service. -/
abbrev Addon := Nat
abbrev Slug := List Char

/-- `CartProductType`. -/
inductive ProductType
  | domainListing | technology | domainRegistration | ventureDeal
  deriving Repr, DecidableEq

/-- `TechnologyPricingPlanDuration`. -/
inductive Duration
  | oneTime | oneMonth | threeMonths | sixMonths | twelveMonths
  deriving Repr, DecidableEq

/-- A `selected_plan`: a duration, or the code of a provider's plan. -/
inductive Plan
  | duration (d : Duration)
  | code (name : Nat)
  deriving Repr, DecidableEq

def Plan.duration? : Plan → Option Duration
  | .duration d => some d
  | .code _ => none

/-- The plan code `starter`. -/
def Plan.starter : Plan := .code 0

/-- `Software`, with its active pricing plans. `purchasable` says that
`assert_technology_purchasable` passes. -/
structure Software where
  listedByUserId : Option UserId
  available : Bool
  auction : Bool
  purchasable : Bool
  price : Paise
  plans : List (Duration × Paise)
  deriving Repr, DecidableEq

/-- `TechnologyServiceEntity`. `productKey` says that `resolve_product_key` finds one, `required`
lists the groups of input keys of which one must be filled in; key `0` is the plan. -/
structure Service where
  slug : Slug
  available : Bool
  productKey : Bool
  required : List (List Nat)
  /-- `_tech_service_plan_price_inr`, by plan and annual billing. -/
  price : Option Plan → Bool → Paise

/-- `Venture`; `available` is `_is_venture_available`. -/
structure Venture where
  listedByUserId : UserId
  available : Bool
  dealValue : Paise
  deriving Repr, DecidableEq

/-- A live price of the registrar for a number of years. -/
structure PeriodQuote where
  price : Paise
  registrarTotal : Paise
  providerUnitPrice : Paise
  isPremium : Bool
  deriving Repr, DecidableEq

/-- What the product tables and the registrar say when a call reads them. -/
structure Catalogue where
  listings : ProductId → Option Listing
  /-- The domain name of a listing. -/
  listingDomain : ProductId → Domain
  /-- The listings that a user has bought. -/
  purchased : UserId → List ProductId
  software : ProductId → Option Software
  services : ProductId → Option Service
  ventures : ProductId → Option Venture
  /-- The price of a live add-on. -/
  addons : Addon → Option Paise
  /-- `apply_markup` of the commission on a plain or premium registration of a name. -/
  markup : Bool → Option Domain → Paise → Paise
  /-- `_normalise` keeps every rate between 0 and 1. -/
  le_markup : ∀ premium domain total, total ≤ markup premium domain total
  /-- `check_registration_domain` answers `available`. -/
  free : Domain → Bool
  /-- `tld_min_registration_years`. -/
  minYears : Domain → Nat
  quote : Domain → Nat → Option PeriodQuote

/-! ## Cart rows -/

/-- The keys of `metadata_json` that a client sends and the code reads; `0`, `[]` and `none` are
missing keys. -/
structure ClientMeta where
  serviceSlug : Slug := []
  slug : Slug := []
  /-- `billingCycle` starts with `ann`. -/
  annual : Bool := false
  domainName : Option Domain := none
  period : Nat := 0
  minPeriodYears : Nat := 0
  price : Paise := 0
  providerPeriodTotal : Paise := 0
  providerUnitPrice : Paise := 0
  /-- `isPremium`, or `registryTier` is `premium`. -/
  isPremium : Bool := false
  isManagedAcquisition : Bool := false
  /-- `premiumProvider` is `afternic` or `sedo`. -/
  aftermarket : Bool := false
  providerOrderId : Option Nat := none
  /-- `registration_order_id`. -/
  registrationOrder : Option (Nat × ItemId) := none
  /-- The provider's input keys that are filled in. -/
  input : List Nat := []
  deriving Repr, DecidableEq

/-- The reserved keys. -/
structure CheckoutMeta where
  /-- `_checkout_razorpay_order_id`. -/
  razorpayOrderId : Option OrderId := none
  /-- `_checkout_registration_order_id`. -/
  registrationOrderId : Option (Nat × ItemId) := none
  /-- `_checkout_period_years`. -/
  periodYears : Option Nat := none
  /-- `_fulfilled_razorpay_payment_id`. -/
  fulfilledPaymentId : Option PaymentId := none
  deriving Repr, DecidableEq

/-- `CartItem`. -/
structure CartItem where
  id : ItemId
  userId : UserId
  productType : ProductType
  productId : ProductId
  selectedPlan : Option Plan
  addonServices : List Addon
  coBrotherOptIn : Bool
  client : ClientMeta
  checkout : CheckoutMeta
  deriving Repr, DecidableEq

/-! ## Rows that fulfilment writes -/

/-- A `uuid4` that a call draws for a cart line. -/
abbrev Uuid := Nat × ItemId

/-- The `status` of a subscription. -/
inductive SubscriptionStatus
  | paymentCaptured | active | pending | testSimulated
  deriving Repr, DecidableEq

/-- `_technology_idempotency_key`: `rp:{payment}:{slug}` cut to 64 characters. A Razorpay payment
id has 18, which leaves 42 for the slug. -/
def technologyIdempotencyKey (payment : PaymentId) (slug : Slug) : PaymentId × Slug :=
  (payment, slug.take 42)

/-- `TechnologySubscriptionEntity`. -/
structure Subscription where
  id : Uuid
  userId : UserId
  serviceSlug : Slug
  planCode : Plan
  annual : Bool
  status : SubscriptionStatus
  idempotencyKey : PaymentId × Slug
  razorpayOrderId : OrderId
  razorpayPaymentId : PaymentId
  providerOrderId : Option Nat
  isDeleted : Bool
  line : ItemId
  deriving Repr, DecidableEq

/-- `RegistrationOrderStatus`. -/
inductive RegistrationStatus
  | created | paymentCompleted | registrationPending | active | paymentFailed | expired | failed
  | provisionFailed | refunded
  deriving Repr, DecidableEq

/-- `DomainRegistrationOrder`; `marketplace` says that `price_source` is `marketplace`. -/
structure RegistrationOrder where
  id : Uuid
  buyerId : UserId
  domain : Domain
  periodYears : Nat
  razorpayOrderId : OrderId
  razorpayPaymentId : Option PaymentId
  status : RegistrationStatus
  marketplace : Bool
  /-- `open_provider_domain_id` is set. -/
  registrarId : Bool
  line : ItemId
  deriving Repr, DecidableEq

/-- `SoftwarePurchase`; `completed` says that `payment_status` is `COMPLETED`. -/
structure Purchase where
  id : Uuid
  softwareId : ProductId
  buyerId : UserId
  razorpayOrderId : OrderId
  razorpayPaymentId : Option PaymentId
  completed : Bool
  selectedPlan : Option Duration
  addonServices : List Addon
  coBrotherOptIn : Bool
  line : ItemId
  deriving Repr, DecidableEq

/-- `VentureDealTransaction`. -/
structure VentureDeal where
  ventureId : ProductId
  buyerId : UserId
  razorpayOrderId : OrderId
  razorpayPaymentId : PaymentId
  line : ItemId
  deriving Repr, DecidableEq

/-- `DomainMarketplaceTransaction`. -/
structure DomainTransaction where
  listingId : ProductId
  buyerId : UserId
  razorpayOrderId : OrderId
  razorpayPaymentId : PaymentId
  line : ItemId
  deriving Repr, DecidableEq

/-- The purchase columns of a `DomainListing`. -/
structure ListingSale where
  listingId : ProductId
  buyerId : UserId
  razorpayOrderId : OrderId
  razorpayPaymentId : PaymentId
  addonServices : List Addon
  line : ItemId
  deriving Repr, DecidableEq

/-- A pending `OperationsServiceRequest`. -/
structure AddonRequest where
  userId : UserId
  addon : Addon
  razorpayOrderId : OrderId
  line : ItemId
  deriving Repr, DecidableEq

/-- `internal_order_id` of a `TrackRecord`. -/
inductive TrackKey
  /-- `TRK-REG-{registration order}`. -/
  | registration (id : Uuid)
  /-- `TRK-{razorpay order}-{item}` and `TRK-MKT-…`. -/
  | line (order : OrderId) (item : ItemId)
  /-- `TRK-TECH-{razorpay order}`. -/
  | technology (order : OrderId)
  deriving Repr, DecidableEq

/-! ## The database -/

structure Db where
  items : List CartItem
  subscriptions : List Subscription
  registrations : List RegistrationOrder
  purchases : List Purchase
  deals : List VentureDeal
  transactions : List DomainTransaction
  sales : List ListingSale
  requests : List AddonRequest
  tracks : List TrackKey
  wallets : Wallets

def Db.empty : Db := ⟨[], [], [], [], [], [], [], [], [], .empty⟩

/-- `get_by_user`, oldest first. -/
def Db.cart (db : Db) (user : UserId) : List CartItem := db.items.filter fun it => it.userId = user

/-- `get_by_id` of the registration orders. -/
def Db.registration (db : Db) (id : Uuid) : Option RegistrationOrder :=
  db.registrations.find? fun r => r.id = id

inductive Write
  /-- `confirm_redemption`: status, balance and history. -/
  | confirmRedemption (order : OrderId)
  /-- A cart line's metadata is overwritten with what the call read and the fulfilled flag. -/
  | saveItem (id : ItemId) (client : ClientMeta) (checkout : CheckoutMeta)
  | deleteItems (ids : List ItemId)
  | sellListing (sale : ListingSale)
  | insertTransaction (t : DomainTransaction)
  | insertRegistration (r : RegistrationOrder)
  /-- Payment, status, period and registrar id of a registration order. -/
  | saveRegistration (r : RegistrationOrder)
  | insertDeal (d : VentureDeal)
  | insertPurchase (p : Purchase)
  | completePurchase (id : Uuid) (software : ProductId) (payment : PaymentId)
  | insertSubscription (s : Subscription)
  | saveSubscription (id : Uuid) (status : SubscriptionStatus) (providerOrder : Option Nat)
  | insertRequest (r : AddonRequest)
  | insertTrack (key : TrackKey)
  deriving Repr, DecidableEq

/-- Rows and unique keys that a transaction locks. -/
inductive Key
  | item (id : ItemId)
  | redemption (order : OrderId)
  | listing (id : ProductId)
  | transaction (payment : PaymentId)
  | registration (id : Uuid)
  | deal (payment : PaymentId)
  | purchase (id : Uuid)
  | purchaseOrder (order : OrderId) (software : ProductId)
  | purchasePayment (payment : PaymentId) (software : ProductId)
  | subscription (id : Uuid)
  | subscriptionKey (key : PaymentId × Slug)
  | track (key : TrackKey)
  deriving Repr, DecidableEq

/-- A purchase once it is paid. -/
def Purchase.complete (payment : PaymentId) (p : Purchase) : Purchase :=
  { p with completed := true, razorpayPaymentId := some payment }

def Subscription.save (status : SubscriptionStatus) (providerOrder : Option Nat)
    (s : Subscription) : Subscription :=
  { s with status := status, providerOrderId := providerOrder }

def CartItem.saveMeta (client : ClientMeta) (checkout : CheckoutMeta) (it : CartItem) : CartItem :=
  { it with client := client, checkout := checkout }

/-- The statement's effect. -/
def Write.apply : Write → Db → Db
  | .confirmRedemption order, db => { db with wallets := db.wallets.confirmRedemption order }
  | .saveItem id m c, db =>
    { db with items := db.items.map fun it => if it.id = id then it.saveMeta m c else it }
  | .deleteItems ids, db => { db with items := db.items.filter fun it => it.id ∉ ids }
  | .sellListing sale, db =>
    { db with sales := sale :: db.sales.filter fun s => s.listingId ≠ sale.listingId }
  | .insertTransaction t, db => { db with transactions := db.transactions ++ [t] }
  | .insertRegistration r, db => { db with registrations := db.registrations ++ [r] }
  | .saveRegistration r, db =>
    { db with registrations := db.registrations.map fun x => if x.id = r.id then r else x }
  | .insertDeal d, db => { db with deals := db.deals ++ [d] }
  | .insertPurchase p, db => { db with purchases := db.purchases ++ [p] }
  | .completePurchase id _ payment, db =>
    { db with purchases := db.purchases.map fun p => if p.id = id then p.complete payment else p }
  | .insertSubscription s, db => { db with subscriptions := db.subscriptions ++ [s] }
  | .saveSubscription id status providerOrder, db =>
    { db with
      subscriptions := db.subscriptions.map fun s =>
        if s.id = id then s.save status providerOrder else s }
  | .insertRequest r, db => { db with requests := db.requests ++ [r] }
  | .insertTrack key, db => { db with tracks := db.tracks ++ [key] }

/-- The unique indexes hold and the row is there. -/
def Write.accepts : Write → Db → Bool
  | .saveItem id _ _, db => db.items.any fun it => it.id = id
  | .insertTransaction t, db =>
    db.transactions.all fun x => x.razorpayPaymentId ≠ t.razorpayPaymentId
  | .saveRegistration r, db => db.registrations.any fun x => x.id = r.id
  | .insertDeal d, db => db.deals.all fun x => x.razorpayPaymentId ≠ d.razorpayPaymentId
  | .insertPurchase p, db => db.purchases.all fun x =>
    x.softwareId ≠ p.softwareId ||
      (x.razorpayOrderId ≠ p.razorpayOrderId &&
        (p.razorpayPaymentId = none || x.razorpayPaymentId ≠ p.razorpayPaymentId))
  | .completePurchase id software payment, db =>
    (db.purchases.any fun x => x.id = id) && db.purchases.all fun x =>
      x.id = id || x.softwareId ≠ software || x.razorpayPaymentId ≠ some payment
  | .insertSubscription s, db =>
    db.subscriptions.all fun x => x.idempotencyKey ≠ s.idempotencyKey
  | .saveSubscription id _ _, db => db.subscriptions.any fun x => x.id = id
  | .insertTrack key, db => key ∉ db.tracks
  | .confirmRedemption _, _ | .deleteItems _, _ | .sellListing _, _ | .insertRegistration _, _
  | .insertRequest _, _ => true

/-- What the statement locks. -/
def Write.locks : Write → List Key
  | .confirmRedemption order => [.redemption order]
  | .saveItem id _ _ => [.item id]
  | .deleteItems ids => ids.map .item
  | .sellListing sale => [.listing sale.listingId]
  | .insertTransaction t => [.transaction t.razorpayPaymentId]
  | .insertRegistration _ => []
  | .saveRegistration r => [.registration r.id]
  | .insertDeal d => [.deal d.razorpayPaymentId]
  | .insertPurchase p =>
    .purchaseOrder p.razorpayOrderId p.softwareId ::
      (p.razorpayPaymentId.toList.map fun payment => .purchasePayment payment p.softwareId)
  | .completePurchase id software payment => [.purchase id, .purchasePayment payment software]
  | .insertSubscription s => [.subscriptionKey s.idempotencyKey]
  | .saveSubscription id _ _ => [.subscription id]
  | .insertRequest _ => []
  | .insertTrack key => [.track key]

def engine : Engine Db Write Key := ⟨Write.apply, Write.accepts, Write.locks⟩

/-! ## Code of a session -/

/-- Exceptions. -/
inductive Raised
  /-- `AppException`. -/
  | app (message : String)
  /-- A refused or failed statement, or one after it. -/
  | db (fault : Fault)
  /-- `MultipleResultsFound` of `scalar_one_or_none`. -/
  | multipleResultsFound
  /-- An exception of a provider's client. -/
  | provider
  deriving Repr, DecidableEq

abbrev M := Prog Db Write Key Raised

/-- `session.execute(select(…))`: the tables as the session sees them. -/
def query : M Db := Prog.query .db

/-- `session.flush()` with one pending statement. -/
def exec (w : Write) : M Unit := Prog.exec .db w

/-- `session.commit()`. -/
def commit : M Unit := Prog.commitTx .db

/-- `session.rollback()`, also as `_reset_aborted_session`. -/
def rollback : M Unit := Prog.reset

end Deltapreneur.Cart
