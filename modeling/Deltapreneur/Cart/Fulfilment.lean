import Deltapreneur.Cart.Tables

/-!
# Fulfilling a paid cart

Model of `CartCheckoutService.verify_checkout_payment` (:1030-1517),
`complete_technology_payment_from_webhook` (:1519-1678) and what they call
(`app/service/cart/cart_checkout_service.py`), as programs of one database session each.

* A request comes after the checks of the signature and of the captured payment, so the payment
  is one of the order and the order is the buyer's.
* The line's work runs inside `try … except Exception`. What a line has flushed before it fails
  stays in the transaction unless the transaction was aborted; a technology line is rolled back
  (`_reset_aborted_session`), and with it everything since the last commit, before
  `_ensure_paid_technology_service_subscription` stores its subscription.
* The answers of ResellPortal and of the registrar are part of the request, per line and per
  order. `provision_order` (`domain_registration_service.py:2275-2725`) raises the period to the
  registry's minimum when it gets as far as registering.
* The line copies that a call works on are those it read when it locked the cart.
-/

namespace Deltapreneur.Cart

open Session

/-! ## Requests and answers -/

/-- What becomes of a service at ResellPortal. -/
inductive ProviderAnswer
  /-- The slug has no provider, or required input is missing: no order is placed. -/
  | notOrdered
  /-- The provider's client raises while it creates the customer's account. -/
  | clientRaises
  | answered (portalError : Bool) (status : SubscriptionStatus) (providerOrder : Option Nat)
  deriving Repr, DecidableEq

/-- What becomes of a registration at the registrar. -/
inductive RegistrarAnswer
  | raises
  /-- `registering`: the call got as far as fixing the period. -/
  | done (status : RegistrationStatus) (registrarId registering : Bool)
  deriving Repr, DecidableEq

/-- A call for a captured payment. -/
structure Request where
  /-- The number of the call, for the ids it draws. -/
  call : Nat
  buyer : UserId
  order : OrderId
  payment : PaymentId
  catalogue : Catalogue
  provider : ItemId → ProviderAnswer
  registrar : Uuid → RegistrarAnswer

/-- An entry of `results`. -/
structure LineResult where
  /-- `itemId`. -/
  item : Option ItemId := none
  success : Bool := true
  alreadyProcessed : Bool := false
  subscription : Option Uuid := none
  registration : Option Uuid := none
  domain : Option Domain := none
  deriving Repr, DecidableEq

def LineResult.of (res : LineResult) (it : CartItem) : LineResult := { res with item := some it.id }

/-! ## Exceptions and small statements -/

/-- `try: p except Exception as exc`. -/
def attempt {α : Type} (p : M α) : M (Except Raised α) :=
  tryCatch (p >>= fun a => pure (.ok a)) fun e => pure (.error e)

/-- `try: p except PendingRollbackError: h`. -/
def onPendingRollback {α : Type} (p h : M α) : M α :=
  tryCatch p fun e => if e = .db .pendingRollback then h else throw e

/-- `if c: p`. -/
def onlyIf (c : Bool) (p : M Unit) : M Unit := if c then p else pure ()

/-- `record_paid_attempt`: one record per `internal_order_id`. -/
def recordPaidAttempt (key : TrackKey) : M Unit := do
  let db ← query
  onlyIf (key ∉ db.tracks) (exec (.insertTrack key))

/-- A pending request for the add-on, unless the buyer has one. -/
def requestAddon (r : Request) (order : OrderId) (line : ItemId) (addon : Addon) : M Unit := do
  let db ← query
  match db.requests.countP fun x => x.userId = r.buyer ∧ x.addon = addon with
  | 0 => exec (.insertRequest ⟨r.buyer, addon, order, line⟩)
  | 1 => pure ()
  | _ => throw .multipleResultsFound

/-- `create_addon_operations_requests`. -/
def createAddonOperationsRequests (r : Request) (order : OrderId) (line : ItemId) :
    List Addon → M Unit
  | [] => pure ()
  | addon :: rest => do
    onlyIf (r.catalogue.addons addon).isSome (requestAddon r order line addon)
    createAddonOperationsRequests r order line rest

/-! ## Technology lines -/

/-- `_find_paid_technology_subscription`: a row of the payment, with this slug if there is one;
else a row of the order with this slug. -/
def Db.findPaidTechnologySubscription (db : Db) (user : UserId) (payment : PaymentId)
    (order : OrderId) (slug : Slug) : Option Subscription :=
  let rows := db.subscriptions.filter fun s =>
    s.userId = user && s.razorpayPaymentId = payment && !s.isDeleted
  ((rows.find? fun s => slug ≠ [] && s.serviceSlug = slug).or rows.head?).or
    (db.subscriptions.find? fun s => s.userId = user && s.razorpayOrderId = order &&
      !s.isDeleted && (slug = [] || s.serviceSlug = slug))

def findPaidTechnologySubscription (r : Request) (slug : Slug) : M (Option Subscription) := do
  let db ← query
  pure (db.findPaidTechnologySubscription r.buyer r.payment r.order slug)

/-- `get_by_razorpay_payment_id` of the software purchases. -/
def purchaseByPayment (payment : PaymentId) : M (Option Purchase) := do
  let db ← query
  match db.purchases.filter fun p => p.razorpayPaymentId = some payment with
  | [] => pure none
  | [p] => pure (some p)
  | _ => throw .multipleResultsFound

/-- The answer for a line whose payment has a subscription. -/
def Subscription.alreadyProcessed (s : Subscription) : LineResult :=
  { success := s.status = .active, alreadyProcessed := true, subscription := some s.id }

/-- `_finalize_paid_purchase` of a purchase that is not completed. -/
def finalizePaidPurchase (r : Request) (p : Purchase) : M LineResult := do
  exec (.completePurchase p.id p.softwareId r.payment)
  createAddonOperationsRequests r p.razorpayOrderId p.line p.addonServices
  recordPaidAttempt (.technology p.razorpayOrderId)
  pure {}

def finishPurchase (r : Request) (p : Purchase) : M LineResult :=
  if p.completed then pure { alreadyProcessed := true } else finalizePaidPurchase r p

/-- The purchase of a line that has none. -/
def newPurchase (r : Request) (it : CartItem) : Purchase :=
  { id := (r.call, it.id), softwareId := it.productId, buyerId := r.buyer
    razorpayOrderId := r.order, razorpayPaymentId := some r.payment, completed := false
    selectedPlan := it.selectedPlan.bind Plan.duration?, addonServices := it.addonServices
    coBrotherOptIn := it.coBrotherOptIn, line := it.id }

def createPurchase (r : Request) (it : CartItem) : M LineResult := do
  exec (.insertPurchase (newPurchase r it))
  finalizePaidPurchase r (newPurchase r it)

/-- The `Software` path of `_complete_technology_purchase`. -/
def completeSoftwarePurchase (r : Request) (it : CartItem) (sw : Software) : M LineResult :=
  if sw.purchasable = false then
    throw (.app ("This technology listing is not verified yet. " ++
      "Purchases and bids are blocked until an admin approves it."))
  else do
    let db ← query
    match db.purchases.find? fun p => p.razorpayOrderId = r.order && p.softwareId = it.productId with
    | some p => finishPurchase r p
    | none => do
      match ← purchaseByPayment r.payment with
      | some p => if p.softwareId = it.productId then finishPurchase r p else createPurchase r it
      | none => createPurchase r it

/-- A new subscription, with the plan and the billing cycle of the line. -/
def newSubscription (r : Request) (it : CartItem) (slug : Slug) (status : SubscriptionStatus) :
    Subscription :=
  { id := (r.call, it.id), userId := r.buyer, serviceSlug := slug
    planCode := it.selectedPlan.getD .starter, annual := it.client.annual, status := status
    idempotencyKey := technologyIdempotencyKey r.payment slug
    razorpayOrderId := r.order, razorpayPaymentId := r.payment, providerOrderId := none
    isDeleted := false, line := it.id }

/-- Insert a subscription. When its idempotency key is taken, roll back and look for the row that
has it; `missing` is raised when there is none. -/
def storeSubscription (r : Request) (s : Subscription) (missing : Raised) :
    M (Option Subscription) :=
  tryCatch (exec (.insertSubscription s) >>= fun _ => pure none) fun e =>
    if e = .db .refused then do
      rollback
      match ← findPaidTechnologySubscription r s.serviceSlug with
      | none => throw missing
      | some found => pure (some found)
    else throw e

/-- The provider part of `_complete_technology_purchase`, once the subscription is committed. -/
def provisionService (r : Request) (it : CartItem) (s : Subscription) : M LineResult :=
  match r.provider it.id with
  | .notOrdered => do
    exec (.saveSubscription s.id .pending none)
    let _ ← attempt (createAddonOperationsRequests r r.order it.id it.addonServices)
    pure { success := false, subscription := some s.id }
  | .clientRaises => throw .provider
  | .answered portalError status providerOrder => do
    onlyIf portalError (exec (.saveSubscription s.id .paymentCaptured none))
    onlyIf (!portalError) commit
    exec (.saveSubscription s.id status providerOrder)
    let _ ← attempt (createAddonOperationsRequests r r.order it.id it.addonServices)
    pure { success := status = .active || status = .testSimulated, subscription := some s.id }

/-- The `TechnologyServiceEntity` path of `_complete_technology_purchase`. -/
def subscribeService (r : Request) (it : CartItem) (slug : Slug) : M LineResult :=
  if slug = [] then
    throw (.app "Technology service slug could not be resolved during checkout.")
  else do
    match ← findPaidTechnologySubscription r slug with
    | some s => pure s.alreadyProcessed
    | none => do
      match ← storeSubscription r (newSubscription r it slug .paymentCaptured)
          (.app "Could not persist the paid technology purchase.") with
      | some s => pure s.alreadyProcessed
      | none => do
        commit
        provisionService r it (newSubscription r it slug .paymentCaptured)

/-- The product of a technology line: software, else a service of the catalogue. -/
def deliverTechnology (r : Request) (it : CartItem) : M LineResult :=
  match r.catalogue.software it.productId, r.catalogue.services it.productId with
  | some sw, _ => completeSoftwarePurchase r it sw
  | none, some sv => subscribeService r it sv.slug
  | none, none => throw (.app "Technology listing not found during checkout.")

/-- The look-up by the slug of the metadata, where `c` holds and there is one. -/
def existingSubscription (r : Request) (it : CartItem) (c : Bool) : M (Option Subscription) :=
  if c && it.client.serviceSlug ≠ [] then findPaidTechnologySubscription r it.client.serviceSlug
  else pure none

/-- `_complete_technology_purchase`. -/
def completeTechnologyPurchase (r : Request) (it : CartItem) : M LineResult := do
  match ← existingSubscription r it true with
  | some s => do
    let _ ← purchaseByPayment r.payment
    pure s.alreadyProcessed
  | none => do
    let paid ← purchaseByPayment r.payment
    match ← existingSubscription r it (paid.any Purchase.completed) with
    | some s => pure { alreadyProcessed := true, subscription := some s.id }
    | none => deliverTechnology r it

/-- The slug a technology line is stored under when its purchase fails. -/
def CartItem.rescueSlug (it : CartItem) : Slug :=
  if it.client.serviceSlug ≠ [] then it.client.serviceSlug
  else if it.client.slug ≠ [] then it.client.slug
  else (toString it.productId).toList

/-- `_ensure_paid_technology_service_subscription`. -/
def ensurePaidTechnologyServiceSubscription (r : Request) (it : CartItem) : M LineResult := do
  let fresh := newSubscription r it it.rescueSlug .pending
  match ← findPaidTechnologySubscription r it.rescueSlug with
  | some s => settle s
  | none => do
    match ← storeSubscription r fresh (.db .refused) with
    | some s => settle s
    | none => settle fresh
where
  /-- A row that is not active is set to pending; then the rescue commits. -/
  settle (s : Subscription) : M LineResult := do
    onlyIf (s.status ≠ .active) (exec (.saveSubscription s.id .pending s.providerOrderId))
    commit
    pure { success := s.status = .active, subscription := some s.id }

/-! ## Other lines -/

/-- `_complete_domain_purchase`. -/
def completeDomainPurchase (r : Request) (it : CartItem) : M LineResult :=
  match r.catalogue.listings it.productId with
  | none => throw (.app "Domain listing not found during checkout.")
  | some l => do
    exec (.sellListing ⟨it.productId, r.buyer, r.order, r.payment, it.addonServices, it.id⟩)
    createAddonOperationsRequests r r.order it.id it.addonServices
    onlyIf l.listedByUserId.isSome (createFromPayment r it)
    exec (.insertRegistration
      { id := (r.call, it.id), buyerId := r.buyer
        domain := r.catalogue.listingDomain it.productId, periodYears := 1
        razorpayOrderId := r.order, razorpayPaymentId := some r.payment, status := .active
        marketplace := true, registrarId := false, line := it.id })
    pure { registration := some (r.call, it.id) }
where
  /-- `create_from_payment`. -/
  createFromPayment (r : Request) (it : CartItem) : M Unit := do
    let db ← query
    onlyIf (db.transactions.all fun t => t.razorpayPaymentId ≠ r.payment)
      (exec (.insertTransaction ⟨it.productId, r.buyer, r.order, r.payment, it.id⟩))

/-- `_complete_venture_purchase`. -/
def completeVenturePurchase (r : Request) (it : CartItem) : M LineResult :=
  match r.catalogue.ventures it.productId with
  | none => throw (.app "Venture not found during checkout.")
  | some _ => do
    exec (.insertDeal ⟨it.productId, r.buyer, r.order, r.payment, it.id⟩)
    pure {}

/-- `resolve_registration_period`. -/
def resolveRegistrationPeriod (requested minYears : Nat) : Nat := max (max 1 requested) minYears

/-- A registration order after `provision_order`. -/
def RegistrationOrder.provisioned (o : RegistrationOrder) (minYears : Nat)
    (status : RegistrationStatus) (registrarId registering : Bool) : RegistrationOrder :=
  { o with
    status := status
    registrarId := registrarId || o.registrarId
    periodYears :=
      if registering then resolveRegistrationPeriod o.periodYears minYears else o.periodYears }

def RegistrationStatus.underWay : RegistrationStatus → Bool
  | .active | .registrationPending => true
  | _ => false

/-- `provision_order`, saved. -/
def provisionOrder (r : Request) (o : RegistrationOrder) : M RegistrationOrder :=
  match r.registrar o.id with
  | .raises => throw .provider
  | .done status registrarId registering => do
    let done := o.provisioned (r.catalogue.minYears o.domain) status registrarId registering
    exec (.saveRegistration done)
    pure done

/-- After an exception: the order is read again and marked as failed unless it is under way. -/
def provisionFailed (o : RegistrationOrder) : M Bool := do
  rollback
  let db ← query
  let fresh := (db.registration o.id).getD o
  if fresh.status.underWay then pure true
  else do
    exec (.saveRegistration { fresh with status := .provisionFailed })
    pure false

/-- The order of a line that has none. -/
def newRegistrationOrder (r : Request) (it : CartItem) (domain : Domain) : RegistrationOrder :=
  { id := (r.call, it.id), buyerId := r.buyer, domain := domain
    periodYears := max 1 (it.checkout.periodYears.getD
      (if it.client.period ≠ 0 then it.client.period else it.client.minPeriodYears))
    razorpayOrderId := r.order, razorpayPaymentId := some r.payment, status := .paymentCompleted
    marketplace := false, registrarId := false, line := it.id }

def RegistrationOrder.paid (payment : PaymentId) (o : RegistrationOrder) : RegistrationOrder :=
  { o with
    razorpayPaymentId := some payment
    status := if o.status = .created ∨ o.status = .expired then .paymentCompleted else o.status }

/-- The order that a registration line is fulfilled by. -/
def paidRegistrationOrder (r : Request) (it : CartItem) (domain : Domain) :
    M RegistrationOrder := do
  match ← checkoutOrder with
  | none =>
    if it.client.price = 0 then throw (.app "Missing registration price.")
    else do
      exec (.insertRegistration (newRegistrationOrder r it domain))
      pure (newRegistrationOrder r it domain)
  | some o => do
    exec (.saveRegistration (o.paid r.payment))
    pure (o.paid r.payment)
where
  checkoutOrder : M (Option RegistrationOrder) :=
    match it.checkout.registrationOrderId with
    | none => pure none
    | some id => do
      let db ← query
      pure (db.registration id)

/-- `_complete_domain_registration`. -/
def completeDomainRegistration (r : Request) (it : CartItem) : M LineResult :=
  match it.client.domainName with
  | none => throw (.app "Domain registration cart item is missing domainName.")
  | some domain => do
    let o ← paidRegistrationOrder r it domain
    commit
    onlyIf (o.status ≠ .active) (tryCatch (provisionOrder r o >>= fun _ => commit) fun _ => do
      let underWay ← provisionFailed o
      onlyIf (!underWay) commit)
    pure { alreadyProcessed := o.status = .active, registration := some o.id
           domain := some domain }

/-! ## A line -/

/-- `_process_item_post_payment`. -/
def processItemPostPayment (r : Request) (it : CartItem) : M LineResult :=
  match it.productType with
  | .domainListing => completeDomainPurchase r it
  | .technology => completeTechnologyPurchase r it
  | .ventureDeal => completeVenturePurchase r it
  | .domainRegistration => completeDomainRegistration r it

/-- The line's work, and the flag on its cart row. -/
def fulfil (r : Request) (it : CartItem) : M LineResult := do
  let res ← processItemPostPayment r it
  exec (.saveItem it.id it.client { it.checkout with fulfilledPaymentId := some r.payment })
  pure (res.of it)

/-- `_track_internal_order_id`. -/
def trackInternalOrderId (r : Request) (it : CartItem) (res : LineResult) : TrackKey :=
  match res.registration with
  | some id => .registration id
  | none => .line r.order it.id

/-- The `except` branch of `verify_checkout_payment`. -/
def lineFailed (r : Request) (it : CartItem) (isService : Bool) (key : TrackKey) :
    M (List LineResult) :=
  if it.productType = .technology ∧ (isService ∨ it.client.serviceSlug ≠ []) then do
    rollback
    let res ← ensurePaidTechnologyServiceSubscription r it
    recordPaidAttempt key
    pure [res.of it]
  else do
    recordPaidAttempt key
    pure [{ item := some it.id, success := false }]

/-- One line in `verify_checkout_payment`, with the entries it adds to `results`. -/
def verifyLine (r : Request) (it : CartItem) : M (List LineResult) :=
  if it.checkout.fulfilledPaymentId = some r.payment then
    pure [{ item := some it.id, alreadyProcessed := true }]
  else do
    match ← attempt (fulfil r it) with
    | .error _ => lineFailed r it false (.line r.order it.id)
    | .ok res => do
      match ← attempt (recordPaidAttempt (trackInternalOrderId r it res)) with
      | .ok _ => pure [res]
      | .error _ => do
        let failed ← lineFailed r it res.subscription.isSome (trackInternalOrderId r it res)
        pure (res :: failed)

/-- The loop over the lines; `results` collects their entries. -/
def forLines (f : CartItem → M (List LineResult)) : List CartItem → M (List LineResult)
  | [] => pure []
  | it :: rest => do
    let results ← f it
    let more ← forLines f rest
    pure (results ++ more)

/-! ## The whole call -/

/-- `get_by_user_for_update`. -/
def lockCart (user : UserId) : M Db :=
  onPendingRollback (lockRows user) (rollback >>= fun _ => lockRows user)
where
  lockRows (user : UserId) : M Db :=
    Prog.lockRows .db fun db => (db.cart user).map fun it => .item it.id

/-- `confirm_redemption`: it commits when it finds a pending redemption. -/
def confirmRedemption (order : OrderId) : M Unit := do
  let db ← query
  onlyIf (db.wallets.pendingRedemption order).isSome
    (exec (.confirmRedemption order) >>= fun _ => commit)

/-- The lines stamped with the order. -/
def Db.checkoutItems (db : Db) (user : UserId) (order : OrderId) : List CartItem :=
  (db.cart user).filter fun it => it.checkout.razorpayOrderId = some order

/-- The lines that `remove_fulfilled_cart_items_for_payment` deletes. -/
def Db.fulfilledItems (db : Db) (user : UserId) (order : OrderId) (domains : List Domain) :
    List ItemId :=
  ((db.cart user).filter fun it => it.checkout.razorpayOrderId = some order ||
    (it.productType = .domainRegistration && it.client.domainName.any (· ∈ domains))).map
      CartItem.id

/-- `remove_fulfilled_cart_items_for_payment`. -/
def removeFulfilledCartItemsForPayment (r : Request) (domains : List Domain) : M Unit := do
  match ← onPendingRollback (query >>= fun db => pure (some db)) reread with
  | none => pure ()
  | some db =>
    onlyIf (db.fulfilledItems r.buyer r.order domains ≠ []) (onPendingRollback
      (exec (.deleteItems (db.fulfilledItems r.buyer r.order domains))) rollback)
where
  reread : M (Option Db) := do
    rollback
    tryCatch (query >>= fun db => pure (some db)) fun _ => pure none

/-- One pending order in `_provision_pending_orders_for_payment`. -/
def provisionPendingOrder (r : Request) (o : RegistrationOrder) : M LineResult :=
  if o.status = .active ∨ (o.status = .registrationPending ∧ o.registrarId = true) then
    pure { alreadyProcessed := true, registration := some o.id, domain := some o.domain }
  else do
    let o' := { o with
      razorpayPaymentId := some r.payment
      status := if o.status ∈ [.created, .expired, .paymentFailed, .failed, .provisionFailed] then
        .paymentCompleted else o.status }
    exec (.saveRegistration o')
    match ← attempt (provisionOrder r o') with
    | .error _ => do
      let ok ← provisionFailed o'
      pure { success := ok, alreadyProcessed := ok, registration := some o.id
             domain := some o.domain }
    | .ok done =>
      pure { success := done.status.underWay, registration := some o.id, domain := some o.domain }

def provisionPendingOrders (r : Request) : List RegistrationOrder → M (List LineResult)
  | [] => pure []
  | o :: rest => do
    let res ← provisionPendingOrder r o
    let more ← provisionPendingOrders r rest
    pure (res :: more)

/-- `backfill_from_registration_orders`. -/
def backfillFromRegistrationOrders : List RegistrationOrder → M Unit
  | [] => pure ()
  | o :: rest => do
    onlyIf o.razorpayPaymentId.isSome (recordPaidAttempt (.registration o.id))
    backfillFromRegistrationOrders rest

/-- `list_by_razorpay_order_id`. -/
def Db.registrationsOf (db : Db) (order : OrderId) : List RegistrationOrder :=
  db.registrations.filter fun o => o.razorpayOrderId = order

/-- The branch of `verify_checkout_payment` without cart lines: the registration orders of the
checkout are provisioned. -/
def recoverPendingOrders (r : Request) : M (List LineResult) := do
  let db ← query
  let recovered ← provisionPendingOrders r
    ((db.registrationsOf r.order).filter fun o => o.buyerId = r.buyer)
  let db ← query
  backfillFromRegistrationOrders (db.registrationsOf r.order)
  onlyIf (recovered ≠ []) (tryCatch (removeFulfilledCartItemsForPayment r
    ((recovered.filter LineResult.success).filterMap LineResult.domain)) fun _ => pure ())
  onPendingRollback commit rollback
  pure recovered

/-- `verify_checkout_payment` once the cart is locked and read. -/
def verifyLocked (r : Request) (db : Db) : M (List LineResult) :=
  if db.checkoutItems r.buyer r.order = [] then recoverPendingOrders r
  else do
    confirmRedemption r.order
    let results ← forLines (verifyLine r) (db.checkoutItems r.buyer r.order)
    removeFulfilledCartItemsForPayment r (results.filterMap LineResult.domain ++
      (db.checkoutItems r.buyer r.order).filterMap fun it => it.client.domainName)
    onPendingRollback commit rollback
    pure results

/-- `verify_checkout_payment` for a captured payment. -/
def verifyCheckoutPayment (r : Request) : M (List LineResult) :=
  lockCart r.buyer >>= verifyLocked r

/-- One line in `complete_technology_payment_from_webhook`. -/
def webhookLine (r : Request) (it : CartItem) : M (List LineResult) :=
  if it.checkout.fulfilledPaymentId.isSome then
    pure [{ item := some it.id, alreadyProcessed := true }]
  else do
    let res ← tryCatch (fulfil r it) fun _ => do
      rollback
      let res ← ensurePaidTechnologyServiceSubscription r it
      pure (res.of it)
    recordPaidAttempt (.line r.order it.id)
    pure [res]

/-- The lines the webhook fulfils. -/
def Db.technologyItems (db : Db) (user : UserId) (order : OrderId) : List CartItem :=
  (db.checkoutItems user order).filter fun it => it.productType = .technology

/-- `complete_technology_payment_from_webhook` once the cart is locked and read. -/
def webhookLocked (r : Request) (db : Db) : M (List LineResult) :=
  if db.technologyItems r.buyer r.order = [] then pure []
  else do
    let results ← forLines (webhookLine r) (db.technologyItems r.buyer r.order)
    exec (.deleteItems ((db.technologyItems r.buyer r.order).map CartItem.id))
    commit
    pure results

/-- `complete_technology_payment_from_webhook`. -/
def completeTechnologyPaymentFromWebhook (r : Request) : M (List LineResult) :=
  lockCart r.buyer >>= webhookLocked r

end Deltapreneur.Cart
