import Deltapreneur.Core
import Deltapreneur.Lib.Run
import Deltapreneur.Lib.UnitOfWork

/-!
# Provisioning paid technology subscriptions

Model of the three paths that order a service at the provider for a paid
`TechnologySubscriptionEntity`, and of the provider itself:

| here | source |
| --- | --- |
| `checkout…` | `_complete_technology_purchase` (`cart_checkout_service.py:2862-3225`) |
| `retry…`, `tickStart` | `_process` under `run_tick` (`technology_subscription_retry_service.py:98-337`) |
| `retry…`, `adminStart` | `_process` under `retry_subscription` |
| `findMatchingOrder` | `ResellPortalClient.find_matching_order` (`client.py:437-475`) |

* The provider keeps every order it accepts. An order is named by its position, so ids are new;
  the service it runs has an id of its own, again the order's position. Whether the order's
  record carries these ids, and its status, is up to the provider and may change.
* A retry holds the row `FOR UPDATE` from its read to its commit. The checkout commits the row
  first, goes on with its object, and locks the row with its first flush; what it flushes are the
  columns it has changed.
* The client is configured and in live mode. Texts are named by numbers, up to the case that the
  matcher ignores. Mails, track records, credentials and periods are left out; so are rows that are
  deleted or not captured, which the service skips.
* A commit succeeds, and nothing raises after the provider has been asked; a retry writes what the
  `except` branch would write then in the case `lost` of `afterPost`.
* `posts` remembers every `POST /orders`: for which subscription it was sent, what it asked for,
  and whether an admin forced it.

Results: `step_does` says everything a step can do; `lookup_held` and `lookup_finds` say what a
lookup finds.
-/

namespace Deltapreneur.Provisioning

open UnitOfWork

/-! ## The provider -/

/-- What an order is matched by. -/
structure Payload where
  userId : UserId
  productKey : Nat
  serviceSlug : Nat
  userEmail : Nat
  planCode : Nat
  annually : Bool
  deriving Repr, DecidableEq

/-- The `status` of an order, in upper case. -/
inductive ProviderStatus
  | active | pending | other
  deriving Repr, DecidableEq

structure ProviderOrder where
  payload : Payload
  status : ProviderStatus
  /-- The record has a `service_id`. -/
  serviceReady : Bool
  /-- The record has an `order_id`. -/
  orderIdShown : Bool
  /-- The subscription it was created for. -/
  createdFor : Nat
  deriving Repr, DecidableEq

/-- The answer of `GET /orders`. -/
inductive LookupReply
  /-- The orders of the user and the product key, in some order. -/
  | orders (listed : List Nat)
  /-- An HTTP error or a timeout; `list_orders` returns no orders then. -/
  | failed
  /-- Something the matcher raises on. -/
  | malformed
  deriving Repr, DecidableEq

/-- What becomes of one `POST /orders`. -/
inductive PostOutcome
  /-- Answered `ACTIVE`, with a service id. -/
  | active (orderIdShown : Bool)
  | pending (serviceReady orderIdShown : Bool)
  /-- The provider has the order, but its answer says no such thing or does not arrive. -/
  | lost (status : ProviderStatus) (serviceReady orderIdShown : Bool)
  | refused
  deriving Repr, DecidableEq

/-- The order the provider creates. -/
def PostOutcome.order (outcome : PostOutcome) (payload : Payload) (sub : Nat) :
    Option ProviderOrder :=
  match outcome with
  | .active shown => some ⟨payload, .active, true, shown, sub⟩
  | .pending ready shown => some ⟨payload, .pending, ready, shown, sub⟩
  | .lost status ready shown => some ⟨payload, status, ready, shown, sub⟩
  | .refused => none

/-- The orders of the user and the product key. -/
def heldFor (provider : List ProviderOrder) (want : Payload) : List Nat :=
  (List.range provider.length).filter fun i =>
    provider[i]?.any fun o =>
      o.payload.userId = want.userId ∧ o.payload.productKey = want.productKey

/-- `find_matching_order` on the orders listed. -/
def findMatchingOrder (listed : List (Nat × ProviderOrder)) (want : Payload) :
    Option (Nat × ProviderOrder) :=
  let candidates := listed.filter fun o =>
    o.2.payload.productKey = want.productKey ∧ o.2.payload.serviceSlug = want.serviceSlug ∧
      o.2.payload.userEmail = want.userEmail
  (candidates.find? fun o =>
    o.2.payload.planCode = want.planCode ∧ o.2.payload.annually = want.annually).or candidates.head?

/-! ## The row -/

/-- The `status` of a subscription, as far as provisioning writes it. -/
inductive SubscriptionStatus
  | paymentCaptured | provisioning | active | pending | provisioningFailed
  deriving Repr, DecidableEq

/-- The columns of `TechnologySubscriptionEntity` that provisioning reads. -/
structure Subscription where
  userId : UserId
  serviceSlug : Nat
  planCode : Nat
  annually : Bool
  status : SubscriptionStatus
  providerOrderId : Option Nat
  providerSubscriptionId : Option Nat
  provisionAttempts : Nat
  nextRetryAt : Option Time
  needsReview : Bool
  deriving Repr, DecidableEq

/-- The setting `TECH_SUBSCRIPTION_MAX_RETRIES`, and the product key of a mapped service. -/
structure Config where
  maxRetries : Nat
  productKey : Nat → Option Nat

/-- `max(1, int(settings.TECH_SUBSCRIPTION_MAX_RETRIES))`. -/
def Config.limit (cfg : Config) : Nat := max 1 cfg.maxRetries

/-- The row the checkout creates. -/
def Subscription.captured (user : UserId) (slug plan : Nat) (annually : Bool) : Subscription where
  userId := user
  serviceSlug := slug
  planCode := plan
  annually := annually
  status := .paymentCaptured
  providerOrderId := none
  providerSubscriptionId := none
  provisionAttempts := 0
  nextRetryAt := none
  needsReview := false

/-- What the row asks the provider for. -/
def Subscription.payload (sub : Subscription) (key email : Nat) : Payload :=
  ⟨sub.userId, key, sub.serviceSlug, email, sub.planCode, sub.annually⟩

/-- The row after a session flushes `new`, which it had loaded as `loaded`. -/
def Subscription.flush (loaded new row : Subscription) : Subscription where
  userId := flushColumn loaded.userId new.userId row.userId
  serviceSlug := flushColumn loaded.serviceSlug new.serviceSlug row.serviceSlug
  planCode := flushColumn loaded.planCode new.planCode row.planCode
  annually := flushColumn loaded.annually new.annually row.annually
  status := flushColumn loaded.status new.status row.status
  providerOrderId := flushColumn loaded.providerOrderId new.providerOrderId row.providerOrderId
  providerSubscriptionId := flushColumn loaded.providerSubscriptionId new.providerSubscriptionId
    row.providerSubscriptionId
  provisionAttempts :=
    flushColumn loaded.provisionAttempts new.provisionAttempts row.provisionAttempts
  nextRetryAt := flushColumn loaded.nextRetryAt new.nextRetryAt row.nextRetryAt
  needsReview := flushColumn loaded.needsReview new.needsReview row.needsReview

/-! ## The retry service -/

/-- `BACKOFF_MINUTES`. -/
def backoffMinutes : List Nat := [5, 15, 60, 360, 1440]

/-- `_backoff_delay`, in seconds. -/
def backoffDelay (attempt : Nat) : Time := 60 * backoffMinutes.getD (min (attempt - 1) 4) 1440

/-- `sub.next_retry_at = self._next_retry(sub)`. -/
def Subscription.scheduleRetry (cfg : Config) (now : Time) (sub : Subscription) : Subscription :=
  if cfg.limit ≤ sub.provisionAttempts then { sub with nextRetryAt := none, needsReview := true }
  else { sub with nextRetryAt := some (now + backoffDelay sub.provisionAttempts) }

/-- The statuses the worker may retry. -/
def SubscriptionStatus.retryable : SubscriptionStatus → Bool
  | .pending | .provisioningFailed | .paymentCaptured | .provisioning => true
  | .active => false

/-- A row of `run_tick`. -/
def Subscription.due (cfg : Config) (now : Time) (sub : Subscription) : Prop :=
  sub.status.retryable = true ∧ sub.provisionAttempts < cfg.limit ∧
    sub.nextRetryAt.all (· ≤ now) = true

instance (cfg : Config) (now : Time) (sub : Subscription) : Decidable (sub.due cfg now) :=
  inferInstanceAs (Decidable (_ ∧ _ ∧ _))

/-- `retry_subscription` goes on to `_process`. -/
def Subscription.mayRetry (cfg : Config) (force : Bool) (sub : Subscription) : Prop :=
  sub.status ≠ .active ∧ (force = true ∨ sub.provisionAttempts < cfg.limit)

instance (cfg : Config) (force : Bool) (sub : Subscription) : Decidable (sub.mayRetry cfg force) :=
  inferInstanceAs (Decidable (_ ∧ _))

/-- The ids that an order's record carries, with what the row has for the missing ones. -/
def Subscription.withIds (sub : Subscription) (id : Nat) (orderIdShown serviceReady : Bool) :
    Subscription :=
  { sub with
    providerOrderId := if orderIdShown then some id else sub.providerOrderId
    providerSubscriptionId := if serviceReady then some id else sub.providerSubscriptionId }

/-- `_adopt_existing_order`. -/
def adoptExistingOrder (cfg : Config) (now : Time) (sub : Subscription) (id : Nat)
    (o : ProviderOrder) : Subscription :=
  let sub := sub.withIds id o.orderIdShown o.serviceReady
  if o.status = .active ∧ sub.providerSubscriptionId ≠ none then
    { sub with status := .active, nextRetryAt := none, needsReview := false }
  else { sub with status := .pending }.scheduleRetry cfg now

/-- `_mark_manual_fulfillment`, and the same branch of the checkout. -/
def markManualFulfillment (cfg : Config) (sub : Subscription) : Subscription :=
  { sub with
    status := .pending
    needsReview := true
    nextRetryAt := none
    provisionAttempts := cfg.limit }

/-- The columns before `POST /orders`. -/
def Subscription.startProvisioning (sub : Subscription) : Subscription :=
  { sub with status := .provisioning, provisionAttempts := sub.provisionAttempts + 1 }

/-- `_mark_failed`. -/
def markFailed (cfg : Config) (now : Time) (sub : Subscription) : Subscription :=
  let next := sub.scheduleRetry cfg now
  if cfg.limit ≤ sub.provisionAttempts then
    { next with status := .provisioningFailed, needsReview := true }
  else { next with status := .pending }

/-- `_process` after `POST /orders`: `_mark_active`, `_mark_pending` or `_mark_failed`. -/
def afterPost (cfg : Config) (now : Time) (sub : Subscription) (id : Nat) :
    PostOutcome → Subscription
  | .active shown =>
    { sub.withIds id shown true with status := .active, nextRetryAt := none, needsReview := false }
  | .pending ready shown =>
    { sub.withIds id shown ready with status := .pending }.scheduleRetry cfg now
  | .lost _ _ _ | .refused => markFailed cfg now sub

/-- The `except` branch of `_process`. -/
def unexpectedError (cfg : Config) (now : Time) (sub : Subscription) : Subscription :=
  let sub := { sub with provisionAttempts := max sub.provisionAttempts 1 }
  let next := sub.scheduleRetry cfg now
  if cfg.limit ≤ sub.provisionAttempts then
    { next with status := .provisioningFailed, needsReview := true }
  else { next with status := .pending }

/-! ## The checkout -/

/-- The customer input is missing, in both services. -/
def Subscription.needsInput (sub : Subscription) : Subscription :=
  { sub with status := .pending, needsReview := true }

def checkoutAdopt (now : Time) (sub : Subscription) (id : Nat) (o : ProviderOrder) : Subscription :=
  let sub := sub.withIds id true o.serviceReady
  if o.status = .active ∧ sub.providerSubscriptionId ≠ none then
    { sub with status := .active, nextRetryAt := none, needsReview := false }
  else { sub with status := .pending, nextRetryAt := some (now + backoffDelay 1) }

/-- The checkout after `provision_service`. -/
def checkoutAfterPost (cfg : Config) (now : Time) (sub : Subscription) (id : Nat) :
    PostOutcome → Subscription
  | .active shown =>
    { sub with
      status := .active
      providerOrderId := if shown then some id else none
      providerSubscriptionId := some id
      nextRetryAt := none
      needsReview := false }
  | .pending ready shown =>
    { sub with
      status := .pending
      providerOrderId := if shown then some id else none
      providerSubscriptionId := if ready then some id else none
      nextRetryAt := some (now + backoffDelay sub.provisionAttempts) }
  | .lost _ _ _ | .refused =>
    if cfg.limit ≤ sub.provisionAttempts then
      { sub with status := .pending, needsReview := true, nextRetryAt := none }
    else
      { sub with
        status := .pending
        nextRetryAt := some (now + backoffDelay sub.provisionAttempts) }

/-! ## State -/

/-- Where the checkout of a subscription stands. It holds the object as committed at creation. -/
inductive CheckoutAt
  | looking (loaded : Subscription) (email : Nat)
  /-- No order to adopt was found. -/
  | posting (loaded : Subscription) (email : Nat)
  /-- `new` is flushed, so the row is locked. -/
  | writing (loaded new : Subscription)
  deriving Repr, DecidableEq

/-- Where a retry stands. It holds the row. -/
inductive RetryAt
  | looking (sub : Subscription) (email : Nat) (forced : Bool)
  | posting (sub : Subscription) (email : Nat) (forced : Bool)
  | writing (new : Subscription)
  deriving Repr, DecidableEq

/-- A subscription: the committed row and the calls at work on it. -/
structure Entry where
  row : Subscription
  checkout : Option CheckoutAt
  retry : Option RetryAt
  deriving Repr, DecidableEq

/-- A `POST /orders`. -/
structure Post where
  sub : Nat
  forced : Bool
  payload : Payload
  deriving Repr, DecidableEq

structure World where
  subs : List Entry
  provider : List ProviderOrder
  posts : List Post
  deriving Repr, DecidableEq

def World.init : World := ⟨[], [], []⟩

/-- The checkout has flushed. -/
def Entry.lockedByCheckout (e : Entry) : Bool :=
  match e.checkout with
  | some (.writing _ _) => true
  | _ => false

def World.put (w : World) (s : Nat) (e : Entry) : World := { w with subs := w.subs.set s e }

/-- `POST /orders` for `s`. -/
def World.post (w : World) (s : Nat) (forced : Bool) (payload : Payload) (outcome : PostOutcome) :
    World :=
  { w with
    provider := w.provider ++ (outcome.order payload s).toList
    posts := ⟨s, forced, payload⟩ :: w.posts }

/-- What a lookup finds: `none` when the reply is not one the provider can give. -/
def World.lookup (w : World) (want : Payload) : LookupReply → Option (Option (Nat × ProviderOrder))
  | .orders listed =>
    if listed.Perm (heldFor w.provider want) then
      some (findMatchingOrder
        (listed.filterMap fun i => w.provider[i]?.map fun o => (i, o)) want)
    else none
  | .failed | .malformed => some none

/-! ## Steps -/

/-- Why a call ends without asking for an order. -/
inductive Stop
  | manual | needsInput | portalError | unexpected
  deriving Repr, DecidableEq

inductive Label
  | purchase (user : UserId) (slug plan : Nat) (annually : Bool) (email : Nat)
  | checkoutStop (s : Nat) (why : Stop)
  | checkoutLookup (s : Nat) (now : Time) (reply : LookupReply)
  /-- Without a portal account `provision_service` sends nothing. -/
  | checkoutPost (s : Nat) (now : Time) (portalOk : Bool) (outcome : PostOutcome)
  | checkoutCommit (s : Nat)
  | tickStart (s : Nat) (now : Time) (email : Nat)
  | adminStart (s : Nat) (now : Time) (email : Nat) (force : Bool)
  | retryStop (s : Nat) (now : Time) (why : Stop)
  | retryLookup (s : Nat) (now : Time) (reply : LookupReply)
  | retryPost (s : Nat) (now : Time) (outcome : PostOutcome)
  | retryCommit (s : Nat)
  /-- The provider works on an order. -/
  | providerUpdate (id : Nat) (status : ProviderStatus) (serviceReady orderIdShown : Bool)
  deriving Repr, DecidableEq

/-- The object of a checkout that ends without asking for an order. -/
def checkoutStopped (cfg : Config) (sub : Subscription) : Stop → Option Subscription
  | .manual =>
    if cfg.productKey sub.serviceSlug = none then some (markManualFulfillment cfg sub) else none
  | .needsInput =>
    if cfg.productKey sub.serviceSlug = none then none
    else some { sub.needsInput with nextRetryAt := none }
  | .portalError | .unexpected => none

/-- The object of a retry that ends without asking for an order; `searched` after the lookup. -/
def retryStopped (cfg : Config) (now : Time) (sub : Subscription) (searched : Bool) :
    Stop → Option Subscription
  | .manual =>
    if cfg.productKey sub.serviceSlug = none then some (markManualFulfillment cfg sub) else none
  | .needsInput => if searched then some sub.needsInput else none
  | .portalError =>
    if searched then none else some ({ sub with status := .pending }.scheduleRetry cfg now)
  | .unexpected => some (unexpectedError cfg now sub)

/-- A step of the checkout at `e`. -/
def checkoutStep (cfg : Config) (w : World) (s : Nat) (e : Entry) : Label → World
  | .checkoutStop _ why =>
    match e.checkout with
    | some (.looking loaded _) =>
      match checkoutStopped cfg loaded why with
      | some new =>
        if e.retry = none then w.put s { e with checkout := some (.writing loaded new) } else w
      | none => w
    | _ => w
  | .checkoutLookup _ now reply =>
    match e.checkout with
    | some (.looking loaded email) =>
      match cfg.productKey loaded.serviceSlug with
      | none => w
      | some key =>
        match w.lookup (loaded.payload key email) reply with
        | none => w
        | some (some (id, o)) =>
          -- a match without an order id is not adopted
          if o.orderIdShown = false then
            w.put s { e with checkout := some (.posting loaded email) }
          else if e.retry = none then
            w.put s { e with checkout := some (.writing loaded (checkoutAdopt now loaded id o)) }
          else w
        | some none => w.put s { e with checkout := some (.posting loaded email) }
    | _ => w
  | .checkoutPost _ now portalOk outcome =>
    match e.checkout with
    | some (.posting loaded email) =>
      match cfg.productKey loaded.serviceSlug with
      | none => w
      | some key =>
        if e.retry = none then
          let outcome := if portalOk then outcome else .refused
          let new := checkoutAfterPost cfg now loaded.startProvisioning w.provider.length outcome
          let w := if portalOk then w.post s false (loaded.payload key email) outcome else w
          w.put s { e with checkout := some (.writing loaded new) }
        else w
    | _ => w
  | .checkoutCommit _ =>
    match e.checkout with
    | some (.writing loaded new) =>
      w.put s { e with row := loaded.flush new e.row, checkout := none }
    | _ => w
  | _ => w

/-- A step of a retry at `e`. -/
def retryStep (cfg : Config) (w : World) (s : Nat) (e : Entry) : Label → World
  | .tickStart _ now email =>
    if e.retry = none ∧ e.lockedByCheckout = false ∧ e.row.due cfg now then
      w.put s { e with retry := some (.looking e.row email false) }
    else w
  | .adminStart _ now email force =>
    if e.retry = none ∧ e.lockedByCheckout = false ∧ e.row.mayRetry cfg force then
      let sub := { e.row with nextRetryAt := some now, needsReview := false }
      w.put s { e with retry := some (.looking sub email force) }
    else w
  | .retryStop _ now why =>
    match e.retry with
    | some (.looking sub _ _) =>
      match retryStopped cfg now sub false why with
      | some new => w.put s { e with retry := some (.writing new) }
      | none => w
    | some (.posting sub _ _) =>
      match retryStopped cfg now sub true why with
      | some new => w.put s { e with retry := some (.writing new) }
      | none => w
    | _ => w
  | .retryLookup _ now reply =>
    match e.retry with
    | some (.looking sub email forced) =>
      match cfg.productKey sub.serviceSlug with
      | none => w
      | some key =>
        match reply, w.lookup (sub.payload key email) reply with
        | _, none => w
        | .malformed, _ => w.put s { e with retry := some (.writing (unexpectedError cfg now sub)) }
        | _, some (some (id, o)) =>
          w.put s { e with retry := some (.writing (adoptExistingOrder cfg now sub id o)) }
        | _, some none => w.put s { e with retry := some (.posting sub email forced) }
    | _ => w
  | .retryPost _ now outcome =>
    match e.retry with
    | some (.posting sub email forced) =>
      match cfg.productKey sub.serviceSlug with
      | none => w
      | some key =>
        let new := afterPost cfg now sub.startProvisioning w.provider.length outcome
        (w.post s forced (sub.payload key email) outcome).put s
          { e with retry := some (.writing new) }
    | _ => w
  | .retryCommit _ =>
    match e.retry with
    | some (.writing new) => w.put s { e with row := new, retry := none }
    | _ => w
  | _ => w

/-- The subscription a label works on. -/
def Label.sub : Label → Option Nat
  | .purchase _ _ _ _ _ | .providerUpdate _ _ _ _ => none
  | .checkoutStop s _ | .checkoutLookup s _ _ | .checkoutPost s _ _ _ | .checkoutCommit s
  | .tickStart s _ _ | .adminStart s _ _ _ | .retryStop s _ _ | .retryLookup s _ _
  | .retryPost s _ _ | .retryCommit s => some s

def Label.isCheckout : Label → Bool
  | .checkoutStop _ _ | .checkoutLookup _ _ _ | .checkoutPost _ _ _ _ | .checkoutCommit _ => true
  | _ => false

/-- One atomic step. A label that is not enabled leaves the state as it is. -/
def step (cfg : Config) (w : World) (l : Label) : World :=
  match l with
  | .purchase user slug plan annually email =>
    let row := Subscription.captured user slug plan annually
    { w with subs := w.subs ++ [⟨row, some (.looking row email), none⟩] }
  | .providerUpdate id status ready shown =>
    { w with provider := w.provider.modify id fun o =>
        { o with status := status, serviceReady := ready, orderIdShown := shown } }
  | l =>
    match l.sub with
    | none => w
    | some s =>
      match w.subs[s]? with
      | none => w
      | some e => if l.isCheckout then checkoutStep cfg w s e l else retryStep cfg w s e l

/-! ## What a step can do -/

/-- What a call can do to the subscription it works on: the entry afterwards, the orders the
provider accepts, and the orders sent. -/
inductive Moves (cfg : Config) (w : World) (s : Nat) (e : Entry) :
    Label → Entry → List ProviderOrder → List Post → Prop
  | checkoutStops (loaded : Subscription) (email : Nat) (why : Stop) (new : Subscription)
      (hat : e.checkout = some (.looking loaded email)) (hfree : e.retry = none)
      (hstop : checkoutStopped cfg loaded why = some new) :
      Moves cfg w s e (.checkoutStop s why) { e with checkout := some (.writing loaded new) } [] []
  | checkoutMisses (l : Label) (loaded : Subscription) (email : Nat)
      (hat : e.checkout = some (.looking loaded email)) :
      Moves cfg w s e l { e with checkout := some (.posting loaded email) } [] []
  | checkoutAdopts (now : Time) (reply : LookupReply) (loaded : Subscription) (email key id : Nat)
      (o : ProviderOrder) (hat : e.checkout = some (.looking loaded email)) (hfree : e.retry = none)
      (hkey : cfg.productKey loaded.serviceSlug = some key)
      (hfound : w.lookup (loaded.payload key email) reply = some (some (id, o)))
      (hshown : o.orderIdShown = true) :
      Moves cfg w s e (.checkoutLookup s now reply)
        { e with checkout := some (.writing loaded (checkoutAdopt now loaded id o)) } [] []
  | checkoutPosts (now : Time) (outcome : PostOutcome) (loaded : Subscription) (email key : Nat)
      (hat : e.checkout = some (.posting loaded email)) (hfree : e.retry = none)
      (hkey : cfg.productKey loaded.serviceSlug = some key) :
      Moves cfg w s e (.checkoutPost s now true outcome)
        { e with checkout := some (.writing loaded
          (checkoutAfterPost cfg now loaded.startProvisioning w.provider.length outcome)) }
        (outcome.order (loaded.payload key email) s).toList [⟨s, false, loaded.payload key email⟩]
  | checkoutFails (now : Time) (outcome : PostOutcome) (loaded : Subscription) (email : Nat)
      (hat : e.checkout = some (.posting loaded email)) (hfree : e.retry = none) :
      Moves cfg w s e (.checkoutPost s now false outcome)
        { e with checkout := some (.writing loaded
          (checkoutAfterPost cfg now loaded.startProvisioning w.provider.length .refused)) } [] []
  | checkoutCommits (loaded new : Subscription) (hat : e.checkout = some (.writing loaded new)) :
      Moves cfg w s e (.checkoutCommit s)
        { e with row := loaded.flush new e.row, checkout := none } [] []
  | retryStarts (l : Label) (sub : Subscription) (email : Nat) (forced : Bool)
      (hl : (∃ now, l = .tickStart s now email) ∨ ∃ now, l = .adminStart s now email forced)
      (hfree : e.retry = none) (hunlocked : e.lockedByCheckout = false)
      (hactive : e.row.status ≠ .active)
      (hlimit : forced = true ∨ e.row.provisionAttempts < cfg.limit)
      (hsub : sub = e.row ∨ ∃ now, sub = { e.row with nextRetryAt := some now, needsReview := false }) :
      Moves cfg w s e l { e with retry := some (.looking sub email forced) } [] []
  | retryStops (l : Label) (now : Time) (sub : Subscription) (email : Nat) (forced searched : Bool)
      (why : Stop) (new : Subscription)
      (hat : e.retry = some (.looking sub email forced) ∨
        e.retry = some (.posting sub email forced))
      (hstop : retryStopped cfg now sub searched why = some new) :
      Moves cfg w s e l { e with retry := some (.writing new) } [] []
  | retryMisses (now : Time) (reply : LookupReply) (sub : Subscription) (email key : Nat)
      (forced : Bool) (hat : e.retry = some (.looking sub email forced))
      (hkey : cfg.productKey sub.serviceSlug = some key) (hreply : reply ≠ .malformed)
      (hmissed : w.lookup (sub.payload key email) reply = some none) :
      Moves cfg w s e (.retryLookup s now reply)
        { e with retry := some (.posting sub email forced) } [] []
  | retryAdopts (now : Time) (reply : LookupReply) (sub : Subscription) (email key id : Nat)
      (forced : Bool) (o : ProviderOrder) (hat : e.retry = some (.looking sub email forced))
      (hkey : cfg.productKey sub.serviceSlug = some key)
      (hfound : w.lookup (sub.payload key email) reply = some (some (id, o))) :
      Moves cfg w s e (.retryLookup s now reply)
        { e with retry := some (.writing (adoptExistingOrder cfg now sub id o)) } [] []
  | retryPosts (now : Time) (outcome : PostOutcome) (sub : Subscription) (email key : Nat)
      (forced : Bool) (hat : e.retry = some (.posting sub email forced))
      (hkey : cfg.productKey sub.serviceSlug = some key) :
      Moves cfg w s e (.retryPost s now outcome)
        { e with retry := some (.writing
          (afterPost cfg now sub.startProvisioning w.provider.length outcome)) }
        (outcome.order (sub.payload key email) s).toList [⟨s, forced, sub.payload key email⟩]
  | retryCommits (new : Subscription) (hat : e.retry = some (.writing new)) :
      Moves cfg w s e (.retryCommit s) { e with row := new, retry := none } [] []

/-- What a step can do. -/
inductive Does (cfg : Config) (w : World) : Label → World → Prop
  | idle (l : Label) : Does cfg w l w
  | purchases (user : UserId) (slug plan : Nat) (annually : Bool) (email : Nat) :
      Does cfg w (.purchase user slug plan annually email)
        { w with subs := w.subs ++
          [⟨.captured user slug plan annually,
            some (.looking (.captured user slug plan annually) email), none⟩] }
  | updates (id : Nat) (status : ProviderStatus) (ready shown : Bool) :
      Does cfg w (.providerUpdate id status ready shown)
        { w with provider := w.provider.modify id fun o =>
          { o with status := status, serviceReady := ready, orderIdShown := shown } }
  | moves (l : Label) (s : Nat) (e e' : Entry) (orders : List ProviderOrder)
      (posts : List Post) (hentry : w.subs[s]? = some e)
      (hmoves : Moves cfg w s e l e' orders posts) :
      Does cfg w l ⟨w.subs.set s e', w.provider ++ orders, posts ++ w.posts⟩

variable {cfg : Config} {w : World} {s : Nat} {e e' : Entry} {l : Label} {want : Payload}
  {o : ProviderOrder}

theorem Does.quiet (hentry : w.subs[s]? = some e) (hmoves : Moves cfg w s e l e' [] []) :
    Does cfg w l (w.put s e') := by
  have h := Does.moves l s e e' [] [] hentry hmoves
  rwa [List.append_nil, List.nil_append] at h

theorem checkoutStep_does (hentry : w.subs[s]? = some e) (hl : l.sub = some s) :
    Does cfg w l (checkoutStep cfg w s e l) := by
  cases l with
  | checkoutStop s' why =>
    cases hl
    simp only [checkoutStep]
    split
    · next loaded email hat =>
      split
      · next new hstop =>
        split_ifs with hfree
        · exact .quiet hentry (.checkoutStops loaded email why new hat hfree hstop)
        · exact .idle _
      · exact .idle _
    · exact .idle _
  | checkoutLookup s' now reply =>
    cases hl
    simp only [checkoutStep]
    split
    · next loaded email hat =>
      split
      · exact .idle _
      · next key hkey =>
        split
        · exact .idle _
        · next id o hfound =>
          split_ifs with hshown hfree
          · exact .quiet hentry (.checkoutMisses _ loaded email hat)
          · exact .quiet hentry (.checkoutAdopts now reply loaded email key id o hat hfree hkey
              hfound (by simpa using hshown))
          · exact .idle _
        · exact .quiet hentry (.checkoutMisses _ loaded email hat)
    · exact .idle _
  | checkoutPost s' now portalOk outcome =>
    obtain rfl := Option.some.inj hl
    simp only [checkoutStep]
    split
    · next loaded email hat =>
      split
      · exact .idle _
      · next key hkey =>
        split_ifs with hfree hportal
        · subst hportal
          exact .moves _ s' e _ _ _ hentry
            (.checkoutPosts now outcome loaded email key hat hfree hkey)
        · rw [Bool.not_eq_true] at hportal
          subst hportal
          exact .quiet hentry (.checkoutFails now outcome loaded email hat hfree)
        · exact .idle _
    · exact .idle _
  | checkoutCommit s' =>
    cases hl
    simp only [checkoutStep]
    split
    · next loaded new hat => exact .quiet hentry (.checkoutCommits loaded new hat)
    · exact .idle _
  | _ => exact .idle _

theorem SubscriptionStatus.ne_active {st : SubscriptionStatus} (h : st.retryable = true) :
    st ≠ .active := by
  rintro rfl
  cases h

theorem retryStep_does (hentry : w.subs[s]? = some e) (hl : l.sub = some s) :
    Does cfg w l (retryStep cfg w s e l) := by
  cases l with
  | tickStart s' now email =>
    cases hl
    simp only [retryStep]
    split_ifs with hok
    · obtain ⟨hfree, hunlocked, hretryable, hlimit, -⟩ := hok
      exact .quiet hentry (.retryStarts _ e.row email false (.inl ⟨now, rfl⟩) hfree hunlocked
        (SubscriptionStatus.ne_active hretryable) (.inr hlimit) (.inl rfl))
    · exact .idle _
  | adminStart s' now email force =>
    cases hl
    simp only [retryStep]
    split_ifs with hok
    · obtain ⟨hfree, hunlocked, hactive, hlimit⟩ := hok
      exact .quiet hentry (.retryStarts _ _ email force (.inr ⟨now, rfl⟩) hfree hunlocked
        hactive hlimit (.inr ⟨now, rfl⟩))
    · exact .idle _
  | retryStop s' now why =>
    simp only [retryStep]
    split
    · next sub email forced hat =>
      split
      · next new hstop =>
        exact .quiet hentry (.retryStops _ now sub email forced false why new (.inl hat) hstop)
      · exact .idle _
    · next sub email forced hat =>
      split
      · next new hstop =>
        exact .quiet hentry (.retryStops _ now sub email forced true why new (.inr hat) hstop)
      · exact .idle _
    · exact .idle _
  | retryLookup s' now reply =>
    cases hl
    simp only [retryStep]
    split
    · next sub email forced hat =>
      split
      · exact .idle _
      · next key hkey =>
        split
        · exact .idle _
        · exact .quiet hentry (.retryStops _ now sub email forced false .unexpected _ (.inl hat) rfl)
        · next id o hreply hfound =>
          exact .quiet hentry (.retryAdopts now _ sub email key id forced o hat hkey hfound)
        · next hreply hmissed =>
          exact .quiet hentry (.retryMisses now _ sub email key forced hat hkey hreply hmissed)
    · exact .idle _
  | retryPost s' now outcome =>
    obtain rfl := Option.some.inj hl
    simp only [retryStep]
    split
    · next sub email forced hat =>
      split
      · exact .idle _
      · next key hkey =>
        exact .moves _ s' e _ _ _ hentry (.retryPosts now outcome sub email key forced hat hkey)
    · exact .idle _
  | retryCommit s' =>
    cases hl
    simp only [retryStep]
    split
    · next new hat => exact .quiet hentry (.retryCommits new hat)
    · exact .idle _
  | _ => exact .idle _

/-- **Everything a step can do.** -/
theorem step_does (cfg : Config) (w : World) (l : Label) : Does cfg w l (step cfg w l) := by
  cases l with
  | purchase user slug plan annually email => exact .purchases user slug plan annually email
  | providerUpdate id status ready shown => exact .updates id status ready shown
  | _ =>
    simp only [step, Label.sub, Label.isCheckout]
    split
    · exact .idle _
    · next e hentry =>
      first
        | exact checkoutStep_does hentry rfl
        | exact retryStep_does hentry rfl

/-! ## What a lookup finds -/

theorem findMatchingOrder_mem {listed : List (Nat × ProviderOrder)} {found : Nat × ProviderOrder}
    (h : findMatchingOrder listed want = some found) : found ∈ listed := by
  simp only [findMatchingOrder, Option.or_eq_some_iff] at h
  obtain h | ⟨-, h⟩ := h
  · exact (List.mem_filter.mp (List.mem_of_find?_eq_some h)).1
  · exact (List.mem_filter.mp (List.mem_of_head? h)).1

theorem lookup_held {reply : LookupReply} {id : Nat} (h : w.lookup want reply = some (some (id, o))) :
    w.provider[id]? = some o := by
  cases reply with
  | orders listed =>
    simp only [World.lookup] at h
    split_ifs at h
    have hmem := findMatchingOrder_mem (Option.some.inj h)
    obtain ⟨i, -, hi⟩ := List.mem_filterMap.mp hmem
    obtain ⟨o', ho', heq⟩ := Option.map_eq_some_iff.mp hi
    obtain ⟨rfl, rfl⟩ := Prod.mk.inj heq
    exact ho'
  | failed => cases h
  | malformed => cases h

/-- **A lookup that is answered finds an order when the provider holds the wanted one.** -/
theorem lookup_finds {listed : List Nat} {found : Option (Nat × ProviderOrder)}
    (h : w.lookup want (.orders listed) = some found) {i : Nat} (ho : w.provider[i]? = some o)
    (hwant : o.payload = want) : found ≠ none := by
  simp only [World.lookup] at h
  split_ifs at h with hperm
  have hi : i < w.provider.length := (List.getElem?_eq_some_iff.mp ho).choose
  have hheld : i ∈ heldFor w.provider want :=
    List.mem_filter.mpr ⟨List.mem_range.mpr hi, by rw [ho]; simp [hwant]⟩
  have hlisted : (i, o) ∈ listed.filterMap fun i => w.provider[i]?.map fun o => (i, o) :=
    List.mem_filterMap.mpr ⟨i, hperm.mem_iff.mpr hheld, by rw [ho]; rfl⟩
  cases h
  intro hnone
  simp only [findMatchingOrder, Option.or_eq_none_iff] at hnone
  have hempty := List.head?_eq_none_iff.mp hnone.2
  exact List.filter_eq_nil_iff.mp hempty (i, o) hlisted (by simp [hwant])

end Deltapreneur.Provisioning
