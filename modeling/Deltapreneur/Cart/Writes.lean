import Deltapreneur.Cart.Fulfilment

/-!
# What fulfilment writes

The statements that the programs of `Cart.Fulfilment` may send, whatever they read and whatever
goes wrong, as facts of the form `Prog.Only good ok Q`: every write is one that `ok` allows.

* `Allows good ok r`: `ok` allows what a call may write that does not depend on the line: track
  records, states of subscriptions, the edits of registration orders and purchases it has read.
  `Reg` and `Pur` are what these rows are known to satisfy.
* `AllowsLine`: it also allows what the work on one line may insert, apart from a subscription.
* `AllowsSubscription`: it allows the line's subscription, under the slug of the catalogue or
  under the one that `_ensure_paid_technology_service_subscription` uses.

Results:

* `only_verifyLine`, `only_webhookLine`: the lines of the two calls.
* `only_verifyLocked`, `only_webhookLocked`: the calls, once they have read the cart.
-/

namespace Deltapreneur.Cart

open Session Prog

/-! ## Permissions -/

variable {good : Db → Prop} {ok : Write → Prop} {Reg : RegistrationOrder → Prop}
  {Pur : Purchase → Prop} {r : Request} {it : CartItem} {o : RegistrationOrder}

structure Allows (good : Db → Prop) (ok : Write → Prop) (Reg : RegistrationOrder → Prop)
    (Pur : Purchase → Prop) (r : Request) : Prop where
  track : ∀ key, ok (.insertTrack key)
  redemption : ok (.confirmRedemption r.order)
  delete : ∀ ids, ok (.deleteItems ids)
  state : ∀ id status providerOrder, ok (.saveSubscription id status providerOrder)
  readOrder : ∀ s, good s → ∀ o ∈ s.registrations, o.razorpayOrderId = r.order → Reg o
  readAgain : ∀ s, good s → ∀ o, Reg o → ∀ fresh, s.registration o.id = some fresh → Reg fresh
  saveReg : ∀ o, Reg o → ok (.saveRegistration o)
  payReg : ∀ o status, Reg o → Reg { o with razorpayPaymentId := some r.payment, status := status }
  failReg : ∀ o, Reg o → Reg { o with status := .provisionFailed }
  provisionReg : ∀ o status registrarId registering, Reg o →
    Reg (o.provisioned (r.catalogue.minYears o.domain) status registrarId registering)
  readPur : ∀ s, good s → ∀ p ∈ s.purchases, Pur p
  completePur : ∀ p, Pur p → ok (.completePurchase p.id p.softwareId r.payment)
  requestPur : ∀ p, Pur p → ∀ addon ∈ p.addonServices,
    ok (.insertRequest ⟨r.buyer, addon, p.razorpayOrderId, p.line⟩)

structure AllowsLine (good : Db → Prop) (ok : Write → Prop) (Reg : RegistrationOrder → Prop)
    (Pur : Purchase → Prop) (r : Request) (it : CartItem) : Prop
    extends Allows good ok Reg Pur r where
  flag : ok (.saveItem it.id it.client { it.checkout with fulfilledPaymentId := some r.payment })
  sale : it.productType = .domainListing →
    ok (.sellListing ⟨it.productId, r.buyer, r.order, r.payment, it.addonServices, it.id⟩)
  request : it.productType = .domainListing ∨ it.productType = .technology →
    ∀ addon ∈ it.addonServices, ok (.insertRequest ⟨r.buyer, addon, r.order, it.id⟩)
  transaction : ok (.insertTransaction ⟨it.productId, r.buyer, r.order, r.payment, it.id⟩)
  market : ok (.insertRegistration
    { id := (r.call, it.id), buyerId := r.buyer
      domain := r.catalogue.listingDomain it.productId, periodYears := 1
      razorpayOrderId := r.order, razorpayPaymentId := some r.payment, status := .active
      marketplace := true, registrarId := false, line := it.id })
  deal : ok (.insertDeal ⟨it.productId, r.buyer, r.order, r.payment, it.id⟩)
  purchase : it.productType = .technology → (r.catalogue.software it.productId).isSome →
    ok (.insertPurchase (newPurchase r it))
  newPur : it.productType = .technology → (r.catalogue.software it.productId).isSome →
    Pur (newPurchase r it)
  readLine : it.productType = .domainRegistration → ∀ s, good s → ∀ id,
    it.checkout.registrationOrderId = some id → ∀ o, s.registration id = some o → Reg o
  registration : it.productType = .domainRegistration → ∀ domain,
    it.client.domainName = some domain → ok (.insertRegistration (newRegistrationOrder r it domain))
  newReg : it.productType = .domainRegistration → ∀ domain, it.client.domainName = some domain →
    Reg (newRegistrationOrder r it domain)

/-- The slugs a technology line may be stored under. -/
def CartItem.StoredUnder (it : CartItem) (cat : Catalogue) (slug : Slug) : Prop :=
  slug = it.rescueSlug ∨ ∃ sv, cat.services it.productId = some sv ∧ slug = sv.slug

def AllowsSubscription (ok : Write → Prop) (r : Request) (it : CartItem) : Prop :=
  ∀ slug status, it.StoredUnder r.catalogue slug →
    ok (.insertSubscription (newSubscription r it slug status))

/-! ## Small statements -/

theorem only_attempt {α : Type} {Q : α → Prop} {p : M α} (h : Only good ok Q p) :
    Only good ok (fun x => ∀ a, x = .ok a → Q a) (attempt p) := by
  refine only_tryCatch (only_bind h fun a ha => only_pure ?_) fun e => only_pure ?_
  · rintro b hb
    exact Except.ok.inj hb ▸ ha
  · rintro b hb
    cases hb

theorem only_onPendingRollback {α : Type} {Q : α → Prop} {p h : M α} (hp : Only good ok Q p)
    (hh : Only good ok Q h) : Only good ok Q (onPendingRollback p h) := by
  refine only_tryCatch hp fun e => ?_
  split
  · exact hh
  · exact only_throw e

theorem only_onlyIf {c : Bool} {p : M Unit} (h : c = true → Only good ok (fun _ => True) p) :
    Only good ok (fun _ => True) (onlyIf c p) := by
  unfold onlyIf
  split
  · next hc => exact h hc
  · exact only_pure trivial

theorem only_recordPaidAttempt (h : ∀ key, ok (.insertTrack key)) (key : TrackKey) :
    Only good ok (fun _ => True) (recordPaidAttempt key) :=
  only_bind only_query fun _ _ => only_onlyIf fun _ => only_exec (h key)

theorem only_requestAddon {order : OrderId} {line : ItemId} {addon : Addon}
    (h : ok (.insertRequest ⟨r.buyer, addon, order, line⟩)) :
    Only good ok (fun _ => True) (requestAddon r order line addon) := by
  refine only_bind only_query fun db _ => ?_
  split
  · exact only_exec h
  · exact only_pure trivial
  · exact only_throw _

theorem only_createAddonOperationsRequests {order : OrderId} {line : ItemId} :
    ∀ {addons : List Addon}, (∀ addon ∈ addons, ok (.insertRequest ⟨r.buyer, addon, order, line⟩)) →
      Only good ok (fun _ => True) (createAddonOperationsRequests r order line addons)
  | [], _ => only_pure trivial
  | addon :: rest, h => by
    refine only_bind (only_onlyIf fun _ => only_requestAddon (h addon List.mem_cons_self))
      fun _ _ => ?_
    exact only_createAddonOperationsRequests fun a ha => h a (List.mem_cons_of_mem addon ha)

/-! ## Technology lines -/

theorem only_findPaid (slug : Slug) :
    Only good ok (fun _ => True) (findPaidTechnologySubscription r slug) :=
  only_bind only_query fun _ _ => only_pure trivial

theorem only_purchaseByPayment (h : Allows good ok Reg Pur r) (payment : PaymentId) :
    Only good ok (fun x => ∀ p, x = some p → Pur p) (purchaseByPayment payment) := by
  refine only_bind only_query fun db hdb => ?_
  split
  · exact only_pure (by simp)
  · next p hp =>
    refine only_pure fun q hq => ?_
    have hmem : p ∈ db.purchases.filter fun p => p.razorpayPaymentId = some payment := by
      rw [hp]
      exact List.mem_singleton_self p
    exact Option.some.inj hq ▸ h.readPur db hdb p (List.mem_of_mem_filter hmem)
  · exact only_throw _

theorem only_finalizePaidPurchase (h : Allows good ok Reg Pur r) {p : Purchase} (hp : Pur p) :
    Only good ok (fun res => res.subscription = none) (finalizePaidPurchase r p) :=
  only_bind (only_exec (h.completePur p hp)) fun _ _ =>
    only_bind (only_createAddonOperationsRequests (h.requestPur p hp)) fun _ _ =>
      only_bind (only_recordPaidAttempt h.track _) fun _ _ => only_pure rfl

theorem only_finishPurchase (h : Allows good ok Reg Pur r) {p : Purchase} (hp : Pur p) :
    Only good ok (fun res => res.subscription = none) (finishPurchase r p) := by
  unfold finishPurchase
  split
  · exact only_pure rfl
  · exact only_finalizePaidPurchase h hp

theorem only_completeSoftwarePurchase (h : AllowsLine good ok Reg Pur r it)
    (htech : it.productType = .technology) {sw : Software}
    (hsoft : r.catalogue.software it.productId = some sw) :
    Only good ok (fun res => res.subscription = none) (completeSoftwarePurchase r it sw) := by
  have hsome : (r.catalogue.software it.productId).isSome := by rw [hsoft]; rfl
  have hnew : Only good ok (fun res => res.subscription = none) (createPurchase r it) :=
    only_bind (only_exec (h.purchase htech hsome)) fun _ _ =>
      only_finalizePaidPurchase h.toAllows (h.newPur htech hsome)
  unfold completeSoftwarePurchase
  split
  · exact only_throw _
  · refine only_bind only_query fun db hdb => ?_
    split
    · next p hp =>
      exact only_finishPurchase h.toAllows (h.readPur db hdb p (List.mem_of_find?_eq_some hp))
    · refine only_bind (only_purchaseByPayment h.toAllows r.payment) fun found hfound => ?_
      cases found with
      | none => exact hnew
      | some p =>
        show Only good ok _ (if _ then _ else _)
        split
        · exact only_finishPurchase h.toAllows (hfound p rfl)
        · exact hnew

theorem only_storeSubscription {s : Subscription} (h : ok (.insertSubscription s))
    (missing : Raised) : Only good ok (fun _ => True) (storeSubscription r s missing) := by
  refine only_tryCatch (only_bind (only_exec h) fun _ _ => only_pure trivial) fun e => ?_
  split
  · refine only_bind only_reset fun _ _ => only_bind (only_findPaid _) fun found _ => ?_
    cases found with
    | none => exact only_throw _
    | some s => exact only_pure trivial
  · exact only_throw e

theorem only_provisionService (h : AllowsLine good ok Reg Pur r it)
    (htech : it.productType = .technology) (s : Subscription) :
    Only good ok (fun res => res.subscription = some s.id) (provisionService r it s) := by
  have hrest : ∀ res : LineResult, res.subscription = some s.id →
      Only good ok (fun res => res.subscription = some s.id) (do
        let _ ← attempt (createAddonOperationsRequests r r.order it.id it.addonServices)
        pure res) := fun res hres =>
    only_bind (only_attempt (only_createAddonOperationsRequests (h.request (.inr htech)))) fun _ _ =>
      only_pure hres
  unfold provisionService
  split
  · exact only_bind (only_exec (h.state _ _ _)) fun _ _ => hrest _ rfl
  · exact only_throw _
  · exact only_bind (only_onlyIf fun _ => only_exec (h.state _ _ _)) fun _ _ =>
      only_bind (only_onlyIf fun _ => only_commitTx) fun _ _ =>
        only_bind (only_exec (h.state _ _ _)) fun _ _ => hrest _ rfl

theorem only_subscribeService (h : AllowsLine good ok Reg Pur r it)
    (htech : it.productType = .technology) (hsub : AllowsSubscription ok r it) {slug : Slug}
    (hslug : it.StoredUnder r.catalogue slug) :
    Only good ok (fun _ => True) (subscribeService r it slug) := by
  unfold subscribeService
  split
  · exact only_throw _
  · refine only_bind (only_findPaid slug) fun found _ => ?_
    cases found with
    | some s => exact only_pure trivial
    | none =>
      refine only_bind (only_storeSubscription (hsub slug _ hslug) _) fun taken _ => ?_
      cases taken with
      | some s => exact only_pure trivial
      | none =>
        exact only_bind only_commitTx fun _ _ =>
          only_mono (fun _ _ => trivial) (only_provisionService h htech _)

/-- Only the delivery of the product inserts anything. -/
theorem only_ofDelivery (h : Allows good ok Reg Pur r) {Q : LineResult → Prop}
    (hfound : it.client.serviceSlug ≠ [] → ∀ res, Q res)
    (hdeliver : Only good ok Q (deliverTechnology r it)) :
    Only good ok Q (completeTechnologyPurchase r it) := by
  have hlook : ∀ c, Only good ok (fun x => x ≠ none → it.client.serviceSlug ≠ [])
      (existingSubscription r it c) := by
    intro c
    unfold existingSubscription
    split
    · next hc =>
      refine only_mono (fun _ _ _ => ?_) (only_findPaid _)
      simpa using (Bool.and_eq_true_iff.mp hc).2
    · exact only_pure (absurd rfl)
  have hpaid : Only good ok (fun _ => True) (purchaseByPayment r.payment) :=
    only_mono (fun _ _ => trivial) (only_purchaseByPayment h r.payment)
  refine only_bind (hlook true) fun found hne => ?_
  cases found with
  | some s => exact only_bind hpaid fun _ _ => only_pure (hfound (hne (by simp)) _)
  | none =>
    refine only_bind hpaid fun paid _ => only_bind (hlook _) fun again hne => ?_
    cases again with
    | some s => exact only_pure (hfound (hne (by simp)) _)
    | none => exact hdeliver

theorem only_completeTechnologyPurchase (h : AllowsLine good ok Reg Pur r it)
    (htech : it.productType = .technology) (hsub : AllowsSubscription ok r it) :
    Only good ok (fun _ => True) (completeTechnologyPurchase r it) := by
  refine only_ofDelivery h.toAllows (fun _ _ => trivial) ?_
  unfold deliverTechnology
  split
  · next hsoft => exact only_mono (fun _ _ => trivial) (only_completeSoftwarePurchase h htech hsoft)
  · next hsv => exact only_subscribeService h htech hsub (.inr ⟨_, hsv, rfl⟩)
  · exact only_throw _

theorem only_settle (h : Allows good ok Reg Pur r) (s : Subscription) :
    Only good ok (fun res => res.subscription = some s.id)
      (ensurePaidTechnologyServiceSubscription.settle s) :=
  only_bind (only_onlyIf fun _ => only_exec (h.state _ _ _)) fun _ _ =>
    only_bind only_commitTx fun _ _ => only_pure rfl

theorem only_ensurePaid (h : Allows good ok Reg Pur r) (hsub : AllowsSubscription ok r it) :
    Only good ok (fun _ => True) (ensurePaidTechnologyServiceSubscription r it) := by
  have hsettle : ∀ s, Only good ok (fun _ => True)
      (ensurePaidTechnologyServiceSubscription.settle s) :=
    fun s => only_mono (fun _ _ => trivial) (only_settle h s)
  refine only_bind (only_findPaid _) fun found _ => ?_
  cases found with
  | some s => exact hsettle s
  | none =>
    refine only_bind (only_storeSubscription (hsub _ _ (.inl rfl)) _) fun taken _ => ?_
    cases taken with
    | some s => exact hsettle s
    | none => exact hsettle _

/-! ## Other lines -/

theorem only_completeDomainPurchase (h : AllowsLine good ok Reg Pur r it)
    (hlisting : it.productType = .domainListing) :
    Only good ok (fun _ => True) (completeDomainPurchase r it) := by
  have hcreate : Only good ok (fun _ => True) (completeDomainPurchase.createFromPayment r it) :=
    only_bind only_query fun _ _ => only_onlyIf fun _ => only_exec h.transaction
  unfold completeDomainPurchase
  split
  · exact only_throw _
  · exact only_bind (only_exec (h.sale hlisting)) fun _ _ =>
      only_bind (only_createAddonOperationsRequests (h.request (.inl hlisting))) fun _ _ =>
        only_bind (only_onlyIf fun _ => hcreate) fun _ _ =>
          only_bind (only_exec h.market) fun _ _ => only_pure trivial

theorem only_completeVenturePurchase (h : AllowsLine good ok Reg Pur r it) :
    Only good ok (fun _ => True) (completeVenturePurchase r it) := by
  unfold completeVenturePurchase
  split
  · exact only_throw _
  · exact only_bind (only_exec h.deal) fun _ _ => only_pure trivial

theorem only_provisionOrder (h : Allows good ok Reg Pur r) (ho : Reg o) :
    Only good ok (fun _ => True) (provisionOrder r o) := by
  unfold provisionOrder
  split
  · exact only_throw _
  · exact only_bind (only_exec (h.saveReg _ (h.provisionReg o _ _ _ ho))) fun _ _ =>
      only_pure trivial

theorem only_provisionFailed (h : Allows good ok Reg Pur r) (ho : Reg o) :
    Only good ok (fun _ => True) (provisionFailed o) := by
  refine only_bind only_reset fun _ _ => only_bind only_query fun db hdb => ?_
  have hfresh : Reg ((db.registration o.id).getD o) := by
    cases hfound : db.registration o.id with
    | none => exact ho
    | some fresh => exact h.readAgain db hdb o ho fresh hfound
  show Only good ok _ (if _ then _ else _)
  split
  · exact only_pure trivial
  · exact only_bind (only_exec (h.saveReg _ (h.failReg _ hfresh))) fun _ _ => only_pure trivial

theorem only_paidRegistrationOrder (h : AllowsLine good ok Reg Pur r it)
    (htype : it.productType = .domainRegistration) {domain : Domain}
    (hdomain : it.client.domainName = some domain) :
    Only good ok Reg (paidRegistrationOrder r it domain) := by
  have hfound : Only good ok (fun x => ∀ o, x = some o → Reg o)
      (paidRegistrationOrder.checkoutOrder it) := by
    unfold paidRegistrationOrder.checkoutOrder
    split
    · exact only_pure (by simp)
    · next id hid =>
      exact only_bind only_query fun db hdb => only_pure fun o ho => h.readLine htype db hdb id hid o ho
  refine only_bind hfound fun found hreg => ?_
  cases found with
  | none =>
    show Only good ok _ (if _ then _ else _)
    split
    · exact only_throw _
    · exact only_bind (only_exec (h.registration htype domain hdomain)) fun _ _ =>
        only_pure (h.newReg htype domain hdomain)
  | some o =>
    have ho : Reg (o.paid r.payment) := h.payReg o _ (hreg o rfl)
    exact only_bind (only_exec (h.saveReg _ ho)) fun _ _ => only_pure ho

theorem only_completeDomainRegistration (h : AllowsLine good ok Reg Pur r it)
    (htype : it.productType = .domainRegistration) :
    Only good ok (fun _ => True) (completeDomainRegistration r it) := by
  unfold completeDomainRegistration
  split
  · exact only_throw _
  · next domain hdomain =>
    refine only_bind (only_paidRegistrationOrder h htype hdomain) fun o ho => ?_
    refine only_bind only_commitTx fun _ _ => only_bind (only_onlyIf fun _ => ?_) fun _ _ =>
      only_pure trivial
    refine only_tryCatch (only_bind (only_provisionOrder h.toAllows ho) fun _ _ => only_commitTx)
      fun _ => ?_
    exact only_bind (only_provisionFailed h.toAllows ho) fun _ _ =>
      only_onlyIf fun _ => only_commitTx

/-! ## Lines and calls -/

theorem only_processItemPostPayment (h : AllowsLine good ok Reg Pur r it)
    (hsub : it.productType = .technology → AllowsSubscription ok r it) :
    Only good ok (fun _ => True) (processItemPostPayment r it) := by
  unfold processItemPostPayment
  split
  · next hlisting => exact only_completeDomainPurchase h hlisting
  · next htech => exact only_completeTechnologyPurchase h htech (hsub htech)
  · exact only_completeVenturePurchase h
  · next htype => exact only_completeDomainRegistration h htype

theorem only_fulfil (h : AllowsLine good ok Reg Pur r it)
    (hsub : it.productType = .technology → AllowsSubscription ok r it) :
    Only good ok (fun _ => True) (fulfil r it) :=
  only_bind (only_processItemPostPayment h hsub) fun _ _ =>
    only_bind (only_exec h.flag) fun _ _ => only_pure trivial

theorem only_lineFailed (h : AllowsLine good ok Reg Pur r it)
    (hsub : it.productType = .technology → AllowsSubscription ok r it) (isService : Bool)
    (key : TrackKey) : Only good ok (fun _ => True) (lineFailed r it isService key) := by
  unfold lineFailed
  split
  · next htech =>
    exact only_bind only_reset fun _ _ =>
      only_bind (only_ensurePaid h.toAllows (hsub htech.1)) fun _ _ =>
        only_bind (only_recordPaidAttempt h.track key) fun _ _ => only_pure trivial
  · exact only_bind (only_recordPaidAttempt h.track key) fun _ _ => only_pure trivial

theorem only_verifyLine (h : AllowsLine good ok Reg Pur r it)
    (hsub : it.productType = .technology → AllowsSubscription ok r it) :
    Only good ok (fun _ => True) (verifyLine r it) := by
  unfold verifyLine
  split
  · exact only_pure trivial
  · refine only_bind (only_attempt (only_fulfil h hsub)) fun outcome _ => ?_
    cases outcome with
    | error e => exact only_lineFailed h hsub _ _
    | ok res =>
      refine only_bind (only_attempt (only_recordPaidAttempt h.track _)) fun recorded _ => ?_
      cases recorded with
      | ok _ => exact only_pure trivial
      | error e => exact only_bind (only_lineFailed h hsub _ _) fun _ _ => only_pure trivial

/-- A piece of software with a purchase of its order is delivered from that row: nothing is
inserted from the line, whatever goes wrong. -/
theorem only_verifyLine_bought (h : Allows good ok Reg Pur r)
    (hflag : ok (.saveItem it.id it.client
      { it.checkout with fulfilledPaymentId := some r.payment }))
    (htech : it.productType = .technology) (hslug : it.client.serviceSlug = [])
    {sw : Software} (hsoft : r.catalogue.software it.productId = some sw)
    (hbought : ∀ s, good s → ∃ p ∈ s.purchases,
      p.razorpayOrderId = r.order ∧ p.softwareId = it.productId) :
    Only good ok (fun _ => True) (verifyLine r it) := by
  have hpurchase : Only good ok (fun res => res.subscription = none)
      (completeSoftwarePurchase r it sw) := by
    unfold completeSoftwarePurchase
    split
    · exact only_throw _
    · refine only_bind only_query fun db hdb => ?_
      obtain ⟨p, hp, hporder, hpsoft⟩ := hbought db hdb
      cases hfind : db.purchases.find? fun p =>
          p.razorpayOrderId = r.order && p.softwareId = it.productId with
      | none => exact absurd (List.find?_eq_none.mp hfind p hp) (by simp [hporder, hpsoft])
      | some p' =>
        exact only_finishPurchase h (h.readPur db hdb p' (List.mem_of_find?_eq_some hfind))
  have hwork : Only good ok (fun res => res.subscription = none) (fulfil r it) := by
    have hprocess : processItemPostPayment r it = completeTechnologyPurchase r it := by
      unfold processItemPostPayment
      rw [htech]
    have hdeliver : deliverTechnology r it = completeSoftwarePurchase r it sw := by
      unfold deliverTechnology
      rw [hsoft]
    refine only_bind (R := fun res => res.subscription = none) ?_ fun res hres =>
      only_bind (only_exec hflag) fun _ _ => only_pure hres
    rw [hprocess]
    exact only_ofDelivery h (fun hne => absurd hslug hne) (hdeliver ▸ hpurchase)
  have hfailed : ∀ key, Only good ok (fun _ => True) (lineFailed r it false key) := by
    intro key
    unfold lineFailed
    rw [if_neg (by simp [hslug])]
    exact only_bind (only_recordPaidAttempt h.track key) fun _ _ => only_pure trivial
  unfold verifyLine
  split
  · exact only_pure trivial
  · refine only_bind (only_attempt hwork) fun outcome houtcome => ?_
    cases outcome with
    | error e => exact hfailed _
    | ok res =>
      refine only_bind (only_attempt (only_recordPaidAttempt h.track _)) fun recorded _ => ?_
      cases recorded with
      | ok _ => exact only_pure trivial
      | error e =>
        have hnone : res.subscription.isSome = false := by rw [houtcome res rfl]; rfl
        show Only good ok _ (lineFailed r it res.subscription.isSome _ >>= _)
        rw [hnone]
        exact only_bind (hfailed _) fun _ _ => only_pure trivial

theorem only_webhookLine (h : AllowsLine good ok Reg Pur r it) (hsub : AllowsSubscription ok r it) :
    Only good ok (fun _ => True) (webhookLine r it) := by
  unfold webhookLine
  split
  · exact only_pure trivial
  · have hrescue : Only good ok (fun _ => True) (do
        rollback
        let res ← ensurePaidTechnologyServiceSubscription r it
        pure (res.of it)) :=
      only_bind only_reset fun _ _ =>
        only_bind (only_ensurePaid h.toAllows hsub) fun _ _ => only_pure trivial
    exact only_bind (only_tryCatch (only_fulfil h fun _ => hsub) fun _ => hrescue) fun _ _ =>
      only_bind (only_recordPaidAttempt h.track _) fun _ _ => only_pure trivial

theorem only_forLines {f : CartItem → M (List LineResult)} :
    ∀ {lines : List CartItem}, (∀ it ∈ lines, Only good ok (fun _ => True) (f it)) →
      Only good ok (fun _ => True) (forLines f lines)
  | [], _ => only_pure trivial
  | it :: _, h =>
    only_bind (h it List.mem_cons_self) fun _ _ =>
      only_bind (only_forLines fun x hx => h x (List.mem_cons_of_mem it hx)) fun _ _ =>
        only_pure trivial

theorem only_confirmRedemption (h : Allows good ok Reg Pur r) :
    Only good ok (fun _ => True) (confirmRedemption r.order) :=
  only_bind only_query fun _ _ => only_onlyIf fun _ =>
    only_bind (only_exec h.redemption) fun _ _ => only_commitTx

theorem only_removeFulfilled (h : Allows good ok Reg Pur r) (domains : List Domain) :
    Only good ok (fun _ => True) (removeFulfilledCartItemsForPayment r domains) := by
  have hread : Only good ok (fun _ => True) (query >>= fun db => pure (some db)) :=
    only_bind only_query fun _ _ => only_pure trivial
  have hreread : Only good ok (fun _ => True) removeFulfilledCartItemsForPayment.reread :=
    only_bind only_reset fun _ _ => only_tryCatch hread fun _ => only_pure trivial
  refine only_bind (only_onPendingRollback hread hreread) fun found _ => ?_
  cases found with
  | none => exact only_pure trivial
  | some db =>
    exact only_onlyIf fun _ => only_onPendingRollback (only_exec (h.delete _)) only_reset

theorem only_commitOrRollback :
    Only good ok (fun _ => True) (onPendingRollback commit rollback) :=
  only_onPendingRollback only_commitTx only_reset

theorem only_provisionPendingOrder (h : Allows good ok Reg Pur r) (ho : Reg o) :
    Only good ok (fun _ => True) (provisionPendingOrder r o) := by
  unfold provisionPendingOrder
  split
  · exact only_pure trivial
  · have ho' := h.payReg o
      (if o.status ∈ [.created, .expired, .paymentFailed, .failed, .provisionFailed] then
        .paymentCompleted else o.status) ho
    refine only_bind (only_exec (h.saveReg _ ho')) fun _ _ =>
      only_bind (only_attempt (only_provisionOrder h ho')) fun outcome _ => ?_
    cases outcome with
    | error e => exact only_bind (only_provisionFailed h ho') fun _ _ => only_pure trivial
    | ok done => exact only_pure trivial

theorem only_provisionPendingOrders (h : Allows good ok Reg Pur r) :
    ∀ {orders : List RegistrationOrder}, (∀ o ∈ orders, Reg o) →
      Only good ok (fun _ => True) (provisionPendingOrders r orders)
  | [], _ => only_pure trivial
  | o :: _, hreg =>
    only_bind (only_provisionPendingOrder h (hreg o List.mem_cons_self)) fun _ _ =>
      only_bind (only_provisionPendingOrders h fun x hx => hreg x (List.mem_cons_of_mem o hx))
        fun _ _ => only_pure trivial

theorem only_backfill (h : Allows good ok Reg Pur r) : ∀ orders : List RegistrationOrder,
    Only good ok (fun _ => True) (backfillFromRegistrationOrders orders)
  | [] => only_pure trivial
  | _ :: rest =>
    only_bind (only_onlyIf fun _ => only_recordPaidAttempt h.track _) fun _ _ =>
      only_backfill h rest

theorem only_recoverPendingOrders (h : Allows good ok Reg Pur r) :
    Only good ok (fun _ => True) (recoverPendingOrders r) := by
  refine only_bind only_query fun db hdb => ?_
  have hreg : ∀ o ∈ (db.registrationsOf r.order).filter fun o => o.buyerId = r.buyer, Reg o := by
    intro o ho
    obtain ⟨hmem, horder⟩ := List.mem_filter.mp (List.mem_of_mem_filter ho)
    exact h.readOrder db hdb o hmem (by simpa using horder)
  refine only_bind (only_provisionPendingOrders h hreg) fun recovered _ => ?_
  refine only_bind only_query fun _ _ => only_bind (only_backfill h _) fun _ _ => ?_
  refine only_bind (only_onlyIf fun _ => only_tryCatch (only_removeFulfilled h _) fun _ =>
    only_pure trivial) fun _ _ => ?_
  exact only_bind only_commitOrRollback fun _ _ => only_pure trivial

theorem only_verifyLocked (h : Allows good ok Reg Pur r) {db : Db}
    (hlines : ∀ it ∈ db.checkoutItems r.buyer r.order,
      Only good ok (fun _ => True) (verifyLine r it)) :
    Only good ok (fun _ => True) (verifyLocked r db) := by
  unfold verifyLocked
  split
  · exact only_recoverPendingOrders h
  · exact only_bind (only_confirmRedemption h) fun _ _ => only_bind (only_forLines hlines)
      fun _ _ => only_bind (only_removeFulfilled h _) fun _ _ =>
        only_bind only_commitOrRollback fun _ _ => only_pure trivial

theorem only_webhookLocked (h : Allows good ok Reg Pur r) {db : Db}
    (hlines : ∀ it ∈ db.technologyItems r.buyer r.order,
      Only good ok (fun _ => True) (webhookLine r it)) :
    Only good ok (fun _ => True) (webhookLocked r db) := by
  unfold webhookLocked
  split
  · exact only_pure trivial
  · exact only_bind (only_forLines hlines) fun _ _ => only_bind (only_exec (h.delete _))
      fun _ _ => only_bind only_commitTx fun _ _ => only_pure trivial

end Deltapreneur.Cart
