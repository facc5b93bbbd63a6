import Deltapreneur.Lib.Table
import Deltapreneur.Storefront.Renewals
import Deltapreneur.Storefront.TransferIn

/-!
# Everything that happens to an order

The entry points of the storefront that read or write `domain_registration_orders`, as functions of
the row they visit, and the table under any sequence of visits.

* `Act` has one constructor for each entry point: `domain_registration_service.py` (verify, retry,
  webhook, transfers, renewals), `domain_registration_ops_service.py` (webhook events, callback,
  admin, jobs), `domain_registration_followup.py` (recovery, reconciliation, page sync) and
  `cart_checkout_service.py:2201-2520` (cart verify and recovery).
* A call that visits several orders (a job, a webhook for a cart, a cart verify) is the run of its
  visits. The selections of the jobs are guards of the visit.
* The notes of a Razorpay order say `domain_transfer` exactly for a row that is a transfer.
* `verified` are the Razorpay orders for which a payment was verified, by a signature or by a
  signed webhook; `log` is what was done outside the database.

Results:

* `provisionOrder_cases`: what a call of `provision_order` comes to for its caller.
* `run_own`, `Desk.mem_visit`: a visit changes one row, keeps its id and calls the registrar for it.
* `Desk.keyed_step`: ids are positions after every step.
-/

namespace Deltapreneur.Storefront

open Registration (RegistrationOrderStatus RegistrationId)
open Razorpay (Payment RefundNetwork)

/-! ## Registration entry points -/

/-- A call of `provision_order` that raises leaves the row as it is. -/
def retryProvision (others : Holders) (a : Answers) (o : Order) : Result :=
  (provisionOrder others a o).getD (o, [])

/-- A call of `provision_order` that raises leaves a failed order. -/
def provisionOrFail (others : Holders) (a : Answers) (o : Order) : Result :=
  (provisionOrder others a o).getD (o.provisionFailed, [])

/-- The signature is checked, and it is valid. -/
def signatureAccepted (paymentId : Option PaymentId) (valid : Bool) (o : Order) : Bool :=
  o.status ≠ .active ∧ o.status ≠ .registrationPending ∧ o.razorpayPaymentId ≠ paymentId ∧
    paymentId.isSome ∧ valid

/-- The signature check of `verify_and_provision` and what follows it. A missing payment id that is
read as a key raises. -/
def checkSignature (others : Holders) (a : Answers) (paymentId : Option PaymentId) (valid : Bool)
    (o : Order) : Result :=
  match paymentId with
  | none => (o, [])
  | some payment =>
    if valid = false then ({ o with status := .failed }, [])
    else provisionOrFail others a { o.paidBy payment with status := .paymentCompleted }

/-- `verify_and_provision`: `paymentId` is the payload's, which may be missing. -/
def verifyAndProvision (others : Holders) (a : Answers) (paymentId : Option PaymentId)
    (valid : Bool) (sync : Option Bool) (o : Order) : Result :=
  if o.status = .active then (o, [])
  else if o.status = .registrationPending then (o.sync sync, [])
  else if o.razorpayPaymentId = paymentId then provisionOrFail others a o
  else checkSignature others a paymentId valid o

/-- `run_provision_retries` at one row, with the selection of `list_provision_retry_candidates`. -/
def runProvisionRetry (c : Config) (others : Holders) (a : Answers) (o : Order) : Result :=
  if (o.status = .paymentCompleted ∨ o.status = .registrationPending ∨
      o.status = .provisionFailed) ∧ o.provisionAttempts < c.maxProvisionAttempts ∧
      o.transferStatus = .none then
    if o.openProviderDomainId.isSome ∧ o.status = .registrationPending then (o.sync a.sync, [])
    else retryProvision others a o
  else (o, [])

/-- `recover_stale_registration_pending` after the provision attempt of a row without an id. -/
def recoverAfterRetry (sync : Option Bool) (r : Result) : Result :=
  if r.1.status = .registrationPending ∨ r.1.status = .paymentCompleted then
    if r.1.openProviderDomainId.isSome then
      ({ r.1 with status := .registrationPending }.sync sync, r.2)
    else (r.1.provisionFailed, r.2)
  else r

/-- `recover_stale_registration_pending` at one row: `aged` says that it is pending too long. -/
def recoverStale (others : Holders) (a : Answers) (aged : Bool) (sync : Option Bool) (o : Order) :
    Result :=
  if (o.status = .registrationPending ∨ o.status = .paymentCompleted) ∧
      o.transferStatus = .none ∧ aged = true then
    if o.openProviderDomainId.isSome then
      if (o.sync sync).status = .active then (o.sync sync, [])
      else ((o.sync sync).provisionFailed, [])
    else recoverAfterRetry sync (retryProvision others a o)
  else (o, [])

/-- `_complete_domain_registration` on the pending order of a cart line. -/
def completeDomainRegistration (others : Holders) (a : Answers) (payment : PaymentId) (o : Order) :
    Result :=
  let o := { o.paidBy payment with
    status := if o.status = .created ∨ o.status = .expired then .paymentCompleted else o.status }
  if o.status = .active then (o, [])
  else (provisionOrder others a o).getD (o.unlessInFlight .provisionFailed, [])

/-- `_provision_pending_orders_for_payment` at one order. -/
def provisionPendingOrder (others : Holders) (a : Answers) (payment : PaymentId) (o : Order) :
    Result :=
  if o.status = .active ∨ (o.status = .registrationPending ∧ o.openProviderDomainId.isSome) then
    (o, [])
  else
    (provisionOrder others a (o.paidBy payment).recovered).getD
      (o.unlessInFlight .provisionFailed, [])

/-! ## Reports of the registrar and of Razorpay -/

/-- How `handle_openprovider_callback` reads the status. -/
inductive CallbackStatus
  | active | failed | other
  deriving Repr, DecidableEq

/-- `handle_openprovider_callback` on the order that holds the id. -/
def openproviderCallback (status : CallbackStatus) (o : Order) : Order :=
  match status with
  | .active => { o with status := .active }
  | .failed => o.provisionFailed
  | .other => o

/-- The event `payment.failed` at one order. -/
def paymentFailed (o : Order) : Order :=
  if o.status = .created then { o with status := .paymentFailed } else o

/-- `expire_stale_orders` at one order. -/
def expireStale (aged : Bool) (o : Order) : Order :=
  if o.status = .created ∧ aged = true then { o with status := .expired } else o

/-- `run_pending_reconcile_batch` at one order. -/
def pendingReconcile (sync : Option Bool) (o : Order) : Order :=
  if o.status = .registrationPending then o.sync sync else o

/-! ## Opening a transfer's checkout once more -/

/-- `create_transfer_payment_order` on an unpaid order that waits for its payment: a fresh Razorpay
order on the same row. -/
def Order.reopened (o : Order) (r : OrderId) : Order := { o with razorpayOrderId := some r }

/-- `retry_transfer_payment` accepts the order (3712-3770). -/
def Order.retryable (o : Order) : Bool :=
  o.isTransfer ∧ (o.status = .created ∨ o.status = .expired ∨ o.status = .paymentFailed) ∧
    o.transferStatus ≠ .pending ∧ o.paid = false ∧ o.transferAuthCode = true

/-- `retry_transfer_payment` mints a Razorpay order. -/
def retryTransferPayment (r : OrderId) (o : Order) : Order :=
  if o.retryable then { o.reopened r with status := .created, transferStatus := .paymentPending }
  else o

/-- `create_transfer_payment_order` finds the row. -/
def reopenTransfer (r : OrderId) (o : Order) : Order :=
  if o.isTransfer ∧ o.paid = false ∧ o.status = .created then o.reopened r else o

/-! ## Visits -/

/-- An entry point at one row, with everything the environment decides. -/
inductive Act
  | verifyAndProvision (paymentId : Option PaymentId) (valid : Bool) (sync : Option Bool)
    (a : Answers)
  | paymentCaptured (payment : PaymentId) (sync : Option Bool) (a : Answers) (t : TransferAnswers)
    (p : Payment)
  /-- `retry_provision` by the buyer. -/
  | retryProvision (a : Answers)
  | adminRetry (a : Answers)
  | runProvisionRetry (a : Answers)
  | recoverStale (a : Answers) (aged : Bool) (sync : Option Bool)
  /-- The verify of the cart, at one of its domains. -/
  | cartVerify (payment : PaymentId) (a : Answers)
  | cartRecover (payment : PaymentId) (a : Answers)
  | pendingReconcile (sync : Option Bool)
  /-- `sync_order`, `get_enriched_order` and the management calls that end in a poll. -/
  | pageSync (sync : Option Bool)
  | callback (status : CallbackStatus)
  | paymentFailed
  | refundProcessed (id : Razorpay.RefundId)
  | adminRefund (net : RefundNetwork) (p : Payment)
  | expireStale (aged : Bool)
  /-- The cancelled checkout of a cart. -/
  | cancelCheckout
  | reopenTransfer (r : OrderId)
  | retryTransferPayment (r : OrderId)
  | verifyTransfer (payment : PaymentId) (valid : Bool) (t : TransferAnswers) (p : Payment)
  | transferReconcile (t : TransferAnswers) (p : Payment)
  | createRenewal (q : PendingRenewal)
  | verifyRenewal (payload : RenewalPayload) (valid : Bool) (a : RenewalAnswers)

/-- The row and the events of a transfer function. -/
def Left.result (left : Left) : Result := (left.order, left.events)

def Act.run (c : Config) (others : Holders) (o : Order) : Act → Result
  | .verifyAndProvision paymentId valid sync a =>
    Storefront.verifyAndProvision others a paymentId valid sync o
  | .paymentCaptured payment sync a t p =>
    (completePaymentFromWebhook c others a t sync o.isTransfer payment p o).result
  | .retryProvision a => Storefront.retryProvision others a o
  | .adminRetry a => Storefront.retryProvision others a o
  | .runProvisionRetry a => Storefront.runProvisionRetry c others a o
  | .recoverStale a aged sync => Storefront.recoverStale others a aged sync o
  | .cartVerify payment a => completeDomainRegistration others a payment o
  | .cartRecover payment a => provisionPendingOrder others a payment o
  | .pendingReconcile sync => (Storefront.pendingReconcile sync o, [])
  | .pageSync sync => (o.sync sync, [])
  | .callback status => (if o.openProviderDomainId.isSome then openproviderCallback status o else o, [])
  | .paymentFailed => (Storefront.paymentFailed o, [])
  | .refundProcessed id => (o.refunded id, [])
  | .adminRefund net p => (Storefront.adminRefund net p o).result
  | .expireStale aged => (Storefront.expireStale aged o, [])
  | .cancelCheckout => (Storefront.expireStale true o, [])
  | .reopenTransfer r => (Storefront.reopenTransfer r o, [])
  | .retryTransferPayment r => (Storefront.retryTransferPayment r o, [])
  | .verifyTransfer payment valid t p => (verifyTransferPayment c t payment valid p o).result
  | .transferReconcile t p => (Storefront.transferReconcile c t p o).result
  | .createRenewal q => (o.withPending q, [])
  | .verifyRenewal payload valid a => verifyRenewalPayment payload valid a o

/-- The visit has verified a payment for the row's Razorpay order: by the signature that the
function checks, by the signed webhook, or by the cart's verify before it. -/
def Act.verifies (o : Order) : Act → Bool
  | .verifyAndProvision paymentId valid _ _ => signatureAccepted paymentId valid o
  | .paymentCaptured _ _ _ _ _ => true
  | .cartVerify _ _ => true
  | .cartRecover _ _ => true
  | .verifyTransfer payment valid _ _ => o.razorpayPaymentId ≠ some payment ∧ valid
  | _ => false

/-! ## The table -/

/-- The table, the Razorpay orders with a verified payment, and what was done outside. -/
structure Desk where
  orders : List Order
  verified : List (Option OrderId)
  log : List Event

inductive Op
  /-- `create_order`, or the pending order of a cart line. -/
  | create (buyerId : UserId) (fqdn : Fqdn) (buyerEmail : Email) (phoneValid : Bool)
    (priceInr : Paise) (r : OrderId)
  /-- An order that comes with its verified payment: a cart line without a pending order, or a
  domain of the marketplace, which is active. -/
  | createPaid (buyerId : UserId) (fqdn : Fqdn) (buyerEmail : Email) (phoneValid : Bool)
    (priceInr : Paise) (r : OrderId) (payment : PaymentId) (active : Bool)
  /-- `create_transfer_payment_order` with a new row. -/
  | createTransfer (buyerId : UserId) (fqdn : Fqdn) (buyerEmail : Email) (phoneValid : Bool)
    (priceInr : Paise) (r : OrderId)
  | visit (id : RegistrationId) (act : Act)

namespace Desk

def empty : Desk := ⟨[], [], []⟩

/-- The orders that hold an id, without the order itself. -/
def holders (w : Desk) (id : RegistrationId) : Holders := fun d =>
  (w.orders.filter fun o => o.openProviderDomainId = some d ∧ o.id ≠ id).map (·.id)

def nextId (w : Desk) : RegistrationId := w.orders.length

def insert (w : Desk) (o : Order) : Desk := { w with orders := w.orders ++ [o] }

/-- A payment for the Razorpay order is verified. -/
def verify (w : Desk) (r : Option OrderId) : Desk := { w with verified := r :: w.verified }

/-- A visit of the order with the id. -/
def visit (c : Config) (w : Desk) (id : RegistrationId) (act : Act) : Desk :=
  match Table.lookup Order.id id w.orders with
  | none => w
  | some o =>
    let r := act.run c (w.holders id) o
    { orders := Table.update Order.id id (fun _ => r.1) w.orders
      verified := if act.verifies o then o.razorpayOrderId :: w.verified else w.verified
      log := w.log ++ r.2 }

def step (c : Config) (w : Desk) : Op → Desk
  | .create buyerId fqdn email phone price r =>
    w.insert (Order.created w.nextId buyerId fqdn email phone price r)
  | .createPaid buyerId fqdn email phone price r payment active =>
    (w.insert { (Order.created w.nextId buyerId fqdn email phone price r).paidBy payment with
      status := if active then .active else .paymentCompleted }).verify (some r)
  | .createTransfer buyerId fqdn email phone price r =>
    w.insert { Order.created w.nextId buyerId fqdn email phone price r with
      transferStatus := .paymentPending, transferAuthCode := true }
  | .visit id act => w.visit c id act

end Desk

/-! ## One row at a time -/

variable {c : Config} {w : Desk} {id : RegistrationId} {act : Act} {o o' failed : Order} {op : Op}
  {others : Holders} {a : Answers} {t : TransferAnswers} {p : Payment} {left : Left}
  {answer : Option Bool} {payload : RenewalPayload} {valid : Bool} {payment : PaymentId}

/-- What a call of `provision_order` comes to, `failed` being what its caller makes of an exception:
it raises, it finds the order active, or it settles the order. -/
theorem provisionOrder_cases (others : Holders) (a : Answers) (o failed : Order) :
    (o.isTransfer = true ∧ (provisionOrder others a o).getD (failed, []) = (failed, [])) ∨
      (o.status = .active ∧ (provisionOrder others a o).getD (failed, []) = (o, [])) ∨
      (o.isTransfer = false ∧ o.status ≠ .active ∧
        Does others a o ((provisionOrder others a o).getD (failed, []))) := by
  cases h : provisionOrder others a o with
  | none =>
    have ht : o.isTransfer = true := by
      by_contra ht
      unfold provisionOrder at h
      rw [if_neg ht] at h
      split_ifs at h
    exact .inl ⟨ht, rfl⟩
  | some r =>
    obtain ⟨ht, ⟨hs, rfl⟩ | ⟨hs, hdoes⟩⟩ := provisionOrder_does h
    · exact .inr (.inl ⟨hs, rfl⟩)
    · exact .inr (.inr ⟨ht, hs, hdoes⟩)

@[simp] theorem id_sync : (o.sync answer).id = o.id := by
  rcases sync_cases_row o answer with heq | ⟨-, -, heq⟩
  · rw [heq]
  · rw [heq]
    rfl

@[simp] theorem id_unlessInFlight {s : RegistrationOrderStatus} :
    (o.unlessInFlight s).id = o.id := by
  unfold Order.unlessInFlight
  split_ifs <;> rfl

/-! ## Writes that keep the domain -/

/-- The row keeps its id, and the id of its domain. -/
structure SameDomain (o o' : Order) : Prop where
  id : o'.id = o.id
  domain : o'.openProviderDomainId = o.openProviderDomainId

theorem SameDomain.refl (o : Order) : SameDomain o o := ⟨rfl, rfl⟩

theorem sync_same : SameDomain o (o.sync answer) := ⟨id_sync, openProviderDomainId_sync⟩

theorem pendingReconcile_same : SameDomain o (pendingReconcile answer o) := by
  unfold pendingReconcile
  split_ifs
  · exact sync_same
  · exact .refl o

theorem openproviderCallback_same {status : CallbackStatus} :
    SameDomain o (openproviderCallback status o) := by
  cases status <;> exact ⟨rfl, rfl⟩

theorem paymentFailed_same : SameDomain o (paymentFailed o) := by
  unfold paymentFailed
  split_ifs <;> exact ⟨rfl, rfl⟩

theorem expireStale_same {aged : Bool} : SameDomain o (expireStale aged o) := by
  unfold expireStale
  split_ifs <;> exact ⟨rfl, rfl⟩

theorem reopenTransfer_same {r : OrderId} : SameDomain o (reopenTransfer r o) := by
  unfold reopenTransfer
  split_ifs <;> exact ⟨rfl, rfl⟩

theorem retryTransferPayment_same {r : OrderId} : SameDomain o (retryTransferPayment r o) := by
  unfold retryTransferPayment
  split_ifs <;> exact ⟨rfl, rfl⟩

theorem adminRefund_same (net : RefundNetwork) (p : Payment) :
    SameDomain o (adminRefund net p o).order := by
  rcases adminRefund_cases net p o with heq | ⟨id, heq⟩ <;> rw [heq]
  · exact .refl o
  · exact ⟨rfl, rfl⟩

theorem verifyRenewalPayment_same {a : RenewalAnswers} :
    SameDomain o (verifyRenewalPayment payload valid a o).1 := by
  unfold verifyRenewalPayment
  split
  · exact .refl o
  · next q hq =>
    split_ifs
    · exact .refl o
    · exact sync_same
    · exact .refl o
    · rcases provisionRenewal_order a (payload.periodYears q) o
        { o with lastRenewalPaymentId := some payload.razorpayPaymentId } with heq | heq <;> rw [heq]
      · exact .refl o
      · exact ⟨id_sync, openProviderDomainId_sync⟩

/-! ## A visit is about the visited order -/

/-- The row keeps its id, and the registrar's calls are made for it. -/
structure Own (id : RegistrationId) (r : Result) : Prop where
  row : r.1.id = id
  calls : ∀ e ∈ r.2, ∀ i, e.calledFor = some i → i = id

theorem Own.write (hid : o.id = id) : Own id (o, []) :=
  ⟨hid, fun _ he => absurd he List.not_mem_nil⟩

theorem Own.refl (o : Order) : Own o.id (o, []) := .write rfl

theorem SameDomain.own (h : SameDomain o o') : Own o.id (o', []) := .write h.id

theorem Does.own {r : Result} (h : Does others a o r) : Own o.id r := by
  obtain ⟨halike, -, hout⟩ := h
  refine ⟨by rw [halike], ?_⟩
  generalize r.2 = es at hout
  intro e he i hi
  cases hout with
  | kept hid => cases he
  | linked d hpaid hothers hid =>
    rw [List.mem_singleton.mp he] at hi
    cases hi
  | registered called hcalled hid =>
    rw [List.mem_singleton.mp he] at hi
    exact (Option.some.inj hi).symm.trans hcalled.id

theorem provisionOrder_own (hid : o.id = id) (hfailed : failed.id = id) :
    Own id ((provisionOrder others a o).getD (failed, [])) := by
  rcases provisionOrder_cases others a o failed with ⟨-, heq⟩ | ⟨-, heq⟩ | ⟨-, -, hdoes⟩
  · rw [heq]
    exact .write hfailed
  · rw [heq]
    exact .write hid
  · rw [← hid]
    exact hdoes.own

theorem verifyAndProvision_own {paymentId : Option PaymentId} :
    Own o.id (verifyAndProvision others a paymentId valid answer o) := by
  unfold verifyAndProvision
  split_ifs
  · exact .refl o
  · exact sync_same.own
  · exact provisionOrder_own rfl rfl
  · unfold checkSignature
    split
    · exact .refl o
    · split_ifs
      · exact .write rfl
      · exact provisionOrder_own rfl rfl

theorem retryProvision_own : Own o.id (retryProvision others a o) := provisionOrder_own rfl rfl

theorem runProvisionRetry_own : Own o.id (runProvisionRetry c others a o) := by
  unfold runProvisionRetry
  split_ifs
  · exact sync_same.own
  · exact retryProvision_own
  · exact .refl o

theorem recoverStale_own {aged : Bool} : Own o.id (recoverStale others a aged answer o) := by
  have hretry : Own o.id (retryProvision others a o) := retryProvision_own
  unfold recoverStale
  split_ifs
  · exact sync_same.own
  · exact .write id_sync
  · unfold recoverAfterRetry
    split_ifs
    · exact ⟨id_sync.trans hretry.row, hretry.calls⟩
    · exact ⟨hretry.row, hretry.calls⟩
    · exact hretry
  · exact .refl o

theorem completeDomainRegistration_own :
    Own o.id (completeDomainRegistration others a payment o) := by
  unfold completeDomainRegistration
  dsimp only
  split_ifs
  · exact .write rfl
  · exact provisionOrder_own rfl id_unlessInFlight
  · exact .write rfl
  · exact provisionOrder_own rfl id_unlessInFlight

theorem provisionPendingOrder_own : Own o.id (provisionPendingOrder others a payment o) := by
  unfold provisionPendingOrder
  split_ifs
  · exact .refl o
  · exact provisionOrder_own rfl id_unlessInFlight

theorem adminRefund_own (net : RefundNetwork) (p : Payment) :
    Own o.id (adminRefund net p o).result := by
  refine ⟨(adminRefund_same net p).id, fun e he i hi => ?_⟩
  have he : e ∈ (adminRefund net p o).events := he
  rcases adminRefund_events net p o with heq | heq
  · rw [heq] at he
    cases he
  · rw [heq] at he
    rw [List.mem_singleton.mp he] at hi
    cases hi

/-- A submission makes its call for the transfer. -/
theorem Submission.own (h : Submission c t p o left) (hid : o.id = id) : Own id left.result := by
  refine ⟨h.sameSale.id.trans hid, ?_⟩
  have hfail : ∀ raw x, ∀ e ∈ (handleTransferProvisionFailure c raw t.net p x).events,
      e.calledFor = none := by
    intro raw x e he
    rw [handleFailure_events c raw t.net p x e he]
    rfl
  intro e (he : e ∈ left.events) i hi
  cases h with
  | untouched h => cases he
  | adopted d h => cases he
  | accepted handle id named hd ht =>
    rw [List.mem_singleton.mp he] at hi
    exact (Option.some.inj hi).symm.trans hid
  | unsent raw hd => cases hi.symm.trans (hfail raw _ e he)
  | refused handle raw hd ht =>
    rcases List.mem_cons.mp he with rfl | he
    · exact (Option.some.inj hi).symm.trans hid
    · cases hi.symm.trans (hfail raw _ e he)

theorem completePaymentFromWebhook_own {isTransfer : Bool} :
    Own o.id (completePaymentFromWebhook c others a t answer isTransfer payment p o).result := by
  unfold completePaymentFromWebhook
  split_ifs
  · exact .refl o
  · exact .refl o
  · exact .write id_sync
  · exact (provisionTransfer_does c t p _).own rfl
  · have hprov : Own o.id ((provisionOrder others a (o.paidBy payment).recovered).getD (o, [])) :=
      provisionOrder_own rfl rfl
    split
    · next o' events heq =>
      rw [heq] at hprov
      exact hprov
    · exact .refl o

theorem verifyTransferPayment_own :
    Own o.id (verifyTransferPayment c t payment valid p o).result := by
  unfold verifyTransferPayment
  split_ifs
  · exact .refl o
  · exact .write rfl
  · exact (provisionTransfer_does c t p _).own rfl

theorem transferReconcile_own : Own o.id (transferReconcile c t p o).result := by
  unfold transferReconcile
  split_ifs
  · exact (provisionTransfer_does c t p o).own rfl
  · exact .refl o

theorem verifyRenewalPayment_own {a : RenewalAnswers} :
    Own o.id (verifyRenewalPayment payload valid a o) := by
  refine ⟨verifyRenewalPayment_same.id, fun e he i hi => ?_⟩
  unfold verifyRenewalPayment at he
  split at he
  · cases he
  · split_ifs at he
    · cases he
    · cases he
    · cases he
    · rw [provisionRenewal_events e he] at hi
      exact (Option.some.inj hi).symm

/-- **A visit is about the visited order.** -/
theorem run_own (c : Config) (others : Holders) (act : Act) (o : Order) :
    Own o.id (act.run c others o) := by
  cases act with
  | verifyAndProvision paymentId valid sync a => exact verifyAndProvision_own
  | paymentCaptured payment sync a t p => exact completePaymentFromWebhook_own
  | retryProvision a => exact retryProvision_own
  | adminRetry a => exact retryProvision_own
  | runProvisionRetry a => exact runProvisionRetry_own
  | recoverStale a aged sync => exact recoverStale_own
  | cartVerify payment a => exact completeDomainRegistration_own
  | cartRecover payment a => exact provisionPendingOrder_own
  | pendingReconcile sync => exact pendingReconcile_same.own
  | pageSync sync => exact sync_same.own
  | callback status =>
    show Own o.id (if o.openProviderDomainId.isSome then _ else o, [])
    split_ifs
    · exact openproviderCallback_same.own
    · exact .refl o
  | paymentFailed => exact paymentFailed_same.own
  | refundProcessed id => exact .write rfl
  | adminRefund net p => exact adminRefund_own net p
  | expireStale aged => exact expireStale_same.own
  | cancelCheckout => exact expireStale_same.own
  | reopenTransfer r => exact reopenTransfer_same.own
  | retryTransferPayment r => exact retryTransferPayment_same.own
  | verifyTransfer payment valid t p => exact verifyTransferPayment_own
  | transferReconcile t p => exact transferReconcile_own
  | createRenewal q => exact .write rfl
  | verifyRenewal payload valid a => exact verifyRenewalPayment_own

/-! ## One visit in the table -/

namespace Desk

/-- The ids are the positions. -/
def Keyed (w : Desk) : Prop := w.orders.map Order.id = List.range w.orders.length

theorem Keyed.nodup (h : w.Keyed) : (w.orders.map Order.id).Nodup := by
  rw [h]
  exact List.nodup_range

theorem Keyed.eq_of_id (h : w.Keyed) (ho : o ∈ w.orders) (ho' : o' ∈ w.orders)
    (hid : o.id = o'.id) :
    o = o' :=
  List.inj_on_of_nodup_map h.nodup ho ho' hid

theorem keyed_insert (h : w.Keyed) (ho : o.id = w.nextId) : (w.insert o).Keyed := by
  unfold Keyed insert
  rw [List.map_append, h, List.map_singleton, ho, List.length_append, List.length_singleton,
    List.range_succ]
  rfl

theorem keyed_visit (h : w.Keyed) : (w.visit c id act).Keyed := by
  unfold visit
  split
  · exact h
  · next o ho =>
    obtain ⟨-, hid⟩ := Table.lookup_eq_some ho
    have hlen : (Table.update Order.id id (fun _ => (act.run c (w.holders id) o).1)
        w.orders).length = w.orders.length := by
      unfold Table.update
      rw [List.length_map]
    have hkey : (act.run c (w.holders id) o).1.id = id := (run_own c (w.holders id) act o).row.trans hid
    unfold Keyed
    rw [hlen, ← h]
    exact Table.map_key_update_const hkey w.orders

theorem keyed_step (h : w.Keyed) : (w.step c op).Keyed := by
  cases op with
  | create buyerId fqdn email phone price r => exact keyed_insert h rfl
  | createPaid buyerId fqdn email phone price r payment active => exact keyed_insert h rfl
  | createTransfer buyerId fqdn email phone price r => exact keyed_insert h rfl
  | visit id act => exact keyed_visit h

theorem keyed_empty : empty.Keyed := rfl

theorem visit_of_lookup (ho : Table.lookup Order.id id w.orders = some o) :
    w.visit c id act =
      { orders := Table.update Order.id id (fun _ => (act.run c (w.holders id) o).1) w.orders
        verified := if act.verifies o then o.razorpayOrderId :: w.verified else w.verified
        log := w.log ++ (act.run c (w.holders id) o).2 } := by
  unfold visit
  rw [ho]

theorem visit_of_absent (ho : Table.lookup Order.id id w.orders = none) : w.visit c id act = w := by
  unfold visit
  rw [ho]

theorem holders_eq_nil {d : ProviderDomainId} (h : w.holders id d = []) (ho : o ∈ w.orders)
    (hd : o.openProviderDomainId = some d) : o.id = id := by
  by_contra hne
  have hmem : o.id ∈ w.holders id d :=
    List.mem_map_of_mem (List.mem_filter.mpr ⟨ho, by simp [hd, hne]⟩)
  rw [h] at hmem
  cases hmem

end Desk

end Deltapreneur.Storefront
