import Deltapreneur.Storefront.Desk

/-!
# Transfers away from the platform

Model of `retrieve_auth_code_and_unlock` (`app/service/domain/domain_registration_service.py:5084-5281`)
and of `get_active_transfer_by_buyer_and_domain`
(`app/repository/domain_registration_order_repository.py:131-157`), next to everything else that
happens to an order.

* `Counter.transferIn` are the rows that `create_transfer_payment_order` has created; the notes
  of their Razorpay orders say `domain_transfer`, and those of no other do.
* The status of the row is compared as `str(order.status)`, which carries the name of the
  enumeration, so the comparison never bars a row (`statusText_not_barred`).
* Rows of the demo registrar are left out.

Results:

* `transferOut_iff`: in a run, the states of a transfer are found on transfers to the platform only,
  and a request for the code of a registered domain leaves alone what the others make of the order,
  exactly when no such request is granted.
* A request that is granted turns the order into a transfer for `provision_order`, for the polls and
  for `get_active_transfer_by_buyer_and_domain`, and bars the next one
  (`registered_completes_transfer`).
-/

namespace Deltapreneur.Storefront

open Registration (RegistrationOrderStatus RegistrationId)
open Run

/-! ## `retrieve_auth_code_and_unlock` -/

/-- The registrar's answers during one call; `none` is a call that raises. -/
structure CodeAnswers where
  /-- The domain's status at the registrar is one of the four that bar a transfer. -/
  barred : Option Bool
  /-- `get_auth_code` gives a code that is not blank. -/
  authCode : Option Bool
  /-- `reset_auth_code`, when that raises. -/
  resetCode : Option Bool
  /-- `set_domain_locked` returns. -/
  unlocked : Bool
  /-- `is_locked` of the read-back. -/
  locked : Option Bool
  deriving DecidableEq

/-- Why a request is refused. -/
inductive CodeRefusal
  | notFound | inProgress | statusBars | notProvisioned | notConfigured | registrarBars | unverified
  | noCode | notUnlocked | stillLocked | lockUnknown
  deriving Repr, DecidableEq

def CodeRefusal.statusCode : CodeRefusal → Nat
  | .notFound => 404
  | .inProgress => 409
  | .statusBars | .notProvisioned | .notConfigured | .registrarBars => 400
  | .unverified | .noCode | .notUnlocked | .stillLocked | .lockUnknown => 502

/-- `str(order.status).upper()`. -/
def statusText (s : RegistrationOrderStatus) : String :=
  "REGISTRATIONORDERSTATUS." ++ match s with
    | .created => "CREATED"
    | .paymentCompleted => "PAYMENT_COMPLETED"
    | .registrationPending => "REGISTRATION_PENDING"
    | .active => "ACTIVE"
    | .paymentFailed => "PAYMENT_FAILED"
    | .expired => "EXPIRED"
    | .failed => "FAILED"
    | .provisionFailed => "PROVISION_FAILED"
    | .refunded => "REFUNDED"

/-- `non_transferable_statuses`. -/
def nonTransferableStatuses : List String :=
  ["EXPIRED", "REDEMPTION", "CANCELLED", "DELETED", "FAILED", "PROVISION_FAILED", "PAYMENT_FAILED",
    "REFUNDED"]

theorem statusText_not_barred (s : RegistrationOrderStatus) :
    statusText s ∉ nonTransferableStatuses ∧ statusText s ≠ "CREATED" := by
  cases s <;> decide

/-- The second check: no transfer is in progress. -/
def Order.requestable (o : Order) : Bool :=
  o.transferStatus = .none ∨ o.transferStatus = .failed

/-- A code is found, if need be by resetting it. -/
def CodeAnswers.code (a : CodeAnswers) : Bool := a.authCode.getD (a.resetCode.getD false)

def Order.codeStored (o : Order) : Order :=
  { o with transferAuthCode := true, transferStatus := .authCodeAvailable }

/-- `retrieve_auth_code_and_unlock` from its second check on. -/
def retrieveAuthCodeAndUnlock (a : CodeAnswers) (o : Order) : Except CodeRefusal Order :=
  if o.requestable = false then .error .inProgress
  else if statusText o.status ∈ nonTransferableStatuses then .error .statusBars
  else if statusText o.status = "CREATED" ∧ o.openProviderDomainId = none then
    .error .notProvisioned
  else if o.openProviderDomainId = none then .error .notConfigured
  else match a.barred with
    | none => .error .unverified
    | some true => .error .registrarBars
    | some false =>
      if a.code = false then .error .noCode
      else if a.unlocked = false then .error .notUnlocked
      else match a.locked with
        | none => .error .lockUnknown
        | some true => .error .stillLocked
        | some false => .ok o.codeStored

/-! ## The table -/

/-- `get_active_transfer_by_buyer_and_domain`. -/
def getActiveTransferByBuyerAndDomain (orders : List Order) (buyerId : UserId) (fqdn : Fqdn) :
    Option Order :=
  orders.reverse.find? fun o =>
    o.buyerId = buyerId ∧ o.fqdn = fqdn ∧ o.isTransfer = true ∧ o.status ≠ .refunded

/-- The table and its log, and the rows that are transfers to the platform. -/
structure Counter where
  desk : Desk
  transferIn : List RegistrationId

inductive CounterOp
  | desk (op : Op)
  /-- `retrieve_auth_code_and_unlock`. -/
  | retrieve (buyerId : UserId) (fqdn : Fqdn) (a : CodeAnswers)

/-- A visit of a row; `transferIn` is what the notes of its Razorpay order say. -/
def Act.runNoted (c : Config) (others : Holders) (transferIn : Bool) (o : Order) : Act → Result
  | .paymentCaptured payment sync a t p =>
    (completePaymentFromWebhook c others a t sync transferIn payment p o).result
  | act => act.run c others o

namespace Counter

def empty : Counter := ⟨.empty, []⟩

/-- The order of a request for the code: the buyer's latest one with the name. -/
def latest (w : Counter) (buyerId : UserId) (fqdn : Fqdn) : Option Order :=
  w.desk.orders.reverse.find? fun o => o.buyerId = buyerId ∧ o.fqdn = fqdn

/-- One row is written. -/
def write (w : Counter) (o : Order) : Counter :=
  { w with desk := { w.desk with orders := Table.update Order.id o.id (fun _ => o) w.desk.orders } }

def visit (c : Config) (w : Counter) (id : RegistrationId) (act : Act) : Counter :=
  match Table.lookup Order.id id w.desk.orders with
  | none => w
  | some o =>
    let r := act.runNoted c (w.desk.holders id) (w.transferIn.contains id) o
    { w with desk :=
      { orders := Table.update Order.id id (fun _ => r.1) w.desk.orders
        verified := if act.verifies o then o.razorpayOrderId :: w.desk.verified else w.desk.verified
        log := w.desk.log ++ r.2 } }

/-- `retrieve_auth_code_and_unlock`: the row it leaves. -/
def request (w : Counter) (buyerId : UserId) (fqdn : Fqdn) (a : CodeAnswers) :
    Except CodeRefusal Order :=
  match w.latest buyerId fqdn with
  | none => .error .notFound
  | some o => retrieveAuthCodeAndUnlock a o

def retrieve (w : Counter) (buyerId : UserId) (fqdn : Fqdn) (a : CodeAnswers) : Counter :=
  match w.request buyerId fqdn a with
  | .error _ => w
  | .ok o => w.write o

def step (c : Config) (w : Counter) : CounterOp → Counter
  | .desk (.visit id act) => w.visit c id act
  | .desk (.createTransfer buyerId fqdn email phone price r) =>
    { desk := w.desk.step c (.createTransfer buyerId fqdn email phone price r)
      transferIn := w.desk.nextId :: w.transferIn }
  | .desk op => { w with desk := w.desk.step c op }
  | .retrieve buyerId fqdn a => w.retrieve buyerId fqdn a

/-! ## The property -/

/-- The states of a transfer to the platform are found on such transfers only. -/
def Separate (w : Counter) : Prop :=
  ∀ o ∈ w.desk.orders, o.transferStatus = .paymentPending ∨ o.transferStatus = .pending ∨
    o.transferStatus = .completed ∨ o.transferStatus = .failed → o.id ∈ w.transferIn

end Counter

/-- The row without what a request for the code writes. -/
def Order.apart (o : Order) : Order := { o with transferAuthCode := false, transferStatus := .none }

def Event.apart : Event → Event
  | .register o reply => .register o.apart reply
  | .transfer o reply => .transfer o.apart reply
  | .renew o years => .renew o.apart years
  | e => e

/-- A request for the code that leaves `o'` of `o` changes neither what `provision_order` and
`sync_from_registrar` make of the order nor whether the code can be requested. -/
structure TreatedAlike (o o' : Order) : Prop where
  provision : ∀ others a,
    (provisionOrder others a o').map (fun r => (r.1.apart, r.2.map Event.apart)) =
      (provisionOrder others a o).map fun r => (r.1.apart, r.2.map Event.apart)
  sync : ∀ answer, o'.sync answer = { o.sync answer with
    transferAuthCode := o'.transferAuthCode
    transferStatus := o'.transferStatus }
  requestable : o.requestable = true → o'.requestable = true

/-- A request for the code of a registered domain leaves alone what the others make of the order,
the search for an active transfer included. -/
def Counter.Undisturbed (w : Counter) (op : CounterOp) (w' : Counter) : Prop :=
  match op with
  | .desk _ => True
  | .retrieve buyerId fqdn _ => ∀ o ∈ w.latest buyerId fqdn, o.id ∉ w.transferIn →
      (∃ o' ∈ Table.lookup Order.id o.id w'.desk.orders, TreatedAlike o o') ∧
        ∀ buyer name, (getActiveTransferByBuyerAndDomain w'.desk.orders buyer name).map Order.id =
          (getActiveTransferByBuyerAndDomain w.desk.orders buyer name).map Order.id

/-- The registrar gives the code of the domain and unlocks it. -/
def CodeAnswers.grants (a : CodeAnswers) : Bool :=
  a.barred = some false ∧ a.code = true ∧ a.unlocked = true ∧ a.locked = some false

/-- No request for the code of a registered domain is granted: the order has no domain at the
registrar, or the registrar does not go along. -/
def Counter.Withheld (w : Counter) : CounterOp → Prop
  | .desk _ => True
  | .retrieve buyerId fqdn a => ∀ o ∈ w.latest buyerId fqdn, o.id ∉ w.transferIn →
      o.openProviderDomainId = none ∨ a.grants = false

/-! ## Requests -/

variable {c : Config} {others : Holders} {o o' failed : Order} {a : Answers} {answer : Option Bool}
  {act : Act} {w : Counter} {op : CounterOp} {r : Result} {valid : Bool}
  {payment : PaymentId} {t : TransferAnswers} {p : Razorpay.Payment}

/-- **When a request is granted.** The row's own status plays no part. -/
theorem retrieve_ok {a : CodeAnswers} : retrieveAuthCodeAndUnlock a o = .ok o' ↔
    o.requestable = true ∧ o.openProviderDomainId ≠ none ∧ a.grants = true ∧ o' = o.codeStored := by
  obtain ⟨hbars, hcreated⟩ := statusText_not_barred o.status
  have hcreated' : ¬ (statusText o.status = "CREATED" ∧ o.openProviderDomainId = none) :=
    fun h => hcreated h.1
  unfold retrieveAuthCodeAndUnlock CodeAnswers.grants
  by_cases hrequest : o.requestable = true
  · rw [if_neg (by simp [hrequest]), if_neg hbars, if_neg hcreated']
    by_cases hid : o.openProviderDomainId = none
    · simp [hid]
    · rw [if_neg hid]
      cases hbarred : a.barred with
      | none => simp
      | some barred =>
        cases barred with
        | true => simp
        | false =>
          cases hcode : a.code with
          | false => simp
          | true =>
            cases hunlocked : a.unlocked with
            | false => simp
            | true =>
              cases hlocked : a.locked with
              | none => simp
              | some locked => cases locked <;> simp [hrequest, hid, eq_comm]
  · simp [hrequest]

theorem TreatedAlike.refl (h : o.isTransfer = false) : TreatedAlike o o := by
  refine ⟨fun _ _ => rfl, fun answer => ?_, id⟩
  have hnone : o.transferStatus = .none := by simpa [Order.isTransfer] using h
  rcases sync_cases_row o answer with heq | ⟨-, -, heq⟩
  · rw [heq]
  · rw [heq]
    simp [Order.confirm, h, hnone]

/-- A granted request is not without effect: the next poll that confirms the domain completes a
transfer. -/
theorem not_treatedAlike_codeStored (hid : o.openProviderDomainId ≠ none) :
    ¬ TreatedAlike o o.codeStored := by
  intro h
  have hsync := congrArg Order.transferStatus (h.sync (some true))
  have hsome : o.codeStored.openProviderDomainId.isSome = true := by
    simpa [Order.codeStored, Option.isSome_iff_ne_none] using hid
  rw [Order.sync, if_pos ⟨hsome, rfl⟩] at hsync
  cases hsync

/-! ## Registrations stay registrations -/

/-- A registration: no transfer, and no code. -/
def Order.Registration (o : Order) : Prop := o.isTransfer = false ∧ o.transferAuthCode = false

theorem Order.Registration.write (h : o.Registration) (hstatus : o'.transferStatus = o.transferStatus)
    (hcode : o'.transferAuthCode = o.transferAuthCode) : o'.Registration := by
  refine ⟨?_, hcode.trans h.2⟩
  unfold Order.isTransfer
  rw [hstatus]
  exact h.1

theorem Order.Registration.sync (h : o.Registration) : (o.sync answer).Registration := by
  refine ⟨?_, transferAuthCode_sync.trans h.2⟩
  rcases sync_cases_row o answer with heq | ⟨-, -, heq⟩
  · rw [heq]
    exact h.1
  · rw [heq, Order.isTransfer, Order.confirm, if_neg (by simp [h.1])]
    rfl

theorem Does.registration (h : Does others a o r) (ho : o.Registration) : r.1.Registration := by
  have halike := h.alike
  unfold Alike at halike
  refine ho.write ?_ ?_
  · rw [halike]
  · rw [halike]

theorem provisionOrder_registration (h : o.Registration) (hfailed : failed.Registration) :
    ((provisionOrder others a o).getD (failed, [])).1.Registration := by
  rcases provisionOrder_cases others a o failed with ⟨-, heq⟩ | ⟨-, heq⟩ | ⟨-, -, hdoes⟩
  · rwa [heq]
  · rwa [heq]
  · exact hdoes.registration h

theorem retryProvision_registration (h : o.Registration) :
    (retryProvision others a o).1.Registration :=
  provisionOrder_registration h h

theorem provisionFailed_registration (h : o.Registration) : o.provisionFailed.Registration :=
  h.write rfl rfl

theorem unlessInFlight_registration (h : o.Registration) {status : RegistrationOrderStatus} :
    (o.unlessInFlight status).Registration := by
  unfold Order.unlessInFlight
  split_ifs
  · exact h
  · exact h.write rfl rfl

theorem verifyAndProvision_registration (h : o.Registration) {paymentId : Option PaymentId} :
    (verifyAndProvision others a paymentId valid answer o).1.Registration := by
  have hprovision : ∀ x : Order, x.Registration → (provisionOrFail others a x).1.Registration :=
    fun x hx => provisionOrder_registration hx (provisionFailed_registration hx)
  unfold verifyAndProvision
  split_ifs
  · exact h
  · exact h.sync
  · exact hprovision o h
  · unfold checkSignature
    split
    · exact h
    · split_ifs
      · exact h.write rfl rfl
      · exact hprovision _ (h.write rfl rfl)

theorem runProvisionRetry_registration (h : o.Registration) :
    (runProvisionRetry c others a o).1.Registration := by
  unfold runProvisionRetry
  split_ifs
  · exact h.sync
  · exact retryProvision_registration h
  · exact h

theorem recoverStale_registration (h : o.Registration) {aged : Bool} :
    (recoverStale others a aged answer o).1.Registration := by
  have hretry : (retryProvision others a o).1.Registration := retryProvision_registration h
  unfold recoverStale
  split_ifs
  · exact h.sync
  · exact provisionFailed_registration h.sync
  · unfold recoverAfterRetry
    split_ifs
    · exact Order.Registration.sync (hretry.write rfl rfl)
    · exact provisionFailed_registration hretry
    · exact hretry
  · exact h

theorem completeDomainRegistration_registration (h : o.Registration) :
    (completeDomainRegistration others a payment o).1.Registration := by
  unfold completeDomainRegistration
  generalize hx : ({ o.paidBy payment with status := _ } : Order) = x
  have hx' : x.Registration := by
    rw [← hx]
    exact h.write rfl rfl
  dsimp only
  split_ifs
  · exact hx'
  · exact provisionOrder_registration hx' (unlessInFlight_registration hx')

theorem provisionPendingOrder_registration (h : o.Registration) :
    (provisionPendingOrder others a payment o).1.Registration := by
  unfold provisionPendingOrder
  split_ifs
  · exact h
  · exact provisionOrder_registration (h.write rfl rfl) (unlessInFlight_registration h)

theorem completePaymentFromWebhook_registration (h : o.Registration) :
    (completePaymentFromWebhook c others a t answer false payment p o).order.Registration := by
  have hpaid : (o.paidBy payment).Registration := h.write rfl rfl
  have hprovision : ((provisionOrder others a (o.paidBy payment).recovered).getD
      (o, [])).1.Registration := provisionOrder_registration (hpaid.write rfl rfl) h
  unfold completePaymentFromWebhook
  split_ifs with hdone hother hreconcile htransfer
  · exact h
  · exact h
  · exact hpaid.sync
  · exact htransfer.elim
  · split
    · next o' events heq =>
      rw [heq] at hprovision
      exact hprovision
    · exact h

theorem provisionTransfer_uncoded (h : o.transferAuthCode = false) :
    provisionTransfer c t p o = ⟨o, p, []⟩ := by
  unfold provisionTransfer
  rw [if_pos h]

theorem verifyTransferPayment_registration (h : o.Registration) :
    (verifyTransferPayment c t payment valid p o).order.Registration := by
  unfold verifyTransferPayment
  split_ifs
  · exact h
  · exact h.write rfl rfl
  · have hpaid : Order.Registration { o.paidBy payment with status := .paymentCompleted } :=
      h.write rfl rfl
    rw [provisionTransfer_uncoded hpaid.2]
    exact hpaid

theorem transferReconcile_registration (h : o.Registration) :
    (transferReconcile c t p o).order.Registration := by
  have hnone : o.transferStatus = .none := by simpa [Order.isTransfer] using h.1
  unfold transferReconcile
  rw [if_neg fun hc => absurd (hnone.symm.trans hc.2.1) (by simp)]
  exact h

theorem adminRefund_registration (h : o.Registration) (net : Razorpay.RefundNetwork)
    (p : Razorpay.Payment) : (adminRefund net p o).order.Registration := by
  rcases adminRefund_cases net p o with heq | ⟨id, heq⟩
  · rwa [heq]
  · rw [heq]
    exact h.write rfl rfl

theorem verifyRenewalPayment_registration (h : o.Registration) {payload : RenewalPayload}
    {a : RenewalAnswers} : (verifyRenewalPayment payload valid a o).1.Registration := by
  unfold verifyRenewalPayment
  split
  · exact h
  · next q hq =>
    split_ifs
    · exact h
    · exact h.sync
    · exact h
    · rcases provisionRenewal_order a (payload.periodYears q) o
        { o with lastRenewalPaymentId := some payload.razorpayPaymentId } with heq | heq
      · rwa [heq]
      · rw [heq]
        exact Order.Registration.sync (h.write rfl rfl)

/-- **No visit makes a registration a transfer.** -/
theorem runNoted_registration (h : o.Registration) (act : Act) :
    (act.runNoted c others false o).1.Registration := by
  have hnot : ¬ o.isTransfer = true := by simp [h.1]
  cases act with
  | verifyAndProvision paymentId valid sync a => exact verifyAndProvision_registration h
  | paymentCaptured payment sync a t p => exact completePaymentFromWebhook_registration h
  | retryProvision a => exact retryProvision_registration h
  | adminRetry a => exact retryProvision_registration h
  | runProvisionRetry a => exact runProvisionRetry_registration h
  | recoverStale a aged sync => exact recoverStale_registration h
  | cartVerify payment a => exact completeDomainRegistration_registration h
  | cartRecover payment a => exact provisionPendingOrder_registration h
  | pendingReconcile sync =>
    show (pendingReconcile sync o).Registration
    unfold pendingReconcile
    split_ifs
    · exact h.sync
    · exact h
  | pageSync sync => exact h.sync
  | callback status =>
    show (if o.openProviderDomainId.isSome then openproviderCallback status o else o).Registration
    split_ifs
    · cases status
      · exact h.write rfl rfl
      · exact h.write rfl rfl
      · exact h
    · exact h
  | paymentFailed =>
    show (paymentFailed o).Registration
    unfold paymentFailed
    split_ifs
    · exact h.write rfl rfl
    · exact h
  | refundProcessed id => exact h.write rfl rfl
  | adminRefund net p => exact adminRefund_registration h net p
  | expireStale aged =>
    show (expireStale aged o).Registration
    unfold expireStale
    split_ifs
    · exact h.write rfl rfl
    · exact h
  | cancelCheckout =>
    show (expireStale true o).Registration
    unfold expireStale
    split_ifs
    · exact h.write rfl rfl
    · exact h
  | reopenTransfer r =>
    show (reopenTransfer r o).Registration
    unfold reopenTransfer
    rw [if_neg fun hc => hnot hc.1]
    exact h
  | retryTransferPayment r =>
    show (retryTransferPayment r o).Registration
    unfold retryTransferPayment Order.retryable
    rw [if_neg (by simp [h.1])]
    exact h
  | verifyTransfer payment valid t p => exact verifyTransferPayment_registration h
  | transferReconcile t p => exact transferReconcile_registration h
  | createRenewal q => exact h.write rfl rfl
  | verifyRenewal payload valid a => exact verifyRenewalPayment_registration h

/-! ## Runs -/

namespace Counter

/-- The ids are positions, and what is no transfer to the platform is a registration. -/
structure Apart (w : Counter) : Prop where
  keyed : w.desk.Keyed
  registration : ∀ o ∈ w.desk.orders, o.id ∉ w.transferIn → o.Registration

variable {id : RegistrationId} {verified : List (Option OrderId)}

theorem Apart.separate (h : w.Apart) : w.Separate := by
  intro o ho hstatus
  by_contra hid
  have hnone : o.transferStatus = .none := by
    simpa [Order.isTransfer] using (h.registration o ho hid).1
  rw [hnone] at hstatus
  exact absurd hstatus (by simp)

theorem Apart.insert (h : w.Apart) (ho : o.id = w.desk.nextId) {transferIn : List RegistrationId}
    {log : List Event} (hsub : w.transferIn ⊆ transferIn)
    (hnew : o.id ∉ transferIn → o.Registration) :
    Apart ⟨⟨w.desk.orders ++ [o], verified, log⟩, transferIn⟩ := by
  refine ⟨Desk.keyed_insert h.keyed ho, fun x hx hid => ?_⟩
  rcases List.mem_append.mp hx with hx | hx
  · exact h.registration x hx fun hmem => hid (hsub hmem)
  · obtain rfl := List.mem_singleton.mp hx
    exact hnew hid

theorem keyed_update (h : w.desk.Keyed) (ho : o.id = id) :
    (Table.update Order.id id (fun _ => o) w.desk.orders).map Order.id =
      List.range (Table.update Order.id id (fun _ => o) w.desk.orders).length := by
  rw [Table.map_key_update_const ho w.desk.orders, h, Table.update, List.length_map]

theorem Apart.update (h : w.Apart) (ho : o.id = id) (hnew : id ∉ w.transferIn → o.Registration)
    {log : List Event} :
    Apart ⟨⟨Table.update Order.id id (fun _ => o) w.desk.orders, verified, log⟩, w.transferIn⟩ := by
  refine ⟨keyed_update h.keyed ho, fun x hx hid => ?_⟩
  obtain ⟨y, hy, heq⟩ := List.mem_map.mp hx
  by_cases hyid : y.id = id
  · rw [if_pos hyid] at heq
    rw [← heq] at hid ⊢
    exact hnew fun hmem => hid (ho ▸ hmem)
  · rw [if_neg hyid] at heq
    exact h.registration x (heq ▸ hy) hid

theorem Apart.visit (h : w.Apart) (c : Config) (id : RegistrationId) (act : Act) :
    (w.visit c id act).Apart := by
  unfold Counter.visit
  cases ho : Table.lookup Order.id id w.desk.orders with
  | none => exact h
  | some o =>
    obtain ⟨hmem, hid⟩ := Table.lookup_eq_some ho
    dsimp only
    refine h.update ?_ fun hout => ?_
    · rw [← hid]
      cases act with
      | paymentCaptured payment sync a t p => exact completePaymentFromWebhook_own.row
      | _ => exact (run_own c _ _ o).row
    · rw [show w.transferIn.contains id = false by simpa using hout]
      exact runNoted_registration (h.registration o hmem (hid ▸ hout)) act

theorem latest_mem {buyerId : UserId} {fqdn : Fqdn} (h : w.latest buyerId fqdn = some o) :
    o ∈ w.desk.orders :=
  List.mem_reverse.mp (List.mem_of_find?_eq_some h)

theorem retrieve_does (w : Counter) (buyerId : UserId) (fqdn : Fqdn) (a : CodeAnswers) :
    w.retrieve buyerId fqdn a = w ∨ ∃ o, w.latest buyerId fqdn = some o ∧
      o.openProviderDomainId ≠ none ∧ a.grants = true ∧
        w.retrieve buyerId fqdn a = w.write o.codeStored := by
  unfold retrieve request
  cases ho : w.latest buyerId fqdn with
  | none => exact .inl rfl
  | some o =>
    dsimp only
    cases hr : retrieveAuthCodeAndUnlock a o with
    | error e => exact .inl rfl
    | ok o' =>
      obtain ⟨-, hid, hgrants, rfl⟩ := retrieve_ok.mp hr
      exact .inr ⟨o, rfl, hid, hgrants, rfl⟩

theorem apart_step (c : Config) (w : Counter) (op : CounterOp) (h : w.Apart) (hop : w.Withheld op) :
    (w.step c op).Apart := by
  cases op with
  | desk op =>
    cases op with
    | create buyerId fqdn email phone price r =>
      refine h.insert ?_ (List.Subset.refl _) fun _ => ?_
      · rfl
      · exact ⟨rfl, rfl⟩
    | createPaid buyerId fqdn email phone price r payment active =>
      refine h.insert ?_ (List.Subset.refl _) fun _ => ?_
      · rfl
      · exact ⟨rfl, rfl⟩
    | createTransfer buyerId fqdn email phone price r =>
      refine h.insert ?_ (List.subset_cons_self _ _) fun hid => ?_
      · rfl
      · exact absurd List.mem_cons_self hid
    | visit id act => exact h.visit c id act
  | retrieve buyerId fqdn a =>
    show (w.retrieve buyerId fqdn a).Apart
    rcases w.retrieve_does buyerId fqdn a with heq | ⟨o, ho, hid, hgrants, heq⟩
    · rw [heq]
      exact h
    · rw [heq]
      refine h.update rfl fun hout => ?_
      rcases hop o ho hout with hnone | hrefused
      · exact absurd hnone hid
      · exact absurd hgrants (by simp [hrefused])

/-- **The request is without effect exactly when it is withheld.** -/
theorem undisturbed_iff (c : Config) (w : Counter) (op : CounterOp) (h : w.Apart) :
    w.Undisturbed op (w.step c op) ↔ w.Withheld op := by
  cases op with
  | desk op => exact Iff.rfl
  | retrieve buyerId fqdn a =>
    constructor
    · intro hu o ho hout
      by_contra hgranted
      obtain ⟨hid, hgrants⟩ := not_or.mp hgranted
      have hreg := h.registration o (latest_mem ho) hout
      have hrequest : o.requestable = true := by
        have hnone : o.transferStatus = .none := by simpa [Order.isTransfer] using hreg.1
        simp [Order.requestable, hnone]
      have hok := retrieve_ok.mpr ⟨hrequest, hid, by simpa using hgrants, rfl⟩
      have hstep : w.step c (.retrieve buyerId fqdn a) = w.write o.codeStored := by
        simp only [step, retrieve, request, Option.mem_def.mp ho, hok]
      obtain ⟨⟨o', ho', halike⟩, -⟩ := hu o ho hout
      rw [hstep] at ho'
      have hrow : Table.lookup Order.id o.id (w.write o.codeStored).desk.orders =
          some o.codeStored := by
        have hnodup : ((w.write o.codeStored).desk.orders.map Order.id).Nodup :=
          keyed_update (o := o.codeStored) h.keyed rfl ▸ List.nodup_range
        exact Table.lookup_of_mem hnodup (List.mem_map.mpr ⟨o, latest_mem ho, if_pos rfl⟩)
      obtain rfl : o.codeStored = o' := Option.some.inj (hrow.symm.trans ho')
      exact not_treatedAlike_codeStored hid halike
    · intro hw o ho hout
      have hreg := h.registration o (latest_mem ho) hout
      have hstep : w.step c (.retrieve buyerId fqdn a) = w := by
        rcases w.retrieve_does buyerId fqdn a with heq | ⟨x, hx, hid, hgrants, -⟩
        · exact heq
        · obtain rfl : o = x := Option.some.inj (ho.symm.trans hx)
          rcases hw o ho hout with hnone | hrefused
          · exact absurd hnone hid
          · exact absurd hgrants (by simp [hrefused])
      rw [hstep]
      exact ⟨⟨o, Table.lookup_of_mem h.keyed.nodup (latest_mem ho), .refl hreg.1⟩, fun _ _ => rfl⟩

theorem apart_empty : empty.Apart := ⟨Desk.keyed_empty, fun _ ho => absurd ho List.not_mem_nil⟩

end Counter

/-- **Transfers to the platform keep to themselves**, and a request for the code of a registered
domain is without effect on what the others make of the order, exactly in the runs in which every
such request is withheld. -/
theorem transferOut_iff (c : Config) (ops : List CounterOp) :
    ((∀ pre, pre <+: ops → (exec (Counter.step c) .empty pre).Separate) ∧
        AllSteps (Counter.step c) Counter.Undisturbed .empty ops) ↔
      Meets (Counter.step c) Counter.Withheld .empty ops := by
  have hiff := allSteps_iff_of_inv (Counter.apart_step c) (Counter.undisturbed_iff c) ops
    Counter.apart_empty
  refine ⟨fun h => hiff.mp h.2, fun h => ⟨fun pre hpre => ?_, hiff.mpr h⟩⟩
  obtain ⟨post, rfl⟩ := hpre
  have hmeets := ((meets_append _ _ _).mp h).1
  exact (exec_inv (Counter.apart_step c) Counter.apart_empty hmeets).separate

/-- A domain is registered, its owner requests the code, and the next poll finds a transfer
completed. -/
theorem registered_completes_transfer :
    ¬ ∀ c ops, (∀ pre, pre <+: ops → (exec (Counter.step c) .empty pre).Separate) ∧
      AllSteps (Counter.step c) Counter.Undisturbed .empty ops := by
  intro h
  have hsep := (h .ascii
    [.desk (.createPaid 1 0 0 true 100 7 3 false), .desk (.visit 0 (.retryProvision (.registers 5 true))),
      .retrieve 1 0 ⟨some false, some true, none, true, some false⟩,
      .desk (.visit 0 (.pageSync (some true)))]).1 _ (List.prefix_refl _)
  unfold Counter.Separate at hsep
  revert hsep
  decide

end Deltapreneur.Storefront
