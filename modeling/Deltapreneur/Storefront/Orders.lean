import Deltapreneur.Razorpay
import Deltapreneur.Registration.InvoiceLedger

/-!
# Orders of the domain storefront

The data of `app/service/domain/domain_registration_service.py` and the two functions every path
shares: `decide_provider_link` (`provider_domain_correlation.py:102-179`) and
`sync_from_registrar` (`domain_registration_followup.py:356-465`).

* `Order` is a row of `domain_registration_orders`: registrations, and transfers to the platform,
  which are the rows with a `transfer_status` other than `NONE`.
* The registrar is configured. Its answers come with each call; `none` is an answer that did not
  arrive. A row of the former registrar, which `sync_from_registrar` skips, is one for which
  nothing arrives.
* `CallReply` is what becomes of a request to create a domain at the registrar: a request may
  be accepted and its answer lost (`lost`).
* `Event` lists what a call does outside the database.
* Names, e-mail addresses and handles are compared after `strip` and `lower`, so they are numbers.

Results:

* `belongs_reconcile`: an id is linked only to a paid order and only if no other order holds it.
* `sync_cases`: what a poll of the registrar does to a row.
-/

namespace Deltapreneur.Storefront

open Registration (RegistrationOrderStatus RegistrationId)

abbrev Fqdn := Nat
abbrev Email := Nat
/-- A contact of the registrar (`open_provider_handle`). -/
abbrev Handle := Nat
abbrev ProviderDomainId := Nat
abbrev Text := List Char

/-! ## The row -/

/-- `transfer_status`. The last one is set for a transfer away from the platform. -/
inductive TransferStatus
  | none | paymentPending | pending | completed | failed | authCodeAvailable
  deriving Repr, DecidableEq

/-- The columns `pending_renewal_*`, which are set and cleared together. -/
structure PendingRenewal where
  razorpayOrderId : OrderId
  years : Int
  amountInr : Paise
  deriving Repr, DecidableEq

/-- A row of `domain_registration_orders`. -/
structure Order where
  id : RegistrationId
  buyerId : UserId
  fqdn : Fqdn
  buyerEmail : Email
  /-- `buyer_phone` has ten digits. -/
  phoneValid : Bool
  priceInr : Paise
  status : RegistrationOrderStatus
  transferStatus : TransferStatus
  /-- `transfer_auth_code` is not blank. -/
  transferAuthCode : Bool
  razorpayOrderId : Option OrderId
  razorpayPaymentId : Option PaymentId
  razorpayRefundId : Option Razorpay.RefundId
  openProviderHandle : Option Handle
  openProviderDomainId : Option ProviderDomainId
  provisionAttempts : Nat
  pendingRenewal : Option PendingRenewal
  lastRenewalPaymentId : Option PaymentId
  renewalCount : Nat
  deriving Repr, DecidableEq

namespace Order

/-- A new row of `create_order` or of a cart checkout, waiting for its payment. -/
def created (id : RegistrationId) (buyerId : UserId) (fqdn : Fqdn) (buyerEmail : Email)
    (phoneValid : Bool) (priceInr : Paise) (razorpayOrderId : OrderId) : Order where
  id
  buyerId
  fqdn
  buyerEmail
  phoneValid
  priceInr
  status := .created
  transferStatus := .none
  transferAuthCode := false
  razorpayOrderId := some razorpayOrderId
  razorpayPaymentId := none
  razorpayRefundId := none
  openProviderHandle := none
  openProviderDomainId := none
  provisionAttempts := 0
  pendingRenewal := none
  lastRenewalPaymentId := none
  renewalCount := 0

/-- `_is_transfer`. -/
def isTransfer (o : Order) : Bool := o.transferStatus ≠ .none

/-- `_order_is_paid`. -/
def paid (o : Order) : Bool := o.razorpayPaymentId.isSome

/-- `_provision_already_succeeded`. -/
def alreadySucceeded (o : Order) : Bool :=
  o.status = .active ∨ o.status = .registrationPending

end Order

/-! ## The registrar -/

/-- What becomes of a request to register or to transfer a domain. An accepted request creates
the record `id`; the answer may leave the id out. -/
inductive CallReply
  | accepted (id : ProviderDomainId) (named : Bool)
  | lost (id : ProviderDomainId) (err : Text)
  | rejected (err : Text)
  deriving Repr, DecidableEq

/-- The record that the request created. -/
def CallReply.created : CallReply → Option ProviderDomainId
  | .accepted id _ => some id
  | .lost id _ => some id
  | .rejected _ => none

/-- The id that the code reads in the answer, when there is an answer. -/
def CallReply.told : CallReply → Option ProviderDomainId
  | .accepted id named => if named then some id else none
  | _ => none

/-- What a call does outside the database. -/
inductive Event
  /-- `register_domain` for the order, as the code holds it. -/
  | register (order : Order) (reply : CallReply)
  /-- `transfer_domain`. -/
  | transfer (order : Order) (reply : CallReply)
  /-- `renew_domain`. -/
  | renew (order : Order) (years : Int)
  /-- `decide_provider_link` accepted the id for the order. -/
  | link (order : RegistrationId) (id : ProviderDomainId)
  /-- A refund that Razorpay processed. -/
  | refund (order : RegistrationId)
  deriving Repr, DecidableEq

/-- The order a registrar call is made for. -/
def Event.calledFor : Event → Option RegistrationId
  | .register order _ => some order.id
  | .transfer order _ => some order.id
  | .renew order _ => some order.id
  | .link _ _ => none
  | .refund _ => none

/-! ## `decide_provider_link` -/

/-- What the registrar tells about a domain: `fqdn_from_provider_details`,
`owner_handle_from_provider_details` and `emails_from_provider_details`. -/
structure Details where
  fqdn : Option Fqdn
  handle : Option Handle
  emails : List Email
  deriving Repr, DecidableEq

/-- The evidence about one id: the details of `get_domain_all_details` or of the fallback, and the
address of `_provider_owner_email`. -/
structure Evidence where
  details : Option Details
  ownerEmail : Option Email
  deriving Repr, DecidableEq

/-- `ProviderLinkDecision.action`. -/
inductive LinkAction
  | reconcile | attention | skip
  deriving Repr, DecidableEq

/-- `ProviderLinkDecision`. -/
structure ProviderLinkDecision where
  action : LinkAction
  reason : String
  deriving Repr, DecidableEq

/-- `decide_provider_link` for the id `pid`; `others` are the orders that hold it. -/
def decideProviderLink (o : Order) (pid : ProviderDomainId) (others : List RegistrationId)
    (e : Evidence) : ProviderLinkDecision :=
  if o.paid = false then ⟨.skip, "UNPAID_DO_NOT_ADOPT"⟩
  else if others ≠ [] then ⟨.attention, "UNRELATED_ORDER_OWNS_PROVIDER_DOMAIN"⟩
  else match e.details.bind (·.fqdn) with
    | none => ⟨.attention, "PROVIDER_DETAILS_MISSING_FQDN"⟩
    | some fqdn =>
      if fqdn ≠ o.fqdn then ⟨.attention, "PROVIDER_FQDN_MISMATCH"⟩
      else if o.openProviderDomainId = some pid then ⟨.reconcile, "ALREADY_LINKED_TO_THIS_ORDER"⟩
      else if o.openProviderHandle.isSome ∧ o.openProviderHandle = e.details.bind (·.handle) then
        ⟨.reconcile, "PROVIDER_HANDLE_MATCHES_THIS_ORDER"⟩
      else if o.buyerEmail ∈ (e.details.map (·.emails)).getD [] ∨ e.ownerEmail = some o.buyerEmail
      then ⟨.reconcile, "PROVIDER_EMAIL_MATCHES_THIS_ORDER"⟩
      else ⟨.attention, "INSUFFICIENT_CORRELATION"⟩

/-- `_verify_provider_domain_belongs_to_order`: no details, no link. -/
def verifyProviderDomainBelongsToOrder (o : Order) (pid : ProviderDomainId)
    (others : List RegistrationId) (e : Evidence) : ProviderLinkDecision :=
  if o.paid = true ∧ e.details = none then ⟨.attention, "PROVIDER_DETAILS_UNAVAILABLE"⟩
  else decideProviderLink o pid others e

variable {o : Order} {pid : ProviderDomainId} {others : List RegistrationId} {e : Evidence}

/-- **An id is linked only to a paid order, and only if no other order holds it.** -/
theorem decide_reconcile (h : (decideProviderLink o pid others e).action = .reconcile) :
    o.paid = true ∧ others = [] ∧ e.details.bind (·.fqdn) = some o.fqdn := by
  unfold decideProviderLink at h
  by_cases hpaid : o.paid = false
  · rw [if_pos hpaid] at h
    cases h
  by_cases hothers : others = []
  · rw [if_neg hpaid, if_neg (by simpa using hothers)] at h
    refine ⟨by simpa using hpaid, hothers, ?_⟩
    cases hf : e.details.bind (·.fqdn) with
    | none => simp [hf] at h
    | some fqdn =>
      by_cases hne : fqdn = o.fqdn
      · rw [hne]
      · simp [hf, hne] at h
  · rw [if_neg hpaid, if_pos hothers] at h
    cases h

theorem belongs_reconcile
    (h : (verifyProviderDomainBelongsToOrder o pid others e).action = .reconcile) :
    o.paid = true ∧ others = [] ∧ e.details.bind (·.fqdn) = some o.fqdn := by
  unfold verifyProviderDomainBelongsToOrder at h
  split_ifs at h
  exact decide_reconcile h

/-! ## The session's object -/

/-- An order in a session: the row as it was last flushed, and the object. -/
structure Held where
  row : Order
  obj : Order
  deriving DecidableEq

namespace Held

/-- Assignments to the object. -/
def set (h : Held) (f : Order → Order) : Held := { h with obj := f h.obj }

/-- `save`. -/
def save (h : Held) : Held := ⟨h.obj, h.obj⟩

/-- `_refresh_order_row`: assignments that were not flushed are dropped. -/
def refresh (h : Held) : Held := ⟨h.row, h.row⟩

end Held

/-! ## `sync_from_registrar` -/

/-- A confirmed domain makes the order active, and a transfer complete. -/
def Order.confirm (o : Order) : Order :=
  { o with
    status := .active
    transferStatus := if o.isTransfer then .completed else .none }

/-- `sync_from_registrar`: the answer says whether the registration is confirmed. -/
def syncFromRegistrar (answer : Option Bool) (h : Held) : Bool × Held :=
  match h.obj.openProviderDomainId, answer with
  | some _, some true => (true, (h.set Order.confirm).save)
  | some _, some false => (false, h.save)
  | _, _ => (false, h)

/-- `sync_from_registrar` on a row, with the flush that follows at every caller. -/
def Order.sync (o : Order) (answer : Option Bool) : Order :=
  if o.openProviderDomainId.isSome ∧ answer = some true then o.confirm else o

variable {answer : Option Bool} {h : Held}

@[simp] theorem sync_obj : (syncFromRegistrar answer h).2.obj = h.obj.sync answer := by
  unfold syncFromRegistrar Order.sync
  cases h.obj.openProviderDomainId with
  | none => simp
  | some d =>
    match answer with
    | none => simp
    | some true => simp [Held.set, Held.save]
    | some false => simp [Held.save]

theorem sync_cases (answer : Option Bool) (h : Held) :
    (h.obj.openProviderDomainId.isSome ∧ answer = some true ∧
      syncFromRegistrar answer h = (true, ⟨h.obj.confirm, h.obj.confirm⟩)) ∨
    ((syncFromRegistrar answer h).1 = false ∧ (syncFromRegistrar answer h).2.obj = h.obj ∧
      ((syncFromRegistrar answer h).2.row = h.row ∨ (syncFromRegistrar answer h).2.row = h.obj)) := by
  unfold syncFromRegistrar
  split
  · next heq => exact .inl ⟨by simp [heq], rfl, rfl⟩
  · exact .inr ⟨rfl, rfl, .inr rfl⟩
  · exact .inr ⟨rfl, rfl, .inl rfl⟩

theorem sync_cases_row (o : Order) (answer : Option Bool) :
    o.sync answer = o ∨
      (o.openProviderDomainId.isSome ∧ answer = some true ∧ o.sync answer = o.confirm) := by
  unfold Order.sync
  split_ifs with hc
  · exact .inr ⟨hc.1, hc.2, rfl⟩
  · exact .inl rfl

end Deltapreneur.Storefront
