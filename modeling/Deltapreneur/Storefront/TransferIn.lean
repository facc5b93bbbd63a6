import Deltapreneur.Storefront.Provision

/-!
# Transfers to the platform

Model of `_provision_transfer`, `_handle_transfer_provision_failure`, `_fail_transfer_and_refund`,
`verify_transfer_payment` (`app/service/domain/domain_registration_service.py:3812-4121`), of
`admin_refund` (`domain_registration_ops_service.py:361-372`) and of the row's part of the webhook
`payment.captured` (2930-3158).

* The error text of a failed submission decides: `isDefinitiveTransferFailure` searches it for
  the tokens of the source. `str.lower` is a parameter (`Config.lower`).
* `lookup_order_id_by_domain` is called outside the `try` block: when it raises, the row stays as
  it was committed before.
* A refund goes through `Razorpay.refundPayment` on the gateway's record of the payment.

Results:

* `adminRefund_does`, `failTransferAndRefund_cases`, `handleFailure_cases`: what the failure
  handling does to the row.
* `provisionTransfer_does`: the outcomes of a submission.
* `webhook_transfer`: the webhook only polls a transfer.
-/

namespace Deltapreneur.Storefront

open Razorpay (Payment RefundNetwork refundPayment)

/-! ## The failure texts -/

/-- The settings and the library function the transfer code depends on. -/
structure Config where
  /-- `str.lower`. -/
  lower : Text → Text
  /-- `DOMAIN_REGISTRATION_MAX_PROVISION_ATTEMPTS`. -/
  maxProvisionAttempts : Nat

/-- The default setting, and `str.lower` of an ASCII text. -/
def Config.ascii : Config := ⟨List.map Char.toLower, 5⟩

/-- `token in text`. -/
def Text.contains (text token : Text) : Bool := text.tails.any token.isPrefixOf

/-- The tokens of `_is_definitive_transfer_failure`. -/
def definitiveTokens : List String :=
  ["auth code", "authorization code", "epp", "invalid", "wrong", "incorrect", "locked",
    "duplicate", "balance", "funds", "insufficient", "denied", "forbidden", "reject",
    "not allowed", "cannot be transferred", "cannot be transfered", "transfer failed",
    "unable to transfer", "refused to"]

/-- `_is_definitive_transfer_failure`. -/
def isDefinitiveTransferFailure (c : Config) (raw : Text) : Bool :=
  definitiveTokens.any fun token => Text.contains (c.lower raw) token.toList

/-! ## Refunds -/

/-- What a function of the transfer flow leaves: the row, the gateway's record of the payment, and
what it did outside. -/
structure Left where
  order : Order
  payment : Payment
  events : List Event

/-- What was done before. -/
def Left.after (left : Left) (event : Event) : Left :=
  { left with events := event :: left.events }

def Order.refunded (o : Order) (id : Razorpay.RefundId) : Order :=
  { o with status := .refunded, razorpayRefundId := some id }

/-- `admin_refund`. -/
def adminRefund (net : RefundNetwork) (p : Payment) (o : Order) : Left :=
  if o.razorpayPaymentId = none then ⟨o, p, []⟩
  else
    let (reply, p', processed) := refundPayment p o.priceInr net
    let events := if processed then [.refund o.id] else []
    match reply with
    | .refund id _ => ⟨o.refunded id, p', events⟩
    | _ => ⟨o, p', events⟩

def Order.transferFailed (o : Order) : Order :=
  { o with status := .provisionFailed, transferStatus := .failed }

/-- `_fail_transfer_and_refund`: the failure is committed before the refund is asked for, and a
refund that fails is only logged. -/
def failTransferAndRefund (net : RefundNetwork) (p : Payment) (o : Order) : Left :=
  if o.razorpayRefundId.isSome then ⟨o.transferFailed, p, []⟩
  else adminRefund net p o.transferFailed

/-! ## Submitting a transfer -/

/-- One more attempt. -/
def Order.counted (o : Order) : Order := { o with provisionAttempts := o.provisionAttempts + 1 }

/-- `_handle_transfer_provision_failure`. -/
def handleTransferProvisionFailure (c : Config) (raw : Text) (net : RefundNetwork) (p : Payment)
    (o : Order) : Left :=
  if isDefinitiveTransferFailure c raw then failTransferAndRefund net p o
  else if c.maxProvisionAttempts ≤ o.provisionAttempts + 1 then
    failTransferAndRefund net p o.counted
  else ⟨{ o.counted with transferStatus := .pending }, p, []⟩

/-- The answers during one submission. -/
structure TransferAnswers where
  found : Except Text (Option ProviderDomainId)
  customer : Except Text Handle
  transfer : CallReply
  net : RefundNetwork

/-- The registrar does not know the name and accepts the transfer under the id. -/
def TransferAnswers.accepts (d : ProviderDomainId) : TransferAnswers :=
  ⟨.ok none, .ok 0, .accepted d true, .fetchFails⟩

/-- The customer has a contact at the registrar. -/
def Order.handled (o : Order) (handle : Handle) : Order :=
  { o with openProviderHandle := some handle }

/-- The transfer is under way at the registrar. -/
def Order.transferring (o : Order) (d : Option ProviderDomainId) : Order :=
  { o with
    openProviderDomainId := d, transferStatus := .pending, status := .registrationPending }

/-- The call of `transfer_domain`, and what its answer or its exception leads to. -/
def submitTransfer (c : Config) (t : TransferAnswers) (p : Payment) (o : Order) : Left :=
  match t.customer with
  | .error raw => handleTransferProvisionFailure c raw t.net p o
  | .ok handle =>
    let event := Event.transfer (o.handled handle) t.transfer
    match t.transfer with
    | .accepted _ _ => ⟨(o.handled handle).transferring t.transfer.told, p, [event]⟩
    | .lost _ raw => (handleTransferProvisionFailure c raw t.net p (o.handled handle)).after event
    | .rejected raw => (handleTransferProvisionFailure c raw t.net p (o.handled handle)).after event

/-- `_provision_transfer`. -/
def provisionTransfer (c : Config) (t : TransferAnswers) (p : Payment) (o : Order) : Left :=
  if o.transferAuthCode = false then ⟨o, p, []⟩
  else match o.openProviderDomainId, t.found with
    | some d, _ => ⟨o.transferring (some d), p, []⟩
    | none, .error _ => ⟨o, p, []⟩
    | none, .ok (some d) => ⟨o.transferring (some d), p, []⟩
    | none, .ok none => submitTransfer c t p o

/-- The payment is recorded. -/
def Order.paidBy (o : Order) (payment : PaymentId) : Order :=
  { o with razorpayPaymentId := some payment }

/-- `verify_transfer_payment` on the order of the payload's Razorpay order. -/
def verifyTransferPayment (c : Config) (t : TransferAnswers) (payment : PaymentId) (valid : Bool)
    (p : Payment) (o : Order) : Left :=
  if o.razorpayPaymentId = some payment then ⟨o, p, []⟩
  else if valid = false then ⟨{ o with status := .failed }, p, []⟩
  else provisionTransfer c t p { o.paidBy payment with status := .paymentCompleted }

/-- `run_transfer_pending_reconcile` at one row. -/
def transferReconcile (c : Config) (t : TransferAnswers) (p : Payment) (o : Order) : Left :=
  if o.status = .paymentCompleted ∧ o.transferStatus = .pending ∧ o.paid = true ∧
      o.openProviderDomainId = none then
    provisionTransfer c t p o
  else ⟨o, p, []⟩

/-! ## The webhook `payment.captured` -/

/-- A payment arriving for one of these is recorded as completed. -/
def Order.recovered (o : Order) : Order :=
  { o with
    status :=
      if o.status = .created ∨ o.status = .expired ∨ o.status = .paymentFailed ∨
          o.status = .failed ∨ o.status = .provisionFailed then .paymentCompleted
      else o.status }

/-- `complete_payment_from_webhook` at one order: `isTransfer` is what the notes of the Razorpay
order say, `sync` the registrar's answer of the reconciling branch. -/
def completePaymentFromWebhook (c : Config) (others : Holders) (a : Answers) (t : TransferAnswers)
    (sync : Option Bool) (isTransfer : Bool) (payment : PaymentId) (p : Payment) (o : Order) :
    Left :=
  if o.status = .active ∨ o.status = .refunded then ⟨o, p, []⟩
  else if o.razorpayPaymentId.isSome ∧ o.razorpayPaymentId ≠ some payment then ⟨o, p, []⟩
  else if (o.isTransfer ∧ (isTransfer ∨ o.transferStatus = .pending)) ∨
      (o.status = .registrationPending ∧ o.openProviderDomainId.isSome) then
    ⟨(o.paidBy payment).sync sync, p, []⟩
  else if isTransfer then provisionTransfer c t p (o.paidBy payment).recovered
  else match provisionOrder others a (o.paidBy payment).recovered with
    | some (o', events) => ⟨o', p, events⟩
    | none => ⟨o, p, []⟩

/-! ## What the failure handling does -/

variable {c : Config} {t : TransferAnswers} {net : RefundNetwork} {p : Payment} {o : Order}
  {raw : Text} {others : Holders} {a : Answers}
  {payment : PaymentId}

/-- **What `admin_refund` does.** Nothing, or it pays back what is left of the payment, up to the
price, and records the refund unless the answer is lost. -/
theorem adminRefund_does (net : RefundNetwork) (p : Payment) (o : Order) :
    adminRefund net p o = ⟨o, p, []⟩ ∨
      (o.paid = true ∧ (refundPayment p o.priceInr net).2.2 = true ∧
        ∃ o', (o' = o ∨ ∃ id, o' = o.refunded id) ∧
          adminRefund net p o = ⟨o', p.payBack (p.refundAmount o.priceInr), [.refund o.id]⟩) := by
  unfold adminRefund
  split_ifs with hpaid
  · exact .inl rfl
  · rcases Razorpay.refundPayment_cases p o.priceInr net with ⟨heq, hreply⟩ | ⟨-, -, -, heq⟩
    · obtain ⟨hp, hproc⟩ := Prod.mk.inj heq
      dsimp only
      split
      · next id amount hid => exact absurd hid (hreply id amount)
      · rw [hproc, hp]
        exact .inl rfl
    · obtain ⟨hp, hproc⟩ := Prod.mk.inj heq
      refine .inr ⟨by simpa [Order.paid, Option.isSome_iff_ne_none] using hpaid, hproc, ?_⟩
      dsimp only
      rw [hproc, hp]
      split
      · next id amount hid => exact ⟨o.refunded id, .inr ⟨id, rfl⟩, rfl⟩
      · exact ⟨o, .inl rfl, rfl⟩

theorem adminRefund_cases (net : RefundNetwork) (p : Payment) (o : Order) :
    (adminRefund net p o).order = o ∨
      ∃ id, (adminRefund net p o).order = o.refunded id := by
  rcases adminRefund_does net p o with heq | ⟨-, -, o', ho', heq⟩
  · rw [heq]
    exact .inl rfl
  · rw [heq]
    exact ho'

theorem adminRefund_events (net : RefundNetwork) (p : Payment) (o : Order) :
    (adminRefund net p o).events = [] ∨ (adminRefund net p o).events = [.refund o.id] := by
  rcases adminRefund_does net p o with heq | ⟨-, -, o', -, heq⟩
  · rw [heq]
    exact .inl rfl
  · rw [heq]
    exact .inr rfl

theorem failTransferAndRefund_cases (net : RefundNetwork) (p : Payment) (o : Order) :
    (failTransferAndRefund net p o).order = o.transferFailed ∨
      ∃ id, (failTransferAndRefund net p o).order = o.transferFailed.refunded id := by
  unfold failTransferAndRefund
  split_ifs
  · exact .inl rfl
  · exact adminRefund_cases net p _

theorem failTransferAndRefund_events (net : RefundNetwork) (p : Payment) (o : Order) :
    (failTransferAndRefund net p o).events = [] ∨
      (failTransferAndRefund net p o).events = [.refund o.id] := by
  unfold failTransferAndRefund
  split_ifs
  · exact .inl rfl
  · exact adminRefund_events net p _

theorem handleFailure_cases (c : Config) (raw : Text) (net : RefundNetwork) (p : Payment)
    (o : Order) :
    (isDefinitiveTransferFailure c raw = false ∧
      o.provisionAttempts + 1 < c.maxProvisionAttempts ∧
      handleTransferProvisionFailure c raw net p o =
        ⟨{ o.counted with transferStatus := .pending }, p, []⟩) ∨
    ((isDefinitiveTransferFailure c raw = true ∨
        c.maxProvisionAttempts ≤ o.provisionAttempts + 1) ∧
      ∃ o₁, (o₁ = o ∨ o₁ = o.counted) ∧
        handleTransferProvisionFailure c raw net p o = failTransferAndRefund net p o₁) := by
  unfold handleTransferProvisionFailure
  split_ifs with hdef hmax
  · exact .inr ⟨.inl hdef, o, .inl rfl, rfl⟩
  · exact .inr ⟨.inr hmax, o.counted, .inr rfl, rfl⟩
  · exact .inl ⟨by simpa using hdef, by omega, rfl⟩

/-- The columns of the sale, which no submission writes. -/
structure SameSale (o o' : Order) : Prop where
  id : o'.id = o.id
  buyerId : o'.buyerId = o.buyerId
  fqdn : o'.fqdn = o.fqdn
  priceInr : o'.priceInr = o.priceInr
  razorpayOrderId : o'.razorpayOrderId = o.razorpayOrderId
  razorpayPaymentId : o'.razorpayPaymentId = o.razorpayPaymentId
  transferAuthCode : o'.transferAuthCode = o.transferAuthCode

theorem SameSale.refl (o : Order) : SameSale o o := ⟨rfl, rfl, rfl, rfl, rfl, rfl, rfl⟩

theorem SameSale.trans {o' x : Order} (h : SameSale o o') (h' : SameSale o' x) : SameSale o x :=
  ⟨h'.id.trans h.id, h'.buyerId.trans h.buyerId, h'.fqdn.trans h.fqdn, h'.priceInr.trans h.priceInr,
    h'.razorpayOrderId.trans h.razorpayOrderId, h'.razorpayPaymentId.trans h.razorpayPaymentId,
    h'.transferAuthCode.trans h.transferAuthCode⟩

theorem sameSale_counted (o : Order) : SameSale o o.counted := ⟨rfl, rfl, rfl, rfl, rfl, rfl, rfl⟩

theorem sameSale_handled (o : Order) (handle : Handle) : SameSale o (o.handled handle) :=
  ⟨rfl, rfl, rfl, rfl, rfl, rfl, rfl⟩

theorem SameSale.paid {o' : Order} (h : SameSale o o') : o'.paid = o.paid := by
  unfold Order.paid
  rw [h.razorpayPaymentId]

theorem failTransferAndRefund_keeps (net : RefundNetwork) (p : Payment) (o : Order) :
    SameSale o (failTransferAndRefund net p o).order ∧
      (failTransferAndRefund net p o).order.openProviderDomainId = o.openProviderDomainId := by
  rcases failTransferAndRefund_cases net p o with heq | ⟨id, heq⟩
  · rw [heq]
    exact ⟨⟨rfl, rfl, rfl, rfl, rfl, rfl, rfl⟩, rfl⟩
  · rw [heq]
    exact ⟨⟨rfl, rfl, rfl, rfl, rfl, rfl, rfl⟩, rfl⟩

theorem handleFailure_keeps (c : Config) (raw : Text) (net : RefundNetwork) (p : Payment)
    (o : Order) :
    SameSale o (handleTransferProvisionFailure c raw net p o).order ∧
      (handleTransferProvisionFailure c raw net p o).order.openProviderDomainId =
        o.openProviderDomainId := by
  rcases handleFailure_cases c raw net p o with ⟨-, -, heq⟩ | ⟨-, o₁, ho₁, heq⟩
  · rw [heq]
    exact ⟨⟨rfl, rfl, rfl, rfl, rfl, rfl, rfl⟩, rfl⟩
  · rw [heq]
    rcases ho₁ with rfl | rfl
    · exact failTransferAndRefund_keeps net p o₁
    · obtain ⟨hsale, hid⟩ := failTransferAndRefund_keeps net p o.counted
      exact ⟨(sameSale_counted o).trans hsale, hid⟩

/-- It makes no registrar call. -/
theorem handleFailure_events (c : Config) (raw : Text) (net : RefundNetwork) (p : Payment)
    (o : Order) :
    ∀ e ∈ (handleTransferProvisionFailure c raw net p o).events, e = .refund o.id := by
  intro e he
  rcases handleFailure_cases c raw net p o with ⟨-, -, heq⟩ | ⟨-, o₁, ho₁, heq⟩
  · rw [heq] at he
    cases he
  · have hid : o₁.id = o.id := by
      rcases ho₁ with rfl | rfl
      · rfl
      · rfl
    rw [heq] at he
    rcases failTransferAndRefund_events net p o₁ with heq | heq
    · rw [heq] at he
      cases he
    · rw [heq, hid] at he
      exact List.mem_singleton.mp he

/-! ## What a submission does -/

/-- The outcomes of `_provision_transfer`. -/
inductive Submission (c : Config) (t : TransferAnswers) (p : Payment) (o : Order) : Left → Prop
  /-- It raised before anything was done. -/
  | untouched (h : o.transferAuthCode = false ∨
      (o.openProviderDomainId = none ∧ ∃ e, t.found = .error e)) : Submission c t p o ⟨o, p, []⟩
  /-- The order's own id, or the one found under its name. -/
  | adopted (d : ProviderDomainId) (h : o.openProviderDomainId = some d ∨
      (o.openProviderDomainId = none ∧ t.found = .ok (some d))) :
      Submission c t p o ⟨o.transferring (some d), p, []⟩
  /-- `transfer_domain` answered. -/
  | accepted (handle : Handle) (id : ProviderDomainId) (named : Bool)
      (hid : o.openProviderDomainId = none) (ht : t.transfer = .accepted id named)
      (hfound : t.found = .ok none) :
      Submission c t p o ⟨(o.handled handle).transferring t.transfer.told, p,
        [.transfer (o.handled handle) t.transfer]⟩
  /-- `create_customer` raised. -/
  | unsent (raw : Text) (hid : o.openProviderDomainId = none) (hfound : t.found = .ok none) :
      Submission c t p o (handleTransferProvisionFailure c raw t.net p o)
  /-- `transfer_domain` raised. -/
  | refused (handle : Handle) (raw : Text) (hid : o.openProviderDomainId = none)
      (ht : (∃ id, t.transfer = .lost id raw) ∨ t.transfer = .rejected raw)
      (hfound : t.found = .ok none) :
      Submission c t p o ((handleTransferProvisionFailure c raw t.net p (o.handled handle)).after
        (.transfer (o.handled handle) t.transfer))

variable {left : Left}

theorem Submission.sameSale (h : Submission c t p o left) : SameSale o left.order := by
  cases h with
  | untouched h => exact .refl o
  | adopted d h => exact ⟨rfl, rfl, rfl, rfl, rfl, rfl, rfl⟩
  | accepted handle id named hid ht => exact ⟨rfl, rfl, rfl, rfl, rfl, rfl, rfl⟩
  | unsent raw hid => exact (handleFailure_keeps _ _ _ _ _).1
  | refused handle raw hid ht =>
    exact (sameSale_handled o handle).trans (handleFailure_keeps c raw t.net p _).1

theorem Submission.keepsTransfer (h : Submission c t p o left) (ht : o.isTransfer = true) :
    left.order.isTransfer = true := by
  have hfail : ∀ raw (x : Order),
      (handleTransferProvisionFailure c raw t.net p x).order.isTransfer = true := by
    intro raw x
    rcases handleFailure_cases c raw t.net p x with ⟨-, -, heq⟩ | ⟨-, o₁, -, heq⟩
    · rw [heq]
      rfl
    · rw [heq]
      rcases failTransferAndRefund_cases t.net p o₁ with heq | ⟨id, heq⟩
      · rw [heq]
        rfl
      · rw [heq]
        rfl
  cases h with
  | untouched h => exact ht
  | adopted d h => rfl
  | accepted handle id named hid hreply hfound => rfl
  | unsent raw hid hfound => exact hfail raw o
  | refused handle raw hid hreply hfound => exact hfail raw (o.handled handle)

theorem submitTransfer_does (hid : o.openProviderDomainId = none) (hfound : t.found = .ok none) :
    Submission c t p o (submitTransfer c t p o) := by
  unfold submitTransfer
  split
  · next raw heq => exact .unsent raw hid hfound
  · next handle heq =>
    dsimp only
    split
    · next id named hreply => exact .accepted handle id named hid hreply hfound
    · next id raw hreply => exact .refused handle raw hid (.inl ⟨id, hreply⟩) hfound
    · next raw hreply => exact .refused handle raw hid (.inr hreply) hfound

/-- **What `_provision_transfer` does.** -/
theorem provisionTransfer_does (c : Config) (t : TransferAnswers) (p : Payment) (o : Order) :
    Submission c t p o (provisionTransfer c t p o) := by
  unfold provisionTransfer
  split_ifs with hcode
  · exact .untouched (.inl hcode)
  · split
    · next d hid => exact .adopted d (.inl hid)
    · next e hid herr => exact .untouched (.inr ⟨hid, e, herr⟩)
    · next d hid hfound => exact .adopted d (.inr ⟨hid, hfound⟩)
    · next hid hfound => exact submitTransfer_does hid hfound

/-! ## The payment of a transfer -/

variable {answer : Option Bool}

@[simp] theorem paid_sync : (o.sync answer).paid = o.paid := by
  rcases sync_cases_row o answer with heq | ⟨-, -, heq⟩
  · rw [heq]
  · rw [heq]
    rfl

theorem isTransfer_sync (ht : o.isTransfer = true) : (o.sync answer).isTransfer = true := by
  rcases sync_cases_row o answer with heq | ⟨-, -, heq⟩
  · rwa [heq]
  · rw [heq]
    unfold Order.isTransfer Order.confirm
    rw [if_pos ht]
    rfl

@[simp] theorem transferAuthCode_sync : (o.sync answer).transferAuthCode = o.transferAuthCode := by
  rcases sync_cases_row o answer with heq | ⟨-, -, heq⟩
  · rw [heq]
  · rw [heq]
    rfl

theorem verifyTransfer_valid (h : o.razorpayPaymentId ≠ some payment) :
    verifyTransferPayment c t payment true p o =
      provisionTransfer c t p { o.paidBy payment with status := .paymentCompleted } := by
  unfold verifyTransferPayment
  rw [if_neg h, if_neg (by simp)]

/-- The webhook polls a transfer that is neither done nor paid with another payment. It submits and
refunds nothing. -/
theorem webhook_transfer (c : Config) (others : Holders) (a : Answers) (t : TransferAnswers)
    (p : Payment) (ht : o.isTransfer = true) :
    (completePaymentFromWebhook c others a t answer o.isTransfer payment p o = ⟨o, p, []⟩ ∧
        (o.status = .active ∨ o.status = .refunded ∨ o.paid = true)) ∨
      (completePaymentFromWebhook c others a t answer o.isTransfer payment p o =
          ⟨(o.paidBy payment).sync answer, p, []⟩ ∧
        (o.paid = true → o.razorpayPaymentId = some payment)) := by
  unfold completePaymentFromWebhook
  split_ifs with hdone hother hreconcile
  · exact .inl ⟨rfl, hdone.imp_right .inl⟩
  · exact .inl ⟨rfl, .inr (.inr hother.1)⟩
  · exact .inr ⟨rfl, fun hpaid => by simpa [Order.paid, hpaid] using not_and.mp hother hpaid⟩
  · exact absurd (.inl ⟨ht, .inl ht⟩) hreconcile

end Deltapreneur.Storefront
