import Deltapreneur.Storefront.Desk

/-!
# Registrations are paid for

When `register_domain` is called for an order, a payment for its Razorpay order should have been
verified, and the order should not be refunded. `provision_order` checks neither.

* The webhook, the jobs and the recovery get there only with orders of a status that a verified
  payment brings about (`Backed`).
* `retry_provision` and `admin_retry` have no test of their own. `verify_and_provision` skips the
  signature when the payload's payment id is the recorded one, also when both are missing, and does
  not look for a refund; neither do the two paths of the cart. `Act.PaymentSeen` says for which
  inputs these are safe.

Results:

* `registers_paid`: in every run of such inputs every call of `register_domain` is for an order
  with a verified payment, and not a refunded one.
* `unpaid_retry_registers`: otherwise the retry of an order nobody paid registers its domain.
-/

namespace Deltapreneur.Storefront

open Registration (RegistrationOrderStatus)
open Run

/-- Each domain was registered for an order that is not refunded and for which a payment of its
Razorpay order was verified. -/
def Desk.RegistersPaid (w : Desk) : Prop :=
  ∀ o reply, .register o reply ∈ w.log → o.razorpayOrderId ∈ w.verified ∧ o.status ≠ .refunded

/-- The inputs for which an entry point that does not look at the payment finds a recorded one, and
no refund. -/
def Act.PaymentSeen (o : Order) : Act → Prop
  -- The recorded payment id skips the signature.
  | .verifyAndProvision paymentId _ _ _ =>
    o.razorpayPaymentId = paymentId → o.paid = true ∧ o.status ≠ .refunded
  | .retryProvision _ => o.isTransfer = true ∨ o.status = .active ∨
    (o.paid = true ∧ o.status ≠ .refunded)
  | .adminRetry _ => o.isTransfer = true ∨ o.status = .active ∨
    (o.paid = true ∧ o.status ≠ .refunded)
  | .cartVerify _ _ => o.status ≠ .refunded
  | .cartRecover _ _ => o.status ≠ .refunded
  | _ => True

/-- The visit sees the payment. -/
def Desk.PaymentSeen (w : Desk) : Op → Prop
  | .visit id act => ∀ o, Table.lookup Order.id id w.orders = some o → act.PaymentSeen o
  | _ => True

/-! ## Backed orders -/

/-- The statuses that follow a payment. -/
def AfterPayment (s : RegistrationOrderStatus) : Prop :=
  s = .paymentCompleted ∨ s = .registrationPending ∨ s = .provisionFailed ∨ s = .active

/-- A registration that got anywhere. -/
def Started (o : Order) : Prop :=
  o.isTransfer = false ∧ (AfterPayment o.status ∨ o.openProviderDomainId.isSome = true)

/-- A registration that got anywhere has a recorded payment, and a recorded payment was verified. -/
structure Backed (V : List (Option OrderId)) (o : Order) : Prop where
  started : Started o → o.paid = true
  verified : o.paid = true → o.razorpayOrderId ∈ V

/-- A result with a backed row, and with registrations that are paid. -/
structure BackedResult (V : List (Option OrderId)) (r : Result) : Prop where
  row : Backed V r.1
  calls : ∀ o reply, .register o reply ∈ r.2 → o.razorpayOrderId ∈ V ∧ o.status ≠ .refunded

variable {V V' : List (Option OrderId)} {c : Config} {others : Holders} {w : Desk} {act : Act}
  {o o' failed : Order} {op : Op} {a : Answers} {answer : Option Bool} {r : Result} {left : Left}
  {t : TransferAnswers} {p : Razorpay.Payment} {payment : PaymentId} {valid : Bool}
  {s : RegistrationOrderStatus}

theorem backed_of_paid (hpaid : o.paid = true) (hV : o.razorpayOrderId ∈ V) : Backed V o :=
  ⟨fun _ => hpaid, fun _ => hV⟩

theorem Backed.mono (h : Backed V o) (hV : V ⊆ V') : Backed V' o :=
  ⟨h.started, fun hpaid => hV (h.verified hpaid)⟩

theorem Backed.result (h : Backed V o) : BackedResult V (o, []) :=
  ⟨h, fun _ _ hmem => absurd hmem (by simp)⟩

theorem Backed.write (h : Backed V o) (hpaid : o'.paid = o.paid)
    (hr : o'.razorpayOrderId = o.razorpayOrderId) (hs : Started o' → Started o) : Backed V o' :=
  ⟨fun hstart => by rw [hpaid]; exact h.started (hs hstart),
    fun hp => by rw [hr]; exact h.verified (by rwa [← hpaid])⟩

theorem Backed.stop (h : Backed V o) (hs : ¬ AfterPayment s) : Backed V { o with status := s } :=
  h.write rfl rfl fun hstart => ⟨hstart.1, .inr (hstart.2.resolve_left hs)⟩

theorem Backed.held (h : Backed V o) (hid : o.openProviderDomainId.isSome = true) :
    Backed V { o with status := s } :=
  h.write rfl rfl fun hstart => ⟨hstart.1, .inr hid⟩

theorem Backed.refunded (h : Backed V o) {id : Razorpay.RefundId} : Backed V (o.refunded id) :=
  h.write rfl rfl fun hstart => ⟨hstart.1, .inr (hstart.2.resolve_left (by simp [AfterPayment,
    Order.refunded]))⟩

theorem Backed.expired (h : Backed V o) {aged : Bool} : Backed V (expireStale aged o) := by
  unfold expireStale
  split_ifs
  · exact h.stop (by simp [AfterPayment])
  · exact h

theorem Backed.unpaidTransfer (ht : o.isTransfer = true) (hpaid : o.paid = false) : Backed V o :=
  ⟨fun hstart => absurd (hstart.1.symm.trans ht) (by simp),
    fun hp => absurd (hp.symm.trans hpaid) (by simp)⟩

theorem isTransfer_confirm : o.confirm.isTransfer = o.isTransfer := by
  unfold Order.confirm
  cases h : o.isTransfer <;> simp [Order.isTransfer]

theorem Backed.sync (h : Backed V o) : Backed V (o.sync answer) := by
  rcases sync_cases_row o answer with heq | ⟨hsome, -, heq⟩
  · rw [heq]
    exact h
  · rw [heq]
    exact h.write rfl rfl fun hstart => ⟨isTransfer_confirm ▸ hstart.1, .inr hsome⟩

theorem Does.backed (h : Does others a o r) (hpaid : o.paid = true) (hV : o.razorpayOrderId ∈ V)
    (hs : o.status ≠ .refunded) : BackedResult V r := by
  have hr : r.1.razorpayOrderId = o.razorpayOrderId := by rw [h.alike]
  have hp : r.1.paid = o.paid := by rw [h.alike]; rfl
  refine ⟨backed_of_paid (hp.trans hpaid) (by rwa [hr]), ?_⟩
  obtain ⟨-, -, hout⟩ := h
  generalize r.2 = es at hout
  cases hout with
  | kept hid => exact fun _ _ hmem => absurd hmem (by simp)
  | linked d _ hothers hid => exact fun _ _ hmem => absurd hmem (by simp)
  | registered called hcalled hid =>
    intro x reply hmem
    obtain ⟨rfl, -⟩ := Event.register.inj (List.mem_singleton.mp hmem)
    rw [hcalled]
    exact ⟨hV, hs⟩

theorem provisionOrder_backed (hpaid : o.paid = true) (hV : o.razorpayOrderId ∈ V)
    (hs : o.status ≠ .refunded) (hfailed : o.isTransfer = true → Backed V failed) :
    BackedResult V ((provisionOrder others a o).getD (failed, [])) := by
  rcases provisionOrder_cases others a o failed with ⟨ht, heq⟩ | ⟨-, heq⟩ | ⟨-, -, hdoes⟩
  · rw [heq]
    exact (hfailed ht).result
  · rw [heq]
    exact (backed_of_paid hpaid hV).result
  · exact hdoes.backed hpaid hV hs

theorem retryProvision_backed (h : Backed V o)
    (hok : o.isTransfer = true ∨ o.status = .active ∨ (o.paid = true ∧ o.status ≠ .refunded)) :
    BackedResult V (retryProvision others a o) := by
  unfold retryProvision
  rcases provisionOrder_cases others a o o with ⟨-, heq⟩ | ⟨-, heq⟩ | ⟨ht, hs, hdoes⟩
  · rw [heq]
    exact h.result
  · rw [heq]
    exact h.result
  · rcases hok with hok | hok | ⟨hpaid, hrefunded⟩
    · rw [ht] at hok
      exact absurd hok (by simp)
    · exact absurd hok hs
    · exact hdoes.backed hpaid (h.verified hpaid) hrefunded

/-- A submission of a paid transfer registers nothing. -/
theorem Submission.backed (h : Submission c t p o left) (hpaid : o.paid = true)
    (hV : o.razorpayOrderId ∈ V) : BackedResult V left.result := by
  refine ⟨backed_of_paid (h.sameSale.paid.trans hpaid) (by
    show left.order.razorpayOrderId ∈ V
    rwa [h.sameSale.razorpayOrderId]), ?_⟩
  have hfail : ∀ raw x, ∀ e ∈ (handleTransferProvisionFailure c raw t.net p x).events,
      ∀ y reply, e ≠ .register y reply := by
    intro raw x e he y reply heq
    rw [handleFailure_events c raw t.net p x e he] at heq
    exact absurd heq (by simp)
  intro x reply hmem
  cases h with
  | untouched h => cases hmem
  | adopted d h => cases hmem
  | accepted handle id named hid ht => exact absurd hmem (by simp [Left.result])
  | unsent raw hid => exact absurd rfl (hfail raw o _ hmem x reply)
  | refused handle raw hid ht =>
    rcases List.mem_cons.mp hmem with heq | hmem
    · exact absurd heq (by simp)
    · exact absurd rfl (hfail raw _ _ hmem x reply)

/-! ## The entry points -/

theorem recovered_ne_refunded (hs : o.status ≠ .refunded) : o.recovered.status ≠ .refunded := by
  unfold Order.recovered
  dsimp only
  split_ifs
  · simp
  · exact hs

theorem verifyAndProvision_backed {paymentId : Option PaymentId} (h : Backed V o)
    (hseen : o.razorpayPaymentId = paymentId → o.paid = true ∧ o.status ≠ .refunded)
    (hV : signatureAccepted paymentId valid o = true → o.razorpayOrderId ∈ V) :
    BackedResult V (verifyAndProvision others a paymentId valid answer o) := by
  unfold verifyAndProvision
  split_ifs with hactive hpending hid
  · exact h.result
  · exact h.sync.result
  · obtain ⟨hpaid, hs⟩ := hseen hid
    have hmem := h.verified hpaid
    exact provisionOrder_backed hpaid hmem hs fun _ => backed_of_paid hpaid hmem
  · unfold checkSignature
    split
    · exact h.result
    · next payment =>
      by_cases hvalid : valid = false
      · rw [if_pos hvalid]
        exact (h.stop (by simp [AfterPayment])).result
      · rw [if_neg hvalid]
        have hmem := hV (by simp [signatureAccepted, hactive, hpending, hid, hvalid])
        exact provisionOrder_backed rfl hmem (by simp) fun _ => backed_of_paid rfl hmem

theorem completePaymentFromWebhook_backed {isTransfer : Bool} (h : Backed V o)
    (hV : o.razorpayOrderId ∈ V) : BackedResult V
      (completePaymentFromWebhook c others a t answer isTransfer payment p o).result := by
  unfold completePaymentFromWebhook
  split_ifs with hdone hother hreconcile ht
  · exact h.result
  · exact h.result
  · exact (backed_of_paid rfl hV : Backed _ (o.paidBy payment)).sync.result
  · exact (provisionTransfer_does c t p _).backed rfl hV
  · have hs : (o.paidBy payment).recovered.status ≠ .refunded :=
      recovered_ne_refunded fun hs => hdone (.inr hs)
    have hprov : BackedResult V
        ((provisionOrder others a (o.paidBy payment).recovered).getD (o, [])) :=
      provisionOrder_backed rfl hV hs fun _ => h
    split
    · next o' events heq =>
      rw [heq] at hprov
      exact hprov
    · exact h.result

theorem runProvisionRetry_backed (h : Backed V o) :
    BackedResult V (runProvisionRetry c others a o) := by
  unfold runProvisionRetry
  split_ifs with hselected
  · exact h.sync.result
  · -- The selected statuses follow a payment.
    obtain ⟨hstatus, -, ht⟩ := hselected
    have hpaid : o.paid = true := h.started ⟨by simp [Order.isTransfer, ht], .inl (by
      rcases hstatus with hs | hs | hs
      · exact .inl hs
      · exact .inr (.inl hs)
      · exact .inr (.inr (.inl hs)))⟩
    refine retryProvision_backed h (.inr (.inr ⟨hpaid, fun hs => ?_⟩))
    rw [hs] at hstatus
    exact absurd hstatus (by simp)
  · exact h.result

theorem recoverAfterRetry_backed (h : BackedResult V r) :
    BackedResult V (recoverAfterRetry answer r) := by
  unfold recoverAfterRetry
  split_ifs with hopen hid
  · exact ⟨(h.row.held hid).sync, h.calls⟩
  · refine ⟨h.row.write rfl rfl fun hstart => ⟨hstart.1, .inl ?_⟩, h.calls⟩
    rcases hopen with hs | hs
    · exact .inr (.inl hs)
    · exact .inl hs
  · exact h

theorem recoverStale_backed {aged : Bool} (h : Backed V o) :
    BackedResult V (recoverStale others a aged answer o) := by
  unfold recoverStale
  split_ifs with hselected hid hconfirmed
  · exact h.sync.result
  · have hid' : (o.sync answer).openProviderDomainId.isSome = true := by
      rwa [openProviderDomainId_sync]
    exact (h.sync.held hid').result
  · obtain ⟨hstatus, ht, -⟩ := hselected
    have hpaid : o.paid = true := h.started ⟨by simp [Order.isTransfer, ht], .inl (by
      rcases hstatus with hs | hs
      · exact .inr (.inl hs)
      · exact .inl hs)⟩
    have hs : o.status ≠ .refunded := fun hs => by
      rw [hs] at hstatus
      exact absurd hstatus (by simp)
    exact recoverAfterRetry_backed (retryProvision_backed h (.inr (.inr ⟨hpaid, hs⟩)))
  · exact h.result

theorem completeDomainRegistration_backed (hs : o.status ≠ .refunded)
    (hV : o.razorpayOrderId ∈ V) :
    BackedResult V (completeDomainRegistration others a payment o) := by
  unfold completeDomainRegistration
  generalize hx : ({ o.paidBy payment with status := _ } : Order) = x
  have hpaid : x.paid = true := by
    rw [← hx]
    rfl
  have hr : x.razorpayOrderId = o.razorpayOrderId := by
    rw [← hx]
    rfl
  have hxs : x.status ≠ .refunded := by
    rw [← hx]
    dsimp only
    split_ifs
    · simp
    · exact hs
  rw [← hr] at hV
  have hbacked := backed_of_paid hpaid hV
  dsimp only
  split_ifs
  · exact hbacked.result
  · refine provisionOrder_backed hpaid hV hxs fun _ => ?_
    unfold Order.unlessInFlight
    split_ifs
    · exact hbacked
    · exact backed_of_paid hpaid hV

theorem provisionPendingOrder_backed (h : Backed V o) (hs : o.status ≠ .refunded)
    (hV : o.razorpayOrderId ∈ V) : BackedResult V (provisionPendingOrder others a payment o) := by
  unfold provisionPendingOrder
  split_ifs
  · exact h.result
  · refine provisionOrder_backed (o := (o.paidBy payment).recovered) rfl hV
      (recovered_ne_refunded hs) fun ht => ?_
    -- The rollback takes the payment back, of a transfer.
    unfold Order.unlessInFlight
    split_ifs
    · exact h
    · exact h.write rfl rfl fun hstart => absurd (hstart.1.symm.trans ht) (by simp)

theorem openproviderCallback_backed {status : CallbackStatus} (h : Backed V o)
    (hid : o.openProviderDomainId.isSome = true) : Backed V (openproviderCallback status o) := by
  cases status with
  | active => exact h.held hid
  | failed => exact h.held hid
  | other => exact h

theorem paymentFailed_backed (h : Backed V o) : Backed V (paymentFailed o) := by
  unfold paymentFailed
  split_ifs
  · exact h.stop (by simp [AfterPayment])
  · exact h

theorem adminRefund_backed {net : Razorpay.RefundNetwork} (h : Backed V o) :
    BackedResult V (adminRefund net p o).result := by
  constructor
  · show Backed V (adminRefund net p o).order
    rcases adminRefund_cases net p o with heq | ⟨id, heq⟩
    · rwa [heq]
    · rw [heq]
      exact h.refunded
  · intro x reply (hmem : .register x reply ∈ (adminRefund net p o).events)
    rcases adminRefund_events net p o with heq | heq
    · rw [heq] at hmem
      exact absurd hmem (by simp)
    · rw [heq] at hmem
      exact absurd hmem (by simp)

theorem reopenTransfer_backed {r : OrderId} (h : Backed V o) : Backed V (reopenTransfer r o) := by
  unfold reopenTransfer
  split_ifs with hc
  · exact Backed.unpaidTransfer (o := o.reopened r) hc.1 hc.2.1
  · exact h

theorem retryTransferPayment_backed {r : OrderId} (h : Backed V o) :
    Backed V (retryTransferPayment r o) := by
  unfold retryTransferPayment
  split_ifs with hc
  · have hpaid : o.paid = false := by
      unfold Order.retryable at hc
      exact (of_decide_eq_true hc).2.2.2.1
    exact Backed.unpaidTransfer rfl hpaid
  · exact h

theorem verifyTransferPayment_backed (h : Backed V o)
    (hV : o.razorpayPaymentId ≠ some payment ∧ valid = true → o.razorpayOrderId ∈ V) :
    BackedResult V (verifyTransferPayment c t payment valid p o).result := by
  unfold verifyTransferPayment
  split_ifs with hsame hvalid
  · exact h.result
  · exact (h.stop (by simp [AfterPayment])).result
  · exact (provisionTransfer_does c t p { o.paidBy payment with status := .paymentCompleted }).backed
      rfl (hV ⟨hsame, by simpa using hvalid⟩)

theorem transferReconcile_backed (h : Backed V o) :
    BackedResult V (transferReconcile c t p o).result := by
  unfold transferReconcile
  split_ifs with hc
  · exact (provisionTransfer_does c t p o).backed hc.2.2.1 (h.verified hc.2.2.1)
  · exact h.result

theorem verifyRenewalPayment_backed {payload : RenewalPayload} {a : RenewalAnswers}
    (h : Backed V o) : BackedResult V (verifyRenewalPayment payload valid a o) := by
  unfold verifyRenewalPayment
  split
  · exact h.result
  · next q hq =>
    split_ifs
    · exact h.result
    · exact h.sync.result
    · exact h.result
    · refine ⟨?_, fun x reply hmem => absurd (provisionRenewal_events _ hmem) (by simp)⟩
      rcases provisionRenewal_order a (payload.periodYears q) o
        { o with lastRenewalPaymentId := some payload.razorpayPaymentId } with heq | heq
      · rwa [heq]
      · rw [heq]
        exact Backed.sync (h.write rfl rfl fun hstart => hstart)

/-! ## Every visit keeps orders backed -/

/-- The Razorpay orders verified after the visit. -/
def verifiedBy (act : Act) (o : Order) (V : List (Option OrderId)) : List (Option OrderId) :=
  if act.verifies o then o.razorpayOrderId :: V else V

theorem subset_verifiedBy : V ⊆ verifiedBy act o V := by
  unfold verifiedBy
  split_ifs
  · exact List.subset_cons_self _ _
  · exact List.Subset.refl _

theorem mem_verifiedBy (h : act.verifies o = true) : o.razorpayOrderId ∈ verifiedBy act o V := by
  unfold verifiedBy
  rw [if_pos h]
  exact List.mem_cons_self

/-- What a visit that sees the payment leaves is backed. -/
theorem run_backed (h : Backed V o) (hok : act.PaymentSeen o) :
    BackedResult (verifiedBy act o V) (act.run c others o) := by
  have hsame : Backed (verifiedBy act o V) o := h.mono subset_verifiedBy
  have hV : act.verifies o = true → o.razorpayOrderId ∈ verifiedBy act o V := mem_verifiedBy
  cases act with
  | verifyAndProvision paymentId valid sync a => exact verifyAndProvision_backed hsame hok hV
  | paymentCaptured payment sync a t p => exact completePaymentFromWebhook_backed hsame (hV rfl)
  | retryProvision a => exact retryProvision_backed hsame hok
  | adminRetry a => exact retryProvision_backed hsame hok
  | runProvisionRetry a => exact runProvisionRetry_backed hsame
  | recoverStale a aged sync => exact recoverStale_backed hsame
  | cartVerify payment a => exact completeDomainRegistration_backed hok (hV rfl)
  | cartRecover payment a => exact provisionPendingOrder_backed hsame hok (hV rfl)
  | pendingReconcile sync =>
    show BackedResult _ (pendingReconcile sync o, [])
    unfold pendingReconcile
    split_ifs
    · exact hsame.sync.result
    · exact hsame.result
  | pageSync sync => exact hsame.sync.result
  | callback status =>
    show BackedResult _ (if o.openProviderDomainId.isSome then _ else o, [])
    split_ifs with hid
    · exact (openproviderCallback_backed hsame hid).result
    · exact hsame.result
  | paymentFailed => exact (paymentFailed_backed hsame).result
  | refundProcessed id => exact hsame.refunded.result
  | adminRefund net p => exact adminRefund_backed hsame
  | expireStale aged => exact hsame.expired.result
  | cancelCheckout => exact hsame.expired.result
  | reopenTransfer r => exact (reopenTransfer_backed hsame).result
  | retryTransferPayment r => exact (retryTransferPayment_backed hsame).result
  | verifyTransfer payment valid t p =>
    exact verifyTransferPayment_backed hsame fun hv => hV (by simpa [Act.verifies] using hv)
  | transferReconcile t p => exact transferReconcile_backed hsame
  | createRenewal q =>
    exact (hsame.write rfl rfl fun hstart => hstart : Backed _ (o.withPending q)).result
  | verifyRenewal payload valid a => exact verifyRenewalPayment_backed hsame

/-! ## Runs -/

/-- What holds of the table and the log. -/
structure Desk.Backed (w : Desk) : Prop where
  rows : ∀ o ∈ w.orders, Storefront.Backed w.verified o
  log : w.RegistersPaid

theorem backed_insert (h : w.Backed) (ho : Backed w.verified o) : (w.insert o).Backed := by
  refine ⟨fun x hx => ?_, h.log⟩
  rcases List.mem_append.mp hx with hx | hx
  · exact h.rows x hx
  · rw [List.mem_singleton.mp hx]
    exact ho

theorem backed_step (h : w.Backed) (hok : w.PaymentSeen op) : (w.step c op).Backed := by
  have hnew : ∀ {x : Order}, x.status = .created → x.openProviderDomainId = none → x.paid = false →
      Backed w.verified x := by
    intro x hs hid hpaid
    refine ⟨fun hstart => ?_, fun hp => absurd (hp.symm.trans hpaid) (by simp)⟩
    rcases hstart.2 with hstart | hstart
    · exact absurd hstart (by simp [AfterPayment, hs])
    · rw [hid] at hstart
      exact absurd hstart (by simp)
  cases op with
  | create buyerId fqdn email phone price r => exact backed_insert h (hnew rfl rfl rfl)
  | createTransfer buyerId fqdn email phone price r => exact backed_insert h (hnew rfl rfl rfl)
  | createPaid buyerId fqdn email phone price r payment active =>
    refine ⟨fun x hx => ?_, fun o reply hmem => ?_⟩
    · rcases List.mem_append.mp hx with hx | hx
      · exact (h.rows x hx).mono (List.subset_cons_self _ _)
      · rw [List.mem_singleton.mp hx]
        exact backed_of_paid rfl List.mem_cons_self
    · obtain ⟨hV, hs⟩ := h.log o reply hmem
      exact ⟨List.mem_cons_of_mem _ hV, hs⟩
  | visit id act =>
    show (w.visit c id act).Backed
    cases hlookup : Table.lookup Order.id id w.orders with
    | none => rwa [Desk.visit_of_absent hlookup]
    | some x =>
      obtain ⟨hx, -⟩ := Table.lookup_eq_some hlookup
      obtain ⟨hrow, hcalls⟩ : BackedResult _ (act.run c (w.holders id) x) :=
        run_backed (h.rows x hx) (hok x hlookup)
      rw [Desk.visit_of_lookup hlookup]
      refine ⟨fun y hy => ?_, fun o reply hmem => ?_⟩
      · obtain ⟨z, hz, heq⟩ := List.mem_map.mp hy
        split_ifs at heq
        · subst heq
          exact hrow
        · subst heq
          exact (h.rows z hz).mono subset_verifiedBy
      · rcases List.mem_append.mp hmem with hmem | hmem
        · obtain ⟨hV, hs⟩ := h.log o reply hmem
          exact ⟨subset_verifiedBy hV, hs⟩
        · exact hcalls o reply hmem

/-- **Every registration is paid for** in every run whose visits see the payment. -/
theorem registers_paid {ops : List Op} (hok : Meets (Desk.step c) Desk.PaymentSeen .empty ops) :
    (exec (Desk.step c) .empty ops).RegistersPaid := by
  have hempty : Desk.empty.Backed :=
    ⟨fun _ h => absurd h (by simp [Desk.empty]), fun _ _ h => absurd h (by simp [Desk.empty])⟩
  exact (exec_inv (fun _ _ h hl => backed_step h hl) hempty hok).log

/-! ## Runs that break it -/

/-- An order for a domain that is free, then `last`. -/
def orderRun (last : List Act) : List Op :=
  .create 0 0 0 true 79900 0 :: last.map (.visit 0)

theorem registers_paid_verify :
    (exec (Desk.step .ascii) .empty
      (orderRun [.verifyAndProvision (some 0) true none (.registers 1 true)])).RegistersPaid := by
  refine registers_paid ⟨trivial, fun o ho => ?_, trivial⟩
  obtain rfl := Option.some.inj (ho : some (Order.created 0 0 0 0 true 79900 0) = some o)
  exact fun hid => absurd hid (by decide)

/-- The order that `orderRun` registers without a payment. -/
def Order.unpaidCall : Order :=
  { Order.created 0 0 0 0 true 79900 0 with provisionAttempts := 1, openProviderHandle := some 0 }

/-- **The retry of an order nobody paid registers its domain**, and so does a verify without a
payment id. -/
theorem unpaid_retry_registers :
    ¬ (exec (Desk.step .ascii) .empty (orderRun [.retryProvision (.registers 1 true)])).RegistersPaid ∧
      ¬ (exec (Desk.step .ascii) .empty
        (orderRun [.verifyAndProvision none false none (.registers 1 true)])).RegistersPaid := by
  refine ⟨fun h => ?_, fun h => ?_⟩
  · exact absurd (h Order.unpaidCall (.accepted 1 true) (by decide)).1 (by decide)
  · exact absurd (h Order.unpaidCall (.accepted 1 true) (by decide)).1 (by decide)

end Deltapreneur.Storefront
