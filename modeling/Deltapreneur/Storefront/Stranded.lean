import Deltapreneur.Storefront.Desk

/-!
# Captured transfer payments

A capture reaches a transfer's row by the webhook and by `verify_transfer_payment`, in any order
and any number of times; the jobs select rows by their two statuses. A reported payment is in good
hands (`Order.Handled`) when the transfer is submitted or completed, waits for
`run_transfer_pending_reconcile`, has failed or is refunded.

* The webhook only polls a transfer: it notes the payment and leaves `CREATED` and `EXPIRED` as they
  are. The verify that follows takes the payment for one that was processed before.
* `verify_transfer_payment` commits `PAYMENT_COMPLETED` before the lookup of the name. When that
  raises, `transfer_status` stays what it was.
* `Report.Recorded` leaves these two out.

Results:

* `handled_step_iff`: the step of a report is safe exactly in this case.
* `capture_never_stranded`: in every run of such steps a reported payment is in good hands.
* `webhook_first_strands`: otherwise the order expires with the customer's money, or waits for a
  submission that nobody makes.
-/

namespace Deltapreneur.Storefront

open Registration (RegistrationId)
open Run

/-! ## The row and its reports -/

/-- `list_transfer_reconcile_candidates` selects the row. -/
def Order.Queued (o : Order) : Prop :=
  o.status = .paymentCompleted ∧ o.transferStatus = .pending ∧ o.paid = true ∧
    o.openProviderDomainId = none

/-- The transfer is submitted or completed, queued, failed or refunded. -/
def Order.Handled (o : Order) : Prop :=
  o.status = .registrationPending ∨ o.status = .active ∨ o.Queued ∨ o.status = .provisionFailed ∨
    o.status = .refunded

instance (o : Order) : Decidable o.Handled := by
  unfold Order.Handled Order.Queued
  infer_instance

/-- What happens to the row. -/
inductive Report
  /-- The webhook `payment.captured`. -/
  | captured (payment : PaymentId) (sync : Option Bool) (a : Answers) (t : TransferAnswers)
    (p : Razorpay.Payment)
  /-- `verify_transfer_payment` with a valid signature. -/
  | verified (payment : PaymentId) (t : TransferAnswers) (p : Razorpay.Payment)
  /-- `run_transfer_pending_reconcile`. -/
  | tick (t : TransferAnswers) (p : Razorpay.Payment)
  | expire (aged : Bool)

def Report.act : Report → Act
  | .captured payment sync a t p => .paymentCaptured payment sync a t p
  | .verified payment t p => .verifyTransfer payment true t p
  | .tick t p => .transferReconcile t p
  | .expire aged => .expireStale aged

def Report.reports : Report → Bool
  | .captured _ _ _ _ _ => true
  | .verified _ _ _ => true
  | _ => false

/-- The row, and whether its payment was reported. -/
structure Sale where
  order : Order
  reported : Bool

namespace Sale

def step (c : Config) (others : Holders) (s : Sale) (r : Report) : Sale :=
  ⟨(r.act.run c others s.order).1, s.reported || r.reports⟩

/-- A reported payment is in good hands. -/
def Safe (s : Sale) : Prop := s.reported = true → s.order.Handled

instance (s : Sale) : Decidable s.Safe := inferInstanceAs (Decidable (_ → _))

/-- The row of `create_transfer_payment_order`. -/
def opened (id : RegistrationId) (buyerId : UserId) (fqdn : Fqdn) (buyerEmail : Email)
    (phoneValid : Bool) (priceInr : Paise) (r : OrderId) : Sale where
  order := { Order.created id buyerId fqdn buyerEmail phoneValid priceInr r with
    transferStatus := .paymentPending, transferAuthCode := true }
  reported := false

end Sale

/-- The webhook finds the payment recorded, and a lookup that raises finds the transfer queued. -/
def Report.Recorded (o : Order) : Report → Prop
  | .captured _ _ _ _ _ => o.paid = true
  | .verified payment t _ =>
    o.razorpayPaymentId = some payment ∨ o.openProviderDomainId.isSome = true ∨
      o.transferStatus = .pending ∨ ∀ e, t.found ≠ .error e
  | _ => True

/-- What holds before and after every report: a payment is noted when it is reported. -/
structure Sale.Tracked (s : Sale) : Prop where
  transfer : s.order.isTransfer = true
  code : s.order.transferAuthCode = true
  paid : s.order.paid = s.reported
  unreported : s.reported = false →
    (s.order.status = .created ∨ s.order.status = .expired) ∧ s.order.openProviderDomainId = none
  safe : s.Safe

/-! ## One step -/

variable {c : Config} {others : Holders} {t : TransferAnswers} {p : Razorpay.Payment} {o : Order}
  {left : Left} {s : Sale} {r : Report} {payment : PaymentId} {answer : Option Bool}

theorem failTransferAndRefund_status (net : Razorpay.RefundNetwork) (p : Razorpay.Payment)
    (o : Order) :
    (failTransferAndRefund net p o).order.status = .provisionFailed ∨
      (failTransferAndRefund net p o).order.status = .refunded := by
  rcases failTransferAndRefund_cases net p o with heq | ⟨id, heq⟩
  · rw [heq]
    exact .inl rfl
  · rw [heq]
    exact .inr rfl

theorem handleFailure_handled {raw : Text} {net : Razorpay.RefundNetwork}
    (hs : o.status = .paymentCompleted) (hpaid : o.paid = true)
    (hid : o.openProviderDomainId = none) :
    (handleTransferProvisionFailure c raw net p o).order.Handled := by
  rcases handleFailure_cases c raw net p o with ⟨-, -, heq⟩ | ⟨-, o₁, -, heq⟩
  · rw [heq]
    exact .inr (.inr (.inl ⟨hs, rfl, hpaid, hid⟩))
  · rw [heq]
    exact .inr (.inr (.inr (failTransferAndRefund_status net p o₁)))

theorem Submission.handled (h : Submission c t p o left) (hs : o.status = .paymentCompleted)
    (hpaid : o.paid = true) (hcode : o.transferAuthCode = true) :
    (left.order = o ∧ o.openProviderDomainId = none ∧ ∃ e, t.found = .error e) ∨
      left.order.Handled := by
  cases h with
  | untouched h =>
    rcases h with h | h
    · exact absurd h (by simp [hcode])
    · exact .inl ⟨rfl, h⟩
  | adopted d h => exact .inr (.inl rfl)
  | accepted handle id named hid htransfer => exact .inr (.inl rfl)
  | unsent raw hid => exact .inr (handleFailure_handled hs hpaid hid)
  | refused handle raw hid htransfer =>
    have hs' : (o.handled handle).status = .paymentCompleted := hs
    have hpaid' : (o.handled handle).paid = true := hpaid
    exact .inr (handleFailure_handled hs' hpaid' hid)

theorem Order.Handled.paidBy (h : o.Handled) : (o.paidBy payment).Handled := by
  rcases h with h | h | ⟨hs, ht, -, hid⟩ | h
  · exact .inl h
  · exact .inr (.inl h)
  · exact .inr (.inr (.inl ⟨hs, ht, rfl, hid⟩))
  · exact .inr (.inr (.inr h))

theorem Order.Handled.sync (h : o.Handled) : (o.sync answer).Handled := by
  rcases sync_cases_row o answer with heq | ⟨-, -, heq⟩
  · rwa [heq]
  · rw [heq]
    exact .inr (.inl rfl)

/-- Transfers stay transfers and keep their code. -/
theorem run_transfer (h : s.Tracked) (r : Report) :
    (r.act.run c others s.order).1.isTransfer = true ∧
      (r.act.run c others s.order).1.transferAuthCode = true := by
  obtain ⟨ht, hcode, -, -, -⟩ := h
  cases r with
  | captured payment sync a t p =>
    show (completePaymentFromWebhook c others a t sync _ payment p s.order).order.isTransfer = true ∧
      (completePaymentFromWebhook c others a t sync _ payment p s.order).order.transferAuthCode = true
    rcases webhook_transfer c others a t p ht with ⟨heq, -⟩ | ⟨heq, -⟩
    · rw [heq]
      exact ⟨ht, hcode⟩
    · rw [heq]
      exact ⟨isTransfer_sync ht, transferAuthCode_sync.trans hcode⟩
  | verified payment t p =>
    show (verifyTransferPayment c t payment true p s.order).order.isTransfer = true ∧
      (verifyTransferPayment c t payment true p s.order).order.transferAuthCode = true
    by_cases hsame : s.order.razorpayPaymentId = some payment
    · unfold verifyTransferPayment
      rw [if_pos hsame]
      exact ⟨ht, hcode⟩
    · rw [verifyTransfer_valid hsame]
      have hdoes := provisionTransfer_does c t p
        { s.order.paidBy payment with status := .paymentCompleted }
      exact ⟨hdoes.keepsTransfer ht, hdoes.sameSale.transferAuthCode.trans hcode⟩
  | tick t p =>
    show (transferReconcile c t p s.order).order.isTransfer = true ∧
      (transferReconcile c t p s.order).order.transferAuthCode = true
    unfold transferReconcile
    split_ifs with hselected
    · have hdoes := provisionTransfer_does c t p s.order
      exact ⟨hdoes.keepsTransfer ht, hdoes.sameSale.transferAuthCode.trans hcode⟩
    · exact ⟨ht, hcode⟩
  | expire aged =>
    show (expireStale aged s.order).isTransfer = true ∧
      (expireStale aged s.order).transferAuthCode = true
    unfold expireStale
    split_ifs <;> exact ⟨ht, hcode⟩

theorem Order.Handled.status_ne (h : o.Handled) : o.status ≠ .created ∧ o.status ≠ .expired := by
  unfold Order.Handled Order.Queued at h
  constructor
  · intro hs
    simp [hs] at h
  · intro hs
    simp [hs] at h

/-- The webhook is safe exactly for a recorded payment: otherwise it notes the payment on a row
that stays created or expired. -/
theorem captured_handled_iff (h : s.Tracked) (a : Answers) :
    (completePaymentFromWebhook c others a t answer s.order.isTransfer payment p
      s.order).order.Handled ↔ s.order.paid = true := by
  constructor
  · intro hhandled
    by_contra hpaid
    have hreported : s.reported = false := by simpa [h.paid] using hpaid
    obtain ⟨hstatus, hid⟩ := h.unreported hreported
    have hunsafe : ∀ o : Order, o.status = s.order.status → ¬ o.Handled := by
      intro o heq ho
      rcases hstatus with hs | hs
      · exact ho.status_ne.1 (heq.trans hs)
      · exact ho.status_ne.2 (heq.trans hs)
    rcases webhook_transfer c others a t p h.transfer with ⟨heq, -⟩ | ⟨heq, -⟩
    · rw [heq] at hhandled
      exact hunsafe s.order rfl hhandled
    · have hsync : (s.order.paidBy payment).sync answer = s.order.paidBy payment :=
        if_neg fun hc => absurd hc.1 (by simp [Order.paidBy, hid])
      rw [heq, hsync] at hhandled
      exact hunsafe (s.order.paidBy payment) rfl hhandled
  · intro hpaid
    have hhandled : s.order.Handled := h.safe (h.paid.symm.trans hpaid)
    rcases webhook_transfer c others a t p h.transfer with ⟨heq, -⟩ | ⟨heq, -⟩
    · rwa [heq]
    · rw [heq]
      exact hhandled.paidBy.sync

theorem provisionTransfer_raises {e : Text} (hcode : o.transferAuthCode = true)
    (hid : o.openProviderDomainId = none) (herr : t.found = .error e) :
    provisionTransfer c t p o = ⟨o, p, []⟩ := by
  unfold provisionTransfer
  rw [if_neg (by simp [hcode]), hid, herr]

/-- The verify is safe exactly if its lookup does not leave the row where no job looks. -/
theorem verified_handled_iff (h : s.Tracked) :
    (verifyTransferPayment c t payment true p s.order).order.Handled ↔
      (s.order.razorpayPaymentId = some payment ∨ s.order.openProviderDomainId.isSome = true ∨
        s.order.transferStatus = .pending ∨ ∀ e, t.found ≠ .error e) := by
  by_cases hsame : s.order.razorpayPaymentId = some payment
  · have hpaid : s.order.paid = true := by
      unfold Order.paid
      rw [hsame]
      rfl
    unfold verifyTransferPayment
    rw [if_pos hsame]
    exact ⟨fun _ => .inl hsame, fun _ => h.safe (h.paid.symm.trans hpaid)⟩
  · rw [verifyTransfer_valid hsame]
    generalize ho : ({ s.order.paidBy payment with status := .paymentCompleted } : Order) = o
    have hs : o.status = .paymentCompleted := by rw [← ho]
    have hpaid : o.paid = true := by rw [← ho]; rfl
    have hts : o.transferStatus = s.order.transferStatus := by rw [← ho]; rfl
    have hid : o.openProviderDomainId = s.order.openProviderDomainId := by rw [← ho]; rfl
    have hcode : o.transferAuthCode = true := by rw [← ho]; exact h.code
    constructor
    · intro hhandled
      by_contra hc
      push Not at hc
      obtain ⟨-, hnone, hpending, e, herr⟩ := hc
      have hnone' : o.openProviderDomainId = none := by simpa [hid] using hnone
      rw [provisionTransfer_raises hcode hnone' herr] at hhandled
      simp [Order.Handled, Order.Queued, hs, hts, hpending] at hhandled
    · intro hc
      rcases (provisionTransfer_does c t p o).handled hs hpaid hcode with
        ⟨heq, hnone, e, herr⟩ | hhandled
      · rw [heq]
        rcases hc with hc | hc | hc | hc
        · exact absurd hc hsame
        · exact absurd hc (by simp [← hid, hnone])
        · exact .inr (.inr (.inl ⟨hs, hts.trans hc, hpaid, hnone⟩))
        · exact absurd herr (hc e)
      · exact hhandled

theorem tick_handled (h : s.Tracked) (hhandled : s.order.Handled) :
    (transferReconcile c t p s.order).order.Handled := by
  unfold transferReconcile
  split_ifs with hselected
  · rcases (provisionTransfer_does c t p s.order).handled hselected.1 hselected.2.2.1 h.code with
      ⟨heq, -⟩ | hhandled'
    · rwa [heq]
    · exact hhandled'
  · exact hhandled

/-- **A report is safe exactly when it meets the condition.** -/
theorem handled_step_iff (h : s.Tracked) : (s.step c others r).Safe ↔ r.Recorded s.order := by
  have hreports : (s.step c others r).reported = true →
      ((s.step c others r).Safe ↔ (r.act.run c others s.order).1.Handled) :=
    fun h => ⟨fun hsafe => hsafe h, fun hhandled _ => hhandled⟩
  cases r with
  | captured payment sync a t p =>
    rw [hreports (Bool.or_true _)]
    exact captured_handled_iff h a
  | verified payment t p =>
    rw [hreports (Bool.or_true _)]
    exact verified_handled_iff h
  | tick t p =>
    refine ⟨fun _ => trivial, fun _ hreported => ?_⟩
    exact tick_handled h (h.safe (by simpa [Sale.step, Report.reports] using hreported))
  | expire aged =>
    refine ⟨fun _ => trivial, fun _ hreported => ?_⟩
    have hhandled := h.safe (by simpa [Sale.step, Report.reports] using hreported)
    show (expireStale aged s.order).Handled
    unfold expireStale
    rwa [if_neg fun hc => hhandled.status_ne.1 hc.1]

/-! ## Runs -/

/-- A payment is noted when it is reported. -/
theorem run_paid (h : s.Tracked) (hok : r.Recorded s.order) :
    (r.act.run c others s.order).1.paid = (s.reported || r.reports) := by
  cases r with
  | captured payment sync a t p =>
    rw [show Report.reports _ = true from rfl, Bool.or_true]
    show (completePaymentFromWebhook c others a t sync _ payment p s.order).order.paid = true
    rcases webhook_transfer c others a t p h.transfer with ⟨heq, -⟩ | ⟨heq, -⟩
    · rw [heq]
      exact hok
    · rw [heq]
      exact paid_sync
  | verified payment t p =>
    rw [show Report.reports _ = true from rfl, Bool.or_true]
    show (verifyTransferPayment c t payment true p s.order).order.paid = true
    by_cases hsame : s.order.razorpayPaymentId = some payment
    · unfold verifyTransferPayment Order.paid
      rw [if_pos hsame]
      simp [hsame]
    · rw [verifyTransfer_valid hsame]
      exact (provisionTransfer_does c t p _).sameSale.paid
  | tick t p =>
    rw [show Report.reports _ = false from rfl, Bool.or_false, ← h.paid]
    show (transferReconcile c t p s.order).order.paid = s.order.paid
    unfold transferReconcile
    split_ifs
    · exact (provisionTransfer_does c t p s.order).sameSale.paid
    · rfl
  | expire aged =>
    rw [show Report.reports _ = false from rfl, Bool.or_false, ← h.paid]
    show (expireStale aged s.order).paid = s.order.paid
    unfold expireStale
    split_ifs <;> rfl

theorem tracked_step (h : s.Tracked) (hok : r.Recorded s.order) :
    (s.step c others r).Tracked := by
  obtain ⟨ht, hcode⟩ : (r.act.run c others s.order).1.isTransfer = true ∧
      (r.act.run c others s.order).1.transferAuthCode = true := run_transfer h r
  refine ⟨ht, hcode, run_paid h hok, fun hreported => ?_, (handled_step_iff h).mpr hok⟩
  -- The jobs leave a row whose payment was not reported created or expired.
  have hboth : s.reported = false ∧ r.reports = false := by
    simpa [Sale.step, Bool.or_eq_false_iff] using hreported
  obtain ⟨hstatus, hid⟩ := h.unreported hboth.1
  cases r with
  | captured payment sync a t p => exact absurd hboth.2 (by simp [Report.reports])
  | verified payment t p => exact absurd hboth.2 (by simp [Report.reports])
  | tick t p =>
    have hnot : ¬ (s.order.status = .paymentCompleted ∧ s.order.transferStatus = .pending ∧
        s.order.paid = true ∧ s.order.openProviderDomainId = none) := by
      rintro ⟨hs, -⟩
      rcases hstatus with hs' | hs'
      · cases hs.symm.trans hs'
      · cases hs.symm.trans hs'
    have hsame : (s.step c others (.tick t p)).order = s.order := by
      show (transferReconcile c t p s.order).order = s.order
      unfold transferReconcile
      rw [if_neg hnot]
    rw [hsame]
    exact ⟨hstatus, hid⟩
  | expire aged =>
    show ((expireStale aged s.order).status = .created ∨ (expireStale aged s.order).status = .expired) ∧
      (expireStale aged s.order).openProviderDomainId = none
    unfold expireStale
    split_ifs
    · exact ⟨.inr rfl, hid⟩
    · exact ⟨hstatus, hid⟩

/-- **A captured payment is never stranded**, in every run in which the webhook finds the payment
recorded and no verify is stopped by its lookup. -/
theorem capture_never_stranded {id : RegistrationId} {buyerId : UserId} {fqdn : Fqdn}
    {buyerEmail : Email} {phoneValid : Bool} {priceInr : Paise} {rzp : OrderId} {rs : List Report}
    (hok : Meets (Sale.step c others) (fun s r => r.Recorded s.order)
      (.opened id buyerId fqdn buyerEmail phoneValid priceInr rzp) rs) :
    (exec (Sale.step c others) (.opened id buyerId fqdn buyerEmail phoneValid priceInr rzp)
      rs).Safe := by
  have hopened : (Sale.opened id buyerId fqdn buyerEmail phoneValid priceInr rzp).Tracked :=
    ⟨rfl, rfl, rfl, fun _ => ⟨.inl rfl, rfl⟩, fun h => absurd h (by simp [Sale.opened])⟩
  exact (exec_inv (fun _ _ h hl => tracked_step h hl) hopened hok).safe

/-! ## Runs that break it -/

/-- A transfer, and the registrar that accepts it. -/
def transferSale : Sale := .opened 0 0 0 0 true 79900 0

theorem capture_never_stranded_verify :
    (exec (Sale.step .ascii fun _ => []) transferSale
      [.verified 0 (.accepts 1) ⟨.captured, 79900, 0⟩,
        .captured 0 none (.registers 1 true) (.accepts 1) ⟨.captured, 79900, 0⟩, .expire true]).Safe :=
  capture_never_stranded ⟨.inr (.inr (.inr fun _ h => absurd h (by simp [TransferAnswers.accepts]))),
    rfl, trivial, trivial⟩

/-- **The webhook before the verify strands the payment**: the row is created still, the verify
takes it for processed, and it expires. A lookup that raises in the verify strands it, too. -/
theorem webhook_first_strands :
    ¬ (exec (Sale.step .ascii fun _ => []) transferSale
        [.captured 0 none (.registers 1 true) (.accepts 1) ⟨.captured, 79900, 0⟩,
          .verified 0 (.accepts 1) ⟨.captured, 79900, 0⟩, .expire true]).Safe ∧
      ¬ (exec (Sale.step .ascii fun _ => []) transferSale
        [.verified 0 ⟨.error [], .ok 0, .accepted 1 true, .fetchFails⟩ ⟨.captured, 79900, 0⟩,
          .tick (.accepts 1) ⟨.captured, 79900, 0⟩]).Safe := by
  decide

end Deltapreneur.Storefront
