import Deltapreneur.Storefront.Desk

/-!
# Carried out or refunded

A transfer whose one payment is captured: the submissions by `verify_transfer_payment` and
`run_transfer_pending_reconcile`, the refunds by their failure handling and by `admin_refund`, and
the webhooks.

* Razorpay captures one payment for a Razorpay order, and its amount is the order's price.
* `admin_refund` refunds whatever the admin points it at, a completed transfer, too
  (`canRefund` of `admin_list_orders`).
* A submission whose answer is lost is judged by the text of the error and by the number of
  attempts; the next one looks the name up before it submits again.

Results:

* `transfer_refunds`: in every run there is at most one refund, nothing is submitted after a
  recorded one, and an accepted transfer is refunded only by an admin, or if its answer was lost.
* `admin_refunds_accepted`: an admin refunds an accepted transfer.
-/

namespace Deltapreneur.Storefront

open Razorpay (Payment RefundId RefundNetwork)
open Run

/-! ## The transfer and what happens to it -/

def Event.isRefund : Event → Bool
  | .refund _ => true
  | _ => false

/-- A call of `transfer_domain`. -/
def Event.submits : Event → Bool
  | .transfer _ _ => true
  | _ => false

/-- The registrar accepted the transfer. -/
def Event.accepted : Event → Bool
  | .transfer _ reply => reply.created.isSome
  | _ => false

/-- The registrar accepted the transfer, and its answer arrived. -/
def Event.answered : Event → Bool
  | .transfer _ (.accepted _ _) => true
  | _ => false

/-- The row, Razorpay's record of its payment, and what was done outside the database. -/
structure TransferCase where
  order : Order
  payment : Payment
  log : List Event

inductive TransferOp
  | verify (id : PaymentId) (genuine : Bool) (t : TransferAnswers)
  /-- `run_transfer_pending_reconcile`. -/
  | tick (t : TransferAnswers)
  | adminRefund (net : RefundNetwork)
  | paymentCaptured (a : Answers) (t : TransferAnswers) (answer : Option Bool)
  | paymentFailed
  | refundProcessed (id : RefundId)
  /-- A poll of a submitted transfer. -/
  | poll (answer : Option Bool)

def TransferOp.submission : TransferOp → Option TransferAnswers
  | .verify _ _ t => some t
  | .tick t => some t
  | _ => none

namespace TransferCase

/-- The operation, where `pay` is the payment that Razorpay has captured. -/
def run (c : Config) (others : Holders) (pay : PaymentId) (s : TransferCase) : TransferOp → Left
  | .verify id genuine t =>
    verifyTransferPayment c t id (genuine && id == pay) s.payment s.order
  | .tick t => transferReconcile c t s.payment s.order
  | .adminRefund net => adminRefund net s.payment s.order
  | .paymentCaptured a t answer =>
    completePaymentFromWebhook c others a t answer s.order.isTransfer pay s.payment s.order
  | .paymentFailed => ⟨paymentFailed s.order, s.payment, []⟩
  | .refundProcessed id =>
    ⟨if s.log.any Event.isRefund then s.order.refunded id else s.order, s.payment, []⟩
  | .poll answer => ⟨s.order.sync answer, s.payment, []⟩

def step (c : Config) (others : Holders) (pay : PaymentId) (s : TransferCase) (op : TransferOp) :
    TransferCase :=
  let left := s.run c others pay op
  ⟨left.order, left.payment, s.log ++ left.events⟩

/-- A new transfer, and the payment for it. -/
structure Starts (s : TransferCase) : Prop where
  transfer : s.order.isTransfer = true
  unpaid : s.order.razorpayPaymentId = none
  unrefunded : s.order.razorpayRefundId = none
  price : s.payment.amount = s.order.priceInr
  log : s.log = []

/-- A step refunds no accepted transfer, submits none after a refund, and leaves at most one
refund. -/
def EitherOr (s : TransferCase) (s' : TransferCase) : Prop :=
  (∀ e ∈ s'.log.drop s.log.length, e.isRefund = true → ∀ e ∈ s'.log, e.accepted = false) ∧
    (∀ e ∈ s'.log.drop s.log.length, e.submits = true → ∀ e ∈ s.log, e.isRefund = false) ∧
      s'.log.countP Event.isRefund ≤ 1

/-- The refund of an accepted transfer is an admin's; or no acceptance was answered, and the
submission itself lost its answer, in a way that is taken for final, or did not find what was
accepted before. -/
def Excused (c : Config) (s : TransferCase) (op : TransferOp) (s' : TransferCase) : Prop :=
  (∃ net, op = .adminRefund net) ∨
    ∃ t, op.submission = some t ∧ (∀ e ∈ s'.log, e.answered = false) ∧
      ((∃ id raw, t.transfer = .lost id raw ∧ (isDefinitiveTransferFailure c raw = true ∨
          c.maxProvisionAttempts ≤ s.order.provisionAttempts + 1)) ∨
        (t.found = .ok none ∧ ∃ e ∈ s.log, e.accepted = true))

/-- The refund of an accepted transfer is excused, nothing is submitted after a recorded refund, and
there is at most one refund. -/
structure Sound (c : Config) (s : TransferCase) (op : TransferOp) (s' : TransferCase) : Prop where
  refunds : (∃ e ∈ s'.log.drop s.log.length, e.isRefund = true) →
    (∃ e ∈ s'.log, e.accepted = true) → s.Excused c op s'
  submits : s.order.razorpayRefundId.isSome = true →
    ∀ e ∈ s'.log.drop s.log.length, e.submits = false
  once : s'.log.countP Event.isRefund ≤ 1

/-- Nothing more is to be submitted. -/
def Closed (s : TransferCase) : Prop :=
  s.order.razorpayRefundId.isSome = true ∨ ∃ e ∈ s.log, e.answered = true

/-- What holds before and after every step. -/
structure Kept (pay : PaymentId) (s : TransferCase) : Prop where
  transfer : s.order.isTransfer = true
  payment : s.order.paid = true → s.order.razorpayPaymentId = some pay
  price : s.payment.amount = s.order.priceInr
  refund : s.log.countP Event.isRefund = 0 ∨
    (s.log.countP Event.isRefund = 1 ∧ s.payment.fullyRefunded = true ∧ s.order.paid = true)
  closed : s.Closed → s.order.paid = true ∧ s.order.status ≠ .paymentCompleted

end TransferCase

/-! ## The gateway -/

variable {c : Config} {others : Holders} {pay : PaymentId} {s : TransferCase} {op : TransferOp}
  {t : TransferAnswers} {p : Payment} {o : Order} {net : RefundNetwork} {raw : Text} {left : Left}

/-- Nothing is refunded, or the whole payment is. -/
def Left.Refunds (p : Payment) (o : Order) (left : Left) : Prop :=
  (left.payment = p ∧ left.events.countP Event.isRefund = 0) ∨
    (p.fullyRefunded = false ∧ left.payment.fullyRefunded = true ∧
      left.payment.amount = p.amount ∧ left.events.countP Event.isRefund = 1 ∧ o.paid = true)

theorem adminRefund_refunds (hprice : p.amount = o.priceInr) :
    (adminRefund net p o).Refunds p o := by
  rcases adminRefund_does net p o with heq | ⟨hpaid, hproc, o', -, heq⟩
  · rw [heq]
    exact .inl ⟨rfl, rfl⟩
  · obtain ⟨hopen, hfull⟩ := Razorpay.refundPayment_full (le_of_eq hprice) hproc
    have hp : (Razorpay.refundPayment p o.priceInr net).2.1 =
        p.payBack (p.refundAmount o.priceInr) := by
      rcases Razorpay.refundPayment_cases p o.priceInr net with ⟨hcase, -⟩ | ⟨-, -, -, hcase⟩
      · rw [hcase] at hproc
        cases hproc
      · rw [hcase]
    rw [heq]
    exact .inr ⟨hopen, hp ▸ hfull, rfl, rfl, hpaid⟩

theorem failTransferAndRefund_refunds (hprice : p.amount = o.priceInr) :
    (failTransferAndRefund net p o).Refunds p o := by
  unfold failTransferAndRefund
  split_ifs
  · exact .inl ⟨rfl, rfl⟩
  · exact adminRefund_refunds (o := o.transferFailed) hprice

theorem handleFailure_refunds (hprice : p.amount = o.priceInr) :
    (handleTransferProvisionFailure c raw net p o).Refunds p o := by
  rcases handleFailure_cases c raw net p o with ⟨-, -, heq⟩ | ⟨-, o₁, ho₁, heq⟩
  · rw [heq]
    exact .inl ⟨rfl, rfl⟩
  · rw [heq]
    rcases ho₁ with rfl | rfl
    · exact failTransferAndRefund_refunds hprice
    · exact failTransferAndRefund_refunds (o := o.counted) hprice

theorem Submission.refunds (h : Submission c t p o left) (hprice : p.amount = o.priceInr) :
    left.Refunds p o := by
  cases h with
  | untouched h => exact .inl ⟨rfl, rfl⟩
  | adopted d h => exact .inl ⟨rfl, rfl⟩
  | accepted handle id named hid ht hfound => exact .inl ⟨rfl, rfl⟩
  | unsent raw hid hfound => exact handleFailure_refunds hprice
  | refused handle raw hid ht hfound =>
    have hrefunds : (handleTransferProvisionFailure c raw t.net p (o.handled handle)).Refunds p
        (o.handled handle) := handleFailure_refunds hprice
    rcases hrefunds with ⟨hp, hcount⟩ | ⟨hopen, hfull, hamount, hcount, hpaid⟩
    · exact .inl ⟨hp, by simpa [Left.after, Event.isRefund] using hcount⟩
    · exact .inr ⟨hopen, hfull, hamount, by simpa [Left.after, Event.isRefund] using hcount, hpaid⟩

/-- Why a submission refunds: the lookup found nothing, no acceptance was answered, and if there
was one, its answer is lost and taken for final. -/
theorem Submission.refund_cause (h : Submission c t p o left)
    (hrefund : ∃ e ∈ left.events, e.isRefund = true) :
    t.found = .ok none ∧ (∀ e ∈ left.events, e.answered = false) ∧
      ((∃ e ∈ left.events, e.accepted = true) → ∃ id raw, t.transfer = .lost id raw ∧
        (isDefinitiveTransferFailure c raw = true ∨
          c.maxProvisionAttempts ≤ o.provisionAttempts + 1)) := by
  obtain ⟨e, he, hisRefund⟩ := hrefund
  cases h with
  | untouched h => cases he
  | adopted d h => cases he
  | accepted handle id named hid ht hfound =>
    rw [List.mem_singleton.mp he] at hisRefund
    cases hisRefund
  | unsent raw hid hfound =>
    have hevents := handleFailure_events c raw t.net p o
    refine ⟨hfound, fun e' he' => by rw [hevents e' he']; rfl, ?_⟩
    rintro ⟨e', he', haccepted⟩
    rw [hevents e' he'] at haccepted
    cases haccepted
  | refused handle raw hid ht hfound =>
    have hevents := handleFailure_events c raw t.net p (o.handled handle)
    -- The refund is the failure handling's, so the failure was final.
    have hfinal : isDefinitiveTransferFailure c raw = true ∨
        c.maxProvisionAttempts ≤ o.provisionAttempts + 1 := by
      rcases List.mem_cons.mp he with rfl | he
      · cases hisRefund
      · rcases handleFailure_cases c raw t.net p (o.handled handle) with ⟨-, -, heq⟩ | ⟨h, -⟩
        · rw [heq] at he
          cases he
        · exact h
    refine ⟨hfound, fun e' he' => ?_, ?_⟩
    · rcases List.mem_cons.mp he' with rfl | he'
      · rcases ht with ⟨id, heq⟩ | heq
        · rw [heq]
          rfl
        · rw [heq]
          rfl
      · rw [hevents e' he']
        rfl
    · rintro ⟨e', he', haccepted⟩
      rcases List.mem_cons.mp he' with rfl | he'
      · rcases ht with ⟨id, heq⟩ | heq
        · exact ⟨id, raw, heq, hfinal⟩
        · rw [heq] at haccepted
          cases haccepted
      · rw [hevents e' he'] at haccepted
        cases haccepted

/-- A submission that records a refund, or whose acceptance is answered, is not to be repeated. -/
theorem Submission.closed (h : Submission c t p o left) (hrefund : o.razorpayRefundId = none)
    (hclosed : left.order.razorpayRefundId.isSome = true ∨ ∃ e ∈ left.events, e.answered = true) :
    left.order.status ≠ .paymentCompleted := by
  have hfail : ∀ raw (x : Order), x.razorpayRefundId = none →
      (handleTransferProvisionFailure c raw t.net p x).order.razorpayRefundId.isSome = true →
      (handleTransferProvisionFailure c raw t.net p x).order.status ≠ .paymentCompleted := by
    intro raw x hx hsome
    rcases handleFailure_cases c raw t.net p x with ⟨-, -, heq⟩ | ⟨-, o₁, -, heq⟩
    · rw [heq] at hsome
      exact absurd hsome (by simp [Order.counted, hx])
    · rw [heq]
      rcases failTransferAndRefund_cases t.net p o₁ with heq | ⟨id, heq⟩
      · rw [heq]
        simp [Order.transferFailed]
      · rw [heq]
        simp [Order.refunded]
  have hunanswered : ∀ raw (x : Order), ∀ e ∈ (handleTransferProvisionFailure c raw t.net p x).events,
      e.answered = false := by
    intro raw x e he
    rw [handleFailure_events c raw t.net p x e he]
    rfl
  cases h with
  | untouched h =>
    rcases hclosed with hsome | ⟨e, he, -⟩
    · exact absurd hsome (by simp [hrefund])
    · cases he
  | adopted d h => simp [Order.transferring]
  | accepted handle id named hid ht hfound => simp [Order.transferring]
  | unsent raw hid hfound =>
    rcases hclosed with hsome | ⟨e, he, hanswered⟩
    · exact hfail raw o hrefund hsome
    · exact absurd hanswered (by simp [hunanswered raw o e he])
  | refused handle raw hid ht hfound =>
    rcases hclosed with hsome | ⟨e, he, hanswered⟩
    · exact hfail raw (o.handled handle) hrefund hsome
    · rcases List.mem_cons.mp he with rfl | he
      · rcases ht with ⟨id, heq⟩ | heq
        · rw [heq] at hanswered
          cases hanswered
        · rw [heq] at hanswered
          cases hanswered
      · exact absurd hanswered (by simp [hunanswered raw _ e he])

/-! ## One step -/

/-- A closed transfer is submitted no more. -/
theorem run_quiet (h : s.Kept pay) (hclosed : s.Closed) (hop : op.submission.isSome = true) :
    (s.run c others pay op).events = [] := by
  obtain ⟨hpaid, hstatus⟩ := h.closed hclosed
  have hpayment := h.payment hpaid
  cases op with
  | verify id genuine t =>
    show (verifyTransferPayment c t id (genuine && id == pay) s.payment s.order).events = []
    unfold verifyTransferPayment
    by_cases hid : id = pay
    · rw [if_pos (by rw [hpayment, hid])]
    · rw [if_neg (by rw [hpayment]; exact fun heq => hid (Option.some.inj heq).symm),
        if_pos (by simp [hid])]
  | tick t =>
    show (transferReconcile c t s.payment s.order).events = []
    unfold transferReconcile
    rw [if_neg fun hc => hstatus hc.1]
  | adminRefund net => cases hop
  | paymentCaptured a t answer => cases hop
  | paymentFailed => cases hop
  | refundProcessed id => cases hop
  | poll answer => cases hop

/-- A row that is written without a refund and without a submission. -/
theorem TransferCase.Kept.write (h : s.Kept pay) {o' : Order} (ht : o'.isTransfer = true)
    (hpayment : o'.razorpayPaymentId = some pay ∨
      o'.razorpayPaymentId = s.order.razorpayPaymentId)
    (hprice : o'.priceInr = s.order.priceInr)
    (hrefund : o'.razorpayRefundId = s.order.razorpayRefundId)
    (hstatus : s.order.status ≠ .paymentCompleted → o'.status ≠ .paymentCompleted) :
    TransferCase.Kept pay ⟨o', s.payment, s.log⟩ := by
  have hpaid : s.order.paid = true → o'.paid = true := by
    unfold Order.paid
    rcases hpayment with heq | heq
    · rw [heq]
      exact fun _ => rfl
    · rw [heq]
      exact fun h => h
  refine ⟨ht, fun hp => ?_, h.price.trans hprice.symm, ?_, fun hclosed => ?_⟩
  · rcases hpayment with heq | heq
    · exact heq
    · have hold : s.order.paid = true := by
        unfold Order.paid at hp ⊢
        rwa [heq] at hp
      exact heq.trans (h.payment hold)
  · exact h.refund.imp_right fun hr => ⟨hr.1, hr.2.1, hpaid hr.2.2⟩
  · have hold : s.Closed := by
      unfold TransferCase.Closed at hclosed ⊢
      rwa [hrefund] at hclosed
    exact ⟨hpaid (h.closed hold).1, hstatus (h.closed hold).2⟩

theorem TransferCase.Kept.refundCount (h : s.Kept pay) {o' : Order}
    (hleft : left.Refunds s.payment o) (hpaid : o.paid = true → o'.paid = true)
    (hpaid' : s.order.paid = true → o'.paid = true) :
    (s.log ++ left.events).countP Event.isRefund = 0 ∨
      ((s.log ++ left.events).countP Event.isRefund = 1 ∧ left.payment.fullyRefunded = true ∧
        o'.paid = true) := by
  rw [List.countP_append]
  rcases hleft with ⟨hp, hcount⟩ | ⟨hopen, hfull, -, hcount, hp⟩
  · rw [hcount, Nat.add_zero, hp]
    exact h.refund.imp_right fun hr => ⟨hr.1, hr.2.1, hpaid' hr.2.2⟩
  · rcases h.refund with hzero | ⟨-, hfull', -⟩
    · exact .inr ⟨by rw [hzero, hcount], hfull, hpaid hp⟩
    · exact absurd hfull' (by simp [hopen])

/-- A submission keeps the invariant. -/
theorem kept_submission (h : s.Kept pay) (hdoes : Submission c t s.payment o left)
    (ht : o.isTransfer = true) (hpayment : o.razorpayPaymentId = some pay)
    (hprice : o.priceInr = s.order.priceInr)
    (hrefund : o.razorpayRefundId = s.order.razorpayRefundId) (hopen : ¬ s.Closed) :
    TransferCase.Kept pay ⟨left.order, left.payment, s.log ++ left.events⟩ := by
  have hsale := hdoes.sameSale
  have hrefunds : left.Refunds s.payment o := hdoes.refunds (h.price.trans hprice.symm)
  have hpaid : left.order.paid = true := by
    unfold Order.paid
    rw [hsale.razorpayPaymentId, hpayment]
    rfl
  have hnone : o.razorpayRefundId = none := by
    rw [hrefund]
    by_contra hsome
    exact hopen (.inl (Option.isSome_iff_ne_none.mpr hsome))
  refine ⟨hdoes.keepsTransfer ht, fun _ => hsale.razorpayPaymentId.trans hpayment, ?_,
    h.refundCount hrefunds (fun _ => hpaid) fun _ => hpaid, fun hclosed => ⟨hpaid, ?_⟩⟩
  · rw [hsale.priceInr, hprice, ← h.price]
    rcases hrefunds with ⟨hp, -⟩ | ⟨-, -, hamount, -⟩
    · rw [hp]
    · exact hamount
  · refine hdoes.closed hnone ?_
    rcases hclosed with hsome | ⟨e, he, hanswered⟩
    · exact .inl hsome
    · rcases List.mem_append.mp he with he | he
      · exact absurd (.inr ⟨e, he, hanswered⟩) hopen
      · exact .inr ⟨e, he, hanswered⟩

/-- `admin_refund` keeps the invariant. -/
theorem kept_adminRefund (h : s.Kept pay) (net : RefundNetwork) :
    TransferCase.Kept pay ⟨(adminRefund net s.payment s.order).order,
      (adminRefund net s.payment s.order).payment,
      s.log ++ (adminRefund net s.payment s.order).events⟩ := by
  have hrefunds : (adminRefund net s.payment s.order).Refunds s.payment s.order :=
    adminRefund_refunds h.price
  rcases adminRefund_does net s.payment s.order with heq | ⟨hpaid, -, o', ho', heq⟩
  · rw [heq, List.append_nil]
    exact h
  · rw [heq] at hrefunds ⊢
    have hkeeps : o'.isTransfer = true ∧ o'.razorpayPaymentId = s.order.razorpayPaymentId ∧
        o'.priceInr = s.order.priceInr := by
      rcases ho' with rfl | ⟨id, rfl⟩
      · exact ⟨h.transfer, rfl, rfl⟩
      · exact ⟨h.transfer, rfl, rfl⟩
    have hpaid' : o'.paid = true := by
      unfold Order.paid
      rw [hkeeps.2.1]
      exact hpaid
    refine ⟨hkeeps.1, fun _ => hkeeps.2.1.trans (h.payment hpaid), h.price.trans hkeeps.2.2.symm,
      h.refundCount hrefunds (fun _ => hpaid') fun _ => hpaid', fun hclosed => ⟨hpaid', ?_⟩⟩
    rcases ho' with rfl | ⟨id, rfl⟩
    · -- The answer was lost: the row is as before.
      refine (h.closed ?_).2
      rcases hclosed with hsome | ⟨e, he, hanswered⟩
      · exact .inl hsome
      · rcases List.mem_append.mp he with he | he
        · exact .inr ⟨e, he, hanswered⟩
        · rw [List.mem_singleton.mp he] at hanswered
          cases hanswered
    · simp [Order.refunded]

theorem kept_step (h : s.Kept pay) (op : TransferOp) :
    (s.step c others pay op).Kept pay := by
  -- Without events.
  have hwrite : ∀ {o' : Order}, TransferCase.Kept pay ⟨o', s.payment, s.log⟩ →
      TransferCase.Kept pay ⟨o', s.payment, s.log ++ []⟩ := by
    intro o' hk
    rwa [List.append_nil]
  have hsame : TransferCase.Kept pay ⟨s.order, s.payment, s.log ++ []⟩ := hwrite h
  have hsync : ∀ {o' : Order} {answer : Option Bool}, TransferCase.Kept pay ⟨o', s.payment, s.log⟩ →
      TransferCase.Kept pay ⟨o'.sync answer, s.payment, s.log⟩ := by
    intro o' answer hk
    rcases sync_cases_row o' answer with heq | ⟨-, -, heq⟩
    · rwa [heq]
    · refine hk.write (isTransfer_sync hk.transfer) (.inr ?_) ?_ ?_ fun _ => ?_ <;> rw [heq] <;>
        first | rfl | simp [Order.confirm]
  cases op with
  | verify id genuine t =>
    show TransferCase.Kept pay ⟨_, _, s.log ++ (verifyTransferPayment c t id _ s.payment s.order).events⟩
    unfold TransferCase.run verifyTransferPayment
    dsimp only
    split_ifs with hid hvalid
    · exact hsame
    · exact hwrite (h.write h.transfer (.inr rfl) rfl rfl fun _ => by simp)
    · have hgenuine : id = pay := by
        simp only [Bool.not_eq_false, Bool.and_eq_true, beq_iff_eq] at hvalid
        exact hvalid.2
      have hopen : ¬ s.Closed := by
        intro hclosed
        exact hid (by rw [h.payment (h.closed hclosed).1, hgenuine])
      have hpayment : ({ s.order.paidBy id with status := .paymentCompleted } :
          Order).razorpayPaymentId = some pay := congrArg some hgenuine
      exact kept_submission h (provisionTransfer_does c t s.payment
        { s.order.paidBy id with status := .paymentCompleted }) h.transfer hpayment rfl rfl hopen
  | tick t =>
    show TransferCase.Kept pay ⟨_, _, s.log ++ (transferReconcile c t s.payment s.order).events⟩
    unfold TransferCase.run transferReconcile
    dsimp only
    split_ifs with hselected
    · have hopen : ¬ s.Closed := fun hclosed => (h.closed hclosed).2 hselected.1
      exact kept_submission h (provisionTransfer_does c t s.payment s.order) h.transfer
        (h.payment hselected.2.2.1) rfl rfl hopen
    · exact hsame
  | adminRefund net =>
    exact kept_adminRefund h net
  | paymentCaptured a t answer =>
    show TransferCase.Kept pay ⟨_, _, s.log ++
      (completePaymentFromWebhook c others a t answer _ pay s.payment s.order).events⟩
    unfold TransferCase.run
    dsimp only
    rcases webhook_transfer c others a t s.payment h.transfer with ⟨heq, -⟩ | ⟨heq, -⟩
    · rw [heq]
      exact hsame
    · rw [heq]
      exact hwrite (hsync (h.write h.transfer (.inl rfl) rfl rfl fun hs => hs))
  | paymentFailed =>
    refine hwrite ?_
    show TransferCase.Kept pay ⟨paymentFailed s.order, s.payment, s.log⟩
    unfold paymentFailed
    split_ifs
    · exact h.write h.transfer (.inr rfl) rfl rfl fun _ => by simp
    · exact h
  | refundProcessed id =>
    refine hwrite ?_
    show TransferCase.Kept pay ⟨if s.log.any Event.isRefund then s.order.refunded id else s.order,
      s.payment, s.log⟩
    by_cases hany : s.log.any Event.isRefund = true
    · -- The webhook of a refund: there is one, so the payment is noted.
      obtain ⟨-, hfull, hpaid⟩ := h.refund.resolve_left fun hzero => by
        obtain ⟨e, he, hisRefund⟩ := List.any_eq_true.mp hany
        exact absurd (List.countP_eq_zero.mp hzero e he) (by simp [hisRefund])
      rw [if_pos hany]
      exact ⟨h.transfer, h.payment, h.price, h.refund, fun _ => ⟨hpaid, by simp [Order.refunded]⟩⟩
    · rw [if_neg hany]
      exact h
  | poll answer => exact hwrite (hsync h)

/-- Where the events of a step come from: a submission, `admin_refund`, or nowhere. -/
theorem run_events (c : Config) (others : Holders) (h : s.Kept pay) (op : TransferOp) :
    (s.run c others pay op).events = [] ∨
      (∃ net, op = .adminRefund net ∧ (s.run c others pay op).events = [.refund s.order.id]) ∨
      ∃ t o left, op.submission = some t ∧ Submission c t s.payment o left ∧
        o.provisionAttempts = s.order.provisionAttempts ∧
        (s.run c others pay op).events = left.events := by
  cases op with
  | verify id genuine t =>
    unfold TransferCase.run verifyTransferPayment
    dsimp only
    split_ifs
    · exact .inl rfl
    · exact .inl rfl
    · exact .inr (.inr ⟨t, { s.order.paidBy id with status := .paymentCompleted }, _, rfl,
        provisionTransfer_does c t s.payment _, rfl, rfl⟩)
  | tick t =>
    unfold TransferCase.run transferReconcile
    dsimp only
    split_ifs
    · exact .inr (.inr ⟨t, s.order, _, rfl, provisionTransfer_does c t s.payment s.order, rfl, rfl⟩)
    · exact .inl rfl
  | adminRefund net =>
    rcases adminRefund_events net s.payment s.order with heq | heq
    · exact .inl heq
    · exact .inr (.inl ⟨net, rfl, heq⟩)
  | paymentCaptured a t answer =>
    left
    unfold TransferCase.run
    dsimp only
    rcases webhook_transfer c others a t s.payment h.transfer with ⟨heq, -⟩ | ⟨heq, -⟩
    · rw [heq]
    · rw [heq]
  | paymentFailed => exact .inl rfl
  | refundProcessed id => exact .inl rfl
  | poll answer => exact .inl rfl

/-- **The step is sound.** -/
theorem sound_step (h : s.Kept pay) (op : TransferOp) :
    s.Sound c op (s.step c others pay op) := by
  have hnew : (s.step c others pay op).log.drop s.log.length = (s.run c others pay op).events :=
    List.drop_left
  have honce : (s.step c others pay op).log.countP Event.isRefund ≤ 1 := by
    have hkept : (s.step c others pay op).Kept pay := kept_step h op
    rcases hkept.refund with hzero | ⟨hone, -⟩
    · rw [hzero]
      exact Nat.zero_le 1
    · rw [hone]
  have hlog : (s.step c others pay op).log = s.log ++ (s.run c others pay op).events := rfl
  -- A closed transfer is not submitted, so a submission with events is of an open one.
  have hopen : ∀ t, op.submission = some t → (s.run c others pay op).events ≠ [] → ¬ s.Closed :=
    fun t ht hevents hclosed => hevents (run_quiet h hclosed (by rw [ht]; rfl))
  refine ⟨?_, fun hrefund => ?_, honce⟩
  · rw [hnew, hlog]
    rintro ⟨e, he, hisRefund⟩ ⟨e', he', haccepted⟩
    rcases run_events c others h op with
      heq | ⟨net, hop, -⟩ | ⟨t, o, left, ht, hdoes, hattempts, heq⟩
    · rw [heq] at he
      cases he
    · exact .inl ⟨net, hop⟩
    · have hnot := hopen t ht (List.ne_nil_of_mem he)
      rw [heq] at he he'
      obtain ⟨hfound, hanswered, hlost⟩ := hdoes.refund_cause ⟨e, he, hisRefund⟩
      refine .inr ⟨t, ht, ?_, ?_⟩
      · intro x hx
        rw [hlog, heq] at hx
        rcases List.mem_append.mp hx with hx | hx
        · by_contra hx'
          exact hnot (.inr ⟨x, hx, by simpa using hx'⟩)
        · exact hanswered x hx
      · rcases List.mem_append.mp he' with he' | he'
        · exact .inr ⟨hfound, e', he', haccepted⟩
        · rw [← hattempts]
          exact .inl (hlost ⟨e', he', haccepted⟩)
  · rw [hnew]
    rcases run_events c others h op with
      heq | ⟨net, -, heq⟩ | ⟨t, o, left, ht, -⟩
    · rw [heq]
      exact fun _ he => absurd he (by simp)
    · rw [heq]
      intro e he
      rw [List.mem_singleton.mp he]
      rfl
    · rw [run_quiet h (.inl hrefund) (by rw [ht]; rfl)]
      exact fun _ he => absurd he (by simp)

/-! ## Runs -/

/-- **A transfer is carried out or refunded**, in every run: at most one refund, no submission after
a recorded one, and the refund of an accepted transfer is an admin's or follows a lost answer. -/
theorem transfer_refunds (hstart : s.Starts) (ops : List TransferOp) :
    AllSteps (TransferCase.step c others pay) (TransferCase.Sound c) s ops := by
  have hkept : s.Kept pay := by
    refine ⟨hstart.transfer, fun hpaid => ?_, hstart.price, .inl ?_, fun hclosed => ?_⟩
    · exact absurd hpaid (by simp [Order.paid, hstart.unpaid])
    · rw [hstart.log]
      rfl
    · rcases hclosed with hsome | ⟨e, he, -⟩
      · exact absurd hsome (by simp [hstart.unrefunded])
      · exact absurd he (by simp [hstart.log])
  exact allSteps_of_preserved (fun _ op h => kept_step h op) (fun _ op h => sound_step h op) ops hkept

/-! ## A run with an admin -/

def paidTransfer : TransferCase where
  order := { Order.created 0 0 0 0 true 79900 0 with
    transferStatus := .paymentPending, transferAuthCode := true }
  payment := ⟨.captured, 79900, 0⟩
  log := []

theorem paidTransfer_starts : paidTransfer.Starts := ⟨rfl, rfl, rfl, rfl, rfl⟩

instance (s s' : TransferCase) : Decidable (s.EitherOr s') := by
  unfold TransferCase.EitherOr
  infer_instance

theorem transfer_refunds_paidTransfer :
    AllSteps (TransferCase.step .ascii (fun _ => []) 0) (TransferCase.Sound .ascii) paidTransfer
      [.verify 0 true (.accepts 1), .adminRefund (.accepted 0), .tick (.accepts 2)] :=
  transfer_refunds paidTransfer_starts _

/-- The registrar accepts the transfer and the answer is lost, in a time-out. -/
def TransferAnswers.timesOut (d : ProviderDomainId) (net : RefundNetwork) : TransferAnswers :=
  ⟨.ok none, .ok 0, .lost d [], net⟩

/-- **An admin refunds an accepted transfer.** So does a submission that loses its answer at the
last attempt, and one whose lookup misses what was accepted before; and a refund whose answer is
lost does not keep a queued transfer from being submitted. -/
theorem admin_refunds_accepted :
    ¬ AllSteps (TransferCase.step .ascii (fun _ => []) 0) (fun s _ s' => s.EitherOr s') paidTransfer
      [.verify 0 true (.accepts 1), .adminRefund (.accepted 0)] ∧
    ¬ AllSteps (TransferCase.step ⟨id, 1⟩ (fun _ => []) 0) (fun s _ s' => s.EitherOr s') paidTransfer
      [.verify 0 true (.timesOut 1 (.accepted 0))] ∧
    ¬ AllSteps (TransferCase.step ⟨id, 2⟩ (fun _ => []) 0) (fun s _ s' => s.EitherOr s') paidTransfer
      [.verify 0 true (.timesOut 1 .fetchFails), .tick ⟨.ok none, .ok 0, .rejected [], .accepted 0⟩] ∧
    ¬ AllSteps (TransferCase.step ⟨id, 5⟩ (fun _ => []) 0) (fun s _ s' => s.EitherOr s') paidTransfer
      [.verify 0 true ⟨.ok none, .ok 0, .rejected [], .fetchFails⟩, .adminRefund .replyLost,
        .tick (.accepts 1)] := by
  decide +kernel

end Deltapreneur.Storefront
