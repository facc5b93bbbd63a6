import Deltapreneur.Core
import Mathlib.Data.List.Nodup

/-!
# The payment gateway

Model of `app/integrations/razorpay/client.py`: the part of Razorpay that the services see.

* `Payment` is the gateway's own record of a payment, read by `fetch_payment`.
* `refundPayment` is `refund_payment` (`client.py:325-425`): the record decides whether a
  refund is attempted at all, `RefundNetwork` says what becomes of the request. A request that
  Razorpay processed but whose answer never arrived (`replyLost`) is a refund all the same;
  the code turns it into a `RuntimeError`.
* `Gateway` holds the orders issued and the pairs (order, payment) captured. A presented
  signature verifies exactly when it is the genuine one of a captured pair
  (`verifyPaymentSignature`, `client.py:198-216`): HMAC signatures are taken as unforgeable and
  the development bypass as switched off.

Results:

* `refundPayment_cases`, `refundPayment_processed`: what a call moves, and that an answer that
  reports success or a lost one is the only way it moves money.
* `refundPayment_full`: a payment is refunded as a whole at most once.
* `Gateway.createOrder_eq_some`, `Gateway.WellFormed.cons`: an order issued is new.
* `Gateway.Genuine.order_unique`, `Gateway.Genuine.capture`: a payment pays for one order.
-/

namespace Deltapreneur.Razorpay

/-! ## Refunds -/

/-- A Razorpay refund id (`rfnd_…`). -/
abbrev RefundId := Nat

/-- The `status` of a payment at Razorpay. -/
inductive PaymentState
  | created | authorized | captured | refunded | failed
  deriving Repr, DecidableEq

/-- The status as Razorpay spells it. -/
def PaymentState.value : PaymentState → String
  | .created => "created"
  | .authorized => "authorized"
  | .captured => "captured"
  | .refunded => "refunded"
  | .failed => "failed"

/-- A payment as `client.payment.fetch` returns it. -/
structure Payment where
  status : PaymentState
  amount : Paise
  amountRefunded : Paise
  deriving Repr, DecidableEq

/-- How Razorpay words a rejected refund, as far as `refund` looks at the text. -/
inductive Rejection
  | alreadyRefunded | invalidRequest | other
  deriving Repr, DecidableEq

/-- What becomes of one call of the refund API. -/
inductive RefundNetwork
  /-- `client.payment.fetch` raised, or Razorpay is not configured. -/
  | fetchFails
  /-- Processed and answered with the refund's id. -/
  | accepted (refundId : RefundId)
  /-- `BadRequestError`: not processed. -/
  | rejected (reason : Rejection)
  /-- The request did not reach Razorpay. -/
  | notDelivered
  /-- Processed, but the answer was lost or had no `rfnd_` id. -/
  | replyLost
  deriving Repr, DecidableEq

/-- What `refund_payment` returns or raises. -/
inductive RefundReply
  | refund (id : RefundId) (amount : Paise)
  | alreadyFullyRefunded
  | cannotRefundInStatus (status : PaymentState)
  | nothingLeft
  | rejected (reason : Rejection)
  | runtimeError
  deriving Repr, DecidableEq

/-- The payment is fully refunded (`client.py:370-374`). -/
def Payment.fullyRefunded (p : Payment) : Bool :=
  p.status == .refunded ||
    ((p.status == .captured || p.status == .authorized) && p.amount ≤ p.amountRefunded
      && 0 < p.amount)

/-- The amount asked of Razorpay: never more than what is left (`client.py:385-388`). -/
def Payment.refundAmount (p : Payment) (requested : Paise) : Paise :=
  min requested (p.amount - p.amountRefunded)

/-- Razorpay pays `amount` back. -/
def Payment.payBack (p : Payment) (amount : Paise) : Payment :=
  { p with
    amountRefunded := p.amountRefunded + amount
    status := if p.amount ≤ p.amountRefunded + amount then .refunded else p.status }

/-- A payment just captured. -/
def Payment.fresh (amount : Paise) : Payment := ⟨.captured, amount, 0⟩

theorem fullyRefunded_fresh (amount : Paise) : (Payment.fresh amount).fullyRefunded = false := by
  cases amount with
  | zero => rfl
  | succ n => simp [Payment.fullyRefunded, Payment.fresh]

/-- `refund_payment`: the reply, the gateway's record afterwards, and whether Razorpay processed
a refund. -/
def refundPayment (p : Payment) (requested : Paise) (net : RefundNetwork) :
    RefundReply × Payment × Bool :=
  if net = .fetchFails then (.runtimeError, p, false)
  else if p.fullyRefunded then (.alreadyFullyRefunded, p, false)
  else if p.status ≠ .captured ∧ p.status ≠ .authorized then
    (.cannotRefundInStatus p.status, p, false)
  else if p.refundAmount requested = 0 then (.nothingLeft, p, false)
  else match net with
    | .accepted id =>
      (.refund id (p.refundAmount requested), p.payBack (p.refundAmount requested), true)
    | .rejected reason => (.rejected reason, p, false)
    | .replyLost => (.runtimeError, p.payBack (p.refundAmount requested), true)
    | _ => (.runtimeError, p, false)

variable {p : Payment} {requested : Paise} {net : RefundNetwork}

/-- What a call comes to: nothing is moved and the reply reports no refund, or the amount that is
left is paid back, as far as it was asked for. -/
theorem refundPayment_cases (p : Payment) (requested : Paise) (net : RefundNetwork) :
    ((refundPayment p requested net).2 = (p, false) ∧
      ∀ id amount, (refundPayment p requested net).1 ≠ .refund id amount) ∨
    (p.fullyRefunded = false ∧ (p.status = .captured ∨ p.status = .authorized) ∧
      p.refundAmount requested ≠ 0 ∧
      (refundPayment p requested net).2 = (p.payBack (p.refundAmount requested), true)) := by
  unfold refundPayment
  split_ifs with hnet hover hstatus hzero
  · exact .inl ⟨rfl, by simp⟩
  · exact .inl ⟨rfl, by simp⟩
  · exact .inl ⟨rfl, by simp⟩
  · exact .inl ⟨rfl, by simp⟩
  · have hopen : p.fullyRefunded = false := by simpa using hover
    have hready : p.status = .captured ∨ p.status = .authorized := by
      by_contra hc
      exact hstatus (not_or.mp hc)
    split
    · exact .inr ⟨hopen, hready, hzero, rfl⟩
    · exact .inl ⟨rfl, by simp⟩
    · exact .inr ⟨hopen, hready, hzero, rfl⟩
    · exact .inl ⟨rfl, by simp⟩

theorem refundPayment_already_iff (p : Payment) (requested : Paise) (net : RefundNetwork) :
    (refundPayment p requested net).1 = .alreadyFullyRefunded ↔
      net ≠ .fetchFails ∧ p.fullyRefunded = true := by
  unfold refundPayment
  split_ifs with hnet hover hstatus hzero
  · simp [hnet]
  · simp [hnet, hover]
  · simp [hover]
  · simp [hover]
  · cases net <;> simp [hover]

theorem refundPayment_processed (h : (refundPayment p requested net).2.2 = true) :
    (∃ id amount, (refundPayment p requested net).1 = .refund id amount) ∨ net = .replyLost := by
  unfold refundPayment at h ⊢
  split_ifs at h ⊢ with hf
  cases net with
  | accepted id => exact .inl ⟨id, _, rfl⟩
  | replyLost => exact .inr rfl
  | fetchFails => exact absurd rfl hf
  | rejected reason => cases h
  | notDelivered => cases h

@[simp] theorem payBack_amount (amount : Paise) : (p.payBack amount).amount = p.amount := rfl

theorem refundPayment_amount : (refundPayment p requested net).2.1.amount = p.amount := by
  rcases refundPayment_cases p requested net with ⟨heq, -⟩ | ⟨-, -, -, heq⟩
  · rw [heq]
  · rw [heq]
    rfl

theorem refundPayment_again (h : p.fullyRefunded = true) :
    (refundPayment p requested net).2 = (p, false) := by
  rcases refundPayment_cases p requested net with ⟨heq, -⟩ | ⟨hopen, -⟩
  · exact heq
  · exact absurd h (by simp [hopen])

theorem refundPayment_full (hfull : p.amount ≤ requested)
    (h : (refundPayment p requested net).2.2 = true) :
    p.fullyRefunded = false ∧ (refundPayment p requested net).2.1.fullyRefunded = true := by
  rcases refundPayment_cases p requested net with ⟨heq, -⟩ | ⟨hopen, -, -, heq⟩
  · rw [heq] at h
    cases h
  · have hle : p.amount ≤ p.amountRefunded + p.refundAmount requested := by
      have hrest : p.amount - p.amountRefunded ≤ requested := Nat.le_trans (Nat.sub_le _ _) hfull
      rw [Payment.refundAmount, Nat.min_eq_right hrest]
      exact Nat.sub_le_iff_le_add'.mp (Nat.le_refl _)
    rw [heq]
    exact ⟨hopen, by simp [Payment.fullyRefunded, Payment.payBack, hle]⟩

/-! ## Orders and captured payments -/

/-- An order as `create_order` registers it at Razorpay; `notes` is the dictionary the service
attaches. -/
structure Order (ν : Type) where
  id : OrderId
  amount : Paise
  notes : ν
  deriving Repr, DecidableEq

/-- The gateway: orders issued (newest first) and pairs captured. -/
structure Gateway (ν : Type) where
  orders : List (Order ν)
  captured : List (OrderId × PaymentId)
  deriving Repr

namespace Gateway

variable {ν : Type} {payment : PaymentId}

def empty : Gateway ν := ⟨[], []⟩

/-- The id the next order gets: no order has it yet. -/
def nextId (g : Gateway ν) : OrderId := g.orders.length

/-- `create_order` (`client.py:132-195`): an amount of zero is refused, an accepted order gets
a new id. -/
def createOrder (g : Gateway ν) (amount : Paise) (notes : ν) : Option (OrderId × Gateway ν) :=
  if amount = 0 then none
  else some (g.nextId, { g with orders := ⟨g.nextId, amount, notes⟩ :: g.orders })

/-- A payment id no captured payment carries. -/
def freshPayment (g : Gateway ν) : PaymentId := g.captured.length

/-- The customer pays an issued order: Razorpay captures a new payment for it. -/
def capture (g : Gateway ν) (order : OrderId) : Gateway ν :=
  if (g.orders.any fun o => o.id == order) then
    { g with captured := (order, g.freshPayment) :: g.captured }
  else g

/-- `verify_payment_signature`: `genuine` says that the presented text is the HMAC of
`order|payment`. -/
def verifyPaymentSignature (g : Gateway ν) (order : OrderId) (payment : PaymentId)
    (genuine : Bool) : Bool :=
  genuine && g.captured.contains (order, payment)

/-- The ids in use are those below the next one. -/
def WellFormed (g : Gateway ν) : Prop := ∀ o ∈ g.orders, o.id < g.nextId

variable {g g' : Gateway ν} {amount : Paise} {notes : ν} {order : OrderId}

@[simp] theorem capture_orders : (g.capture order).orders = g.orders := by
  unfold capture
  split_ifs <;> rfl

theorem createOrder_eq_some (h : g.createOrder amount notes = some (order, g')) :
    order = g.nextId ∧ g'.orders = ⟨g.nextId, amount, notes⟩ :: g.orders := by
  unfold createOrder at h
  split_ifs at h
  obtain ⟨rfl, rfl⟩ := Prod.mk.inj (Option.some.inj h)
  exact ⟨rfl, rfl⟩

theorem createOrder_captured (h : g.createOrder amount notes = some (order, g')) :
    g'.captured = g.captured := by
  unfold createOrder at h
  split_ifs at h
  obtain ⟨-, rfl⟩ := Prod.mk.inj (Option.some.inj h)
  rfl

theorem wellFormed_of_nil (h : g.orders = []) : g.WellFormed := by
  intro o ho
  rw [h] at ho
  cases ho

theorem WellFormed.cons (h : g.WellFormed)
    (hg : g'.orders = ⟨g.nextId, amount, notes⟩ :: g.orders) : g'.WellFormed := by
  intro o ho
  have hnext : g'.nextId = g.nextId + 1 := by simp [nextId, hg]
  rw [hg] at ho
  rw [hnext]
  rcases List.mem_cons.mp ho with rfl | ho
  · exact Nat.lt_succ_self _
  · exact Nat.lt_succ_of_lt (h o ho)

/-- Every captured payment has an id of its own and pays for an order that was issued. -/
structure Genuine (g : Gateway ν) : Prop where
  distinct : (g.captured.map (·.2)).Nodup
  below : ∀ c ∈ g.captured, c.2 < g.freshPayment
  issued : ∀ c ∈ g.captured, ∃ o ∈ g.orders, o.id = c.1

theorem Genuine.empty : (empty : Gateway ν).Genuine :=
  ⟨List.nodup_nil, fun _ h => absurd h (by simp [Gateway.empty]),
    fun _ h => absurd h (by simp [Gateway.empty])⟩

theorem Genuine.order_unique {order' : OrderId} (h : g.Genuine) (hp : (order, payment) ∈ g.captured)
    (hp' : (order', payment) ∈ g.captured) : order = order' := by
  have heq := List.inj_on_of_nodup_map h.distinct hp hp' rfl
  exact congrArg Prod.fst heq

theorem Genuine.create (h : g.Genuine) (hg : g.createOrder amount notes = some (order, g')) :
    g'.Genuine := by
  have hcaptured := createOrder_captured hg
  obtain ⟨-, horders⟩ := createOrder_eq_some hg
  refine ⟨by rw [hcaptured]; exact h.distinct, ?_, ?_⟩
  · unfold freshPayment
    rw [hcaptured]
    exact h.below
  · rw [hcaptured, horders]
    intro c hc
    obtain ⟨o, ho, heq⟩ := h.issued c hc
    exact ⟨o, List.mem_cons_of_mem _ ho, heq⟩

theorem Genuine.capture (h : g.Genuine) (order : OrderId) : (g.capture order).Genuine := by
  unfold Gateway.capture
  split_ifs with hissued
  · obtain ⟨o, ho, heq⟩ := List.any_eq_true.mp hissued
    refine ⟨?_, ?_, ?_⟩
    · rw [List.map_cons, List.nodup_cons]
      refine ⟨fun hmem => ?_, h.distinct⟩
      obtain ⟨c, hc, hid⟩ := List.mem_map.mp hmem
      exact absurd (h.below c hc) (by rw [hid]; exact Nat.lt_irrefl _)
    · intro c hc
      rcases List.mem_cons.mp hc with rfl | hc
      · exact Nat.lt_succ_self _
      · exact Nat.lt_succ_of_lt (h.below c hc)
    · intro c hc
      rcases List.mem_cons.mp hc with rfl | hc
      · exact ⟨o, ho, by simpa using heq⟩
      · exact h.issued c hc
  · exact h

theorem mem_capture {c : OrderId × PaymentId} (h : c ∈ (g.capture order).captured) :
    c ∈ g.captured ∨ c = (order, g.freshPayment) := by
  unfold Gateway.capture at h
  split_ifs at h
  · exact (List.mem_cons.mp h).symm
  · exact .inl h

theorem Genuine.next_not_mem (h : g.Genuine) (hw : g.WellFormed) :
    (g.nextId, payment) ∉ g.captured := by
  intro hmem
  obtain ⟨o, ho, hid⟩ := h.issued _ hmem
  exact absurd (hw o ho) (by rw [hid]; exact Nat.lt_irrefl _)

theorem nextId_of_createOrder (h : g.createOrder amount notes = some (order, g')) :
    g'.nextId = g.nextId + 1 := by
  obtain ⟨-, horders⟩ := createOrder_eq_some h
  simp [nextId, horders]

theorem mem_captured_of_verify {genuine : Bool}
    (h : g.verifyPaymentSignature order payment genuine = true) :
    (order, payment) ∈ g.captured := by
  unfold verifyPaymentSignature at h
  simp only [Bool.and_eq_true, List.contains_iff_mem] at h
  exact h.2

theorem capture_captured_subset (order : OrderId) : g.captured ⊆ (g.capture order).captured := by
  unfold Gateway.capture
  split_ifs
  · exact List.subset_cons_self _ _
  · exact List.Subset.refl _

end Gateway

end Deltapreneur.Razorpay
