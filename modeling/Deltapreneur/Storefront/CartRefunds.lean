import Deltapreneur.Lib.Table
import Deltapreneur.Storefront.TransferIn

/-!
# Refunds of one order of a cart

A Razorpay order pays for any number of registrations. `admin_refund` asks Razorpay for the price of
one order; the webhook `refund.processed` (`domain_registration_ops_service.py:216-251`) comes with
the payment, not with the refund.

* `CartPayment.refunds` lists the refunds that Razorpay processed, with the order for which
  `admin_refund` asked for each, also when the answer was lost.
* The webhook marks every order of the Razorpay order. It comes once there is a refund, and any
  number of times.
* `admin_refund` asks once more when it is called once more, and is paid from what is left for the
  others.

Results:

* `refunds_within_capture`: in every run the refunds stay within the captured amount.
* `refunds_of_own_order`: if the webhook comes when every order has had its refund, and `admin_refund`
  is called for orders without one, an order is refunded only by its own refund, up to its price.
* `sibling_marked_refunded`: otherwise not.
-/

namespace Deltapreneur.Storefront

open Registration (RegistrationId)
open Razorpay (Payment RefundId RefundNetwork)
open Run

/-! ## One payment and its orders -/

/-- The rows of one Razorpay order, Razorpay's record of its payment, and the refunds processed. -/
structure CartPayment where
  orders : List Order
  payment : Payment
  refunds : List (RegistrationId × Paise)

inductive RefundOp
  | adminRefund (id : RegistrationId) (net : RefundNetwork)
  /-- The webhook `refund.processed`. -/
  | refundProcessed (id : RefundId)

namespace CartPayment

/-- What was refunded on behalf of an order. -/
def refundedFor (s : CartPayment) (id : RegistrationId) : Paise :=
  ((s.refunds.filter (·.1 = id)).map (·.2)).sum

/-- A refund was issued for the order. -/
def Issued (s : CartPayment) (id : RegistrationId) : Prop := ∃ amount, (id, amount) ∈ s.refunds

def step (s : CartPayment) : RefundOp → CartPayment
  | .adminRefund id net =>
    match Table.lookup Order.id id s.orders with
    | none => s
    | some o =>
      let left := adminRefund net s.payment o
      { orders := Table.update Order.id id (fun _ => left.order) s.orders
        payment := left.payment
        refunds := s.refunds ++ left.events.map fun _ =>
          (id, left.payment.amountRefunded - s.payment.amountRefunded) }
  | .refundProcessed id =>
    if s.refunds = [] then s else { s with orders := s.orders.map (·.refunded id) }

/-- Paid, and nothing refunded yet. -/
structure Starts (s : CartPayment) : Prop where
  distinct : (s.orders.map Order.id).Nodup
  unrefunded : ∀ o ∈ s.orders, o.status ≠ .refunded
  whole : s.payment.amountRefunded = 0
  none : s.refunds = []

/-- An order is refunded only by its own refund, up to its price, and all refunds together stay
within the payment. -/
structure Fair (s : CartPayment) : Prop where
  issued : ∀ o ∈ s.orders, o.status = .refunded → s.Issued o.id
  price : ∀ o ∈ s.orders, s.refundedFor o.id ≤ o.priceInr
  captured : (s.refunds.map (·.2)).sum ≤ s.payment.amount

/-- An order is refunded once, or nothing is left; and the webhook comes after the refunds of all
orders. -/
def Once (s : CartPayment) : RefundOp → Prop
  | .adminRefund id _ => ¬ s.Issued id ∨ s.payment.fullyRefunded = true
  | .refundProcessed _ => ∀ o ∈ s.orders, s.Issued o.id

/-- The refunds are those that Razorpay has recorded. -/
structure Booked (s : CartPayment) : Prop where
  distinct : (s.orders.map Order.id).Nodup
  recorded : (s.refunds.map (·.2)).sum = s.payment.amountRefunded
  within : s.payment.amountRefunded ≤ s.payment.amount

end CartPayment

/-! ## One step -/

variable {s : CartPayment} {op : RefundOp} {id : RegistrationId} {net : RefundNetwork} {o : Order}

/-- What `admin_refund` does to the cart: nothing, or one more refund. -/
theorem adminRefund_step (hnd : (s.orders.map Order.id).Nodup) (id : RegistrationId)
    (net : RefundNetwork) :
    s.step (.adminRefund id net) = s ∨
      ∃ o o', o ∈ s.orders ∧ o.id = id ∧ s.payment.fullyRefunded = false ∧
        (o' = o ∨ ∃ r, o' = o.refunded r) ∧
        s.step (.adminRefund id net) =
          { orders := Table.update Order.id id (fun _ => o') s.orders
            payment := s.payment.payBack (s.payment.refundAmount o.priceInr)
            refunds := s.refunds ++ [(id, s.payment.refundAmount o.priceInr)] } := by
  unfold CartPayment.step
  dsimp only
  cases hlookup : Table.lookup Order.id id s.orders with
  | none => exact .inl rfl
  | some o =>
    obtain ⟨ho, hid⟩ := Table.lookup_eq_some hlookup
    dsimp only
    rcases adminRefund_does net s.payment o with heq | ⟨-, hproc, o', ho', heq⟩
    · rw [heq, Table.update_eq_self hnd ho hid]
      exact .inl (by simp)
    · have hopen : s.payment.fullyRefunded = false := by
        by_contra hfull
        rw [Razorpay.refundPayment_again (by simpa using hfull)] at hproc
        cases hproc
      rw [heq]
      refine .inr ⟨o, o', ho, hid, hopen, ho', ?_⟩
      simp [Payment.payBack]

theorem payBack_within {p : Payment} (h : p.amountRefunded ≤ p.amount) (requested : Paise) :
    (p.payBack (p.refundAmount requested)).amountRefunded ≤ p.amount := by
  calc p.amountRefunded + min requested (p.amount - p.amountRefunded)
      ≤ p.amountRefunded + (p.amount - p.amountRefunded) :=
        Nat.add_le_add_left (Nat.min_le_right _ _) _
    _ = p.amount := Nat.add_sub_cancel' h

theorem cartBooked_step (h : s.Booked) (op : RefundOp) : (s.step op).Booked := by
  cases op with
  | adminRefund id net =>
    rcases adminRefund_step h.distinct id net with heq | ⟨o, o', ho, hid, hopen, ho', heq⟩
    · rwa [heq]
    · rw [heq]
      refine ⟨?_, ?_, payBack_within h.within o.priceInr⟩
      · have hkey : o'.id = id := by
          rcases ho' with rfl | ⟨r, rfl⟩
          · exact hid
          · exact hid
        rw [Table.map_key_update_const hkey]
        exact h.distinct
      · simp [h.recorded, Payment.payBack]
  | refundProcessed r =>
    unfold CartPayment.step
    split_ifs
    · exact h
    · refine ⟨?_, h.recorded, h.within⟩
      have hids : (s.orders.map (·.refunded r)).map Order.id = s.orders.map Order.id := by
        rw [List.map_map]
        rfl
      rw [hids]
      exact h.distinct

/-! ## Runs -/

theorem CartPayment.Starts.booked (h : s.Starts) : s.Booked := by
  refine ⟨h.distinct, ?_, ?_⟩
  · rw [h.none, h.whole]
    rfl
  · rw [h.whole]
    exact Nat.zero_le _

theorem refundedFor_append {refunds : List (RegistrationId × Paise)} (x : RegistrationId × Paise) :
    (({ s with refunds := refunds ++ [x] } : CartPayment)).refundedFor id =
      ({ s with refunds := refunds } : CartPayment).refundedFor id + if x.1 = id then x.2 else 0 := by
  unfold CartPayment.refundedFor
  by_cases h : x.1 = id
  · simp [List.filter_append, h]
  · simp [List.filter_append, h]

theorem refundedFor_of_not_issued (h : ¬ s.Issued id) : s.refundedFor id = 0 := by
  unfold CartPayment.refundedFor
  have hnil : s.refunds.filter (·.1 = id) = [] := by
    rw [List.filter_eq_nil_iff]
    intro x hx hid
    exact h ⟨x.2, by simpa [← of_decide_eq_true hid] using hx⟩
  rw [hnil]
  rfl

/-- A refund that is issued once keeps the cart fair. -/
theorem fair_step (hb : s.Booked) (h : s.Fair) (hok : s.Once op) : (s.step op).Fair := by
  have hb' := cartBooked_step hb op
  have hcaptured : ((s.step op).refunds.map (·.2)).sum ≤ (s.step op).payment.amount := by
    rw [hb'.recorded]
    exact hb'.within
  cases op with
  | adminRefund id net =>
    rcases adminRefund_step hb.distinct id net with heq | ⟨o, o', ho, hid, hopen, ho', heq⟩
    · rwa [heq]
    · have hnot : ¬ s.Issued id := hok.resolve_right (by simp [hopen])
      have hprice : o'.id = id ∧ o'.priceInr = o.priceInr := by
        rcases ho' with rfl | ⟨r, rfl⟩
        · exact ⟨hid, rfl⟩
        · exact ⟨hid, rfl⟩
      -- A row of the new table is the refunded one or an old one.
      have hrows : ∀ x ∈ Table.update Order.id id (fun _ => o') s.orders,
          x = o' ∨ (x ∈ s.orders ∧ x.id ≠ id) := by
        intro x hx
        obtain ⟨y, hy, hyx⟩ := List.mem_map.mp hx
        split_ifs at hyx with hyid
        · exact .inl hyx.symm
        · subst hyx
          exact .inr ⟨hy, hyid⟩
      refine ⟨?_, ?_, hcaptured⟩
      · rw [heq]
        intro x hx hs
        rcases hrows x hx with rfl | ⟨hx', -⟩
        · exact ⟨_, List.mem_append_right _ (by rw [hprice.1]; exact List.mem_singleton_self _)⟩
        · obtain ⟨amount, hmem⟩ := h.issued x hx' hs
          exact ⟨amount, List.mem_append_left _ hmem⟩
      · rw [heq]
        intro x hx
        have hsum : CartPayment.refundedFor
            { orders := Table.update Order.id id (fun _ => o') s.orders
              payment := s.payment.payBack (s.payment.refundAmount o.priceInr)
              refunds := s.refunds ++ [(id, s.payment.refundAmount o.priceInr)] } x.id =
            s.refundedFor x.id + if id = x.id then s.payment.refundAmount o.priceInr else 0 :=
          refundedFor_append _
        rw [hsum]
        rcases hrows x hx with rfl | ⟨hx', hne⟩
        · rw [hprice.1, hprice.2, if_pos rfl, refundedFor_of_not_issued hnot, Nat.zero_add]
          exact Nat.min_le_left _ _
        · rw [if_neg (Ne.symm hne), Nat.add_zero]
          exact h.price x hx'
  | refundProcessed r =>
    refine ⟨?_, ?_, hcaptured⟩
    · unfold CartPayment.step
      split_ifs
      · exact h.issued
      · intro x hx _
        obtain ⟨y, hy, rfl⟩ := List.mem_map.mp hx
        exact hok y hy
    · unfold CartPayment.step
      split_ifs
      · exact h.price
      · intro x hx
        obtain ⟨y, hy, rfl⟩ := List.mem_map.mp hx
        exact h.price y hy

/-- **All refunds together stay within the captured amount**, and are those that Razorpay recorded,
in every run. -/
theorem refunds_within_capture (hstart : s.Starts) (ops : List RefundOp) :
    ((exec CartPayment.step s ops).refunds.map (·.2)).sum =
        (exec CartPayment.step s ops).payment.amountRefunded ∧
      ((exec CartPayment.step s ops).refunds.map (·.2)).sum ≤
        (exec CartPayment.step s ops).payment.amount := by
  have hend : (exec CartPayment.step s ops).Booked :=
    exec_preserves (P := CartPayment.Booked) (fun _ op h => cartBooked_step h op) ops hstart.booked
  exact ⟨hend.recorded, hend.recorded ▸ hend.within⟩

/-- **An order is refunded only by its own refund**, in every run in which an order gets one refund
and the webhook comes after those of all orders. -/
theorem refunds_of_own_order {ops : List RefundOp} (hstart : s.Starts)
    (hok : Meets CartPayment.step CartPayment.Once s ops) : (exec CartPayment.step s ops).Fair := by
  have hfair : s.Fair := by
    refine ⟨fun o ho hs => absurd hs (hstart.unrefunded o ho), fun o _ => ?_, ?_⟩
    · rw [refundedFor_of_not_issued fun ⟨amount, hmem⟩ => absurd hmem (by simp [hstart.none])]
      exact Nat.zero_le _
    · rw [hstart.none]
      exact Nat.zero_le _
  exact (exec_inv (P := fun s => s.Booked ∧ s.Fair)
    (fun _ op h hl => ⟨cartBooked_step h.1 op, fair_step h.1 h.2 hl⟩) ⟨hstart.booked, hfair⟩ hok).2

/-! ## Runs that break it -/

/-- A cart with two registrations, paid together. -/
def cartOfTwo : CartPayment where
  orders := [{ (Order.created 0 0 0 0 true 79900 0).paidBy 0 with status := .active },
    { (Order.created 1 0 1 0 true 50000 0).paidBy 0 with status := .active }]
  payment := ⟨.captured, 129900, 0⟩
  refunds := []

theorem cartOfTwo_starts : cartOfTwo.Starts := ⟨by decide, by decide, rfl, rfl⟩

/-- Two refunds of one order take what was paid for both, and no more. -/
theorem refunds_within_capture_cartOfTwo :
    ((exec CartPayment.step cartOfTwo [.adminRefund 0 (.accepted 0),
      .adminRefund 0 (.accepted 1)]).refunds.map (·.2)).sum ≤ 129900 :=
  (refunds_within_capture cartOfTwo_starts
    [.adminRefund 0 (.accepted 0), .adminRefund 0 (.accepted 1)]).2

theorem refunds_of_own_order_cartOfTwo :
    (exec CartPayment.step cartOfTwo [.adminRefund 0 (.accepted 0), .adminRefund 1 (.accepted 1),
      .refundProcessed 0]).Fair := by
  refine refunds_of_own_order cartOfTwo_starts ⟨.inl ?_, .inl ?_, ?_, trivial⟩
  · rintro ⟨amount, hmem⟩
    exact absurd hmem (by simp [cartOfTwo])
  · rintro ⟨amount, hmem⟩
    have hfirst : (1, amount) ∈ [((0 : Nat), (79900 : Nat))] := hmem
    exact absurd hfirst (by simp)
  · intro o ho
    have hids : o.id ∈ [0, 1] := List.mem_map_of_mem (f := Order.id) ho
    rcases List.mem_cons.mp hids with hid | hid
    · exact ⟨79900, by rw [hid]; decide⟩
    · exact ⟨50000, by rw [List.mem_singleton.mp hid]; decide⟩

/-- **The webhook of one refund marks the other order refunded**, and a second `admin_refund` of an
order takes the other's money. -/
theorem sibling_marked_refunded :
    ¬ (exec CartPayment.step cartOfTwo [.adminRefund 0 (.accepted 0), .refundProcessed 0]).Fair ∧
      ¬ (exec CartPayment.step cartOfTwo
        [.adminRefund 1 (.accepted 0), .adminRefund 1 (.accepted 1)]).Fair := by
  constructor
  · intro h
    have hmarked : ∃ o ∈ (exec CartPayment.step cartOfTwo
        [.adminRefund 0 (.accepted 0), .refundProcessed 0]).orders,
        o.status = .refunded ∧ o.id = 1 := by decide
    obtain ⟨o, ho, hs, hid⟩ := hmarked
    obtain ⟨amount, hmem⟩ := h.issued o ho hs
    have honly : (o.id, amount) ∈ [((0 : Nat), (79900 : Nat))] := hmem
    rw [hid] at honly
    exact absurd honly (by simp)
  · intro h
    have hover : ∃ o ∈ (exec CartPayment.step cartOfTwo
        [.adminRefund 1 (.accepted 0), .adminRefund 1 (.accepted 1)]).orders,
        ¬ (exec CartPayment.step cartOfTwo
          [.adminRefund 1 (.accepted 0), .adminRefund 1 (.accepted 1)]).refundedFor o.id ≤
            o.priceInr := by decide
    obtain ⟨o, ho, hlt⟩ := hover
    exact hlt (h.price o ho)

end Deltapreneur.Storefront
