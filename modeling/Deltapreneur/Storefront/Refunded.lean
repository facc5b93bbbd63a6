import Deltapreneur.Storefront.Desk

/-!
# A refunded order

What the entry points do to an order whose status is `REFUNDED`.

* The webhook `payment.captured`, the jobs, the expiry and a cancelled checkout test the status and
  leave the order alone (`Act.run` at their guards).
* Everything that does not test it moves the order on: a registrar callback, a poll that confirms
  the domain, a retry, the verify of the storefront and of the cart, the verify of a transfer with
  another payment, a paid renewal. `Act.SparesRefunded` says for which inputs these do nothing.

Results:

* `refunded_final`: in every run whose visits spare refunded orders, a refunded order stays refunded
  and no registrar call is made for it.
* `callback_revives`: otherwise a callback makes it active again.
-/

namespace Deltapreneur.Storefront

open Registration (RegistrationId)
open Run

/-- From `w` to `w'` every refunded order stays refunded, and no registrar call is made for it. -/
def Desk.RefundedStays (w w' : Desk) : Prop :=
  ∀ o ∈ w.orders, o.status = .refunded →
    (∃ o' ∈ w'.orders, o'.id = o.id ∧ o'.status = .refunded) ∧
      ∀ e ∈ w'.log.drop w.log.length, e.calledFor ≠ some o.id

/-- The inputs for which an entry point does nothing to a refunded order. -/
def Act.SparesRefunded (o : Order) : Act → Prop
  -- Without a payment id, which the function reads as a key.
  | .verifyAndProvision paymentId _ _ _ => paymentId = none ∧ o.paid = true
  | .retryProvision _ => o.isTransfer = true
  | .adminRetry _ => o.isTransfer = true
  | .cartVerify _ _ => False
  | .cartRecover _ _ => False
  | .pageSync sync => o.openProviderDomainId = none ∨ sync ≠ some true
  | .callback status => o.openProviderDomainId = none ∨ status = .other
  -- The payment is the recorded one.
  | .verifyTransfer payment _ _ _ => o.razorpayPaymentId = some payment
  -- Another Razorpay order is pending, or the signature is wrong.
  | .verifyRenewal payload valid _ =>
    o.pendingRenewal.map (·.razorpayOrderId) ≠ some payload.razorpayOrderId ∨
      (valid = false ∧ o.lastRenewalPaymentId ≠ some payload.razorpayPaymentId)
  | _ => True

/-- The visit spares the order if it is refunded. -/
def Desk.SparesRefunded (w : Desk) : Op → Prop
  | .visit id act => ∀ o, Table.lookup Order.id id w.orders = some o → o.status = .refunded →
    act.SparesRefunded o
  | _ => True

variable {c : Config} {others : Holders} {w : Desk} {act : Act} {o : Order} {op : Op}
  {id : RegistrationId}

/-- A refunded order that is spared stays refunded, and no registrar call is made. -/
theorem run_refunded (c : Config) (others : Holders) (hs : o.status = .refunded)
    (h : act.SparesRefunded o) :
    (act.run c others o).1.status = .refunded ∧
      ∀ e ∈ (act.run c others o).2, e.calledFor = none := by
  have hnil : ∀ e ∈ ([] : List Event), e.calledFor = none := fun _ he => absurd he (by simp)
  cases act with
  | verifyAndProvision paymentId valid sync a =>
    obtain ⟨rfl, hpaid⟩ := h
    have hne : o.razorpayPaymentId ≠ none := by
      intro heq
      simp [Order.paid, heq] at hpaid
    show (verifyAndProvision others a none valid sync o).1.status = _ ∧
      ∀ e ∈ (verifyAndProvision others a none valid sync o).2, _
    have heq : verifyAndProvision others a none valid sync o = (o, []) := by
      simp [verifyAndProvision, checkSignature, hs, hne]
    rw [heq]
    exact ⟨hs, hnil⟩
  | paymentCaptured payment sync a t p =>
    show (completePaymentFromWebhook c others a t sync o.isTransfer payment p o).order.status = _ ∧ _
    have heq : completePaymentFromWebhook c others a t sync o.isTransfer payment p o = ⟨o, p, []⟩ :=
      if_pos (.inr hs)
    rw [heq]
    refine ⟨hs, fun e he => ?_⟩
    simp only [Act.run, heq, Left.result] at he
    exact hnil e he
  | retryProvision a =>
    have heq : retryProvision others a o = (o, []) := by
      simp [retryProvision, provisionOrder, show o.isTransfer = true from h]
    exact ⟨by simp only [Act.run, heq, hs], by simp only [Act.run, heq]; exact hnil⟩
  | adminRetry a =>
    have heq : retryProvision others a o = (o, []) := by
      simp [retryProvision, provisionOrder, show o.isTransfer = true from h]
    exact ⟨by simp only [Act.run, heq, hs], by simp only [Act.run, heq]; exact hnil⟩
  | runProvisionRetry a =>
    have heq : runProvisionRetry c others a o = (o, []) := by simp [runProvisionRetry, hs]
    exact ⟨by simp only [Act.run, heq, hs], by simp only [Act.run, heq]; exact hnil⟩
  | recoverStale a aged sync =>
    have heq : recoverStale others a aged sync o = (o, []) := by simp [recoverStale, hs]
    exact ⟨by simp only [Act.run, heq, hs], by simp only [Act.run, heq]; exact hnil⟩
  | cartVerify payment a => exact absurd h id
  | cartRecover payment a => exact absurd h id
  | pendingReconcile sync =>
    exact ⟨by simp [Act.run, pendingReconcile, hs], hnil⟩
  | pageSync sync =>
    refine ⟨?_, hnil⟩
    show (o.sync sync).status = .refunded
    rcases sync_cases_row o sync with heq | ⟨hsome, htrue, -⟩
    · rw [heq, hs]
    · rcases h with h | h
      · rw [h] at hsome
        cases hsome
      · exact absurd htrue h
  | callback status =>
    refine ⟨?_, hnil⟩
    rcases h with h | rfl
    · simp [Act.run, h, hs]
    · simp [Act.run, openproviderCallback, hs]
  | paymentFailed => exact ⟨by simp [Act.run, paymentFailed, hs], hnil⟩
  | refundProcessed id => exact ⟨rfl, hnil⟩
  | adminRefund net p =>
    show (adminRefund net p o).order.status = _ ∧ ∀ e ∈ (adminRefund net p o).events, _
    refine ⟨?_, ?_⟩
    · rcases adminRefund_cases net p o with heq | ⟨id, heq⟩
      · rw [heq, hs]
      · rw [heq]
        rfl
    · rcases adminRefund_events net p o with heq | heq
      · rw [heq]
        exact hnil
      · rw [heq]
        exact fun e he => by rw [List.mem_singleton.mp he]; rfl
  | expireStale aged => exact ⟨by simp [Act.run, expireStale, hs], hnil⟩
  | cancelCheckout => exact ⟨by simp [Act.run, expireStale, hs], hnil⟩
  | reopenTransfer r => exact ⟨by simp [Act.run, reopenTransfer, hs], hnil⟩
  | retryTransferPayment r =>
    exact ⟨by simp [Act.run, retryTransferPayment, Order.retryable, hs], hnil⟩
  | verifyTransfer payment valid t p =>
    have heq : verifyTransferPayment c t payment valid p o = ⟨o, p, []⟩ := if_pos h
    exact ⟨by simp only [Act.run, heq, Left.result, hs],
      by simp only [Act.run, heq, Left.result]; exact hnil⟩
  | transferReconcile t p =>
    have heq : transferReconcile c t p o = ⟨o, p, []⟩ := by simp [transferReconcile, hs]
    exact ⟨by simp only [Act.run, heq, Left.result, hs],
      by simp only [Act.run, heq, Left.result]; exact hnil⟩
  | createRenewal q => exact ⟨hs, hnil⟩
  | verifyRenewal payload valid a =>
    have heq : verifyRenewalPayment payload valid a o = (o, []) := by
      unfold verifyRenewalPayment
      split
      · rfl
      · next q hq =>
        simp only [Act.SparesRefunded, hq, Option.map_some] at h
        rcases h with h | ⟨hvalid, hlast⟩
        · rw [if_pos (fun heq => h (congrArg some heq))]
        · simp [hvalid, hlast]
    exact ⟨by simp only [Act.run, heq, hs], by simp only [Act.run, heq]; exact hnil⟩

theorem refundedStays_refl : w.RefundedStays w := by
  intro o ho hs
  refine ⟨⟨o, ho, rfl, hs⟩, fun e he => ?_⟩
  rw [List.drop_length] at he
  cases he

theorem refundedStays_insert : w.RefundedStays (w.insert o) := by
  intro x hx hs
  refine ⟨⟨x, List.mem_append_left _ hx, rfl, hs⟩, fun e he => ?_⟩
  rw [show (w.insert o).log = w.log from rfl, List.drop_length] at he
  cases he

/-- The step lemma: a visit of another order makes no call for this one. -/
theorem refundedStays_step (hk : w.Keyed) (h : w.SparesRefunded op) :
    w.RefundedStays (w.step c op) := by
  cases op with
  | create buyerId fqdn email phone price r => exact refundedStays_insert
  | createPaid buyerId fqdn email phone price r payment active => exact refundedStays_insert
  | createTransfer buyerId fqdn email phone price r => exact refundedStays_insert
  | visit id act =>
    show w.RefundedStays (w.visit c id act)
    cases hlookup : Table.lookup Order.id id w.orders with
    | none =>
      rw [Desk.visit_of_absent hlookup]
      exact refundedStays_refl
    | some x =>
      obtain ⟨hx, hxid⟩ := Table.lookup_eq_some hlookup
      rw [Desk.visit_of_lookup hlookup]
      intro o ho hs
      dsimp only
      rw [List.drop_left]
      by_cases hid : o.id = id
      · -- The visited order.
        obtain rfl := hk.eq_of_id ho hx (hid.trans hxid.symm)
        obtain ⟨hstatus, hevents⟩ := run_refunded c (w.holders id) hs (h o hlookup hs)
        refine ⟨⟨_, ?_, (run_own c (w.holders id) act o).row, hstatus⟩, fun e he hcalled => ?_⟩
        · exact List.mem_map.mpr ⟨o, ho, if_pos hid⟩
        · rw [hevents e he] at hcalled
          cases hcalled
      · -- Another order: the calls are made for the visited one.
        refine ⟨⟨o, List.mem_map.mpr ⟨o, ho, if_neg hid⟩, rfl, hs⟩, fun e he hcalled => ?_⟩
        have hfor := (run_own c (w.holders id) act x).calls e he o.id hcalled
        exact hid (hfor.trans hxid)

/-- **A refunded order is final** in every run whose visits spare refunded orders. -/
theorem refunded_final {ops : List Op} (hok : Meets (Desk.step c) Desk.SparesRefunded .empty ops) :
    AllSteps (Desk.step c) (fun w _ w' => w.RefundedStays w') .empty ops :=
  allSteps_of_inv (fun _ _ hk _ => Desk.keyed_step hk) (fun _ _ hk h => refundedStays_step hk h)
    Desk.keyed_empty hok

/-! ## A run that breaks it -/

instance (w w' : Desk) : Decidable (w.RefundedStays w') :=
  inferInstanceAs (Decidable (∀ o ∈ w.orders, o.status = .refunded →
    (∃ o' ∈ w'.orders, o'.id = o.id ∧ o'.status = .refunded) ∧
      ∀ e ∈ w'.log.drop w.log.length, e.calledFor ≠ some o.id))

/-- A domain is registered and paid, and the admin refunds it; then comes `last`. -/
def refundRun (last : Act) : List Op :=
  [.create 0 0 0 true 79900 0,
    .visit 0 (.verifyAndProvision (some 0) true none (.registers 1 true)),
    .visit 0 (.adminRefund (.accepted 0) ⟨.captured, 79900, 0⟩), .visit 0 last]

theorem refunded_final_webhook :
    AllSteps (Desk.step .ascii) (fun w _ w' => w.RefundedStays w') .empty
      (refundRun (.paymentCaptured 0 none (.registers 2 true) (.accepts 2) ⟨.captured, 79900, 0⟩)) := by
  refine refunded_final ⟨trivial, fun o ho hs => ?_, fun o _ _ => trivial, fun o _ _ => trivial,
    trivial⟩
  obtain rfl := Option.some.inj (ho : some (Order.created 0 0 0 0 true 79900 0) = some o)
  exact absurd hs (by decide)

/-- **A callback revives a refunded order**: the registrar reports the domain as active. -/
theorem callback_revives :
    ¬ AllSteps (Desk.step .ascii) (fun w _ w' => w.RefundedStays w') .empty
      (refundRun (.callback .active)) := by
  decide

end Deltapreneur.Storefront
