import Deltapreneur.Lib.Decimal
import Deltapreneur.Storefront.Orders

/-!
# Renewals: the years paid for, once

Model of `create_renewal_payment_order`, `verify_renewal_payment` and `_provision_renewal`
(`app/service/domain/domain_registration_service.py:3260-3283, 3390-3477`) with
`domain_price_breakdown` (`app/utils/domain_gst.py:15-54`).

* `RenewalAnswers` says what becomes of one `verify_renewal_payment`: the renewal window, the call
  of `renew_domain`, a failure of a later step, the answer to the poll at the end. A failure rolls
  the request back, `last_renewal_payment_id` included.
* The price is for `max(1, years)` years (`chargedYears`), and the notes of the Razorpay order
  carry the years asked for.
* A payload's `period` that `int` does not take raises before anything is done; it is not a step
  here.

Results:

* `renewals_paid_for`: in every run in which nobody asks for less than a year, no payload states
  other years than those pending, and no step fails from the registrar's call on, each payment
  leads to at most one call, for the years charged.
* `ten_years_for_one`: otherwise the client of a renewal for one year gets ten.
-/

namespace Deltapreneur.Storefront

open Razorpay (Gateway)
open Run

/-! ## The price -/

/-- The number of years that `domain_price_breakdown` charges for. -/
def chargedYears (years : Int) : Nat := (max 1 years).toNat

/-- `totalInr` of `domain_price_breakdown`; `gst` is the total for a subtotal. -/
def domainPriceBreakdown (gst : Paise → Paise) (unitBaseInr : Paise) (years : Int) : Paise :=
  gst (unitBaseInr * chargedYears years)

/-! ## The service -/

/-- What becomes of the call of `renew_domain`. -/
inductive RenewCall
  | done | lost | rejected
  deriving Repr, DecidableEq

/-- What becomes of one request. -/
structure RenewalAnswers where
  windowOpen : Bool
  call : RenewCall
  /-- A step after the call raises. -/
  fails : Bool
  sync : Option Bool
  deriving Repr, DecidableEq

/-- `period` of the body, which is any JSON: a number, or a text of digits. -/
inductive Period
  | number (q : ℚ)
  | text (n : Int)
  deriving Repr, DecidableEq

/-- The body of `verify_renewal_payment`. -/
structure RenewalPayload where
  razorpayOrderId : OrderId
  razorpayPaymentId : PaymentId
  period : Option Period
  deriving Repr, DecidableEq

/-- The years that the payload states. The number 0 counts as absent, the text `"0"` does not. -/
def RenewalPayload.stated (payload : RenewalPayload) : Option Int :=
  match payload.period with
  | none => none
  | some (.number q) => if q = 0 then none else some (Decimal.truncate q)
  | some (.text n) => some n

/-- `int(payload.get("period") or order.pending_renewal_years or 1)`. -/
def RenewalPayload.periodYears (payload : RenewalPayload) (q : PendingRenewal) : Int :=
  (payload.stated.or ((some q.years).filter (· ≠ 0))).getD 1

/-- The row after a renewal. -/
def Order.renewed (o : Order) : Order :=
  { o with renewalCount := o.renewalCount + 1, pendingRenewal := none }

/-- `_provision_renewal`; `before` is the row that a failure falls back to. -/
def provisionRenewal (a : RenewalAnswers) (years : Int) (before o : Order) : Order × List Event :=
  if a.windowOpen = false then (before, [])
  else
    let events := if o.openProviderDomainId.isSome then [.renew o years] else []
    if (o.openProviderDomainId.isSome ∧ a.call ≠ .done) ∨ a.fails = true then (before, events)
    else (o.renewed.sync a.sync, events)

/-- `verify_renewal_payment`; `valid` is the signature. -/
def verifyRenewalPayment (payload : RenewalPayload) (valid : Bool) (a : RenewalAnswers)
    (o : Order) : Order × List Event :=
  match o.pendingRenewal with
  | none => (o, [])
  | some q =>
    if q.razorpayOrderId ≠ payload.razorpayOrderId then (o, [])
    else if o.lastRenewalPaymentId = some payload.razorpayPaymentId then (o.sync a.sync, [])
    else if valid = false then (o, [])
    else provisionRenewal a (payload.periodYears q) o
      { o with lastRenewalPaymentId := some payload.razorpayPaymentId }

/-- The row with a pending renewal. -/
def Order.withPending (o : Order) (q : PendingRenewal) : Order :=
  { o with pendingRenewal := some q }

/-! ## Runs -/

/-- An order, the gateway, and what was done outside. The notes of a Razorpay order are the years
of a renewal, or nothing for an order of another kind. -/
structure RenewalDesk where
  order : Order
  gateway : Gateway (Option Int)
  log : List Event

inductive RenewalOp
  /-- `create_renewal_payment_order`, at the renewal price of the moment. -/
  | create (periodYears : Int) (unitInr : Paise) (windowOpen : Bool)
  /-- Razorpay issues an order for something else. -/
  | elsewhere (amount : Paise)
  /-- The customer pays a Razorpay order. -/
  | pay (order : OrderId)
  | verify (payload : RenewalPayload) (genuine : Bool) (a : RenewalAnswers)

namespace RenewalDesk

variable (gst : Paise → Paise)

/-- `create_renewal_payment_order`. -/
def createRenewalPaymentOrder (w : RenewalDesk) (periodYears : Int) (unitInr : Paise)
    (windowOpen : Bool) : RenewalDesk :=
  if windowOpen = false then w
  else
    let total := domainPriceBreakdown gst unitInr periodYears
    match w.gateway.createOrder total (some periodYears) with
    | none => w
    | some (id, gateway) => { w with order := w.order.withPending ⟨id, periodYears, total⟩, gateway }

def step (w : RenewalDesk) : RenewalOp → RenewalDesk
  | .create periodYears unitInr windowOpen =>
    w.createRenewalPaymentOrder gst periodYears unitInr windowOpen
  | .elsewhere amount =>
    match w.gateway.createOrder amount none with
    | none => w
    | some (_, gateway) => { w with gateway }
  | .pay order => { w with gateway := w.gateway.capture order }
  | .verify payload genuine a =>
    let valid := w.gateway.verifyPaymentSignature payload.razorpayOrderId
      payload.razorpayPaymentId genuine
    let (order, events) := verifyRenewalPayment payload valid a w.order
    { w with order, log := w.log ++ events }

/-- Nothing was asked for yet. -/
def Starts (w : RenewalDesk) : Prop :=
  w.order.pendingRenewal = none ∧ w.gateway = .empty ∧ w.log = []

end RenewalDesk

/-- The call of `renew_domain` was made for the payment. -/
def Event.renewsFor (payment : PaymentId) : Event → Bool
  | .renew o _ => o.lastRenewalPaymentId = some payment
  | _ => false

/-- Each captured payment leads to at most one call, for the years charged in its Razorpay order. -/
def RenewalDesk.YearsPaidFor (w : RenewalDesk) : Prop :=
  ∀ payment, w.log.countP (Event.renewsFor payment) ≤ 1 ∧
    ∀ o (years : Int), .renew o years ∈ w.log → o.lastRenewalPaymentId = some payment →
      ∃ z ∈ w.gateway.orders, (z.id, payment) ∈ w.gateway.captured ∧
        ∃ period, z.notes = some period ∧ years = chargedYears period

/-- The payload states no other years than those pending, the price was for the years asked for, and
nothing fails from the registrar's call on. -/
def RenewalDesk.Plain (w : RenewalDesk) : RenewalOp → Prop
  | .create periodYears _ _ => 1 ≤ periodYears
  | .verify payload _ a =>
    (payload.stated = none ∨ payload.stated = w.order.pendingRenewal.map (·.years)) ∧
      a.call = .done ∧ a.fails = false
  | _ => True

/-! ## The calls are booked to a payment -/

variable {gst : Paise → Paise} {w : RenewalDesk} {op : RenewalOp} {o : Order}
  {payload : RenewalPayload} {valid : Bool} {a : RenewalAnswers} {q : PendingRenewal}

@[simp] theorem pendingRenewal_sync (o : Order) (answer : Option Bool) :
    (o.sync answer).pendingRenewal = o.pendingRenewal := by
  rcases sync_cases_row o answer with heq | ⟨-, -, heq⟩
  · rw [heq]
  · rw [heq]
    rfl

/-- A request without a failure: nothing, or a renewal of the years that the payload or the pending
renewal state, after which nothing is pending. -/
theorem verifyRenewal_cases (payload : RenewalPayload) (valid : Bool) (o : Order)
    (ha : a.call = .done ∧ a.fails = false) :
    ((verifyRenewalPayment payload valid a o).2 = [] ∧
      ((verifyRenewalPayment payload valid a o).1.pendingRenewal = o.pendingRenewal ∨
        (verifyRenewalPayment payload valid a o).1.pendingRenewal = none)) ∨
    (∃ q, o.pendingRenewal = some q ∧ q.razorpayOrderId = payload.razorpayOrderId ∧ valid = true ∧
      (verifyRenewalPayment payload valid a o).1.pendingRenewal = none ∧
      (verifyRenewalPayment payload valid a o).2 =
        [.renew { o with lastRenewalPaymentId := some payload.razorpayPaymentId }
          (payload.periodYears q)]) := by
  unfold verifyRenewalPayment
  split
  · exact .inl ⟨rfl, .inl rfl⟩
  · next q hq =>
    split_ifs with horder hlast hvalid
    · exact .inl ⟨rfl, .inl rfl⟩
    · exact .inl ⟨rfl, .inl (pendingRenewal_sync _ _)⟩
    · exact .inl ⟨rfl, .inl rfl⟩
    · unfold provisionRenewal
      by_cases hwindow : a.windowOpen = false
      · rw [if_pos hwindow]
        exact .inl ⟨rfl, .inl rfl⟩
      · rw [if_neg hwindow]
        simp only [ha.1, ha.2, ne_eq, not_true_eq_false, and_false, Bool.false_eq_true, or_self,
          if_false]
        by_cases hid : o.openProviderDomainId.isSome = true
        · right
          exact ⟨q, hq, by simpa using horder, by simpa using hvalid, pendingRenewal_sync _ _,
            if_pos hid⟩
        · left
          exact ⟨if_neg hid, .inr (pendingRenewal_sync _ _)⟩

theorem provisionRenewal_order (a : RenewalAnswers) (years : Int) (before o : Order) :
    (provisionRenewal a years before o).1 = before ∨
      (provisionRenewal a years before o).1 = o.renewed.sync a.sync := by
  unfold provisionRenewal
  by_cases hwindow : a.windowOpen = false
  · rw [if_pos hwindow]
    exact .inl rfl
  · rw [if_neg hwindow]
    dsimp only
    split
    · exact .inl rfl
    · exact .inr rfl

/-- A renewal makes no other call. -/
theorem provisionRenewal_events {years : Int} {before : Order} :
    ∀ e ∈ (provisionRenewal a years before o).2, e = .renew o years := by
  intro e he
  unfold provisionRenewal at he
  by_cases hwindow : a.windowOpen = false
  · rw [if_pos hwindow] at he
    cases he
  · rw [if_neg hwindow] at he
    by_cases hid : o.openProviderDomainId.isSome = true
    · rw [if_pos hid] at he
      dsimp only at he
      split_ifs at he
      · exact List.mem_singleton.mp he
      · exact List.mem_singleton.mp he
    · rw [if_neg hid] at he
      dsimp only at he
      split_ifs at he
      · cases he
      · cases he

theorem periodYears_eq (hq : 1 ≤ q.years)
    (h : payload.stated = none ∨ payload.stated = some q.years) :
    payload.periodYears q = q.years := by
  have hne : q.years ≠ 0 := by omega
  unfold RenewalPayload.periodYears
  rcases h with h | h
  · simp [h, hne, Option.filter_some]
  · simp [h]

/-- What the gateway and the log say about each other. -/
structure RenewalDesk.Booked (w : RenewalDesk) : Prop where
  wellFormed : w.gateway.WellFormed
  genuine : w.gateway.Genuine
  /-- The pending renewal is the one of its Razorpay order. -/
  pending : ∀ q, w.order.pendingRenewal = some q → 1 ≤ q.years ∧
    ∃ z ∈ w.gateway.orders, z.id = q.razorpayOrderId ∧ z.notes = some q.years
  /-- A call was made for a captured payment of a Razorpay order that is not pending any more. -/
  calls : ∀ o (years : Int), .renew o years ∈ w.log →
    ∃ payment, o.lastRenewalPaymentId = some payment ∧
    ∃ z ∈ w.gateway.orders, (z.id, payment) ∈ w.gateway.captured ∧
      (∃ period, z.notes = some period ∧ years = chargedYears period) ∧
      ∀ q, w.order.pendingRenewal = some q → q.razorpayOrderId ≠ z.id
  once : ∀ payment, w.log.countP (Event.renewsFor payment) ≤ 1

theorem RenewalDesk.Starts.booked (h : w.Starts) : w.Booked := by
  obtain ⟨hpending, hgateway, hlog⟩ := h
  refine ⟨Gateway.wellFormed_of_nil (by rw [hgateway]; rfl), by rw [hgateway]; exact .empty,
    ?_, ?_, ?_⟩
  · intro q hq
    rw [hpending] at hq
    cases hq
  · intro o years hmem
    rw [hlog] at hmem
    cases hmem
  · intro payment
    rw [hlog]
    exact Nat.zero_le 1

/-- A renewal's Razorpay order is new, so no earlier call was made for it. -/
theorem booked_create {period : Int} {unit : Paise} {open_ : Bool} (h : w.Booked)
    (hperiod : 1 ≤ period) : (w.createRenewalPaymentOrder gst period unit open_).Booked := by
  unfold RenewalDesk.createRenewalPaymentOrder
  split_ifs with hwindow
  · exact h
  dsimp only
  split
  · exact h
  · next id gateway heq =>
    obtain ⟨rfl, horders⟩ := Gateway.createOrder_eq_some heq
    have hcaptured := Gateway.createOrder_captured heq
    refine ⟨h.wellFormed.cons horders, h.genuine.create heq, ?_, ?_, h.once⟩
    · intro q hq
      cases hq
      exact ⟨hperiod, _, by rw [horders]; exact List.mem_cons_self, rfl, rfl⟩
    · intro o years hmem
      obtain ⟨payment, hpay, z, hz, hcap, hyears, -⟩ := h.calls o years hmem
      refine ⟨payment, hpay, z, by rw [horders]; exact List.mem_cons_of_mem _ hz,
        by rw [hcaptured]; exact hcap, hyears, ?_⟩
      intro q hq
      cases hq
      exact fun hid => absurd (h.wellFormed z hz) (by rw [← hid]; exact Nat.lt_irrefl _)

/-- A call makes the payment's Razorpay order one that is not pending any more. -/
theorem booked_verify (h : w.Booked) {genuine : Bool} (hok : w.Plain (.verify payload genuine a)) :
    (w.step gst (.verify payload genuine a)).Booked := by
  obtain ⟨hyears, ha⟩ := hok
  show RenewalDesk.Booked { w with
    order := (verifyRenewalPayment payload _ a w.order).1
    log := w.log ++ (verifyRenewalPayment payload _ a w.order).2 }
  generalize hvalid : w.gateway.verifyPaymentSignature payload.razorpayOrderId
    payload.razorpayPaymentId genuine = valid
  rcases verifyRenewal_cases payload valid w.order ha with
    ⟨hnone, hpending⟩ | ⟨q, hq, horder, hv, hpending, hcall⟩
  · -- No call: what is pending stays or goes.
    rw [hnone, List.append_nil]
    have hsub : ∀ q, (verifyRenewalPayment payload valid a w.order).1.pendingRenewal = some q →
        w.order.pendingRenewal = some q := by
      intro q hq
      rcases hpending with heq | heq
      · rwa [heq] at hq
      · rw [heq] at hq
        cases hq
    refine ⟨h.wellFormed, h.genuine, fun q hq => h.pending q (hsub q hq), ?_, h.once⟩
    intro o years hmem
    obtain ⟨payment, hpay, z, hz, hcap, hcharged, hne⟩ := h.calls o years hmem
    exact ⟨payment, hpay, z, hz, hcap, hcharged, fun q hq => hne q (hsub q hq)⟩
  · -- A call for the pending Razorpay order.
    subst hv
    have hcap := Gateway.mem_captured_of_verify hvalid
    obtain ⟨hq1, z, hz, hzid, hznotes⟩ := h.pending q hq
    rw [hq] at hyears
    rw [hcall]
    refine ⟨h.wellFormed, h.genuine, ?_, ?_, ?_⟩
    · intro q' hq'
      rw [hpending] at hq'
      cases hq'
    · intro o years hmem
      rcases List.mem_append.mp hmem with hmem | hmem
      · obtain ⟨payment, hpay, z', hz', hcap', hcharged, -⟩ := h.calls o years hmem
        refine ⟨payment, hpay, z', hz', hcap', hcharged, fun q' hq' => ?_⟩
        rw [hpending] at hq'
        cases hq'
      · obtain ⟨rfl, rfl⟩ := Event.renew.inj (List.mem_singleton.mp hmem)
        refine ⟨_, rfl, z, hz, by rw [hzid, horder]; exact hcap, ⟨q.years, hznotes, ?_⟩, ?_⟩
        · rw [periodYears_eq hq1 hyears]
          unfold chargedYears
          omega
        · intro q' hq'
          rw [hpending] at hq'
          cases hq'
    · intro payment
      rw [List.countP_append, List.countP_singleton]
      by_cases hpay : payload.razorpayPaymentId = payment
      · -- An earlier call for this payment would be for the order that is pending.
        have hzero : w.log.countP (Event.renewsFor payment) = 0 := by
          rw [List.countP_eq_zero]
          intro e he hrenews
          cases e with
          | renew o years =>
            obtain ⟨payment', hpay', z', hz', hcap', -, hne⟩ := h.calls o years he
            have hsame : o.lastRenewalPaymentId = some payment := by
              simpa [Event.renewsFor] using hrenews
            obtain rfl : payment' = payment := Option.some.inj (hpay'.symm.trans hsame)
            refine hne q hq ?_
            rw [horder]
            exact h.genuine.order_unique (hpay ▸ hcap) hcap'
          | register o r => cases hrenews
          | transfer o r => cases hrenews
          | link o d => cases hrenews
          | refund o => cases hrenews
        rw [hzero]
        split_ifs <;> omega
      · have hold := h.once payment
        simpa [Event.renewsFor, hpay] using hold

theorem booked_step (h : w.Booked) (hok : w.Plain op) : (w.step gst op).Booked := by
  cases op with
  | create period unit open_ => exact booked_create h hok
  | elsewhere amount =>
    unfold RenewalDesk.step
    dsimp only
    split
    · exact h
    · next id gateway heq =>
      obtain ⟨rfl, horders⟩ := Gateway.createOrder_eq_some heq
      have hcaptured := Gateway.createOrder_captured heq
      have hsub : ∀ {z}, z ∈ w.gateway.orders → z ∈ gateway.orders := fun hz => by
        rw [horders]
        exact List.mem_cons_of_mem _ hz
      refine ⟨h.wellFormed.cons horders, h.genuine.create heq, ?_, ?_, h.once⟩
      · intro q hq
        obtain ⟨hq1, z, hz, hzid⟩ := h.pending q hq
        exact ⟨hq1, z, hsub hz, hzid⟩
      · intro o years hmem
        obtain ⟨payment, hpay, z, hz, hcap, hrest⟩ := h.calls o years hmem
        exact ⟨payment, hpay, z, hsub hz, by rw [hcaptured]; exact hcap, hrest⟩
  | pay order =>
    show RenewalDesk.Booked { w with gateway := w.gateway.capture order }
    refine ⟨?_, h.genuine.capture order, ?_, ?_, h.once⟩
    · intro z hz
      have hsame : (w.gateway.capture order).nextId = w.gateway.nextId := by
        unfold Gateway.nextId
        rw [Gateway.capture_orders]
      rw [hsame]
      exact h.wellFormed z (by simpa using hz)
    · intro q hq
      simpa using h.pending q hq
    · intro o years hmem
      obtain ⟨payment, hpay, z, hz, hcap, hrest⟩ := h.calls o years hmem
      exact ⟨payment, hpay, z, by simpa using hz,
        Gateway.capture_captured_subset order hcap, hrest⟩
  | verify payload genuine a => exact booked_verify h hok

theorem RenewalDesk.Booked.yearsPaidFor (h : w.Booked) : w.YearsPaidFor := by
  intro payment
  refine ⟨h.once payment, fun o years hmem hpay => ?_⟩
  obtain ⟨payment', hpay', z, hz, hcap, hcharged, -⟩ := h.calls o years hmem
  obtain rfl : payment' = payment := Option.some.inj (hpay'.symm.trans hpay)
  exact ⟨z, hz, hcap, hcharged⟩

/-- **A renewal gives the years paid for, once**, in every run without a stated period of its own,
without a period below one year and without a failure from the registrar's call on. -/
theorem renewals_paid_for {ops : List RenewalOp} (hstart : w.Starts)
    (hok : Meets (RenewalDesk.step gst) RenewalDesk.Plain w ops) :
    (exec (RenewalDesk.step gst) w ops).YearsPaidFor :=
  (exec_inv (fun _ _ h hl => booked_step h hl) hstart.booked hok).yearsPaidFor

/-! ## Runs that break it -/

instance : DecidablePred w.Plain
  | .create periodYears _ _ => inferInstanceAs (Decidable (1 ≤ periodYears))
  | .elsewhere _ => .isTrue trivial
  | .pay _ => .isTrue trivial
  | .verify payload _ a => inferInstanceAs (Decidable (
      (payload.stated = none ∨ payload.stated = w.order.pendingRenewal.map (·.years)) ∧
        a.call = .done ∧ a.fails = false))

/-- A registered domain, with no tax on its price. -/
def RenewalDesk.registered : RenewalDesk where
  order := { Order.created 0 0 0 0 true 79900 0 with
    status := .active, openProviderDomainId := some 1 }
  gateway := .empty
  log := []

/-- The renewal for `period` years is paid and the payload states `stated`. -/
def renewalRun (period : Int) (stated : Option Period) (first : RenewalAnswers) : List RenewalOp :=
  [.create period 79900 true, .pay 0, .verify ⟨0, 0, stated⟩ true first,
    .verify ⟨0, 0, stated⟩ true ⟨true, .done, false, none⟩]

theorem renewals_paid_for_two_years :
    (exec (RenewalDesk.step id) RenewalDesk.registered
      (renewalRun 2 none ⟨true, .done, false, none⟩)).YearsPaidFor :=
  renewals_paid_for ⟨rfl, rfl, rfl⟩ (by decide)

/-- **Ten years for the price of one**: the payload states the years. -/
theorem ten_years_for_one :
    RenewalDesk.registered.Starts ∧
      ¬ (exec (RenewalDesk.step id) RenewalDesk.registered
          (renewalRun 1 (some (.text 10)) ⟨true, .done, false, none⟩)).YearsPaidFor := by
  refine ⟨⟨rfl, rfl, rfl⟩, fun h => ?_⟩
  obtain ⟨-, hyears⟩ := h 0
  obtain ⟨z, hz, -, period, hnotes, hcharged⟩ := hyears
    { RenewalDesk.registered.order with
      pendingRenewal := some ⟨0, 1, 79900⟩, lastRenewalPaymentId := some 0 } 10 (by decide) rfl
  obtain rfl : z = ⟨0, 79900, some 1⟩ := List.mem_singleton.mp hz
  obtain rfl : 1 = period := Option.some.inj hnotes
  exact absurd hcharged (by decide)

end Deltapreneur.Storefront
