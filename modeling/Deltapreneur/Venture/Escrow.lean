import Deltapreneur.Venture.Locks

/-!
# The escrow of a venture deal

When the escrow of a paid deal is released or refunded, never both, and refunded once at most.

`admin_release_escrow` locks the deal and `admin_refund` does not, and it calls Razorpay before it
writes. How much is paid back is not in question: `refund_payment` asks for no more than what is
left of the payment, whatever part of the price was paid with points.

* `EscrowCall`: the calls on the deal and their statements.
* `World.OneOutcome`: the property. A refund counts from the moment Razorpay has paid back, also if
  the answer is lost; a request that Razorpay rejects is none.
* `World.Uncrossed`: the condition on a statement.

Results:

* `tracked_step`: the row, Razorpay's record and the calls in flight account for the events.
* `oneOutcome_iff`: the property holds throughout just the runs whose statements are uncrossed.
* `released_and_refunded`: a release between the read of a refund and its call of Razorpay.
-/

namespace Deltapreneur.VentureDeals

open Razorpay UnitOfWork

/-! ## Calls -/

/-- The calls of `admin_release_escrow` and `admin_refund` on one deal, and their next
statements. -/
inductive EscrowCall
  | release (k : Nat) (profileComplete : Bool)
  | refund (k : Nat) (net : RefundNetwork)
  | next (k : Nat)

def EscrowCall.label (d : DealId) : EscrowCall → Label
  | .release k profileComplete => .call k (.adminReleaseEscrow d profileComplete)
  | .refund k net => .call k (.adminRefund d net)
  | .next k => .next k

/-- One statement of the calls on the deal. -/
def escrowStep (d : DealId) (w : World) (c : EscrowCall) : World := step w (c.label d)

/-! ## The property -/

def World.releases (w : World) (d : DealId) : Nat := w.events.count (.released d)

/-- Razorpay has paid something of the deal back. -/
def Event.paysBack (d : DealId) : Event → Bool
  | .paidBack d' _ => d' = d
  | _ => false

def World.paybacks (w : World) (d : DealId) : Nat := w.events.countP (Event.paysBack d)

/-- **One release or one refund, and no more is paid back than was captured.** -/
structure World.OneOutcome (w : World) (d : DealId) (captured : Paise) : Prop where
  once : w.releases d + w.paybacks d ≤ 1
  recorded : .refunded d ∈ w.events → 0 < w.paybacks d
  bounded : ∀ amount, .paidBack d amount ∈ w.events → amount ≤ captured

/-! ## The condition -/

/-- The escrow of the deal's row is held. -/
def Rows.Escrowed (r : Rows) (d : DealId) : Prop := ∀ row ∈ r.deals[d]?, row.escrowStatus = .held

/-- The condition on a statement: escrow is released only while Razorpay shows no refund of the
payment, and Razorpay pays back only then and while the escrow is held. -/
def World.Uncrossed (w : World) (d : DealId) (payment : PaymentId) : EscrowCall → Prop
  | .next k =>
    match w.calls k with
    | .releasing _ loaded _ listing =>
      ¬ (listing.released loaded.dealKind ≠ listing ∧ w.ventureLock ≠ none) →
        (w.payments payment).amountRefunded = 0
    | .refunding _ loaded _ net =>
      (refundPayment (w.payments payment) (toSmallestUnit loaded.grossAmountInr) net).2.2 = true →
        (w.payments payment).amountRefunded = 0 ∧ w.rows.Escrowed d
    | _ => True
  | _ => True

/-! ## What accounts for the events -/

variable {w : World} {d : DealId} {payment : PaymentId} {captured amount : Paise} {k : Nat}
  {rows : Rows}

/-- What a call on the deal has read, and that Razorpay has paid back before a refund is
written. -/
def Call.Tracks (w : World) (d : DealId) (payment : PaymentId) : Call → Prop
  | .idle => True
  | .releasing d' _ _ _ => d' = d
  | .refunding d' loaded p _ =>
    (d' = d ∧ loaded.escrowStatus = .held ∧ loaded.dealStatus ≠ .refunded) ∧ p = payment
  | .ending d' loaded new _ | .reopening d' loaded new _ _ =>
    (d' = d ∧ loaded.escrowStatus = .held ∧ loaded.dealStatus ≠ .refunded) ∧
      (∃ id, new = loaded.refunded id) ∧ 0 < w.paybacks d
  | _ => False

/-- What the escrow of the row says of the events. -/
def Accounted (w : World) (d : DealId) (row : Deal) : Prop :=
  match row.escrowStatus with
  | .held => w.releases d = 0
  | .released => 0 < w.releases d
  | .refunded => row.dealStatus = .refunded ∧ 0 < w.paybacks d

/-- The row, Razorpay's record and the calls account for the events. -/
structure World.Tracked (w : World) (d : DealId) (payment : PaymentId) (captured : Paise) :
    Prop where
  row : ∃ row, w.rows.deals[d]? = some row ∧ row.razorpayPaymentId = some payment ∧
    Accounted w d row
  amount : (w.payments payment).amount = captured
  record : (w.payments payment).amountRefunded = 0 ↔ w.paybacks d = 0
  recorded : .refunded d ∈ w.events → 0 < w.paybacks d
  bounded : ∀ amount, .paidBack d amount ∈ w.events → amount ≤ captured
  calls : ∀ k, (w.calls k).Tracks w d payment

variable {w' : World} {c : Call} {row : Deal}

theorem Call.Tracks.mono (h : c.Tracks w d payment)
    (hle : 0 < w.paybacks d → 0 < w'.paybacks d) : c.Tracks w' d payment := by
  cases c with
  | idle => trivial
  | releasing => exact h
  | refunding => exact h
  | ending => exact ⟨h.1, h.2.1, hle h.2.2⟩
  | reopening => exact ⟨h.1, h.2.1, hle h.2.2⟩
  | _ => exact h.elim

theorem World.Tracked.goes (h : w.Tracked d payment captured)
    (hrow : w'.rows.deals[d]? = w.rows.deals[d]?) (hpayments : w'.payments = w.payments)
    (hevents : w'.events = w.events) (hcalls : ∀ j ≠ k, w'.calls j = w.calls j)
    (hown : (w'.calls k).Tracks w d payment) : w'.Tracked d payment captured := by
  have hreleases : w'.releases d = w.releases d := by rw [World.releases, World.releases, hevents]
  have hpaybacks : w'.paybacks d = w.paybacks d := by rw [World.paybacks, World.paybacks, hevents]
  refine ⟨?_, by rw [hpayments]; exact h.amount, by rw [hpayments, hpaybacks]; exact h.record,
    by rw [hevents, hpaybacks]; exact h.recorded, by rw [hevents]; exact h.bounded, fun j => ?_⟩
  · obtain ⟨row, hr, hpayment, haccounted⟩ := h.row
    refine ⟨row, hrow.trans hr, hpayment, ?_⟩
    rwa [Accounted, hreleases, hpaybacks]
  · by_cases hj : j = k
    · exact hj ▸ hown.mono fun hlt => hpaybacks.symm ▸ hlt
    · rw [hcalls j hj]
      exact (h.calls j).mono fun hlt => hpaybacks.symm ▸ hlt

theorem World.Tracked.setCall (h : w.Tracked d payment captured)
    (hc : c.Tracks w d payment) : (w.setCall k c).Tracked d payment captured :=
  h.goes rfl rfl rfl (fun _ hj => Function.update_of_ne hj _ _) (by rwa [calls_setCall])

theorem World.Tracked.lockDeal (h : w.Tracked d payment captured)
    (hc : c.Tracks w d payment) : (w.lockDeal k d c).Tracked d payment captured :=
  h.goes rfl rfl rfl (fun _ hj => Function.update_of_ne hj _ _) (by rwa [calls_lockDeal])

theorem World.Tracked.finish (h : w.Tracked d payment captured) :
    (w.finish k).Tracked d payment captured :=
  h.goes rfl rfl rfl (fun _ hj => Function.update_of_ne hj _ _) (by rw [calls_finish]; trivial)

/-! ### The events -/

@[simp] theorem paysBack_released : Event.paysBack d (.released d) = false := rfl

@[simp] theorem paysBack_refunded : Event.paysBack d (.refunded d) = false := rfl

@[simp] theorem paysBack_paidBack (amount : Paise) :
    Event.paysBack d (.paidBack d amount) = true := by simp [Event.paysBack]

/-- Call `k` commits the row, and with it an event that is no pay-back. -/
theorem World.Tracked.commit {event : Event} (h : w.Tracked d payment captured)
    (hquiet : Event.paysBack d event = false) (hevent : ∀ amount, event ≠ .paidBack d amount)
    (hrow : ∃ row, rows.deals[d]? = some row ∧ row.razorpayPaymentId = some payment ∧
      Accounted { w with events := event :: w.events } d row)
    (hrecorded : event = .refunded d → 0 < w.paybacks d) :
    ({ w with events := event :: w.events }.commit k rows).Tracked d payment captured := by
  have hpaybacks : ({ w with events := event :: w.events }.commit k rows).paybacks d =
      w.paybacks d := List.countP_cons_of_neg (by simp [hquiet])
  refine ⟨hrow, h.amount, by rw [hpaybacks]; exact h.record, fun hmem => ?_, fun amount hmem => ?_,
    fun j => ?_⟩
  · rw [hpaybacks]
    rcases List.mem_cons.mp hmem with heq | hmem
    · exact hrecorded heq.symm
    · exact h.recorded hmem
  · rcases List.mem_cons.mp hmem with heq | hmem
    · exact absurd heq.symm (hevent amount)
    · exact h.bounded amount hmem
  · by_cases hj : j = k
    · rw [hj, calls_commit]
      trivial
    · have hcalls : ({ w with events := event :: w.events }.commit k rows).calls j = w.calls j :=
        Function.update_of_ne hj _ _
      rw [hcalls]
      exact (h.calls j).mono fun hlt => hpaybacks.symm ▸ hlt

theorem World.Tracked.release {loaded new : Deal} {listing : Venture}
    (h : w.Tracked d payment captured) (hrow : w.rows.deals[d]? = some loaded)
    (hok : ∃ profileComplete, adminReleaseEscrow loaded profileComplete = .ok new) :
    ({ w with events := .released d :: w.events }.commit k
      (w.rows.release d loaded new listing)).Tracked d payment captured := by
  obtain ⟨profileComplete, hok⟩ := hok
  obtain ⟨-, -, rfl⟩ := adminReleaseEscrow_ok hok
  obtain ⟨row, hr, hpayment, -⟩ := h.row
  cases hrow.symm.trans hr
  refine h.commit rfl (by simp) ⟨_, getElem?_modify_self hrow, ?_, ?_⟩ (by simp)
  · simpa [Deal.flush] using hpayment
  · simp [Accounted, Deal.flush, World.releases]

theorem World.Tracked.refund {loaded : Deal} {id : RefundId} {reopens : Bool} {listing : Venture}
    (h : w.Tracked d payment captured) (hescrow : loaded.escrowStatus = .held)
    (hstatus : loaded.dealStatus ≠ .refunded) (hpaid : 0 < w.paybacks d) :
    ({ w with events := .refunded d :: w.events }.commit k
      (w.rows.endDeal d loaded (loaded.refunded id) reopens listing)).Tracked d payment captured := by
  obtain ⟨row, hr, hpayment, -⟩ := h.row
  refine h.commit rfl (by simp) ⟨_, getElem?_modify_self hr, ?_, ?_⟩ fun _ => hpaid
  · simpa [Deal.flush, Deal.refunded] using hpayment
  · have hpaybacks : ({ w with events := .refunded d :: w.events } : World).paybacks d =
        w.paybacks d := List.countP_cons_of_neg (by simp)
    simpa [Accounted, Deal.flush, Deal.refunded, flushColumn, hescrow, Ne.symm hstatus, hpaybacks]
      using hpaid

/-! ### The call of Razorpay -/

/-- Razorpay has paid back. -/
def World.payBack (w : World) (d : DealId) (payment : PaymentId) (amount : Paise) : World :=
  { w with
    payments := Function.update w.payments payment ((w.payments payment).payBack amount)
    events := .paidBack d amount :: w.events }

theorem paybacks_payBack : (w.payBack d payment amount).paybacks d = w.paybacks d + 1 :=
  List.countP_cons_of_pos (by simp)

theorem releases_payBack : (w.payBack d payment amount).releases d = w.releases d :=
  List.count_cons_of_ne (by simp)

theorem World.Tracked.payBack (h : w.Tracked d payment captured) (hpos : 0 < amount)
    (hle : amount ≤ captured) : (w.payBack d payment amount).Tracked d payment captured := by
  refine ⟨?_, ?_, ?_, fun _ => ?_, fun a hmem => ?_, fun j => ?_⟩
  · obtain ⟨row, hr, hpayment, haccounted⟩ := h.row
    refine ⟨row, hr, hpayment, ?_⟩
    unfold Accounted at haccounted ⊢
    rw [releases_payBack, paybacks_payBack]
    cases hescrow : row.escrowStatus <;> simp_all
  · simpa [World.payBack] using h.amount
  · rw [paybacks_payBack]
    simp [World.payBack, Payment.payBack, Nat.ne_of_gt hpos]
  · rw [paybacks_payBack]
    exact Nat.succ_pos _
  · rcases List.mem_cons.mp hmem with heq | hmem
    · obtain ⟨-, rfl⟩ := Event.paidBack.inj heq
      exact hle
    · exact h.bounded a hmem
  · exact (h.calls j).mono fun _ => paybacks_payBack ▸ Nat.succ_pos _

/-- What the call of Razorpay leaves: nothing has happened, or the payment was paid back and the
refund is about to be written, if the answer has arrived. -/
theorem callRazorpay_cases (w : World) (k : Nat) (d : DealId) (loaded : Deal)
    (payment : PaymentId) (net : RefundNetwork) :
    ((refundPayment (w.payments payment) (toSmallestUnit loaded.grossAmountInr) net).2.2 = false ∧
      w.callRazorpay k d loaded payment net = w.finish k) ∨
    ((refundPayment (w.payments payment) (toSmallestUnit loaded.grossAmountInr) net).2.2 = true ∧
      ∃ amount, 0 < amount ∧ amount ≤ (w.payments payment).amount ∧
        (w.callRazorpay k d loaded payment net = (w.payBack d payment amount).finish k ∨
          ∃ id, w.callRazorpay k d loaded payment net = (w.payBack d payment amount).setCall k
            (.ending d loaded (loaded.refunded id) (loaded.dealKind = .ventureSale)))) := by
  unfold World.callRazorpay
  have hcases :=
    refundPayment_cases (w.payments payment) (toSmallestUnit loaded.grossAmountInr) net
  generalize refundPayment (w.payments payment) (toSmallestUnit loaded.grossAmountInr) net = answer
    at hcases ⊢
  obtain ⟨reply, record, issued⟩ := answer
  rcases hcases with ⟨heq, hreply⟩ | ⟨-, -, hne, heq⟩
  · obtain ⟨rfl, rfl⟩ := Prod.mk.inj heq
    refine .inl ⟨rfl, ?_⟩
    cases reply with
    | refund id amount => exact absurd rfl (hreply id amount)
    | _ => simp [World.finish, World.setCall]
  · obtain ⟨rfl, rfl⟩ := Prod.mk.inj heq
    refine .inr ⟨rfl, _, Nat.pos_of_ne_zero hne, ?_, ?_⟩
    · exact (min_le_right _ _).trans (Nat.sub_le _ _)
    · cases reply with
      | refund id amount => exact .inr ⟨id, by simp [World.payBack, Payment.payBack]⟩
      | _ => exact .inl (by simp [World.payBack, Payment.payBack])

/-! ## One statement -/

theorem World.Tracked.reads {payment' : PaymentId} (h : w.Tracked d payment captured)
    (hrow : w.rows.deals[d]? = some row) (hok : adminRefund row = .ok (some payment')) :
    (row.escrowStatus = .held ∧ row.dealStatus ≠ .refunded) ∧ payment' = payment := by
  obtain ⟨row', hr, hpayment, haccounted⟩ := h.row
  cases hrow.symm.trans hr
  obtain ⟨hstatus, hreleased, hpayment'⟩ := adminRefund_ok hok
  refine ⟨⟨?_, hstatus⟩, Option.some.inj (hpayment'.symm.trans hpayment)⟩
  unfold Accounted at haccounted
  cases hescrow : row.escrowStatus with
  | held => rfl
  | released => exact absurd hescrow hreleased
  | refunded =>
    rw [hescrow] at haccounted
    exact absurd haccounted.1 hstatus

/-- The first statements. -/
theorem World.Tracked.start (h : w.Tracked d payment captured) {op : Op}
    (hop : (∃ profileComplete, op = .adminReleaseEscrow d profileComplete) ∨
      ∃ net, op = .adminRefund d net) :
    (w.start k op).Tracked d payment captured ∧ (w.start k op).events = w.events := by
  rcases hop with ⟨profileComplete, rfl⟩ | ⟨net, rfl⟩
  · simp only [World.start]
    split
    · split
      · exact ⟨h.lockDeal rfl, rfl⟩
      · exact ⟨h, rfl⟩
    · exact ⟨h, rfl⟩
  · simp only [World.start]
    split
    · exact ⟨h, rfl⟩
    · next hrow =>
      split
      · next hok =>
        obtain ⟨hread, rfl⟩ := h.reads hrow hok
        exact ⟨h.setCall ⟨⟨rfl, hread⟩, rfl⟩, rfl⟩
      · exact ⟨h, rfl⟩

/-- Both counts. -/
def World.outcomes (w : World) (d : DealId) : Nat := w.releases d + w.paybacks d

theorem outcomes_of_events (h : w'.events = w.events) : w'.outcomes d = w.outcomes d := by
  rw [World.outcomes, World.outcomes, World.releases, World.releases, World.paybacks,
    World.paybacks, h]

theorem tracked_of_events {P : Prop} (h : w'.Tracked d payment captured)
    (hevents : w'.events = w.events) (honce : w.outcomes d ≤ 1) (hP : P) :
    w'.Tracked d payment captured ∧ (w'.outcomes d ≤ 1 ↔ P) :=
  ⟨h, fun _ => hP, fun _ => outcomes_of_events hevents ▸ honce⟩

theorem outcomes_release :
    ({ w with events := .released d :: w.events }.commit k rows).outcomes d =
      w.outcomes d + 1 := by
  have hreleases : ({ w with events := .released d :: w.events }.commit k rows).releases d =
      w.releases d + 1 := List.count_cons_self
  have hpaybacks : ({ w with events := .released d :: w.events }.commit k rows).paybacks d =
      w.paybacks d := List.countP_cons_of_neg (by simp)
  rw [World.outcomes, World.outcomes, hreleases, hpaybacks]
  omega

theorem outcomes_refund :
    ({ w with events := .refunded d :: w.events }.commit k rows).outcomes d = w.outcomes d := by
  have hreleases : ({ w with events := .refunded d :: w.events }.commit k rows).releases d =
      w.releases d := List.count_cons_of_ne (by simp)
  have hpaybacks : ({ w with events := .refunded d :: w.events }.commit k rows).paybacks d =
      w.paybacks d := List.countP_cons_of_neg (by simp)
  rw [World.outcomes, World.outcomes, hreleases, hpaybacks]

theorem outcomes_payBack : (w.payBack d payment amount).outcomes d = w.outcomes d + 1 := by
  rw [World.outcomes, World.outcomes, releases_payBack, paybacks_payBack]
  omega

theorem succ_le_one_iff {n : Nat} : n + 1 ≤ 1 ↔ n = 0 := by omega

theorem World.Tracked.outcomes_eq_zero (h : w.Tracked d payment captured) :
    w.outcomes d = 0 ↔ (w.payments payment).amountRefunded = 0 ∧ w.rows.Escrowed d := by
  obtain ⟨row, hr, -, haccounted⟩ := h.row
  unfold Accounted at haccounted
  rw [h.record, World.outcomes, Nat.add_eq_zero_iff, Rows.Escrowed]
  simp only [hr, Option.mem_def, Option.some.injEq, forall_eq']
  cases hescrow : row.escrowStatus with
  | held =>
    rw [hescrow] at haccounted
    simp [haccounted]
  | released =>
    rw [hescrow] at haccounted
    simp [Nat.ne_of_gt haccounted]
  | refunded =>
    rw [hescrow] at haccounted
    simp [Nat.ne_of_gt haccounted.2]

/-- **A statement accounts for its events, and the property goes on just where it is uncrossed.** -/
theorem tracked_next (hheld : w.Held) (h : w.Tracked d payment captured)
    (honce : w.outcomes d ≤ 1) :
    (w.next k (w.calls k)).Tracked d payment captured ∧
      ((w.next k (w.calls k)).outcomes d ≤ 1 ↔ w.Uncrossed d payment (.next k)) := by
  have hholds := hheld k
  have htracks := h.calls k
  simp only [World.Uncrossed]
  cases hcall : w.calls k with
  | idle => exact tracked_of_events h rfl honce trivial
  | releasing d' loaded new listing =>
    rw [hcall] at hholds htracks
    obtain rfl : d' = d := htracks
    simp only [World.next]
    by_cases hwait : listing.released loaded.dealKind ≠ listing ∧ w.ventureLock ≠ none
    · rw [if_pos hwait]
      exact tracked_of_events h rfl honce fun hgo => absurd hwait hgo
    · rw [if_neg hwait]
      obtain ⟨profileComplete, hok⟩ := hholds.2
      -- the row is in escrow as long as the call has locked it
      have hescrowed : w.rows.Escrowed d' := by
        simp [Rows.Escrowed, hholds.1.2, (adminReleaseEscrow_ok hok).2.1]
      refine ⟨h.release hholds.1.2 hholds.2, ?_⟩
      rw [outcomes_release, succ_le_one_iff, h.outcomes_eq_zero, and_iff_left hescrowed]
      exact ⟨fun hz _ => hz, fun hz => hz hwait⟩
  | refunding d' loaded p net =>
    rw [hcall] at htracks
    obtain ⟨⟨rfl, hescrow, hstatus⟩, rfl⟩ := htracks
    simp only [World.next]
    rcases callRazorpay_cases w k d' loaded p net with
      ⟨hnone, heq⟩ | ⟨hissued, amount, hpos, hle, heq⟩
    · rw [heq, hnone]
      exact tracked_of_events h.finish rfl honce (by simp)
    · have hpaid := h.payBack hpos (h.amount ▸ hle)
      have hcount : (w.payBack d' p amount).outcomes d' = w.outcomes d' + 1 := outcomes_payBack
      have hafter : (w.callRazorpay k d' loaded p net).Tracked d' p captured ∧
          (w.callRazorpay k d' loaded p net).outcomes d' = w.outcomes d' + 1 := by
        rcases heq with heq | ⟨id, heq⟩
        · rw [heq]
          exact ⟨hpaid.finish, hcount⟩
        · rw [heq]
          exact ⟨hpaid.setCall
            ⟨⟨rfl, hescrow, hstatus⟩, ⟨id, rfl⟩, paybacks_payBack ▸ Nat.succ_pos _⟩,
            hcount⟩
      refine ⟨hafter.1, ?_⟩
      rw [hafter.2, succ_le_one_iff, h.outcomes_eq_zero]
      exact ⟨fun hz _ => hz, fun hz => hz hissued⟩
  | ending d' loaded new reopens =>
    rw [hcall] at htracks
    obtain ⟨⟨rfl, hread⟩, hpaid⟩ := htracks
    simp only [World.next]
    split_ifs
    · exact tracked_of_events (h.lockDeal ⟨⟨rfl, hread⟩, hpaid⟩) rfl honce trivial
    · exact tracked_of_events h rfl honce trivial
  | reopening d' loaded new reopens listing =>
    rw [hcall] at htracks
    obtain ⟨⟨rfl, hescrow, hstatus⟩, ⟨id, rfl⟩, hpaid⟩ := htracks
    simp only [World.next]
    split
    · exact tracked_of_events h rfl honce trivial
    · have hrefunded : (loaded.refunded id).dealStatus = DealStatus.refunded := rfl
      rw [if_pos hrefunded]
      refine ⟨h.refund hescrow hstatus hpaid, fun _ => trivial, fun _ => ?_⟩
      rw [outcomes_refund]
      exact honce
  | _ =>
    rw [hcall] at htracks
    exact htracks.elim

theorem tracked_step (hheld : w.Held) (h : w.Tracked d payment captured)
    (honce : w.outcomes d ≤ 1) (c : EscrowCall) :
    (escrowStep d w c).Tracked d payment captured ∧
      ((escrowStep d w c).outcomes d ≤ 1 ↔ w.Uncrossed d payment c) := by
  have hstart : ∀ k op, ((∃ profileComplete, op = .adminReleaseEscrow d profileComplete) ∨
      ∃ net, op = .adminRefund d net) →
      (step w (.call k op)).Tracked d payment captured ∧
        ((step w (.call k op)).outcomes d ≤ 1 ↔ True) := by
    intro k op hop
    simp only [step]
    split
    · exact tracked_of_events (h.start hop).1 (h.start hop).2 honce trivial
    · exact tracked_of_events h rfl honce trivial
  cases c with
  | release k profileComplete => exact hstart k _ (.inl ⟨profileComplete, rfl⟩)
  | refund k net => exact hstart k _ (.inr ⟨net, rfl⟩)
  | next k => exact tracked_next hheld h honce

theorem World.Tracked.outcomes_iff (h : w.Tracked d payment captured) :
    w.OneOutcome d captured ↔ w.outcomes d ≤ 1 :=
  ⟨fun hone => hone.once, fun honce => ⟨honce, h.recorded, h.bounded⟩⟩

/-! ## Runs -/

theorem tracked_init {payments : PaymentId → Payment} {txn : Deal}
    (hrow : rows.deals[d]? = some txn) (hescrow : txn.escrowStatus = .held)
    (hpayment : txn.razorpayPaymentId = some payment) (hrecord : payments payment = .fresh captured)
    :
    (World.init rows payments).Tracked d payment captured where
  row := ⟨txn, hrow, hpayment, by rw [Accounted, hescrow]; rfl⟩
  amount := by simp [World.init, hrecord, Payment.fresh]
  record := by simp [World.init, hrecord, Payment.fresh, World.paybacks]
  recorded := by simp [World.init]
  bounded := by simp [World.init]
  calls := fun _ => trivial

/-- **Escrow is released or refunded, once and never both, throughout just the runs whose statements
are uncrossed.** -/
theorem oneOutcome_iff (rows : Rows) (payments : PaymentId → Payment) (d : DealId) (txn : Deal)
    (payment : PaymentId) (captured : Paise) (hrow : rows.deals[d]? = some txn)
    (hescrow : txn.escrowStatus = .held) (hpayment : txn.razorpayPaymentId = some payment)
    (hrecord : payments payment = .fresh captured) (cs : List EscrowCall) :
    (∀ pre, pre <+: cs →
        (Run.exec (escrowStep d) (World.init rows payments) pre).OneOutcome d captured) ↔
      Run.Meets (escrowStep d) (World.Uncrossed · d payment ·) (World.init rows payments) cs := by
  have hstep : ∀ (w : World) (c : EscrowCall), w.Held ∧ w.Tracked d payment captured →
      w.OneOutcome d captured →
        ((escrowStep d w c).Held ∧ (escrowStep d w c).Tracked d payment captured) ∧
          ((escrowStep d w c).OneOutcome d captured ↔ w.Uncrossed d payment c) := by
    rintro w c ⟨hheld, h⟩ hone
    obtain ⟨htracked, hiff⟩ := tracked_step hheld h hone.once c
    exact ⟨⟨held_step hheld _, htracked⟩, htracked.outcomes_iff.trans hiff⟩
  have htracked := tracked_init hrow hescrow hpayment hrecord
  exact Run.throughout_iff hstep ⟨held_init rows payments, htracked⟩
    (htracked.outcomes_iff.mpr (by simp [World.outcomes, World.releases, World.paybacks,
      World.init]))

/-! ## A release between -/

/-- A listing of user 1 and its sale to user 2, paid with payment 8 and 300 rupees of points. -/
def soldListing : Rows where
  venture := ⟨some 1, true, true, .venture, .dealFinalized, true, false, none, some 0, none⟩
  pitches := [⟨2, .dealSelected, 1000⟩]
  applications := []
  deals := [⟨2, some 0, none, .ventureSale, .paymentHeld, .held, 1000, 900, some 7, some 8, none⟩]

/-- Call 0 has read the deal when call 1 releases its escrow. -/
def releaseBetween : List EscrowCall :=
  [.refund 0 (.accepted 9), .release 1 true, .next 1, .next 0, .next 0, .next 0]

/-- **The escrow goes to the seller and the payment back to the buyer.** -/
theorem released_and_refunded :
    (Run.exec (escrowStep 0) (World.init soldListing fun _ => .fresh 70000) releaseBetween).Quiet ∧
      (Run.exec (escrowStep 0) (World.init soldListing fun _ => .fresh 70000)
        releaseBetween).events = [.refunded 0, .paidBack 0 70000, .released 0] ∧
      ¬ (Run.exec (escrowStep 0) (World.init soldListing fun _ => .fresh 70000)
        releaseBetween).OneOutcome 0 70000 := by
  have hevents : (Run.exec (escrowStep 0) (World.init soldListing fun _ => .fresh 70000)
      releaseBetween).events = [.refunded 0, .paidBack 0 70000, .released 0] := by
    decide +kernel
  refine ⟨fun k => ?_, hevents, fun h => ?_⟩
  · rcases k with _ | _ | k <;> with_unfolding_all rfl
  · have honce := h.once
    rw [World.releases, World.paybacks, hevents] at honce
    exact absurd honce (by decide)

theorem oneOutcome_releaseBetween :
    (∀ pre, pre <+: releaseBetween →
        (Run.exec (escrowStep 0) (World.init soldListing fun _ => .fresh 70000) pre).OneOutcome 0
          70000) ↔
      Run.Meets (escrowStep 0) (World.Uncrossed · 0 8 ·)
        (World.init soldListing fun _ => .fresh 70000) releaseBetween :=
  oneOutcome_iff soldListing _ 0 _ 8 70000 rfl rfl rfl rfl releaseBetween

end Deltapreneur.VentureDeals
