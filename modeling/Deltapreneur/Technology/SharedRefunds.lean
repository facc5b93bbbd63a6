import Deltapreneur.Lib.Decimal
import Deltapreneur.Technology.SoftwareSale

/-!
# Refunds and payouts of software purchases

What the payment and the payout service (`cocreation_payment_service.py`,
`technology_transfer_payout_service.py`) do to a set of software purchases, some of which share one
cart order, under calls one after the other.

A refund is issued for one purchase, by `admin_refund` or outside of the application. Razorpay
reports each by the order (`refund.processed`), and `mark_refunded_from_webhook` marks the order's
purchases.

* `PurchaseId` is a position. `(razorpay_order_id, software_id)` is unique, so that a call which
  names both finds one purchase.
* `Sales.refundsFor`: the purchases that refunds were issued for. A refund outside of `admin_refund`
  is for the purchases that it says.
* The listing, as the payout service finds it, comes with the call. Its own status is modelled in
  `SoftwareSale`; the delivery snapshot and the expiry are left out.

Results:

* `sound_step`, `payouts_sound`: a purchase that is paid out is completed, and has one payout.
* `faithful_iff`: the property holds throughout just the runs in which every mark is covered.
* `unrefunded_purchase_marked`: two purchases in one cart.
-/

namespace Deltapreneur.SoftwareRefunds

open Decimal Razorpay
open Technology (SoftwareListing SoftwarePurchase)

/-! ## Rows -/

abbrev SoftwareId := Nat
abbrev PurchaseId := Nat

/-- The columns that refunds and payouts read. -/
structure Purchase extends SoftwarePurchase where
  softwareId : SoftwareId
  grossAmountInr : ℚ
  /-- `refund_completed_at` is set. -/
  refundCompleted : Bool
  /-- `payout_approved_at` is set. -/
  payoutApproved : Bool
  deriving DecidableEq

/-! ## The payment service -/

variable (p : Purchase) {i : PurchaseId} {net : RefundNetwork} {existing : RefundId}

/-- `_finalize_paid_purchase`. -/
def Purchase.finalized (payment : PaymentId) : Purchase :=
  { p with toSoftwarePurchase := p.toSoftwarePurchase.finalize payment }

/-- `verify_payment` on the purchase; a call that raises leaves it. -/
def Purchase.verified (buyer : UserId) (payment : PaymentId) (signatureOk : Bool) : Purchase :=
  match Technology.verifyPayment (some p.toSoftwarePurchase) buyer signatureOk with
  | .ok .finalize => p.finalized payment
  | _ => p

/-- `complete_from_webhook` on a purchase of the order. -/
def Purchase.completed (payment : PaymentId) : Purchase :=
  match Technology.completeFromWebhook p.toSoftwarePurchase with
  | .finalize => p.finalized payment
  | .already =>
    if p.paymentStatus = .completed ∧ p.razorpayPaymentId = none then
      { p with razorpayPaymentId := some payment }
    else p

/-- `mark_failed_from_webhook` on a purchase of the order. -/
def Purchase.markedFailed : Purchase :=
  if p.paymentStatus ≠ .created then p else { p with paymentStatus := .failed }

/-- `mark_refunded_from_webhook` on a purchase of the order. -/
def Purchase.markedRefunded (refund : Option RefundId) : Purchase :=
  if p.paymentStatus = .refunded then p
  else if p.sellerPaid then p
  else { p with
    paymentStatus := .refunded
    razorpayRefundId := refund.or p.razorpayRefundId
    refundCompleted := true }

/-- `admin_refund` on the purchase, once Razorpay has answered. -/
def Purchase.refunded (refund : RefundId) : Purchase :=
  { p with toSoftwarePurchase := p.toSoftwarePurchase.refund refund, refundCompleted := true }

/-- The amount that `admin_refund` asks for. -/
def Purchase.refundAmount : Paise := (roundEven (round2 (p.grossAmountInr * 1.18) * 100)).toNat

/-! ## The payout service -/

/-- `_assert_payout_eligible`. -/
def assertPayoutEligible (software : Option SoftwareListing) (requireVerification : Bool) :
    Except AppException Unit :=
  if p.sellerPaid then raise "Payout is already completed." 400
  else if p.paymentStatus = .refunded ∨ p.refundCompleted then
    raise "Cannot pay out a refunded purchase." 400
  else if p.paymentStatus = .cancelled then raise "Cannot pay out a cancelled purchase." 400
  else if p.paymentStatus = .failed then raise "Cannot pay out a failed purchase." 400
  else if p.paymentStatus ≠ .completed then
    raise "Payment must be completed before payout." 400
  else
    match software with
    | none => raise "Software listing not found for this purchase." 400
    | some software =>
      if software.rejected then raise "Cannot pay out a rejected listing." 400
      else if requireVerification ∧ ¬ software.verified then
        raise "Cannot pay out an unverified listing." 400
      else .ok ()

/-- The seller of the listing, with a payout profile that is complete. -/
def requireSeller (software : Option SoftwareListing) (profileComplete : Bool) :
    Except AppException UserId :=
  match software.bind (·.listedByUserId) with
  | none => raise "Software listing has no seller." 400
  | some seller =>
    if ¬ profileComplete then
      raise "Cannot approve payout. Seller payout profile is incomplete." 400
    else .ok seller

/-- What the payout service reads besides the purchase. -/
structure PayoutContext where
  software : Option SoftwareListing
  requireVerification : Bool
  profileComplete : Bool
  deriving Repr, DecidableEq

/-- `approve_payout`. -/
def approvePayout (ctx : PayoutContext) : Except AppException Purchase :=
  match assertPayoutEligible p ctx.software ctx.requireVerification with
  | .error e => .error e
  | .ok () =>
    match requireSeller ctx.software ctx.profileComplete with
    | .error e => .error e
    | .ok _ => .ok { p with payoutApproved := true }

/-- `release_payout` on the purchase. -/
def releasePayout (ctx : PayoutContext) : Except AppException Purchase :=
  match assertPayoutEligible p ctx.software ctx.requireVerification with
  | .error e => .error e
  | .ok () =>
    if ¬ p.payoutApproved then raise "Payout must be approved before release." 400
    else if p.sellerPaid then raise "Payout is already completed." 400
    else
      match requireSeller ctx.software ctx.profileComplete with
      | .error e => .error e
      | .ok _ => .ok { p with sellerPaid := true }

/-! ## State -/

/-- The purchases, Razorpay's records, the `SellerPayout` rows and the refunds issued. -/
structure Sales where
  purchases : List Purchase
  payments : PaymentId → Payment
  payouts : List PurchaseId
  refundsFor : List PurchaseId

/-- The purchases of an order, changed by `f`. -/
def Sales.onOrder (s : Sales) (order : OrderId) (f : Purchase → Purchase) : Sales :=
  { s with purchases := s.purchases.map fun p => if p.razorpayOrderId = order then f p else p }

def Sales.edit (s : Sales) (i : PurchaseId) (f : Purchase → Purchase) : Sales :=
  { s with purchases := s.purchases.modify i f }

inductive Call
  | verifyPayment (order : OrderId) (software : SoftwareId) (buyer : UserId) (payment : PaymentId)
    (signatureOk : Bool)
  | completeFromWebhook (order : OrderId) (payment : PaymentId)
  | markFailedFromWebhook (order : OrderId)
  | markRefundedFromWebhook (order : OrderId) (refund : Option RefundId)
  /-- `existing` is the refund that Razorpay names for a payment that is refunded already. -/
  | adminRefund (purchase : PurchaseId) (net : RefundNetwork) (existing : RefundId)
  /-- A refund that another service or Razorpay's dashboard issues. -/
  | otherRefund (payment : PaymentId) (amount : Paise) (covers : List PurchaseId)
  | approvePayout (purchase : PurchaseId) (ctx : PayoutContext)
  | releasePayout (purchase : PurchaseId) (ctx : PayoutContext)

/-- `refund_payment` in `admin_refund`: Razorpay's record, and the refund if it has issued one. -/
def Sales.callRazorpay (s : Sales) (i : PurchaseId) (payment : PaymentId) (amount : Paise)
    (net : RefundNetwork) : RefundReply × Sales :=
  let (reply, record, issued) := Razorpay.refundPayment (s.payments payment) amount net
  (reply, { s with
    payments := Function.update s.payments payment record
    refundsFor := if issued then i :: s.refundsFor else s.refundsFor })

/-- `admin_refund`. -/
def Sales.adminRefund (s : Sales) (i : PurchaseId) (p : Purchase) (net : RefundNetwork)
    (existing : RefundId) : Sales :=
  match p.paymentStatus, p.sellerPaid, p.razorpayPaymentId with
  | .completed, false, some payment =>
    let (reply, s) := s.callRazorpay i payment p.refundAmount net
    match Technology.adminRefund (some p.toSoftwarePurchase) reply existing with
    | .ok (some refund) => s.edit i (·.refunded refund)
    | _ => s
  | _, _, _ => s

/-- One call. -/
def step (s : Sales) : Call → Sales
  | .verifyPayment order software buyer payment signatureOk =>
    match s.purchases.findIdx? fun p => p.razorpayOrderId = order ∧ p.softwareId = software with
    | none => s
    | some i => s.edit i (·.verified buyer payment signatureOk)
  | .completeFromWebhook order payment => s.onOrder order (·.completed payment)
  | .markFailedFromWebhook order => s.onOrder order (·.markedFailed)
  | .markRefundedFromWebhook order refund => s.onOrder order (·.markedRefunded refund)
  | .adminRefund i net existing =>
    match s.purchases[i]? with
    | none => s
    | some p => s.adminRefund i p net existing
  | .otherRefund payment amount covers =>
    if amount = 0 ∨ (s.payments payment).amount - (s.payments payment).amountRefunded < amount
    then s
    else { s with
      payments := Function.update s.payments payment ((s.payments payment).payBack amount)
      refundsFor := covers ++ s.refundsFor }
  | .approvePayout i ctx =>
    match s.purchases[i]? with
    | none => s
    | some p =>
      match approvePayout p ctx with
      | .ok new => { s with purchases := s.purchases.set i new }
      | .error _ => s
  | .releasePayout i ctx =>
    match s.purchases[i]? with
    | none => s
    | some p =>
      match releasePayout p ctx with
      | .ok new => { s with purchases := s.purchases.set i new, payouts := i :: s.payouts }
      | .error _ => s

/-! ## The property -/

/-- What one call may make of a purchase: it is marked refunded only if it was completed and a
refund was issued for it, and a purchase that is refunded or paid out keeps its payment status. -/
structure Purchase.Goes (p : Purchase) (issued : Prop) (p' : Purchase) : Prop where
  refunded : p.paymentStatus ≠ .refunded → p'.paymentStatus = .refunded →
    p.paymentStatus = .completed ∧ issued
  final : p.paymentStatus = .refunded ∨ p.sellerPaid = true → p'.paymentStatus = p.paymentStatus

/-- **The property of a call**: every purchase goes so, none is both refunded and paid out, and each
has one payout at most. -/
structure Faithful (s s' : Sales) : Prop where
  goes : ∀ i (p p' : Purchase), s.purchases[i]? = some p → s'.purchases[i]? = some p' →
    p.Goes (i ∈ s'.refundsFor) p'
  apart : ∀ p ∈ s'.purchases, ¬ (p.paymentStatus = .refunded ∧ p.sellerPaid = true)
  once : s'.payouts.Nodup

/-- The condition: what a call is about to mark refunded is completed and has a refund. -/
def Sales.Covered (s : Sales) : Call → Prop
  | .markRefundedFromWebhook order _ =>
    ∀ i p, s.purchases[i]? = some p → p.razorpayOrderId = order → p.paymentStatus ≠ .refunded →
      p.sellerPaid = false → p.paymentStatus = .completed ∧ i ∈ s.refundsFor
  | .adminRefund i net _ =>
    ∀ p payment, s.purchases[i]? = some p → p.paymentStatus = .completed → p.sellerPaid = false →
      p.razorpayPaymentId = some payment → net ≠ .fetchFails →
        (s.payments payment).fullyRefunded = true → i ∈ s.refundsFor
  | _ => True

/-- Purchases without a refund or payout. -/
structure Sales.Fresh (s : Sales) : Prop where
  unrefunded : ∀ p ∈ s.purchases, p.paymentStatus ≠ .refunded
  unpaid : ∀ p ∈ s.purchases, p.sellerPaid = false
  payouts : s.payouts = []

/-! ## What holds in every state -/

/-- A purchase that is paid out is completed, and each has one payout. -/
structure Sales.Sound (s : Sales) : Prop where
  paid : ∀ p ∈ s.purchases, p.sellerPaid = true → p.paymentStatus = .completed
  once : s.payouts.Nodup
  released : ∀ i ∈ s.payouts, ∃ p, s.purchases[i]? = some p ∧ p.sellerPaid = true

variable {p} {s s' : Sales} {g : PurchaseId → Purchase → Purchase} {f : Purchase → Purchase}
  {p' : Purchase} {ctx : PayoutContext}

theorem Sales.Fresh.sound (h : s.Fresh) : s.Sound where
  paid := fun p hp hpaid => absurd hpaid (by simp [h.unpaid p hp])
  once := h.payouts ▸ List.nodup_nil
  released := by simp [h.payouts]

theorem Sales.Sound.apart (h : s.Sound) :
    ∀ p ∈ s.purchases, ¬ (p.paymentStatus = .refunded ∧ p.sellerPaid = true) := by
  rintro p hp ⟨hrefunded, hpaid⟩
  rw [h.paid p hp hpaid] at hrefunded
  cases hrefunded

/-- The purchases of `s'` are those of `s`, each changed by `g`. -/
def Sales.Moved (s : Sales) (g : PurchaseId → Purchase → Purchase) (s' : Sales) : Prop :=
  ∀ i, s'.purchases[i]? = (s.purchases[i]?).map (g i)

theorem moved_onOrder (s : Sales) (order : OrderId) (f : Purchase → Purchase) :
    s.Moved (fun _ p => if p.razorpayOrderId = order then f p else p) (s.onOrder order f) :=
  fun _ => List.getElem?_map

theorem moved_edit (s : Sales) (i : PurchaseId) (f : Purchase → Purchase) :
    s.Moved (fun j p => if i = j then f p else p) (s.edit i f) :=
  fun _ => List.getElem?_modify ..

theorem moved_set (hp : s.purchases[i]? = some p) (new : Purchase)
    (hset : s'.purchases = s.purchases.set i new) :
    s.Moved (fun j q => if i = j then new else q) s' := by
  intro j
  rw [hset]
  by_cases hij : i = j
  · subst hij
    simp [(List.getElem?_eq_some_iff.mp hp).1]
  · simp [hij]

/-- A change of a purchase that pays nobody and leaves a completed purchase one if it is paid
out. -/
structure Purchase.Unpaid (p p' : Purchase) : Prop where
  paid : p'.sellerPaid = p.sellerPaid
  completed : p.sellerPaid = true → p.paymentStatus = .completed → p'.paymentStatus = .completed

theorem Purchase.Unpaid.refl (p : Purchase) : p.Unpaid p := ⟨rfl, fun _ h => h⟩

theorem Sales.Sound.moved (h : s.Sound) (hmoved : s.Moved g s')
    (hg : ∀ i (p : Purchase), s.purchases[i]? = some p → p.Unpaid (g i p))
    (hpayouts : s'.payouts = s.payouts) : s'.Sound := by
  refine ⟨fun p' hp' hpaid => ?_, hpayouts ▸ h.once, fun i hi => ?_⟩
  · obtain ⟨i, hi⟩ := List.mem_iff_getElem?.mp hp'
    rw [hmoved i] at hi
    obtain ⟨p, hp, rfl⟩ := Option.map_eq_some_iff.mp hi
    have hgo := hg i p hp
    rw [hgo.paid] at hpaid
    exact hgo.completed hpaid (h.paid p (List.mem_of_getElem? hp) hpaid)
  · obtain ⟨p, hp, hpaid⟩ := h.released i (hpayouts ▸ hi)
    exact ⟨g i p, by rw [hmoved i, hp]; rfl, by rw [(hg i p hp).paid, hpaid]⟩

theorem Sales.Moved.faithful_goes (hmoved : s.Moved g s') (h : s'.Sound) :
    Faithful s s' ↔ ∀ i (p : Purchase), s.purchases[i]? = some p →
      p.Goes (i ∈ s'.refundsFor) (g i p) := by
  constructor
  · exact fun hfaithful i p hp => hfaithful.goes i p (g i p) hp (by rw [hmoved i, hp]; rfl)
  · refine fun hgoes => ⟨fun i p p' hp hp' => ?_, h.apart, h.once⟩
    rw [hmoved i, hp] at hp'
    cases hp'
    exact hgoes i p hp

/-! ## Changes that mark no refund -/

/-- A change that neither refunds nor pays out, nor undoes either. -/
structure Purchase.Quiet (p p' : Purchase) : Prop where
  paid : p'.sellerPaid = p.sellerPaid
  refunded : p'.paymentStatus = .refunded ↔ p.paymentStatus = .refunded
  completed : p.paymentStatus = .completed → p'.paymentStatus = .completed

theorem Purchase.Quiet.refl (p : Purchase) : p.Quiet p := ⟨rfl, Iff.rfl, id⟩

theorem Purchase.Quiet.unpaid (h : p.Quiet p') : p.Unpaid p' := ⟨h.paid, fun _ => h.completed⟩

theorem Purchase.Quiet.goes {issued : Prop} (h : p.Quiet p')
    (hpaid : p.sellerPaid = true → p.paymentStatus = .completed) : p.Goes issued p' := by
  refine ⟨fun hne heq => absurd (h.refunded.mp heq) hne, ?_⟩
  rintro (heq | hp)
  · rw [heq, h.refunded.mpr heq]
  · rw [hpaid hp, h.completed (hpaid hp)]

theorem quiet_finalized (payment : PaymentId) (h : p.paymentStatus ≠ .refunded) :
    p.Quiet (p.finalized payment) :=
  ⟨rfl, by simp [Purchase.finalized, SoftwarePurchase.finalize, h], fun _ => rfl⟩

theorem quiet_verified (buyer : UserId) (payment : PaymentId) (signatureOk : Bool) :
    p.Quiet (p.verified buyer payment signatureOk) := by
  unfold Purchase.verified
  split
  · next hok =>
    refine quiet_finalized payment fun hrefunded => ?_
    simp [Technology.verifyPayment, hrefunded, raise] at hok
    split_ifs at hok
  · exact .refl p

theorem quiet_completed (payment : PaymentId) : p.Quiet (p.completed payment) := by
  unfold Purchase.completed
  split
  · next hgo =>
    refine quiet_finalized payment fun hrefunded => ?_
    simp [Technology.completeFromWebhook, hrefunded] at hgo
  · split
    · exact ⟨rfl, Iff.rfl, id⟩
    · exact .refl p

theorem quiet_markedFailed : p.Quiet p.markedFailed := by
  unfold Purchase.markedFailed
  split
  · exact .refl p
  · next hcreated =>
    have hcreated : p.paymentStatus = .created := not_not.mp hcreated
    exact ⟨rfl, by simp [hcreated], by simp [hcreated]⟩

/-! ## Payouts -/

theorem assertPayoutEligible_ok {software : Option SoftwareListing} {requireVerification : Bool}
    (h : assertPayoutEligible p software requireVerification = .ok ()) :
    p.sellerPaid = false ∧ p.paymentStatus = .completed := by
  simp only [assertPayoutEligible, ite_raise_eq_ok, not_not, Bool.not_eq_true] at h
  exact ⟨h.1, h.2.2.2.2.1⟩

theorem approvePayout_ok (h : approvePayout p ctx = .ok p') :
    p' = { p with payoutApproved := true } := by
  unfold approvePayout at h
  split at h
  · cases h
  · split at h
    · cases h
    · exact (Except.ok.inj h).symm

theorem releasePayout_ok (h : releasePayout p ctx = .ok p') :
    (p.sellerPaid = false ∧ p.paymentStatus = .completed) ∧ p' = { p with sellerPaid := true } := by
  unfold releasePayout at h
  split at h
  · cases h
  · next heligible =>
    rw [ite_raise_eq_ok, ite_raise_eq_ok] at h
    obtain ⟨-, -, h⟩ := h
    split at h
    · cases h
    · exact ⟨assertPayoutEligible_ok heligible, (Except.ok.inj h).symm⟩

/-- Everything `release_payout` asks for. -/
theorem releasePayout_iff : (∃ p', releasePayout p ctx = .ok p') ↔
    assertPayoutEligible p ctx.software ctx.requireVerification = .ok () ∧
      p.payoutApproved = true ∧ (ctx.software.bind (·.listedByUserId)).isSome = true ∧
      ctx.profileComplete = true := by
  unfold releasePayout
  cases heligible : assertPayoutEligible p ctx.software ctx.requireVerification with
  | error e => simp
  | ok _ =>
    have hunpaid := (assertPayoutEligible_ok heligible).1
    cases happroved : p.payoutApproved with
    | false => simp
    | true =>
      cases hseller : ctx.software.bind (·.listedByUserId) with
      | none => simp [requireSeller, hseller, hunpaid, raise]
      | some seller =>
        cases hcomplete : ctx.profileComplete with
        | false => simp [requireSeller, hseller, hunpaid, raise]
        | true => simp [requireSeller, hseller, hunpaid]

/-! ## One call -/

theorem Sales.Sound.quiet (h : s.Sound) (hmoved : s.Moved g s')
    (hquiet : ∀ i (p : Purchase), s.purchases[i]? = some p → p.Quiet (g i p))
    (hpayouts : s'.payouts = s.payouts) : s'.Sound ∧ Faithful s s' := by
  have hsound := h.moved hmoved (fun i p hp => (hquiet i p hp).unpaid) hpayouts
  refine ⟨hsound, (hmoved.faithful_goes hsound).mpr fun i p hp => ?_⟩
  exact (hquiet i p hp).goes (h.paid p (List.mem_of_getElem? hp))

theorem moved_refl (h : s'.purchases = s.purchases) : s.Moved (fun _ p => p) s' :=
  fun i => by rw [h]; exact Option.map_id'.symm

theorem Sales.Sound.stays (h : s.Sound) (hpurchases : s'.purchases = s.purchases)
    (hpayouts : s'.payouts = s.payouts) : s'.Sound ∧ Faithful s s' :=
  h.quiet (moved_refl hpurchases) (fun _ p _ => .refl p) hpayouts

theorem Sales.Sound.onOrder (h : s.Sound) (order : OrderId) (hf : ∀ p, Purchase.Quiet p (f p)) :
    (s.onOrder order f).Sound ∧ Faithful s (s.onOrder order f) := by
  refine h.quiet (moved_onOrder s order f) (fun _ p _ => ?_) rfl
  split
  · exact hf p
  · exact .refl p

theorem Sales.Sound.edit (h : s.Sound) (i : PurchaseId) (hf : ∀ p, Purchase.Quiet p (f p)) :
    (s.edit i f).Sound ∧ Faithful s (s.edit i f) := by
  refine h.quiet (moved_edit s i f) (fun j p _ => ?_) rfl
  split
  · exact hf p
  · exact .refl p

/-- The payout of a purchase. -/
theorem Sales.Sound.release (h : s.Sound) (hp : s.purchases[i]? = some p)
    (hunpaid : p.sellerPaid = false) (hcompleted : p.paymentStatus = .completed) :
    Sales.Sound { s with
      purchases := s.purchases.set i { p with sellerPaid := true }, payouts := i :: s.payouts } := by
  have hlt := (List.getElem?_eq_some_iff.mp hp).1
  refine ⟨fun q hq hpaid => ?_, List.nodup_cons.mpr ⟨fun hmem => ?_, h.once⟩, fun j hj => ?_⟩
  · rcases List.mem_or_eq_of_mem_set hq with hq | rfl
    · exact h.paid q hq hpaid
    · exact hcompleted
  · obtain ⟨q, hq, hpaid⟩ := h.released i hmem
    cases hp.symm.trans hq
    exact absurd hpaid (by simp [hunpaid])
  · by_cases hij : i = j
    · subst hij
      exact ⟨_, List.getElem?_set_self hlt, rfl⟩
    · obtain ⟨q, hq, hpaid⟩ := h.released j ((List.mem_cons.mp hj).resolve_left (Ne.symm hij))
      exact ⟨q, by rw [List.getElem?_set_ne hij, hq], hpaid⟩

theorem goes_markedRefunded {issued : Prop} (refund : Option RefundId) :
    p.Goes issued (p.markedRefunded refund) ↔
      (p.paymentStatus ≠ .refunded → p.sellerPaid = false →
        p.paymentStatus = .completed ∧ issued) := by
  unfold Purchase.markedRefunded
  by_cases hrefunded : p.paymentStatus = .refunded
  · rw [if_pos hrefunded]
    exact iff_of_true ⟨fun hne => absurd hrefunded hne, fun _ => rfl⟩
      fun hne => absurd hrefunded hne
  · rw [if_neg hrefunded]
    cases hpaid : p.sellerPaid with
    | true =>
      exact iff_of_true ⟨fun hne heq => absurd heq hne, fun _ => rfl⟩ (by simp)
    | false =>
      refine ⟨fun hgoes _ _ => hgoes.refunded hrefunded rfl, fun hcover => ?_⟩
      refine ⟨fun hne _ => hcover hne rfl, ?_⟩
      rintro (heq | htrue)
      · exact absurd heq hrefunded
      · exact absurd htrue (by simp [hpaid])

theorem unpaid_markedRefunded (refund : Option RefundId) : p.Unpaid (p.markedRefunded refund) := by
  unfold Purchase.markedRefunded
  split
  · exact .refl p
  · split
    · exact .refl p
    · next hunpaid => exact ⟨rfl, fun hpaid => absurd hpaid hunpaid⟩

/-- **The refund webhook is faithful just where it is covered.** -/
theorem faithful_markRefunded (h : s.Sound) (order : OrderId) (refund : Option RefundId) :
    (s.onOrder order (·.markedRefunded refund)).Sound ∧
      (Faithful s (s.onOrder order (·.markedRefunded refund)) ↔
        s.Covered (.markRefundedFromWebhook order refund)) := by
  have hmoved := moved_onOrder s order (·.markedRefunded refund)
  have hsound : (s.onOrder order (·.markedRefunded refund)).Sound := by
    refine h.moved hmoved (fun _ p _ => ?_) rfl
    split
    · exact unpaid_markedRefunded refund
    · exact .refl p
  refine ⟨hsound, (hmoved.faithful_goes hsound).trans ?_⟩
  refine forall₂_congr fun i p => forall_congr' fun hp => ?_
  by_cases horder : p.razorpayOrderId = order
  · simp only [horder, if_true, true_imp_iff]
    exact goes_markedRefunded refund
  · simp only [horder, if_false, false_imp_iff, iff_true]
    exact (Purchase.Quiet.refl p).goes (h.paid p (List.mem_of_getElem? hp))

/-- What the refund leaves: no purchase is touched, or the purchase is marked refunded, which is
covered if Razorpay has just refunded and not if it was refunded before. -/
theorem adminRefund_cases (hp : s.purchases[i]? = some p) :
    ((s.adminRefund i p net existing).purchases = s.purchases ∧
        s.Covered (.adminRefund i net existing)) ∨
      p.paymentStatus = .completed ∧ p.sellerPaid = false ∧
        (∃ refund, (s.adminRefund i p net existing).purchases =
          s.purchases.modify i (·.refunded refund)) ∧
        (i ∈ (s.adminRefund i p net existing).refundsFor ↔
          s.Covered (.adminRefund i net existing)) := by
  -- the condition speaks of this purchase and its payment
  have hcovered : ∀ payment, p.razorpayPaymentId = some payment →
      p.paymentStatus = .completed → p.sellerPaid = false →
      (s.Covered (.adminRefund i net existing) ↔
        (net ≠ .fetchFails → (s.payments payment).fullyRefunded = true → i ∈ s.refundsFor)) := by
    intro payment hpayment hcompleted hunpaid
    constructor
    · exact fun h => h p payment hp hcompleted hunpaid hpayment
    · intro h q payment' hq _ _ hpayment'
      cases hp.symm.trans hq
      cases hpayment.symm.trans hpayment'
      exact h
  unfold Sales.adminRefund
  split
  · next payment hcompleted hunpaid hpayment =>
    have hiff := hcovered payment hpayment hcompleted hunpaid
    simp only [Sales.callRazorpay]
    have hcases := refundPayment_cases (s.payments payment) p.refundAmount net
    have halready := refundPayment_already_iff (s.payments payment) p.refundAmount net
    generalize Razorpay.refundPayment (s.payments payment) p.refundAmount net = answer
      at hcases halready ⊢
    obtain ⟨reply, record, issued⟩ := answer
    cases reply with
    | refund id amount =>
      have hcheck : Technology.adminRefund (some p.toSoftwarePurchase) (.refund id amount) existing =
          .ok (some id) := by simp [Technology.adminRefund, hcompleted, hunpaid, hpayment]
      rw [hcheck]
      rcases hcases with ⟨-, hnone⟩ | ⟨hopen, -, -, heq⟩
      · exact absurd rfl (hnone id amount)
      · obtain ⟨-, rfl⟩ := Prod.mk.inj heq
        refine .inr ⟨hcompleted, hunpaid, ⟨id, rfl⟩, iff_of_true List.mem_cons_self ?_⟩
        exact hiff.mpr fun _ hfull => absurd hfull (by simp [hopen])
    | alreadyFullyRefunded =>
      have hcheck : Technology.adminRefund (some p.toSoftwarePurchase) .alreadyFullyRefunded existing =
          .ok (some existing) := by simp [Technology.adminRefund, hcompleted, hunpaid, hpayment]
      rw [hcheck]
      obtain ⟨hne, hfull⟩ := halready.mp rfl
      rcases hcases with ⟨heq, -⟩ | ⟨hopen, -⟩
      · obtain ⟨-, rfl⟩ := Prod.mk.inj heq
        refine .inr ⟨hcompleted, hunpaid, ⟨existing, rfl⟩, ?_⟩
        rw [hiff]
        exact ⟨fun hmem _ _ => hmem, fun hmem => hmem hne hfull⟩
      · exact absurd hfull (by simp [hopen])
    | _ =>
      simp only [Technology.adminRefund, hcompleted, hunpaid, hpayment]
      refine .inl ⟨rfl, hiff.mpr fun hne hfull => ?_⟩
      cases halready.mpr ⟨hne, hfull⟩
  · next hno =>
    refine .inl ⟨rfl, ?_⟩
    intro q payment hq hcompleted hunpaid hpayment
    cases hp.symm.trans hq
    exact absurd hpayment (hno payment hcompleted hunpaid)

theorem payouts_adminRefund : (s.adminRefund i p net existing).payouts = s.payouts := by
  unfold Sales.adminRefund
  split
  · simp only [Sales.callRazorpay]
    split <;> rfl
  · rfl

theorem faithful_adminRefund (h : s.Sound) (hp : s.purchases[i]? = some p) (net : RefundNetwork)
    (existing : RefundId) :
    (s.adminRefund i p net existing).Sound ∧
      (Faithful s (s.adminRefund i p net existing) ↔ s.Covered (.adminRefund i net existing)) := by
  rcases adminRefund_cases hp with ⟨hsame, hcovered⟩ | ⟨hcompleted, hunpaid, ⟨refund, hmark⟩, hiff⟩
  · obtain ⟨hsound, hfaithful⟩ := h.stays hsame payouts_adminRefund
    exact ⟨hsound, iff_of_true hfaithful hcovered⟩
  · have hmoved : s.Moved (fun j q => if i = j then q.refunded refund else q)
        (s.adminRefund i p net existing) := by
      intro j
      rw [hmark]
      exact List.getElem?_modify ..
    have hown : ∀ j q, s.purchases[j]? = some q → i = j → q = p := by
      rintro j q hq rfl
      exact Option.some.inj (hq.symm.trans hp)
    have hsound : (s.adminRefund i p net existing).Sound := by
      refine h.moved hmoved (fun j q hq => ?_) payouts_adminRefund
      split
      · next hij =>
        rw [hown j q hq hij]
        exact ⟨rfl, fun hpaid => absurd hpaid (by simp [hunpaid])⟩
      · exact .refl q
    refine ⟨hsound, (hmoved.faithful_goes hsound).trans ?_⟩
    rw [← hiff]
    constructor
    · intro hgoes
      have hgo := hgoes i p hp
      rw [if_pos rfl] at hgo
      exact (hgo.refunded (by simp [hcompleted]) rfl).2
    · intro hissued j q hq
      split
      · next hij =>
        obtain rfl := hown j q hq hij
        obtain rfl := hij
        refine ⟨fun _ _ => ⟨hcompleted, hissued⟩, ?_⟩
        rintro (heq | hpaid)
        · exact absurd heq (by simp [hcompleted])
        · exact absurd hpaid (by simp [hunpaid])
      · exact (Purchase.Quiet.refl q).goes (h.paid q (List.mem_of_getElem? hq))

/-- **A call is faithful just where it is covered.** -/
theorem faithful_step (h : s.Sound) (c : Call) :
    (step s c).Sound ∧ (Faithful s (step s c) ↔ s.Covered c) := by
  -- a call that asks for nothing
  have hquiet : ∀ {s'}, s'.Sound ∧ Faithful s s' → s'.Sound ∧ (Faithful s s' ↔ True) :=
    fun hs => ⟨hs.1, iff_of_true hs.2 trivial⟩
  cases c with
  | verifyPayment order software buyer payment signatureOk =>
    simp only [step]
    split
    · exact hquiet (h.stays rfl rfl)
    · exact hquiet (h.edit _ fun _ => quiet_verified buyer payment signatureOk)
  | completeFromWebhook order payment =>
    exact hquiet (h.onOrder order fun _ => quiet_completed payment)
  | markFailedFromWebhook order => exact hquiet (h.onOrder order fun _ => quiet_markedFailed)
  | markRefundedFromWebhook order refund => exact faithful_markRefunded h order refund
  | adminRefund i net existing =>
    simp only [step]
    cases hp : s.purchases[i]? with
    | none =>
      obtain ⟨hsound, hfaithful⟩ := h.stays rfl rfl
      exact ⟨hsound, iff_of_true hfaithful fun p _ heq => absurd (hp.symm.trans heq) (by simp)⟩
    | some p => exact faithful_adminRefund h hp net existing
  | otherRefund payment amount covers =>
    simp only [step]
    split <;> exact hquiet (h.stays rfl rfl)
  | approvePayout i ctx =>
    simp only [step]
    split
    · exact hquiet (h.stays rfl rfl)
    · next hp =>
      split
      · next hok =>
        obtain rfl := approvePayout_ok hok
        refine hquiet (h.quiet (moved_set hp _ rfl) (fun j q hq => ?_) rfl)
        split
        · next hij =>
          subst hij
          cases hq.symm.trans hp
          exact ⟨rfl, Iff.rfl, id⟩
        · exact .refl q
      · exact hquiet (h.stays rfl rfl)
  | releasePayout i ctx =>
    simp only [step]
    split
    · exact hquiet (h.stays rfl rfl)
    · next hp =>
      split
      · next hok =>
        obtain ⟨⟨hunpaid, hcompleted⟩, rfl⟩ := releasePayout_ok hok
        have hsound := h.release hp hunpaid hcompleted
        refine ⟨hsound, iff_of_true ?_ trivial⟩
        refine ((moved_set hp _ rfl).faithful_goes hsound).mpr fun j q hq => ?_
        split
        · next hij =>
          subst hij
          cases hq.symm.trans hp
          exact ⟨fun hne heq => absurd heq hne, fun _ => rfl⟩
        · exact (Purchase.Quiet.refl q).goes (h.paid q (List.mem_of_getElem? hq))
      · exact hquiet (h.stays rfl rfl)

/-! ## Runs -/

/-- **Refunds and payouts are right in every call of just the runs in which every purchase that is
marked refunded is completed and has a refund of its own.** -/
theorem faithful_iff (s : Sales) (h : s.Fresh) (cs : List Call) :
    Run.AllSteps step (fun s _ s' => Faithful s s') s cs ↔ Run.Meets step Sales.Covered s cs :=
  Run.allSteps_iff_meets (fun _ c h => (faithful_step h c).1)
    (fun _ c h => (faithful_step h c).2) cs h.sound

/-- **Payouts are sound in every run**: whatever is refunded and marked, a purchase that is paid out
is completed and not refunded, and has one payout. -/
theorem payouts_sound (s : Sales) (h : s.Fresh) (cs : List Call) : (Run.exec step s cs).Sound :=
  Run.exec_preserves (P := Sales.Sound) (fun _ c h => (faithful_step h c).1) cs h.sound

/-! ## Siblings -/

/-- Two purchases of user 2 for 100 rupees each in one cart order. -/
def cart : Sales where
  purchases := [
    ⟨⟨7, 2, none, .created, none, none, false⟩, 0, 100, false, false⟩,
    ⟨⟨7, 2, none, .created, none, none, false⟩, 1, 100, false, false⟩]
  payments := fun _ => .fresh 23600
  payouts := []
  refundsFor := []

/-- The order is paid, and the first purchase refunded. -/
def oneRefund : List Call := [.completeFromWebhook 7 8, .adminRefund 0 (.accepted 9) 0]

/-- **The webhook of that refund marks the other purchase**, for which none was issued. -/
theorem unrefunded_purchase_marked :
    ¬ Run.AllSteps step (fun s _ s' => Faithful s s') cart
      (oneRefund ++ [.markRefundedFromWebhook 7 (some 9)]) := by
  intro h
  have hmark := (Run.allSteps_iff _ _).mp h oneRefund _ [] rfl
  have hgoes := hmark.goes 1 ⟨⟨7, 2, none, .completed, some 8, none, false⟩, 1, 100, false, false⟩
    ⟨⟨7, 2, none, .refunded, some 8, some 9, false⟩, 1, 100, true, false⟩
    (by decide +kernel) (by decide +kernel)
  exact absurd (hgoes.refunded (by decide) rfl).2 (by decide +kernel)

theorem faithful_oneRefund :
    Run.AllSteps step (fun s _ s' => Faithful s s') cart oneRefund ↔
      Run.Meets step Sales.Covered cart oneRefund :=
  faithful_iff cart ⟨by simp [cart], by simp [cart], rfl⟩ oneRefund

/-- A verified listing of user 1, with a complete payout profile. -/
def sellerReady : PayoutContext := ⟨some ⟨some 1, false, true, .subscription, .available⟩, true, true⟩

/-- The payout of the second purchase is approved, released twice, and a refund of it tried. -/
def onePayout : List Call :=
  oneRefund ++ [.approvePayout 1 sellerReady, .releasePayout 1 sellerReady,
    .releasePayout 1 sellerReady, .adminRefund 1 (.accepted 10) 0]

theorem payouts_sound_cart :
    (Run.exec step cart onePayout).payouts = [1] ∧ (Run.exec step cart onePayout).Sound :=
  ⟨by decide +kernel, payouts_sound cart ⟨by simp [cart], by simp [cart], rfl⟩ onePayout⟩

end Deltapreneur.SoftwareRefunds
