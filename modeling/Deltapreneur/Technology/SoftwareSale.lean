import Deltapreneur.Cart.Tables

/-!
# Buying one software listing

Model of the purchase flow of `CocreationPaymentService`
(`app/service/cocreation/cocreation_payment_service.py`) on one listing, for any number of buyers
and calls at once.

* `createPurchaseOrder` (`:88-267`) reads the listing and the buyer's purchases, gets an order
  from Razorpay (a new id), and inserts the purchase.
* `verifyPayment` (`:321-375`) and `completeFromWebhook` (`:377-419`) lock the purchases of the
  order and load the listing with them; `_finalize_paid_purchase` then writes both.
* `adminRefund` (`:650-720`) locks the purchase, loads the listing with it, and calls Razorpay;
  `_restore_listing_if_exclusive` (`:546-555`) counts the completed purchases of the listing
  before it commits.
* An order has one purchase of the listing (`uq_software_purchases_rzp_order_software`), so the
  order names the purchase. Nobody locks the listing: a call writes its status from the object it
  loaded, if it changes it at all.
* Amounts, the delivery snapshot, add-on requests and mails are left out.

Results:

* `WellFormed`, `wellFormed_step`, `row_in_one_call`: a call in flight holds its row, unchanged
  since it was read.
* `Watched`: the run with a note of what was completed when an order was asked for, and of the
  completions that left the listing on sale. No step reads the notes.
* `exclusive_sale`: in every run at most one purchase is completed, and a refund puts the listing
  back only when none is, if and only if whatever is completed when a purchase is paid was so when
  its order was asked for, and had marked the listing as sold.
* `two_open_orders_sell_twice`: otherwise two buyers own it.
-/

namespace Deltapreneur.Technology

open Razorpay UnitOfWork
open Cart (Duration)

/-! ## Rows -/

/-- `SoftwareStatus`. -/
inductive SoftwareStatus
  | available | sold | pending
  deriving Repr, DecidableEq

/-- `SoftwarePurchaseType`. -/
inductive SoftwarePurchaseType
  | oneTime | subscription | auction
  deriving Repr, DecidableEq

/-- `SoftwarePaymentStatus`. -/
inductive SoftwarePaymentStatus
  | created | completed | failed | cancelled | refunded
  deriving Repr, DecidableEq

/-- The columns of a software listing that the flow reads. -/
structure SoftwareListing where
  listedByUserId : Option UserId
  rejected : Bool
  verified : Bool
  purchaseType : SoftwarePurchaseType
  softwareStatus : SoftwareStatus
  deriving Repr, DecidableEq

/-- The columns of `SoftwarePurchase` that the flow reads. -/
structure SoftwarePurchase where
  razorpayOrderId : OrderId
  buyerId : UserId
  selectedPlan : Option Duration
  paymentStatus : SoftwarePaymentStatus
  razorpayPaymentId : Option PaymentId
  razorpayRefundId : Option RefundId
  sellerPaid : Bool
  deriving Repr, DecidableEq

/-- `REQUIRE_TECHNOLOGY_VERIFICATION_BEFORE_PURCHASE`, and whether Razorpay is configured. -/
structure Settings where
  requireVerification : Bool
  gatewayConfigured : Bool
  deriving Repr, DecidableEq

/-! ## The service -/

/-- `assert_technology_purchasable`. -/
def assertTechnologyPurchasable (cfg : Settings) (software : SoftwareListing) :
    Except AppException Unit :=
  if software.rejected then
    raise "This technology listing was rejected and cannot be purchased." 400
  else if cfg.requireVerification ∧ ¬ software.verified then
    raise ("This technology listing is not verified yet. " ++
      "Purchases and bids are blocked until an admin approves it.") 400
  else .ok ()

/-- The checks of `create_purchase_order`. -/
def createPurchaseOrder (cfg : Settings) (software : SoftwareListing) (buyer : UserId)
    (hasCompletedPurchase : Bool) : Except AppException Unit :=
  if software.listedByUserId = some buyer then raise "You cannot buy your own listing." 400
  else match assertTechnologyPurchasable cfg software with
    | .error e => .error e
    | .ok () =>
      if software.softwareStatus ≠ .available then raise "Software is not available." 400
      else if software.purchaseType = .auction then
        raise "This listing is on auction. Use the auction page to place a bid." 400
      else if hasCompletedPurchase then raise "You have already purchased this software." 409
      else if ¬ cfg.gatewayConfigured then raise "Payment gateway is not configured." 503
      else .ok ()

/-- The purchase it inserts for the order. -/
def SoftwarePurchase.new (order : OrderId) (buyer : UserId) (plan : Option Duration) :
    SoftwarePurchase where
  razorpayOrderId := order
  buyerId := buyer
  selectedPlan := plan
  paymentStatus := .created
  razorpayPaymentId := none
  razorpayRefundId := none
  sellerPaid := false

/-- `should_mark_listing_sold`. -/
def shouldMarkListingSold (type : SoftwarePurchaseType) (purchase : SoftwarePurchase) : Bool :=
  if type = .subscription then false
  else match purchase.selectedPlan with
    | none | some .oneTime => true
    | some _ => false

/-- What a verified payment asks for: nothing for a completed purchase, else
`_finalize_paid_purchase`. -/
inductive Verdict
  | already | finalize
  deriving Repr, DecidableEq

/-- The checks of `verify_payment`. -/
def verifyPayment (purchase : Option SoftwarePurchase) (buyer : UserId) (signatureOk : Bool) :
    Except AppException Verdict :=
  match purchase with
  | none => raise "Purchase not found." 404
  | some purchase =>
    if purchase.buyerId ≠ buyer then raise "This purchase order belongs to another user." 403
    else if purchase.paymentStatus = .refunded then raise "This purchase has been refunded." 400
    else if ¬ signatureOk then raise "Verification failed." 400
    else .ok (if purchase.paymentStatus = .completed then .already else .finalize)

/-- `complete_from_webhook` on one purchase of the order. -/
def completeFromWebhook (purchase : SoftwarePurchase) : Verdict :=
  if purchase.paymentStatus = .refunded ∨ purchase.paymentStatus = .completed then .already
  else .finalize

/-- `_finalize_paid_purchase` on the purchase. -/
def SoftwarePurchase.finalize (payment : PaymentId) (p : SoftwarePurchase) : SoftwarePurchase :=
  { p with paymentStatus := .completed, razorpayPaymentId := some payment }

/-- `_finalize_paid_purchase` on the listing's status. -/
def finalizeStatus (type : SoftwarePurchaseType) (purchase : SoftwarePurchase)
    (status : SoftwareStatus) : SoftwareStatus :=
  if shouldMarkListingSold type purchase then .sold else status

/-- `admin_refund` up to the answer of Razorpay: `none` for a purchase that is refunded already,
else the id of the refund. -/
def adminRefund (purchase : Option SoftwarePurchase) (reply : RefundReply) (existing : RefundId) :
    Except AppException (Option RefundId) :=
  match purchase with
  | none => raise "Software purchase transaction not found." 404
  | some purchase =>
    if purchase.paymentStatus = .refunded then .ok none
    else if purchase.sellerPaid then raise "Escrow already released (seller paid). Cannot refund." 400
    else if purchase.paymentStatus ≠ .completed then
      raise "Only completed payments can be refunded." 400
    else if purchase.razorpayPaymentId = none then raise "No payment to refund." 400
    else match reply with
      | .refund id _ => .ok (some id)
      | .alreadyFullyRefunded => .ok (some existing)
      | _ => raise "Razorpay refund failed" 502

def SoftwarePurchase.refund (id : RefundId) (p : SoftwarePurchase) : SoftwarePurchase :=
  { p with paymentStatus := .refunded, razorpayRefundId := some id }

/-! ## State -/

/-- Where a call stands, with the objects it has loaded. -/
inductive Call
  | idle
  /-- `create_purchase_order` waits for Razorpay. -/
  | ordering (buyer : UserId) (plan : Option Duration)
  /-- A payment is about to be recorded. -/
  | completing (purchase : SoftwarePurchase) (software : SoftwareStatus) (payment : PaymentId)
  /-- Razorpay has refunded. -/
  | refunding (purchase : SoftwarePurchase) (software : SoftwareStatus) (refund : RefundId)
  /-- The completed purchases are counted too. -/
  | restoring (purchase : SoftwarePurchase) (software : SoftwareStatus) (refund : RefundId)
      (restore : Bool)
  deriving Repr

/-- The order whose row the call has locked. -/
def Call.row : Call → Option OrderId
  | .idle | .ordering _ _ => none
  | .completing p _ _ | .refunding p _ _ | .restoring p _ _ _ => some p.razorpayOrderId

/-- The listing, its purchases, the row locks and the calls in flight. -/
structure World where
  software : SoftwareListing
  purchases : List SoftwarePurchase
  lockOf : OrderId → Option Nat
  calls : Nat → Call

/-- A listing nobody has bought. -/
def World.init (software : SoftwareListing) : World := ⟨software, [], fun _ => none, fun _ => .idle⟩

/-- The number of completed purchases, as `count_completed_for_software` counts them. -/
def completed (purchases : List SoftwarePurchase) : Nat :=
  purchases.countP fun p => p.paymentStatus == .completed

def findPurchase (purchases : List SoftwarePurchase) (order : OrderId) : Option SoftwarePurchase :=
  Table.lookup SoftwarePurchase.razorpayOrderId order purchases

def editPurchase (purchases : List SoftwarePurchase) (order : OrderId)
    (f : SoftwarePurchase → SoftwarePurchase) : List SoftwarePurchase :=
  Table.update SoftwarePurchase.razorpayOrderId order f purchases

def World.setCall (w : World) (k : Nat) (c : Call) : World :=
  { w with calls := Function.update w.calls k c }

/-- Call `k` locks the row of the order and goes on as `c`. -/
def World.lock (w : World) (k : Nat) (order : OrderId) (c : Call) : World :=
  { w with lockOf := Function.update w.lockOf order (some k) }.setCall k c

/-- Call `k` commits: the row of its purchase, the status of the listing if it changed it, and
the lock is free. -/
def World.commit (w : World) (k : Nat) (order : OrderId) (f : SoftwarePurchase → SoftwarePurchase)
    (loaded new : SoftwareStatus) : World :=
  { w with
    purchases := editPurchase w.purchases order f
    software := { w.software with
      softwareStatus := flushColumn loaded new w.software.softwareStatus }
    lockOf := Function.update w.lockOf order none }.setCall k .idle

/-! ## Steps -/

inductive Label
  | orderRead (call : Nat) (buyer : UserId) (plan : Option Duration)
  | orderCommit (call : Nat) (order : OrderId)
  | verifyRead (call : Nat) (order : OrderId) (buyer : UserId) (signatureOk : Bool)
      (payment : PaymentId)
  | webhookRead (call : Nat) (order : OrderId) (payment : PaymentId)
  | completeCommit (call : Nat)
  | refundRead (call : Nat) (order : OrderId) (reply : RefundReply) (existing : RefundId)
  | refundCount (call : Nat)
  | refundCommit (call : Nat)
  /-- The payout service pays the seller. -/
  | paySeller (order : OrderId)
  deriving Repr, DecidableEq

/-- A free call locks the purchase of the order, if nobody else has. -/
def World.read (w : World) (k : Nat) (order : OrderId) : Option SoftwarePurchase :=
  match w.calls k, w.lockOf order with
  | .idle, none => findPurchase w.purchases order
  | _, _ => none

def World.hasCompletedPurchase (w : World) (buyer : UserId) : Bool :=
  w.purchases.any fun p => p.buyerId == buyer && p.paymentStatus == .completed

/-- One atomic step. A label that is not enabled, or whose call raises, leaves the state as it
is. -/
def step (cfg : Settings) (w : World) : Label → World
  | .orderRead k buyer plan =>
    match w.calls k, createPurchaseOrder cfg w.software buyer (w.hasCompletedPurchase buyer) with
    | .idle, .ok () => w.setCall k (.ordering buyer plan)
    | _, _ => w
  | .orderCommit k order =>
    match w.calls k, findPurchase w.purchases order with
    | .ordering buyer plan, none =>
      { w with purchases := w.purchases ++ [SoftwarePurchase.new order buyer plan] }.setCall k .idle
    | _, _ => w
  | .verifyRead k order buyer signatureOk payment =>
    match w.read k order with
    | some purchase =>
      match verifyPayment (some purchase) buyer signatureOk with
      | .ok .finalize =>
        w.lock k order (.completing purchase w.software.softwareStatus payment)
      | _ => w
    | none => w
  | .webhookRead k order payment =>
    match w.read k order with
    | some purchase =>
      match completeFromWebhook purchase with
      | .finalize => w.lock k order (.completing purchase w.software.softwareStatus payment)
      | .already => w
    | none => w
  | .completeCommit k =>
    match w.calls k with
    | .completing purchase software payment =>
      w.commit k purchase.razorpayOrderId (.finalize payment) software
        (finalizeStatus w.software.purchaseType purchase software)
    | _ => w
  | .refundRead k order reply existing =>
    match w.read k order with
    | some purchase =>
      match adminRefund (some purchase) reply existing with
      | .ok (some refund) =>
        w.lock k order (.refunding purchase w.software.softwareStatus refund)
      | _ => w
    | none => w
  | .refundCount k =>
    match w.calls k with
    | .refunding purchase software refund =>
      -- the count sees the call's own flushed refund
      let remaining :=
        completed (editPurchase w.purchases purchase.razorpayOrderId (.refund refund))
      w.setCall k (.restoring purchase software refund
        (shouldMarkListingSold w.software.purchaseType purchase && remaining == 0))
    | _ => w
  | .refundCommit k =>
    match w.calls k with
    | .restoring purchase software refund restore =>
      w.commit k purchase.razorpayOrderId (.refund refund) software
        (if restore then .available else software)
    | _ => w
  | .paySeller order =>
    if w.lockOf order = none then
      { w with purchases := editPurchase w.purchases order fun p => { p with sellerPaid := true } }
    else w

/-! ## Purchases under an update -/

variable {cfg : Settings} {w w' : World} {k : Nat} {order : OrderId} {c : Call}
  {p : SoftwarePurchase} {purchases : List SoftwarePurchase}
  {f : SoftwarePurchase → SoftwarePurchase}

def orders (purchases : List SoftwarePurchase) : List OrderId :=
  purchases.map SoftwarePurchase.razorpayOrderId

theorem findPurchase_eq_some (h : findPurchase purchases order = some p) :
    p ∈ purchases ∧ p.razorpayOrderId = order :=
  Table.lookup_eq_some h

theorem orders_editPurchase (hf : ∀ p, (f p).razorpayOrderId = p.razorpayOrderId) :
    orders (editPurchase purchases order f) = orders purchases :=
  Table.map_key_update hf purchases

theorem mem_editPurchase_ne (h : p ∈ purchases) (hne : p.razorpayOrderId ≠ order) :
    p ∈ editPurchase purchases order f :=
  List.mem_map.mpr ⟨p, h, if_neg hne⟩

theorem completed_finalize (hnd : (orders purchases).Nodup) (hp : p ∈ purchases)
    (hopen : p.paymentStatus ≠ .completed) (payment : PaymentId) :
    completed (editPurchase purchases p.razorpayOrderId (.finalize payment)) =
      completed purchases + 1 := by
  have hcount := Table.countP_update (f := .finalize payment)
    (fun p : SoftwarePurchase => p.paymentStatus == .completed) hnd hp rfl
  rw [beq_false_of_ne hopen] at hcount
  exact hcount

theorem completed_refund (hnd : (orders purchases).Nodup) (hp : p ∈ purchases)
    (hdone : p.paymentStatus = .completed) (refund : RefundId) :
    completed (editPurchase purchases p.razorpayOrderId (.refund refund)) + 1 =
      completed purchases := by
  have hcount := Table.countP_update (f := .refund refund)
    (fun p : SoftwarePurchase => p.paymentStatus == .completed) hnd hp rfl
  rw [hdone] at hcount
  exact hcount

def completedOrders (purchases : List SoftwarePurchase) : List OrderId :=
  orders (purchases.filter fun p => p.paymentStatus == .completed)

theorem mem_completedOrders : order ∈ completedOrders purchases ↔
    ∃ p ∈ purchases, p.paymentStatus = .completed ∧ p.razorpayOrderId = order := by
  simp [completedOrders, orders, and_assoc]

theorem length_completedOrders : (completedOrders purchases).length = completed purchases := by
  rw [completedOrders, orders, List.length_map, completed, List.countP_eq_length_filter]

theorem completedOrders_editPurchase (hf : ∀ p, (f p).paymentStatus = p.paymentStatus)
    (horder : ∀ p, (f p).razorpayOrderId = p.razorpayOrderId) :
    completedOrders (editPurchase purchases order f) = completedOrders purchases := by
  have hg : ∀ p : SoftwarePurchase,
      (if p.razorpayOrderId = order then f p else p).paymentStatus = p.paymentStatus ∧
      (if p.razorpayOrderId = order then f p else p).razorpayOrderId = p.razorpayOrderId := by
    intro p
    split_ifs
    · exact ⟨hf p, horder p⟩
    · exact ⟨rfl, rfl⟩
  simp only [completedOrders, orders, editPurchase, Table.update, List.filter_map, List.map_map]
  simp only [Function.comp_def, (hg _).1, (hg _).2]

/-! ## Calls hold their rows -/

/-- The row a call has locked is as it was read. -/
def Call.Holds (purchases : List SoftwarePurchase) : Call → Prop
  | .idle | .ordering _ _ => True
  | .completing p _ _ => p ∈ purchases ∧ p.paymentStatus ≠ .completed
  | .refunding p _ _ | .restoring p _ _ _ => p ∈ purchases ∧ p.paymentStatus = .completed

/-- An order has one purchase, and every call in flight holds the row it works on. -/
structure World.WellFormed (w : World) : Prop where
  nodup : (orders w.purchases).Nodup
  locked : ∀ k order, (w.calls k).row = some order → w.lockOf order = some k
  holds : ∀ k, (w.calls k).Holds w.purchases

theorem Call.Holds.mono {purchases' : List SoftwarePurchase} (h : c.Holds purchases)
    (hkept : ∀ p ∈ purchases, c.row = some p.razorpayOrderId → p ∈ purchases') :
    c.Holds purchases' := by
  cases c with
  | idle => trivial
  | ordering buyer plan => trivial
  | completing p software payment => exact ⟨hkept p h.1 rfl, h.2⟩
  | refunding p software refund => exact ⟨hkept p h.1 rfl, h.2⟩
  | restoring p software refund restore => exact ⟨hkept p h.1 rfl, h.2⟩

theorem wellFormed_init (software : SoftwareListing) : (World.init software).WellFormed where
  nodup := List.nodup_nil
  locked := by simp [World.init, Call.row]
  holds := fun _ => trivial

theorem World.WellFormed.setCall (h : w.WellFormed)
    (hrow : ∀ order, c.row = some order → (w.calls k).row = some order)
    (hholds : c.Holds w.purchases) : (w.setCall k c).WellFormed := by
  refine ⟨h.nodup, fun j order hj => ?_, fun j => ?_⟩
  · by_cases hjk : j = k
    · subst hjk
      simp only [World.setCall, Function.update_self] at hj
      exact h.locked j order (hrow order hj)
    · simp only [World.setCall, Function.update_of_ne hjk] at hj
      exact h.locked j order hj
  · by_cases hjk : j = k
    · subst hjk
      simpa [World.setCall] using hholds
    · simpa [World.setCall, Function.update_of_ne hjk] using h.holds j

/-- A free call locks a free row. -/
theorem World.WellFormed.lock (h : w.WellFormed) (hfree : w.lockOf order = none)
    (hrow : c.row = some order) (hholds : c.Holds w.purchases) : (w.lock k order c).WellFormed := by
  refine ⟨h.nodup, fun j o hj => ?_, fun j => ?_⟩
  · by_cases hjk : j = k
    · subst hjk
      simp only [World.lock, World.setCall, Function.update_self, hrow, Option.some.injEq] at hj
      subst hj
      exact Function.update_self ..
    · simp only [World.lock, World.setCall, Function.update_of_ne hjk] at hj ⊢
      have hlocked := h.locked j o hj
      have hne : o ≠ order := by
        rintro rfl
        rw [hfree] at hlocked
        cases hlocked
      rw [Function.update_of_ne hne, hlocked]
  · by_cases hjk : j = k
    · subst hjk
      simpa [World.lock, World.setCall] using hholds
    · simpa [World.lock, World.setCall, Function.update_of_ne hjk] using h.holds j

/-- A call commits its row. -/
theorem World.WellFormed.commit (h : w.WellFormed) (hrow : (w.calls k).row = some order)
    (hf : ∀ p, (f p).razorpayOrderId = p.razorpayOrderId) (loaded new : SoftwareStatus) :
    (w.commit k order f loaded new).WellFormed := by
  have hlocked := h.locked k order hrow
  have hother : ∀ j, j ≠ k → ∀ o, (w.calls j).row = some o → o ≠ order := by
    rintro j hjk o hj rfl
    exact hjk (Option.some.inj ((h.locked j o hj).symm.trans hlocked))
  refine ⟨?_, fun j o hj => ?_, fun j => ?_⟩
  · simpa only [World.commit, World.setCall, orders_editPurchase hf] using h.nodup
  · by_cases hjk : j = k
    · subst hjk
      simp [World.commit, World.setCall, Call.row] at hj
    · simp only [World.commit, World.setCall, Function.update_of_ne hjk] at hj ⊢
      rw [Function.update_of_ne (hother j hjk o hj), h.locked j o hj]
  · by_cases hjk : j = k
    · subst hjk
      simp [World.commit, World.setCall, Call.Holds]
    · simp only [World.commit, World.setCall, Function.update_of_ne hjk]
      exact (h.holds j).mono fun p hp hpr => mem_editPurchase_ne hp (hother j hjk _ hpr)

theorem read_eq_some (h : w.read k order = some p) :
    w.lockOf order = none ∧ p ∈ w.purchases ∧ p.razorpayOrderId = order := by
  unfold World.read at h
  split at h
  · next hfree => exact ⟨hfree, findPurchase_eq_some h⟩
  · cases h

theorem verifyPayment_finalize {buyer : UserId} {signatureOk : Bool}
    (h : verifyPayment (some p) buyer signatureOk = .ok .finalize) :
    p.paymentStatus ≠ .completed := by
  simp only [verifyPayment, ite_raise_eq_ok, Except.ok.injEq] at h
  obtain ⟨-, -, -, h⟩ := h
  split_ifs at h with hdone
  exact hdone

theorem completeFromWebhook_finalize (h : completeFromWebhook p = .finalize) :
    p.paymentStatus ≠ .completed := by
  unfold completeFromWebhook at h
  split_ifs at h with hdone
  exact fun hc => hdone (.inr hc)

theorem adminRefund_ok {reply : RefundReply} {existing refund : RefundId}
    (h : adminRefund (some p) reply existing = .ok (some refund)) : p.paymentStatus = .completed := by
  by_contra hopen
  simp only [adminRefund] at h
  by_cases hrefunded : p.paymentStatus = .refunded
  · rw [if_pos hrefunded] at h
    cases h
  · rw [if_neg hrefunded, if_pos hopen, ite_raise_eq_ok] at h
    exact raise_ne_ok h.2

/-! ## Every step -/

/-- What a step does to the purchases and to the status of the listing. -/
inductive Does (w : World) : Label → List SoftwarePurchase → SoftwareStatus → Prop
  /-- The completed purchases stay, and so does the listing. -/
  | keeps (l : Label) (purchases : List SoftwarePurchase)
      (hsame : completedOrders purchases = completedOrders w.purchases) :
      Does w l purchases w.software.softwareStatus
  | completes (k : Nat) (p : SoftwarePurchase) (software : SoftwareStatus) (payment : PaymentId)
      (hcall : w.calls k = .completing p software payment) :
      Does w (.completeCommit k) (editPurchase w.purchases p.razorpayOrderId (.finalize payment))
        (flushColumn software (finalizeStatus w.software.purchaseType p software)
          w.software.softwareStatus)
  | refunds (k : Nat) (p : SoftwarePurchase) (software : SoftwareStatus) (refund : RefundId)
      (restore : Bool) (hcall : w.calls k = .restoring p software refund restore) :
      Does w (.refundCommit k) (editPurchase w.purchases p.razorpayOrderId (.refund refund))
        (flushColumn software (if restore then .available else software)
          w.software.softwareStatus)

theorem step_does (cfg : Settings) (w : World) (l : Label) :
    Does w l (step cfg w l).purchases (step cfg w l).software.softwareStatus := by
  cases l with
  | orderRead k buyer plan => simp only [step]; split <;> exact .keeps _ _ rfl
  | orderCommit k order =>
    simp only [step]
    split
    · refine .keeps _ _ ?_
      simp [completedOrders, SoftwarePurchase.new, World.setCall]
    · exact .keeps _ _ rfl
  | verifyRead k order buyer signatureOk payment =>
    simp only [step]
    split
    · split <;> exact .keeps _ _ rfl
    · exact .keeps _ _ rfl
  | webhookRead k order payment =>
    simp only [step]
    split
    · split <;> exact .keeps _ _ rfl
    · exact .keeps _ _ rfl
  | completeCommit k =>
    simp only [step]
    split
    · next p software payment hcall => exact .completes k p software payment hcall
    · exact .keeps _ _ rfl
  | refundRead k order reply existing =>
    simp only [step]
    split
    · split <;> exact .keeps _ _ rfl
    · exact .keeps _ _ rfl
  | refundCount k => simp only [step]; split <;> exact .keeps _ _ rfl
  | refundCommit k =>
    simp only [step]
    split
    · next p software refund restore hcall => exact .refunds k p software refund restore hcall
    · exact .keeps _ _ rfl
  | paySeller order =>
    simp only [step]
    split_ifs
    · exact .keeps _ _ (completedOrders_editPurchase (fun _ => rfl) fun _ => rfl)
    · exact .keeps _ _ rfl

/-- **Every step keeps the calls' hold on their rows.** -/
theorem wellFormed_step (w : World) (l : Label) (h : w.WellFormed) :
    (step cfg w l).WellFormed := by
  cases l with
  | orderRead k buyer plan =>
    simp only [step]
    split
    · exact h.setCall (by simp [Call.row]) trivial
    · exact h
  | orderCommit k order =>
    simp only [step]
    split
    · next buyer plan hcall hnone =>
      have hnew : ∀ p ∈ w.purchases, p.razorpayOrderId ≠ order := Table.lookup_eq_none.mp hnone
      have hinserted : World.WellFormed
          { w with purchases := w.purchases ++ [SoftwarePurchase.new order buyer plan] } := by
        refine ⟨?_, h.locked, fun j => (h.holds j).mono fun p hp _ => List.mem_append_left _ hp⟩
        unfold orders
        rw [List.map_append, List.nodup_append]
        refine ⟨h.nodup, by simp, ?_⟩
        rintro o ho _ hmem rfl
        obtain ⟨p, hp, rfl⟩ := List.mem_map.mp ho
        exact hnew p hp (by simpa [SoftwarePurchase.new] using hmem)
      exact hinserted.setCall (by simp [Call.row]) trivial
    · exact h
  | verifyRead k order buyer signatureOk payment =>
    simp only [step]
    split
    · next p hread =>
      obtain ⟨hfree, hp, horder⟩ := read_eq_some hread
      split
      · next hok => exact h.lock hfree (by rw [← horder]; rfl) ⟨hp, verifyPayment_finalize hok⟩
      · exact h
    · exact h
  | webhookRead k order payment =>
    simp only [step]
    split
    · next p hread =>
      obtain ⟨hfree, hp, horder⟩ := read_eq_some hread
      split
      · next hok =>
        exact h.lock hfree (by rw [← horder]; rfl) ⟨hp, completeFromWebhook_finalize hok⟩
      · exact h
    · exact h
  | completeCommit k =>
    simp only [step]
    split
    · next p software payment hcall =>
      have hf : ∀ q : SoftwarePurchase, (q.finalize payment).razorpayOrderId = q.razorpayOrderId :=
        fun _ => rfl
      exact h.commit (by rw [hcall]; rfl) hf _ _
    · exact h
  | refundRead k order reply existing =>
    simp only [step]
    split
    · next p hread =>
      obtain ⟨hfree, hp, horder⟩ := read_eq_some hread
      split
      · next hok => exact h.lock hfree (by rw [← horder]; rfl) ⟨hp, adminRefund_ok hok⟩
      · exact h
    · exact h
  | refundCount k =>
    simp only [step]
    split
    · next p software refund hcall =>
      have hholds := h.holds k
      rw [hcall] at hholds
      exact h.setCall (by simp [hcall, Call.row]) hholds
    · exact h
  | refundCommit k =>
    simp only [step]
    split
    · next p software refund restore hcall =>
      have hf : ∀ q : SoftwarePurchase, (q.refund refund).razorpayOrderId = q.razorpayOrderId :=
        fun _ => rfl
      exact h.commit (by rw [hcall]; rfl) hf _ _
    · exact h
  | paySeller order =>
    simp only [step]
    split_ifs with hfree
    · refine ⟨?_, h.locked, fun j => (h.holds j).mono fun p hp hrow => ?_⟩
      · have hf : ∀ q : SoftwarePurchase,
            { q with sellerPaid := true }.razorpayOrderId = q.razorpayOrderId := fun _ => rfl
        simpa only [orders_editPurchase hf] using h.nodup
      · refine mem_editPurchase_ne hp ?_
        rintro rfl
        have hlocked := h.locked j _ hrow
        rw [hfree] at hlocked
        cases hlocked
    · exact h

/-! ## The exclusive sale -/

/-- At most one purchase is completed, and a refund puts the listing back only when none is. -/
structure Exclusive (w : World) (l : Label) (w' : World) : Prop where
  one : completed w'.purchases ≤ 1
  restore : (∃ k, l = .refundCommit k) → w.software.softwareStatus ≠ .available →
    w'.software.softwareStatus = .available → completed w'.purchases = 0

/-- A completion that finds nothing completed keeps the sale exclusive, and so does every other
step. -/
theorem exclusive_of_does {l : Label} {status : SoftwareStatus} (h : w.WellFormed)
    (hone : completed w.purchases ≤ 1)
    (halone : ∀ k p software payment, l = .completeCommit k →
      w.calls k = .completing p software payment → completed w.purchases = 0)
    (hdoes : Does w l purchases status) :
    completed purchases ≤ 1 ∧
      ((∃ k, l = .refundCommit k) → w.software.softwareStatus ≠ .available → status = .available →
        completed purchases = 0) := by
  cases hdoes with
  | keeps _ _ hsame =>
    rw [← length_completedOrders, hsame, length_completedOrders]
    exact ⟨hone, fun _ hold hnew => absurd hnew hold⟩
  | completes k p software payment hcall =>
    have hholds := h.holds k
    rw [hcall] at hholds
    rw [completed_finalize h.nodup hholds.1 hholds.2, halone k p software payment rfl hcall]
    exact ⟨le_rfl, by simp⟩
  | refunds k p software refund restore hcall =>
    have hholds := h.holds k
    rw [hcall] at hholds
    -- the refunded purchase was the only completed one
    have hcount := completed_refund h.nodup hholds.1 hholds.2 refund
    exact ⟨by omega, fun _ _ _ => by omega⟩

/-! ## Orders over time -/

/-- The completion marks the listing as sold: the plan does, and the call's copy of the status is not
one that a refund has overtaken. -/
def marksSold (w : World) (p : SoftwarePurchase) (software : SoftwareStatus) : Bool :=
  shouldMarkListingSold w.software.purchaseType p &&
    (software ≠ .sold || w.software.softwareStatus = .sold)

/-- The system with its history. -/
structure Watched where
  world : World
  /-- What was completed when a call's order was checked. -/
  found : Nat → List OrderId
  /-- The same for the order that the call has stored. -/
  foundFor : OrderId → List OrderId
  /-- The purchases whose completion did not mark the listing as sold. -/
  unmarked : List OrderId

def Watched.init (software : SoftwareListing) : Watched :=
  ⟨.init software, fun _ => [], fun _ => [], []⟩

/-- A step, and what is noted of it. -/
def watch (cfg : Settings) (v : Watched) (l : Label) : Watched where
  world := step cfg v.world l
  found :=
    match l with
    | .orderRead k _ _ =>
      match v.world.calls k with
      | .idle => Function.update v.found k (completedOrders v.world.purchases)
      | _ => v.found
    | _ => v.found
  foundFor :=
    match l with
    | .orderCommit k order =>
      match v.world.calls k, findPurchase v.world.purchases order with
      | .ordering _ _, none => Function.update v.foundFor order (v.found k)
      | _, _ => v.foundFor
    | _ => v.foundFor
  unmarked :=
    match l with
    | .completeCommit k =>
      match v.world.calls k with
      | .completing p software _ =>
        if marksSold v.world p software then v.unmarked else p.razorpayOrderId :: v.unmarked
      | _ => v.unmarked
    | _ => v.unmarked

/-- The condition on a step: when a purchase is paid, every purchase that is completed was so when
the order was asked for, and had marked the listing as sold. -/
def Orderly (v : Watched) : Label → Prop
  | .completeCommit k => ∀ p software payment, v.world.calls k = .completing p software payment →
    ∀ o ∈ completedOrders v.world.purchases, o ∈ v.foundFor p.razorpayOrderId ∧ o ∉ v.unmarked
  | _ => True

variable {v : Watched} {l : Label} {buyer : UserId} {plan : Option Duration}

theorem exec_watch (ls : List Label) :
    (Run.exec (watch cfg) v ls).world = Run.exec (step cfg) v.world ls := by
  induction ls generalizing v with
  | nil => rfl
  | cons l ls ih => exact ih

theorem unmarked_watch (h : order ∈ v.unmarked) : order ∈ (watch cfg v l).unmarked := by
  unfold watch
  dsimp only
  split
  · split
    · split_ifs
      · exact h
      · exact List.mem_cons_of_mem _ h
    · exact h
  · exact h

/-- **The check of an order**: it is taken while the listing is available only. -/
theorem createPurchaseOrder_ok {software : SoftwareListing} {hasCompleted : Bool}
    (h : createPurchaseOrder cfg software buyer hasCompleted = .ok ()) :
    software.softwareStatus = .available := by
  unfold createPurchaseOrder at h
  rw [ite_raise_eq_ok] at h
  obtain ⟨-, h⟩ := h
  split at h
  · cases h
  · rw [ite_raise_eq_ok] at h
    simpa using h.1

theorem setCall_calls {j : Nat} : (w.setCall j c).calls k = if k = j then c else w.calls k :=
  Function.update_apply ..

theorem ordering_of_setCall {j : Nat} (h : (w.setCall j c).calls k = .ordering buyer plan)
    (hc : c ≠ .ordering buyer plan) : w.calls k = .ordering buyer plan := by
  rw [setCall_calls] at h
  split_ifs at h
  · exact absurd h hc
  · exact h

/-- Where a call that creates an order comes from. -/
theorem ordering_of_step (h : (step cfg w l).calls k = .ordering buyer plan) :
    w.calls k = .ordering buyer plan ∨
      l = .orderRead k buyer plan ∧ w.calls k = .idle ∧ w.software.softwareStatus = .available := by
  cases l with
  | orderRead j b q =>
    simp only [step] at h
    split at h
    · next hidle hok =>
      rw [setCall_calls] at h
      split_ifs at h with hkj
      · subst hkj
        cases h
        exact .inr ⟨rfl, hidle, createPurchaseOrder_ok hok⟩
      · exact .inl h
    · exact .inl h
  | orderCommit j o =>
    simp only [step] at h
    split at h
    · exact .inl (ordering_of_setCall h (by simp))
    · exact .inl h
  | verifyRead j o b ok payment =>
    simp only [step] at h
    split at h
    · split at h
      · exact .inl (ordering_of_setCall h (by simp))
      · exact .inl h
    · exact .inl h
  | webhookRead j o payment =>
    simp only [step] at h
    split at h
    · split at h
      · exact .inl (ordering_of_setCall h (by simp))
      · exact .inl h
    · exact .inl h
  | completeCommit j =>
    simp only [step] at h
    split at h
    · exact .inl (ordering_of_setCall h (by simp))
    · exact .inl h
  | refundRead j o reply existing =>
    simp only [step] at h
    split at h
    · split at h
      · exact .inl (ordering_of_setCall h (by simp))
      · exact .inl h
    · exact .inl h
  | refundCount j =>
    simp only [step] at h
    split at h
    · exact .inl (ordering_of_setCall h (by simp))
    · exact .inl h
  | refundCommit j =>
    simp only [step] at h
    split at h
    · exact .inl (ordering_of_setCall h (by simp))
    · exact .inl h
  | paySeller o =>
    simp only [step] at h
    split_ifs at h
    · exact .inl h
    · exact .inl h

/-- Where an order comes from. -/
theorem orders_of_step (h : order ∈ orders (step cfg w l).purchases) :
    order ∈ orders w.purchases ∨ ∃ k buyer plan, l = .orderCommit k order ∧
      w.calls k = .ordering buyer plan ∧ findPurchase w.purchases order = none := by
  have hedit {o : OrderId} {f : SoftwarePurchase → SoftwarePurchase}
      (hf : ∀ p, (f p).razorpayOrderId = p.razorpayOrderId)
      (h : order ∈ orders (editPurchase w.purchases o f)) : order ∈ orders w.purchases :=
    orders_editPurchase hf ▸ h
  cases l with
  | orderCommit j o =>
    simp only [step] at h
    split at h
    · next buyer plan hcall hnone =>
      simp only [World.setCall, orders, List.map_append, List.map_singleton, List.mem_append,
        List.mem_singleton] at h
      rcases h with h | rfl
      · exact .inl h
      · exact .inr ⟨j, buyer, plan, rfl, hcall, hnone⟩
    · exact .inl h
  | completeCommit j =>
    simp only [step] at h
    split at h
    · next p software payment _ => exact .inl (hedit (f := .finalize payment) (fun _ => rfl) h)
    · exact .inl h
  | refundCommit j =>
    simp only [step] at h
    split at h
    · next p software refund restore _ =>
      exact .inl (hedit (f := .refund refund) (fun _ => rfl) h)
    · exact .inl h
  | paySeller o =>
    simp only [step] at h
    split_ifs at h
    · exact .inl (hedit (f := fun p => { p with sellerPaid := true }) (fun _ => rfl) h)
    · exact .inl h
  | orderRead j b q => simp only [step] at h; split at h <;> exact .inl h
  | refundCount j => simp only [step] at h; split at h <;> exact .inl h
  | verifyRead j o b ok payment =>
    simp only [step] at h
    split at h
    · split at h <;> exact .inl h
    · exact .inl h
  | webhookRead j o payment =>
    simp only [step] at h
    split at h
    · split at h <;> exact .inl h
    · exact .inl h
  | refundRead j o reply existing =>
    simp only [step] at h
    split at h
    · split at h <;> exact .inl h
    · exact .inl h

/-- The invariant: one purchase is completed at most, the listing is sold when its completion marked
it, and what an order was asked for in spite of had not. -/
structure Watched.Kept (v : Watched) : Prop where
  wellFormed : v.world.WellFormed
  one : completed v.world.purchases ≤ 1
  sold : ∀ o ∈ completedOrders v.world.purchases, o ∉ v.unmarked →
    v.world.software.softwareStatus = .sold
  asked : ∀ k buyer plan, v.world.calls k = .ordering buyer plan → v.found k ⊆ v.unmarked
  opened : ∀ o ∈ orders v.world.purchases, v.foundFor o ⊆ v.unmarked

theorem Watched.Kept.alone (h : v.Kept) (hok : Orderly v l) : ∀ k p software payment,
    l = .completeCommit k → v.world.calls k = .completing p software payment →
      completed v.world.purchases = 0 := by
  rintro k p software payment rfl hcall
  have hholds := h.wellFormed.holds k
  rw [hcall] at hholds
  have hp : p.razorpayOrderId ∈ orders v.world.purchases := List.mem_map_of_mem hholds.1
  rw [← length_completedOrders, List.length_eq_zero_iff, List.eq_nil_iff_forall_not_mem]
  intro o ho
  obtain ⟨hfound, hmarked⟩ := hok p software payment hcall o ho
  exact hmarked (h.opened _ hp hfound)

theorem flushColumn_marksSold {software : SoftwareStatus} (h : marksSold w p software = true) :
    flushColumn software (finalizeStatus w.software.purchaseType p software)
      w.software.softwareStatus = .sold := by
  simp only [marksSold, Bool.and_eq_true, Bool.or_eq_true, decide_eq_true_eq] at h
  rw [finalizeStatus, if_pos h.1, flushColumn_eq_iff]
  split_ifs with hloaded
  · exact h.2.resolve_left (by simp [hloaded])
  · rfl

theorem mem_completedOrders_edit {o : OrderId}
    (hf : ∀ p, (f p).razorpayOrderId = p.razorpayOrderId)
    (h : o ∈ completedOrders (editPurchase purchases order f)) :
    o = order ∨ o ∈ completedOrders purchases := by
  obtain ⟨q, hq, hdone, rfl⟩ := mem_completedOrders.mp h
  obtain ⟨p, hp, rfl⟩ := List.mem_map.mp hq
  split_ifs at hdone ⊢ with horder
  · exact .inl ((hf p).trans horder)
  · exact .inr (mem_completedOrders.mpr ⟨p, hp, hdone, rfl⟩)

theorem found_watch (h : v.world.calls k ≠ .idle) : (watch cfg v l).found k = v.found k := by
  unfold watch
  dsimp only
  split
  · next j _ _ =>
    cases hcall : v.world.calls j with
    | idle =>
      refine Function.update_of_ne ?_ _ _
      rintro rfl
      exact h hcall
    | _ => rfl
  · rfl

theorem foundFor_watch (h : order ∈ orders v.world.purchases) :
    (watch cfg v l).foundFor order = v.foundFor order := by
  unfold watch
  dsimp only
  split
  · next j o =>
    cases v.world.calls j with
    | ordering buyer plan =>
      cases hfound : findPurchase v.world.purchases o with
      | none =>
        refine Function.update_of_ne ?_ _ _
        rintro rfl
        obtain ⟨p, hp, hkey⟩ := List.mem_map.mp h
        exact Table.lookup_eq_none.mp hfound p hp hkey
      | some p => rfl
    | _ => rfl
  · rfl

/-- After a completion the listing is sold, or the purchase noted. -/
theorem sold_watch (h : v.Kept) (hok : Orderly v l) :
    ∀ o ∈ completedOrders (watch cfg v l).world.purchases, o ∉ (watch cfg v l).unmarked →
      (watch cfg v l).world.software.softwareStatus = .sold := by
  intro o ho hnot
  have hdoes := step_does cfg v.world l
  have hold : o ∉ v.unmarked := fun hmem => hnot (unmarked_watch hmem)
  generalize hps : (step cfg v.world l).purchases = ps at hdoes
  generalize hst : (step cfg v.world l).software.softwareStatus = st at hdoes
  change o ∈ completedOrders (step cfg v.world l).purchases at ho
  change (step cfg v.world l).software.softwareStatus = .sold
  rw [hps] at ho
  rw [hst]
  cases hdoes with
  | keeps _ _ hsame => exact h.sold o (hsame ▸ ho) hold
  | completes k p software payment hcall =>
    have hnone := h.alone hok k p software payment rfl hcall
    rw [← length_completedOrders, List.length_eq_zero_iff] at hnone
    rcases mem_completedOrders_edit (f := .finalize payment) (fun _ => rfl) ho with rfl | ho
    · refine flushColumn_marksSold ?_
      by_contra hmarks
      exact hnot (by simp [watch, hcall, hmarks])
    · exact absurd ho (by simp [hnone])
  | refunds k p software refund restore hcall =>
    have hholds := h.wellFormed.holds k
    rw [hcall] at hholds
    have hcount := completed_refund h.wellFormed.nodup hholds.1 hholds.2 refund
    have hpos := List.length_pos_of_mem ho
    rw [length_completedOrders] at hpos
    have hone := h.one
    omega

/-- **The condition keeps the invariant.** -/
theorem kept_watch (h : v.Kept) (hok : Orderly v l) : (watch cfg v l).Kept where
  wellFormed := wellFormed_step v.world l h.wellFormed
  one := (exclusive_of_does h.wellFormed h.one (h.alone hok) (step_does cfg v.world l)).1
  sold := sold_watch h hok
  asked := by
    intro k buyer plan hcall o ho
    rcases ordering_of_step hcall with hold | ⟨rfl, hidle, havailable⟩
    · rw [found_watch (by simp [hold])] at ho
      exact unmarked_watch (h.asked k buyer plan hold ho)
    · -- the check found the listing available, so no completion had marked it
      have hfound : o ∈ completedOrders v.world.purchases := by simpa [watch, hidle] using ho
      refine unmarked_watch ?_
      by_contra hmarked
      exact absurd (havailable.symm.trans (h.sold o hfound hmarked)) (by decide)
  opened := by
    intro order horder o ho
    rcases orders_of_step horder with hold | ⟨k, buyer, plan, rfl, hcall, hnone⟩
    · rw [foundFor_watch hold] at ho
      exact unmarked_watch (h.opened order hold ho)
    · have hfound : o ∈ v.found k := by simpa [watch, hcall, hnone] using ho
      exact unmarked_watch (h.asked k buyer plan hcall hfound)

theorem kept_init (software : SoftwareListing) : (Watched.init software).Kept where
  wellFormed := wellFormed_init software
  one := by simp [Watched.init, World.init, completed]
  sold := by simp [Watched.init, World.init, completedOrders, orders]
  asked := by simp [Watched.init, World.init]
  opened := by simp [Watched.init, World.init, orders]

/-- **The exclusive sale.** In every run of any number of buyers and calls on a listing, at most
one purchase is completed at any time and a refund puts the listing back only when no purchase is
completed, if and only if, whenever a purchase is paid, all that is completed was completed when its
order was asked for and had marked the listing as sold. -/
theorem exclusive_sale (cfg : Settings) (software : SoftwareListing) (ls : List Label) :
    Run.AllSteps (step cfg) Exclusive (.init software) ls ↔
      Run.Meets (watch cfg) Orderly (.init software) ls := by
  constructor
  · intro hall
    rw [Run.Meets, Run.allSteps_iff]
    intro pre l post heq
    have hwf : (Run.exec (step cfg) (.init software) pre).WellFormed :=
      Run.exec_preserves wellFormed_step pre (wellFormed_init software)
    have hstep := (Run.allSteps_iff _ _).mp hall pre l post heq
    cases l with
    | completeCommit k =>
      -- nothing was completed, as this purchase now is
      intro p loaded payment hcall o ho
      have hworld : (Run.exec (watch cfg) (.init software) pre).world =
          Run.exec (step cfg) (.init software) pre := exec_watch pre
      rw [hworld] at hcall ho
      have hholds := hwf.holds k
      rw [hcall] at hholds
      have hcount := completed_finalize hwf.nodup hholds.1 hholds.2 payment
      have hone := hstep.one
      simp only [step, hcall, World.commit, World.setCall] at hone
      have hsome := List.length_pos_of_mem ho
      rw [length_completedOrders] at hsome
      omega
    | _ => trivial
  · intro hmeets
    have hall : Run.AllSteps (watch cfg) (fun v l v' => Exclusive v.world l v'.world)
        (.init software) ls := by
      refine Run.allSteps_of_inv (P := Watched.Kept) (fun v l h hok => kept_watch h hok) ?_
        (kept_init software) hmeets
      intro v l h hok
      obtain ⟨hone, hrestore⟩ :=
        exclusive_of_does h.wellFormed h.one (h.alone hok) (step_does cfg v.world l)
      exact ⟨hone, hrestore⟩
    rw [Run.allSteps_iff] at hall ⊢
    intro pre l post heq
    have hworld : (Run.exec (watch cfg) (.init software) pre).world =
        Run.exec (step cfg) (.init software) pre := exec_watch pre
    exact hworld ▸ hall pre l post heq

/-- **A purchase is in one call's hands**, in every interleaving, and is as the call has read it. -/
theorem row_in_one_call (cfg : Settings) (software : SoftwareListing) (ls : List Label) :
    let w := Run.exec (step cfg) (.init software) ls
    (∀ j k order, (w.calls j).row = some order → (w.calls k).row = some order → j = k) ∧
      ∀ k, (w.calls k).Holds w.purchases := by
  intro w
  have hwf : w.WellFormed := Run.exec_preserves wellFormed_step ls (wellFormed_init software)
  refine ⟨fun j k order hj hk => ?_, hwf.holds⟩
  exact Option.some.inj ((hwf.locked j order hj).symm.trans (hwf.locked k order hk))

def singleOwner : SoftwareListing := ⟨some 9, false, true, .oneTime, .available⟩

/-- Two buyers open an order while the listing is available, and both pay: the first is verified,
the second comes in by webhook. -/
def twoOrdersRun : List Label :=
  [.orderRead 0 1 none, .orderCommit 0 10, .orderRead 1 2 none, .orderCommit 1 11,
    .verifyRead 2 10 1 true 100, .completeCommit 2, .webhookRead 3 11 101, .completeCommit 3]

/-- **Both own the listing.** -/
theorem two_open_orders_sell_twice :
    ¬ Run.AllSteps (step ⟨true, true⟩) Exclusive (.init singleOwner) twoOrdersRun := by
  intro h
  have hstep := (Run.allSteps_iff _ _).mp h (twoOrdersRun.take 7) _ _ rfl
  exact absurd hstep.one (by decide)

end Deltapreneur.Technology
