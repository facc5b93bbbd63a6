import Deltapreneur.Platform.OwnRecord

/-!
# Does the track record agree with its order?

One registration or transfer order whose status, provider id and payment id change at any time,
between calls of the live path, the backfill and the sync, over any table of track records.

* `Call.change` sets the three columns to any values; the other columns stay.
* The backfill and the sync select this order only.

Results:

* `leaves_step`: what any call leaves of the record.
* `record_agrees`: the record agrees with the order in every run of calls on an order that is read
  in one way, and that stays active once its record says Success.
* `record_disagrees`: a record of an order that is no longer active, a transfer that is read in two
  ways, and a second sync that changes a record.
-/

namespace Deltapreneur.TrackRecords

open Registration (RegistrationOrderStatus)
open Run

/-! ## The system -/

structure World where
  order : Order
  table : Table
  deriving DecidableEq

inductive Call
  | change (status : RegistrationOrderStatus) (providerId : Option String)
    (payment : Option PaymentId)
  | record
  | backfill (razorpayOrder : Option OrderId) (razorpayPayment : Option PaymentId)
  | sync

/-- One call. -/
def step (w : World) : Call → World
  | .change status providerId payment =>
    { w with order := { w.order with
        status := status
        openProviderDomainId := providerId
        razorpayPaymentId := payment } }
  | .record => { w with table := recordFromRegistrationOrder w.table w.order }
  | .backfill razorpayOrder razorpayPayment =>
    { w with
      table := backfillFromRegistrationOrders [w.order] w.table razorpayOrder razorpayPayment }
  | .sync => { w with table := syncHistoricalPurchases w.table [w.order] }

/-- The record of the order. -/
def World.own (w : World) : Option TrackRecord := TrackRecords.own w.table w.order.id

/-! ## What agrees -/

/-- The order is active under a real id. -/
def Order.Provisioned (o : Order) : Prop := o.status = .active ∧ o.hasRealId = true

/-- What the live path leaves of a record. -/
structure Recorded (o : Order) (prev : Option TrackRecord) (r : TrackRecord) : Prop where
  /-- Success is said of an active order, or kept while the order is read as under way. -/
  success : r.overallStatus = .success → o.Provisioned ∨
    (∃ p, prev = some p ∧ p.statuses = (.provisioned, .success)) ∧
      (statusForRegistrationOrder o).statuses = (.inProgress, .pending)
  refunded : r.overallStatus = .refunded → o.status = .refunded ∨ r.razorpayRefundId ≠ none
  refundId : o.razorpayRefundId = none → (∀ p, prev = some p → p.razorpayRefundId = none) →
    r.razorpayRefundId = none

/-- What the sync leaves of a record. -/
structure Synced (o : Order) (r r' : TrackRecord) : Prop where
  registration : o.isTransfer = false →
    r'.statuses = r.statuses ∧ r'.paymentStatus = r.paymentStatus
  transfer : o.isTransfer = true → r'.statuses = (statusForSyncOrder o "OpenProvider").statuses
  success : o.isTransfer = true → r'.overallStatus = .success → o.status ≠ .paymentCompleted →
    o.Provisioned
  refunded : o.isTransfer = true → r'.overallStatus = .refunded → o.status = .refunded
  refundId : r'.razorpayRefundId = r.razorpayRefundId

/-- What the first sync makes of an order without a record. -/
structure Created (o : Order) (r : TrackRecord) : Prop where
  success : r.overallStatus = .success → o.status = .active ∨ o.status = .paymentCompleted
  refunded : r.overallStatus = .refunded → r.razorpayRefundId ≠ none
  refundId : r.razorpayRefundId = o.razorpayRefundId

/-- The backfill selects the order, and does not skip it. -/
def Order.Reached (o : Order) (razorpayOrder : Option OrderId)
    (razorpayPayment : Option PaymentId) : Prop :=
  o.razorpayPaymentId ≠ none ∧ (razorpayOrder ≠ none ∧ o.razorpayOrderId = razorpayOrder ∨
    razorpayPayment ≠ none ∧ o.razorpayPaymentId = razorpayPayment)

instance (razorpayOrder : Option OrderId) (razorpayPayment : Option PaymentId) (o : Order) :
    Decidable (o.Reached razorpayOrder razorpayPayment) :=
  inferInstanceAs (Decidable (_ ∧ _))

/-- What a call leaves of the order's record. -/
def Leaves (w : World) : Call → World → Prop
  | .change .., _ => True
  | .record, w' => ∃ r, w'.own = some r ∧ Recorded w.order w.own r
  | .backfill razorpayOrder razorpayPayment, w' =>
    if w.order.Reached razorpayOrder razorpayPayment then
      ∃ r, w'.own = some r ∧ Recorded w.order w.own r
    else w' = w
  | .sync, w' =>
    (∀ r, w.own = some r → ∃ r', w'.own = some r' ∧ Synced w.order r r') ∧
      (w.own = none → ∀ r, w'.own = some r → Created w.order r) ∧
      (w.order.isTransfer = false ∨ existing w.table w.order ≠ none → step w' .sync = w')

/-- The three classifiers say the same of the order. -/
structure Order.SameReading (o : Order) : Prop where
  sync : (statusForRegistrationOrder o).statuses =
    (statusForSyncOrder o (categoryForRegistrationOrder o).2).statuses
  first : (statusForRegistrationOrder o).statuses =
    ((firstSync o).fulfillmentStatus, (firstSync o).overallStatus)

/-- The orders of which they do. -/
def Order.Unambiguous (o : Order) : Prop :=
  o.Provisioned ∨
    (o.hasDemoId = false ∧ o.transferStatus ≠ .failed ∧
      (o.isTransfer = true → o.providerFailed = false)) ∧
    ((o.status = .created ∨ o.status = .registrationPending) ∨
      o.isTransfer = true ∧ o.status = .expired ∧
        (o.razorpayPaymentId ≠ none ∨ o.openProviderDomainId ≠ none))

/-- **The record agrees with the order**: it says Success and Refunded only of an order that is so,
the classifiers say the same, and a second sync changes nothing. -/
structure Agreement (w : World) (c : Call) (w' : World) : Prop where
  success : ∀ r, w'.own = some r → r.overallStatus = .success → w.order.Provisioned
  refunded : ∀ r, w'.own = some r → r.overallStatus = .refunded → w.order.status = .refunded
  readings : w.order.SameReading
  again : c = .sync → step w' .sync = w'

/-- The property of a call. -/
def Agrees (w : World) : Call → World → Prop
  | .change .., _ => True
  | c, w' => Agreement w c w'

/-- The condition on a call: an order whose record says Success stays active under a real id, the
calls find an order that is read in one way, and a sync a registration or an order with a record. -/
def Steady (w : World) : Call → Prop
  | .change status providerId _ => ∀ r, w.own = some r → r.overallStatus = .success →
    status = .active ∧ (providerId.any fun id => !isDemo id) = true
  | .record | .backfill _ _ => w.order.Unambiguous
  | .sync =>
    w.order.Unambiguous ∧ (w.order.isTransfer = false ∨ existing w.table w.order ≠ none)

/-- The order was never refunded, and its record, if there is one, says no more than the order. -/
structure World.Truthful (w : World) : Prop where
  order : w.order.razorpayRefundId = none
  success : ∀ r, w.own = some r → r.overallStatus = .success → w.order.Provisioned
  refunded : ∀ r, w.own = some r → r.overallStatus ≠ .refunded ∧ r.razorpayRefundId = none

/-! ## The live path -/

variable {o : Order} {t : Table} {r : TrackRecord} {x : Reading}

theorem LiveCase.provisioned (h : LiveCase o x) (hful : x.fulfillmentStatus = .provisioned)
    (hoverall : x.overallStatus ≠ .refunded) : o.Provisioned := by
  cases h with
  | success hactive hreal => exact ⟨hactive, hreal⟩
  | refunded _ hrefunded => exact absurd hrefunded hoverall
  | _ => simp [clean] at hful

theorem LiveCase.intermediate (h : LiveCase o x)
    (hful : x.fulfillmentStatus = .inProgress ∨ x.fulfillmentStatus = .notStarted)
    (hoverall : x.overallStatus ≠ .refunded) : x.statuses = (.inProgress, .pending) := by
  cases h with
  | pending => rfl
  | refunded _ hrefunded => exact absurd hrefunded hoverall
  | _ => simp [clean] at hful

theorem LiveCase.reversed (h : LiveCase o x) (hoverall : x.overallStatus = .refunded) :
    o.status = .refunded := by
  cases h with
  | refunded hstatus => exact hstatus
  | _ => simp [clean] at hoverall

theorem fromRegistrationOrder_paymentStatus :
    (fromRegistrationOrder o).paymentStatus = .refunded ↔ o.status = .refunded := by
  rw [← (hasToken_statusText o.status).2.2.2.2.2.1]
  unfold fromRegistrationOrder
  dsimp only
  split_ifs with h <;> simp [h]

/-- What `record_from_registration_order` leaves of a record. -/
theorem recorded_outcome (o : Order) (id : InternalId) (prev : Option TrackRecord) :
    Recorded o prev ((fromRegistrationOrder o).outcome id prev) := by
  have hcase := statusForRegistrationOrder_case o
  refine ⟨fun h => ?_, fun h => ?_, fun horder hprev => ?_⟩
  · rw [Attempt.outcome, settled_success_iff, fromRegistrationOrder_overallStatus] at h
    obtain ⟨⟨-, -, hpassed⟩, -, -, -, hful⟩ := h
    cases prev with
    | none =>
      rw [written_none_fulfillmentStatus, fromRegistrationOrder_fulfillmentStatus] at hful
      exact .inl (hcase.provisioned hful hpassed)
    | some p =>
      rw [written_some_fulfillmentStatus, fromRegistrationOrder_fulfillmentStatus] at hful
      split_ifs at hful with hkeeps
      · rw [TrackRecord.keepsSuccess, Bool.and_eq_true] at hkeeps
        obtain ⟨hprev, hnew⟩ := hkeeps
        rw [Attempt.isIntermediate_iff, fromRegistrationOrder_fulfillmentStatus] at hnew
        obtain ⟨hnew, -⟩ := hnew
        exact .inr ⟨⟨p, rfl, TrackRecord.isSuccess_iff.mp hprev⟩, hcase.intermediate hnew hpassed⟩
      · exact .inl (hcase.provisioned hful hpassed)
  · rw [Attempt.outcome, settled_refunded_iff, fromRegistrationOrder_overallStatus,
      written_paymentStatus, fromRegistrationOrder_paymentStatus] at h
    obtain hpassed | ⟨-, hrefund | hpayment⟩ := h
    · exact .inl (hcase.reversed hpassed)
    · rw [outcome_razorpayRefundId]
      exact .inr hrefund
    · exact .inl hpayment
  · rw [outcome_razorpayRefundId]
    cases prev with
    | none => exact horder
    | some p =>
      have hid : (fromRegistrationOrder o).razorpayRefundId = none := horder
      rw [written_some_razorpayRefundId, hid, Option.none_or, hprev p rfl]

/-! ## The three readings -/

theorem firstSync_statuses (o : Order) :
    ((firstSync o).fulfillmentStatus, (firstSync o).overallStatus) =
      if o.status = .active ∨ o.status = .paymentCompleted then (.provisioned, .success)
      else (.inProgress, .pending) := by
  have hsuccess := (hasToken_statusName o.status).2.2.2.2.2
  by_cases h : o.status = .active ∨ o.status = .paymentCompleted
  · rw [if_pos h]
    simp only [firstSync, hsuccess.mpr h, if_true]
  · rw [if_neg h]
    simp only [firstSync, Bool.not_eq_true _ ▸ mt hsuccess.mp h]
    rfl

/-- The orders of which the live path, the sync and the first sync say the same. -/
theorem sameReading_iff (o : Order) : o.SameReading ↔ o.Unambiguous := by
  have hfailed := Order.isTransfer_of_failed (o := o)
  have hdemo := Order.hasDemoId_iff (o := o)
  have hsame : o.SameReading ↔ (statusForRegistrationOrder o).statuses =
      (statusForSyncOrder o (categoryForRegistrationOrder o).2).statuses ∧
      (statusForRegistrationOrder o).statuses =
        ((firstSync o).fulfillmentStatus, (firstSync o).overallStatus) :=
    ⟨fun h => ⟨h.1, h.2⟩, fun h => ⟨h.1, h.2⟩⟩
  have hboth {x y : FulfillmentStatus × OverallStatus} (z : FulfillmentStatus × OverallStatus) :
      x = y ∧ x = z ↔ x = z ∧ y = z :=
    ⟨fun ⟨hxy, hxz⟩ => ⟨hxz, hxy ▸ hxz⟩, fun ⟨hxz, hyz⟩ => ⟨hxz.trans hyz.symm, hxz⟩⟩
  rw [hsame, firstSync_statuses, hboth]
  unfold Order.Unambiguous Order.Provisioned
  split_ifs with hsuccess
  · -- the first sync says Success, and the others say so of an active order only
    rw [live_success_iff, sync_success_iff]
    constructor
    · exact fun h => .inl h.1
    · rintro (h | ⟨-, hstatus⟩)
      · exact ⟨h, hsuccess, h.2⟩
      · rcases hsuccess with h | h <;> simp [h] at hstatus
  · rw [live_pending_iff, sync_pending_iff _ hsuccess]
    grind

/-! ## The sync -/

/-- What a row of the sync leaves of the record of its order. -/
theorem synced_refreshed (o : Order) (r : TrackRecord) : Synced o r (r.refreshed o) := by
  have hstatuses (h : o.isTransfer = true) :
      (r.refreshed o).statuses = (statusForSyncOrder o "OpenProvider").statuses := by
    rw [TrackRecord.refreshed, if_pos h, reevaluated_statuses]
  have hoverall (h : o.isTransfer = true) :
      (r.refreshed o).overallStatus = (statusForSyncOrder o "OpenProvider").overallStatus :=
    congrArg Prod.snd (hstatuses h)
  refine ⟨fun h => ?_, hstatuses, fun h hsuccess hcompleted => ?_, fun h hrefunded => ?_, ?_⟩
  · have hkeeps : r.refreshed o = r.relabelled o := by simp [TrackRecord.refreshed, h]
    rw [hkeeps]
    exact ⟨rfl, rfl⟩
  · rw [hoverall h] at hsuccess
    obtain ⟨hactive | hpaid, hreal⟩ := sync_overall_success _ hsuccess
    · exact ⟨hactive, hreal⟩
    · exact absurd hpaid hcompleted
  · rw [hoverall h] at hrefunded
    exact sync_refunded _ hrefunded
  · unfold TrackRecord.refreshed TrackRecord.reevaluated
    split_ifs <;> rfl

theorem firstSync_not_refunded (o : Order) :
    (firstSync o).overallStatus ≠ .refunded ∧ (firstSync o).paymentStatus ≠ .refunded := by
  unfold firstSync
  dsimp only
  split_ifs <;> simp

theorem created_outcome (o : Order) (id : InternalId) :
    Created o ((firstSync o).outcome id none) := by
  have hsuccess := (hasToken_statusName o.status).2.2.2.2.2
  have hstatuses := firstSync_statuses o
  refine ⟨fun h => ?_, fun h => ?_, rfl⟩
  · rw [Attempt.outcome, settled_success_iff] at h
    obtain ⟨-, -, -, -, hful⟩ := h
    rw [written_none_fulfillmentStatus] at hful
    by_contra hstatus
    rw [if_neg hstatus, Prod.mk.injEq, hful] at hstatuses
    exact absurd hstatuses.1 (by simp)
  · rw [outcome_razorpayRefundId]
    rw [Attempt.outcome, settled_refunded_iff, written_paymentStatus] at h
    obtain hpassed | ⟨-, hrefund | hpayment⟩ := h
    · exact absurd hpassed (firstSync_not_refunded o).1
    · exact hrefund
    · exact absurd hpayment (firstSync_not_refunded o).2

/-- A second row for an order writes nothing if the first has found a record. -/
theorem syncRow_again_of_existing (h : existing t o = some r) :
    syncRow (syncRow t o) o = syncRow t o := by
  let f (x : TrackRecord) : TrackRecord :=
    if x.internalOrderId = r.internalOrderId then x.refreshed o else x
  have hrow : syncRow t o = t.map f := by
    simp only [syncRow, h]
    rfl
  have hagain (x : TrackRecord) : f (f x) = f x := by
    by_cases hx : x.internalOrderId = r.internalOrderId
    · simp [f, hx, refreshed_again]
    · simp [f, hx]
  have hexisting : existing (t.map f) o = some (r.refreshed o) := by
    rw [existing_map (f := f) (fun x => ?_) (fun x => ?_) (fun x => ?_), h]
    · simp [f]
    all_goals
      unfold f
      split_ifs <;> simp
  rw [hrow]
  simp only [syncRow, hexisting, refreshed_internalOrderId]
  change (t.map f).map f = t.map f
  rw [List.map_map, show f ∘ f = f from funext hagain]

theorem relabelled_eq_self (hname : r.itemName = o.domainName)
    (hcategory : (r.category, r.providerSubcategory) = categoryForRegistrationOrder o)
    (hdate : r.createdAt = o.createdAt) (hphone : r.buyerPhone = o.buyerPhone) :
    r.relabelled o = r := by
  cases r
  simp only at hname hcategory hdate hphone
  subst hname hdate hphone
  simp [TrackRecord.relabelled, ← hcategory]

/-- Nor if the order is a registration. -/
theorem syncRow_again (h : o.isTransfer = false ∨ existing t o ≠ none) :
    syncRow (syncRow t o) o = syncRow t o := by
  cases hexisting : existing t o with
  | some r => exact syncRow_again_of_existing hexisting
  | none =>
    have hregistration : o.isTransfer = false := h.resolve_right (not_not.mpr hexisting)
    have hown : TrackRecords.own t o.id = none := by
      simp only [existing, Option.or_eq_none_iff] at hexisting
      exact hexisting.1
    have hrow := syncRow_free hown ((existing_eq_none_iff hown).mp hexisting)
    have hnew : TrackRecords.own (syncRow t o) o.id =
        some ((firstSync o).outcome (.registration o.id) none) := by
      rw [hrow, own_append rfl, hown, if_pos rfl]
      rfl
    have hsame : ((firstSync o).outcome (.registration o.id) none).refreshed o =
        (firstSync o).outcome (.registration o.id) none := by
      rw [TrackRecord.refreshed, if_neg (by simp [hregistration])]
      exact relabelled_eq_self rfl rfl rfl rfl
    have habsent : ∀ x ∈ t, x.internalOrderId ≠ .registration o.id := Table.lookup_eq_none.mp hown
    have hid : ((firstSync o).outcome (.registration o.id) none).internalOrderId =
        .registration o.id := rfl
    rw [syncRow_own hnew, hrow, Table.update, List.map_append, ← Table.update,
      Table.update_of_absent habsent, List.map_singleton, if_pos hid, hsame]

/-! ## Every run -/

theorem own_recordFromRegistrationOrder (t : Table) (o : Order) :
    TrackRecords.own (recordFromRegistrationOrder t o) o.id =
      some ((fromRegistrationOrder o).outcome (.registration o.id) (TrackRecords.own t o.id)) :=
  find_recordPaidAttempt 0 t rfl

theorem backfillOrders_one (o : Order) (razorpayOrder : Option OrderId)
    (razorpayPayment : Option PaymentId) :
    backfillOrders [o] razorpayOrder razorpayPayment =
      if razorpayOrder ≠ none ∧ o.razorpayOrderId = razorpayOrder ∨
        razorpayPayment ≠ none ∧ o.razorpayPaymentId = razorpayPayment then [o] else [] := by
  cases razorpayOrder with
  | none =>
    cases razorpayPayment with
    | none => simp [backfillOrders]
    | some payment =>
      by_cases hpayment : o.razorpayPaymentId = some payment <;> simp [backfillOrders, hpayment]
  | some order =>
    by_cases horder : o.razorpayOrderId = some order
    · simp [backfillOrders, horder]
    · cases razorpayPayment with
      | none => simp [backfillOrders, horder]
      | some payment =>
        by_cases hpayment : o.razorpayPaymentId = some payment <;>
          simp [backfillOrders, horder, hpayment]

theorem backfill_one (o : Order) (t : Table) (razorpayOrder : Option OrderId)
    (razorpayPayment : Option PaymentId) :
    backfillFromRegistrationOrders [o] t razorpayOrder razorpayPayment =
      if o.Reached razorpayOrder razorpayPayment then recordFromRegistrationOrder t o else t := by
  unfold backfillFromRegistrationOrders
  rw [backfillOrders_one]
  by_cases hpaid : o.razorpayPaymentId = none
  · rw [if_neg fun h : o.Reached _ _ => h.1 hpaid]
    split_ifs <;> simp [hpaid]
  · have hsome : o.razorpayPaymentId.isSome = true := Option.isSome_iff_ne_none.mpr hpaid
    split_ifs with hfound hreached hreached
    · simp [hsome]
    · exact absurd ⟨hpaid, hfound⟩ hreached
    · exact absurd hreached.2 hfound
    · rfl

/-- **What one call leaves.** -/
theorem leaves_step (w : World) (c : Call) : Leaves w c (step w c) := by
  have hrecord : ∃ r, TrackRecords.own (recordFromRegistrationOrder w.table w.order) w.order.id =
      some r ∧ Recorded w.order w.own r :=
    ⟨_, own_recordFromRegistrationOrder w.table w.order, recorded_outcome w.order _ _⟩
  cases c with
  | change status providerId payment => trivial
  | record => exact hrecord
  | backfill razorpayOrder razorpayPayment =>
    unfold Leaves step
    dsimp only
    rw [backfill_one]
    split_ifs with hreached
    · exact hrecord
    · rfl
  | sync =>
    refine ⟨fun r hr => ⟨r.refreshed w.order, ?_, synced_refreshed w.order r⟩,
      fun hnone r hr => ?_, fun h => ?_⟩
    · have hrow := syncRow_own (show TrackRecords.own w.table w.order.id = some r from hr)
      change TrackRecords.own (syncRow w.table w.order) w.order.id = _
      rw [hrow, own_update, if_pos rfl]
      exact congrArg (Option.map _) hr
    · replace hnone : TrackRecords.own w.table w.order.id = none := hnone
      replace hr : TrackRecords.own (syncRow w.table w.order) w.order.id = some r := hr
      have hproper : Proper w.table w.order := own_syncRow_self.mp (by simp [hr])
      rw [syncRow_free hnone (hproper hnone), own_append rfl, hnone, if_pos rfl] at hr
      cases hr
      exact created_outcome w.order _
    · exact congrArg (World.mk w.order) (syncRow_again h)

theorem Order.Unambiguous.status (h : o.Unambiguous) :
    o.status ≠ .refunded ∧ ((o.status = .active ∨ o.status = .paymentCompleted) → o.Provisioned) := by
  rcases h with hactive | ⟨-, (hstatus | hstatus) | ⟨-, hstatus, -⟩⟩
  · exact ⟨by simp [hactive.1], fun _ => hactive⟩
  all_goals exact ⟨by simp [hstatus], by simp [hstatus]⟩

theorem World.Truthful.recorded {w : World} {r : TrackRecord} (h : w.Truthful)
    (ho : w.order.Unambiguous) (hr : Recorded w.order w.own r) :
    (r.overallStatus = .success → w.order.Provisioned) ∧ r.overallStatus ≠ .refunded ∧
      r.razorpayRefundId = none := by
  have hid := hr.refundId h.order fun p hp => (h.refunded p hp).2
  refine ⟨fun hsuccess => ?_, fun hrefunded => ?_, hid⟩
  · rcases hr.success hsuccess with hactive | ⟨⟨p, hp, hstatuses⟩, -⟩
    · exact hactive
    · exact h.success p hp (congrArg Prod.snd hstatuses)
  · rcases hr.refunded hrefunded with hstatus | hid'
    · exact ho.status.1 hstatus
    · exact hid' hid

theorem World.Truthful.synced {w : World} {r r' : TrackRecord} (h : w.Truthful)
    (ho : w.order.Unambiguous) (hr : w.own = some r) (hs : Synced w.order r r') :
    (r'.overallStatus = .success → w.order.Provisioned) ∧ r'.overallStatus ≠ .refunded ∧
      r'.razorpayRefundId = none := by
  obtain ⟨hrefunded, hid⟩ := h.refunded r hr
  cases htransfer : w.order.isTransfer with
  | false =>
    have hsame : r'.overallStatus = r.overallStatus :=
      congrArg Prod.snd (hs.registration htransfer).1
    exact ⟨hsame ▸ h.success r hr, hsame ▸ hrefunded, hs.refundId.trans hid⟩
  | true =>
    refine ⟨fun hsuccess => ?_, fun h => ho.status.1 (hs.refunded htransfer h), hs.refundId.trans hid⟩
    by_contra hnot
    exact hnot (hs.success htransfer hsuccess fun hpaid => hnot (ho.status.2 (.inr hpaid)))

/-- **A steady call keeps the record truthful.** -/
theorem truthful_step {w : World} {c : Call} (h : w.Truthful) (hok : Steady w c) :
    (step w c).Truthful := by
  have hleaves := leaves_step w c
  have hof (w' : World) (horder : w'.order = w.order)
      (hrow : ∀ r, w'.own = some r → (r.overallStatus = .success → w.order.Provisioned) ∧
        r.overallStatus ≠ .refunded ∧ r.razorpayRefundId = none) : w'.Truthful :=
    ⟨horder ▸ h.order, fun r hr => horder ▸ (hrow r hr).1, fun r hr => (hrow r hr).2⟩
  cases c with
  | change status providerId payment =>
    exact ⟨h.order, fun r hr hsuccess => hok r hr hsuccess, h.refunded⟩
  | record =>
    obtain ⟨r, hown, hrecorded⟩ := hleaves
    refine hof _ rfl fun r' hr' => ?_
    obtain rfl := Option.some.inj (hown.symm.trans hr')
    exact h.recorded hok hrecorded
  | backfill razorpayOrder razorpayPayment =>
    unfold Leaves at hleaves
    dsimp only at hleaves
    split_ifs at hleaves
    · obtain ⟨r, hown, hrecorded⟩ := hleaves
      refine hof _ rfl fun r' hr' => ?_
      obtain rfl := Option.some.inj (hown.symm.trans hr')
      exact h.recorded hok hrecorded
    · rwa [hleaves]
  | sync =>
    obtain ⟨hfound, hnew, -⟩ := hleaves
    refine hof _ rfl fun r' hr' => ?_
    cases hown : w.own with
    | some r =>
      obtain ⟨x, hx, hsynced⟩ := hfound r hown
      obtain rfl := Option.some.inj (hx.symm.trans hr')
      exact h.synced hok.1 hown hsynced
    | none =>
      have hcreated := hnew hown r' hr'
      have hid := hcreated.refundId.trans h.order
      exact ⟨fun hsuccess => hok.1.status.2 (hcreated.success hsuccess),
        fun hrefunded => hcreated.refunded hrefunded hid, hid⟩

/-- **The record agrees with its order.** In every run from a truthful record on, in which an order
whose record says Success stays active, the calls find an order that is read in one way, and a sync a
registration or an order with a record. -/
theorem record_agrees {w : World} (hw : w.Truthful) {calls : List Call}
    (hok : Meets step Steady w calls) : AllSteps step Agrees w calls := by
  refine allSteps_of_inv (fun w c h hc => truthful_step h hc) (fun w c h hc => ?_) hw hok
  have hnext := truthful_step h hc
  have hrecord : ∀ r, (step w c).own = some r → r.overallStatus ≠ .refunded :=
    fun r hr => (hnext.refunded r hr).1
  cases c with
  | change status providerId payment => trivial
  | record =>
    exact ⟨hnext.success, fun r hr h => absurd h (hrecord r hr), (sameReading_iff _).mpr hc,
      by simp⟩
  | backfill razorpayOrder razorpayPayment =>
    exact ⟨hnext.success, fun r hr h => absurd h (hrecord r hr), (sameReading_iff _).mpr hc,
      by simp⟩
  | sync =>
    exact ⟨hnext.success, fun r hr h => absurd h (hrecord r hr), (sameReading_iff _).mpr hc.1,
      fun _ => (leaves_step w .sync).2.2 hc.2⟩

/-- A transfer to the platform without a provider id. -/
def transferOrder (status : RegistrationOrderStatus) (payment : Option PaymentId) : Order :=
  { paidOrder 1 "a.com" 5 with
    status := status
    transferStatus := .paymentPending
    razorpayPaymentId := payment
    openProviderDomainId := none }

/-- An order that is registered, recorded, synced and found by a backfill. -/
theorem record_agrees_registered :
    AllSteps step Agrees ⟨paidOrder 1 "a.com" 5, []⟩ [.record, .sync, .backfill none (some 5)] := by
  have hactive : (paidOrder 1 "a.com" 5).Unambiguous := .inl ⟨rfl, by decide +kernel⟩
  refine record_agrees ⟨rfl, fun r hr => (by cases hr), fun r hr => (by cases hr)⟩ ?_
  exact ⟨hactive, ⟨hactive, .inl rfl⟩, hactive, trivial⟩

/-- **The record disagrees**: it says Success after the order has lost it; of a failed transfer the
live path and the sync say different things; and the second sync of an abandoned transfer changes the
record that the first has made. -/
theorem record_disagrees :
    ¬ AllSteps step Agrees ⟨paidOrder 1 "a.com" 5, []⟩
        [.record, .change .paymentCompleted none (some 5), .record] ∧
      ¬ AllSteps step Agrees ⟨transferOrder .provisionFailed (some 5), []⟩ [.record] ∧
      ¬ AllSteps step Agrees ⟨transferOrder .expired none, []⟩ [.sync] := by
  refine ⟨fun h => ?_, fun h => ?_, fun h => ?_⟩
  · obtain ⟨-, -, hlast, -⟩ := h
    obtain ⟨hactive, -⟩ := hlast.success _ rfl (by decide +kernel)
    exact absurd hactive (by decide +kernel)
  · obtain ⟨hfirst, -⟩ := h
    exact absurd hfirst.readings.sync (by decide +kernel)
  · obtain ⟨hfirst, -⟩ := h
    exact absurd (hfirst.again rfl) (by decide +kernel)

end Deltapreneur.TrackRecords
