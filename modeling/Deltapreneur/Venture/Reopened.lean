import Deltapreneur.Lib.Run
import Deltapreneur.Venture.Partnership

/-!
# Reopened listings

Whether a venture that is `ACTIVE` again can be sold or shared again, under calls one after the
other.

A selection is recorded in `selected_pitch_id` or `selected_coventure_id` of the listing and in the
status of the pitch or application. `admin_reject_deal` and `admin_refund` reopen the listing and
clear `selected_pitch_id` only.

* `listingStep`: one call of the listing's services.
* `Rows.ReallyOpen`: the property.
* `Rows.Stands`: the condition, that no deal falls through.

Results:

* `reallyOpen_iff`: the property holds throughout just the runs in which no deal falls through.
* `rejected_selection_stands`: a rejected deal, in either mode.
-/

namespace Deltapreneur.VentureDeals

open Razorpay

/-! ## Calls -/

inductive ListingCall
  | apply (applicant : UserId)
  | updateStatus (application : ApplicationId) (owner : UserId) (status : Option CoVentureStatus)
  | selectPartner (application : ApplicationId) (owner : UserId) (commissionPct : ℚ)
  | submitPitch (bid : Bid)
  | finalizeDeal (pitch : PitchId) (seller : UserId) (commissionPct : ℚ)
  | adminApproveDeal (deal : DealId)
  | adminRejectDeal (deal : DealId)
  /-- Without an order the gateway has raised. -/
  | createPaymentOrder (deal : DealId) (buyer : UserId) (configured : Bool)
    (order : Option OrderId)
  | verifyPayment (deal : DealId) (buyer : UserId) (payment : PaymentId) (order : OrderId)
    (signatureOk linkedElsewhere : Bool)
  | adminReleaseEscrow (deal : DealId) (profileComplete : Bool)
  /-- Without a refund `refund_payment` has raised. -/
  | adminRefund (deal : DealId) (refund : Option RefundId)

/-- A deal that was read goes on. -/
def Rows.onDeal (r : Rows) (d : DealId) (f : Deal → Rows) : Rows :=
  match r.deals[d]? with
  | none => r
  | some txn => f txn

def Rows.saveDeal (r : Rows) (d : DealId) (txn : Deal) : Rows :=
  { r with deals := r.deals.set d txn }

/-- One call. A call that raises leaves the rows as they are. -/
def listingStep (r : Rows) : ListingCall → Rows
  | .apply applicant =>
    let applied := r.applications.any fun application => application.applicantUserId = applicant
    match applyAsPartner r.venture applied applicant with
    | .ok application => { r with applications := r.applications ++ [application] }
    | .error _ => r
  | .updateStatus a owner status =>
    match r.applications[a]? with
    | none => r
    | some application =>
      match updateStatus r.venture application owner status with
      | .ok new => { r with applications := r.applications.set a new }
      | .error _ => r
  | .selectPartner a owner commissionPct =>
    match r.applications[a]? with
    | none => r
    | some application =>
      match selectPartner r.venture a application owner with
      | .ok (venture, new) =>
        { r with
          venture
          applications := r.applications.set a new
          deals := if r.hasOpenDeal application.applicantUserId then r.deals
            else r.deals ++ [createFromCoventure venture a new commissionPct] }
      | .error _ => r
  | .submitPitch bid =>
    let prior := r.pitches.find? fun p => p.buyerUserId = bid.buyer
    match checkBid bid, submitPitch r.venture prior bid, prior with
    | .ok (), .ok pitch, none => { r with pitches := r.pitches ++ [pitch] }
    | _, _, _ => r
  | .finalizeDeal p seller commissionPct =>
    match finalizeListing r.venture seller, r.pitches[p]? with
    | .ok (), some app =>
      match selectPitch app, createFromPitch p app commissionPct with
      | .ok new, .ok deal =>
        { r with
          venture := r.venture.finalized p
          pitches := r.pitches.set p new
          deals := r.deals ++ [deal] }
      | _, _ => r
    | _, _ => r
  | .adminApproveDeal d =>
    r.onDeal d fun txn =>
      match adminApproveDeal txn with
      | .ok new => r.saveDeal d new
      | .error _ => r
  | .adminRejectDeal d =>
    r.onDeal d fun txn =>
      match adminRejectDeal txn with
      | .ok new => { r.saveDeal d new with venture := r.venture.reopened }
      | .error _ => r
  | .createPaymentOrder d buyer configured order =>
    r.onDeal d fun txn =>
      match createPaymentOrder txn buyer configured, order with
      | .ok (), some order => r.saveDeal d (txn.ordered order)
      | .ok (), none => if txn.grossAmountInr ≤ 0 then r.saveDeal d (txn.ordered 0) else r
      | .error _, _ => r
  | .verifyPayment d buyer payment order signatureOk linkedElsewhere =>
    if linkedElsewhere ∨ r.deals.any fun txn => txn.razorpayPaymentId = some payment then r
    else r.onDeal d fun txn =>
      match verifyPayment txn buyer payment order signatureOk with
      | .ok (some new) => r.saveDeal d new
      | _ => r
  | .adminReleaseEscrow d profileComplete =>
    r.onDeal d fun txn =>
      match adminReleaseEscrow txn profileComplete with
      | .ok new => { r.saveDeal d new with venture := r.venture.released txn.dealKind }
      | .error _ => r
  | .adminRefund d refund =>
    r.onDeal d fun txn =>
      match adminRefund txn, refund with
      | .ok (some _), some id =>
        { r.saveDeal d (txn.refunded id) with
          venture := if txn.dealKind = .ventureSale then r.venture.reopened else r.venture }
      | _, _ => r

/-! ## The property -/

/-- **An active listing has no selection on record.** -/
def Rows.ReallyOpen (r : Rows) : Prop :=
  r.venture.listingStatus = .active →
    r.venture.selectedPitchId = none ∧ r.venture.selectedCoventureId = none ∧
      (∀ pitch ∈ r.pitches, pitch.status ≠ .dealSelected) ∧
      ∀ application ∈ r.applications, application.status ≠ .selected

instance (r : Rows) : Decidable r.ReallyOpen :=
  inferInstanceAs (Decidable (_ → _ ∧ _ ∧ (∀ pitch ∈ r.pitches, _) ∧ ∀ application ∈ _, _))

/-- The condition on a call: it ends no deal. -/
def Rows.Stands (r : Rows) : ListingCall → Prop
  | .adminRejectDeal d => ∀ txn ∈ r.deals[d]?, txn.dealStatus ≠ .pendingAdminApproval
  | .adminRefund d (some _) =>
    ∀ txn ∈ r.deals[d]?, txn.dealKind = .ventureSale →
      txn.dealStatus = .refunded ∨ txn.escrowStatus = .released ∨ txn.razorpayPaymentId = none
  | _ => True

/-! ### What it is for -/

variable {r : Rows}

/-! ## The mark of a deal -/

/-- Where the selection of a deal is recorded besides `selected_pitch_id`. -/
def Rows.Marked (r : Rows) (txn : Deal) : Prop :=
  match txn.dealKind with
  | .ventureSale => ∃ pitch ∈ r.pitches, pitch.status = .dealSelected
  | .coVenture => r.venture.selectedCoventureId ≠ none

def Rows.Recorded (r : Rows) : Prop := ∀ txn ∈ r.deals, r.Marked txn

variable {r' : Rows} {d : DealId} {txn new : Deal} {v : Venture}

theorem recorded_of_deals_nil (h : r.deals = []) : r.Recorded := by simp [Rows.Recorded, h]

theorem Rows.Marked.mono (h : r.Marked txn)
    (hpitches : (∃ pitch ∈ r.pitches, pitch.status = .dealSelected) →
      ∃ pitch ∈ r'.pitches, pitch.status = .dealSelected)
    (hpartner : r.venture.selectedCoventureId ≠ none → r'.venture.selectedCoventureId ≠ none)
    (hkind : new.dealKind = txn.dealKind) : r'.Marked new := by
  unfold Rows.Marked at h ⊢
  rw [hkind]
  cases hk : txn.dealKind with
  | ventureSale => rw [hk] at h; exact hpitches h
  | coVenture => rw [hk] at h; exact hpartner h

theorem Rows.Recorded.mono (h : r.Recorded) (hdeals : r'.deals = r.deals)
    (hpitches : (∃ pitch ∈ r.pitches, pitch.status = .dealSelected) →
      ∃ pitch ∈ r'.pitches, pitch.status = .dealSelected)
    (hpartner : r.venture.selectedCoventureId ≠ none → r'.venture.selectedCoventureId ≠ none) :
    r'.Recorded := by
  intro txn hmem
  rw [hdeals] at hmem
  exact (h txn hmem).mono hpitches hpartner rfl

theorem Rows.Recorded.saveDeal (h : r.Recorded) (hr : r.deals[d]? = some txn)
    (hkind : new.dealKind = txn.dealKind)
    (hv : v.selectedCoventureId = r.venture.selectedCoventureId) :
    Rows.Recorded { r.saveDeal d new with venture := v } := by
  intro txn' hmem
  rcases List.mem_or_eq_of_mem_set hmem with hmem | rfl
  · exact (h txn' hmem).mono id (hv ▸ id) rfl
  · exact (h txn (List.mem_of_getElem? hr)).mono id (hv ▸ id) hkind

theorem Rows.Recorded.onDeal {f : Deal → Rows} (h : r.Recorded)
    (hf : ∀ txn, r.deals[d]? = some txn → (f txn).Recorded) : (r.onDeal d f).Recorded := by
  unfold Rows.onDeal
  split
  · exact h
  · next hr => exact hf _ hr

/-- **Every call leaves the mark of every deal.** -/
theorem recorded_listingStep (h : r.Recorded) (c : ListingCall) : (listingStep r c).Recorded := by
  cases c with
  | apply applicant =>
    simp only [listingStep]
    split
    · exact h.mono rfl id id
    · exact h
  | updateStatus a owner status =>
    simp only [listingStep]
    split
    · exact h
    · split
      · exact h.mono rfl id id
      · exact h
  | selectPartner a owner pct =>
    simp only [listingStep]
    split
    · exact h
    · split
      · next hok =>
        obtain ⟨rfl, -⟩ := selectPartner_ok hok
        intro txn hmem
        have hcases : txn ∈ r.deals ∨ txn.dealKind = .coVenture := by
          split at hmem
          · exact .inl hmem
          · rcases List.mem_append.mp hmem with hmem | hmem
            · exact .inl hmem
            · rw [List.mem_singleton.mp hmem]
              exact .inr rfl
        rcases hcases with hold | hkind
        · exact (h txn hold).mono id (fun _ => by simp) rfl
        · simp [Rows.Marked, hkind]
      · exact h
  | submitPitch bid =>
    simp only [listingStep]
    split
    · refine h.mono rfl ?_ id
      rintro ⟨pitch, hmem, hstatus⟩
      exact ⟨pitch, List.mem_append_left _ hmem, hstatus⟩
    · exact h
  | finalizeDeal p seller pct =>
    simp only [listingStep]
    split
    · next app _ hpitch =>
      split
      · next new deal hselect hcreate =>
        -- the pitch that is selected is a mark for every sale
        have hmark : ∃ pitch ∈ r.pitches.set p new, pitch.status = .dealSelected := by
          refine ⟨new, List.mem_set (List.getElem?_eq_some_iff.mp hpitch).1 new, ?_⟩
          exact selectPitch_ok hselect
        intro txn hmem
        rcases List.mem_append.mp hmem with hmem | hmem
        · exact (h txn hmem).mono (fun _ => hmark) id rfl
        · rw [List.mem_singleton.mp hmem]
          simpa [Rows.Marked, (createFromPitch_ok hcreate).2.2] using hmark
      · exact h
    · exact h
  | adminApproveDeal d =>
    refine h.onDeal fun txn hr => ?_
    split
    · next hok => exact h.saveDeal hr (by rw [(adminApproveDeal_ok hok).2]) rfl
    · exact h
  | adminRejectDeal d =>
    refine h.onDeal fun txn hr => ?_
    split
    · next hok => exact h.saveDeal hr (by rw [(adminRejectDeal_ok hok).2]) rfl
    · exact h
  | createPaymentOrder d buyer configured order =>
    refine h.onDeal fun txn hr => ?_
    have hkind : ∀ order, (txn.ordered order).dealKind = txn.dealKind := by
      intro order
      unfold Deal.ordered
      split <;> rfl
    split
    · exact h.saveDeal hr (hkind _) rfl
    · split
      · exact h.saveDeal hr (hkind _) rfl
      · exact h
    · exact h
  | verifyPayment d buyer payment order signatureOk linkedElsewhere =>
    simp only [listingStep]
    split
    · exact h
    · refine h.onDeal fun txn hr => ?_
      split
      · next hok => exact h.saveDeal hr (by rw [(verifyPayment_ok hok).2]; rfl) rfl
      · exact h
  | adminReleaseEscrow d profileComplete =>
    refine h.onDeal fun txn hr => ?_
    split
    · next hok =>
      refine h.saveDeal hr (by rw [(adminReleaseEscrow_ok hok).2.2]) ?_
      unfold Venture.released
      split <;> rfl
    · exact h
  | adminRefund d refund =>
    refine h.onDeal fun txn hr => ?_
    split
    · refine h.saveDeal hr rfl ?_
      split <;> rfl
    · exact h

/-! ## One call -/

theorem Rows.ReallyOpen.of_not_active (h : r.venture.listingStatus ≠ .active) : r.ReallyOpen :=
  fun hactive => absurd hactive h

theorem Rows.Marked.not_reallyOpen (h : r.Marked txn) (hv : v = r.venture.reopened) :
    ¬ Rows.ReallyOpen { r.saveDeal d new with venture := v } := by
  rintro hopen
  obtain ⟨-, hpartner, hpitches, -⟩ := hopen (by rw [hv]; rfl)
  unfold Rows.Marked at h
  cases hk : txn.dealKind with
  | ventureSale =>
    rw [hk] at h
    obtain ⟨pitch, hmem, hstatus⟩ := h
    exact hpitches pitch hmem hstatus
  | coVenture =>
    rw [hk] at h
    exact h (by rw [hv] at hpartner; exact hpartner)

theorem reallyOpen_onDeal {f : Deal → Rows} {P : Deal → Prop} (h : r.ReallyOpen)
    (hf : ∀ txn, r.deals[d]? = some txn → ((f txn).ReallyOpen ↔ P txn)) :
    (r.onDeal d f).ReallyOpen ↔ ∀ txn ∈ r.deals[d]?, P txn := by
  unfold Rows.onDeal
  split
  · next hr => simp [hr, h]
  · next txn hr => simp [hr, hf txn hr]

/-- **A listing stays really open just where no deal ends.** -/
theorem reallyOpen_listingStep (hrecorded : r.Recorded) (h : r.ReallyOpen) (c : ListingCall) :
    (listingStep r c).ReallyOpen ↔ r.Stands c := by
  cases c with
  | apply applicant =>
    refine iff_of_true ?_ trivial
    simp only [listingStep]
    split
    · next hok =>
      intro hactive
      obtain ⟨hpitch, hpartner, hpitches, happlications⟩ := h hactive
      refine ⟨hpitch, hpartner, hpitches, fun application hmem => ?_⟩
      rcases List.mem_append.mp hmem with hmem | hmem
      · exact happlications application hmem
      · rw [List.mem_singleton.mp hmem, applyAsPartner_ok hok]
        simp
    · exact h
  | updateStatus a owner status =>
    refine iff_of_true ?_ trivial
    simp only [listingStep]
    split
    · exact h
    · split
      · next hok =>
        intro hactive
        obtain ⟨hpitch, hpartner, hpitches, happlications⟩ := h hactive
        refine ⟨hpitch, hpartner, hpitches, fun application hmem => ?_⟩
        rcases List.mem_or_eq_of_mem_set hmem with hmem | rfl
        · exact happlications application hmem
        · exact updateStatus_ok hok
      · exact h
  | selectPartner a owner pct =>
    refine iff_of_true ?_ trivial
    simp only [listingStep]
    split
    · exact h
    · split
      · next hok =>
        refine .of_not_active ?_
        rw [(selectPartner_ok hok).1]
        simp
      · exact h
  | submitPitch bid =>
    refine iff_of_true ?_ trivial
    simp only [listingStep]
    split
    · next hok _ =>
      intro hactive
      obtain ⟨hpitch, hpartner, hpitches, happlications⟩ := h hactive
      refine ⟨hpitch, hpartner, fun pitch hmem => ?_, happlications⟩
      rcases List.mem_append.mp hmem with hmem | hmem
      · exact hpitches pitch hmem
      · rw [List.mem_singleton.mp hmem, submitPitch_ok hok]
        simp
    · exact h
  | finalizeDeal p seller pct =>
    refine iff_of_true ?_ trivial
    simp only [listingStep]
    split
    · split
      · exact .of_not_active (by simp [Venture.finalized])
      · exact h
    · exact h
  | adminApproveDeal d =>
    refine iff_of_true ?_ trivial
    simp only [listingStep, Rows.onDeal]
    split
    · exact h
    · split <;> exact h
  | adminRejectDeal d =>
    refine reallyOpen_onDeal h fun txn hr => ?_
    have hmark := hrecorded txn (List.mem_of_getElem? hr)
    split
    · next hok =>
      exact iff_of_false (hmark.not_reallyOpen rfl) (not_not.mpr (adminRejectDeal_ok hok).1)
    · next hrefused =>
      refine iff_of_true h fun hpending => ?_
      simp [adminRejectDeal, hpending] at hrefused
  | createPaymentOrder d buyer configured order =>
    refine iff_of_true ?_ trivial
    simp only [listingStep, Rows.onDeal]
    split
    · exact h
    · split
      · exact h
      · split <;> exact h
      · exact h
  | verifyPayment d buyer payment order signatureOk linkedElsewhere =>
    refine iff_of_true ?_ trivial
    simp only [listingStep, Rows.onDeal]
    split
    · exact h
    · split
      · exact h
      · split <;> exact h
  | adminReleaseEscrow d profileComplete =>
    refine iff_of_true ?_ trivial
    simp only [listingStep, Rows.onDeal]
    split
    · exact h
    · split
      · unfold Venture.released
        split
        · exact .of_not_active (by simp)
        · exact h
      · exact h
  | adminRefund d refund =>
    cases refund with
    | none =>
      refine iff_of_true ?_ trivial
      simp only [listingStep, Rows.onDeal]
      split
      · exact h
      · split <;> simp_all
    | some id =>
      refine reallyOpen_onDeal h fun txn hr => ?_
      have hmark := hrecorded txn (List.mem_of_getElem? hr)
      split
      · next payment _ hok hrefund =>
        obtain ⟨hstatus, hescrow, hpayment⟩ := adminRefund_ok hok
        by_cases hkind : txn.dealKind = .ventureSale
        · refine iff_of_false (hmark.not_reallyOpen (if_pos hkind)) ?_
          simp [hkind, hstatus, hescrow, hpayment]
        · refine iff_of_true ?_ fun hsale => absurd hsale hkind
          rw [if_neg hkind]
          exact h
      · next hrefused =>
        refine iff_of_true h fun _ => ?_
        by_contra hgo
        simp only [not_or] at hgo
        obtain ⟨hstatus, hescrow, hpayment⟩ := hgo
        obtain ⟨payment, hpayment⟩ := Option.ne_none_iff_exists'.mp hpayment
        exact hrefused payment id (adminRefund_of hstatus hescrow hpayment) rfl

/-! ## Runs -/

/-- **A listing is really open whenever it is active, throughout just the runs in which no deal
falls through.** -/
theorem reallyOpen_iff (r : Rows) (hrecorded : r.Recorded) (h : r.ReallyOpen)
    (cs : List ListingCall) :
    (∀ pre, pre <+: cs → (Run.exec listingStep r pre).ReallyOpen) ↔
      Run.Meets listingStep Rows.Stands r cs :=
  Run.throughout_iff (I := Rows.Recorded) (fun _ c hrecorded h =>
    ⟨recorded_listingStep hrecorded c, reallyOpen_listingStep hrecorded h c⟩) hrecorded h

/-! ## Rejected deals -/

/-- A new listing of user 1, with a price of 500 rupees. -/
def newListing (mode : ListingMode) : Rows where
  venture := ⟨some 1, true, true, mode, .active, true, false, some 500, none, none⟩
  pitches := []
  applications := []
  deals := []

/-- The sale to user 2 is rejected. -/
def rejectedBid : List ListingCall :=
  [.submitPitch ⟨2, 1000, 100, true⟩, .finalizeDeal 0 1 10, .adminRejectDeal 0]

/-- Users 2 and 3 apply, and the partnership with user 2 is rejected. -/
def rejectedPartner : List ListingCall :=
  [.apply 2, .apply 3, .selectPartner 0 1 10, .adminRejectDeal 0]

/-- **The listing is active and the selection stands**: the seller cannot choose the bidder again, who
cannot bid again, and cannot choose any partner. -/
theorem rejected_selection_stands :
    (let r := Run.exec listingStep (newListing .venture) rejectedBid;
      ¬ r.ReallyOpen ∧ listingStep r (.finalizeDeal 0 1 10) = r ∧
        listingStep r (.submitPitch ⟨2, 2000, 100, true⟩) = r) ∧
    (let r := Run.exec listingStep (newListing .coVenture) rejectedPartner;
      ¬ r.ReallyOpen ∧ listingStep r (.selectPartner 0 1 10) = r ∧
        listingStep r (.selectPartner 1 1 10) = r) := by
  decide +kernel

theorem reallyOpen_rejectedBid :
    (∀ pre, pre <+: rejectedBid →
        (Run.exec listingStep (newListing .venture) pre).ReallyOpen) ↔
      Run.Meets listingStep Rows.Stands (newListing .venture) rejectedBid :=
  reallyOpen_iff _ (recorded_of_deals_nil rfl) (by decide) rejectedBid

end Deltapreneur.VentureDeals
