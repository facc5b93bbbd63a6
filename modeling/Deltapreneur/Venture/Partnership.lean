import Deltapreneur.Venture.Deals

/-!
# Co-venture partnerships

What `apply`, `update_status` and `select_partner` (`partnership_service.py`) check of a listing and
an application, the deal that `create_from_coventure` makes of them, and how
`_sync_coventure_deal_pricing` aligns its price with the listing (`venture_deal_service.py`).
-/

namespace Deltapreneur.VentureDeals

/-! ## Applications -/

/-- `apply`: the application that it inserts. -/
def applyAsPartner (venture : Venture) (applied : Bool) (applicant : UserId) :
    Except AppException CoVenture :=
  if applied then raise "You have already applied to this venture." 409
  else if venture.listedByUserId = some applicant then
    raise "You cannot apply to your own venture." 400
  else if ¬ venture.onDisplay then raise "This venture is not accepting applications." 400
  else if venture.listingMode ≠ .coVenture then
    raise "This listing is not open for co-venture applications." 400
  else if ¬ venture.approved then
    raise "This venture is not available for applications yet." 400
  else if venture.listingStatus ≠ .active then
    raise "This venture is no longer accepting applications." 400
  else .ok ⟨applicant, .pending⟩

/-- `update_status`; `none` is a text that is no status. -/
def updateStatus (venture : Venture) (application : CoVenture) (owner : UserId)
    (status : Option CoVentureStatus) : Except AppException CoVenture :=
  if venture.listedByUserId ≠ some owner then
    raise "Only the venture owner can update application status." 403
  else
    match status with
    | none => raise "Invalid status value." 400
    | some .selected => raise "Use the select-partner action to finalize a partnership." 400
    | some status => .ok { application with status }

/-- `select_partner` on the listing and the application. -/
def selectPartner (venture : Venture) (id : ApplicationId) (application : CoVenture)
    (owner : UserId) : Except AppException (Venture × CoVenture) :=
  if venture.listedByUserId ≠ some owner then
    raise "Only the venture owner can select a partner." 403
  else if venture.listingMode ≠ .coVenture then
    raise "Partner selection is only available on co-venture listings." 400
  else if application.status ∉ [.pending, .approved] then
    raise "This application cannot be selected in its current state." 400
  else if venture.listingStatus ∉ [.active, .partnershipFinalized] then
    raise "Listing is not active." 400
  else if venture.selectedCoventureId.isSome ∧ venture.selectedCoventureId ≠ some id then
    raise "A partner has already been selected for this venture." 409
  else .ok (
    { venture with selectedCoventureId := some id, listingStatus := .partnershipFinalized },
    { application with status := .selected })

/-! ## Deals -/

/-- `coventure_gross_amount_inr`. -/
def coventureGrossAmountInr (venture : Venture) : ℚ :=
  match venture.dealValue with
  | none => 0
  | some value => if 0 < value then value else 0

/-- `create_from_coventure`. -/
def createFromCoventure (venture : Venture) (id : ApplicationId) (application : CoVenture)
    (commissionPct : ℚ) : Deal :=
  let gross := coventureGrossAmountInr venture
  { buyerId := application.applicantUserId
    pitchId := none
    coVentureApplicationId := some id
    dealKind := .coVenture
    dealStatus := if 0 < gross then .pendingAdminApproval else .inProgress
    escrowStatus := .held
    grossAmountInr := gross
    sellerPayoutInr := if 0 < gross then sellerPayout gross commissionPct else 0
    razorpayOrderId := none
    razorpayPaymentId := none
    razorpayRefundId := none }

/-- The statuses of `get_open_for_venture_and_buyer`. -/
def DealStatus.isOpen : DealStatus → Bool
  | .pendingAdminApproval | .pendingPayment | .paymentHeld | .inProgress => true
  | _ => false

/-- `get_open_for_venture_and_buyer`. -/
def Rows.hasOpenDeal (r : Rows) (buyer : UserId) : Bool :=
  r.deals.any fun txn => txn.buyerId = buyer ∧ txn.dealStatus.isOpen

/-- `_sync_coventure_deal_pricing`. -/
def syncCoventureDealPricing (venture : Venture) (txn : Deal) (commissionPct : ℚ) : Deal :=
  let listedGross := coventureGrossAmountInr venture
  if txn.dealKind ≠ .coVenture then txn
  else if txn.dealStatus ∈ [.completed, .cancelled, .refunded, .paymentHeld] then txn
  else if listedGross ≤ 0 then txn
  else
    let txn :=
      if txn.grossAmountInr ≠ listedGross then
        { txn with
          grossAmountInr := listedGross
          sellerPayoutInr := sellerPayout listedGross commissionPct }
      else txn
    if txn.dealStatus = .inProgress then { txn with dealStatus := .pendingAdminApproval } else txn

/-! ## What a call has checked -/

variable {venture venture' : Venture} {application new : CoVenture} {applied : Bool}
  {applicant owner : UserId} {id : ApplicationId}

theorem applyAsPartner_ok (h : applyAsPartner venture applied applicant = .ok new) :
    new = ⟨applicant, .pending⟩ := by
  simp only [applyAsPartner, ite_raise_eq_ok, Except.ok.injEq] at h
  exact h.2.2.2.2.2.2.symm

theorem updateStatus_ok {status : Option CoVentureStatus}
    (h : updateStatus venture application owner status = .ok new) : new.status ≠ .selected := by
  unfold updateStatus at h
  rw [ite_raise_eq_ok] at h
  obtain ⟨-, h⟩ := h
  split at h
  · simp at h
  · simp at h
  · next hne =>
    cases h
    exact hne

theorem selectPartner_ok
    (h : selectPartner venture id application owner = .ok (venture', new)) :
    venture' = { venture with
        selectedCoventureId := some id
        listingStatus := .partnershipFinalized } ∧
      new = { application with status := .selected } := by
  simp only [selectPartner, ite_raise_eq_ok, Except.ok.injEq, Prod.mk.injEq] at h
  exact ⟨h.2.2.2.2.2.1.symm, h.2.2.2.2.2.2.symm⟩

end Deltapreneur.VentureDeals
