import Deltapreneur.Venture.Locks

/-!
# One live deal for a venture

When a venture has at most one live deal, is listed only without one, and cancels no deal that was
paid.

A listing gets a deal under its lock. What goes wrong is what is decided without one: approval,
rejection and refund write a deal, and the last two reopen the listing, by the deal as they read it
some statements ago.

* `Rows.OneDeal`: the property of the committed rows.
* `World.InTime`: the condition on a statement.

Results:

* `oneDeal_iff`: so do the runs of any number of calls.
* `late_rejection_cancels_paid_deal`: a deal that was approved and paid after it was read.
-/

namespace Deltapreneur.VentureDeals

open Razorpay UnitOfWork

/-! ## The property -/

/-- The statuses of which a venture has one deal at most. -/
def Deal.live (txn : Deal) : Bool :=
  txn.dealStatus ∈ [.pendingAdminApproval, .pendingPayment, .paymentHeld, .completed]

/-- No deal is live. -/
def Rows.Free (r : Rows) : Prop := ∀ txn ∈ r.deals, txn.live = false

/-- **At most one deal is live, the listing is active only if none is, and no deal with a payment
is cancelled.** -/
structure Rows.OneDeal (r : Rows) : Prop where
  unique : ∀ (i j : DealId) (a b : Deal), r.deals[i]? = some a → r.deals[j]? = some b →
    a.live → b.live → i = j
  active : r.venture.listingStatus = .active → r.Free
  paid : ∀ txn ∈ r.deals, txn.razorpayPaymentId ≠ none → txn.dealStatus ≠ .cancelled

/-! ## The condition -/

/-- The deal is live, or none is. -/
def Rows.Settles (r : Rows) (row : Deal) : Prop := row.live ∨ r.Free

/-- The condition on a statement: what `admin_approve_deal`, `admin_reject_deal` and `admin_refund`
find when they commit. -/
def World.InTime (w : World) : Label → Prop
  | .call _ _ => True
  | .next k =>
    match w.calls k with
    | .approving d _ _ => w.dealLock d = none → ∀ row ∈ w.rows.deals[d]?,
        row.live ∨ (w.rows.Free ∧ w.rows.venture.listingStatus ≠ .active)
    | .reopening d _ new reopens listing =>
      ¬ (reopens ∧ listing.reopened ≠ listing ∧ w.ventureLock ≠ none) →
        ∀ row ∈ w.rows.deals[d]?,
          (new.dealStatus = .cancelled → row.razorpayPaymentId = none) ∧
            (reopens ∧ listing.listingStatus ≠ .active → row.live ∨ w.rows.Free)
    | _ => True

/-! ## A change of the rows -/

variable {r r' : Rows} {d : DealId} {row loaded new : Deal} {f : Deal → Deal} {payment : PaymentId}

/-- Where a deal's row settles the matter, no other deal is live. -/
theorem settles_iff (h : r.OneDeal) (hrow : r.deals[d]? = some row) :
    r.Settles row ↔ ∀ j ≠ d, ∀ txn, r.deals[j]? = some txn → txn.live = false := by
  constructor
  · rintro (hlive | hfree) j hj txn htxn
    · by_contra hne
      exact hj (h.unique j d txn row htxn hrow (by simpa using hne) hlive)
    · exact hfree txn (List.mem_of_getElem? htxn)
  · intro hothers
    by_cases hlive : row.live
    · exact .inl hlive
    · refine .inr fun txn htxn => ?_
      obtain ⟨j, hj⟩ := List.getElem?_of_mem htxn
      by_cases hjd : j = d
      · subst hjd
        cases hrow.symm.trans hj
        simpa using hlive
      · exact hothers j hjd txn hj

theorem forall_mem_modify {P : Deal → Prop} (hrow : r.deals[d]? = some row) :
    (∀ txn ∈ r.deals.modify d f, P txn) ↔
      P (f row) ∧ ∀ j ≠ d, ∀ txn, r.deals[j]? = some txn → P txn := by
  constructor
  · intro h
    refine ⟨h _ (List.mem_of_getElem? (getElem?_modify_self hrow)), fun j hj txn htxn => ?_⟩
    exact h txn (List.mem_of_getElem? ((getElem?_modify_other hj).trans htxn))
  · rintro ⟨hself, hothers⟩ txn htxn
    obtain ⟨j, hj⟩ := List.getElem?_of_mem htxn
    by_cases hjd : j = d
    · subst hjd
      rw [getElem?_modify_self hrow] at hj
      exact Option.some.inj hj ▸ hself
    · exact hothers j hjd txn ((getElem?_modify_other hjd).symm.trans hj)

/-- **What a change of one deal does to the property.** -/
theorem oneDeal_setDeal (h : r.OneDeal) (hrow : r.deals[d]? = some row)
    (hdeals : r'.deals = r.deals.modify d f) :
    r'.OneDeal ↔
      ((f row).live → r.Settles row) ∧
      (r'.venture.listingStatus = .active → (f row).live = false ∧ r.Settles row) ∧
      ((f row).razorpayPaymentId ≠ none → (f row).dealStatus ≠ .cancelled) := by
  rw [settles_iff h hrow]
  constructor
  · intro h'
    refine ⟨fun hlive j hj txn htxn => ?_, fun hactive => ?_, ?_⟩
    · by_contra hne
      refine hj (h'.unique j d txn (f row) ?_ ?_ (by simpa using hne) hlive)
      · rw [hdeals, getElem?_modify_other hj, htxn]
      · rw [hdeals, getElem?_modify_self hrow]
    · have hfree := h'.active hactive
      rw [Rows.Free, hdeals] at hfree
      exact (forall_mem_modify hrow).mp hfree
    · have hpaid := h'.paid
      rw [hdeals] at hpaid
      exact ((forall_mem_modify hrow).mp hpaid).1
  · rintro ⟨hunique, hactive, hpaid⟩
    refine ⟨fun i j a b ha hb hla hlb => ?_, fun hlisted => ?_, ?_⟩
    · rw [hdeals] at ha hb
      by_cases hi : i = d
      · by_cases hj : j = d
        · rw [hi, hj]
        · subst hi
          rw [getElem?_modify_self hrow, Option.some.injEq] at ha
          rw [getElem?_modify_other hj] at hb
          have hdead := hunique (ha ▸ hla) j hj b hb
          simp [hdead] at hlb
      · rw [getElem?_modify_other hi] at ha
        by_cases hj : j = d
        · subst hj
          rw [getElem?_modify_self hrow, Option.some.injEq] at hb
          have hdead := hunique (hb ▸ hlb) i hi a ha
          simp [hdead] at hla
        · rw [getElem?_modify_other hj] at hb
          exact h.unique i j a b ha hb hla hlb
    · rw [Rows.Free, hdeals]
      exact (forall_mem_modify hrow).mpr (hactive hlisted)
    · rw [hdeals]
      exact (forall_mem_modify hrow).mpr
        ⟨hpaid, fun j _ txn htxn => h.paid txn (List.mem_of_getElem? htxn)⟩

theorem Rows.OneDeal.setDeal (h : r.OneDeal) (hrow : r.deals[d]? = some row)
    (hdeals : r'.deals = r.deals.modify d f)
    (hactive : r'.venture.listingStatus = .active → r.venture.listingStatus = .active)
    (hlive : (f row).live → row.live)
    (hpaid : (f row).razorpayPaymentId ≠ none → (f row).dealStatus ≠ .cancelled) :
    r'.OneDeal := by
  refine (oneDeal_setDeal h hrow hdeals).mpr ⟨fun hl => .inl (hlive hl), fun ha => ?_, hpaid⟩
  have hfree := h.active (hactive ha)
  have hdead := hfree row (List.mem_of_getElem? hrow)
  exact ⟨by simpa [hdead] using hlive, .inr hfree⟩

theorem Rows.OneDeal.same (h : r.OneDeal) (hdeals : r'.deals = r.deals)
    (hactive : r'.venture.listingStatus = .active → r.venture.listingStatus = .active) :
    r'.OneDeal :=
  ⟨hdeals ▸ h.unique, fun ha => by rw [Rows.Free, hdeals]; exact h.active (hactive ha),
    hdeals ▸ h.paid⟩

/-- A new deal on an active listing. -/
theorem oneDeal_finalize {p : PitchId} {loaded new : Pitch} {deal : Deal} (h : r.OneDeal)
    (hactive : r.venture.listingStatus = .active) (hpayment : deal.razorpayPaymentId = none) :
    (r.finalize p loaded new deal).OneDeal := by
  have hfree := h.active hactive
  have hlast : ∀ (i : Nat) (a : Deal), (r.deals ++ [deal])[i]? = some a → a.live →
      i = r.deals.length := by
    intro i a ha hlive
    by_contra hne
    by_cases hlt : i < r.deals.length
    · rw [List.getElem?_append_left hlt] at ha
      simp [hfree a (List.mem_of_getElem? ha)] at hlive
    · have hlen := (List.getElem?_eq_some_iff.mp ha).1
      rw [List.length_append, List.length_singleton] at hlen
      omega
  refine ⟨fun i j a b ha hb hla hlb => ?_, fun hlisted => ?_, fun txn htxn => ?_⟩
  · rw [hlast i a ha hla, hlast j b hb hlb]
  · cases hlisted
  · rcases List.mem_append.mp htxn with htxn | htxn
    · exact h.paid txn htxn
    · obtain rfl := List.mem_singleton.mp htxn
      exact fun hne => absurd hpayment hne

/-! ## Statements -/

variable {w : World} {k : Nat}

theorem live_of_status {txn : Deal} (h : txn.dealStatus = .pendingPayment ∨
    txn.dealStatus = .paymentHeld) : txn.live := by
  rcases h with h | h <;> simp [Deal.live, h]

theorem rows_decide (p : PitchId) (decision : Pitch → Except AppException Pitch) :
    (w.decide k p decision).rows = w.rows := by
  unfold World.decide
  split
  · rfl
  · split <;> rfl

/-- The first statement of a call writes nothing. -/
theorem rows_start (op : Op) : (w.start k op).rows = w.rows := by
  cases op with
  | submitPitch bid => simp only [World.start]; split <;> rfl
  | sellerAccept p seller => exact rows_decide p _
  | sellerReject p seller => exact rows_decide p _
  | buyerWithdraw p buyer => exact rows_decide p _
  | finalizeDeal p seller pct => simp only [World.start]; split <;> rfl
  | closeListing actor admin =>
    simp only [World.start]
    split
    · split_ifs <;> rfl
    · rfl
  | adminApproveDeal d | adminRejectDeal d | adminReleaseEscrow d profileComplete
    | adminRefund d net =>
    simp only [World.start]
    split
    · first | rfl | (split <;> rfl)
    · first | rfl | (split <;> rfl)
  | createPaymentOrder d buyer configured order =>
    simp only [World.start]
    split
    · rfl
    · split
      · rfl
      · split_ifs <;> rfl
      · rfl
  | verifyPayment d buyer payment order signatureOk elsewhere =>
    simp only [World.start]
    split_ifs <;> rfl

theorem rows_callRazorpay {net : RefundNetwork} :
    (w.callRazorpay k d loaded payment net).rows = w.rows := by
  unfold World.callRazorpay
  dsimp only
  split <;> rfl

/-- `admin_approve_deal` commits. -/
theorem oneDeal_approve (h : r.OneDeal) (hrow : r.deals[d]? = some row)
    (hok : adminApproveDeal loaded = .ok new) :
    (r.setDeal d (Deal.flush loaded new)).OneDeal ↔
      row.live ∨ (r.Free ∧ r.venture.listingStatus ≠ .active) := by
  obtain ⟨hstatus, rfl⟩ := adminApproveDeal_ok hok
  have hflush : Deal.flush loaded { loaded with dealStatus := .pendingPayment } row =
      { row with dealStatus := .pendingPayment } := by
    simp [Deal.flush, flushColumn, hstatus]
  rw [oneDeal_setDeal h hrow rfl, hflush]
  have hlive : Deal.live { row with dealStatus := .pendingPayment } = true :=
    live_of_status (.inl rfl)
  simp only [hlive, Rows.setDeal, Rows.Settles]
  constructor
  · rintro ⟨hsettles, hactive, -⟩
    rcases hsettles trivial with hl | hfree
    · exact .inl hl
    · exact .inr ⟨hfree, fun ha => absurd (hactive ha).1 (by simp)⟩
  · rintro (hl | ⟨hfree, hclosed⟩)
    · refine ⟨fun _ => .inl hl, fun ha => ?_, by simp⟩
      simp [h.active ha row (List.mem_of_getElem? hrow)] at hl
    · exact ⟨fun _ => .inr hfree, fun ha => absurd ha hclosed, by simp⟩

/-- `create_payment_order` commits. -/
theorem oneDeal_order (h : r.OneDeal) (hrow : r.deals[d]? = some row) (order : OrderId) :
    (r.setDeal d (Deal.flush loaded (loaded.ordered order))).OneDeal := by
  have hpaid := h.paid row (List.mem_of_getElem? hrow)
  by_cases hgross : loaded.grossAmountInr ≤ 0
  · by_cases hstatus : loaded.dealStatus = .inProgress
    · refine h.setDeal hrow rfl id ?_ ?_
      · simp [Deal.ordered, hgross, Deal.flush, Deal.live, flushColumn, hstatus]
      · simpa [Deal.ordered, hgross, Deal.flush, flushColumn, hstatus] using hpaid
    · refine h.setDeal hrow rfl id ?_ ?_
      · simp [Deal.ordered, hgross, Deal.flush, Deal.live, flushColumn, Ne.symm hstatus]
      · simp [Deal.ordered, hgross, Deal.flush, flushColumn, Ne.symm hstatus]
  · refine h.setDeal hrow rfl id ?_ ?_
    · simp [Deal.ordered, hgross, Deal.flush, Deal.live, flushColumn]
    · simpa [Deal.ordered, hgross, Deal.flush, flushColumn] using hpaid

/-- `verify_payment` commits the deal that it has locked. -/
theorem oneDeal_pay {buyer : UserId} {order : OrderId} {signatureOk : Bool} (h : r.OneDeal)
    (hrow : r.deals[d]? = some row)
    (hok : verifyPayment row buyer payment order signatureOk = .ok (some new)) :
    (r.setDeal d (Deal.flush row new)).OneDeal := by
  obtain ⟨hstatus, rfl⟩ := verifyPayment_ok hok
  refine h.setDeal hrow rfl id (fun _ => live_of_status (.inl hstatus)) ?_
  simp [Deal.flush, Deal.paidBy]

/-- `admin_release_escrow` commits the deal that it has locked. -/
theorem oneDeal_release {listing : Venture} {profileComplete : Bool} (h : r.OneDeal)
    (hrow : r.deals[d]? = some row) (hok : adminReleaseEscrow row profileComplete = .ok new) :
    (r.release d row new listing).OneDeal := by
  obtain ⟨hstatus, -, rfl⟩ := adminReleaseEscrow_ok hok
  refine h.setDeal hrow rfl ?_ (fun _ => live_of_status (.inr hstatus)) ?_
  · simp only [Rows.release, Venture.released, Venture.flush, flushColumn]
    split_ifs <;> simp_all
  · simp [Deal.flush]

/-- What `admin_reject_deal` and `admin_refund` write. -/
theorem flush_ends {reopens : Bool} (row : Deal) (hends : Ends loaded new reopens) :
    (Deal.flush loaded new row).razorpayPaymentId = row.razorpayPaymentId ∧
      (Deal.flush loaded new row).dealStatus = new.dealStatus ∧
      (new.dealStatus = .cancelled ∨ new.dealStatus = .refunded) := by
  rcases hends with ⟨hok, -⟩ | ⟨⟨payment, id, hok, rfl⟩, -⟩
  · obtain ⟨hstatus, rfl⟩ := adminRejectDeal_ok hok
    exact ⟨by simp [Deal.flush], by simp [Deal.flush, flushColumn, hstatus], .inl rfl⟩
  · have hne := (adminRefund_ok hok).1
    exact ⟨by simp [Deal.flush, Deal.refunded],
      by simp [Deal.flush, Deal.refunded, flushColumn, Ne.symm hne], .inr rfl⟩

/-- `admin_reject_deal` or `admin_refund` commits. -/
theorem oneDeal_endDeal {reopens : Bool} {listing : Venture} (h : r.OneDeal)
    (hrow : r.deals[d]? = some row) (hends : Ends loaded new reopens) :
    (r.endDeal d loaded new reopens listing).OneDeal ↔
      (new.dealStatus = .cancelled → row.razorpayPaymentId = none) ∧
        (reopens ∧ listing.listingStatus ≠ .active → row.live ∨ r.Free) := by
  obtain ⟨hpayment, hstatus, hend⟩ := flush_ends row hends
  have hdead : (Deal.flush loaded new row).live = false := by
    rw [Deal.live, hstatus]
    rcases hend with hend | hend <;> simp [hend]
  have hlisting : (r.endDeal d loaded new reopens listing).venture.listingStatus = .active ↔
      r.venture.listingStatus = .active ∨ (reopens ∧ listing.listingStatus ≠ .active) := by
    cases reopens with
    | false => simp [Rows.endDeal]
    | true =>
      by_cases hl : listing.listingStatus = .active
      · simp [Rows.endDeal, Venture.flush, Venture.reopened, hl]
      · simp [Rows.endDeal, Venture.flush, Venture.reopened, flushColumn_changed (Ne.symm hl), hl]
  rw [oneDeal_setDeal h hrow rfl, hpayment, hstatus, hlisting, hdead]
  constructor
  · rintro ⟨-, hactive, hpaid⟩
    refine ⟨fun hcancelled => ?_, fun hopens => (hactive (.inr hopens)).2⟩
    by_contra hne
    exact hpaid hne hcancelled
  · rintro ⟨hpaid, hactive⟩
    refine ⟨by simp, ?_, fun hne hcancelled => hne (hpaid hcancelled)⟩
    rintro (ha | hopens)
    · exact ⟨rfl, .inr (h.active ha)⟩
    · exact ⟨rfl, hactive hopens⟩

theorem oneDeal_iff_of_rows {w' : World} {P : Prop} (h : w.rows.OneDeal) (hrows : w'.rows = w.rows)
    (hP : P) : w'.rows.OneDeal ↔ P :=
  ⟨fun _ => hP, fun _ => hrows ▸ h⟩

/-- **A statement keeps the property just where it is in time.** -/
theorem next_oneDeal_iff (hheld : w.Held) (h : w.rows.OneDeal) :
    (w.next k (w.calls k)).rows.OneDeal ↔ w.InTime (.next k) := by
  have hc := hheld k
  have hrow : ∀ {d : Nat}, d < w.rows.deals.length → ∃ row, w.rows.deals[d]? = some row :=
    fun hlt => ⟨_, List.getElem?_eq_getElem hlt⟩
  simp only [World.InTime]
  cases hcall : w.calls k with
  | idle => exact oneDeal_iff_of_rows h rfl trivial
  | submitting bid =>
    refine ⟨fun _ => trivial, fun _ => ?_⟩
    simp only [World.next]
    split
    · exact h.same rfl id
    · exact h
  | deciding p loaded new => exact ⟨fun _ => trivial, fun _ => h.same rfl id⟩
  | finalizing p pct =>
    refine oneDeal_iff_of_rows h ?_ trivial
    simp only [World.next]
    split
    · rfl
    · split <;> rfl
  | selecting p loaded new deal =>
    rw [hcall] at hc
    exact ⟨fun _ => trivial, fun _ => oneDeal_finalize h hc.1.2 hc.2.2⟩
  | closing => exact ⟨fun _ => trivial, fun _ => h.same rfl fun ha => by cases ha⟩
  | approving d loaded new =>
    rw [hcall] at hc
    obtain ⟨row, hr⟩ := hrow hc.1
    simp only [World.next]
    by_cases hfree : w.dealLock d = none
    · rw [if_pos hfree]
      exact (oneDeal_approve h hr hc.2).trans (by simp [hfree, hr])
    · rw [if_neg hfree]
      exact oneDeal_iff_of_rows h rfl fun hfree' => absurd hfree' hfree
  | ordering d loaded new =>
    rw [hcall] at hc
    obtain ⟨hlt, order, rfl⟩ := hc
    obtain ⟨row, hr⟩ := hrow hlt
    refine ⟨fun _ => trivial, fun _ => ?_⟩
    simp only [World.next]
    split_ifs
    · exact oneDeal_order h hr order
    · exact h
  | verifying d buyer payment order signatureOk =>
    refine oneDeal_iff_of_rows h ?_ trivial
    simp only [World.next]
    split_ifs
    · split
      · rfl
      · split <;> rfl
    · rfl
  | paying d loaded new =>
    rw [hcall] at hc
    obtain ⟨⟨-, hr⟩, buyer, payment, order, signatureOk, hok⟩ := hc
    refine ⟨fun _ => trivial, fun _ => ?_⟩
    simp only [World.next]
    split
    · exact h
    · exact oneDeal_pay h hr hok
  | releasing d loaded new listing =>
    rw [hcall] at hc
    obtain ⟨⟨-, hr⟩, profileComplete, hok⟩ := hc
    refine ⟨fun _ => trivial, fun _ => ?_⟩
    simp only [World.next]
    split
    · exact h
    · exact oneDeal_release h hr hok
  | refunding d loaded payment net => exact oneDeal_iff_of_rows h rows_callRazorpay trivial
  | ending d loaded new reopens =>
    refine oneDeal_iff_of_rows h ?_ trivial
    simp only [World.next]
    split_ifs <;> rfl
  | reopening d loaded new reopens listing =>
    rw [hcall] at hc
    obtain ⟨row, hr⟩ := hrow hc.2.1
    simp only [World.next]
    by_cases hwait : reopens ∧ listing.reopened ≠ listing ∧ w.ventureLock ≠ none
    · rw [if_pos hwait]
      exact oneDeal_iff_of_rows h rfl fun hgo => absurd hwait hgo
    · rw [if_neg hwait]
      exact (oneDeal_endDeal h hr hc.2.2).trans (by simp [hwait, hr])

theorem step_oneDeal_iff (hheld : w.Held) (h : w.rows.OneDeal) (l : Label) :
    (step w l).rows.OneDeal ↔ w.InTime l := by
  cases l with
  | call k op =>
    refine oneDeal_iff_of_rows h ?_ trivial
    simp only [step]
    split
    · exact rows_start op
    · rfl
  | next k => exact next_oneDeal_iff hheld h

/-! ## Runs -/

/-- **A venture has one live deal at most, in every state of a run, just where every statement is
in time.** -/
theorem oneDeal_iff (rows : Rows) (payments : PaymentId → Payment) (h : rows.OneDeal)
    (ls : List Label) :
    (∀ pre, pre <+: ls → (Run.exec step (World.init rows payments) pre).rows.OneDeal) ↔
      Run.Meets step World.InTime (World.init rows payments) ls := by
  refine Run.throughout_iff (I := World.Held) (P := fun w => w.rows.OneDeal) (fun w l hheld hone => ?_)
    (held_init rows payments) h
  exact ⟨held_step hheld l, step_oneDeal_iff hheld hone l⟩

/-! ## A rejection that comes late -/

def openListing : Rows where
  venture := ⟨some 1, true, true, .venture, .active, true, false, none, none, none⟩
  pitches := []
  applications := []
  deals := []

/-- Call 2 has read the deal when call 3 approves it; the buyer pays, and call 2 rejects. -/
def lateRejection : List Label :=
  [.call 0 (.submitPitch ⟨2, 1000, 100, true⟩), .next 0,
    .call 1 (.finalizeDeal 0 1 0), .next 1, .next 1,
    .call 2 (.adminRejectDeal 0),
    .call 3 (.adminApproveDeal 0), .next 3,
    .call 4 (.createPaymentOrder 0 2 true (some 7)), .next 4,
    .call 5 (.verifyPayment 0 2 8 7 true false), .next 5, .next 5,
    .next 2, .next 2]

/-- **A deal that was approved and paid is cancelled.** -/
theorem late_rejection_cancels_paid_deal :
    (Run.exec step (World.init openListing fun _ => .fresh 100000) lateRejection).Quiet ∧
      ¬ (Run.exec step (World.init openListing fun _ => .fresh 100000)
        lateRejection).rows.OneDeal := by
  constructor
  · intro k
    rcases k with _ | _ | _ | _ | _ | _ | k <;> rfl
  · have hcancelled : ¬ ∀ txn ∈ (Run.exec step (World.init openListing fun _ => .fresh 100000)
        lateRejection).rows.deals, txn.razorpayPaymentId ≠ none →
          txn.dealStatus ≠ .cancelled := by
      decide +kernel
    exact fun h => hcancelled h.paid

theorem oneDeal_openListing : openListing.OneDeal :=
  ⟨by simp [openListing], fun _ => by simp [Rows.Free, openListing], by simp [openListing]⟩

theorem oneDeal_lateRejection :
    (∀ pre, pre <+: lateRejection →
        (Run.exec step (World.init openListing fun _ => .fresh 100000) pre).rows.OneDeal) ↔
      Run.Meets step World.InTime (World.init openListing fun _ => .fresh 100000) lateRejection :=
  oneDeal_iff openListing _ oneDeal_openListing lateRejection

end Deltapreneur.VentureDeals
