import Deltapreneur.Venture.Desk

/-!
# What a call in flight holds

A verification of a payment and a release lock the deal they read, so the row stays as they have read
it until they commit; pitches, finalizations and closings lock the venture. A rejection or a refund
locks the deal by its UPDATE only. What a call is about to write comes from the object it has read.

* `Call.Holds w k c`: the locks of call `k` at `c`, and where its objects come from.
* `World.Kept w k w'`: a step of call `k` keeps the locks of the others and the rows under them.

Results:

* `kept_step`, `held_step`, `rows_held`: every statement leaves every call what it holds.
-/

namespace Deltapreneur.VentureDeals

open Razorpay

/-! ## What a call holds -/

/-- `new` is the rejected or the refunded deal. -/
def Ends (loaded new : Deal) (reopens : Bool) : Prop :=
  (adminRejectDeal loaded = .ok new ∧ reopens = true) ∨
    (∃ payment id, adminRefund loaded = .ok (some payment) ∧ new = loaded.refunded id) ∧
      reopens = decide (loaded.dealKind = .ventureSale)

/-- The locks of call `k`, with the rows under them, and where the objects come from. -/
def Call.Holds (w : World) (k : Nat) : Call → Prop
  | .idle | .deciding _ _ _ | .verifying _ _ _ _ _ => True
  | .submitting _ | .closing => w.ventureLock = some k
  | .finalizing _ _ => w.ventureLock = some k ∧ w.rows.venture.listingStatus = .active
  | .selecting _ _ _ deal =>
    (w.ventureLock = some k ∧ w.rows.venture.listingStatus = .active) ∧
      deal.dealStatus = .pendingAdminApproval ∧ deal.razorpayPaymentId = none
  | .approving d loaded new => d < w.rows.deals.length ∧ adminApproveDeal loaded = .ok new
  | .ordering d loaded new => d < w.rows.deals.length ∧ ∃ order, new = loaded.ordered order
  | .paying d loaded new =>
    (w.dealLock d = some k ∧ w.rows.deals[d]? = some loaded) ∧
      ∃ buyer payment order signatureOk,
        verifyPayment loaded buyer payment order signatureOk = .ok (some new)
  | .releasing d loaded new _ =>
    (w.dealLock d = some k ∧ w.rows.deals[d]? = some loaded) ∧
      ∃ profileComplete, adminReleaseEscrow loaded profileComplete = .ok new
  | .refunding d loaded payment _ =>
    d < w.rows.deals.length ∧ adminRefund loaded = .ok (some payment)
  | .ending d loaded new reopens => d < w.rows.deals.length ∧ Ends loaded new reopens
  | .reopening d loaded new reopens _ =>
    w.dealLock d = some k ∧ d < w.rows.deals.length ∧ Ends loaded new reopens

/-- Every call holds what it should. -/
def World.Held (w : World) : Prop := ∀ k, (w.calls k).Holds w k

theorem held_init (rows : Rows) (payments : PaymentId → Payment) :
    (World.init rows payments).Held := fun _ => trivial

/-- Nothing is in flight. -/
def World.Quiet (w : World) : Prop := ∀ k, w.calls k = .idle

/-! ## What a step leaves to the others -/

/-- A step of call `k` keeps the locks of the others and the rows under them. -/
structure World.Kept (w : World) (k : Nat) (w' : World) : Prop where
  calls : ∀ j ≠ k, w'.calls j = w.calls j
  venture : ∀ j ≠ k, w.ventureLock = some j →
    w'.ventureLock = some j ∧ w'.rows.venture = w.rows.venture
  deal : ∀ j ≠ k, ∀ d, w.dealLock d = some j →
    w'.dealLock d = some j ∧ ∀ row, w.rows.deals[d]? = some row → w'.rows.deals[d]? = some row
  length : w.rows.deals.length ≤ w'.rows.deals.length

variable {w w' : World} {k : Nat} {c : Call} {rows : Rows} {d : DealId} {f : Deal → Deal}

theorem Call.Holds.kept {j : Nat} (h : c.Holds w j) (hk : w.Kept k w') (hj : j ≠ k) : c.Holds w' j := by
  cases c with
  | idle => trivial
  | deciding => trivial
  | verifying => trivial
  | submitting => exact (hk.venture j hj h).1
  | closing => exact (hk.venture j hj h).1
  | finalizing =>
    obtain ⟨hlock, hventure⟩ := hk.venture j hj h.1
    exact ⟨hlock, hventure ▸ h.2⟩
  | selecting =>
    obtain ⟨hlock, hventure⟩ := hk.venture j hj h.1.1
    exact ⟨⟨hlock, hventure ▸ h.1.2⟩, h.2⟩
  | approving => exact ⟨h.1.trans_le hk.length, h.2⟩
  | ordering => exact ⟨h.1.trans_le hk.length, h.2⟩
  | paying d =>
    obtain ⟨hlock, hrow⟩ := hk.deal j hj d h.1.1
    exact ⟨⟨hlock, hrow _ h.1.2⟩, h.2⟩
  | releasing d =>
    obtain ⟨hlock, hrow⟩ := hk.deal j hj d h.1.1
    exact ⟨⟨hlock, hrow _ h.1.2⟩, h.2⟩
  | refunding => exact ⟨h.1.trans_le hk.length, h.2⟩
  | ending => exact ⟨h.1.trans_le hk.length, h.2⟩
  | reopening d => exact ⟨(hk.deal j hj d h.1).1, h.2.1.trans_le hk.length, h.2.2⟩

/-- **The others hold what they held; so it is for the call itself that is left to show.** -/
theorem World.Held.kept (h : w.Held) (hk : w.Kept k w') (hown : (w'.calls k).Holds w' k) :
    w'.Held := by
  intro j
  by_cases hj : j = k
  · exact hj ▸ hown
  · rw [hk.calls j hj]
    exact (h j).kept hk hj

theorem kept_refl : w.Kept k w :=
  ⟨fun _ _ => rfl, fun _ _ h => ⟨h, rfl⟩, fun _ _ _ h => ⟨h, fun _ hrow => hrow⟩, le_rfl⟩

theorem kept_setCall : w.Kept k (w.setCall k c) where
  calls _ hj := Function.update_of_ne hj _ _
  venture _ _ h := ⟨h, rfl⟩
  deal _ _ _ h := ⟨h, fun _ hrow => hrow⟩
  length := le_rfl

theorem kept_lockVenture (hfree : w.ventureLock = none) : w.Kept k (w.lockVenture k c) where
  calls _ hj := Function.update_of_ne hj _ _
  venture _ _ h := by simp [hfree] at h
  deal _ _ _ h := ⟨h, fun _ hrow => hrow⟩
  length := le_rfl

theorem kept_lockDeal (hfree : w.dealLock d = none) : w.Kept k (w.lockDeal k d c) where
  calls _ hj := Function.update_of_ne hj _ _
  venture _ _ h := ⟨h, rfl⟩
  deal j _ d' h := by
    have hne : d' ≠ d := by
      rintro rfl
      simp [hfree] at h
    exact ⟨(Function.update_of_ne hne _ _).trans h, fun _ hrow => hrow⟩
  length := le_rfl

theorem World.Kept.finish (h : w.Kept k w') : w.Kept k (w'.finish k) where
  calls j hj := (Function.update_of_ne hj _ _).trans (h.calls j hj)
  venture j hj hlock := by
    obtain ⟨hlock', hventure⟩ := h.venture j hj hlock
    refine ⟨?_, hventure⟩
    have hne : w'.ventureLock ≠ some k := by simp [hlock', hj]
    exact (if_neg hne).trans hlock'
  deal j hj d hlock := by
    obtain ⟨hlock', hrow⟩ := h.deal j hj d hlock
    refine ⟨?_, hrow⟩
    have hne : w'.dealLock d ≠ some k := by simp [hlock', hj]
    exact (if_neg hne).trans hlock'
  length := h.length

theorem kept_finish : w.Kept k (w.finish k) := kept_refl.finish

theorem kept_commit (hventure : (∀ j ≠ k, w.ventureLock ≠ some j) ∨ rows.venture = w.rows.venture)
    (hdeals : ∀ j ≠ k, ∀ d, w.dealLock d = some j → ∀ row, w.rows.deals[d]? = some row →
      rows.deals[d]? = some row) (hlength : w.rows.deals.length ≤ rows.deals.length) :
    w.Kept k (w.commit k rows) :=
  World.Kept.finish
    ⟨fun _ _ => rfl,
      fun j hj h => ⟨h, hventure.resolve_left fun hfree => hfree j hj h⟩,
      fun j hj d h => ⟨h, hdeals j hj d h⟩, hlength⟩

theorem getElem?_modify_self {deals : List Deal} {row : Deal} (hrow : deals[d]? = some row) :
    (deals.modify d f)[d]? = some (f row) := by
  simp [hrow]

theorem getElem?_modify_other {deals : List Deal} {d' : DealId} (hne : d' ≠ d) :
    (deals.modify d f)[d']? = deals[d']? := by
  simp [Ne.symm hne]

theorem kept_modify (hfree : ∀ j ≠ k, w.dealLock d ≠ some j) :
    ∀ j ≠ k, ∀ d', w.dealLock d' = some j → ∀ row, w.rows.deals[d']? = some row →
      (w.rows.deals.modify d f)[d']? = some row := by
  intro j hj d' hlock row hrow
  have hne : d' ≠ d := by
    rintro rfl
    exact hfree j hj hlock
  rw [getElem?_modify_other hne, hrow]

theorem free_of_none {lock : Option Nat} (h : lock = none) : ∀ j ≠ k, lock ≠ some j := by
  simp [h]

theorem free_of_own {lock : Option Nat} (h : lock = some k) : ∀ j ≠ k, lock ≠ some j := by
  intro j hj hlock
  rw [h] at hlock
  exact hj (Option.some.inj hlock).symm

/-! ## Every statement -/

@[simp] theorem calls_setCall (w : World) (k : Nat) (c : Call) : (w.setCall k c).calls k = c :=
  Function.update_self ..

@[simp] theorem calls_finish (w : World) (k : Nat) : (w.finish k).calls k = .idle :=
  Function.update_self ..

@[simp] theorem calls_commit (w : World) (k : Nat) (rows : Rows) :
    (w.commit k rows).calls k = .idle :=
  Function.update_self ..

@[simp] theorem calls_lockVenture (w : World) (k : Nat) (c : Call) :
    (w.lockVenture k c).calls k = c :=
  Function.update_self ..

@[simp] theorem calls_lockDeal (w : World) (k : Nat) (d : DealId) (c : Call) :
    (w.lockDeal k d c).calls k = c :=
  Function.update_self ..

theorem World.Held.finished (h : w.Held) (hk : w.Kept k w') (hidle : w'.calls k = .idle) :
    w'.Held :=
  h.kept hk (by rw [hidle]; trivial)

theorem World.Held.setCall (h : w.Held) (hc : c.Holds (w.setCall k c) k) : (w.setCall k c).Held :=
  h.kept kept_setCall (by rwa [calls_setCall])

theorem World.Held.lockVenture (h : w.Held) (hfree : w.ventureLock = none)
    (hc : c.Holds (w.lockVenture k c) k) : (w.lockVenture k c).Held :=
  h.kept (kept_lockVenture hfree) (by rwa [calls_lockVenture])

theorem World.Held.lockDeal (h : w.Held) (hfree : w.dealLock d = none)
    (hc : c.Holds (w.lockDeal k d c) k) : (w.lockDeal k d c).Held :=
  h.kept (kept_lockDeal hfree) (by rwa [calls_lockDeal])

theorem World.Held.finish (h : w.Held) : (w.finish k).Held :=
  h.finished kept_finish (calls_finish w k)

theorem World.Held.moved (h : w.Held) (payments : PaymentId → Payment) (events : List Event) :
    ({ w with payments, events } : World).Held :=
  fun k => (h k).kept (k := k + 1) ⟨fun _ _ => rfl, fun _ _ hv => ⟨hv, rfl⟩,
    fun _ _ _ hd => ⟨hd, fun _ hrow => hrow⟩, le_rfl⟩ (by simp)

theorem World.Held.commit (h : w.Held)
    (hventure : (∀ j ≠ k, w.ventureLock ≠ some j) ∨ rows.venture = w.rows.venture)
    (hdeals : ∀ j ≠ k, ∀ d, w.dealLock d = some j → ∀ row, w.rows.deals[d]? = some row →
      rows.deals[d]? = some row) (hlength : w.rows.deals.length ≤ rows.deals.length) :
    (w.commit k rows).Held :=
  h.finished (kept_commit hventure hdeals hlength) (calls_commit w k rows)

theorem World.Held.commitOther (h : w.Held)
    (hventure : (∀ j ≠ k, w.ventureLock ≠ some j) ∨ rows.venture = w.rows.venture)
    (hdeals : rows.deals = w.rows.deals) : (w.commit k rows).Held :=
  h.commit hventure (fun _ _ _ _ _ hrow => hdeals ▸ hrow) (by rw [hdeals])

theorem World.Held.commitDeal (h : w.Held) (hfree : ∀ j ≠ k, w.dealLock d ≠ some j)
    (hventure : (∀ j ≠ k, w.ventureLock ≠ some j) ∨ rows.venture = w.rows.venture)
    (hdeals : rows.deals = w.rows.deals.modify d f) : (w.commit k rows).Held :=
  h.commit hventure (hdeals ▸ kept_modify hfree) (by rw [hdeals, List.length_modify])

@[simp] theorem Venture.flush_self (listing row : Venture) : listing.flush listing row = row := by
  simp [Venture.flush]

theorem held_decide (h : w.Held) (p : PitchId) (decision : Pitch → Except AppException Pitch) :
    (w.decide k p decision).Held := by
  unfold World.decide
  split
  · exact h
  · split
    · exact h.setCall trivial
    · exact h

theorem held_start (h : w.Held) (op : Op) : (w.start k op).Held := by
  cases op with
  | submitPitch bid =>
    simp only [World.start]
    split
    · next hfree => exact h.lockVenture hfree rfl
    · exact h
  | sellerAccept p seller => exact held_decide h p _
  | sellerReject p seller => exact held_decide h p _
  | buyerWithdraw p buyer => exact held_decide h p _
  | finalizeDeal p seller pct =>
    simp only [World.start]
    split
    · next hok hfree => exact h.lockVenture hfree ⟨rfl, finalizeListing_ok hok⟩
    · exact h
  | closeListing actor admin =>
    simp only [World.start]
    split
    · next hfree =>
      split_ifs
      · exact h
      · exact h.lockVenture hfree rfl
    · exact h
  | adminApproveDeal d =>
    simp only [World.start]
    split
    · exact h
    · next hrow =>
      split
      · next hok => exact h.setCall ⟨(List.getElem?_eq_some_iff.mp hrow).1, hok⟩
      · exact h
  | adminRejectDeal d =>
    simp only [World.start]
    split
    · exact h
    · next hrow =>
      split
      · next hok =>
        exact h.setCall ⟨(List.getElem?_eq_some_iff.mp hrow).1, .inl ⟨hok, rfl⟩⟩
      · exact h
  | createPaymentOrder d buyer configured order =>
    simp only [World.start]
    split
    · exact h
    · next hrow =>
      have hlt := (List.getElem?_eq_some_iff.mp hrow).1
      split
      · exact h.setCall ⟨hlt, _, rfl⟩
      · split_ifs
        · exact h.setCall ⟨hlt, _, rfl⟩
        · exact h
      · exact h
  | verifyPayment d buyer payment order signatureOk elsewhere =>
    simp only [World.start]
    split_ifs
    · exact h
    · exact h.setCall trivial
  | adminReleaseEscrow d profileComplete =>
    simp only [World.start]
    split
    · next hfree hrow =>
      split
      · next hok =>
        exact h.lockDeal hfree ⟨⟨Function.update_self .., hrow⟩, profileComplete, hok⟩
      · exact h
    · exact h
  | adminRefund d net =>
    simp only [World.start]
    split
    · exact h
    · next hrow =>
      split
      · next hok => exact h.setCall ⟨(List.getElem?_eq_some_iff.mp hrow).1, hok⟩
      · exact h

theorem held_callRazorpay {loaded : Deal} {payment : PaymentId} (h : w.Held)
    (hlt : d < w.rows.deals.length) (hok : adminRefund loaded = .ok (some payment))
    (net : RefundNetwork) :
    (w.callRazorpay k d loaded payment net).Held := by
  unfold World.callRazorpay
  generalize refundPayment (w.payments payment) (toSmallestUnit loaded.grossAmountInr) net = answer
  obtain ⟨reply, record, issued⟩ := answer
  dsimp only
  split
  · exact (h.moved _ _).setCall ⟨hlt, .inr ⟨⟨payment, _, hok, rfl⟩, rfl⟩⟩
  · exact (h.moved _ _).finish

theorem held_next (h : w.Held) (c : Call) (hc : c.Holds w k) : (w.next k c).Held := by
  cases c with
  | idle => exact h
  | submitting bid =>
    simp only [World.next]
    split
    · exact h.commitOther (.inr rfl) rfl
    · exact h.finish
  | deciding p loaded new => exact h.commitOther (.inr rfl) rfl
  | finalizing p pct =>
    simp only [World.next]
    split
    · exact h.finish
    · split
      · next hdeal =>
        obtain ⟨hstatus, hpayment, -⟩ := createFromPitch_ok hdeal
        exact h.setCall ⟨hc, hstatus, hpayment⟩
      · exact h.finish
  | selecting p loaded new deal =>
    refine h.commit (.inl (free_of_own hc.1.1)) ?_ (by simp [Rows.finalize])
    intro j hj d hlock row hrow
    rw [Rows.finalize, List.getElem?_append_left (List.getElem?_eq_some_iff.mp hrow).1]
    exact hrow
  | closing => exact h.commitOther (.inl (free_of_own hc)) rfl
  | approving d loaded new =>
    simp only [World.next]
    split_ifs with hfree
    · exact h.commitDeal (free_of_none hfree) (.inr rfl) rfl
    · exact h
  | ordering d loaded new =>
    simp only [World.next]
    split_ifs with hfree
    · exact h.commitDeal (free_of_none hfree) (.inr rfl) rfl
    · exact h
  | verifying d buyer payment order signatureOk =>
    simp only [World.next]
    split_ifs with hfree
    · split
      · exact h.finish
      · next hrow =>
        split
        · next hok =>
          exact h.lockDeal hfree
            ⟨⟨Function.update_self .., hrow⟩, buyer, payment, order, signatureOk, hok⟩
        · exact h.finish
    · exact h
  | paying d loaded new =>
    simp only [World.next]
    split
    · exact h.finish
    · exact h.commitDeal (free_of_own hc.1.1) (.inr rfl) rfl
  | releasing d loaded new listing =>
    simp only [World.next]
    split_ifs with hwait
    · exact h
    · refine (h.moved _ _).commitDeal (free_of_own hc.1.1) ?_ rfl
      by_cases hfree : w.ventureLock = none
      · exact .inl (free_of_none hfree)
      · -- the listing is written as it was read
        have hlisting : listing.released loaded.dealKind = listing := by
          by_contra hne
          exact hwait ⟨hne, hfree⟩
        exact .inr (by simp [Rows.release, hlisting])
  | refunding d loaded payment net => exact held_callRazorpay h hc.1 hc.2 net
  | ending d loaded new reopens =>
    simp only [World.next]
    split_ifs with hfree
    · exact h.lockDeal hfree ⟨Function.update_self .., hc⟩
    · exact h
  | reopening d loaded new reopens listing =>
    simp only [World.next]
    split
    · exact h
    · next hwait =>
      refine (h.moved _ _).commitDeal (free_of_own hc.1) ?_ rfl
      by_cases hfree : w.ventureLock = none
      · exact .inl (free_of_none hfree)
      · have hlisting : reopens = true → listing.reopened = listing := by
          intro hreopens
          by_contra hne
          exact hwait ⟨hreopens, hne, hfree⟩
        refine .inr ?_
        cases reopens with
        | false => rfl
        | true => simp [Rows.endDeal, hlisting rfl]

/-- **One statement.** -/
theorem held_step (h : w.Held) (l : Label) : (step w l).Held := by
  cases l with
  | call k op =>
    simp only [step]
    split
    · exact held_start h op
    · exact h
  | next k => exact held_next h _ (h k)

/-- **In every interleaving a call holds what it should**: nobody else writes the row that it has read
under its lock. -/
theorem rows_held (rows : Rows) (payments : PaymentId → Payment) (ls : List Label) :
    (Run.exec step (.init rows payments) ls).Held :=
  Run.exec_preserves (P := World.Held) (fun _ l h => held_step h l) ls (held_init rows payments)

end Deltapreneur.VentureDeals
