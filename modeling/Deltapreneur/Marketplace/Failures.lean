import Deltapreneur.Marketplace.Sales
import Deltapreneur.EdgePoints.Ledger

/-!
# Reports of a failed payment

The two ways a failed payment gets to `MarketplacePaymentService`
(`app/service/domain/marketplace_payment_service.py:235-318, 433-451`): the failure endpoint, which
passes on a listing id and nothing of its caller, and a `verify_payment` whose signature does not
verify. Both cancel a redemption and put the listing back on the market.

* The failure endpoint cancels the redemption of the order that is stored on the listing,
  `verify_payment` that of the order the client names.
* A pending purchase is a `PENDING` listing with its buyer and order, and the redemption of that
  order.

Results:

* `failure_keeps_sales_iff`: so for both calls.
* `failure_unsells`: a report after the sale takes the listing away from its buyer.
-/

namespace Deltapreneur.Marketplace.Failures

open EdgePoints Transfer

/-- Another buyer than `caller` is paying for the listing. -/
def PendingOfOther (caller : UserId) (l : Listing) : Prop :=
  l.domainStatus = .pending ∧ l.heldByOther caller

/-- **Sold listings and the transactions are as before**, and so are the pending purchases of other
buyers than `caller`. -/
structure Keeps (caller : UserId) (db db' : Db) : Prop where
  sold : ∀ i l, db.listings i = some l → l.domainStatus = .sold → db'.listings i = some l
  transactions : db'.txs = db.txs
  purchases : ∀ i l, db.listings i = some l → PendingOfOther caller l → db'.listings i = some l
  points : ∀ i l, db.listings i = some l → PendingOfOther caller l →
    ∀ o, l.razorpayOrderId = some o → db'.wallets.redemption o = db.wallets.redemption o

/-- The order is stored for a pending purchase of another buyer, with a redemption to cancel. -/
def Strips (caller : UserId) (db : Db) (order : OrderId) : Prop :=
  ∃ i l, db.listings i = some l ∧ PendingOfOther caller l ∧ l.razorpayOrderId = some order ∧
    (db.wallets.pendingRedemption order).isSome = true

/-- What both calls do: the order's redemption is cancelled and the listing put back. -/
def reset (db : Db) (listing : ListingId) (order : Option OrderId) : Db :=
  { db with
    wallets := match order with
      | some o => db.wallets.cancelRedemption o
      | none => db.wallets
  }.editListing listing .markFailed

variable {db : Db} {listing : ListingId} {l : Listing} {caller : UserId} {order : Option OrderId}

/-! ## The redemption -/

theorem redemption_cancel_iff {w : Wallets} {o order : OrderId} :
    (w.cancelRedemption order).redemption o = w.redemption o ↔
      ¬ (o = order ∧ (w.pendingRedemption order).isSome = true) := by
  unfold Wallets.cancelRedemption
  cases hr : w.pendingRedemption order with
  | none => simp
  | some r =>
    by_cases ho : o = order
    · obtain ⟨hrow, hpending⟩ := redemption_of_pending hr
      simp only [ho, redemption_commitStatus_self, hrow, Option.map_some, Option.some.injEq,
        Option.isSome_some, and_self, not_true_eq_false, iff_false]
      intro heq
      have hfailed : RedemptionStatus.failed = r.status := congrArg Redemption.status heq
      cases hfailed.trans hpending
    · simp [redemption_commitStatus_ne ho, ho]

theorem redemption_reset {o : OrderId} :
    (reset db listing order).wallets.redemption o = db.wallets.redemption o ↔
      ¬ (order = some o ∧ (db.wallets.pendingRedemption o).isSome = true) := by
  cases order with
  | none => simp [reset, Db.editListing]
  | some order =>
    refine (@redemption_cancel_iff db.wallets o order).trans (not_congr ?_)
    rw [Option.some.injEq, eq_comm]
    exact and_congr_right fun h => by rw [h]

/-! ## Putting a listing back -/

theorem markFailed_ne (h : l.domainStatus ≠ .available) : l.markFailed ≠ l := fun heq =>
  h (congrArg Listing.domainStatus heq).symm

/-- **A listing that is put back** was neither sold nor another's purchase, and no other's purchase
loses its redemption: exactly then sales and the purchases of others are left alone. -/
theorem keeps_reset_iff (hl : db.listings listing = some l) :
    Keeps caller db (reset db listing order) ↔
      l.domainStatus ≠ .sold ∧ ¬ PendingOfOther caller l ∧
        ∀ o, order = some o → ¬ Strips caller db o := by
  have hself : (reset db listing order).listings listing = some l.markFailed :=
    editListing_self hl
  have hother {i : ListingId} (hi : i ≠ listing) :
      (reset db listing order).listings i = db.listings i := editListing_ne hi
  constructor
  · intro h
    refine ⟨fun hsold => ?_, fun hpending => ?_, ?_⟩
    · have hkept := hself.symm.trans (h.sold listing l hl hsold)
      exact markFailed_ne (by simp [hsold]) (Option.some.inj hkept)
    · have hkept := hself.symm.trans (h.purchases listing l hl hpending)
      exact markFailed_ne (by simp [hpending.1]) (Option.some.inj hkept)
    · rintro o horder ⟨i, l', hl', hpending, hstored, hsome⟩
      exact redemption_reset.mp (h.points i l' hl' hpending o hstored) ⟨horder, hsome⟩
  · rintro ⟨hsold, hpending, hstrips⟩
    refine ⟨fun i l' hl' hsold' => ?_, rfl, fun i l' hl' hpending' => ?_,
      fun i l' hl' hpending' o hstored => redemption_reset.mpr fun hcancel => ?_⟩
    · by_cases hi : i = listing
      · cases hl'.symm.trans (hi ▸ hl)
        exact absurd hsold' hsold
      · exact (hother hi).trans hl'
    · by_cases hi : i = listing
      · cases hl'.symm.trans (hi ▸ hl)
        exact absurd hpending' hpending
      · exact (hother hi).trans hl'
    · exact hstrips o hcancel.1 ⟨i, l', hl', hpending', hstored, hcancel.2⟩

theorem keeps_refl : Keeps caller db db :=
  ⟨fun _ _ h _ => h, rfl, fun _ _ h _ => h, fun _ _ _ _ _ _ => rfl⟩

/-! ## The two calls -/

/-- `verify_payment` gets to its signature check with this listing, and the signature does not
verify. -/
structure FailsOn (db : Db) (r : VerifyRequest) (l : Listing) : Prop where
  unrecorded : (db.txByPayment r.payment).isSome = false
  row : db.listings r.listing = some l
  own : ¬ l.heldByOther r.buyer
  bad : db.gateway.verifyPaymentSignature r.order r.payment r.genuine = false

theorem handlePaymentFailure_eq (hl : db.listings listing = some l) :
    (handlePaymentFailure db listing).db = reset db listing l.razorpayOrderId := by
  unfold handlePaymentFailure
  rw [hl]
  rfl

theorem verifyPayment_eq {r : VerifyRequest} (h : FailsOn db r l) :
    (verifyPayment db r).db = reset db r.listing (some r.order) := by
  unfold verifyPayment
  rw [if_neg (by simp [h.unrecorded]), h.row]
  dsimp only
  rw [if_neg h.own, if_pos h.bad]
  rfl

theorem verifyPayment_bad {r : VerifyRequest}
    (hbad : db.gateway.verifyPaymentSignature r.order r.payment r.genuine = false) :
    (verifyPayment db r).db = db ∨ ∃ l, FailsOn db r l := by
  unfold verifyPayment
  by_cases hrecorded : (db.txByPayment r.payment).isSome = true
  · rw [if_pos hrecorded]
    exact .inl rfl
  rw [if_neg hrecorded]
  cases hl : db.listings r.listing with
  | none => exact .inl rfl
  | some l =>
    by_cases hown : l.heldByOther r.buyer
    · dsimp only
      rw [if_pos hown]
      exact .inl rfl
    · exact .inr ⟨l, by simpa using hrecorded, hl, hown, hbad⟩

/-- **Reports of a failed payment and sales**: for any database, caller, listing, order and
signature, sold listings, transactions and the pending purchases of others stay as they are, exactly
if the listing is neither sold nor another's purchase and the order whose redemption is cancelled is
not one of another's purchase. -/
theorem failure_keeps_sales_iff (db : Db) :
    (∀ caller listing, Keeps caller db (handlePaymentFailure db listing).db ↔
      ∀ l, db.listings listing = some l → l.domainStatus ≠ .sold ∧ ¬ PendingOfOther caller l ∧
        ∀ o, l.razorpayOrderId = some o → ¬ Strips caller db o) ∧
    ∀ r : VerifyRequest,
      (db.gateway.verifyPaymentSignature r.order r.payment r.genuine = false →
        Keeps r.buyer db (verifyPayment db r).db) ↔
      ∀ l, FailsOn db r l → l.domainStatus ≠ .sold ∧ ¬ Strips r.buyer db r.order := by
  refine ⟨fun caller listing => ?_, fun r => ⟨fun h l hfails => ?_, fun h hbad => ?_⟩⟩
  · cases hl : db.listings listing with
    | none =>
      have hsame : (handlePaymentFailure db listing).db = db := by
        unfold handlePaymentFailure
        rw [hl]
        rfl
      rw [hsame]
      exact iff_of_true keeps_refl (by simp)
    | some l =>
      rw [handlePaymentFailure_eq hl, keeps_reset_iff hl]
      simp only [Option.some.injEq, forall_eq']
  · have hkeeps := h hfails.bad
    rw [verifyPayment_eq hfails, keeps_reset_iff hfails.row] at hkeeps
    exact ⟨hkeeps.1, hkeeps.2.2 r.order rfl⟩
  · rcases verifyPayment_bad hbad with hsame | ⟨l, hfails⟩
    · rw [hsame]
      exact keeps_refl
    · obtain ⟨hsold, hstrips⟩ := h l hfails
      rw [verifyPayment_eq hfails, keeps_reset_iff hfails.row]
      refine ⟨hsold, fun hpending => hfails.own hpending.2, fun o ho => ?_⟩
      rw [← Option.some.inj ho]
      exact hstrips

/-- Buyer 1 has paid listing 0. -/
def paidFor : Db := Run.exec step oneListing (buys 1 0)

/-- **A failure is reported after the sale**: the listing is on the market again, without its buyer,
and the transaction stays. -/
theorem failure_unsells :
    (paidFor.listings 0).map Listing.domainStatus = some .sold ∧
      let db := (handlePaymentFailure paidFor 0).db
      (db.listings 0).map Listing.domainStatus = some .available ∧
        (db.listings 0).bind Listing.purchasedByUserId = none ∧ db.txs = paidFor.txs ∧
        ¬ Keeps 2 paidFor db := by
  refine ⟨by decide, by decide, by decide, by decide, fun h => ?_⟩
  have hsold : (paidFor.listings 0).map Listing.domainStatus = some .sold := by decide
  obtain ⟨l, hl, hstatus⟩ := Option.map_eq_some_iff.mp hsold
  have hkept := congrArg (Option.map Listing.domainStatus) (h.sold 0 l hl hstatus)
  rw [Option.map_some, hstatus] at hkept
  exact absurd hkept (by decide)

end Deltapreneur.Marketplace.Failures
