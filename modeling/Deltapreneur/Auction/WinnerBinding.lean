import Deltapreneur.Auction.Rounds

/-!
# Which order pays for a won auction

`verify_winner_payment` of software auctions (`software_auction_service.py:864-948`) and of
community auctions (`community_auction_service.py:1383-1432`) compares the presented order with
the stored one, `if auction.winner_payment_order_id and …`: only when one is stored. An auction that has
just ended stores none, and then any captured pair completes it.

Results:

* `winner_payment_bound_iff`: in every history, a verification that completes an auction presents
  an order of this round exactly when an order is stored or another check stops the call.
* `bid_fee_pays_winning_bid`: a paid bid fee pays for a won auction.
-/

namespace Deltapreneur.Auction

open EdgePoints Marketplace Razorpay

variable {db : AuctionDb} {ls : List Label} {v : Option Winner} {a : SoftwareAuction}
  {r : Software.VerifyRequest} {auction : AuctionId}

/-! ## What a verification checks -/

def storedOrder (v : Option Winner) : Option OrderId := v.bind Winner.order

def winningBid (v : Option Winner) : Paise := v.elim 0 Winner.bid

def isCompleted (v : Option Winner) : Bool := v.any fun x => x.status = .completed

/-- The verification moves the software auction to `COMPLETED`. -/
def SoftwareCompletes (db : AuctionDb) (r : Software.VerifyRequest) : Prop :=
  isCompleted (db.softwareWinner r.auction) = false ∧
    isCompleted ((Software.verifyWinnerPayment db r).db.softwareWinner r.auction) = true

/-- The verification moves the community auction to `COMPLETED`. -/
def CommunityCompletes (db : AuctionDb) (auction : AuctionId) (user : UserId) (paid : Triple) :
    Prop :=
  isCompleted (db.communityWinner auction) = false ∧
    isCompleted ((Community.verifyWinnerPayment db auction user paid).db.communityWinner auction) =
      true

instance (db : AuctionDb) (r : Software.VerifyRequest) : Decidable (SoftwareCompletes db r) :=
  inferInstanceAs (Decidable (_ ∧ _))

instance (db : AuctionDb) (auction : AuctionId) (user : UserId) (paid : Triple) :
    Decidable (CommunityCompletes db auction user paid) :=
  inferInstanceAs (Decidable (_ ∧ _))

/-- The checks of the software service other than that of the order id: the winner presents a
valid triple for an auction that awaits its payment, and the purchase goes through. -/
def AuctionDb.softwarePasses (db : AuctionDb) (r : Software.VerifyRequest) : Bool :=
  (db.software[r.auction]?).any fun a =>
    a.currentWinnerId = some r.winner && a.status = .ended && r.paid.verifies db.gateway &&
      (db.purchases.contains r.paid.order ||
        (r.softwareExists && a.currentHighestBid ≠ 0 && r.completes))

/-- The checks of the community service other than that of the order id. -/
def AuctionDb.communityPasses (db : AuctionDb) (auction : AuctionId) (user : UserId)
    (paid : Triple) : Bool :=
  (db.community[auction]?).any fun a =>
    a.currentWinnerId = some user && a.status = .ended && paid.verifies db.gateway

/-- The check of the order id. -/
def orderMatches (v : Option Winner) (order : OrderId) : Prop :=
  storedOrder v = none ∨ storedOrder v = some order

theorem not_completes_of_eq {v' : Option Winner} (h : v' = v) :
    ¬ (isCompleted v = false ∧ isCompleted v' = true) := by
  rintro ⟨hno, hyes⟩
  rw [h, hno] at hyes
  cases hyes

theorem isCompleted_modify_software {j : AuctionId} {payment : PaymentId}
    (hget : db.software[j]? = some a) :
    isCompleted ((db.editSoftware j (Software.paidRow payment)).softwareWinner j) = true := by
  simp [isCompleted, AuctionDb.softwareWinner, AuctionDb.editSoftware, hget,
    SoftwareAuction.winner, Software.paidRow]

theorem completeAuctionWinnerPurchase_ok {db' : AuctionDb}
    (h : Software.completeAuctionWinnerPurchase db a r = .ok db') :
    (db.purchases.contains r.paid.order ||
      (r.softwareExists && a.currentHighestBid ≠ 0 && r.completes)) = true := by
  unfold Software.completeAuctionWinnerPurchase at h
  split at h
  · next hold => simp [hold]
  · simp only [ite_raise_eq_ok, Bool.not_eq_false] at h
    obtain ⟨hex, hbid, hcomp, -⟩ := h
    simp [hex, hbid, hcomp]

theorem completeAuctionWinnerPurchase_error {e : AppException}
    (h : Software.completeAuctionWinnerPurchase db a r = .error e) :
    (db.purchases.contains r.paid.order ||
      (r.softwareExists && a.currentHighestBid ≠ 0 && r.completes)) = false := by
  unfold Software.completeAuctionWinnerPurchase at h
  split_ifs at h with hold hex hbid hcomp
  · simp [hold, hex]
  · simp [hold, hbid]
  · simp [hold, hcomp]

/-- The checks of the software call. -/
theorem softwareCompletes_iff (r : Software.VerifyRequest) :
    SoftwareCompletes db r ↔
      db.softwarePasses r = true ∧ orderMatches (db.softwareWinner r.auction) r.paid.order := by
  unfold SoftwareCompletes Software.verifyWinnerPayment AuctionDb.softwarePasses
  cases hget : db.software[r.auction]? with
  | none => simp [AuctionDb.softwareWinner, hget, isCompleted]
  | some a =>
    have hview : db.softwareWinner r.auction = some a.winner := by
      rw [AuctionDb.softwareWinner, hget]
      rfl
    have hframe : ∀ db' : AuctionDb, db'.software = db.software →
        ¬ (isCompleted (db.softwareWinner r.auction) = false ∧
          isCompleted (db'.softwareWinner r.auction) = true) :=
      fun db' hdb => not_completes_of_eq (by rw [AuctionDb.softwareWinner, hdb]; rfl)
    rw [hview] at hframe ⊢
    dsimp only
    split
    · next hwin => exact iff_of_false (hframe _ rfl) (by simp [hwin])
    next hwin =>
    split
    · next hdone => exact iff_of_false (hframe _ rfl) (by simp [hdone.2])
    split
    · next hended => exact iff_of_false (hframe _ rfl) (by simp [hended])
    next hended =>
    split
    · next hord =>
      refine iff_of_false (hframe _ rfl) fun h => ?_
      rcases h.2 with hnone | hsome
      · exact hord.1 hnone
      · exact hord.2 hsome
    next hord =>
    split
    · next hsig => exact iff_of_false (hframe _ rfl) (by simp [hsig])
    next hsig =>
    have hmatch : orderMatches (some a.winner) r.paid.order := by
      by_cases hnone : a.winnerPaymentOrderId = none
      · exact .inl hnone
      · exact .inr (not_not.mp fun hne => hord ⟨hnone, hne⟩)
    have hopen : isCompleted (some a.winner) = false := by
      simp [isCompleted, SoftwareAuction.winner, not_not.mp hended]
    split
    · next e herr =>
      refine iff_of_false (hframe _ rfl) fun h => ?_
      have hgo := completeAuctionWinnerPurchase_error herr
      have hpass := h.1
      simp only [Option.any_some, Bool.and_eq_true] at hpass
      cases hpass.2.symm.trans hgo
    · next db' hok =>
      have hgo := completeAuctionWinnerPurchase_ok hok
      have hsame : db'.software = db.software := by
        rw [completeAuctionWinnerPurchase_frame hok]
      refine iff_of_true ⟨hopen, ?_⟩ ⟨?_, hmatch⟩
      · exact isCompleted_modify_software (hsame ▸ hget)
      · simp only [Option.any_some, Bool.and_eq_true, decide_eq_true_eq]
        exact ⟨⟨⟨not_not.mp hwin, not_not.mp hended⟩, by simpa using hsig⟩, hgo⟩

/-- The checks of the community call. -/
theorem communityCompletes_iff (auction : AuctionId) (user : UserId) (paid : Triple) :
    CommunityCompletes db auction user paid ↔
      db.communityPasses auction user paid = true ∧
        orderMatches (db.communityWinner auction) paid.order := by
  unfold CommunityCompletes Community.verifyWinnerPayment AuctionDb.communityPasses
  cases hget : db.community[auction]? with
  | none => simp [AuctionDb.communityWinner, hget, isCompleted]
  | some a =>
    have hview : db.communityWinner auction = some a.winner := by
      rw [AuctionDb.communityWinner, hget]
      rfl
    have hsame := not_completes_of_eq hview
    rw [hview] at hsame ⊢
    dsimp only
    split
    · next hwin => exact iff_of_false (hview ▸ hsame) (by simp [hwin])
    next hwin =>
    split
    · next hdone => exact iff_of_false (hview ▸ hsame) (by simp [hdone.2])
    split
    · next hended => exact iff_of_false (hview ▸ hsame) (by simp [hended])
    next hended =>
    split
    · next hord =>
      refine iff_of_false (hview ▸ hsame) fun h => ?_
      rcases h.2 with hnone | hsome
      · exact hord.1 hnone
      · exact hord.2 hsome
    next hord =>
    split
    · next hsig => exact iff_of_false (hview ▸ hsame) (by simp [hsig])
    next hsig =>
    have hmatch : orderMatches (some a.winner) paid.order := by
      by_cases hnone : a.winnerPaymentOrderId = none
      · exact .inl hnone
      · exact .inr (not_not.mp fun hne => hord ⟨hnone, hne⟩)
    refine iff_of_true ⟨?_, ?_⟩ ⟨?_, hmatch⟩
    · simp [isCompleted, CommunityAuction.winner, not_not.mp hended]
    · simp [isCompleted, AuctionDb.communityWinner, AuctionDb.editCommunity, hget,
        CommunityAuction.winner, Community.paidRow]
    · simp only [Option.any_some, Bool.and_eq_true, decide_eq_true_eq]
      exact ⟨⟨not_not.mp hwin, not_not.mp hended⟩, by simpa using hsig⟩

/-! ## Binding -/

/-- No auction is listed yet. -/
structure NoAuctions (db : AuctionDb) : Prop where
  software : db.software = []
  community : db.community = []

/-- The presented order was issued for this software auction in its current round, for its
winning bid less the discount. -/
def SoftwareBound (db : AuctionDb) (ls : List Label) (auction : AuctionId) (order : OrderId) :
    Prop :=
  Run.Since step
    (fun s l => SoftwareIssued auction s l order
      (winningBid ((Run.exec step db ls).softwareWinner auction)))
    (fun s => Rests (s.softwareWinner auction)) db ls

/-- The presented order was issued for this community auction in its current round, for its
winning bid. -/
def CommunityBound (db : AuctionDb) (ls : List Label) (auction : AuctionId) (order : OrderId) :
    Prop :=
  Run.Since step
    (fun s l => CommunityIssued auction s l order
      (winningBid ((Run.exec step db ls).communityWinner auction)))
    (fun s => Rests (s.communityWinner auction)) db ls

theorem softwareIssued_holds {l : Label} {o : OrderId} {b : Paise}
    (h : SoftwareIssued auction db l o b) : Holds ((step db l).softwareWinner auction) := by
  obtain ⟨r, rfl, rfl, horders⟩ := h
  simp only [step, call, Software.createWinnerPaymentOrder] at horders ⊢
  cases hget : db.software[r.auction]? with
  | none => simp [hget] at horders
  | some a =>
    rw [hget] at horders
    dsimp only at horders ⊢
    split_ifs at horders ⊢ with hwin hended
    all_goals try (exact absurd horders (by simp))
    split at horders
    · exact absurd horders (by simp)
    · next order gateway hissue =>
      refine ⟨{ a.winner with order := some order }, ?_, by simp, ?_, ?_⟩
      · simp [AuctionDb.softwareWinner, AuctionDb.editSoftware, hget, SoftwareAuction.winner]
      · simp [SoftwareAuction.winner, not_not.mp hended]
      · simp [SoftwareAuction.winner, not_not.mp hended, AuctionStatus.live]

theorem communityIssued_holds {l : Label} {o : OrderId} {b : Paise}
    (h : CommunityIssued auction db l o b) : Holds ((step db l).communityWinner auction) := by
  obtain ⟨user, up, rfl, horders⟩ := h
  simp only [step, call, Community.createWinnerPaymentOrder] at horders ⊢
  cases hget : db.community[auction]? with
  | none => simp [hget] at horders
  | some a =>
    rw [hget] at horders
    dsimp only at horders ⊢
    split_ifs at horders ⊢ with hwin hended
    all_goals try (exact absurd horders (by simp))
    split at horders
    · exact absurd horders (by simp)
    · next order gateway hissue =>
      refine ⟨{ a.winner with order := some order }, ?_, by simp, ?_, ?_⟩
      · simp [AuctionDb.communityWinner, AuctionDb.editCommunity, hget, CommunityAuction.winner]
      · simp [CommunityAuction.winner, not_not.mp hended]
      · simp [CommunityAuction.winner, not_not.mp hended, AuctionStatus.live]

/-- The argument for both services: `completes` is passing the checks with an order that matches,
and `bound` is an order of this round. -/
theorem bound_iff {completes bound : Prop} {passes : Bool} {order : OrderId}
    (hcompletes : completes ↔ passes = true ∧ orderMatches v order)
    (hstored : ∀ x, v = some x → passes = true → x.order = some order → bound)
    (hbound : bound → Holds v) : (completes → bound) ↔ (storedOrder v ≠ none ∨ passes = false) := by
  constructor
  · intro h
    by_contra hcon
    rw [not_or, not_not, Bool.not_eq_false] at hcon
    obtain ⟨hnone, hpass⟩ := hcon
    obtain ⟨x, rfl, hord, -⟩ := hbound (h (hcompletes.mpr ⟨hpass, .inl hnone⟩))
    exact hord hnone
  · rintro hcond hc
    obtain ⟨hpass, hmatch⟩ := hcompletes.mp hc
    have hset : storedOrder v ≠ none :=
      hcond.resolve_right fun hno => absurd (hpass.symm.trans hno) (by decide)
    cases v with
    | none => exact absurd rfl hset
    | some x => exact hstored x rfl hpass (hmatch.resolve_left hset)

/-- **Binding of a payment to its won auction**, software and community, after every history. -/
theorem winner_payment_bound_iff {db : AuctionDb} (hnone : NoAuctions db) (ls : List Label) :
    (∀ r, (SoftwareCompletes (Run.exec step db ls) r →
        SoftwareBound db ls r.auction r.paid.order) ↔
      (storedOrder ((Run.exec step db ls).softwareWinner r.auction) ≠ none ∨
        (Run.exec step db ls).softwarePasses r = false)) ∧
    (∀ auction user paid, (CommunityCompletes (Run.exec step db ls) auction user paid →
        CommunityBound db ls auction paid.order) ↔
      (storedOrder ((Run.exec step db ls).communityWinner auction) ≠ none ∨
        (Run.exec step db ls).communityPasses auction user paid = false)) := by
  constructor
  · intro r
    refine bound_iff (softwareCompletes_iff r) (fun x hx hpass hord => ?_) fun h => ?_
    · have hended : x.status = .ended := by
        unfold AuctionDb.softwarePasses at hpass
        unfold AuctionDb.softwareWinner at hx
        cases hget : (Run.exec step db ls).software[r.auction]? with
        | none => simp [hget] at hpass
        | some a =>
          rw [hget] at hx hpass
          obtain rfl := Option.some.inj hx
          simp only [Option.any_some, Bool.and_eq_true, decide_eq_true_eq] at hpass
          exact hpass.1.1.2
      unfold SoftwareBound
      rw [hx]
      refine since_of_stored (software_step r.auction) ?_ hx hended hord
      rw [AuctionDb.softwareWinner, hnone.software]
      rfl
    · exact stored_of_since (software_step r.auction) (fun _ _ => softwareIssued_holds) h
  · intro auction user paid
    refine bound_iff (communityCompletes_iff auction user paid) (fun x hx hpass hord => ?_)
      fun h => ?_
    · have hended : x.status = .ended := by
        unfold AuctionDb.communityPasses at hpass
        unfold AuctionDb.communityWinner at hx
        cases hget : (Run.exec step db ls).community[auction]? with
        | none => simp [hget] at hpass
        | some a =>
          rw [hget] at hx hpass
          obtain rfl := Option.some.inj hx
          simp only [Option.any_some, Bool.and_eq_true, decide_eq_true_eq] at hpass
          exact hpass.1.2
      unfold CommunityBound
      rw [hx]
      refine since_of_stored (community_step auction) ?_ hx hended hord
      rw [AuctionDb.communityWinner, hnone.community]
      rfl
    · exact stored_of_since (community_step auction) (fun _ _ => communityIssued_holds) h

/-- The winner orders the payment of the winning bid and pays it. -/
def paidSoftware : List Label :=
  wonSoftware ++ [.orderSoftware ⟨0, 1, false, true⟩, .capture 1]

theorem winner_payment_bound_iff_paidSoftware :
    NoAuctions noAuctions ∧
      SoftwareCompletes (Run.exec step noAuctions paidSoftware) ⟨0, 1, ⟨1, 1, true⟩, true, true⟩ ∧
      SoftwareBound noAuctions paidSoftware 0 1 := by
  have hnone : NoAuctions noAuctions := ⟨rfl, rfl⟩
  have hc : SoftwareCompletes (Run.exec step noAuctions paidSoftware)
      ⟨0, 1, ⟨1, 1, true⟩, true, true⟩ := by decide
  refine ⟨hnone, hc, ?_⟩
  exact ((winner_payment_bound_iff hnone paidSoftware).1 ⟨0, 1, ⟨1, 1, true⟩, true, true⟩).mpr
    (.inl (by decide)) hc

/-- **A bid fee pays a winning bid.** The winner presents the fee order of 20 rupees before an
order for the winning bid is made. -/
theorem bid_fee_pays_winning_bid :
    NoAuctions noAuctions ∧
      SoftwareCompletes (Run.exec step noAuctions wonSoftware) ⟨0, 1, ⟨0, 0, true⟩, true, true⟩ ∧
      ¬ SoftwareBound noAuctions wonSoftware 0 0 := by
  refine ⟨⟨rfl, rfl⟩, by decide, fun h => ?_⟩
  obtain ⟨x, hx, hord, -⟩ :=
    stored_of_since (software_step 0) (fun _ _ => softwareIssued_holds) h
  have hlast : (Run.exec step noAuctions wonSoftware).softwareWinner 0 =
      some ⟨.ended, none, 15000⟩ := by decide
  rw [hlast] at hx
  obtain rfl := Option.some.inj hx
  exact hord rfl

end Deltapreneur.Auction
