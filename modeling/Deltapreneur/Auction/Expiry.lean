import Mathlib.Data.List.MinMax
import Deltapreneur.Auction.DomainBids
import Deltapreneur.Auction.Community
import Deltapreneur.Auction.Sweep
import Deltapreneur.Marketplace.AuctionSale

/-!
# The expiry sweeps of the three services

The instances of `Sweep.lean`:

* domains: `AuctionTimerService._sweep_once` and `WinnerService.resolve_auction`
  (`app/service/auction/auction_timer_service.py:129-160`,
  `app/service/auction/winner_service.py:51-157`). The auction is locked and read again, its end is
  not looked at again;
* software: `end_expired_auctions` and `_end_auction`
  (`app/service/cocreation/software_auction_service.py:496-595`). The objects of the candidate
  query are written without a lock;
* community: `end_expired_auctions` and `end_auction`
  (`app/service/community/community_auction_service.py:1154-1215`). Likewise, and every end commits,
  after which the objects of the session are read again.

Results:

* `sweep_never_cuts_off`: in every run whose sweeps find the auction as they read it, no sweep closes
  an auction before its end or marks an auction with a bid UNSOLD.
* `sweep_cuts_off_late_bid`: a bid of the last second is cut off by all three.
-/

namespace Deltapreneur.Auction.Sweep

open EdgePoints Marketplace PlaceBid UnitOfWork

variable {bids bids' : List Bid}

/-- Exactly the bid `id` is flagged. -/
def markWinningBid (id : Nat) (bids : List Bid) : List Bid :=
  bids.map fun b => { b with isWinningBid := b.id = id }

@[simp] theorem markWinningBid_nil (id : Nat) : markWinningBid id [] = [] := rfl

/-- `get_highest_bid`: the greatest amount, the earliest on ties. -/
def getHighestBid (bids : List Bid) : Option Bid := bids.argmax Bid.amount

/-! ## Domains -/

/-- `resolve_auction` on the locked row. -/
def resolveAuction (a : DomainRow) (bids : List Bid) : Option (DomainRow × List Bid) :=
  if a.status.nonResolvable then none
  else match getHighestBid bids with
    | none => some ({ a with status := .unsold, currentWinnerId := none }, bids)
    | some b =>
      some ({ a with
        status := .paymentPending
        currentWinnerId := some b.bidderId
        currentHighestBid := some b.amount }, markWinningBid b.id bids)

/-- `_sweep_once`. -/
def domainSweeper : Sweeper DomainRow where
  status := DomainRow.status
  endTime := fun a => some a.endTime
  expired := fun a now => a.status.live && a.endTime ≤ now
  cached := false
  rereads := false
  counts := fun _ => true
  close := fun _ row bids => resolveAuction row bids

theorem domain_lawful : Lawful domainService domainSweeper where
  expired_le := by
    intro a now h
    simp only [domainSweeper, Bool.and_eq_true] at h
    exact h.2
  counts_bid := fun _ _ _ _ _ _ _ => rfl
  counts_close := by
    intro object row bids row' bids' h
    simp only [domainSweeper, resolveAuction] at h
    refine ⟨rfl, fun hnil => ?_⟩
    subst hnil
    split at h
    · cases h
    · split at h
      · exact (Prod.ext_iff.mp (Option.some.inj h)).2.symm
      · exact (Prod.ext_iff.mp (Option.some.inj h)).2.symm
  unsold_close := by
    intro object row bids row' bids' h hst
    simp only [domainSweeper, resolveAuction] at h hst
    split at h
    · cases h
    · split at h
      · next hnone => exact .inr (.inl (List.argmax_eq_none.mp hnone))
      · obtain ⟨rfl, -⟩ := Prod.ext_iff.mp (Option.some.inj h)
        cases hst

/-! ## Software -/

/-- The checks of `SoftwareAuctionService.place_bid`. -/
def validateSoftware (a : SoftwareAuction) (r : Request) (g : Guards) : Except AppException Unit :=
  if g.canBid = false then
    raise "Your account is blocked from bidding after an unpaid auction win." 403
  else if a.approvalStatus ≠ .approved then raise "Auction is not approved yet." 400
  else if a.status.live = false then raise "Auction is not active." 400
  else if (a.endTime.any fun e => e < g.now) then raise "Auction has ended." 400
  else if g.owner = some r.bidder then raise "You cannot bid on your own listing." 400
  else if g.verified = false then
    raise ("This technology listing is not verified yet. " ++
      "Purchases and bids are blocked until an admin approves it.") 400
  else match normalizeBidAmount r.amount a.currentHighestBid a.minBidPrice with
    | .error message => raise message 400
    | .ok _ => .ok ()

/-- The object after a bid. -/
def bidOnSoftware (r : Request) (now : Time) (a : SoftwareAuction) : SoftwareAuction :=
  { a with
    currentHighestBid := r.amount
    currentWinnerId := some r.bidder
    totalBids := a.totalBids + 1
    endTime := (applyAntiSnipe a.endTime now a.status).1
    status := (applyAntiSnipe a.endTime now a.status).2.1 }

/-- The row after the flush of an object that a bid or a sweep has changed. -/
def flushSoftware (loaded new row : SoftwareAuction) : SoftwareAuction :=
  { row with
    status := flushColumn loaded.status new.status row.status
    endTime := flushColumn loaded.endTime new.endTime row.endTime
    currentHighestBid := flushColumn loaded.currentHighestBid new.currentHighestBid
      row.currentHighestBid
    currentWinnerId := flushColumn loaded.currentWinnerId new.currentWinnerId row.currentWinnerId
    totalBids := flushColumn loaded.totalBids new.totalBids row.totalBids
    winnerPaymentOrderId := flushColumn loaded.winnerPaymentOrderId new.winnerPaymentOrderId
      row.winnerPaymentOrderId
    winnerPaymentId := flushColumn loaded.winnerPaymentId new.winnerPaymentId row.winnerPaymentId
    winnerPaymentPaid := flushColumn loaded.winnerPaymentPaid new.winnerPaymentPaid
      row.winnerPaymentPaid }

/-- `SoftwareAuctionService.place_bid`; its bids are not flagged. -/
def softwareService : Service SoftwareAuction where
  auctionType := .software
  sync := false
  validate := validateSoftware
  accept := fun _ _ => .ok ()
  bidOn := fun r checked _ a => bidOnSoftware r checked a
  flush := flushSoftware
  flags := false

/-- The greatest bid of a list that starts with the newest. -/
def topSoftwareBid (bids : List Bid) : Option Bid := bids.reverse.argmax Bid.amount

/-- `_end_auction` on an object. -/
def endSoftwareAuction (object row : SoftwareAuction) (bids : List Bid) :
    SoftwareAuction × List Bid :=
  if object.totalBids = 0 then (flushSoftware object { object with status := .unsold } row, bids)
  else
    let ended := fun winner => flushSoftware object { object with
      status := .ended
      winnerPaymentPaid := false
      winnerPaymentOrderId := none
      winnerPaymentId := none
      currentWinnerId := winner } row
    match topSoftwareBid bids with
    | none => (ended object.currentWinnerId, bids)
    | some top => (ended (some top.bidderId), markWinningBid top.id bids)

/-- `SoftwareAuctionService.end_expired_auctions`. -/
def softwareSweeper : Sweeper SoftwareAuction where
  status := SoftwareAuction.status
  endTime := SoftwareAuction.endTime
  expired := fun a now => a.status.live && (a.endTime.any fun e => e < now)
  cached := true
  rereads := false
  counts := fun a => a.totalBids ≠ 0
  close := fun object row bids => some (endSoftwareAuction object row bids)

theorem any_le_of_lt {e : Option Time} {now : Time} (h : (e.any fun x => x < now) = true) :
    e.any (· ≤ now) = true := by
  cases e with
  | none => cases h
  | some x =>
    simp only [Option.any_some, decide_eq_true_eq] at h ⊢
    exact h.le

theorem flushColumn_ended {loaded row : AuctionStatus}
    (h : flushColumn loaded .ended row = .unsold) : row = .unsold := by
  unfold flushColumn at h
  split at h
  · exact h
  · cases h

theorem software_lawful : Lawful softwareService softwareSweeper where
  expired_le := by
    intro a now h
    simp only [softwareSweeper, Bool.and_eq_true] at h
    exact any_le_of_lt h.2
  counts_bid := by
    intro loaded r g t now row _
    have hcount : flushColumn loaded.totalBids (loaded.totalBids + 1) row.totalBids =
        loaded.totalBids + 1 := flushColumn_changed (Nat.succ_ne_self _) _
    simp [softwareSweeper, softwareService, flushSoftware, bidOnSoftware, hcount]
  counts_close := by
    intro object row bids row' bids' h
    simp only [softwareSweeper, Option.some.injEq, endSoftwareAuction] at h ⊢
    split at h
    · obtain ⟨rfl, rfl⟩ := Prod.ext_iff.mp h
      exact ⟨by simp [flushSoftware], id⟩
    · split at h
      · obtain ⟨rfl, rfl⟩ := Prod.ext_iff.mp h
        exact ⟨by simp [flushSoftware], id⟩
      · obtain ⟨rfl, rfl⟩ := Prod.ext_iff.mp h
        exact ⟨by simp [flushSoftware], fun hnil => by simp [hnil]⟩
  unsold_close := by
    intro object row bids row' bids' h hst
    simp only [softwareSweeper, Option.some.injEq, endSoftwareAuction] at h hst ⊢
    split at h
    · next hzero => exact .inr (.inr ⟨trivial, by simp [hzero]⟩)
    · split at h
      · obtain ⟨rfl, -⟩ := Prod.ext_iff.mp h
        exact .inl (flushColumn_ended hst)
      · obtain ⟨rfl, -⟩ := Prod.ext_iff.mp h
        exact .inl (flushColumn_ended hst)

/-! ## Community -/

/-- The checks of `CommunityAuctionService.place_bid`. -/
def validateCommunity (a : CommunityAuction) (r : Request) (g : Guards) :
    Except AppException Unit :=
  if g.canBid = false then
    raise "Your account is blocked from bidding after an unpaid auction win." 403
  else if a.status.live = false then raise "Auction is not active" 409
  else if (a.endTime.any fun e => e < g.now) then raise "Auction has already ended" 409
  else if a.createdBy = r.bidder ∨ g.owner = some r.bidder then
    raise "You cannot bid on your own auction" 403
  else match normalizeBidAmount r.amount (a.currentHighestBid.getD 0) a.minBidPrice with
    | .error message => raise message 400
    | .ok _ => .ok ()

/-- The object after a bid. -/
def bidOnCommunity (r : Request) (now : Time) (a : CommunityAuction) : CommunityAuction :=
  { a with
    currentHighestBid := some r.amount
    currentWinnerId := some r.bidder
    totalBids := a.totalBids + 1
    endTime := (applyAntiSnipe a.endTime now a.status).1
    status := (applyAntiSnipe a.endTime now a.status).2.1 }

/-- The row after the flush of an object that a bid or a sweep has changed. -/
def flushCommunity (loaded new row : CommunityAuction) : CommunityAuction :=
  { row with
    status := flushColumn loaded.status new.status row.status
    endTime := flushColumn loaded.endTime new.endTime row.endTime
    currentHighestBid := flushColumn loaded.currentHighestBid new.currentHighestBid
      row.currentHighestBid
    currentWinnerId := flushColumn loaded.currentWinnerId new.currentWinnerId row.currentWinnerId
    totalBids := flushColumn loaded.totalBids new.totalBids row.totalBids
    winnerPaymentOrderId := flushColumn loaded.winnerPaymentOrderId new.winnerPaymentOrderId
      row.winnerPaymentOrderId
    winnerPaymentId := flushColumn loaded.winnerPaymentId new.winnerPaymentId row.winnerPaymentId
    winnerPaymentPaid := flushColumn loaded.winnerPaymentPaid new.winnerPaymentPaid
      row.winnerPaymentPaid }

/-- `CommunityAuctionService.place_bid`. -/
def communityService : Service CommunityAuction where
  auctionType := .community
  sync := true
  validate := validateCommunity
  accept := fun _ _ => .ok ()
  bidOn := fun r checked _ a => bidOnCommunity r checked a
  flush := flushCommunity
  flags := true

/-- `has_winner`. -/
def hasWinner (a : CommunityAuction) : Bool := 0 < a.totalBids && 0 < a.currentHighestBid.getD 0

/-- `end_auction` on an object. -/
def endCommunityAuction (object row : CommunityAuction) (bids : List Bid) :
    Option (CommunityAuction × List Bid) :=
  if object.status.live = false then none
  else if hasWinner object then
    let ended := fun winner => flushCommunity object { object with
      status := .ended
      winnerPaymentPaid := false
      winnerPaymentOrderId := none
      winnerPaymentId := none
      currentWinnerId := winner } row
    match getHighestBid bids with
    | none => some (ended object.currentWinnerId, bids)
    | some top => some (ended (some top.bidderId), markWinningBid top.id bids)
  else some (flushCommunity object { object with status := .unsold } row, bids)

/-- `CommunityAuctionService.end_expired_auctions`. -/
def communitySweeper : Sweeper CommunityAuction where
  status := CommunityAuction.status
  endTime := CommunityAuction.endTime
  expired := fun a now => a.status.live && (a.endTime.any fun e => e < now)
  cached := true
  rereads := true
  counts := hasWinner
  close := endCommunityAuction

theorem validateCommunity_above {a : CommunityAuction} {r : Request} {g : Guards}
    (h : validateCommunity a r g = .ok ()) : a.currentHighestBid.getD 0 < r.amount := by
  simp only [validateCommunity, ite_raise_eq_ok] at h
  obtain ⟨-, -, -, -, hamount⟩ := h
  split at hamount
  · exact absurd hamount raise_ne_ok
  · next accepted hok =>
    obtain ⟨rfl, -⟩ := normalizeBidAmount_ok hok
    exact normalizeBidAmount_gt hok

theorem community_lawful : Lawful communityService communitySweeper where
  expired_le := by
    intro a now h
    simp only [communitySweeper, Bool.and_eq_true] at h
    exact any_le_of_lt h.2
  counts_bid := by
    intro loaded r g t now row hv
    have habove := validateCommunity_above hv
    have hne : some r.amount ≠ loaded.currentHighestBid := by
      intro heq
      rw [← heq] at habove
      exact absurd habove (lt_irrefl _)
    have hcount : flushColumn loaded.totalBids (loaded.totalBids + 1) row.totalBids =
        loaded.totalBids + 1 := flushColumn_changed (Nat.succ_ne_self _) _
    have hhigh : flushColumn loaded.currentHighestBid (some r.amount) row.currentHighestBid =
        some r.amount := flushColumn_changed hne _
    have hpos : 0 < r.amount := Nat.zero_lt_of_lt habove
    simp [communitySweeper, communityService, flushCommunity, bidOnCommunity, hasWinner, hcount,
      hhigh, hpos]
  counts_close := by
    intro object row bids row' bids' h
    simp only [communitySweeper, endCommunityAuction] at h ⊢
    split at h
    · cases h
    · split at h
      · split at h
        · obtain ⟨rfl, rfl⟩ := Prod.ext_iff.mp (Option.some.inj h)
          exact ⟨by simp [flushCommunity, hasWinner], id⟩
        · obtain ⟨rfl, rfl⟩ := Prod.ext_iff.mp (Option.some.inj h)
          exact ⟨by simp [flushCommunity, hasWinner], fun hnil => by simp [hnil]⟩
      · obtain ⟨rfl, rfl⟩ := Prod.ext_iff.mp (Option.some.inj h)
        exact ⟨by simp [flushCommunity, hasWinner], id⟩
  unsold_close := by
    intro object row bids row' bids' h hst
    simp only [communitySweeper, endCommunityAuction] at h hst ⊢
    split at h
    · cases h
    · split at h
      · split at h
        · obtain ⟨rfl, -⟩ := Prod.ext_iff.mp (Option.some.inj h)
          exact .inl (flushColumn_ended hst)
        · obtain ⟨rfl, -⟩ := Prod.ext_iff.mp (Option.some.inj h)
          exact .inl (flushColumn_ended hst)
      · next hno => exact .inr (.inr ⟨trivial, by simpa using hno⟩)

/-! ## The three sweeps -/

/-- **No sweep cuts off an accepted bid**, in any of the services, in a run whose sweeps find the
auction as they read it. -/
theorem sweep_never_cuts_off (auction : AuctionId) (fees : FeeTables) (clock : Time)
    (ls : List Label) :
    (∀ row, Run.Meets (step domainService domainSweeper) (Undisturbed domainSweeper)
        (.opened auction row fees clock) ls →
      Run.AllSteps (step domainService domainSweeper) (NoCutOff domainSweeper)
        (.opened auction row fees clock) ls) ∧
    (∀ row, Run.Meets (step softwareService softwareSweeper) (Undisturbed softwareSweeper)
        (.opened auction row fees clock) ls →
      Run.AllSteps (step softwareService softwareSweeper) (NoCutOff softwareSweeper)
        (.opened auction row fees clock) ls) ∧
    ∀ row, Run.Meets (step communityService communitySweeper) (Undisturbed communitySweeper)
        (.opened auction row fees clock) ls →
      Run.AllSteps (step communityService communitySweeper) (NoCutOff communitySweeper)
        (.opened auction row fees clock) ls :=
  ⟨fun _ h => no_cut_off domain_lawful h, fun _ h => no_cut_off software_lawful h,
    fun _ h => no_cut_off community_lawful h⟩

def emptyFees : FeeTables := ⟨[], .empty, .empty⟩

/-- Auctions from 100 rupees that end at 100; the clock shows 99. -/
def domainAt99 : State DomainRow := .opened 0 ⟨9, 10000, .active, 100, none, none, 0⟩ emptyFees 99

def softwareAt99 : State SoftwareAuction :=
  .opened 0 ⟨0, 10000, 1, .active, .approved, some 100, 0, none, 0, none, none, false⟩ emptyFees 99

def communityAt99 : State CommunityAuction :=
  .opened 0 ⟨0, 9, 10000, 1, .active, some 100, none, none, 0, none, none, false⟩ emptyFees 99

/-- User 1 pays a bid fee and bids 120 rupees; everything but the commit. -/
def lateBid : List Label :=
  [.bid (.bidFeeOrder ⟨.domain, 1, 11800, false, true⟩ 12000), .bid (.capture 0),
    .bid (.lock 0 ⟨1, 12000, ⟨0, 0, true⟩⟩), .bid (.verify 0 ⟨0, true, true, none⟩),
    .bid (.clear 0 0), .bid (.flush 0)]

/-- The bid is committed before the end; a sweep after the end finds nothing, one after the extended
end closes the auction. -/
def sweepAfterBid : List Label :=
  lateBid ++ [.bid (.commit 0), .pass 2, .collect 0, .pass 300, .collect 0, .close 0]

/-- A sweep collects the auction after its end and closes it once the bid is committed. -/
def sweepAcrossBid : List Label := lateBid ++ [.pass 2, .collect 0, .bid (.commit 0), .close 0]

theorem sweep_never_cuts_off_after :
    (Run.Meets (step domainService domainSweeper) (Undisturbed domainSweeper) domainAt99
        sweepAfterBid ∧
      Run.AllSteps (step domainService domainSweeper) (NoCutOff domainSweeper) domainAt99
        sweepAfterBid) ∧
    (Run.Meets (step softwareService softwareSweeper) (Undisturbed softwareSweeper) softwareAt99
        sweepAfterBid ∧
      Run.AllSteps (step softwareService softwareSweeper) (NoCutOff softwareSweeper) softwareAt99
        sweepAfterBid) ∧
    Run.Meets (step communityService communitySweeper) (Undisturbed communitySweeper) communityAt99
        sweepAfterBid ∧
      Run.AllSteps (step communityService communitySweeper) (NoCutOff communitySweeper)
        communityAt99 sweepAfterBid := by
  have hall := sweep_never_cuts_off 0 emptyFees 99 sweepAfterBid
  have hdomain : Run.Meets (step domainService domainSweeper) (Undisturbed domainSweeper) domainAt99
      sweepAfterBid := by decide
  have hsoftware : Run.Meets (step softwareService softwareSweeper) (Undisturbed softwareSweeper)
      softwareAt99 sweepAfterBid := by decide
  have hcommunity : Run.Meets (step communityService communitySweeper) (Undisturbed communitySweeper)
      communityAt99 sweepAfterBid := by decide
  exact ⟨⟨hdomain, hall.1 _ hdomain⟩, ⟨hsoftware, hall.2.1 _ hsoftware⟩,
    hcommunity, hall.2.2 _ hcommunity⟩

/-- **A bid of the last second is cut off.** It extends the auction to 400; at 101 the domain goes to
payment, and the other two are marked UNSOLD although they have a bid. -/
theorem sweep_cuts_off_late_bid :
    ¬ Run.AllSteps (step domainService domainSweeper) (NoCutOff domainSweeper) domainAt99
        sweepAcrossBid ∧
      ¬ Run.AllSteps (step softwareService softwareSweeper) (NoCutOff softwareSweeper) softwareAt99
        sweepAcrossBid ∧
      ¬ Run.AllSteps (step communityService communitySweeper) (NoCutOff communitySweeper)
        communityAt99 sweepAcrossBid := by
  decide

end Deltapreneur.Auction.Sweep
