import Deltapreneur.Auction.PlaceBid

/-!
# Concurrent bids on a domain auction

The instance of `PlaceBid.lean` for `BidService` (`app/service/auction/bid_service.py`), and the
agreement of the auction row with the bids. The confirmation of a redemption in the middle of a
bid gives the row lock away; a bid that gets in there is overwritten by the stale object.

Results:

* `bid_ledger_agrees`: in every run whose commits are such, the auction row agrees with the bids in
  every state reached.
* `bid_ledger_unredeemed`: so it is where no verified bid fee has a pending redemption.
* `redemption_splits_bid`: a confirmed redemption lets another bid through and loses it.
-/

namespace Deltapreneur.Auction.PlaceBid

open EdgePoints Marketplace UnitOfWork

/-! ## The service -/

/-- The columns of `Auction` that `place_bid` reads or writes. -/
structure DomainRow where
  createdBy : UserId
  minBidPrice : Paise
  status : AuctionStatus
  endTime : Time
  currentHighestBid : Option Paise
  currentWinnerId : Option UserId
  totalBids : Nat
  deriving Repr, DecidableEq

namespace DomainRow

/-- `_validate_auction_state`. -/
def validateAuctionState (a : DomainRow) (now : Time) : Except AppException Unit :=
  if a.status.live = false then
    raise ("Auction is not accepting bids (status=" ++ a.status.value ++ ").") 409
  else if a.endTime ≤ now then raise "Auction has already expired." 409
  else .ok ()

/-- `_validate_bid_amount`. -/
def validateBidAmount (a : DomainRow) (amount : Paise) : Except AppException Unit :=
  match normalizeBidAmount amount (a.currentHighestBid.getD 0) a.minBidPrice with
  | .error message => raise message 400
  | .ok _ => .ok ()

/-- The checks before the fee. -/
def validate (a : DomainRow) (r : Request) (g : Guards) : Except AppException Unit :=
  if r.amount = 0 then raise "Bid amount must be positive." 400
  else match a.validateAuctionState g.now with
    | .error e => .error e
    | .ok () =>
      if g.verified = false then
        raise "Bidding is blocked until the domain is verified by the owner." 400
      else if g.canBid = false then
        raise "Your account is blocked from bidding after an unpaid auction win." 403
      else a.validateBidAmount r.amount

/-- The check after the fee. -/
def accept (a : DomainRow) (r : Request) : Except AppException Unit :=
  if a.createdBy = r.bidder then
    raise "Auction creator cannot bid on their own auction." 403
  else .ok ()

/-- The object after steps 4 and 6 of `_place_bid_locked`. -/
def bidOn (r : Request) (now : Time) (a : DomainRow) : DomainRow :=
  let snipe := applyAntiSnipe (some a.endTime) now a.status
  { a with
    endTime := snipe.1.getD a.endTime
    status := snipe.2.1
    currentHighestBid := some r.amount
    currentWinnerId := some r.bidder
    totalBids := a.totalBids + 1 }

/-- The row after the flush of an object. -/
def flush (loaded new row : DomainRow) : DomainRow where
  createdBy := flushColumn loaded.createdBy new.createdBy row.createdBy
  minBidPrice := flushColumn loaded.minBidPrice new.minBidPrice row.minBidPrice
  status := flushColumn loaded.status new.status row.status
  endTime := flushColumn loaded.endTime new.endTime row.endTime
  currentHighestBid := flushColumn loaded.currentHighestBid new.currentHighestBid
    row.currentHighestBid
  currentWinnerId := flushColumn loaded.currentWinnerId new.currentWinnerId row.currentWinnerId
  totalBids := flushColumn loaded.totalBids new.totalBids row.totalBids

@[simp] theorem flush_fresh (row new : DomainRow) : flush row new row = new := by
  simp [flush]

end DomainRow

/-- `BidService.place_bid`; the anti-snipe decision looks at the clock again. -/
def domainService : Service DomainRow where
  auctionType := .domain
  sync := false
  validate := DomainRow.validate
  accept := DomainRow.accept
  bidOn := fun r _ now a => a.bidOn r now
  flush := DomainRow.flush
  flags := true

/-! ## The ledger -/

/-- The auction row agrees with the bids: the count is theirs, and exactly one of them, the
greatest, is flagged and is the one the row names. -/
structure LedgerAgrees (row : DomainRow) (bids : List Bid) : Prop where
  count : row.totalBids = bids.length
  winner : bids ≠ [] → ∃ b, bids.filter (·.isWinningBid) = [b] ∧ (∀ c ∈ bids, c.amount ≤ b.amount) ∧
    row.currentHighestBid = some b.amount ∧ row.currentWinnerId = some b.bidderId

/-- A row read earlier: fewer bids were counted then, or it is the row as it is. -/
structure Behind (loaded row : DomainRow) : Prop where
  le : loaded.totalBids ≤ row.totalBids
  eq : loaded.totalBids = row.totalBids → loaded = row

/-- What a request knows when it is about to write. -/
structure Prepared (row : DomainRow) (bids : List Bid) (r : Request) (loaded new : DomainRow)
    (flags : List Nat) : Prop where
  behind : Behind loaded row
  above : loaded.currentHighestBid.getD 0 < r.amount
  object : ∃ now, new = loaded.bidOn r now
  flags : loaded.totalBids = row.totalBids → flags = winners bids

/-- What a request in flight has read and checked, against the committed tables. -/
def Phase.Sound (row : DomainRow) (bids : List Bid) : Phase DomainRow → Prop
  | .idle => True
  | .locked _ loaded => Behind loaded row
  | .verified r loaded _ => Behind loaded row ∧ loaded.currentHighestBid.getD 0 < r.amount
  | .cleared r loaded new flags | .flushed r loaded new flags =>
    Prepared row bids r loaded new flags

/-- The invariant of a run. -/
structure Inv (s : State DomainRow) : Prop where
  ledger : LedgerAgrees s.row s.bids
  sound : ∀ k, (s.requests k).Sound s.row s.bids

/-- No bid was committed since the request read the row. -/
def Phase.Fresh (row : DomainRow) : Phase DomainRow → Prop
  | .flushed _ loaded _ _ => loaded.totalBids = row.totalBids
  | _ => True

instance (row : DomainRow) : (p : Phase DomainRow) → Decidable (p.Fresh row)
  | .flushed _ _ _ _ => inferInstanceAs (Decidable (_ = _))
  | .idle | .locked _ _ | .verified _ _ _ | .cleared _ _ _ _ => .isTrue trivial

/-- The condition on a step: a committing request is fresh. -/
def Fresh (s : State DomainRow) : Label → Prop
  | .commit k => (s.requests k).Fresh s.row
  | _ => True

instance (s : State DomainRow) : (l : Label) → Decidable (Fresh s l)
  | .commit k => inferInstanceAs (Decidable ((s.requests k).Fresh s.row))
  | .lock _ _ | .verify _ _ | .clear _ _ | .flush _ | .abort _ | .bidFeeOrder _ _ | .capture _
  | .award _ _ => .isTrue trivial

variable {s s' : State DomainRow} {k : Nat} {l : Label} {r : Request} {loaded new row : DomainRow}
  {bids : List Bid} {flags : List Nat} {p p' : Phase DomainRow}

theorem Behind.refl (row : DomainRow) : Behind row row := ⟨le_rfl, fun _ => rfl⟩

theorem Behind.succ (h : Behind loaded row) (hcount : new.totalBids = row.totalBids + 1) :
    Behind loaded new ∧ loaded.totalBids ≠ new.totalBids := by
  have hle := h.le
  have hne : loaded.totalBids ≠ new.totalBids := by omega
  exact ⟨⟨by omega, fun heq => absurd heq hne⟩, hne⟩

theorem Phase.Sound.succ {bids' : List Bid} (h : p.Sound row bids)
    (hcount : new.totalBids = row.totalBids + 1) : p.Sound new bids' := by
  have prepared {r loaded new' flags} (h : Prepared row bids r loaded new' flags) :
      Prepared new bids' r loaded new' flags := by
    obtain ⟨hbehind, hne⟩ := h.behind.succ hcount
    exact ⟨hbehind, h.above, h.object, fun heq => absurd heq hne⟩
  cases p with
  | idle => trivial
  | locked r loaded => exact (Behind.succ h hcount).1
  | verified r loaded checked => exact ⟨(h.1.succ hcount).1, h.2⟩
  | cleared r loaded new' flags => exact prepared h
  | flushed r loaded new' flags => exact prepared h

/-! ## Moves -/

theorem validate_above {g : Guards} (h : loaded.validate r g = .ok ()) :
    loaded.currentHighestBid.getD 0 < r.amount := by
  simp only [DomainRow.validate, ite_raise_eq_ok] at h
  obtain ⟨-, h⟩ := h
  split at h
  · cases h
  · simp only [ite_raise_eq_ok, DomainRow.validateBidAmount] at h
    obtain ⟨-, -, hamount⟩ := h
    split at hamount
    · exact absurd hamount raise_ne_ok
    · next accepted hok =>
      obtain ⟨rfl, -⟩ := normalizeBidAmount_ok hok
      exact normalizeBidAmount_gt hok

theorem Phase.Sound.move (hmove : Moves domainService s p p') (h : p.Sound s.row s.bids) :
    p'.Sound s.row s.bids := by
  cases hmove with
  | finish p => trivial
  | lock r hfree => exact Behind.refl s.row
  | verify r loaded g hv => exact ⟨h, validate_above hv⟩
  | clear r loaded checked now => exact ⟨h.1, h.2, ⟨now, rfl⟩, fun _ => rfl⟩
  | flush r loaded new flags => exact h

/-! ## Commits -/

theorem clearFlags_amount {c : Bid} (h : c ∈ clearFlags flags bids) :
    ∃ b ∈ bids, c.amount = b.amount := by
  obtain ⟨b, hb, rfl⟩ := List.mem_map.mp h
  refine ⟨b, hb, ?_⟩
  split_ifs <;> rfl

theorem filter_clearFlags_winners :
    (clearFlags (winners bids) bids).filter (·.isWinningBid) = [] := by
  rw [List.filter_eq_nil_iff]
  intro c hc
  obtain ⟨b, hb, rfl⟩ := List.mem_map.mp hc
  split_ifs with hmem
  · simp
  · intro hwin
    exact hmem (List.mem_map.mpr ⟨b, List.mem_filter.mpr ⟨hb, hwin⟩, rfl⟩)

theorem LedgerAgrees.amount_le (h : LedgerAgrees row bids) {c : Bid} (hc : c ∈ bids) :
    c.amount ≤ row.currentHighestBid.getD 0 := by
  obtain ⟨b, -, hmax, hhigh, -⟩ := h.winner (List.ne_nil_of_mem hc)
  rw [hhigh]
  exact hmax c hc

/-- A bid above the highest one, written over the row it was checked against. -/
theorem ledgerAgrees_bid {now : Time} {i : Nat} (h : LedgerAgrees row bids)
    (habove : row.currentHighestBid.getD 0 < r.amount) :
    LedgerAgrees (row.bidOn r now)
      (clearFlags (winners bids) bids ++ [⟨i, r.bidder, r.amount, true⟩]) := by
  constructor
  · have hlen : (clearFlags (winners bids) bids).length = bids.length := List.length_map _
    rw [List.length_append, hlen, ← h.count]
    rfl
  · intro _
    refine ⟨⟨i, r.bidder, r.amount, true⟩, ?_, ?_, rfl, rfl⟩
    · rw [List.filter_append, filter_clearFlags_winners]
      rfl
    · intro c hc
      rcases List.mem_append.mp hc with hold | hnew
      · obtain ⟨b, hb, hamount⟩ := clearFlags_amount hold
        rw [hamount]
        exact ((h.amount_le hb).trans_lt habove).le
      · rw [List.mem_singleton.mp hnew]

theorem inv_commit (hinv : Inv s) (hk : s.requests k = .flushed r loaded new flags)
    (hfresh : loaded.totalBids = s.row.totalBids) :
    Inv ((commitBid domainService s r loaded new flags).finish k) := by
  have hprep : Prepared s.row s.bids r loaded new flags := by
    have hsound := hinv.sound k
    rwa [hk] at hsound
  obtain ⟨now, rfl⟩ := hprep.object
  obtain rfl := hprep.behind.eq hfresh
  obtain rfl := hprep.flags rfl
  have hrow : ((commitBid domainService s r s.row (s.row.bidOn r now) (winners s.bids)).finish k).row =
      s.row.bidOn r now := DomainRow.flush_fresh _ _
  constructor
  · rw [hrow]
    exact ledgerAgrees_bid hinv.ledger hprep.above
  · rw [hrow]
    refine (Function.forall_update_iff s.requests fun _ p => p.Sound _ _).mpr ⟨trivial, ?_⟩
    intro j _
    exact (hinv.sound j).succ rfl

/-! ## Runs -/

theorem BidStep.inv (h : BidStep domainService s l s') (hinv : Inv s) (hok : Fresh s l) : Inv s' := by
  cases h with
  | same s' hrow hbids hreq =>
    refine ⟨by rw [hrow, hbids]; exact hinv.ledger, fun k => ?_⟩
    rw [hrow, hbids, hreq]
    exact hinv.sound k
  | move s' j p hl hmove hrow hbids hreq =>
    refine ⟨by rw [hrow, hbids]; exact hinv.ledger, ?_⟩
    rw [hrow, hbids, hreq, Function.forall_update_iff s.requests fun _ p => p.Sound s.row s.bids]
    exact ⟨(hinv.sound j).move hmove, fun k _ => hinv.sound k⟩
  | commit j r loaded new flags hl hk =>
    subst hl
    simp only [Fresh, hk] at hok
    exact inv_commit hinv hk hok

/-- **Every fresh step keeps the ledger.** -/
theorem inv_step (s : State DomainRow) (l : Label) (hinv : Inv s) (hok : Fresh s l) :
    Inv (step domainService s l) :=
  (bidStep_step domainService s l).inv hinv hok

/-- A domain auction without bids. -/
def openedDomain (auction : AuctionId) (createdBy : UserId) (minBidPrice : Paise)
    (status : AuctionStatus) (endTime : Time) (fees : FeeTables) : State DomainRow :=
  .opened auction ⟨createdBy, minBidPrice, status, endTime, none, none, 0⟩ fees

theorem inv_openedDomain {auction : AuctionId} {createdBy : UserId} {minBidPrice : Paise}
    {status : AuctionStatus} {endTime : Time} {fees : FeeTables} :
    Inv (openedDomain auction createdBy minBidPrice status endTime fees) :=
  ⟨⟨rfl, fun h => absurd rfl h⟩, fun _ => trivial⟩

/-- **The bid ledger agrees.** In every interleaving whose commits are fresh, the auction row
agrees with the bids in every state reached. -/
theorem bid_ledger_agrees (auction : AuctionId) (createdBy : UserId) (minBidPrice : Paise)
    (status : AuctionStatus) (endTime : Time) (fees : FeeTables) (ls : List Label)
    (h : Run.Meets (step domainService) Fresh
      (openedDomain auction createdBy minBidPrice status endTime fees) ls) :
    let s := Run.exec (step domainService)
      (openedDomain auction createdBy minBidPrice status endTime fees) ls
    LedgerAgrees s.row s.bids :=
  (Run.exec_inv inv_step inv_openedDomain h).ledger

/-! ## Two bids -/

/-- User 9 auctions a domain from 100 rupees. -/
def openedAuction : State DomainRow := openedDomain 0 9 10000 .active 100000 ⟨[], .empty, .empty⟩

/-- User 1 redeems 20 points on the fee of a bid of 120 rupees, user 2 redeems none on the fee of
140 rupees; both pay. -/
def feesPaid : List Label :=
  [.award 1 20, .bidFeeOrder ⟨.domain, 1, 11800, true, true⟩ 12000,
    .bidFeeOrder ⟨.domain, 2, 11800, false, true⟩ 14000, .capture 0, .capture 1]

/-- A request up to its verified fee. -/
def startBid (k : Nat) (r : Request) : List Label := [.lock k r, .verify k ⟨10, true, true, none⟩]

/-- The rest of the request. -/
def finishBid (k : Nat) : List Label := [.clear k 20, .flush k, .commit k]

/-- User 1 bids, then user 2. -/
def bidsInTurn : List Label :=
  feesPaid ++ startBid 0 ⟨1, 12000, ⟨0, 0, true⟩⟩ ++ finishBid 0 ++
    startBid 1 ⟨2, 14000, ⟨1, 1, true⟩⟩ ++ finishBid 1

/-- User 2 bids while the redemption of user 1 has just been confirmed. -/
def bidsCrossing : List Label :=
  feesPaid ++ startBid 0 ⟨1, 12000, ⟨0, 0, true⟩⟩ ++ startBid 1 ⟨2, 14000, ⟨1, 1, true⟩⟩ ++
    finishBid 1 ++ finishBid 0

theorem bid_ledger_agrees_inTurn :
    Run.Meets (step domainService) Fresh openedAuction bidsInTurn ∧
      LedgerAgrees (Run.exec (step domainService) openedAuction bidsInTurn).row
        (Run.exec (step domainService) openedAuction bidsInTurn).bids := by
  have hfresh : Run.Meets (step domainService) Fresh openedAuction bidsInTurn := by decide
  exact ⟨hfresh, bid_ledger_agrees 0 9 10000 .active 100000 ⟨[], .empty, .empty⟩ bidsInTurn hfresh⟩

/-- **Without redemptions the lock is enough**: in every interleaving in which no verified bid fee has
a pending redemption, the auction row agrees with the bids. -/
theorem bid_ledger_unredeemed (auction : AuctionId) (createdBy : UserId) (minBidPrice : Paise)
    (status : AuctionStatus) (endTime : Time) (fees : FeeTables) {ls : List Label}
    (h : Run.Meets (step domainService) (Unredeemed domainService)
      (openedDomain auction createdBy minBidPrice status endTime fees) ls) :
    let s := Run.exec (step domainService)
      (openedDomain auction createdBy minBidPrice status endTime fees) ls
    LedgerAgrees s.row s.bids := by
  have hexclusive : Exclusive (openedDomain auction createdBy minBidPrice status endTime fees) :=
    exclusive_of_quiet fun _ => rfl
  refine (Run.exec_inv inv_step inv_openedDomain (Run.allSteps_of_inv exclusive_step
    (fun s l hex _ => ?_) hexclusive h)).ledger
  cases l with
  | commit k =>
    change (s.requests k).Fresh s.row
    cases hk : s.requests k with
    | flushed r loaded new flags =>
      obtain ⟨-, hrow⟩ := hex k loaded (by rw [hk]; rfl)
      rw [hrow]
      rfl
    | _ => trivial
  | _ => trivial

/-- User 2 asks for the lock while user 1, who redeems nothing, holds it. -/
theorem bid_ledger_unredeemed_waiting :
    let s := Run.exec (step domainService) openedAuction
      [.bidFeeOrder ⟨.domain, 1, 11800, false, true⟩ 12000, .capture 0,
        .lock 0 ⟨1, 12000, ⟨0, 0, true⟩⟩, .lock 1 ⟨2, 14000, ⟨1, 1, true⟩⟩,
        .verify 0 ⟨10, true, true, none⟩, .clear 0 20, .flush 0, .commit 0]
    LedgerAgrees s.row s.bids :=
  bid_ledger_unredeemed 0 9 10000 .active 100000 ⟨[], .empty, .empty⟩
    ⟨trivial, trivial, trivial, trivial, rfl, trivial, trivial, trivial, trivial⟩

/-- **A redemption splits a bid.** Both requests have returned, both bids are committed, and the
auction counts one. -/
theorem redemption_splits_bid :
    (Run.exec (step domainService) openedAuction bidsCrossing).Quiet ∧
      ¬ LedgerAgrees (Run.exec (step domainService) openedAuction bidsCrossing).row
        (Run.exec (step domainService) openedAuction bidsCrossing).bids := by
  constructor
  · intro k
    by_cases h0 : k = 0
    · subst h0
      decide
    · by_cases h1 : k = 1
      · subst h1
        decide
      · -- no step of the run belongs to request `k`
        have hother : Run.Meets (step domainService) (fun _ l => l.request ≠ some k) openedAuction
            bidsCrossing := by
          simp [bidsCrossing, feesPaid, startBid, finishBid, Label.request, Ne.symm h0, Ne.symm h1]
        exact Run.exec_inv (P := fun s => s.requests k = .idle)
          (fun s l hs hl => ((bidStep_step _ s l).requests_ne hl).trans hs) rfl hother
  · intro h
    exact absurd h.count (by decide)

end Deltapreneur.Auction.PlaceBid
