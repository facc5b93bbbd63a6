import Deltapreneur.Auction.System

/-!
# The winner of a round

Who wins a software auction that ends. `re_auction` sets `total_bids` and `current_highest_bid`
back to zero but leaves the bids of earlier rounds in the table, and `_end_auction` takes the
greatest of all bids of the auction. `re_auction` of a community auction deletes them.

* `roundStep` runs the system and remembers, for one auction, the bids accepted since it last
  started from zero (`BidRow`s, newest first).
* `NewestLeads`: the greatest bid of the auction, of any round, is by the bidder of the newest one.

Results:

* `agrees_step`, `tally_of_round`: count and highest bid are those of the round, and its newest bid
  is the newest of the table.
* `winner_from_round`: in every run, whoever wins has placed the greatest bid of the round, and it
  is the highest bid of the auction, exactly when the newest bid leads.
* `old_bid_wins`: the winner of a round did not pay, and wins the next one too.
-/

namespace Deltapreneur.Auction

open EdgePoints Marketplace

/-! ## The bids of a round -/

/-- The call is an accepted `re_auction` of the auction: it starts again from zero bids. -/
def Restarts (db : AuctionDb) (auction : AuctionId) : Label → Bool
  | .reAuctionSoftware r => r.auction = auction && (Software.reAuction db r).result.isOk
  | _ => false

/-- The bid that a call places on the auction, if it is accepted. -/
def bidPlaced (db : AuctionDb) (auction : AuctionId) : Label → Option BidRow
  | .bidSoftware r =>
    if r.auction = auction ∧ (Software.placeBid db r).result.isOk then
      some ⟨r.auction, r.bidder, r.amount, r.now, false⟩
    else none
  | _ => none

/-- One call, with the bids of the auction's round next to the tables. -/
def roundStep (auction : AuctionId) (s : AuctionDb × List BidRow) (l : Label) :
    AuctionDb × List BidRow :=
  (step s.1 l,
    if Restarts s.1 auction l then [] else (bidPlaced s.1 auction l).toList ++ s.2)

/-- The call sets the auction to `ENDED`. -/
def Ends (db : AuctionDb) (auction : AuctionId) : Label → Prop
  | .endSoftware j now => j = auction ∧
    ((db.software[auction]?).any fun a => a.status.live) = true ∧
    ((Software.endExpired db j now).software[auction]?).map SoftwareAuction.status = some .ended
  | _ => False

instance (db : AuctionDb) (auction : AuctionId) : (l : Label) → Decidable (Ends db auction l)
  | .endSoftware _ _ => inferInstanceAs (Decidable (_ ∧ _ ∧ _))
  | .createSoftware _ | .approveSoftware _ _ | .rejectSoftware _ | .takeDownSoftware _
  | .approveAgainSoftware _ _ | .bidSoftware _ | .reAuctionSoftware _ | .closeSoftware _ _ _
  | .forfeitSoftware _ | .orderSoftware _ | .verifySoftware _ | .createCommunity _
  | .activateCommunity _ _ _ | .bidCommunity _ | .endCommunity _ _ | .reAuctionCommunity _
  | .closeCommunity _ _ _ | .orderCommunity _ _ _ | .verifyCommunity _ _ _ | .creationFeeOrder _
  | .bidFeeOrder _ _ _ | .verifyCreationFee _ _ _ | .otherOrder _ _ | .capture _
  | .award _ _ => .isFalse id

/-- The winner has placed a bid of the round, the greatest, and it is the highest bid. -/
def WonBy (round : List BidRow) (a : SoftwareAuction) : Prop :=
  ∃ b ∈ round, a.currentWinnerId = some b.bidderId ∧ (∀ c ∈ round, c.amount ≤ b.amount) ∧
    a.currentHighestBid = b.amount

instance (round : List BidRow) (a : SoftwareAuction) : Decidable (WonBy round a) :=
  inferInstanceAs (Decidable (∃ b ∈ round, _))

/-- The auction's bids, newest first, without their winning flags. -/
def AuctionDb.bidsOf (db : AuctionDb) (auction : AuctionId) : List (UserId × Paise) :=
  (db.softwareBids.filter fun b => b.auctionId = auction).map fun b => (b.bidderId, b.amount)

/-- The greatest of all bids of the auction is by the bidder of the newest one. -/
def NewestLeads (db : AuctionDb) (auction : AuctionId) : Prop :=
  (Software.topBid db.softwareBids auction).map BidRow.bidderId =
    (db.bidsOf auction).head?.map Prod.fst

instance (db : AuctionDb) (auction : AuctionId) : Decidable (NewestLeads db auction) :=
  inferInstanceAs (Decidable (_ = _))

/-! ## What a call does to the tally -/

/-- The count of bids and the highest one. -/
def SoftwareAuction.tally (a : SoftwareAuction) : Nat × Paise := (a.totalBids, a.currentHighestBid)

def AuctionDb.tally (db : AuctionDb) (auction : AuctionId) : Option (Nat × Paise) :=
  (db.software[auction]?).map SoftwareAuction.tally

/-- The bids stay, and so does the tally unless the auction is new. -/
structure Tallies (db db' : AuctionDb) (auction : AuctionId) : Prop where
  bids : db'.bidsOf auction = db.bidsOf auction
  tally : db'.tally auction = db.tally auction ∨
    (db.tally auction = none ∧ db'.tally auction = some (0, 0))

variable {db db' : AuctionDb} {auction j : AuctionId} {f : SoftwareAuction → SoftwareAuction}
  {a : SoftwareAuction} {l : Label}

theorem Tallies.of_eq (hs : db'.software = db.software)
    (hb : db'.softwareBids = db.softwareBids) : Tallies db db' auction :=
  ⟨by rw [AuctionDb.bidsOf, hb]; rfl, .inl (by rw [AuctionDb.tally, hs]; rfl)⟩

theorem tally_modify (hf : ∀ a, (f a).tally = a.tally) (rows : List SoftwareAuction) (i : Nat) :
    ((rows.modify j f)[i]?).map SoftwareAuction.tally = (rows[i]?).map SoftwareAuction.tally := by
  rw [List.getElem?_modify]
  cases hrow : rows[i]? with
  | none => rfl
  | some a =>
    by_cases hij : j = i
    · simp [hij, hf]
    · simp [hij]

theorem Tallies.edit (hs : db'.software = db.software.modify j f) (hf : ∀ a, (f a).tally = a.tally)
    (hb : db'.bidsOf auction = db.bidsOf auction) : Tallies db db' auction :=
  ⟨hb, .inl (by rw [AuctionDb.tally, hs]; exact tally_modify hf db.software auction)⟩

theorem Tallies.other (hne : j ≠ auction) (hs : db'.software = db.software.modify j f)
    (hb : db'.bidsOf auction = db.bidsOf auction) : Tallies db db' auction := by
  refine ⟨hb, .inl ?_⟩
  unfold AuctionDb.tally
  rw [hs]
  exact congrArg _ (List.getElem?_modify_ne f db.software hne)

theorem tallies_onSoftware {check : SoftwareAuction → Except AppException Unit}
    (hf : ∀ a, (f a).tally = a.tally) : Tallies db (db.onSoftware j check f).db auction := by
  unfold AuctionDb.onSoftware
  split
  · exact .of_eq rfl rfl
  split
  · exact .of_eq rfl rfl
  · exact .edit rfl hf rfl

theorem bidsOf_reflag {flag : BidRow → Bool} {other : AuctionId} (rows : List BidRow) :
    ((rows.map fun b => if b.auctionId = other then { b with isWinningBid := flag b } else b).filter
      fun b => b.auctionId = auction).map (fun b => (b.bidderId, b.amount)) =
    (rows.filter fun b => b.auctionId = auction).map fun b => (b.bidderId, b.amount) := by
  rw [List.filter_map, List.map_map]
  have hkeep : ∀ b : BidRow,
      (if b.auctionId = other then { b with isWinningBid := flag b } else b).auctionId =
        b.auctionId := by
    intro b
    split_ifs <;> rfl
  simp only [Function.comp_def, hkeep]
  refine List.map_congr_left fun b _ => ?_
  split_ifs <;> rfl

theorem tallies_endExpired {now : Time} : Tallies db (Software.endExpired db j now) auction := by
  unfold Software.endExpired
  split
  · exact .of_eq rfl rfl
  split
  · unfold Software.endAuction
    split
    · exact .edit rfl (fun _ => rfl) rfl
    · dsimp only
      split
      · exact .edit rfl (fun _ => rfl) rfl
      · exact .edit rfl (fun _ => rfl) (bidsOf_reflag db.softwareBids)
  · exact .of_eq rfl rfl

theorem tallies_append (ha : a.tally = (0, 0)) (hs : db'.software = db.software ++ [a])
    (hb : db'.softwareBids = db.softwareBids) : Tallies db db' auction := by
  refine ⟨by rw [AuctionDb.bidsOf, hb]; rfl, ?_⟩
  unfold AuctionDb.tally
  rw [hs, List.getElem?_append]
  split_ifs with hlt
  · exact .inl rfl
  · rw [List.getElem?_eq_none (Nat.le_of_not_lt hlt), List.getElem?_singleton]
    split_ifs
    · exact .inr ⟨rfl, by simp [ha]⟩
    · exact .inl rfl

theorem tallies_createAuction (r : Software.CreateRequest) :
    Tallies db (Software.createAuction db r).db auction := by
  unfold Software.createAuction
  split
  · exact .of_eq rfl rfl
  split
  · exact .of_eq rfl rfl
  split
  · unfold Software.insertAuction
    split
    · exact tallies_append rfl rfl rfl
    split
    · exact .of_eq rfl rfl
    · exact tallies_append rfl rfl rfl
  · split
    · exact .edit rfl (fun _ => rfl) rfl
    · exact .of_eq rfl rfl

theorem tallies_forfeit : Tallies db (Software.forfeit db j) auction := by
  unfold Software.forfeit
  split
  · exact .edit rfl (fun _ => rfl) rfl
  · exact .edit rfl (fun _ => rfl) rfl
  · exact .of_eq rfl rfl

theorem tallies_createWinnerPaymentOrder (r : Software.WinnerOrderRequest) :
    Tallies db (Software.createWinnerPaymentOrder db r).db auction := by
  unfold Software.createWinnerPaymentOrder
  split
  · exact .of_eq rfl rfl
  split_ifs
  all_goals try exact .of_eq rfl rfl
  split
  · exact .of_eq rfl rfl
  · exact .edit rfl (fun _ => rfl) rfl

theorem tallies_verifyWinnerPayment (r : Software.VerifyRequest) :
    Tallies db (Software.verifyWinnerPayment db r).db auction := by
  unfold Software.verifyWinnerPayment
  split
  · exact .of_eq rfl rfl
  split_ifs
  all_goals try exact .of_eq rfl rfl
  dsimp only
  split
  · exact .of_eq rfl rfl
  · next a _ _ _ _ _ _ db' hok =>
    rw [completeAuctionWinnerPurchase_frame hok]
    exact .edit rfl (fun _ => rfl) rfl

theorem thenConsume_softwareBids {user : UserId} {order : OrderId} {waived : Bool} :
    (Community.thenConsume db user order auction waived).db.softwareBids = db.softwareBids := by
  rw [thenConsume_frame]

theorem softwareBids_community (h : l.onCommunity = true) :
    (step db l).softwareBids = db.softwareBids := by
  cases l with
  | createCommunity r =>
    simp only [step, call, Community.createAuction]
    repeat' split
    all_goals first
      | rfl
      | exact thenConsume_softwareBids
  | activateCommunity j user now =>
    simp only [step, call, Community.activateAuctionAfterPayment]
    repeat' split
    all_goals rfl
  | bidCommunity r =>
    simp only [step, call, Community.placeBid]
    repeat' split
    all_goals rfl
  | endCommunity j now =>
    simp only [step, call, Community.endExpired, Community.endAuction, auctionDone_db]
    repeat' split
    all_goals rfl
  | reAuctionCommunity r =>
    simp only [step, call, Community.reAuction]
    repeat' split
    all_goals first
      | rfl
      | exact thenConsume_softwareBids
  | closeCommunity j owner user =>
    simp only [step, call, Community.closeAuction]
    repeat' split
    all_goals rfl
  | orderCommunity j user up =>
    simp only [step, call, Community.createWinnerPaymentOrder]
    repeat' split
    all_goals rfl
  | verifyCommunity j user paid =>
    simp only [step, call, Community.verifyWinnerPayment]
    repeat' split
    all_goals rfl
  | _ => cases h

/-- **Every call but a bid and a restart keeps bids and tally.** -/
theorem tally_step (hbid : ∀ r, l ≠ .bidSoftware r) (hre : ∀ r, l ≠ .reAuctionSoftware r) :
    Tallies db (step db l) auction := by
  by_cases hcom : l.onCommunity = true
  · exact .of_eq (communityOnly_step hcom).software (softwareBids_community hcom)
  cases l with
  | createSoftware r => exact tallies_createAuction r
  | approveSoftware j now => exact tallies_onSoftware fun _ => rfl
  | rejectSoftware j => exact tallies_onSoftware fun _ => rfl
  | takeDownSoftware j => exact tallies_onSoftware fun _ => rfl
  | approveAgainSoftware j now => exact tallies_onSoftware fun _ => rfl
  | bidSoftware r => exact absurd rfl (hbid r)
  | endSoftware j now => exact tallies_endExpired
  | reAuctionSoftware r => exact absurd rfl (hre r)
  | closeSoftware j listedBy lister => exact tallies_onSoftware fun _ => rfl
  | forfeitSoftware j => exact tallies_forfeit
  | orderSoftware r => exact tallies_createWinnerPaymentOrder r
  | verifySoftware r => exact tallies_verifyWinnerPayment r
  | creationFeeOrder r => exact .of_eq rfl rfl
  | bidFeeOrder r j amount => exact .of_eq rfl rfl
  | verifyCreationFee user type p => exact .of_eq rfl rfl
  | otherOrder user amount =>
    simp only [step, call]
    split <;> exact .of_eq rfl rfl
  | capture order => exact .of_eq rfl rfl
  | award user points => exact .of_eq rfl rfl
  | _ => exact absurd rfl hcom

/-! ## Bids and restarts -/

/-- A refused bid leaves auctions and bids alone; an accepted one is the newest, above the highest
so far, and becomes the highest. -/
theorem placeBid_cases (db : AuctionDb) (r : Software.BidRequest) :
    ((Software.placeBid db r).result.isOk = false ∧
      (Software.placeBid db r).db.software = db.software ∧
      (Software.placeBid db r).db.softwareBids = db.softwareBids) ∨
    ((Software.placeBid db r).result.isOk = true ∧
      ∃ a, db.software[r.auction]? = some a ∧ a.currentHighestBid < r.amount ∧
        (Software.placeBid db r).db.software =
          db.software.modify r.auction (Software.bidOn r) ∧
        (Software.placeBid db r).db.softwareBids =
          ⟨r.auction, r.bidder, r.amount, r.now, false⟩ :: db.softwareBids) := by
  unfold Software.placeBid
  split
  · exact .inl ⟨rfl, rfl, rfl⟩
  split
  · exact .inl ⟨rfl, rfl, rfl⟩
  next a ha =>
  split_ifs
  all_goals try exact .inl ⟨rfl, rfl, rfl⟩
  split
  · exact .inl ⟨rfl, rfl, rfl⟩
  next amount hamount =>
  dsimp only
  split
  · exact .inl ⟨rfl, rfl, rfl⟩
  · have hgt := normalizeBidAmount_gt hamount
    rw [(normalizeBidAmount_ok hamount).1] at hgt
    exact .inr ⟨rfl, a, ha, hgt, rfl, rfl⟩

/-- A refused restart leaves auctions and bids alone; an accepted one sets the tally to zero and
keeps the bids. -/
theorem reAuction_cases (db : AuctionDb) (r : Software.ReAuctionRequest) :
    ((Software.reAuction db r).result.isOk = false ∧ (Software.reAuction db r).db = db) ∨
    ((Software.reAuction db r).result.isOk = true ∧
      ∃ a, db.software[r.auction]? = some a ∧
        (Software.reAuction db r).db.software =
          db.software.modify r.auction (Software.restart r) ∧
        (Software.reAuction db r).db.softwareBids =
          Software.clearWinningFlags db.softwareBids r.auction) := by
  unfold Software.reAuction
  split
  · exact .inl ⟨rfl, rfl⟩
  next a ha =>
  split_ifs
  · exact .inl ⟨rfl, rfl⟩
  · exact .inl ⟨rfl, rfl⟩
  split
  · exact .inl ⟨rfl, rfl⟩
  · exact .inr ⟨rfl, a, ha, rfl, rfl⟩

/-! ## The invariant -/

/-- The tally is that of the round: the count, and the amount of its newest bid, which is the
newest bid of the auction and above the others of the round. -/
structure Agrees (s : AuctionDb × List BidRow) (auction : AuctionId) : Prop where
  absent : s.1.tally auction = none → s.2 = []
  count : ∀ t, s.1.tally auction = some t → t.1 = s.2.length
  newest : ∀ b rest, s.2 = b :: rest →
    (∃ n, s.1.tally auction = some (n, b.amount)) ∧ (∀ c ∈ rest, c.amount < b.amount) ∧
      (s.1.bidsOf auction).head? = some (b.bidderId, b.amount)

variable {round : List BidRow}

theorem Agrees.tallies (h : Agrees (db, round) auction) (ht : Tallies db db' auction) :
    Agrees (db', round) auction := by
  rcases ht.tally with heq | ⟨hnone, hzero⟩
  · refine ⟨fun hn => h.absent (heq ▸ hn), fun t hsome => h.count t (heq ▸ hsome), ?_⟩
    intro b rest hround
    obtain ⟨⟨n, htally⟩, hmax, hhead⟩ := h.newest b rest hround
    exact ⟨⟨n, heq.trans htally⟩, hmax, ht.bids ▸ hhead⟩
  · have hempty : round = [] := h.absent hnone
    subst hempty
    refine ⟨fun _ => rfl, fun t hsome => ?_, fun b rest hround => absurd hround (by simp)⟩
    cases hzero.symm.trans hsome
    rfl

theorem agrees_bid (h : Agrees (db, round) auction) (r : Software.BidRequest) :
    Agrees (roundStep auction (db, round) (.bidSoftware r)) auction := by
  rcases placeBid_cases db r with ⟨hno, hs, hb⟩ | ⟨hok, a, ha, hgt, hs, hb⟩
  · have hnone : bidPlaced db auction (.bidSoftware r) = none := by simp [bidPlaced, hno]
    simp only [roundStep, Restarts, hnone]
    exact h.tallies (.of_eq hs hb)
  by_cases hj : r.auction = auction
  · subst hj
    have hrow : (Software.placeBid db r).db.tally r.auction = some (a.totalBids + 1, r.amount) := by
      simp [AuctionDb.tally, hs, ha, Software.bidOn, SoftwareAuction.tally]
    have hbids : (Software.placeBid db r).db.bidsOf r.auction =
        (r.bidder, r.amount) :: db.bidsOf r.auction := by
      simp [AuctionDb.bidsOf, hb]
    have htally : db.tally r.auction = some a.tally := by simp [AuctionDb.tally, ha]
    have hbelow : ∀ c ∈ round, c.amount < r.amount := by
      intro c hc
      cases round with
      | nil => cases hc
      | cons b rest =>
        obtain ⟨⟨n, hn⟩, hmax, -⟩ := h.newest b rest rfl
        have hb : b.amount = a.currentHighestBid :=
          (congrArg Prod.snd (Option.some.inj (htally.symm.trans hn))).symm
        rcases List.mem_cons.mp hc with rfl | hc
        · exact hb ▸ hgt
        · exact (hmax c hc).trans (hb ▸ hgt)
    have hplaced : bidPlaced db r.auction (.bidSoftware r) =
        some ⟨r.auction, r.bidder, r.amount, r.now, false⟩ := by simp [bidPlaced, hok]
    simp only [roundStep, Restarts, hplaced]
    refine ⟨fun hn => ?_, fun t hsome => ?_, fun b rest hround => ?_⟩
    · cases hrow.symm.trans hn
    · cases hrow.symm.trans hsome
      exact congrArg (· + 1) (h.count a.tally htally)
    · obtain ⟨rfl, rfl⟩ := List.cons.inj hround
      exact ⟨⟨_, hrow⟩, hbelow, congrArg List.head? hbids⟩
  · have hnone : bidPlaced db auction (.bidSoftware r) = none := by simp [bidPlaced, hj]
    simp only [roundStep, Restarts, hnone]
    exact h.tallies (.other hj hs (by simp [AuctionDb.bidsOf, step, call, hb, hj]))

theorem agrees_restart (h : Agrees (db, round) auction) (r : Software.ReAuctionRequest) :
    Agrees (roundStep auction (db, round) (.reAuctionSoftware r)) auction := by
  rcases reAuction_cases db r with ⟨hno, hs⟩ | ⟨hok, a, ha, hs, hb⟩
  · have hstay : roundStep auction (db, round) (.reAuctionSoftware r) = (db, round) := by
      simp [roundStep, Restarts, bidPlaced, hno, step, call, hs]
    rwa [hstay]
  by_cases hj : r.auction = auction
  · subst hj
    have hrow : (Software.reAuction db r).db.tally r.auction = some (0, 0) := by
      simp [AuctionDb.tally, hs, ha, Software.restart, SoftwareAuction.tally]
    have hrestarts : Restarts db r.auction (.reAuctionSoftware r) = true := by
      simp [Restarts, hok]
    simp only [roundStep, hrestarts, if_true]
    refine ⟨fun _ => rfl, fun t hsome => ?_, fun b rest hround => absurd hround (by simp)⟩
    cases hrow.symm.trans hsome
    rfl
  · have hno : Restarts db auction (.reAuctionSoftware r) = false := by simp [Restarts, hj]
    simp only [roundStep, hno, bidPlaced]
    refine h.tallies (.other hj hs ?_)
    simp only [AuctionDb.bidsOf, step, call, hb]
    exact bidsOf_reflag db.softwareBids

/-- **The step lemma.** -/
theorem agrees_step (h : Agrees (db, round) auction) (l : Label) :
    Agrees (roundStep auction (db, round) l) auction := by
  by_cases hbid : ∃ r, l = .bidSoftware r
  · obtain ⟨r, rfl⟩ := hbid
    exact agrees_bid h r
  by_cases hre : ∃ r, l = .reAuctionSoftware r
  · obtain ⟨r, rfl⟩ := hre
    exact agrees_restart h r
  have hround : (roundStep auction (db, round) l).2 = round := by
    cases l with
    | bidSoftware r => exact absurd ⟨r, rfl⟩ hbid
    | reAuctionSoftware r => exact absurd ⟨r, rfl⟩ hre
    | _ => rfl
  have hstep : Tallies db (step db l) auction :=
    tally_step (fun r hr => hbid ⟨r, hr⟩) fun r hr => hre ⟨r, hr⟩
  have hagrees := h.tallies hstep
  rw [← hround] at hagrees
  exact hagrees

/-! ## The end of a round -/

/-- Some bid is the greatest as soon as there is one. -/
theorem topBid_isSome (h : db.bidsOf auction ≠ []) :
    (Software.topBid db.softwareBids auction).isSome = true := by
  have hfold : ∀ (better : Option BidRow → BidRow → Option BidRow) (bids : List BidRow)
      (t : BidRow), (∀ t b, (better (some t) b).isSome = true) →
      (bids.foldl better (some t)).isSome = true := by
    intro better bids
    induction bids with
    | nil => exact fun _ _ => rfl
    | cons b bids ih =>
      intro t hbetter
      obtain ⟨t', ht'⟩ := Option.isSome_iff_exists.mp (hbetter t b)
      rw [List.foldl_cons, ht']
      exact ih t' hbetter
  unfold AuctionDb.bidsOf at h
  unfold Software.topBid
  cases hbids : db.softwareBids.filter fun b => b.auctionId = auction with
  | nil => exact absurd (by rw [hbids]; rfl) h
  | cons b rest =>
    refine hfold _ rest b fun t b => ?_
    dsimp only
    split_ifs <;> rfl

/-- An auction that ends has bids, and its end is `_end_auction`. -/
theorem endAuction_of_ends (h : Ends db auction l) :
    ∃ a now, l = .endSoftware auction now ∧ db.software[auction]? = some a ∧ a.totalBids ≠ 0 ∧
      step db l = Software.endAuction db auction a := by
  cases l with
  | endSoftware j now =>
    obtain ⟨rfl, hlive, hended⟩ := h
    obtain ⟨a, ha, hlive⟩ := (Option.any_eq_true _ _).mp hlive
    have hdue : Software.endExpired db j now = Software.endAuction db j a := by
      unfold Software.endExpired at hended ⊢
      rw [ha] at hended ⊢
      dsimp only at hended ⊢
      split_ifs at hended ⊢
      · rfl
      · rw [ha, Option.map_some] at hended
        rw [Option.some.inj hended] at hlive
        cases hlive
    refine ⟨a, now, rfl, ha, fun hzero => ?_, hdue⟩
    rw [hdue, Software.endAuction, if_pos hzero] at hended
    exact absurd hended (by simp [AuctionDb.editSoftware, ha])
  | _ => cases h

theorem endAuction_winner {top : BidRow} (ha : db.software[auction]? = some a)
    (hbids : a.totalBids ≠ 0) (htop : Software.topBid db.softwareBids auction = some top) :
    ∃ a', (Software.endAuction db auction a).software[auction]? = some a' ∧
      a'.currentWinnerId = some top.bidderId ∧ a'.currentHighestBid = a.currentHighestBid := by
  unfold Software.endAuction
  rw [if_neg hbids, htop]
  refine ⟨{ a with
    status := .ended
    winnerPaymentPaid := false
    winnerPaymentOrderId := none
    winnerPaymentId := none
    currentWinnerId := some top.bidderId }, ?_, rfl, rfl⟩
  simp [AuctionDb.editSoftware, ha]

/-- An auction that ends is won by the greatest bid of the round exactly when the newest bid
leads. -/
theorem wonBy_iff (h : Agrees (db, round) auction) (hends : Ends db auction l) :
    (∃ a ∈ (step db l).software[auction]?, WonBy round a) ↔ NewestLeads db auction := by
  obtain ⟨a, now, rfl, ha, hbids, hstep⟩ := endAuction_of_ends hends
  have htally : db.tally auction = some a.tally := by simp [AuctionDb.tally, ha]
  have hcount : a.totalBids = round.length := h.count a.tally htally
  obtain ⟨b, rest, rfl⟩ : ∃ b rest, round = b :: rest :=
    List.exists_cons_of_ne_nil fun hnil => hbids (by rw [hcount, hnil]; rfl)
  obtain ⟨⟨n, hn⟩, hmax, hhead⟩ := h.newest b rest rfl
  have hhigh : a.currentHighestBid = b.amount :=
    congrArg Prod.snd (Option.some.inj (htally.symm.trans hn))
  have hsome : (Software.topBid db.softwareBids auction).isSome = true :=
    topBid_isSome fun hnil => by
      rw [show (db, b :: rest).1.bidsOf auction = [] from hnil] at hhead
      cases hhead
  obtain ⟨top, htop⟩ := Option.isSome_iff_exists.mp hsome
  obtain ⟨a', ha', hwinner, hkeep⟩ := endAuction_winner ha hbids htop
  have hleads : NewestLeads db auction ↔ top.bidderId = b.bidderId := by
    unfold NewestLeads
    rw [htop, hhead]
    simp
  rw [hleads, hstep, ha']
  constructor
  · rintro ⟨x, hx, c, hc, hwin, hgreat, -⟩
    cases hx
    rcases List.mem_cons.mp hc with rfl | hc
    · exact Option.some.inj (hwinner.symm.trans hwin)
    · -- a bid below the newest one is not the greatest of the round
      exact absurd (hmax c hc) (Nat.not_lt.mpr (hgreat b List.mem_cons_self))
  · intro hbidder
    refine ⟨a', rfl, b, List.mem_cons_self, hbidder ▸ hwinner, fun c hc => ?_, hkeep.trans hhigh⟩
    rcases List.mem_cons.mp hc with rfl | hc
    · exact le_rfl
    · exact (hmax c hc).le

/-! ## Runs -/

/-- **The winner comes from the current round.** From a database without software auctions, in
every run, an auction that ends is won by the greatest bid placed since it last started from zero
bids, for its highest bid, exactly when no bid of an earlier round by another bidder leads. -/
theorem winner_from_round {db : AuctionDb} (hnew : db.software = []) (auction : AuctionId)
    (ls : List Label) :
    Run.AllSteps (roundStep auction) (fun s l s' => Ends s.1 auction l →
      ((∃ a ∈ s'.1.software[auction]?, WonBy s.2 a) ↔ NewestLeads s.1 auction)) (db, []) ls := by
  have hinit : Agrees (db, []) auction := by
    have hnone : db.tally auction = none := by simp [AuctionDb.tally, hnew]
    exact ⟨fun _ => rfl, fun t ht => absurd (hnone.symm.trans ht) (by simp),
      fun b rest h => absurd h (by simp)⟩
  exact Run.allSteps_of_preserved (P := fun s => Agrees s auction) (fun _ l h => agrees_step h l)
    (fun _ _ h hends => wonBy_iff h hends) ls hinit

/-- **The tally is that of the round** in every run: the count is the number of bids since the
auction was created or last re-auctioned, and the highest bid is the newest of them, above all
others. -/
theorem tally_of_round {db : AuctionDb} (hnew : db.software = []) (auction : AuctionId)
    (ls : List Label) : Agrees (Run.exec (roundStep auction) (db, []) ls) auction := by
  refine Run.exec_preserves (P := fun s => Agrees s auction) (fun _ l h => agrees_step h l) ls ?_
  have hnone : db.tally auction = none := by simp [AuctionDb.tally, hnew]
  exact ⟨fun _ => rfl, fun t ht => absurd (hnone.symm.trans ht) (by simp),
    fun b rest h => absurd h (by simp)⟩

/-- The winner's payment is not made; the lister pays another creation fee, order 1, and starts a
second round, in which user 2 bids 120 rupees. -/
def secondRound : List Label :=
  [.forfeitSoftware 0, .creationFeeOrder ⟨.software, 9, 1000, false, true⟩, .capture 1,
    .verifyCreationFee 9 .software ⟨1, 1, true⟩,
    .reAuctionSoftware ⟨0, some 9, 9, 10000, 1, 1, 200000⟩,
    .bidFeeOrder ⟨.software, 2, 2000, false, true⟩ 0 12000, .capture 2,
    .bidSoftware ⟨0, 2, 12000, ⟨2, 2, true⟩, 200010, true, some 9, true⟩]

/-- In the first round the newest bid leads, and its bidder wins. -/
theorem winner_from_round_first :
    noAuctions.software = [] ∧
      Ends (Run.exec step noAuctions wonSoftware.dropLast) 0 (.endSoftware 0 100000) ∧
      ∃ a ∈ (Run.exec step noAuctions wonSoftware).software[0]?,
        WonBy (Run.exec (roundStep 0) (noAuctions, []) wonSoftware.dropLast).2 a := by
  have hsteps := winner_from_round (show noAuctions.software = [] from rfl) 0 wonSoftware
  have hlast := (Run.allSteps_iff _ _).mp hsteps wonSoftware.dropLast (.endSoftware 0 100000) [] rfl
  exact ⟨rfl, by decide, (hlast (by decide)).mpr (by decide)⟩

theorem tally_of_round_second :
    Agrees (Run.exec (roundStep 0) (noAuctions, []) (wonSoftware ++ secondRound)) 0 :=
  tally_of_round rfl 0 (wonSoftware ++ secondRound)

/-- **A bid of the first round wins the second.** User 1, who did not pay, is the winner again. -/
theorem old_bid_wins :
    let before := Run.exec (roundStep 0) (noAuctions, []) (wonSoftware ++ secondRound)
    Ends before.1 0 (.endSoftware 0 300000) ∧ before.2.map BidRow.bidderId = [2] ∧
      ∀ a ∈ (step before.1 (.endSoftware 0 300000)).software[0]?,
        a.currentWinnerId = some 1 ∧ ¬ WonBy before.2 a := by
  decide

end Deltapreneur.Auction
