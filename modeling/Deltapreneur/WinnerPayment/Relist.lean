import Deltapreneur.WinnerPayment.Paid

/-!
# Listing a profile again

`create_auction` of the community service takes the row of an earlier auction for the next one when
its status is in `_TERMINAL_LISTING_STATUSES` (`community_auction_service.py:69-115, 497-564`). `ENDED`
is one of them, and it is also the status of an auction that awaits the winner's payment. The track
of the win stays as it is (`winner_payment_lifecycle.py:136-281` looks at the track alone).

The system: every call of every service, the ends that open payment windows and the daily job, in
any order and at any times.

* `Round`: status, winner and bids of a community auction.
* `Progress`: how a call can change them.
* `RelistsFreely` is the condition on a step: an auction is listed again only after its winner's
  deadline and after its track has been closed.

Results: `progress_step`, `winner_not_wiped`, and `relisting_wipes_winner`.
-/

namespace Deltapreneur.WinnerPayment

open EdgePoints Marketplace Auction

namespace Relist

/-! ## The system -/

inductive Label
  /-- A call of a service. -/
  | call (l : Services.Label)
  /-- A step of the winner payments: an end of an auction with its window, or the daily job. -/
  | winner (l : WinnerPayment.Label)

def step (s : State) : Label → State
  | .call l => { s with db := Services.step s.db l }
  | .winner l => WinnerPayment.step s l

/-- Status, winner and bids of a community auction. -/
structure Round where
  status : AuctionStatus
  winner : Option UserId
  bids : List BidRow
  deriving Repr, DecidableEq

/-- The bids of a community auction. -/
def bidsAt (db : AuctionDb) (i : AuctionId) : List BidRow :=
  db.communityBids.filter fun b => b.auctionId = i

def round (db : AuctionDb) (i : AuctionId) : Option Round :=
  (db.community[i]?).map fun a => ⟨a.status, a.currentWinnerId, bidsAt db i⟩

/-- Where the window of a community auction is stored. -/
def trackKey (i : AuctionId) : TrackKey := ⟨.community, .community, i⟩

/-- The winner's payment deadline is over. -/
def DeadlinePassed (st : Settings) (i : AuctionId) (now : Time) : Prop :=
  ∃ row ∈ st.tracks, row.key = trackKey i ∧ row.track.overdue now = true

instance (st : Settings) (i : AuctionId) (now : Time) : Decidable (DeadlinePassed st i now) :=
  inferInstanceAs (Decidable (∃ row ∈ st.tracks, _))

/-- The time of a seller's call. -/
def Label.now : Label → Option Time
  | .call (.auction (.createCommunity r)) => some r.now
  | .call (.auction (.reAuctionCommunity r)) => some r.now
  | _ => none

/-! ## What a step keeps -/

/-- A winner who may still pay keeps the auction, and the job deals with winners only. -/
structure WinnerKept (s : State) (l : Label) (s' : State) : Prop where
  kept : ∀ i v, round s.db.auctions i = some v → v.status = .ended → v.winner ≠ none →
    (∀ now ∈ l.now, ¬ DeadlinePassed s.settings i now) →
      ∃ v', round s'.db.auctions i = some v' ∧ v'.winner = v.winner ∧ v'.bids = v.bids
  acts : ∀ env, l = .winner (.tick env) → ∀ row ∈ s.settings.tracks, ∀ i, row.key = trackKey i →
    row.track.acts env = true →
      ∃ v, round s.db.auctions i = some v ∧ v.winner = row.track.winnerUserId

/-! ## The condition on a step -/

/-- The auction that `create_auction` takes the row of. -/
def relisted (db : AuctionDb) (r : Community.CreateRequest) : Option AuctionId :=
  if r.owner = some r.user then
    (Community.latest db r.communityId).filter fun i =>
      (round db i).any fun v => Community.terminal v.status
  else none

/-- A winner may still pay. -/
def Awaited (s : State) (i : AuctionId) (now : Time) : Prop :=
  (∃ v ∈ round s.db.auctions i, v.status = .ended ∧ v.winner ≠ none) ∧
    ¬ DeadlinePassed s.settings i now

/-- The job still has the auction's track. -/
def Tracked (st : Settings) (i : AuctionId) : Prop :=
  ∃ row ∈ st.tracks, row.key = trackKey i ∧ row.track.isOpen = true

/-- The condition on a step. -/
def RelistsFreely (s : State) : Label → Prop
  | .call (.auction (.createCommunity r)) =>
    ∀ i ∈ relisted s.db.auctions r, ¬ Awaited s i r.now ∧ ¬ Tracked s.settings i
  | _ => True

instance (s : State) (i : AuctionId) (now : Time) : Decidable (Awaited s i now) :=
  inferInstanceAs (Decidable (_ ∧ _))

instance (st : Settings) (i : AuctionId) : Decidable (Tracked st i) :=
  inferInstanceAs (Decidable (∃ row ∈ st.tracks, _))

instance (s : State) (l : Label) : Decidable (RelistsFreely s l) := by
  unfold RelistsFreely
  split <;> infer_instance

/-! ## How a call changes an auction -/

/-- An auction that has ended with a winner changes only by the winner's payment, or when its row
is taken for the next auction. -/
inductive Progress (relists : Prop) : Option Round → Option Round → Prop
  | same (v : Option Round) : Progress relists v v
  | early (v v' : Option Round) (h : ∀ r ∈ v, r.status ≠ .ended ∧ r.status ≠ .completed) :
      Progress relists v v'
  | paid (r : Round) (h : r.status = .ended) :
      Progress relists (some r) (some { r with status := .completed })
  | relisted (v v' : Option Round) (h : relists) : Progress relists v v'

variable {db db' : AuctionDb} {i j : AuctionId} {a : CommunityAuction} {p : Prop}
  {f : CommunityAuction → CommunityAuction} {user : UserId} {s : State} {l : Label}

/-- The tables of community auctions are left alone. -/
def Aside (db db' : AuctionDb) : Prop :=
  db'.community = db.community ∧ db'.communityBids = db.communityBids

theorem Aside.round (h : Aside db db') : round db' i = round db i := by
  rw [Relist.round, Relist.round, bidsAt, bidsAt, h.1, h.2]

theorem Aside.progress (h : Aside db db') : Progress p (Relist.round db i) (Relist.round db' i) := by
  rw [h.round]
  exact .same _

theorem progress_at (hrows : db'.community = db.community.modify j f)
    (hbids : i ≠ j → bidsAt db' i = bidsAt db i)
    (h : i = j → Progress p (round db j) (round db' j)) : Progress p (round db i) (round db' i) := by
  by_cases hij : i = j
  · subst hij
    exact h rfl
  · rw [round, round, hrows, List.getElem?_modify_ne _ _ (Ne.symm hij), hbids hij]
    exact .same _

theorem progress_early (hrows : db'.community = db.community.modify j f)
    (hbids : i ≠ j → bidsAt db' i = bidsAt db i) (hget : db.community[j]? = some a)
    (hopen : a.status ≠ .ended ∧ a.status ≠ .completed) :
    Progress p (round db i) (round db' i) := by
  refine progress_at hrows hbids fun _ => .early _ _ fun r hr => ?_
  rw [round, hget] at hr
  cases hr
  exact hopen

theorem progress_append {row : CommunityAuction} (hrows : db'.community = db.community ++ [row])
    (hbids : db'.communityBids = db.communityBids) : Progress p (round db i) (round db' i) := by
  by_cases hi : i < db.community.length
  · rw [round, round, bidsAt, bidsAt, hrows, hbids, List.getElem?_append_left hi]
    exact .same _
  · refine .early _ _ fun r hr => ?_
    have habsent : db.community[i]? = none := List.getElem?_eq_none (not_lt.mp hi)
    rw [round, habsent] at hr
    cases hr

theorem live_open {st : AuctionStatus} (h : st.live = true) : st ≠ .ended ∧ st ≠ .completed := by
  constructor
  · rintro rfl
    exact absurd h (by decide)
  · rintro rfl
    exact absurd h (by decide)

/-! ### Bids of other auctions -/

theorem bidsAt_clear (h : i ≠ j) : bidsAt (Community.clearBids db j) i = bidsAt db i := by
  unfold bidsAt Community.clearBids
  rw [List.filter_filter]
  refine List.filter_congr fun b _ => ?_
  by_cases hb : b.auctionId = i
  · simp [hb, h]
  · simp [hb]

theorem filter_map_flag {g : BidRow → BidRow} (hg : ∀ b, (g b).auctionId = b.auctionId)
    (hother : ∀ b, b.auctionId ≠ j → g b = b) (h : i ≠ j) (bids : List BidRow) :
    (bids.map g).filter (fun b => b.auctionId = i) = bids.filter fun b => b.auctionId = i := by
  induction bids with
  | nil => rfl
  | cons b bids ih =>
    rw [List.map_cons, List.filter_cons, List.filter_cons, hg, ih]
    split_ifs with hb
    · have hb' : b.auctionId = i := by simpa using hb
      rw [hother b (by rw [hb']; exact h)]
    · rfl

theorem filter_clearWinningFlags (h : i ≠ j) (bids : List BidRow) :
    (Software.clearWinningFlags bids j).filter (fun b => b.auctionId = i) =
      bids.filter fun b => b.auctionId = i := by
  refine filter_map_flag (fun b => ?_) (fun b hb => if_neg hb) h bids
  split_ifs <;> rfl

theorem filter_flagWinner (h : i ≠ j) (bids : List BidRow) (top : BidRow) :
    (Software.flagWinner bids j top).filter (fun b => b.auctionId = i) =
      bids.filter fun b => b.auctionId = i := by
  refine filter_map_flag (fun b => ?_) (fun b hb => if_neg hb) h bids
  split_ifs <;> rfl

/-! ### Calls -/

theorem thenConsume_communityBids {order : OrderId} {waived : Bool} :
    (Community.thenConsume db user order j waived).db.communityBids = db.communityBids := by
  rw [thenConsume_frame]

theorem progress_thenConsume {order : OrderId} {waived : Bool}
    (h : Progress p (round db i) (round db' i)) :
    Progress p (round db i) (round (Community.thenConsume db' user order j waived).db i) := by
  have hsame : round (Community.thenConsume db' user order j waived).db i = round db' i := by
    rw [round, round, bidsAt, bidsAt, thenConsume_community, thenConsume_communityBids]
  rwa [hsame]

theorem relisted_eq {r : Community.CreateRequest} {owner : UserId} (howner : r.owner = some owner)
    (huser : owner = r.user) (hlatest : Community.latest db r.communityId = some j)
    (hget : db.community[j]? = some a) (hterminal : Community.terminal a.status = true) :
    relisted db r = some j := by
  simp [relisted, howner, huser, hlatest, round, hget, hterminal]

theorem progress_createAuction (r : Community.CreateRequest) :
    Progress (relisted db r = some i) (round db i) (round (Community.createAuction db r).db i) := by
  unfold Community.createAuction
  split
  · exact .same _
  next owner howner =>
  split_ifs with huser
  · exact .same _
  rw [not_not] at huser
  split
  · exact progress_thenConsume (progress_append rfl rfl)
  next j hlatest =>
  split
  · exact .same _
  next status hstatus =>
  obtain ⟨a, hget, rfl⟩ := Option.map_eq_some_iff.mp hstatus
  split_ifs with hpending hlive hterminal
  · exact progress_early rfl (fun _ => rfl) hget (by rw [hpending]; decide)
  · exact .same _
  · refine progress_thenConsume (progress_at rfl (fun hij => ?_) fun hij => ?_)
    · exact bidsAt_clear hij
    · subst hij
      exact .relisted _ _ (relisted_eq howner huser hlatest hget hterminal)
  · exact progress_thenConsume (progress_append rfl rfl)

theorem progress_placeBid (r : Community.BidRequest) :
    Progress p (round db i) (round (Community.placeBid db r).db i) := by
  unfold Community.placeBid
  split
  · exact .same _
  split
  · exact .same _
  next a hget =>
  split_ifs with hlive hover howner
  · exact .same _
  · exact .same _
  · exact .same _
  split
  · exact .same _
  dsimp only
  split
  · exact Aside.progress ⟨rfl, rfl⟩
  · refine progress_early rfl (fun hij => ?_) hget (live_open (by simpa using hlive))
    show List.filter _ (_ :: _) = List.filter _ _
    rw [List.filter_cons_of_neg (by simpa using Ne.symm hij)]
    exact filter_clearWinningFlags hij db.communityBids

theorem progress_endExpired {now : Time} :
    Progress p (round db i) (round (Community.endExpired db j now) i) := by
  unfold Community.endExpired
  split
  · exact .same _
  next a hget =>
  split_ifs with hlive
  · have hopen := live_open hlive.1
    unfold Community.endAuction
    split_ifs
    · dsimp only
      split
      · exact progress_early rfl (fun _ => rfl) hget hopen
      · exact progress_early rfl (fun hij => filter_flagWinner hij _ _) hget hopen
    · exact progress_early rfl (fun _ => rfl) hget hopen
  · exact .same _

theorem progress_reAuction (r : Community.ReAuctionRequest) :
    Progress p (round db i) (round (Community.reAuction db r).db i) := by
  unfold Community.reAuction
  split
  · exact .same _
  next a hget =>
  split_ifs with howner hunsold
  · exact .same _
  · exact .same _
  · rw [not_not] at hunsold
    exact progress_thenConsume (progress_early rfl (fun hij => bidsAt_clear hij) hget
      (by rw [hunsold]; decide))

theorem progress_closeAuction {owner : Option UserId} :
    Progress p (round db i) (round (Community.closeAuction db j owner user).db i) := by
  unfold Community.closeAuction
  split
  · exact .same _
  next a hget =>
  split_ifs with howner hstatus hbids
  · exact .same _
  · exact .same _
  · exact .same _
  · refine progress_early rfl (fun _ => rfl) hget ?_
    by_cases hunsold : a.status = .unsold
    · rw [hunsold]
      decide
    · exact live_open (by simpa using fun hlive => hstatus ⟨hunsold, hlive⟩)

theorem progress_activate {now : Time} :
    Progress p (round db i) (round (Community.activateAuctionAfterPayment db j user now).db i) := by
  unfold Community.activateAuctionAfterPayment
  split
  · exact .same _
  next a hget =>
  split_ifs with hcreator hpending
  · exact .same _
  · exact .same _
  · rw [not_not] at hpending
    exact progress_early rfl (fun _ => rfl) hget (by rw [hpending]; decide)

theorem progress_createWinnerPaymentOrder {up : Bool} :
    Progress p (round db i) (round (Community.createWinnerPaymentOrder db j user up).db i) := by
  unfold Community.createWinnerPaymentOrder
  split
  · exact .same _
  next a hget =>
  split_ifs
  · exact .same _
  · exact .same _
  · exact .same _
  · exact .same _
  · exact .same _
  split
  · exact .same _
  next order gateway hcreated =>
  refine progress_at rfl (fun _ => rfl) fun _ => ?_
  have hsame : round (AuctionDb.editCommunity { db with gateway := gateway } j
      fun a => { a with winnerPaymentOrderId := some order }) j = round db j := by
    simp [round, AuctionDb.editCommunity, hget, bidsAt]
  rw [auctionDone_db, hsame]
  exact .same _

theorem progress_verifyWinnerPayment {paid : Triple} :
    Progress p (round db i) (round (Community.verifyWinnerPayment db j user paid).db i) := by
  unfold Community.verifyWinnerPayment
  split
  · exact .same _
  next a hget =>
  split_ifs with hwinner hdone hended horder hsignature
  · exact .same _
  · exact .same _
  · exact .same _
  · exact .same _
  · exact .same _
  · rw [not_not] at hended
    refine progress_at rfl (fun _ => rfl) fun _ => ?_
    have hold : round db j = some ⟨a.status, a.currentWinnerId, bidsAt db j⟩ := by
      rw [round, hget]
      rfl
    have hnew : round (db.editCommunity j (Community.paidRow paid.payment)) j =
        some ⟨.completed, a.currentWinnerId, bidsAt db j⟩ := by
      simp [round, AuctionDb.editCommunity, hget, bidsAt, Community.paidRow]
    rw [auctionDone_db, hold, hnew]
    exact .paid _ hended

theorem aside_onSoftware {check : SoftwareAuction → Except AppException Unit}
    {f : SoftwareAuction → SoftwareAuction} : Aside db (db.onSoftware j check f).db := by
  rw [onSoftware_frame]
  exact ⟨rfl, rfl⟩

/-- **A call of the software service or on fees** leaves community auctions alone. -/
theorem aside_step {l : Auction.Label} (h : l.onCommunity = false) :
    Aside db (Auction.step db l) := by
  cases l with
  | createSoftware r =>
    simp only [Auction.step, Auction.call, Software.createAuction, Software.insertAuction]
    repeat' split
    all_goals exact ⟨rfl, rfl⟩
  | approveSoftware j now => exact aside_onSoftware
  | rejectSoftware j => exact aside_onSoftware
  | takeDownSoftware j => exact aside_onSoftware
  | approveAgainSoftware j now => exact aside_onSoftware
  | bidSoftware r =>
    simp only [Auction.step, Auction.call, Software.placeBid]
    repeat' split
    all_goals exact ⟨rfl, rfl⟩
  | endSoftware j now =>
    simp only [Auction.step, Auction.call, Software.endExpired, Software.endAuction]
    repeat' split
    all_goals exact ⟨rfl, rfl⟩
  | reAuctionSoftware r =>
    simp only [Auction.step, Auction.call, Software.reAuction]
    repeat' split
    all_goals exact ⟨rfl, rfl⟩
  | closeSoftware j listedBy lister => exact aside_onSoftware
  | forfeitSoftware j =>
    simp only [Auction.step, Auction.call, Software.forfeit]
    split <;> exact ⟨rfl, rfl⟩
  | orderSoftware r =>
    simp only [Auction.step, Auction.call, Software.createWinnerPaymentOrder]
    repeat' split
    all_goals exact ⟨rfl, rfl⟩
  | verifySoftware r =>
    simp only [Auction.step, Auction.call, Software.verifyWinnerPayment]
    repeat' split
    all_goals first
      | exact ⟨rfl, rfl⟩
      | rename_i hok
        rw [auctionDone_db, completeAuctionWinnerPurchase_frame hok]
        exact ⟨rfl, rfl⟩
  | otherOrder user amount =>
    simp only [Auction.step, Auction.call]
    split <;> exact ⟨rfl, rfl⟩
  | creationFeeOrder | bidFeeOrder | verifyCreationFee | capture | award => exact ⟨rfl, rfl⟩
  | _ => exact absurd h (by simp [Auction.Label.onCommunity])

/-- The auction that a call lists again. -/
def relistedBy (db : AuctionDb) : Auction.Label → Option AuctionId
  | .createCommunity r => relisted db r
  | _ => none

/-- **Every call of the auction services.** -/
theorem progress_auction (db : AuctionDb) (l : Auction.Label) (i : AuctionId) :
    Progress (relistedBy db l = some i) (round db i) (round (Auction.step db l) i) := by
  cases l with
  | createCommunity r => exact progress_createAuction r
  | activateCommunity j user now => exact progress_activate
  | bidCommunity r => exact progress_placeBid r
  | endCommunity j now => exact progress_endExpired
  | reAuctionCommunity r => exact progress_reAuction r
  | closeCommunity j owner user => exact progress_closeAuction
  | orderCommunity j user up => exact progress_createWinnerPaymentOrder
  | verifyCommunity j user paid => exact progress_verifyWinnerPayment
  | _ => exact Aside.progress (aside_step rfl)

/-! ## The daily job -/

theorem aside_processTrack {row : TrackRow} {env : Tick} :
    Aside s.db.auctions (processTrack s row env).1.db.auctions := by
  rw [processTrack_db]
  split_ifs
  · unfold markUnsold
    split
    · exact ⟨rfl, rfl⟩
    · unfold Software.forfeit
      split <;> exact ⟨rfl, rfl⟩
    · exact ⟨rfl, rfl⟩
  · exact ⟨rfl, rfl⟩

/-- **The job touches no community auction.** -/
theorem aside_processTracks {env : Tick} : ∀ (rows : List TrackRow) (s : State),
    Aside s.db.auctions (processTracks env rows s).1.db.auctions
  | [], _ => ⟨rfl, rfl⟩
  | row :: rows, s => by
    obtain ⟨hrows, hbids⟩ : Aside s.db.auctions (processTrack s row env).1.db.auctions :=
      aside_processTrack
    obtain ⟨hrows', hbids'⟩ := aside_processTracks rows (processTrack s row env).1
    exact ⟨hrows'.trans hrows, hbids'.trans hbids⟩

/-! ## One step -/

/-- The auction that a step lists again. -/
def relistedStep (s : State) : Label → Option AuctionId
  | .call (.auction l) => relistedBy s.db.auctions l
  | _ => none

/-- **Every step.** -/
theorem progress_step (s : State) (l : Label) (i : AuctionId) :
    Progress (relistedStep s l = some i) (round s.db.auctions i)
      (round (step s l).db.auctions i) := by
  cases l with
  | call l =>
    cases l with
    | market l => exact Aside.progress ⟨rfl, rfl⟩
    | auction l => exact progress_auction s.db.auctions l i
    | domainBid r => exact Aside.progress ⟨rfl, rfl⟩
  | winner l =>
    cases l with
    | endSoftware j c => exact Aside.progress (aside_step rfl)
    | orderSoftware r => exact Aside.progress (aside_step rfl)
    | verifySoftware r => exact Aside.progress (aside_step rfl)
    | endCommunity j c => exact progress_endExpired
    | orderCommunity j user up => exact progress_createWinnerPaymentOrder
    | verifyCommunity j user paid => exact progress_verifyWinnerPayment
    | tick env => exact Aside.progress (aside_processTracks _ s)
    | resolveDomain | orderDomain | verifyDomain | capture => exact Aside.progress ⟨rfl, rfl⟩

/-! ## Tracks name the winner -/

/-- The track of a community auction names the winner of the auction, who has still to pay or has
paid. -/
def Names (db : AuctionDb) (key : TrackKey) (t : Track) : Prop :=
  ∀ i, key = trackKey i → ∃ v, round db i = some v ∧
    (v.status = .ended ∨ v.status = .completed) ∧ v.winner = t.winnerUserId

/-- The open tracks do. -/
def TracksNameWinners (s : State) : Prop := s.settings.OpenTracks (Names s.db.auctions)

theorem undated_names (db : AuctionDb) : Undated (Names db) :=
  ⟨fun _ _ _ h => h, fun _ _ _ h => h⟩

theorem names_of_type {key : TrackKey} {t : Track} (h : key.auctionType ≠ .community) :
    Names db key t := by
  rintro i rfl
  exact absurd rfl h

theorem Names.progress {key : TrackKey} {t : Track} (h : Names db key t)
    (hstep : ∀ i, key = trackKey i → Progress False (round db i) (round db' i)) :
    Names db' key t := by
  intro i hi
  obtain ⟨v, hv, hstatus, hwinner⟩ := h i hi
  have hprogress := hstep i hi
  rw [hv] at hprogress
  generalize round db' i = v' at hprogress
  cases hprogress with
  | same => exact ⟨v, rfl, hstatus, hwinner⟩
  | early _ _ hopen =>
    obtain ⟨hended, hcompleted⟩ := hopen v rfl
    exact absurd hstatus (by simp [hended, hcompleted])
  | paid => exact ⟨_, rfl, .inr rfl, hwinner⟩
  | relisted _ _ h => exact h.elim

theorem Progress.mono {q : Prop} {v v' : Option Round} (h : Progress p v v') (hpq : p → q) :
    Progress q v v' := by
  cases h with
  | same => exact .same v
  | early _ _ hopen => exact .early v v' hopen
  | paid r hended => exact .paid r hended
  | relisted _ _ hp => exact .relisted v v' (hpq hp)

theorem relistedStep_create (h : relistedStep s l = some i) :
    ∃ r, l = .call (.auction (.createCommunity r)) := by
  unfold relistedStep relistedBy at h
  split at h
  · split at h
    · exact ⟨_, rfl⟩
    · cases h
  · cases h

theorem openTracks_tables (h : TracksNameWinners s) (hok : RelistsFreely s l) :
    s.settings.OpenTracks (Names (step s l).db.auctions) := by
  intro row hrow hopen
  refine (h row hrow hopen).progress fun i hi => (progress_step s l i).mono fun hrelisted => ?_
  -- the auction listed again has no open track
  obtain ⟨r, rfl⟩ := relistedStep_create hrelisted
  exact (hok i hrelisted).2 ⟨row, hrow, hi, hopen⟩

section Closing

variable {st : Settings} {key : TrackKey} {c : Closing} {seller : Option UserId}

theorem openTracks_openWindow (h : st.OpenTracks (Names db)) (hkey : key.auctionType ≠ .community)
    {winner : Option UserId} {amount : Paise} :
    (st.openWindow key winner seller amount c).OpenTracks (Names db) := by
  have hopened : (st.startWinnerWindow key winner seller amount c.title c.now).OpenTracks
      (Names db) := h.setTrack fun _ => names_of_type hkey
  unfold Settings.openWindow
  split_ifs
  · exact hopened.setTrack fun _ => names_of_type hkey
  · exact hopened

theorem openTracks_noticeZeroBid (h : st.OpenTracks (Names db))
    (hkey : key.auctionType ≠ .community) :
    (st.noticeZeroBid key seller c).OpenTracks (Names db) := by
  unfold Settings.noticeZeroBid Settings.markZeroBidNoticeSent
  split
  · exact h
  dsimp only
  split_ifs
  · exact h
  · exact h.setTrack fun _ => names_of_type hkey

theorem openTracks_closeDomain (h : st.OpenTracks (Names db)) {m : Marketplace.Db} :
    (closeDomain m st i c).OpenTracks (Names db) := by
  unfold closeDomain
  split
  · exact h
  split_ifs
  · exact h
  split
  · exact openTracks_openWindow h (by simp)
  · exact openTracks_noticeZeroBid h (by simp)

theorem openTracks_closeSoftware (h : st.OpenTracks (Names db)) {d : AuctionDb} :
    (closeSoftware d st i c).OpenTracks (Names db) := by
  unfold closeSoftware
  split
  · exact h
  split_ifs
  · exact openTracks_noticeZeroBid h (by simp)
  · exact openTracks_openWindow h (by simp)
  · exact h

/-- **The window of a community auction names the winner.** -/
theorem openTracks_closeCommunity
    (h : st.OpenTracks (Names (Community.endExpired db j c.now))) :
    (closeCommunity db st j c).OpenTracks (Names (Community.endExpired db j c.now)) := by
  unfold closeCommunity
  split
  · exact h
  next a hget =>
  split_ifs with hends
  · obtain ⟨hlive, hover, hbids, hbid⟩ := hends
    split
    · exact h
    next top htop =>
    refine h.setTrack fun _ => ?_
    intro i hi
    obtain rfl : j = i := by simpa [trackKey] using hi
    have hend : Community.endExpired db j c.now = Community.endAuction db j a := by
      simp only [Community.endExpired, hget]
      exact if_pos ⟨hlive, hover⟩
    rw [hend]
    refine ⟨⟨.ended, some top.bidderId, bidsAt (Community.endAuction db j a) j⟩, ?_, .inl rfl, rfl⟩
    simp [round, Community.endAuction, hbids, hbid, htop, AuctionDb.editCommunity, hget]
  · exact h

end Closing

/-- **The invariant.** -/
theorem tracksNameWinners_step (h : TracksNameWinners s) (hok : RelistsFreely s l) :
    TracksNameWinners (step s l) := by
  have htables := openTracks_tables h hok
  cases l with
  | call l => exact htables
  | winner l =>
    cases l with
    | resolveDomain j price c =>
      show (closing s (.resolveDomain j price c)).OpenTracks _
      simp only [closing]
      split_ifs
      · exact openTracks_closeDomain htables
      · exact htables
    | endSoftware j c =>
      show (closing s (.endSoftware j c)).OpenTracks _
      simp only [closing]
      split_ifs
      · exact openTracks_closeSoftware htables
      · exact htables
    | endCommunity j c =>
      show (closing s (.endCommunity j c)).OpenTracks _
      simp only [closing]
      split_ifs
      · exact openTracks_closeCommunity htables
      · exact htables
    | tick env =>
      have haside : Aside s.db.auctions (step s (.winner (.tick env))).db.auctions :=
        aside_processTracks s.settings.listOpenTracks s
      have hopened : ∀ row ∈ s.settings.listOpenTracks, Names s.db.auctions row.key row.track :=
        fun row hrow => h row (List.mem_filter.mp hrow).1 (List.mem_filter.mp hrow).2
      have hjob : (step s (.winner (.tick env))).settings.OpenTracks (Names s.db.auctions) :=
        Settings.OpenTracks.processTracks (undated_names _) h hopened
      exact fun row hrow hopen => (hjob row hrow hopen).progress fun i _ => haside.progress
    | _ => exact htables

/-! ## Runs -/

/-- No community auction yet. -/
structure State.Opened (s : State) : Prop where
  auctions : s.db.community = []
  tracks : ∀ row ∈ s.settings.tracks, row.key.auctionType ≠ .community

/-- A step that meets the condition. -/
theorem winnerKept_step (h : TracksNameWinners s) (hok : RelistsFreely s l) :
    WinnerKept s l (step s l) where
  kept := by
    intro i v hv hended hwinner hnow
    have hprogress := progress_step s l i
    rw [hv] at hprogress
    generalize round (step s l).db.auctions i = v' at hprogress
    cases hprogress with
    | same => exact ⟨v, rfl, rfl, rfl⟩
    | early _ _ hopen => exact absurd hended (hopen v rfl).1
    | paid => exact ⟨_, rfl, rfl, rfl⟩
    | relisted _ _ hrelisted =>
      obtain ⟨r, rfl⟩ := relistedStep_create hrelisted
      exact absurd ⟨⟨v, hv, hended, hwinner⟩, hnow r.now rfl⟩ (hok i hrelisted).1
  acts := by
    rintro env rfl row hrow i hi hacts
    have hopen : row.track.isOpen = true := (Bool.and_eq_true _ _).mp hacts |>.1
    obtain ⟨v, hv, -, hwinner⟩ := h row hrow hopen i hi
    exact ⟨v, hv, hwinner⟩

/-- **An awaited winner is not wiped.** In every run of all calls of the services, of ends of
auctions and of the daily job in which an ended auction is listed again only after its winner's
deadline and no auction is listed again while the job has a track of it: no call takes the winner
or the bids of an ended auction before the winner's deadline, and the job deals only with tracks
that name the current winner of their auction. -/
theorem winner_not_wiped (s : State) (h : State.Opened s) (ls : List Label)
    (hls : Run.Meets step RelistsFreely s ls) : Run.AllSteps step WinnerKept s ls := by
  refine Run.allSteps_of_inv (P := TracksNameWinners) ?_ ?_ ?_ hls
  · exact fun s l h hok => tracksNameWinners_step h hok
  · exact fun s l h hok => winnerKept_step h hok
  · exact fun row hrow _ => names_of_type (h.tracks row hrow)

def noAuctions : State where
  db :=
    { market := oneListing
      fees := []
      software := []
      softwareBids := []
      purchases := []
      community := []
      communityBids := [] }
  settings := .empty

/-- User 9, who pays no platform fees, auctions profile 0. -/
def listProfile (now : Time) : Label :=
  .call (.auction (.createCommunity ⟨0, some 9, 9, 10000, 1, 0, true, now⟩))

/-- User 1 wins the auction on the second day with 150 rupees; order 0 is the bid fee. -/
def wonProfile : List Label :=
  [listProfile 0, .call (.auction (.bidFeeOrder ⟨.community, 1, 2000, false, true⟩ 0 15000)),
    .call (.auction (.capture 0)),
    .call (.auction (.bidCommunity ⟨0, 1, 15000, ⟨0, 0, true⟩, 10, true, some 9⟩)),
    .winner (.endCommunity 0 ⟨100000, "Profile", some 9, true, true⟩)]

/-- The job finds the payment overdue on the tenth day, and then the profile is listed again. -/
def relistedLate : List Label :=
  wonProfile ++ [.winner (jobOn 2), .winner (jobOn 9), listProfile (10 * day)]

theorem relistedLate_not_wiped : Run.AllSteps step WinnerKept noAuctions relistedLate :=
  winner_not_wiped noAuctions ⟨rfl, by decide⟩ relistedLate (by decide)

/-- The profile is listed again on the third day. -/
def relistedEarly : List Label := wonProfile ++ [listProfile (2 * day)]

/-- **The winner and the bids are gone**, five days before the deadline. -/
theorem relisting_wipes_winner : ¬ Run.AllSteps step WinnerKept noAuctions relistedEarly := by
  intro h
  have hlast := (Run.allSteps_iff _ _).mp h wonProfile (listProfile (2 * day)) [] rfl
  have hkept := hlast.kept 0 ⟨.ended, some 1, [⟨0, 1, 15000, 10, true⟩]⟩ (by decide) rfl (by decide)
    (by decide)
  exact absurd hkept (by decide)

end Relist

end Deltapreneur.WinnerPayment
