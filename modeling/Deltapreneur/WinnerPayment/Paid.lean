import Deltapreneur.Marketplace.Frame
import Deltapreneur.WinnerPayment.Lifecycle

/-!
# A winner who paid

The system of winner payments: the ends of auctions, which open the payment windows
(`WinnerService.resolve_auction` and the `end_auction` of the other two services), winner orders and
their verification in the three services, and the daily job, at any times.

No verification touches the track of its auction, and the job never looks at the auction's status
before it reminds, blocks or refunds: it only leaves the row alone.

Results:

* `completed_step`, `completed_final`: a completed auction stays completed.
* `paid_winner_unpunished`: in every run in which the job has nothing due on the tracks of
  completed auctions and takes no fee of theirs for another track, nothing happens to a winner who
  paid and the seller's fee stays.
* `paid_winner_blocked`: a winner pays on the first day and is blocked on the ninth.
-/

namespace Deltapreneur.WinnerPayment

open EdgePoints Marketplace Auction

/-! ## The system -/

/-- What the end of an auction finds around it. -/
structure Closing where
  now : Time
  title : String
  /-- The seller of a software or a profile; that of a domain is in the listing. -/
  seller : Option UserId
  /-- The mail to the winner goes out. -/
  mailed : Bool
  /-- The settings are stored: an exception there is logged and dropped. -/
  stored : Bool
  deriving Repr, DecidableEq

inductive Label
  | resolveDomain (auction : AuctionId) (price : Paise) (c : Closing)
  | endSoftware (auction : AuctionId) (c : Closing)
  | endCommunity (auction : AuctionId) (c : Closing)
  | orderDomain (r : Marketplace.WinnerOrderRequest)
  | verifyDomain (r : VerifyWinnerRequest)
  | orderSoftware (r : Software.WinnerOrderRequest)
  | verifySoftware (r : Software.VerifyRequest)
  | orderCommunity (auction : AuctionId) (user : UserId) (gatewayUp : Bool)
  | verifyCommunity (auction : AuctionId) (user : UserId) (paid : Triple)
  | capture (order : OrderId)
  | tick (env : Tick)

/-- The call on the tables of the services. -/
def Label.service : Label → Option Services.Label
  | .resolveDomain auction price _ => some (.market (.resolveAuction auction price))
  | .endSoftware auction c => some (.auction (.endSoftware auction c.now))
  | .endCommunity auction c => some (.auction (.endCommunity auction c.now))
  | .orderDomain r => some (.market (.createWinnerOrder r))
  | .verifyDomain r => some (.market (.verifyWinnerPayment r))
  | .orderSoftware r => some (.auction (.orderSoftware r))
  | .verifySoftware r => some (.auction (.verifySoftware r))
  | .orderCommunity auction user up => some (.auction (.orderCommunity auction user up))
  | .verifyCommunity auction user paid => some (.auction (.verifyCommunity auction user paid))
  | .capture order => some (.market (.capture order))
  | .tick _ => none

/-- A window is opened and the winner told. -/
def Settings.openWindow (st : Settings) (key : TrackKey) (winner seller : Option UserId)
    (amount : Paise) (c : Closing) : Settings :=
  let opened := st.startWinnerWindow key winner seller amount c.title c.now
  if c.mailed then opened.markWinEmailSent key c.now else opened

/-- The seller is told that there was no bid. -/
def Settings.noticeZeroBid (st : Settings) (key : TrackKey) (seller : Option UserId)
    (c : Closing) : Settings :=
  match seller with
  | none => st
  | some user => st.markZeroBidNoticeSent key user c.title c.now

/-- The seller of a domain auction: whoever lists the domain. -/
def domainSeller (db : Marketplace.Db) (a : Marketplace.Auction) : Option UserId :=
  match db.listings a.domainId with
  | some l => l.listedByUserId
  | none => some a.createdBy

/-- `_start_winner_payment_window` and `_notify_zero_bid_seller`. -/
def closeDomain (db : Marketplace.Db) (st : Settings) (auction : AuctionId) (c : Closing) :
    Settings :=
  let key : TrackKey := ⟨.domain, .domain, auction⟩
  match db.auctions[auction]? with
  | none => st
  | some a =>
    if a.status.nonResolvable then st
    else match a.currentHighestBid with
      | some amount => st.openWindow key a.currentWinnerId (domainSeller db a) amount c
      | none => st.noticeZeroBid key (domainSeller db a) c

/-- The settings after `_end_auction` of a software auction. -/
def closeSoftware (db : AuctionDb) (st : Settings) (auction : AuctionId) (c : Closing) : Settings :=
  let key : TrackKey := ⟨.software, .software, auction⟩
  match db.software[auction]? with
  | none => st
  | some a =>
    if a.status.live = true ∧ (a.endTime.any fun e => e < c.now) then
      if a.totalBids = 0 then st.noticeZeroBid key c.seller c
      else
        let top := (Software.topBid db.softwareBids auction).map BidRow.bidderId
        st.openWindow key (top.or a.currentWinnerId) c.seller a.currentHighestBid c
    else st

/-- The settings after `end_auction` of a community auction, when its winner still exists; no mail
is noted. -/
def closeCommunity (db : AuctionDb) (st : Settings) (auction : AuctionId) (c : Closing) : Settings :=
  match db.community[auction]? with
  | none => st
  | some a =>
    if a.status.live = true ∧ (a.endTime.any fun e => e < c.now) ∧ 0 < a.totalBids ∧
        0 < a.currentHighestBid.getD 0 then
      match Software.topBid db.communityBids auction with
      | none => st
      | some top =>
        st.startWinnerWindow ⟨.community, .community, auction⟩ (some top.bidderId) c.seller
          (a.currentHighestBid.getD 0) c.title c.now
    else st

/-- The settings a call leaves. -/
def closing (s : State) : Label → Settings
  | .resolveDomain auction _ c =>
    if c.stored then closeDomain s.db.market s.settings auction c else s.settings
  | .endSoftware auction c =>
    if c.stored then closeSoftware s.db.auctions s.settings auction c else s.settings
  | .endCommunity auction c =>
    if c.stored then closeCommunity s.db.auctions s.settings auction c else s.settings
  | _ => s.settings

/-- What a call does outside the database. -/
def effects (s : State) : Label → List Effect
  | .tick env => (processRemindersAndForfeits s env).2
  | _ => []

def step (s : State) (l : Label) : State :=
  match l with
  | .tick env => (processRemindersAndForfeits s env).1
  | l =>
    match l.service with
    | none => s
    | some c => ⟨Services.step s.db c, closing s l⟩

/-! ## Completed auctions -/

def status (db : Services.Db) (a : AuctionRef) : Option AuctionStatus :=
  match a.kind with
  | .domain => (db.market.auctions[a.id]?).map Marketplace.Auction.status
  | .software => (db.software[a.id]?).map SoftwareAuction.status
  | .community => (db.community[a.id]?).map CommunityAuction.status

/-- The winner's payment was verified. -/
def Completed (db : Services.Db) (a : AuctionRef) : Prop := status db a = some .completed

instance (db : Services.Db) (a : AuctionRef) : Decidable (Completed db a) :=
  inferInstanceAs (Decidable (_ = _))

/-- Every completed auction stays completed. -/
structure Keeps (db db' : Services.Db) : Prop where
  domain : KeepsRows Marketplace.Auction.status db.market.auctions db'.market.auctions
  software : KeepsRows SoftwareAuction.status db.software db'.software
  community : KeepsRows CommunityAuction.status db.community db'.community

variable {db db' : Services.Db} {s : State} {a : AuctionRef} {m : Marketplace.Db}

theorem Keeps.completed (h : Keeps db db') (ha : Completed db a) : Completed db' a := by
  obtain ⟨kind, i⟩ := a
  cases kind with
  | domain => exact h.domain i ha
  | software => exact h.software i ha
  | community => exact h.community i ha

theorem Keeps.refl (db : Services.Db) : Keeps db db := ⟨.refl _, .refl _, .refl _⟩

theorem Keeps.trans {db'' : Services.Db} (h : Keeps db db') (h' : Keeps db' db'') : Keeps db db'' :=
  ⟨h.domain.trans h'.domain, h.software.trans h'.software, h.community.trans h'.community⟩

/-! ### Domain auctions -/

theorem keepsRows_storeVerified {m' : Marketplace.Db} {i : Nat} {p : WinnerPayment}
    {b : Marketplace.Auction} {deadline : Time} (h : m.storeVerified i p b deadline = .ok m') :
    KeepsRows Marketplace.Auction.status m.auctions m'.auctions :=
  .modify (congrArg Db.auctions (storeVerified_frame h)) fun _ _ _ => rfl

theorem keepsRows_verifyWinnerPayment (m : Marketplace.Db) (r : VerifyWinnerRequest) :
    KeepsRows Marketplace.Auction.status m.auctions (verifyWinnerPayment m r).db.auctions := by
  unfold verifyWinnerPayment
  dsimp only
  repeat' split
  all_goals first
    | exact .refl _
    | rename_i hok
      have hkeeps := keepsRows_storeVerified hok
      exact hkeeps

theorem keepsRows_forfeitDomain (m : Marketplace.Db) (auction : AuctionId)
    (price : ListingId → Paise) :
    KeepsRows Marketplace.Auction.status m.auctions (forfeitDomain m auction price).auctions := by
  unfold forfeitDomain
  split
  · exact .refl _
  · next b hb =>
    split
    · next hopen =>
      refine .modify_open (congrArg Db.auctions restoreAfterNoSale_frame) hb ?_
      intro hst
      rw [hst] at hopen
      exact absurd hopen (by decide)
    · exact .refl _

/-! ### Software and community auctions -/

/-- The same for the tables of the other two services. -/
structure KeepsAuctions (d d' : AuctionDb) : Prop where
  software : KeepsRows SoftwareAuction.status d.software d'.software
  community : KeepsRows CommunityAuction.status d.community d'.community

variable {d : AuctionDb} {auction : AuctionId}

theorem KeepsAuctions.refl (d : AuctionDb) : KeepsAuctions d d := ⟨.refl _, .refl _⟩

theorem keepsAuctions_endSoftware {now : Time} :
    KeepsAuctions d (Software.endExpired d auction now) := by
  unfold Software.endExpired
  split
  · exact .refl d
  · next b hb =>
    split
    · next hlive =>
      have hst : b.status ≠ .completed := by
        intro hst
        rw [hst] at hlive
        exact absurd hlive.1 (by decide)
      unfold Software.endAuction
      dsimp only
      repeat' split
      all_goals exact ⟨.modify_open rfl hb hst, .refl _⟩
    · exact .refl d

theorem keepsAuctions_endCommunity {now : Time} :
    KeepsAuctions d (Community.endExpired d auction now) := by
  unfold Community.endExpired
  split
  · exact .refl d
  · next b hb =>
    split
    · next hlive =>
      have hst : b.status ≠ .completed := by
        intro hst
        rw [hst] at hlive
        exact absurd hlive.1 (by decide)
      unfold Community.endAuction
      dsimp only
      repeat' split
      all_goals exact ⟨.refl _, .modify_open rfl hb hst⟩
    · exact .refl d

theorem keepsAuctions_orderSoftware {r : Software.WinnerOrderRequest} :
    KeepsAuctions d (Software.createWinnerPaymentOrder d r).db := by
  unfold Software.createWinnerPaymentOrder
  repeat' split
  all_goals first
    | exact .refl d
    | exact ⟨.modify rfl fun _ _ hst => hst, .refl _⟩

theorem keepsAuctions_orderCommunity {user : UserId} {up : Bool} :
    KeepsAuctions d (Community.createWinnerPaymentOrder d auction user up).db := by
  unfold Community.createWinnerPaymentOrder
  repeat' split
  all_goals first
    | exact .refl d
    | exact ⟨.refl _, .modify rfl fun _ _ hst => hst⟩

theorem keepsAuctions_verifySoftware {r : Software.VerifyRequest} :
    KeepsAuctions d (Software.verifyWinnerPayment d r).db := by
  unfold Software.verifyWinnerPayment
  dsimp only
  repeat' split
  all_goals first
    | exact ⟨.refl _, .refl _⟩
    | rename_i hok
      rw [auctionDone_db, completeAuctionWinnerPurchase_frame hok]
      exact ⟨.modify rfl fun _ _ _ => rfl, .refl _⟩

theorem keepsAuctions_verifyCommunity {user : UserId} {paid : Triple} :
    KeepsAuctions d (Community.verifyWinnerPayment d auction user paid).db := by
  unfold Community.verifyWinnerPayment
  repeat' split
  all_goals first
    | exact .refl d
    | exact ⟨.refl _, .modify rfl fun _ _ _ => rfl⟩

theorem keepsAuctions_forfeit : KeepsAuctions d (Software.forfeit d auction) := by
  unfold Software.forfeit
  split
  · next h =>
    obtain ⟨b, hb, hst⟩ := Option.map_eq_some_iff.mp h
    exact ⟨.modify_open rfl hb (by rw [hst]; decide), .refl _⟩
  · next h =>
    obtain ⟨b, hb, hst⟩ := Option.map_eq_some_iff.mp h
    exact ⟨.modify_open rfl hb (by rw [hst]; decide), .refl _⟩
  · exact .refl d

/-! ### Runs -/

theorem keeps_of_market (h : KeepsRows Marketplace.Auction.status db.market.auctions m.auctions) :
    Keeps db { db with market := m } :=
  ⟨h, .refl _, .refl _⟩

theorem keeps_of_auctions (h : KeepsAuctions db.auctions d) : Keeps db (db.putAuctions d) :=
  ⟨.refl _, h.software, h.community⟩

theorem keeps_service (db : Services.Db) {l : Label} {c : Services.Label}
    (hl : l.service = some c) : Keeps db (Services.step db c) := by
  cases l <;> simp only [Label.service, Option.some.injEq, reduceCtorEq] at hl <;> subst hl
  case resolveDomain auction price c => exact keeps_of_market (keepsRows_resolveAuction _ _ _)
  case endSoftware auction c => exact keeps_of_auctions keepsAuctions_endSoftware
  case endCommunity auction c => exact keeps_of_auctions keepsAuctions_endCommunity
  case orderDomain r => exact keeps_of_market (.of_eq (createWinnerOrder_auctions _ r))
  case verifyDomain r => exact keeps_of_market (keepsRows_verifyWinnerPayment _ r)
  case orderSoftware r => exact keeps_of_auctions keepsAuctions_orderSoftware
  case verifySoftware r => exact keeps_of_auctions keepsAuctions_verifySoftware
  case orderCommunity auction user up => exact keeps_of_auctions keepsAuctions_orderCommunity
  case verifyCommunity auction user paid => exact keeps_of_auctions keepsAuctions_verifyCommunity
  case capture order => exact keeps_of_market (.refl _)

theorem keeps_processTrack {row : TrackRow} {env : Tick} :
    Keeps s.db (processTrack s row env).1.db := by
  have hunsold (db : Services.Db) : Keeps db (markUnsold db row.key env.price) := by
    unfold markUnsold
    split
    · exact keeps_of_market (keepsRows_forfeitDomain _ _ _)
    · exact keeps_of_auctions keepsAuctions_forfeit
    · exact .refl db
  rw [processTrack_db]
  split_ifs
  · exact hunsold s.db
  · exact .refl s.db

theorem keeps_processTracks {env : Tick} : ∀ (rows : List TrackRow) (s : State),
    Keeps s.db (processTracks env rows s).1.db
  | [], s => .refl s.db
  | _ :: rows, _ => keeps_processTrack.trans (keeps_processTracks rows _)

/-- **A completed auction stays completed.** -/
theorem completed_step (s : State) (l : Label) (h : Completed s.db a) :
    Completed (step s l).db a := by
  cases hl : l.service with
  | some c =>
    have hdb : (step s l).db = Services.step s.db c := by
      cases l <;> simp only [Label.service, Option.some.injEq, reduceCtorEq] at hl <;>
        subst hl <;> rfl
    rw [hdb]
    exact (keeps_service s.db hl).completed h
  | none =>
    cases l with
    | tick env => exact (keeps_processTracks s.settings.listOpenTracks s).completed h
    | _ => exact absurd hl (by simp [Label.service])

/-- **A completed auction is final**: no run of the services and the job undoes the sale. -/
theorem completed_final {s : State} (h : Completed s.db a) (ls : List Label) :
    Completed (Run.exec step s ls).db a :=
  Run.exec_preserves (P := fun s => Completed s.db a) (fun s l hs => completed_step s l hs) ls h

/-! ## Winners who paid -/

/-- The condition on a step: the job has nothing due on the track of a completed auction, and no
track that it forfeits gives back the fee for a completed auction. -/
def Settled (s : State) : Label → Prop
  | .tick env =>
    ∀ row ∈ s.settings.tracks, (Completed s.db row.key.auction → row.track.acts env = false) ∧
      (row.track.isOpen = true → row.track.overdue env.now = true →
        ∀ a ∈ feeGivenBack s row env, ¬ Completed s.db a)
  | _ => True

instance (s : State) : (l : Label) → Decidable (Settled s l)
  | .tick env => inferInstanceAs (Decidable (∀ row ∈ s.settings.tracks,
      (Completed s.db row.key.auction → row.track.acts env = false) ∧
      (row.track.isOpen = true → row.track.overdue env.now = true →
        ∀ a ∈ feeGivenBack s row env, ¬ Completed s.db a)))
  | .resolveDomain _ _ _ | .endSoftware _ _ | .endCommunity _ _ | .orderDomain _ | .verifyDomain _
  | .orderSoftware _ | .verifySoftware _ | .orderCommunity _ _ _ | .verifyCommunity _ _ _
  | .capture _ => .isTrue trivial

/-- **A winner who paid is not punished.** Take any run in which the job has nothing due on the
tracks of completed auctions and forfeits no track that takes a fee of theirs. Once an auction is
completed, no later call blocks its winner, reminds him or gives the seller's fee back: nothing
happens on account of it, and the fee paid for it stays. -/
theorem paid_winner_unpunished {s : State} {pre mid post : List Label} {l : Label}
    (h : Run.Meets step Settled s (pre ++ (mid ++ l :: post))) {a : AuctionRef}
    (hpaid : Completed (Run.exec step s pre).db a) :
    ∀ e ∈ effects (Run.exec step s (pre ++ mid)) l, e.auction ≠ a ∧ e.feeOf ≠ some a := by
  rw [Run.meets_append, Run.meets_append] at h
  obtain ⟨-, -, hl, -⟩ := h
  have hlater : Completed (Run.exec step s (pre ++ mid)).db a := by
    rw [Run.exec_append]
    exact Run.exec_preserves (P := fun s => Completed s.db a)
      (fun s l hs => completed_step s l hs) mid hpaid
  rw [← Run.exec_append] at hl
  intro e he
  cases l with
  | tick env =>
    obtain ⟨row, hrow, hdue⟩ := mem_processRemindersAndForfeits he
    obtain ⟨hquiet, hfee⟩ := hl row hrow
    constructor
    · intro heq
      have hidle := hquiet (by rwa [← hdue.auction, heq])
      exact absurd (hdue.acts.symm.trans hidle) (by decide)
    · intro heq
      obtain ⟨hover, hgiven⟩ := hdue.fee a heq
      have hopen : row.track.isOpen = true := by
        have hacts := hdue.acts
        simp only [Track.acts, Bool.and_eq_true] at hacts
        exact hacts.1
      exact hfee hopen hover a hgiven hlater
  | _ => exact absurd he (by simp [effects])

/-- User 9 auctions domain 0 and has paid the creation fee, order 0; user 1 has bid 150 rupees. -/
def runningAuction : State where
  db :=
    { market :=
        { oneListing with
          listings := fun i => if i = 0 then
            some ⟨some 9, 0, .auction, .verified, true, .available, none, none, none, none, none⟩
            else none
          auctions := [⟨0, 9, .active, 10000, some 15000, some 1⟩]
          gateway := ⟨[⟨0, 11800, .other 9⟩], [(0, 0)]⟩ }
      fees := [⟨.creation, .domain, 9, some 0, none, 11800, 0, some 0, .consumed⟩]
      software := []
      softwareBids := []
      purchases := []
      community := []
      communityBids := [] }
  settings := .empty

/-- The auction ends, user 1 orders the payment and pays order 1. -/
def winnerPays : List Label :=
  [.resolveDomain 0 0 ⟨0, "example.com", none, true, true⟩, .orderDomain ⟨0, 1, false, true⟩,
    .capture 1, .verifyDomain ⟨1, 1, 1, true, 0⟩]

/-- The job on a day, with mails and refunds working. -/
def jobOn (d : Nat) : Label := .tick ⟨d * day, fun _ => true, true, fun _ => 0⟩

theorem paid_winner_unpunished_firstDay :
    (Run.Meets step Settled runningAuction (winnerPays ++ ([] ++ jobOn 0 :: [])) ∧
      Completed (Run.exec step runningAuction winnerPays).db ⟨.domain, 0⟩) ∧
    ∀ e ∈ effects (Run.exec step runningAuction (winnerPays ++ [])) (jobOn 0),
      e.auction ≠ ⟨.domain, 0⟩ ∧ e.feeOf ≠ some ⟨.domain, 0⟩ := by
  have hmeets : Run.Meets step Settled runningAuction (winnerPays ++ ([] ++ jobOn 0 :: [])) := by
    decide
  have hpaid : Completed (Run.exec step runningAuction winnerPays).db ⟨.domain, 0⟩ := by decide
  exact ⟨⟨hmeets, hpaid⟩, paid_winner_unpunished hmeets hpaid⟩

/-- Also when its winner is blocked for it, as below. -/
theorem completed_final_blocked :
    Completed (Run.exec step (Run.exec step runningAuction winnerPays) [jobOn 2, jobOn 8]).db
      ⟨.domain, 0⟩ :=
  completed_final (by decide) [jobOn 2, jobOn 8]

/-- **A winner who paid is reminded and then blocked**, and the seller, who was paid, gets the
creation fee back. -/
theorem paid_winner_blocked :
    Completed (Run.exec step runningAuction winnerPays).db ⟨.domain, 0⟩ ∧
      effects (Run.exec step runningAuction winnerPays) (jobOn 2) =
        [.reminder 1 ⟨.domain, 0⟩] ∧
      effects (Run.exec step runningAuction (winnerPays ++ [jobOn 2])) (jobOn 8) =
        [.block 1 ⟨.domain, 0⟩, .refund 0 11800 ⟨.domain, 0⟩ (some ⟨.domain, 0⟩)] := by
  decide

end Deltapreneur.WinnerPayment
