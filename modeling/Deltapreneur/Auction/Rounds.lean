import Deltapreneur.Auction.System

/-!
# The rounds of an auction

`create_winner_payment_order` of a software or community auction stores the id of its order in the
auction row; the end of the auction, a re-auction and a new listing clear it.

* `Winner` is what the two kinds of rows have in common, as far as the winner's payment goes:
  status, stored order and winning bid. `RoundStep` says what any call can do to it.
* A round lasts from one time the auction runs to the next: the order of this round is an order
  issued since the auction last took bids (`Run.Since`).

Results:

* `software_step`, `community_step`: every call changes every auction by a round step.
* `since_of_stored`, `stored_of_since`: while the auction awaits its payment, an order is stored
  exactly when one was issued in this round, for the winning bid less the discount.
-/

namespace Deltapreneur.Auction

open EdgePoints Marketplace Razorpay

/-! ## Rounds -/

/-- The columns of an auction that its winner's payment rests on. -/
structure Winner where
  status : AuctionStatus
  order : Option OrderId
  bid : Paise
  deriving Repr, DecidableEq

def SoftwareAuction.winner (a : SoftwareAuction) : Winner :=
  ⟨a.status, a.winnerPaymentOrderId, a.currentHighestBid⟩

def CommunityAuction.winner (a : CommunityAuction) : Winner :=
  ⟨a.status, a.winnerPaymentOrderId, a.currentHighestBid.getD 0⟩

/-- What a call can do to the winner columns of one auction; `issues o b` says that it registers
the order `o` for a winning bid of `b`. -/
inductive RoundStep (issues : OrderId → Paise → Prop) : Option Winner → Option Winner → Prop
  /-- Nothing. -/
  | same (v) : RoundStep issues v v
  /-- A new row. -/
  | insert (v : Winner) (hs : v.status ≠ .ended) : RoundStep issues none (some v)
  /-- The auction runs: a round begins or goes on. -/
  | run (v v' : Winner) (hs : v'.status.live = true) : RoundStep issues (some v) (some v')
  /-- The round is over and the auction awaits its payment; the stored order is cleared. -/
  | finish (v v' : Winner) (hv : v.status.live = true) (ho : v'.order = none) :
      RoundStep issues (some v) (some v')
  /-- Another status; the stored order stays. -/
  | leave (v : Winner) (s : AuctionStatus) (he : s ≠ .ended) (hp : s ≠ .paymentPending) :
      RoundStep issues (some v) (some { v with status := s })
  /-- An order for the winning bid. -/
  | order (v : Winner) (o : OrderId) (hs : v.status = .ended) (hi : issues o v.bid) :
      RoundStep issues (some v) (some { v with order := some o })
  /-- A listing that still awaits its own fee is prepared again. -/
  | prepare (v v' : Winner) (hv : v.status = .paymentPending) (hs : v'.status = .paymentPending) :
      RoundStep issues (some v) (some v')

variable {issues : OrderId → Paise → Prop} {v v' : Option Winner}

/-- An order stored in an auction that awaits its payment was stored before or is issued now. -/
theorem RoundStep.stored (h : RoundStep issues v v') {x : Winner} {o : OrderId} (hx : v' = some x)
    (hs : x.status = .ended) (ho : x.order = some o) : v = some x ∨ issues o x.bid := by
  cases h with
  | same => exact .inl hx
  | insert y hy =>
    cases hx
    exact absurd hs hy
  | run y y' hy =>
    cases hx
    rw [hs] at hy
    cases hy
  | finish y y' _ hnone =>
    cases hx
    rw [hnone] at ho
    cases ho
  | leave y s he _ =>
    cases hx
    exact absurd hs he
  | order y p _ hi =>
    cases hx
    cases ho
    exact .inr hi
  | prepare y y' _ hp =>
    cases hx
    rw [hp] at hs
    cases hs

/-- The auction holds an order and does not run. -/
def Holds (v : Option Winner) : Prop :=
  ∃ x, v = some x ∧ x.order ≠ none ∧ x.status ≠ .paymentPending ∧ x.status.live = false

/-- The auction does not take bids. -/
def Rests (v : Option Winner) : Prop := ∀ x, v = some x → x.status.live = false

theorem RoundStep.holds (h : RoundStep issues v v') (hv : Holds v) (hrest : Rests v') :
    Holds v' := by
  obtain ⟨x, rfl, hord, hpend, hlive⟩ := hv
  cases h with
  | same => exact ⟨x, rfl, hord, hpend, hlive⟩
  | run _ y hy => exact absurd (hrest y rfl) (by rw [hy]; decide)
  | finish _ y hx _ => exact absurd hx (by rw [hlive]; decide)
  | leave _ s he hp => exact ⟨_, rfl, hord, hp, hrest _ rfl⟩
  | order _ o hs _ => exact ⟨_, rfl, by simp, hpend, hlive⟩
  | prepare _ y hx _ => exact absurd hx hpend

section Rows

variable {ρ : Type} {winner : ρ → Winner} {rows : List ρ} {i j : AuctionId} {a : ρ} {f : ρ → ρ}

theorem roundStep_modify (hget : rows[j]? = some a)
    (h : i = j → RoundStep issues (some (winner a)) (some (winner (f a)))) :
    RoundStep issues ((rows[i]?).map winner) (((rows.modify j f)[i]?).map winner) := by
  rw [List.getElem?_modify]
  by_cases heq : i = j
  · subst heq
    rw [hget]
    simpa using h rfl
  · have hne : ¬ j = i := fun h => heq h.symm
    cases hrow : rows[i]? with
    | none => exact .same _
    | some row =>
      have hsame : RoundStep issues (some (winner row)) (some (winner row)) := .same _
      simpa [hne] using hsame

theorem roundStep_append (hs : (winner a).status ≠ .ended) :
    RoundStep issues ((rows[i]?).map winner) (((rows ++ [a])[i]?).map winner) := by
  rw [List.getElem?_append]
  split_ifs with hlt
  · exact .same _
  · rw [List.getElem?_eq_none (Nat.le_of_not_lt hlt), List.getElem?_singleton]
    split_ifs
    · exact .insert (winner a) hs
    · exact .same _

end Rows

section Latch

variable {view : AuctionDb → Option Winner} {issued : AuctionDb → Label → OrderId → Paise → Prop}
  {db : AuctionDb} {ls : List Label} {x : Winner} {o : OrderId} {b : Paise}

/-- **A stored order is an order of this round.** -/
theorem since_of_stored (hstep : ∀ db l, RoundStep (issued db l) (view db) (view (step db l)))
    (hinit : view db = none) (hx : view (Run.exec step db ls) = some x) (hs : x.status = .ended)
    (ho : x.order = some o) :
    Run.Since step (fun db l => issued db l o x.bid) (fun db => Rests (view db)) db ls := by
  refine Run.since_of_latch (P := fun db => view db = some x) ?_ (fun s l hnow => ?_) ls hx
  · rw [hinit]
    simp
  · refine ⟨fun y hy => ?_, ((hstep s l).stored hnow hs ho).symm⟩
    rw [hnow] at hy
    cases hy
    rw [hs]
    rfl

/-- **An order of this round is stored.** -/
theorem stored_of_since (hstep : ∀ db l, RoundStep (issued db l) (view db) (view (step db l)))
    (hissued : ∀ db l, issued db l o b → Holds (view (step db l)))
    (h : Run.Since step (fun db l => issued db l o b) (fun db => Rests (view db)) db ls) :
    Holds (view (Run.exec step db ls)) :=
  Run.latch_of_since (P := fun db => Holds (view db)) (fun s l hev _ => hissued s l hev)
    (fun s l hold hrest => (hstep s l).holds hold hrest) h

end Latch

/-! ## Software auctions -/

def AuctionDb.softwareWinner (db : AuctionDb) (auction : AuctionId) : Option Winner :=
  (db.software[auction]?).map SoftwareAuction.winner

/-- The call is a `create_winner_payment_order` of this software auction and makes Razorpay
register the order `o`, for a winning bid of `b` less the winner's discount. -/
def SoftwareIssued (auction : AuctionId) (db : AuctionDb) (l : Label) (o : OrderId) (b : Paise) :
    Prop :=
  ∃ r, l = .orderSoftware r ∧ r.auction = auction ∧
    (step db l).gateway.orders =
      ⟨o, (r.charge db.wallets b).1, .other r.winner⟩ :: db.gateway.orders

section SoftwareSteps

variable {db db' : AuctionDb} {auction j : AuctionId} {a : SoftwareAuction}
  {f : SoftwareAuction → SoftwareAuction}

theorem software_frame (h : db'.software = db.software) :
    RoundStep issues (db.softwareWinner auction) (db'.softwareWinner auction) := by
  rw [AuctionDb.softwareWinner, AuctionDb.softwareWinner, h]
  exact .same _

theorem software_edit (hdb : db'.software = db.software.modify j f)
    (hget : db.software[j]? = some a)
    (h : auction = j → RoundStep issues (some a.winner) (some (f a).winner)) :
    RoundStep issues (db.softwareWinner auction) (db'.softwareWinner auction) := by
  rw [AuctionDb.softwareWinner, AuctionDb.softwareWinner, hdb]
  exact roundStep_modify hget h

theorem software_insert {row : SoftwareAuction} (hdb : db'.software = db.software ++ [row])
    (hs : row.status ≠ .ended) :
    RoundStep issues (db.softwareWinner auction) (db'.softwareWinner auction) := by
  rw [AuctionDb.softwareWinner, AuctionDb.softwareWinner, hdb]
  exact roundStep_append hs

theorem software_onSoftware {check : SoftwareAuction → Except AppException Unit}
    (h : ∀ a, RoundStep issues (some a.winner) (some (f a).winner)) :
    RoundStep issues (db.softwareWinner auction)
      ((db.onSoftware j check f).db.softwareWinner auction) := by
  unfold AuctionDb.onSoftware
  split
  · exact software_frame rfl
  next a hget =>
  split
  · exact software_frame rfl
  · exact software_edit rfl hget fun _ => h a

theorem software_createAuction (r : Software.CreateRequest) :
    RoundStep issues (db.softwareWinner auction)
      ((Software.createAuction db r).db.softwareWinner auction) := by
  unfold Software.createAuction
  split
  · exact software_frame rfl
  split
  · exact software_frame rfl
  split
  · unfold Software.insertAuction
    split
    · exact software_insert rfl (by simp [Software.CreateRequest.row])
    · split
      · exact software_frame rfl
      · exact software_insert rfl (by simp [Software.CreateRequest.row])
  · next i hi =>
    split
    · next hrej =>
      cases hget : db.software[i]? with
      | none => simp [hget] at hrej
      | some a => exact software_edit rfl hget fun _ => .leave _ .draft (by decide) (by decide)
    · exact software_frame rfl

theorem software_placeBid (r : Software.BidRequest) :
    RoundStep issues (db.softwareWinner auction)
      ((Software.placeBid db r).db.softwareWinner auction) := by
  unfold Software.placeBid
  split
  · exact software_frame rfl
  split
  · exact software_frame rfl
  next a hget =>
  split
  · exact software_frame rfl
  split
  · exact software_frame rfl
  next hlive =>
  split
  · exact software_frame rfl
  split
  · exact software_frame rfl
  split
  · exact software_frame rfl
  split
  · exact software_frame rfl
  dsimp only
  split
  · exact software_frame rfl
  · refine software_edit rfl hget fun _ => .run _ _ ?_
    exact applyAntiSnipe_live (by simpa using hlive)

theorem software_endExpired {now : Time} :
    RoundStep issues (db.softwareWinner auction)
      ((Software.endExpired db j now).softwareWinner auction) := by
  unfold Software.endExpired
  split
  · exact software_frame rfl
  next a hget =>
  split
  · next hexp =>
    unfold Software.endAuction
    split
    · exact software_edit rfl hget fun _ => .leave _ .unsold (by decide) (by decide)
    · dsimp only
      split
      · exact software_edit rfl hget fun _ => .finish _ _ hexp.1 rfl
      · exact software_edit rfl hget fun _ => .finish _ _ hexp.1 rfl
  · exact software_frame rfl

theorem software_reAuction (r : Software.ReAuctionRequest) :
    RoundStep issues (db.softwareWinner auction)
      ((Software.reAuction db r).db.softwareWinner auction) := by
  unfold Software.reAuction
  split
  · exact software_frame rfl
  next a hget =>
  split
  · exact software_frame rfl
  split
  · exact software_frame rfl
  split
  · exact software_frame rfl
  · exact software_edit rfl hget fun _ => .run _ _ rfl

theorem software_forfeit :
    RoundStep issues (db.softwareWinner auction) ((Software.forfeit db j).softwareWinner auction) := by
  have hedit : ∀ a, db.software[j]? = some a → RoundStep issues (db.softwareWinner auction)
      ((db.editSoftware j fun a => { a with status := .unsold, currentWinnerId := none
        }).softwareWinner auction) :=
    fun a hget => software_edit rfl hget fun _ => .leave _ .unsold (by decide) (by decide)
  unfold Software.forfeit
  cases hget : db.software[j]? with
  | none => exact software_frame rfl
  | some a =>
    dsimp only [Option.map_some]
    split
    · exact hedit a hget
    · exact hedit a hget
    · exact software_frame rfl

/-- `verify_winner_payment` at most completes the auction. -/
theorem software_verifyWinnerPayment (r : Software.VerifyRequest) :
    RoundStep issues (db.softwareWinner auction)
      ((Software.verifyWinnerPayment db r).db.softwareWinner auction) := by
  unfold Software.verifyWinnerPayment
  split
  · exact software_frame rfl
  next a hget =>
  split_ifs
  · exact software_frame rfl
  · exact software_frame rfl
  · exact software_frame rfl
  · exact software_frame rfl
  · exact software_frame rfl
  dsimp only
  split
  · exact software_frame rfl
  · next db' hok =>
    have hsame : db'.software = db.software := by
      rw [completeAuctionWinnerPurchase_frame hok]
    refine software_edit (f := Software.paidRow r.paid.payment) ?_ hget fun _ =>
      .leave _ .completed (by decide) (by decide)
    simp only [auctionDone_db, AuctionDb.editSoftware, hsame]

/-- `create_winner_payment_order`: the order is registered and stored together. -/
theorem software_createWinnerPaymentOrder (r : Software.WinnerOrderRequest) :
    RoundStep (SoftwareIssued auction db (.orderSoftware r)) (db.softwareWinner auction)
      ((Software.createWinnerPaymentOrder db r).db.softwareWinner auction) := by
  have hcall : step db (.orderSoftware r) = (Software.createWinnerPaymentOrder db r).db := rfl
  unfold SoftwareIssued
  rw [hcall]
  unfold Software.createWinnerPaymentOrder
  split
  · exact software_frame rfl
  next a hget =>
  split
  · exact software_frame rfl
  split
  · exact software_frame rfl
  next hended =>
  split
  · exact software_frame rfl
  split
  · exact software_frame rfl
  split
  · exact software_frame rfl
  split
  · exact software_frame rfl
  next order gateway hissue =>
  obtain ⟨rfl, horders⟩ := Gateway.createOrder_eq_some hissue
  refine software_edit rfl hget fun heq => ?_
  exact .order _ _ (not_not.mp hended) ⟨r, rfl, heq.symm, horders⟩

end SoftwareSteps

/-- **Every call changes every software auction by a round step.** -/
theorem software_step (auction : AuctionId) (db : AuctionDb) (l : Label) :
    RoundStep (SoftwareIssued auction db l) (db.softwareWinner auction)
      ((step db l).softwareWinner auction) := by
  cases l with
  | createSoftware r => exact software_createAuction r
  | approveSoftware j now => exact software_onSoftware fun _ => .run _ _ rfl
  | rejectSoftware j =>
    exact software_onSoftware fun _ => .leave _ .closed (by decide) (by decide)
  | takeDownSoftware j =>
    exact software_onSoftware fun _ => .leave _ .takenDown (by decide) (by decide)
  | approveAgainSoftware j now => exact software_onSoftware fun _ => .run _ _ rfl
  | bidSoftware r => exact software_placeBid r
  | endSoftware j now => exact software_endExpired
  | reAuctionSoftware r => exact software_reAuction r
  | closeSoftware j listedBy lister =>
    exact software_onSoftware fun _ => .leave _ .closed (by decide) (by decide)
  | forfeitSoftware j => exact software_forfeit
  | orderSoftware r => exact software_createWinnerPaymentOrder r
  | verifySoftware r => exact software_verifyWinnerPayment r
  | otherOrder user amount =>
    refine software_frame ?_
    simp only [step, call]
    split <;> rfl
  | creationFeeOrder r => exact software_frame rfl
  | bidFeeOrder r j amount => exact software_frame rfl
  | verifyCreationFee user type p => exact software_frame rfl
  | capture order => exact software_frame rfl
  | award user points => exact software_frame rfl
  | _ => exact software_frame (communityOnly_step rfl).software

/-! ## Community auctions -/

def AuctionDb.communityWinner (db : AuctionDb) (auction : AuctionId) : Option Winner :=
  (db.community[auction]?).map CommunityAuction.winner

/-- The call is a `create_winner_payment_order` of this community auction and makes Razorpay
register the order `o`, for a winning bid of `b`. -/
def CommunityIssued (auction : AuctionId) (db : AuctionDb) (l : Label) (o : OrderId) (b : Paise) :
    Prop :=
  ∃ user up, l = .orderCommunity auction user up ∧
    (step db l).gateway.orders = ⟨o, b, .other user⟩ :: db.gateway.orders

section CommunitySteps

variable {db db' : AuctionDb} {auction j : AuctionId} {a : CommunityAuction}
  {f : CommunityAuction → CommunityAuction}

theorem community_frame (h : db'.community = db.community) :
    RoundStep issues (db.communityWinner auction) (db'.communityWinner auction) := by
  rw [AuctionDb.communityWinner, AuctionDb.communityWinner, h]
  exact .same _

theorem community_edit (hdb : db'.community = db.community.modify j f)
    (hget : db.community[j]? = some a)
    (h : auction = j → RoundStep issues (some a.winner) (some (f a).winner)) :
    RoundStep issues (db.communityWinner auction) (db'.communityWinner auction) := by
  rw [AuctionDb.communityWinner, AuctionDb.communityWinner, hdb]
  exact roundStep_modify hget h

theorem thenConsume_community {user : UserId} {order : OrderId} {waived : Bool} :
    (Community.thenConsume db user order auction waived).db.community = db.community := by
  rw [thenConsume_frame]

theorem community_insert {row : CommunityAuction} (hdb : db'.community = db.community ++ [row])
    (hs : row.status ≠ .ended) :
    RoundStep issues (db.communityWinner auction) (db'.communityWinner auction) := by
  rw [AuctionDb.communityWinner, AuctionDb.communityWinner, hdb]
  exact roundStep_append hs

/-- `create_auction`: a new row, a prepared one, or the next round of an old one. -/
theorem community_createAuction (r : Community.CreateRequest) :
    RoundStep issues (db.communityWinner auction)
      ((Community.createAuction db r).db.communityWinner auction) := by
  have hinsert : RoundStep issues (db.communityWinner auction) ((Community.thenConsume
      { db with community := db.community ++ [r.row] } r.user r.creationFeeOrderId
      db.community.length r.feeWaived).db.communityWinner auction) :=
    community_insert thenConsume_community (by simp [Community.CreateRequest.row])
  unfold Community.createAuction
  split
  · exact community_frame rfl
  split
  · exact community_frame rfl
  split
  · exact hinsert
  next i hi =>
  cases hget : db.community[i]? with
  | none => exact community_frame rfl
  | some a =>
    dsimp only [Option.map_some]
    split_ifs with hpend hlive hterm
    · exact community_edit rfl hget fun _ => .prepare _ _ hpend rfl
    · exact community_frame rfl
    · exact community_edit thenConsume_community hget fun _ => .run _ _ rfl
    · exact hinsert

theorem community_placeBid (r : Community.BidRequest) :
    RoundStep issues (db.communityWinner auction)
      ((Community.placeBid db r).db.communityWinner auction) := by
  unfold Community.placeBid
  split
  · exact community_frame rfl
  split
  · exact community_frame rfl
  next a hget =>
  split
  · exact community_frame rfl
  next hlive =>
  split
  · exact community_frame rfl
  split
  · exact community_frame rfl
  split
  · exact community_frame rfl
  dsimp only
  split
  · exact community_frame rfl
  · refine community_edit rfl hget fun _ => .run _ _ ?_
    exact applyAntiSnipe_live (by simpa using hlive)

theorem community_endExpired {now : Time} :
    RoundStep issues (db.communityWinner auction)
      ((Community.endExpired db j now).communityWinner auction) := by
  unfold Community.endExpired
  split
  · exact community_frame rfl
  next a hget =>
  split
  · next hexp =>
    unfold Community.endAuction
    split
    · dsimp only
      split
      · exact community_edit rfl hget fun _ => .finish _ _ hexp.1 rfl
      · exact community_edit rfl hget fun _ => .finish _ _ hexp.1 rfl
    · exact community_edit rfl hget fun _ => .leave _ .unsold (by decide) (by decide)
  · exact community_frame rfl

/-- `create_winner_payment_order`: the order is registered and stored together. -/
theorem community_createWinnerPaymentOrder {user : UserId} {up : Bool} :
    RoundStep (CommunityIssued auction db (.orderCommunity j user up))
      (db.communityWinner auction)
      ((Community.createWinnerPaymentOrder db j user up).db.communityWinner auction) := by
  have hcall : step db (.orderCommunity j user up) =
      (Community.createWinnerPaymentOrder db j user up).db := rfl
  unfold CommunityIssued
  rw [hcall]
  unfold Community.createWinnerPaymentOrder
  split
  · exact community_frame rfl
  next a hget =>
  split
  · exact community_frame rfl
  split
  · exact community_frame rfl
  next hended =>
  split
  · exact community_frame rfl
  split
  · exact community_frame rfl
  split
  · exact community_frame rfl
  split
  · exact community_frame rfl
  next order gateway hissue =>
  obtain ⟨rfl, horders⟩ := Gateway.createOrder_eq_some hissue
  refine community_edit rfl hget fun heq => ?_
  exact .order _ _ (not_not.mp hended) ⟨user, up, by rw [heq], horders⟩

end CommunitySteps

/-- **Every call changes every community auction by a round step.** -/
theorem community_step (auction : AuctionId) (db : AuctionDb) (l : Label) :
    RoundStep (CommunityIssued auction db l) (db.communityWinner auction)
      ((step db l).communityWinner auction) := by
  cases l with
  | createCommunity r => exact community_createAuction r
  | activateCommunity j user now =>
    simp only [step, call, Community.activateAuctionAfterPayment]
    split
    · exact community_frame rfl
    next a hget =>
    split_ifs
    · exact community_frame rfl
    · exact community_frame rfl
    · exact community_edit rfl hget fun _ => .run _ _ rfl
  | bidCommunity r => exact community_placeBid r
  | endCommunity j now => exact community_endExpired
  | reAuctionCommunity r =>
    simp only [step, call, Community.reAuction]
    split
    · exact community_frame rfl
    next a hget =>
    split_ifs
    · exact community_frame rfl
    · exact community_frame rfl
    · exact community_edit thenConsume_community hget fun _ => .run _ _ rfl
  | closeCommunity j owner user =>
    simp only [step, call, Community.closeAuction]
    split
    · exact community_frame rfl
    next a hget =>
    split_ifs
    · exact community_frame rfl
    · exact community_frame rfl
    · exact community_frame rfl
    · exact community_edit rfl hget fun _ => .leave _ .closed (by decide) (by decide)
  | orderCommunity j user up => exact community_createWinnerPaymentOrder
  | verifyCommunity j user paid =>
    simp only [step, call, Community.verifyWinnerPayment]
    split
    · exact community_frame rfl
    next a hget =>
    split_ifs
    all_goals try exact community_frame rfl
    exact community_edit rfl hget fun _ => .leave _ .completed (by decide) (by decide)
  | bidSoftware r =>
    refine community_frame ?_
    simp only [step, call, Software.placeBid]
    split
    · rfl
    split
    · rfl
    split_ifs
    all_goals try rfl
    split
    · rfl
    · split <;> rfl
  | orderSoftware r =>
    refine community_frame ?_
    simp only [step, call, Software.createWinnerPaymentOrder]
    split
    · rfl
    split_ifs
    all_goals try rfl
    split <;> rfl
  | verifySoftware r =>
    refine community_frame ?_
    simp only [step, call, Software.verifyWinnerPayment]
    split
    · rfl
    split_ifs
    all_goals try rfl
    split
    · rfl
    · next db' hok =>
      rw [completeAuctionWinnerPurchase_frame hok]
      rfl
  | otherOrder user amount =>
    refine community_frame ?_
    simp only [step, call]
    split <;> rfl
  | creationFeeOrder r => exact community_frame rfl
  | bidFeeOrder r j amount => exact community_frame rfl
  | verifyCreationFee user type p => exact community_frame rfl
  | capture order => exact community_frame rfl
  | award user points => exact community_frame rfl
  | _ => exact community_frame (softwareOnly_step rfl).community

end Deltapreneur.Auction
