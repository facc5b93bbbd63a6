import Deltapreneur.Auction.BidFees
import Deltapreneur.Auction.OneClaim
import Deltapreneur.Marketplace.Binding

/-!
# A creation fee for every round

Domain, software and community auctions over one table of fees, one whole call after another. A
round of an auction begins each time it goes live; every round of a creator whose role does not
waive the fees should have a consumed creation fee of its own.

* `Roles`: what the tables of users, listings and profiles say. Nothing here changes it.
* `create_auction` and `re_auction` of a domain consume the fee in the transaction that inserts the
  auction. The creator of a domain auction is its `created_by`, of a software auction the lister of
  the software, of a community auction the owner of the profile.
* `State.rounds` counts the rounds of every auction. It is a history variable, which no call reads.
* The auctions are seen through `Face`: the creator and the status.

Results:

* `every_round_paid`: so do runs of such calls.
* `refused_and_live`: `create_auction` of a community auction raises for want of a fee and leaves the
  auction running.
-/

namespace Deltapreneur.Auction.CreationFees

open EdgePoints Marketplace PlaceBid Razorpay WinnerPayment

/-! ## The system -/

/-- What other tables say about users, software listings and community profiles. -/
structure Roles where
  /-- `role_waives_auction_platform_fees`. -/
  waives : UserId → Bool
  /-- `listed_by_user_id` of a software. -/
  lister : Nat → Option UserId
  /-- `app_user_id` of a profile. -/
  owner : Nat → Option UserId

inductive Label
  | createDomain (r : CreateAuctionRequest) (creationFeeOrderId : Option OrderId)
  | reAuctionDomain (r : Domain.ReAuctionRequest) (creationFeeOrderId : OrderId)
  /-- Any other call on domain auctions and their listings. -/
  | domain (l : Domain.Label)
  /-- The fee of a bid on a domain auction. -/
  | domainBid (r : Services.DomainBid)
  /-- A call on software and community auctions or on fees. -/
  | auction (l : Auction.Label)

/-- The fees after `consume_creation_fee` for the domain auction that is about to be inserted. -/
def consumeDomainFee (db : Services.Db) (user : UserId) (order : OrderId) :
    Option (List FeePayment) :=
  match consumeCreationFee db.feeTables user .domain order db.market.auctions.length with
  | .error _ => none
  | .ok t => some t.fees

/-- `create_auction` of a domain, with its fee. -/
def createDomain (roles : Roles) (db : Services.Db) (r : CreateAuctionRequest)
    (creationFeeOrderId : Option OrderId) : Services.Db :=
  let fees := creationFeeOrderId.bind (consumeDomainFee db r.actor)
  let out := createAuction db.market { r with
    isAdmin := roles.waives r.actor
    feeOrderGiven := creationFeeOrderId.isSome
    feeValid := fees.isSome }
  { db with
    market := out.db
    fees := if out.result.isOk && !roles.waives r.actor then fees.getD db.fees else db.fees }

/-- `re_auction` of a domain, with its fee. -/
def reAuctionDomain (roles : Roles) (db : Services.Db) (r : Domain.ReAuctionRequest)
    (creationFeeOrderId : OrderId) : Services.Db :=
  let fees := consumeDomainFee db r.actor creationFeeOrderId
  let out := Domain.reAuction db.market { r with
    isAdmin := roles.waives r.actor
    feeValid := fees.isSome }
  { db with
    market := out.db
    fees := if out.result.isOk then fees.getD db.fees else db.fees }

/-- The call opens a domain auction: it comes with a fee. -/
def opensDomain : Domain.Label → Bool
  | .sale (.createAuction _) | .reAuction _ => true
  | _ => false

/-- A call on software or community auctions finds in the other tables what these say. -/
def Roles.fill (roles : Roles) (db : AuctionDb) : Auction.Label → Auction.Label
  | .createSoftware r =>
    .createSoftware { r with
      listedBy := roles.lister r.softwareId
      feeWaived := roles.waives r.lister }
  | .reAuctionSoftware r =>
    .reAuctionSoftware { r with
      listedBy := (db.software[r.auction]?).bind fun a => roles.lister a.softwareId }
  | .createCommunity r =>
    .createCommunity { r with
      owner := roles.owner r.communityId
      feeWaived := roles.waives r.user }
  | .reAuctionCommunity r =>
    .reAuctionCommunity { r with
      owner := (db.community[r.auction]?).bind fun a => roles.owner a.communityId }
  | l => l

/-- The tables after one call. -/
def step (roles : Roles) (db : Services.Db) : Label → Services.Db
  | .createDomain r order => createDomain roles db r order
  | .reAuctionDomain r order => reAuctionDomain roles db r order
  | .domain l => if opensDomain l then db else { db with market := Domain.step db.market l }
  | .domainBid r => db.putFees (Services.domainBidFee db.feeTables r).1
  | .auction l => db.putAuctions (Auction.step db.auctions (roles.fill db.auctions l))

/-! ## Rounds and fees -/

/-- Creator and status of an auction. -/
structure Face where
  creator : Option UserId
  status : AuctionStatus
  deriving Repr, DecidableEq

def domainFace (a : Marketplace.Auction) : Face := ⟨some a.createdBy, a.status⟩

def softwareFace (roles : Roles) (a : SoftwareAuction) : Face :=
  ⟨roles.lister a.softwareId, a.status⟩

def communityFace (roles : Roles) (a : CommunityAuction) : Face :=
  ⟨roles.owner a.communityId, a.status⟩

/-- The auction, if it exists. -/
def face (roles : Roles) (db : Services.Db) (ref : AuctionRef) : Option Face :=
  match ref.kind with
  | .domain => (db.market.auctions[ref.id]?).map domainFace
  | .software => (db.software[ref.id]?).map (softwareFace roles)
  | .community => (db.community[ref.id]?).map (communityFace roles)

/-- The auction takes bids. -/
def live (v : Option Face) : Bool := v.any fun x => x.status.live

/-- The tables, and how many rounds every auction has had. -/
structure State where
  db : Services.Db
  rounds : AuctionRef → Nat

/-- One call; an auction that goes live begins a round. -/
def next (roles : Roles) (s : State) (l : Label) : State where
  db := step roles s.db l
  rounds := fun ref => s.rounds ref +
    (!live (face roles s.db ref) && live (face roles (step roles s.db l) ref)).toNat

/-- The row is a consumed creation fee of the user for the auction. -/
def pays (ref : AuctionRef) (user : UserId) (f : FeePayment) : Bool :=
  f.paymentKind = .creation && f.status = .consumed && f.userId = user &&
    f.auctionType = ref.kind && f.auctionId = some ref.id

/-- How many creation fees the user has paid for the auction. -/
def feesPaid (fees : List FeePayment) (ref : AuctionRef) (user : UserId) : Nat :=
  fees.countP (pays ref user)

/-- **Every round has its own fee.** An auction that takes bids, of a creator who does not have the
fees waived, is in some round, and there are as many consumed creation fees of the creator for it as
it has had rounds. -/
def EveryRoundPaid (roles : Roles) (s : State) : Prop :=
  ∀ (ref : AuctionRef) (creator : UserId), live (face roles s.db ref) = true →
    (face roles s.db ref).bind Face.creator = some creator → roles.waives creator = false →
      1 ≤ s.rounds ref ∧ s.rounds ref ≤ feesPaid s.db.fees ref creator

/-! ## Calls that take an auction live without a fee -/

/-- The auction `approve_and_go_live` takes live. -/
def approves (db : Marketplace.Db) (listing : ListingId) : Option AuctionId :=
  if (db.listings listing).any fun l => l.saleType = .auction &&
      (l.verificationStatus = .pending || l.verificationStatus = .moreInfoRequested) then
    (db.latestAuction listing).filter fun i => (db.auctions[i]?).any fun a =>
      a.status = .draft || a.status = .cancelled
  else none

/-- `create_auction` of a community profile gets as far as its running auction: the id. -/
def startsCommunity (roles : Roles) (db : AuctionDb) (r : Community.CreateRequest) :
    Option AuctionId :=
  if roles.owner r.communityId = some r.user then
    match Community.latest db r.communityId with
    | none => some db.community.length
    | some i =>
      match (db.community[i]?).map CommunityAuction.status with
      | none => none
      | some status =>
        if status = .paymentPending ∨ status.live then none
        else if Community.terminal status then some i
        else some db.community.length
  else none

/-- `consume_creation_fee` refuses the order. -/
def refuses (t : FeeTables) (user : UserId) (type : FeeAuctionType) (order : OrderId)
    (auction : AuctionId) : Bool :=
  !(consumeCreationFee t user type order auction).isOk

/-- The auction's creator pays fees, and it has been live before. -/
def liveBefore (roles : Roles) (s : State) (ref : AuctionRef) : Bool :=
  s.rounds ref ≠ 0 && ((face roles s.db ref).bind Face.creator).any fun c => !roles.waives c

/-- The call takes an auction live for whose round nobody has paid: an auction that was live before
is approved once more, or a community auction starts with an order that is not a paid creation fee of
its creator. -/
def unpaid (roles : Roles) (s : State) : Label → Bool
  | .domain (.sale (.approveAndGoLive listing)) =>
    (approves s.db.market listing).any fun i => liveBefore roles s ⟨.domain, i⟩
  | .auction (.approveSoftware auction _) =>
    (s.db.software[auction]?).any (fun a => a.approvalStatus = .pendingApproval) &&
      liveBefore roles s ⟨.software, auction⟩
  | .auction (.approveAgainSoftware auction _) =>
    (s.db.software[auction]?).any (fun a => a.approvalStatus = .rejected) &&
      liveBefore roles s ⟨.software, auction⟩
  | .auction (.createCommunity r) =>
    (startsCommunity roles s.db.auctions r).any fun i => !roles.waives r.user &&
      refuses s.db.feeTables r.user .community r.creationFeeOrderId i
  | .auction (.activateCommunity auction user _) =>
    (s.db.community[auction]?).any fun a => a.createdBy = user && a.status = .paymentPending &&
      (roles.owner a.communityId).any fun c => !roles.waives c
  | .auction (.reAuctionCommunity r) =>
    (s.db.community[r.auction]?).any fun a => roles.owner a.communityId = some r.user &&
      a.status = .unsold && !roles.waives r.user &&
      refuses s.db.feeTables r.user .community r.creationFeeOrderId r.auction
  | _ => false

/-! ## What happens to the fees -/

/-- No fee is taken back, and orders stay unique. -/
structure FeesKept (t t' : FeeTables) : Prop where
  orders : OrdersOk t → OrdersOk t'
  paid : OrdersOk t → ∀ ref user, feesPaid t.fees ref user ≤ feesPaid t'.fees ref user

variable {t t' t'' : FeeTables} {ref : AuctionRef} {user : UserId} {order : OrderId}
  {row : FeePayment} {f : FeePayment → FeePayment} {type : FeeAuctionType} {auction : AuctionId}
  {amount : Paise} {check : SoftwareAuction → Except AppException Unit} {now : Time}
  {r : Community.CreateRequest} {fees : List FeePayment} {l : Domain.Label} {listing : ListingId}

theorem FeesKept.trans (h : FeesKept t t') (h' : FeesKept t' t'') : FeesKept t t'' :=
  ⟨fun ho => h'.orders (h.orders ho),
    fun ho ref user => (h.paid ho ref user).trans (h'.paid (h.orders ho) ref user)⟩

theorem FeesKept.of_same (hfees : t'.fees = t.fees)
    (hnext : t.gateway.nextId ≤ t'.gateway.nextId) : FeesKept t t' := by
  refine ⟨fun ⟨hnd, hlt⟩ => ?_, fun _ ref user => by rw [hfees]⟩
  unfold OrdersOk
  rw [hfees]
  exact ⟨hnd, fun o ho => (hlt o ho).trans_le hnext⟩

theorem FeesKept.refl (t : FeeTables) : FeesKept t t := .of_same rfl (Nat.le_refl _)

theorem FeesKept.of_grow (h : FeesGrow t t') : FeesKept t t' := by
  refine ⟨fun ho => ho.grow h, fun _ ref user => ?_⟩
  rcases h.fees with hfees | ⟨row, hfees, -⟩
  · rw [hfees]
  · unfold feesPaid
    rw [hfees, List.countP_append]
    exact Nat.le_add_right _ _

theorem not_pays_of_bid (h : row.paymentKind = .bid) : pays ref user row = false := by
  simp [pays, h]

theorem not_pays_of_open (h : row.status ≠ .consumed) : pays ref user row = false := by
  simp [pays, h]

theorem FeesKept.edit (hrow : t.feeByOrder order = some row)
    (hopen : ∀ ref user, pays ref user row = false)
    (hf : ∀ row, (f row).razorpayOrderId = row.razorpayOrderId)
    (hfees : t'.fees = (t.editFee order f).fees) (hg : t'.gateway = t.gateway) : FeesKept t t' := by
  refine ⟨fun ho => ho.edit hf hfees hg, fun ⟨hnd, _⟩ ref user => ?_⟩
  obtain ⟨hmem, horder⟩ := Table.lookup_eq_some hrow
  have hcount := Table.countP_update (f := f) (pays ref user) hnd hmem horder
  rw [hopen ref user, Bool.toNat_false, Nat.add_zero] at hcount
  unfold feesPaid
  rw [hfees, FeeTables.editFee, hcount]
  exact Nat.le_add_right _ _

/-- **A consumed creation fee is one more paid fee of its auction.** -/
theorem consumeCreationFee_pays (h : consumeCreationFee t user type order auction = .ok t') :
    FeesKept t t' ∧ (OrdersOk t →
      feesPaid t.fees ⟨type, auction⟩ user + 1 ≤ feesPaid t'.fees ⟨type, auction⟩ user) := by
  unfold consumeCreationFee at h
  split at h
  · exact absurd h raise_ne_ok
  next row hrow =>
  rw [ite_raise_eq_ok] at h
  obtain ⟨hcheck, hok⟩ := h
  simp only [not_or, not_not] at hcheck
  obtain ⟨huser, hkind, htype, hstatus⟩ := hcheck
  have hopen : ∀ ref user, pays ref user row = false :=
    fun ref user => not_pays_of_open (by rw [hstatus]; decide)
  cases hok
  refine ⟨.edit (f := fun row => { row.consume with auctionId := some auction }) hrow hopen
    (fun _ => rfl) rfl rfl, fun ⟨hnd, _⟩ => ?_⟩
  obtain ⟨hmem, horder⟩ := Table.lookup_eq_some hrow
  have hcount := Table.countP_update (f := fun row => { row.consume with auctionId := some auction })
    (pays ⟨type, auction⟩ user) hnd hmem horder
  have hpays : pays ⟨type, auction⟩ user { row.consume with auctionId := some auction } = true := by
    simp [pays, FeePayment.consume, huser, hkind, htype]
  rw [hopen, hpays] at hcount
  unfold feesPaid
  rw [FeeTables.editFee]
  simp only [Bool.toNat_false, Bool.toNat_true, Nat.add_zero] at hcount
  rw [hcount]

theorem feesKept_verifyCreationFeePayment (type : FeeAuctionType) (p : Triple) :
    FeesKept t (verifyCreationFeePayment t user type p).1 := by
  unfold verifyCreationFeePayment
  split_ifs
  · exact .of_same rfl (Nat.le_refl _)
  split
  · exact .refl t
  next row hrow =>
  split_ifs with hcheck hopen
  · exact .refl t
  · exact .refl t
  · exact .edit (f := .complete p.payment) hrow (fun _ _ => not_pays_of_open hopen) (fun _ => rfl)
      rfl rfl

theorem checkBidFee_row (h : checkBidFee t type auction user order amount = .ok ()) :
    ∃ row, t.feeByOrder order = some row ∧ row.paymentKind = .bid := by
  unfold checkBidFee at h
  split at h
  · exact absurd h raise_ne_ok
  next row hrow =>
  rw [ite_raise_eq_ok] at h
  obtain ⟨hcheck, -⟩ := h
  simp only [not_or, not_not] at hcheck
  exact ⟨row, hrow, hcheck.2.1⟩

/-- A bid fee is completed, and perhaps consumed. -/
theorem feesKept_bidFee {payment : PaymentId} (hrow : t.feeByOrder order = some row)
    (hbid : row.paymentKind = .bid) (hg : t'.gateway = t.gateway)
    (hfees : t'.fees = (t.editFee order (.complete payment)).fees ∨
      t'.fees = ((t.editFee order (.complete payment)).consumeBidFee order).fees) :
    FeesKept t t' := by
  have hopen : ∀ ref user, pays ref user row = false := fun _ _ => not_pays_of_bid hbid
  rcases hfees with hfees | hfees
  · exact .edit (f := .complete payment) hrow hopen (fun _ => rfl) hfees hg
  · have hmid : FeesKept t (t.editFee order (.complete payment)) :=
      .edit (f := .complete payment) hrow hopen (fun _ => rfl) rfl rfl
    have hnow : (t.editFee order (.complete payment)).feeByOrder order =
        some (row.complete payment) := by
      have hself : Table.lookup FeePayment.razorpayOrderId order
          (Table.update FeePayment.razorpayOrderId order (FeePayment.complete payment) t.fees) =
          (Table.lookup FeePayment.razorpayOrderId order t.fees).map (FeePayment.complete payment) :=
        Table.lookup_update_self (f := FeePayment.complete payment) (fun _ => rfl) t.fees
      unfold FeeTables.feeByOrder FeeTables.editFee
      unfold FeeTables.feeByOrder at hrow
      rw [hself, hrow]
      rfl
    exact hmid.trans
      (.edit (f := .consume) hnow (fun _ _ => not_pays_of_bid hbid) (fun _ => rfl) hfees hg)

theorem feesKept_verifyBidFeePayment (t : FeeTables) (type : FeeAuctionType) (auction : AuctionId)
    (user : UserId) (p : Triple) (amount : Paise) :
    FeesKept t (verifyBidFeePayment t type auction user p amount).committed ∧
      ((verifyBidFeePayment t type auction user p amount).result = .ok () → FeesKept t
        ((verifyBidFeePayment t type auction user p amount).session.consumeBidFee p.order)) := by
  unfold verifyBidFeePayment
  split
  · exact ⟨.of_same rfl (Nat.le_refl _), fun h => absurd h raise_ne_ok⟩
  split
  · exact ⟨.refl t, fun h => absurd h (by simp)⟩
  next hcheck =>
  obtain ⟨row, hrow, hbid⟩ := checkBidFee_row hcheck
  dsimp only
  refine ⟨?_, fun _ => feesKept_bidFee hrow hbid rfl (.inr rfl)⟩
  split_ifs
  · exact feesKept_bidFee hrow hbid rfl (.inl rfl)
  · exact .refl t

theorem feesKept_verifyBidFeeSync (t : FeeTables) (auction : AuctionId) (user : UserId) (p : Triple)
    (amount : Paise) :
    FeesKept t (verifyBidFeeSync t auction user p amount).committed ∧
      ((verifyBidFeeSync t auction user p amount).result = .ok () → FeesKept t
        ((verifyBidFeeSync t auction user p amount).session.consumeBidFee p.order)) := by
  unfold verifyBidFeeSync
  split_ifs
  · exact ⟨.refl t, fun h => absurd h raise_ne_ok⟩
  split
  · exact ⟨.refl t, fun h => absurd h (by simp)⟩
  next hcheck =>
  obtain ⟨row, hrow, hbid⟩ := checkBidFee_row hcheck
  exact ⟨.refl t, fun _ => feesKept_bidFee hrow hbid rfl (.inr rfl)⟩

theorem feesKept_domainBidFee (r : Services.DomainBid) :
    FeesKept t (Services.domainBidFee t r).1 := by
  obtain ⟨hcommitted, hsession⟩ :=
    feesKept_verifyBidFeePayment t .domain r.auction r.bidder r.fee r.amount
  unfold Services.domainBidFee
  dsimp only
  split
  · exact hcommitted
  · next hok =>
    split_ifs
    · exact hsession hok
    · exact hcommitted

/-! ## What happens to the auctions -/

/-- The auction keeps its creator and does not go live. -/
def Tame (v v' : Option Face) : Prop :=
  v'.map Face.creator = v.map Face.creator ∧ (live v' = true → live v = true)

theorem Tame.refl (v : Option Face) : Tame v v := ⟨rfl, fun h => h⟩

section Rows

variable {ρ : Type} {face : ρ → Face} {rows rows' : List ρ} {j : Nat} {g : ρ → ρ}

/-- Every auction of a table is tame. -/
def TameRows (face : ρ → Face) (rows rows' : List ρ) : Prop :=
  ∀ i : Nat, Tame ((rows[i]?).map face) ((rows'[i]?).map face)

theorem TameRows.of_eq (h : rows' = rows) : TameRows face rows rows' := by
  intro i
  rw [h]
  exact .refl _

theorem tame_modify_ne {i : Nat} (hrows : rows' = rows.modify j g) (hne : i ≠ j) :
    Tame ((rows[i]?).map face) ((rows'[i]?).map face) := by
  rw [hrows, List.getElem?_modify_ne g rows (Ne.symm hne)]
  exact .refl _

theorem modify_face (hrows : rows' = rows.modify j g) :
    (rows'[j]?).map face = (rows[j]?).map fun a => face (g a) := by
  rw [hrows, List.getElem?_modify_eq]
  cases rows[j]? <;> rfl

theorem TameRows.modify (hrows : rows' = rows.modify j g)
    (hg : ∀ a, rows[j]? = some a → (face (g a)).creator = (face a).creator ∧
      ((face (g a)).status.live = true → (face a).status.live = true)) :
    TameRows face rows rows' := by
  intro i
  by_cases hij : i = j
  · subst hij
    rw [modify_face hrows]
    cases hget : rows[i]? with
    | none => exact .refl _
    | some a =>
      obtain ⟨hcreator, hlive⟩ := hg a hget
      refine ⟨?_, hlive⟩
      rw [Option.map_some, Option.map_some, Option.map_some, Option.map_some, hcreator]
  · exact tame_modify_ne hrows hij

theorem TameRows.modify_rest (hrows : rows' = rows.modify j g)
    (hcreator : ∀ a, (face (g a)).creator = (face a).creator)
    (hrest : ∀ a, (face (g a)).status.live = false) : TameRows face rows rows' := by
  refine .modify hrows fun a _ => ⟨hcreator a, fun hlive => ?_⟩
  rw [hrest a] at hlive
  cases hlive

theorem tame_append_ne {i : Nat} {new : ρ} (hrows : rows' = rows ++ [new]) (hne : i ≠ rows.length) :
    Tame ((rows[i]?).map face) ((rows'[i]?).map face) := by
  rw [hrows]
  rcases Nat.lt_or_ge i rows.length with hlt | hge
  · rw [List.getElem?_append_left hlt]
    exact .refl _
  · have hnone : rows[i]? = none := List.getElem?_eq_none hge
    have hnone' : (rows ++ [new])[i]? = none := by
      refine List.getElem?_eq_none ?_
      rw [List.length_append, List.length_singleton]
      omega
    rw [hnone, hnone']
    exact .refl _

theorem append_face {new : ρ} (hrows : rows' = rows ++ [new]) :
    (rows'[rows.length]?).map face = some (face new) := by
  rw [hrows, List.getElem?_concat_length]
  rfl

end Rows

/-! ## Software and community auctions -/

variable {roles : Roles} {db db' : AuctionDb} {j : AuctionId}

/-- No software or community auction goes live, and no fee is taken back. -/
structure Calm (roles : Roles) (db db' : AuctionDb) : Prop where
  software : TameRows (softwareFace roles) db.software db'.software
  community : TameRows (communityFace roles) db.community db'.community
  fees : FeesKept db.toFeeTables db'.toFeeTables

theorem Calm.of_eq (hs : db'.software = db.software) (hc : db'.community = db.community)
    (hf : db'.fees = db.fees) (hnext : db.gateway.nextId ≤ db'.gateway.nextId) :
    Calm roles db db' :=
  ⟨.of_eq hs, .of_eq hc, .of_same hf hnext⟩

theorem Calm.refl (db : AuctionDb) : Calm roles db db := .of_eq rfl rfl rfl (Nat.le_refl _)

theorem Calm.onFees {o : FeeTables × Except AppException Unit}
    (h : FeesKept db.toFeeTables o.1) : Calm roles db (db.onFees o).db :=
  ⟨.of_eq rfl, .of_eq rfl, h⟩

theorem calm_onSoftware {g : SoftwareAuction → SoftwareAuction}
    (hid : ∀ a, (g a).softwareId = a.softwareId) (hrest : ∀ a, (g a).status.live = false) :
    Calm roles db (db.onSoftware j check g).db := by
  unfold AuctionDb.onSoftware
  split
  · exact .refl db
  split
  · exact .refl db
  · refine ⟨.modify_rest rfl (fun a => ?_) hrest, .of_eq rfl, .refl _⟩
    rw [softwareFace, softwareFace, hid]

theorem calm_softwareBid (r : Software.BidRequest) :
    Calm roles db (Software.placeBid db r).db := by
  obtain ⟨hcommitted, hsession⟩ :=
    feesKept_verifyBidFeePayment db.toFeeTables .software r.auction r.bidder r.fee r.amount
  unfold Software.placeBid
  split
  · exact .refl db
  split
  · exact .refl db
  next a hget =>
  split_ifs with happroved hlive hended hown hverified
  · exact .refl db
  · exact .refl db
  · exact .refl db
  · exact .refl db
  · exact .refl db
  split
  · exact .refl db
  dsimp only
  split
  · exact ⟨.of_eq rfl, .of_eq rfl, hcommitted⟩
  · next hok =>
    refine ⟨.modify rfl fun a' hget' => ⟨rfl, fun _ => ?_⟩, .of_eq rfl, hsession hok⟩
    cases hget.symm.trans hget'
    simpa [softwareFace] using hlive

theorem calm_softwareEnd : Calm roles db (Software.endExpired db j now) := by
  unfold Software.endExpired
  split
  · exact .refl db
  split
  · unfold Software.endAuction
    split
    · exact ⟨.modify_rest rfl (fun _ => rfl) (fun _ => rfl), .of_eq rfl, .refl _⟩
    · dsimp only
      split
      · exact ⟨.modify_rest rfl (fun _ => rfl) (fun _ => rfl), .of_eq rfl, .refl _⟩
      · exact ⟨.modify_rest rfl (fun _ => rfl) (fun _ => rfl), .of_eq rfl, .refl _⟩
  · exact .refl db

theorem calm_softwareForfeit : Calm roles db (Software.forfeit db j) := by
  unfold Software.forfeit
  split
  · exact ⟨.modify_rest rfl (fun _ => rfl) (fun _ => rfl), .of_eq rfl, .refl _⟩
  · exact ⟨.modify_rest rfl (fun _ => rfl) (fun _ => rfl), .of_eq rfl, .refl _⟩
  · exact .refl db

theorem nextId_createOrder {g g' : Gateway Notes} {notes : Notes}
    (h : g.createOrder amount notes = some (order, g')) : g.nextId ≤ g'.nextId := by
  obtain ⟨-, horders⟩ := Gateway.createOrder_eq_some h
  simp [Gateway.nextId, horders]

theorem calm_softwareOrder (r : Software.WinnerOrderRequest) :
    Calm roles db (Software.createWinnerPaymentOrder db r).db := by
  unfold Software.createWinnerPaymentOrder
  split
  · exact .refl db
  split_ifs
  all_goals try exact .refl db
  split
  · exact .refl db
  · next order gateway hissued =>
    refine ⟨.modify rfl fun a _ => ⟨rfl, fun h => h⟩, .of_eq rfl, .of_same rfl ?_⟩
    exact nextId_createOrder hissued

theorem calm_softwareVerify (r : Software.VerifyRequest) :
    Calm roles db (Software.verifyWinnerPayment db r).db := by
  have hsame : ∀ w : Wallets, Calm roles db { db with wallets := w } :=
    fun _ => .of_eq rfl rfl rfl (Nat.le_refl _)
  unfold Software.verifyWinnerPayment
  split
  · exact .refl db
  split_ifs
  all_goals try exact .refl db
  · exact hsame _
  dsimp only
  split
  · exact hsame _
  · next db' hok =>
    rw [completeAuctionWinnerPurchase_frame hok]
    refine ⟨.modify_rest rfl (fun _ => rfl) (fun _ => rfl), .of_eq rfl, ?_⟩
    exact .of_same rfl (Nat.le_refl _)

theorem calm_communityBid (r : Community.BidRequest) :
    Calm roles db (Community.placeBid db r).db := by
  obtain ⟨hcommitted, hsession⟩ :=
    feesKept_verifyBidFeeSync db.toFeeTables r.auction r.bidder r.fee r.amount
  unfold Community.placeBid
  split
  · exact .refl db
  split
  · exact .refl db
  next a hget =>
  split_ifs with hlive hended hown
  · exact .refl db
  · exact .refl db
  · exact .refl db
  split
  · exact .refl db
  dsimp only
  split
  · exact ⟨.of_eq rfl, .of_eq rfl, hcommitted⟩
  · next hok =>
    refine ⟨.of_eq rfl, .modify rfl fun a' hget' => ⟨rfl, fun _ => ?_⟩, hsession hok⟩
    cases hget.symm.trans hget'
    simpa [communityFace] using hlive

theorem calm_communityEnd : Calm roles db (Community.endExpired db j now) := by
  unfold Community.endExpired
  split
  · exact .refl db
  split
  · unfold Community.endAuction
    split
    · dsimp only
      split
      · exact ⟨.of_eq rfl, .modify_rest rfl (fun _ => rfl) (fun _ => rfl), .refl _⟩
      · exact ⟨.of_eq rfl, .modify_rest rfl (fun _ => rfl) (fun _ => rfl), .refl _⟩
    · exact ⟨.of_eq rfl, .modify_rest rfl (fun _ => rfl) (fun _ => rfl), .refl _⟩
  · exact .refl db

theorem calm_communityClose {owner : Option UserId} :
    Calm roles db (Community.closeAuction db j owner user).db := by
  unfold Community.closeAuction
  split
  · exact .refl db
  split_ifs
  all_goals try exact .refl db
  exact ⟨.of_eq rfl, .modify_rest rfl (fun _ => rfl) (fun _ => rfl), .refl _⟩

theorem calm_communityOrder {up : Bool} :
    Calm roles db (Community.createWinnerPaymentOrder db j user up).db := by
  unfold Community.createWinnerPaymentOrder
  split
  · exact .refl db
  split_ifs
  all_goals try exact .refl db
  split
  · exact .refl db
  · next order gateway hissued =>
    refine ⟨.of_eq rfl, .modify rfl fun a _ => ⟨rfl, fun h => h⟩, .of_same rfl ?_⟩
    exact nextId_createOrder hissued

theorem calm_communityVerify {paid : Triple} :
    Calm roles db (Community.verifyWinnerPayment db j user paid).db := by
  unfold Community.verifyWinnerPayment
  split
  · exact .refl db
  split_ifs
  all_goals try exact .refl db
  exact ⟨.of_eq rfl, .modify_rest rfl (fun _ => rfl) (fun _ => rfl), .refl _⟩

/-- The call may take an auction live. -/
def starts : Auction.Label → Bool
  | .createSoftware _ | .approveSoftware _ _ | .approveAgainSoftware _ _ | .reAuctionSoftware _
  | .createCommunity _ | .activateCommunity _ _ _ | .reAuctionCommunity _ => true
  | _ => false

theorem calm_step {l : Auction.Label} (h : starts l = false) :
    Calm roles db (Auction.step db l) := by
  cases l with
  | rejectSoftware j => exact calm_onSoftware (fun _ => rfl) (fun _ => rfl)
  | takeDownSoftware j => exact calm_onSoftware (fun _ => rfl) (fun _ => rfl)
  | bidSoftware r => exact calm_softwareBid r
  | endSoftware j now => exact calm_softwareEnd
  | closeSoftware j listedBy lister => exact calm_onSoftware (fun _ => rfl) (fun _ => rfl)
  | forfeitSoftware j => exact calm_softwareForfeit
  | orderSoftware r => exact calm_softwareOrder r
  | verifySoftware r => exact calm_softwareVerify r
  | bidCommunity r => exact calm_communityBid r
  | endCommunity j now => exact calm_communityEnd
  | closeCommunity j owner user => exact calm_communityClose
  | orderCommunity j user up => exact calm_communityOrder
  | verifyCommunity j user paid => exact calm_communityVerify
  | creationFeeOrder r => exact .onFees (.of_grow (feesGrow_issueFee _ r .creation none none _))
  | bidFeeOrder r j amount => exact .onFees (.of_grow (feesGrow_createBidFeeOrder _ r j amount))
  | verifyCreationFee user type p => exact .onFees (feesKept_verifyCreationFeePayment type p)
  | otherOrder user amount =>
    simp only [Auction.step, call]
    split
    · next order gateway hissued => exact .of_eq rfl rfl rfl (nextId_createOrder hissued)
    · exact .refl db
  | capture order => exact .of_eq rfl rfl rfl (feesGrow_capture db.toFeeTables order).nextId
  | award user points => exact .of_eq rfl rfl rfl (Nat.le_refl _)
  | _ => cases h

/-! ## What a call does -/

/-- A call on the auctions and fees of all three services. -/
inductive Does (roles : Roles) (s : State) (db' : Services.Db) : Prop
  /-- No auction goes live. -/
  | quiet (fees : FeesKept s.db.feeTables db'.feeTables)
      (tame : ∀ ref, Tame (face roles s.db ref) (face roles db' ref))
  /-- An auction is inserted or starts again, with a fee of its creator unless it is waived. -/
  | pays (ref : AuctionRef) (user : UserId) (fees : FeesKept s.db.feeTables db'.feeTables)
      (before : face roles s.db ref = none ∨
        (face roles s.db ref).map Face.creator = some (some user))
      (after : (face roles db' ref).map Face.creator = some (some user))
      (paid : roles.waives user = false → OrdersOk s.db.feeTables →
        feesPaid s.db.fees ref user + 1 ≤ feesPaid db'.fees ref user)
      (others : ∀ r, r ≠ ref → Tame (face roles s.db r) (face roles db' r))
  /-- An auction is approved for the first time, or its creator does not pay fees. -/
  | approves (ref : AuctionRef) (fees : FeesKept s.db.feeTables db'.feeTables)
      (first : liveBefore roles s ref = false)
      (creator : (face roles db' ref).map Face.creator = (face roles s.db ref).map Face.creator)
      (others : ∀ r, r ≠ ref → Tame (face roles s.db r) (face roles db' r))

variable {s : State} {m : Services.Db} {a : AuctionDb}

theorem Does.of_calm (h : Calm roles s.db.auctions a) : Does roles s (s.db.putAuctions a) := by
  refine .quiet h.fees fun ⟨kind, id⟩ => ?_
  cases kind with
  | domain => exact .refl _
  | software => exact h.software id
  | community => exact h.community id

theorem others_software (hs : ∀ i : Nat, i ≠ j →
      Tame ((m.software[i]?).map (softwareFace roles)) ((a.software[i]?).map (softwareFace roles)))
    (hc : a.community = m.community) (r : AuctionRef) (hr : r ≠ ⟨.software, j⟩) :
    Tame (face roles m r) (face roles (m.putAuctions a) r) := by
  obtain ⟨kind, id⟩ := r
  cases kind with
  | domain => exact .refl _
  | software => exact hs id fun h => hr (by rw [h])
  | community => exact TameRows.of_eq hc id

theorem others_community (hc : ∀ i : Nat, i ≠ j → Tame ((m.community[i]?).map (communityFace roles))
      ((a.community[i]?).map (communityFace roles)))
    (hs : a.software = m.software) (r : AuctionRef) (hr : r ≠ ⟨.community, j⟩) :
    Tame (face roles m r) (face roles (m.putAuctions a) r) := by
  obtain ⟨kind, id⟩ := r
  cases kind with
  | domain => exact .refl _
  | software => exact TameRows.of_eq hs id
  | community => exact hc id fun h => hr (by rw [h])

/-! ### Software -/

/-- `approve_auction` and `approve_again_auction`. -/
theorem does_approveSoftware {g : SoftwareAuction → SoftwareAuction}
    (hid : ∀ a, (g a).softwareId = a.softwareId)
    (hfirst : ∀ a, s.db.software[j]? = some a → check a = .ok () →
      liveBefore roles s ⟨.software, j⟩ = false) :
    Does roles s (s.db.putAuctions (s.db.auctions.onSoftware j check g).db) := by
  unfold AuctionDb.onSoftware
  split
  · exact .of_calm (.refl _)
  next a hget =>
  split
  · exact .of_calm (.refl _)
  · next hok =>
    refine .approves ⟨.software, j⟩ (.refl _) (hfirst a hget hok) ?_
      (others_software (fun i hi => tame_modify_ne rfl hi) rfl)
    have hget' : s.db.software[j]? = some a := hget
    show ((((s.db.software.modify j g)[j]?).map (softwareFace roles)).map Face.creator) =
      ((s.db.software[j]?).map (softwareFace roles)).map Face.creator
    rw [modify_face rfl, hget']
    simp [softwareFace, hid]

theorem does_createSoftware (r : Software.CreateRequest) :
    Does roles s (step roles s.db (.auction (.createSoftware r))) := by
  show Does roles s (s.db.putAuctions (Software.createAuction s.db.auctions { r with
    listedBy := roles.lister r.softwareId, feeWaived := roles.waives r.lister }).db)
  unfold Software.createAuction
  split
  · exact .of_calm (.refl _)
  next owner howner =>
  split_ifs with hown
  · exact .of_calm (.refl _)
  obtain rfl := not_not.mp hown
  have hafter : ∀ rows : List SoftwareAuction,
      (((rows ++ [Software.CreateRequest.row r])[rows.length]?).map
        (softwareFace roles)).map Face.creator = some (some r.lister) := by
    intro rows
    rw [append_face rfl]
    exact congrArg some howner
  split
  · unfold Software.insertAuction
    split_ifs with hwaived
    · refine .pays ⟨.software, s.db.software.length⟩ r.lister (.refl _) (.inl ?_) (hafter _)
        (fun hpays => ?_) (others_software (fun i hi => tame_append_ne rfl hi) rfl)
      · exact congrArg (Option.map _) (List.getElem?_eq_none (Nat.le_refl _))
      · rw [hpays] at hwaived
        exact absurd hwaived Bool.false_ne_true
    split
    · exact .of_calm (.refl _)
    · next t hok =>
      obtain ⟨hkept, hpaid⟩ := consumeCreationFee_pays hok
      refine .pays ⟨.software, s.db.software.length⟩ r.lister hkept (.inl ?_) (hafter _)
        (fun _ => hpaid) (others_software (fun i hi => tame_append_ne rfl hi) rfl)
      exact congrArg (Option.map _) (List.getElem?_eq_none (Nat.le_refl _))
  · split_ifs
    · exact .of_calm ⟨.modify_rest rfl (fun _ => rfl) (fun _ => rfl), .of_eq rfl, .refl _⟩
    · exact .of_calm (.refl _)

theorem does_reAuctionSoftware (r : Software.ReAuctionRequest) :
    Does roles s (step roles s.db (.auction (.reAuctionSoftware r))) := by
  show Does roles s (s.db.putAuctions (Software.reAuction s.db.auctions { r with
    listedBy := (s.db.software[r.auction]?).bind fun a => roles.lister a.softwareId }).db)
  unfold Software.reAuction
  split
  · exact .of_calm (.refl _)
  next a hget =>
  have hget' : s.db.software[r.auction]? = some a := hget
  split_ifs with hlister hunsold
  · exact .of_calm (.refl _)
  · exact .of_calm (.refl _)
  split
  · exact .of_calm (.refl _)
  · next t hok =>
    obtain ⟨hkept, hpaid⟩ := consumeCreationFee_pays hok
    have hcreator : roles.lister a.softwareId = some r.lister := by
      rw [hget'] at hlister
      exact not_not.mp hlister
    refine .pays ⟨.software, r.auction⟩ r.lister hkept (.inr ?_) ?_ (fun _ => hpaid)
      (others_software (fun i hi => tame_modify_ne rfl hi) rfl)
    · show ((s.db.software[r.auction]?).map (softwareFace roles)).map Face.creator = _
      rw [hget']
      exact congrArg some hcreator
    · show (((s.db.software.modify r.auction (Software.restart r))[r.auction]?).map
        (softwareFace roles)).map Face.creator = _
      rw [modify_face rfl, hget']
      exact congrArg some hcreator

/-! ### Community profiles -/

/-- The auction of a profile runs, and then its fee is asked for. -/
theorem does_thenConsume {waived : Bool} (hwaived : waived = true → roles.waives user = true)
    (hs : a.software = s.db.software) (hf : a.toFeeTables = s.db.feeTables)
    (hbefore : face roles s.db ⟨.community, j⟩ = none ∨
      (face roles s.db ⟨.community, j⟩).map Face.creator = some (some user))
    (hafter : ((a.community[j]?).map (communityFace roles)).map Face.creator = some (some user))
    (hothers : ∀ i : Nat, i ≠ j → Tame ((s.db.community[i]?).map (communityFace roles))
      ((a.community[i]?).map (communityFace roles)))
    (hpays : roles.waives user = false →
      refuses s.db.feeTables user .community order j = false) :
    Does roles s (s.db.putAuctions (Community.thenConsume a user order j waived).db) := by
  have hkept : FeesKept s.db.feeTables a.toFeeTables := by
    rw [hf]
    exact .refl _
  unfold Community.thenConsume
  split_ifs with hw
  · refine .pays ⟨.community, j⟩ user hkept hbefore hafter (fun h => ?_)
      (others_community hothers hs)
    rw [hwaived hw] at h
    cases h
  split
  · next e hrefused =>
    refine .pays ⟨.community, j⟩ user hkept hbefore hafter (fun h => ?_)
      (others_community hothers hs)
    have hok := hpays h
    rw [refuses, ← hf, hrefused] at hok
    exact absurd hok.symm Bool.false_ne_true
  · next t hok =>
    rw [hf] at hok
    obtain ⟨hkept, hpaid⟩ := consumeCreationFee_pays hok
    exact .pays ⟨.community, j⟩ user hkept hbefore hafter (fun _ => hpaid)
      (others_community hothers hs)

theorem does_insertCommunity (howner : roles.owner r.communityId =
      some r.user) (hpays : roles.waives r.user = false → refuses s.db.feeTables r.user .community
      r.creationFeeOrderId s.db.community.length = false) :
    Does roles s (s.db.putAuctions (Community.thenConsume
      { s.db.auctions with community := s.db.community ++ [r.row] } r.user r.creationFeeOrderId
      s.db.community.length (roles.waives r.user)).db) := by
  refine does_thenConsume (fun h => h) rfl rfl (.inl ?_) ?_ (fun i hi => tame_append_ne rfl hi) hpays
  · exact congrArg (Option.map _) (List.getElem?_eq_none (Nat.le_refl _))
  · rw [append_face rfl]
    exact congrArg some howner

theorem does_createCommunity (hu : unpaid roles s (.auction (.createCommunity r)) = false) :
    Does roles s (step roles s.db (.auction (.createCommunity r))) := by
  show Does roles s (s.db.putAuctions (Community.createAuction s.db.auctions { r with
    owner := roles.owner r.communityId, feeWaived := roles.waives r.user }).db)
  simp only [unpaid, startsCommunity] at hu
  unfold Community.createAuction
  split
  · exact .of_calm (.refl _)
  next owner howner =>
  split_ifs with hown
  · exact .of_calm (.refl _)
  obtain rfl := not_not.mp hown
  have howner' : roles.owner r.communityId = some r.user := howner
  rw [if_pos howner'] at hu
  have hpays : ∀ {i : AuctionId}, (some i).any (fun i => !roles.waives r.user &&
      refuses s.db.feeTables r.user .community r.creationFeeOrderId i) = false →
      roles.waives r.user = false →
        refuses s.db.feeTables r.user .community r.creationFeeOrderId i = false := by
    intro i h hw
    simpa [hw] using h
  split
  · next hlatest =>
    have hlatest' : Community.latest s.db.auctions r.communityId = none := hlatest
    rw [hlatest'] at hu
    exact does_insertCommunity howner' (hpays hu)
  next i hlatest =>
  have hlatest' : Community.latest s.db.auctions r.communityId = some i := hlatest
  rw [hlatest'] at hu
  dsimp only at hu
  split
  · exact .of_calm (.refl _)
  next status hstatus =>
  rw [hstatus] at hu
  obtain ⟨b, hget, hb⟩ := Option.map_eq_some_iff.mp hstatus
  have hget' : s.db.community[i]? = some b := hget
  split_ifs with hpending hlive hterminal
  · exact .of_calm ⟨.of_eq rfl, .modify_rest rfl (fun _ => rfl) (fun _ => rfl), .refl _⟩
  · exact .of_calm (.refl _)
  · -- the auction of an earlier listing starts again
    have hprofile : b.communityId = r.communityId := by
      obtain ⟨hi, -⟩ := Table.find?_reverse_range hlatest'
      rw [hget] at hi
      simpa using hi
    dsimp only at hu
    rw [if_neg (by simp [hpending, hlive]), if_pos hterminal] at hu
    refine does_thenConsume (fun h => h) rfl rfl (.inr ?_) ?_ (fun i hi => tame_modify_ne rfl hi)
      (hpays hu)
    · show ((s.db.community[i]?).map (communityFace roles)).map Face.creator = _
      rw [hget', ← howner', ← hprofile]
      rfl
    · show (((s.db.community.modify i fun a => Community.goLive r.now (Community.prepare _ a))[i]?).map
        (communityFace roles)).map Face.creator = _
      rw [modify_face rfl, hget', ← howner', ← hprofile]
      rfl
  · dsimp only at hu
    rw [if_neg (by simp [hpending, hlive]), if_neg hterminal] at hu
    exact does_insertCommunity howner' (hpays hu)

theorem does_activateCommunity
    (hu : unpaid roles s (.auction (.activateCommunity j user now)) = false) :
    Does roles s (step roles s.db (.auction (.activateCommunity j user now))) := by
  show Does roles s (s.db.putAuctions (Community.activateAuctionAfterPayment s.db.auctions j user
    now).db)
  unfold Community.activateAuctionAfterPayment
  split
  · exact .of_calm (.refl _)
  next b hget =>
  have hget' : s.db.community[j]? = some b := hget
  split_ifs with hmine hpending
  · exact .of_calm (.refl _)
  · exact .of_calm (.refl _)
  refine .approves ⟨.community, j⟩ (.refl _) ?_ ?_
    (others_community (fun i hi => tame_modify_ne rfl hi) rfl)
  · simp only [unpaid, hget', Option.any_some, not_not.mp hmine, not_not.mp hpending,
      decide_true, Bool.true_and] at hu
    simp [liveBefore, face, hget', communityFace, hu]
  · show ((((s.db.community.modify j (Community.goLive now))[j]?).map
      (communityFace roles)).map Face.creator) =
      ((s.db.community[j]?).map (communityFace roles)).map Face.creator
    rw [modify_face rfl, hget']
    rfl

theorem does_reAuctionCommunity {r : Community.ReAuctionRequest}
    (hu : unpaid roles s (.auction (.reAuctionCommunity r)) = false) :
    Does roles s (step roles s.db (.auction (.reAuctionCommunity r))) := by
  show Does roles s (s.db.putAuctions (Community.reAuction s.db.auctions { r with
    owner := (s.db.community[r.auction]?).bind fun a => roles.owner a.communityId }).db)
  unfold Community.reAuction
  split
  · exact .of_calm (.refl _)
  next b hget =>
  have hget' : s.db.community[r.auction]? = some b := hget
  split_ifs with howner hunsold
  · exact .of_calm (.refl _)
  · exact .of_calm (.refl _)
  have hcreator : roles.owner b.communityId = some r.user := by
    rw [hget'] at howner
    exact not_not.mp howner
  refine does_thenConsume (fun h => absurd h (by decide)) rfl rfl (.inr ?_) ?_
    (fun i hi => tame_modify_ne rfl hi) fun hw => ?_
  · show ((s.db.community[r.auction]?).map (communityFace roles)).map Face.creator = _
    rw [hget']
    exact congrArg some hcreator
  · show (((s.db.community.modify r.auction (Community.restart _))[r.auction]?).map
      (communityFace roles)).map Face.creator = _
    rw [modify_face rfl, hget']
    exact congrArg some hcreator
  · simpa [unpaid, hget', hcreator, not_not.mp hunsold, hw] using hu

/-! ### Domains -/

theorem does_domain {market : Marketplace.Db}
    (hnext : s.db.market.gateway.nextId ≤ market.gateway.nextId)
    (htame : TameRows domainFace s.db.market.auctions market.auctions) :
    Does roles s { s.db with market := market } := by
  refine .quiet (.of_same rfl hnext) fun ⟨kind, id⟩ => ?_
  cases kind with
  | domain => exact htame id
  | software => exact .refl _
  | community => exact .refl _

theorem others_domain {market : Marketplace.Db} {j : Nat}
    (hd : ∀ i : Nat, i ≠ j → Tame ((m.market.auctions[i]?).map domainFace)
      ((market.auctions[i]?).map domainFace)) (r : AuctionRef) (hr : r ≠ ⟨.domain, j⟩) :
    Tame (face roles m r) (face roles { m with market := market, fees := fees } r) := by
  obtain ⟨kind, id⟩ := r
  cases kind with
  | domain => exact hd id fun h => hr (by rw [h])
  | software => exact .refl _
  | community => exact .refl _

theorem does_insertDomain {market : Marketplace.Db} {new : Marketplace.Auction}
    (hrows : market.auctions = s.db.market.auctions ++ [new])
    (hgateway : market.gateway = s.db.market.gateway)
    (hfees : (roles.waives new.createdBy = true ∧ fees = s.db.fees) ∨
      ∃ order, consumeDomainFee s.db new.createdBy order = some fees) :
    Does roles s { s.db with market := market, fees := fees } := by
  have hbefore : face roles s.db ⟨.domain, s.db.market.auctions.length⟩ = none :=
    congrArg (Option.map _) (List.getElem?_eq_none (Nat.le_refl _))
  have hafter : (face roles { s.db with market := market, fees := fees }
      ⟨.domain, s.db.market.auctions.length⟩).map Face.creator = some (some new.createdBy) := by
    show ((market.auctions[s.db.market.auctions.length]?).map domainFace).map Face.creator = _
    rw [append_face hrows]
    rfl
  have hothers : ∀ r, r ≠ ⟨.domain, s.db.market.auctions.length⟩ → Tame (face roles s.db r)
      (face roles { s.db with market := market, fees := fees } r) :=
    others_domain fun i hi => tame_append_ne hrows hi
  have hnext : s.db.market.gateway.nextId ≤ market.gateway.nextId := by rw [hgateway]
  rcases hfees with ⟨hwaived, rfl⟩ | ⟨order, hconsumed⟩
  · refine .pays _ new.createdBy (.of_same rfl hnext) (.inl hbefore) hafter (fun h => ?_) hothers
    rw [hwaived] at h
    cases h
  · unfold consumeDomainFee at hconsumed
    split at hconsumed
    · cases hconsumed
    · next t hok =>
      cases hconsumed
      obtain ⟨hkept, hpaid⟩ := consumeCreationFee_pays hok
      have hgateway' : market.gateway = t.gateway := by
        rw [hgateway, consumeCreationFee_frame hok]
        rfl
      have hsame : FeesKept t ⟨t.fees, market.wallets, market.gateway⟩ :=
        .of_same rfl (by rw [hgateway'])
      exact .pays _ new.createdBy (hkept.trans hsame) (.inl hbefore) hafter (fun _ => hpaid) hothers

/-- A call of `create_auction` inserts its auction, free for an admin or with a valid fee. -/
theorem createAuction_cases (db : Marketplace.Db) (r : CreateAuctionRequest) :
    ((createAuction db r).result.isOk = false ∧ (createAuction db r).db = db) ∨
      ((createAuction db r).result.isOk = true ∧
        (createAuction db r).db.auctions = db.auctions ++ [r.auction] ∧
        (r.isAdmin = true ∨ r.feeValid = true)) := by
  unfold createAuction
  split
  · exact .inl ⟨rfl, rfl⟩
  split_ifs with howner hgiven hblocked hvalid
  · exact .inl ⟨rfl, rfl⟩
  · exact .inl ⟨rfl, rfl⟩
  · exact .inl ⟨rfl, rfl⟩
  · exact .inl ⟨rfl, rfl⟩
  · refine .inr ⟨rfl, rfl, ?_⟩
    cases hadm : r.isAdmin with
    | true => exact .inl rfl
    | false => exact .inr (by simpa [hadm] using hvalid)

theorem reAuction_cases (db : Marketplace.Db) (r : Domain.ReAuctionRequest) :
    ((Domain.reAuction db r).result.isOk = false ∧ (Domain.reAuction db r).db = db) ∨
      ∃ prior, (Domain.reAuction db r).result.isOk = true ∧
        (Domain.reAuction db r).db.auctions = db.auctions ++ [r.auction prior] ∧
        (Domain.reAuction db r).db.gateway = db.gateway ∧ r.feeValid = true := by
  unfold Domain.reAuction
  split
  · exact .inl ⟨rfl, rfl⟩
  next prior hprior =>
  by_cases hactor : r.isAdmin = false ∧ prior.createdBy ≠ r.actor
  · rw [if_pos hactor]
    exact .inl ⟨rfl, rfl⟩
  rw [if_neg hactor]
  split
  · exact .inl ⟨rfl, rfl⟩
  split_ifs with howner hstatus hdomain hblocked hvalid
  · exact .inl ⟨rfl, rfl⟩
  · exact .inl ⟨rfl, rfl⟩
  · exact .inl ⟨rfl, rfl⟩
  · exact .inl ⟨rfl, rfl⟩
  · exact .inl ⟨rfl, rfl⟩
  · exact .inr ⟨prior, rfl, rfl, rfl, by simpa using hvalid⟩

theorem does_createDomain (r : CreateAuctionRequest) (creationFeeOrderId : Option OrderId) :
    Does roles s (step roles s.db (.createDomain r creationFeeOrderId)) := by
  simp only [step, createDomain]
  generalize hr : ({ r with
    isAdmin := roles.waives r.actor
    feeOrderGiven := creationFeeOrderId.isSome
    feeValid := (creationFeeOrderId.bind (consumeDomainFee s.db r.actor)).isSome } :
    CreateAuctionRequest) = r'
  have hgateway : (createAuction s.db.market r').db.gateway = s.db.market.gateway :=
    (createAuction_frame r').untouched.gateway
  rcases createAuction_cases s.db.market r' with ⟨hno, hdb⟩ | ⟨hok, hrows, hfree⟩
  · rw [hno, hdb]
    exact .quiet (.refl _) fun ref => .refl _
  · have hactor : r'.auction.createdBy = r.actor := by rw [← hr]; rfl
    rw [hok]
    cases hw : roles.waives r.actor with
    | true => exact does_insertDomain hrows hgateway (.inl ⟨by rw [hactor, hw], rfl⟩)
    | false =>
      have hvalid : r'.feeValid = true := by
        rcases hfree with hadm | hvalid
        · rw [← hr] at hadm
          cases hw.symm.trans hadm
        · exact hvalid
      rw [← hr] at hvalid
      obtain ⟨fees, hfees⟩ := Option.isSome_iff_exists.mp hvalid
      obtain ⟨order, -, hconsumed⟩ := Option.bind_eq_some_iff.mp hfees
      rw [hfees]
      exact does_insertDomain hrows hgateway (.inr ⟨order, by rw [hactor]; exact hconsumed⟩)

theorem does_reAuctionDomain (r : Domain.ReAuctionRequest) (creationFeeOrderId : OrderId) :
    Does roles s (step roles s.db (.reAuctionDomain r creationFeeOrderId)) := by
  simp only [step, reAuctionDomain]
  generalize hr : ({ r with
    isAdmin := roles.waives r.actor
    feeValid := (consumeDomainFee s.db r.actor creationFeeOrderId).isSome } :
    Domain.ReAuctionRequest) = r'
  rcases reAuction_cases s.db.market r' with ⟨hno, hdb⟩ | ⟨prior, hok, hrows, hgateway, hvalid⟩
  · rw [hno, hdb]
    exact .quiet (.refl _) fun ref => .refl _
  · have hactor : (r'.auction prior).createdBy = r.actor := by rw [← hr]; rfl
    rw [← hr] at hvalid
    obtain ⟨fees, hfees⟩ := Option.isSome_iff_exists.mp hvalid
    rw [hok, hfees]
    exact does_insertDomain hrows hgateway (.inr ⟨_, by rw [hactor]; exact hfees⟩)

theorem approveAndGoLive_approves (db : Marketplace.Db) (listing : ListingId) :
    (approveAndGoLive db listing).db.auctions = db.auctions ∨
      ∃ i, approves db listing = some i ∧ (approveAndGoLive db listing).db.auctions =
        db.auctions.modify i fun a => { a with status := .active } := by
  rcases approveAndGoLive_auctions db listing with h | ⟨i, a, hlatest, hget, hstatus, h⟩
  · exact .inl h
  · by_cases happroves : approves db listing = some i
    · exact .inr ⟨i, happroves, h⟩
    · -- then the listing is not up for approval, and the call raises
      refine .inl ?_
      unfold approves at happroves
      unfold approveAndGoLive
      cases hl : db.listings listing with
      | none => rfl
      | some l =>
        dsimp only
        split_ifs with hsale hpending
        · rfl
        · rfl
        · refine absurd ?_ happroves
          rw [hl, hlatest]
          have hlisted : (some l).any (fun l => l.saleType = .auction &&
              (l.verificationStatus = .pending || l.verificationStatus = .moreInfoRequested)) =
              true := by
            simp only [not_and_or, not_not] at hsale hpending
            simpa [hsale] using hpending
          rw [if_pos hlisted, Option.filter_some, hget]
          simp [hstatus]

section Domain

variable {market : Marketplace.Db} {i : AuctionId} {price : Paise}

theorem tame_resolveAuction :
    TameRows domainFace market.auctions (resolveAuction market i price).db.auctions := by
  unfold resolveAuction
  split
  · exact .of_eq rfl
  split_ifs
  · exact .of_eq rfl
  · exact .modify_rest rfl (fun _ => rfl) (fun _ => rfl)
  · exact .modify_rest (congrArg Db.auctions restoreAfterNoSale_frame) (fun _ => rfl) (fun _ => rfl)

theorem tame_recordBid {bidder : UserId} :
    TameRows domainFace market.auctions (recordBid market i bidder amount).auctions := by
  unfold recordBid
  split
  · exact .modify rfl fun _ _ => ⟨rfl, fun h => h⟩
  · exact .modify rfl fun _ _ => ⟨rfl, fun h => h⟩
  · exact .of_eq rfl

theorem tame_verifyWinnerPayment (r : VerifyWinnerRequest) :
    TameRows domainFace market.auctions (verifyWinnerPayment market r).db.auctions := by
  rcases verifyWinnerPayment_auctions market r with h | ⟨i, h⟩
  · exact .of_eq h
  · exact .modify_rest h (fun _ => rfl) (fun _ => rfl)

theorem tame_closeAuction {actor : UserId} {isAdmin forceCancel : Bool} :
    TameRows domainFace market.auctions
      (Domain.closeAuction market i actor isAdmin forceCancel price).db.auctions := by
  unfold Domain.closeAuction
  split
  · exact .of_eq rfl
  split_ifs
  · exact .of_eq rfl
  · exact .of_eq rfl
  · exact .modify_rest rfl (fun _ => rfl) (fun _ => rfl)
  · exact tame_resolveAuction

theorem tame_rejectVerification {reasonGiven : Bool} :
    TameRows domainFace market.auctions
      (Domain.rejectVerification market listing reasonGiven).db.auctions := by
  unfold Domain.rejectVerification
  split
  · exact .of_eq rfl
  split_ifs
  · exact .of_eq rfl
  · exact .of_eq rfl
  dsimp only
  split
  · exact .of_eq rfl
  split
  all_goals first
    | exact .of_eq rfl
    | exact .modify_rest rfl (fun _ => rfl) (fun _ => rfl)

theorem tame_extendAuction {bidder : UserId} :
    TameRows domainFace market.auctions (Domain.extendAuction market i bidder amount).auctions := by
  have hlive : ∀ {st : AuctionStatus}, (market.auctions[i]?).map Auction.status = some st →
      st.live = true → ∀ a, market.auctions[i]? = some a → a.status.live = true := by
    intro st hst hl a hget
    rw [hget] at hst
    rw [Option.some.inj hst, hl]
  unfold Domain.extendAuction
  split
  · next hst => exact .modify rfl fun a hget => ⟨rfl, fun _ => hlive hst rfl a hget⟩
  · next hst => exact .modify rfl fun a hget => ⟨rfl, fun _ => hlive hst rfl a hget⟩
  · exact .of_eq rfl

theorem tame_forfeitDomain {price : ListingId → Paise} :
    TameRows domainFace market.auctions (forfeitDomain market i price).auctions := by
  unfold forfeitDomain
  split
  · exact .of_eq rfl
  split_ifs
  · exact .modify_rest (congrArg Db.auctions restoreAfterNoSale_frame) (fun _ => rfl) (fun _ => rfl)
  · exact .of_eq rfl

theorem nextId_step (market : Marketplace.Db) (l : Marketplace.Label) :
    market.gateway.nextId ≤ (Marketplace.step market l).gateway.nextId := by
  rcases @orders_step market l with h | ⟨amount, notes, -, h⟩
  · simp [Gateway.nextId, h]
  · simp [Gateway.nextId, h]

theorem tame_sale {l : Marketplace.Label} (hopen : opensDomain (.sale l) = false)
    (happrove : ∀ listing, l ≠ .approveAndGoLive listing) :
    TameRows domainFace market.auctions (Marketplace.step market l).auctions := by
  by_cases hof : l.ofAuction = true
  · cases l with
    | createAuction r => cases hopen
    | approveAndGoLive listing => exact absurd rfl (happrove listing)
    | recordBid auction bidder amount => exact tame_recordBid
    | resolveAuction auction price => exact tame_resolveAuction
    | createWinnerOrder r => exact .of_eq (createWinnerOrder_auctions market r)
    | verifyWinnerPayment r => exact tame_verifyWinnerPayment r
    | _ => cases hof
  · have haside : Aside market (Marketplace.step market l) := aside_step (by simpa using hof)
    exact .of_eq haside.auctions

/-- The calls around a sale issue no orders. -/
theorem gateway_domain (h : ∀ l', l ≠ .sale l') :
    (Domain.step market l).gateway = market.gateway := by
  cases l with
  | sale l => exact absurd rfl (h l)
  | reAuction r =>
    simp only [Domain.step, Domain.reAuction]
    repeat' split
    all_goals rfl
  | closeAuction auction actor isAdmin forceCancel price =>
    simp only [Domain.step, Domain.closeAuction]
    split
    · rfl
    split_ifs
    · rfl
    · rfl
    · rfl
    · exact resolveAuction_frame.untouched.gateway
  | rejectVerification listing reasonGiven =>
    simp only [Domain.step, Domain.rejectVerification]
    repeat' split
    all_goals rfl
  | requestMoreInformation listing messageGiven =>
    simp only [Domain.step, Domain.requestMoreInformation]
    repeat' split
    all_goals rfl
  | extendAuction auction bidder amount =>
    simp only [Domain.step, Domain.extendAuction]
    split
    all_goals rfl
  | forfeit auction price =>
    simp only [Domain.step, forfeitDomain]
    split
    · rfl
    split_ifs
    · rw [restoreAfterNoSale_frame]
      rfl
    · rfl

theorem tame_domain (hopen : opensDomain l = false) (h : ∀ l', l ≠ .sale l') :
    TameRows domainFace market.auctions (Domain.step market l).auctions := by
  cases l with
  | sale l => exact absurd rfl (h l)
  | reAuction r => cases hopen
  | closeAuction auction actor isAdmin forceCancel price => exact tame_closeAuction
  | rejectVerification listing reasonGiven => exact tame_rejectVerification
  | requestMoreInformation listing messageGiven =>
    exact .of_eq (Domain.change_requestMoreInformation listing messageGiven)
  | extendAuction auction bidder amount => exact tame_extendAuction
  | forfeit auction price => exact tame_forfeitDomain

end Domain

theorem does_approveDomain
    (hu : unpaid roles s (.domain (.sale (.approveAndGoLive listing))) = false) :
    Does roles s { s.db with market := Marketplace.step s.db.market (.approveAndGoLive listing) } := by
  have hnext := nextId_step s.db.market (.approveAndGoLive listing)
  rcases approveAndGoLive_approves s.db.market listing with h | ⟨i, happroves, h⟩
  · exact does_domain hnext (.of_eq h)
  · refine .approves ⟨.domain, i⟩ (.of_same rfl hnext) ?_ ?_
      (others_domain fun k hk => tame_modify_ne h hk)
    · simpa [unpaid, happroves] using hu
    · show (((approveAndGoLive s.db.market listing).db.auctions[i]?).map domainFace).map
        Face.creator = ((s.db.market.auctions[i]?).map domainFace).map Face.creator
      rw [modify_face h]
      cases s.db.market.auctions[i]? <;> rfl

theorem does_domainLabel (hu : unpaid roles s (.domain l) = false) :
    Does roles s (step roles s.db (.domain l)) := by
  simp only [step]
  split_ifs with hopen
  · exact .quiet (.refl _) fun ref => .refl _
  have hopen' : opensDomain l = false := by simpa using hopen
  by_cases hsale : ∀ l', l ≠ .sale l'
  · exact does_domain (by rw [gateway_domain hsale]) (tame_domain hopen' hsale)
  · obtain ⟨l, rfl⟩ := not_forall_not.mp hsale
    by_cases happrove : ∀ listing, l ≠ .approveAndGoLive listing
    · exact does_domain (nextId_step _ l) (tame_sale hopen' happrove)
    · obtain ⟨listing, rfl⟩ := not_forall_not.mp happrove
      exact does_approveDomain hu

/-- **What a call does**, if it takes no auction live without a fee. -/
theorem does_step {l : Label} (hu : unpaid roles s l = false) : Does roles s (step roles s.db l) := by
  cases l with
  | createDomain r order => exact does_createDomain r order
  | reAuctionDomain r order => exact does_reAuctionDomain r order
  | domain l => exact does_domainLabel hu
  | domainBid r =>
    refine .quiet (feesKept_domainBidFee r) fun ⟨kind, id⟩ => ?_
    cases kind <;> exact .refl _
  | auction l =>
    by_cases hstarts : starts l = false
    · have hfill : roles.fill s.db.auctions l = l := by
        cases l with
        | createSoftware r => cases hstarts
        | reAuctionSoftware r => cases hstarts
        | createCommunity r => cases hstarts
        | reAuctionCommunity r => cases hstarts
        | _ => rfl
      simp only [step, hfill]
      exact .of_calm (calm_step hstarts)
    · cases l with
      | createSoftware r => exact does_createSoftware r
      | approveSoftware j now =>
        refine does_approveSoftware (fun _ => rfl) fun a hget hok => ?_
        rw [ite_raise_eq_ok, not_not] at hok
        simpa [unpaid, hget, hok.1] using hu
      | approveAgainSoftware j now =>
        refine does_approveSoftware (fun _ => rfl) fun a hget hok => ?_
        rw [ite_raise_eq_ok, not_not] at hok
        simpa [unpaid, hget, hok.1] using hu
      | reAuctionSoftware r => exact does_reAuctionSoftware r
      | createCommunity r => exact does_createCommunity hu
      | activateCommunity j user now => exact does_activateCommunity hu
      | reAuctionCommunity r => exact does_reAuctionCommunity hu
      | _ => exact absurd rfl hstarts

/-! ## The invariant -/

/-- There is a fee for the listing of every auction, and one for every round it has had. -/
structure Paid (roles : Roles) (s : State) : Prop where
  orders : OrdersOk s.db.feeTables
  begun : ∀ ref, live (face roles s.db ref) = true → 1 ≤ s.rounds ref
  known : ∀ ref, face roles s.db ref = none → s.rounds ref = 0
  paid : ∀ ref creator, (face roles s.db ref).map Face.creator = some (some creator) →
    roles.waives creator = false → max 1 (s.rounds ref) ≤ feesPaid s.db.fees ref creator

theorem Paid.everyRoundPaid (h : Paid roles s) : EveryRoundPaid roles s := by
  intro ref creator hlive hcreator hpays
  refine ⟨h.begun ref hlive, ?_⟩
  obtain ⟨x, hx, hxc⟩ := Option.bind_eq_some_iff.mp hcreator
  have hpaid := h.paid ref creator (by rw [hx, ← hxc]; rfl) hpays
  omega

theorem next_rounds (roles : Roles) (s : State) (l : Label) (ref : AuctionRef) :
    (next roles s l).rounds ref = s.rounds ref ∨
      ((next roles s l).rounds ref = s.rounds ref + 1 ∧ live (face roles s.db ref) = false ∧
        live (face roles (step roles s.db l) ref) = true) := by
  simp only [next]
  cases hold : live (face roles s.db ref) <;> cases hnew : live (face roles (step roles s.db l) ref)
  · exact .inl rfl
  · exact .inr ⟨rfl, rfl, rfl⟩
  · exact .inl rfl
  · exact .inl rfl

theorem Tame.none {v v' : Option Face} (h : Tame v v') (hv : v' = none) : v = none := by
  have hmap := h.1
  rw [hv] at hmap
  exact Option.map_eq_none_iff.mp hmap.symm

theorem Tame.rounds {l : Label}
    (h : Tame (face roles s.db ref) (face roles (step roles s.db l) ref)) :
    (next roles s l).rounds ref = s.rounds ref := by
  rcases next_rounds roles s l ref with heq | ⟨-, hold, hnew⟩
  · exact heq
  · rw [h.2 hnew] at hold
    cases hold

theorem Tame.paid {l : Label} (hp : Paid roles s)
    (h : Tame (face roles s.db ref) (face roles (step roles s.db l) ref))
    (hfees : FeesKept s.db.feeTables (step roles s.db l).feeTables) (creator : UserId)
    (hcreator : (face roles (step roles s.db l) ref).map Face.creator = some (some creator))
    (hpays : roles.waives creator = false) :
    max 1 ((next roles s l).rounds ref) ≤ feesPaid (step roles s.db l).fees ref creator := by
  rw [h.rounds]
  rw [h.1] at hcreator
  exact (hp.paid ref creator hcreator hpays).trans (hfees.paid hp.orders ref creator)

/-- **The step lemma.** A call that is not unpaid keeps a fee for every round. -/
theorem paid_step {l : Label} (h : Paid roles s) (hu : unpaid roles s l = false) :
    Paid roles (next roles s l) := by
  have hbegun : ∀ ref, live (face roles (step roles s.db l) ref) = true →
      1 ≤ (next roles s l).rounds ref := by
    intro ref hlive
    rcases next_rounds roles s l ref with heq | ⟨heq, -, -⟩
    · cases hold : live (face roles s.db ref) with
      | true => exact heq ▸ h.begun ref hold
      | false => simp [next, hold, hlive]
    · omega
  -- an auction that does not exist afterwards did not exist before
  have hknown : ∀ ref, (face roles (step roles s.db l) ref = none → face roles s.db ref = none) →
      face roles (step roles s.db l) ref = none → (next roles s l).rounds ref = 0 := by
    intro ref hback hnone
    rcases next_rounds roles s l ref with heq | ⟨-, -, hlive⟩
    · rw [heq]
      exact h.known ref (hback hnone)
    · rw [hnone] at hlive
      cases hlive
  cases does_step hu with
  | quiet fees tame =>
    refine ⟨fees.orders h.orders, hbegun, fun ref => hknown ref (tame ref).none, ?_⟩
    intro ref creator hcreator hpays
    exact (tame ref).paid h fees creator hcreator hpays
  | pays ref user fees before after paid others =>
    refine ⟨fees.orders h.orders, hbegun, fun r => ?_, fun r creator hcreator hpays => ?_⟩
    · by_cases hr : r = ref
      · subst hr
        intro hnone
        have hnone' : face roles (step roles s.db l) r = none := hnone
        rw [hnone'] at after
        cases after
      · exact hknown r (others r hr).none
    · by_cases hr : r = ref
      · subst hr
        have huser : user = creator := Option.some.inj (Option.some.inj (after.symm.trans hcreator))
        subst huser
        have hmore := paid hpays h.orders
        have hrounds : (next roles s l).rounds r ≤ s.rounds r + 1 := by
          rcases next_rounds roles s l r with heq | ⟨heq, -, -⟩ <;> omega
        show max 1 ((next roles s l).rounds r) ≤ feesPaid (step roles s.db l).fees r user
        rcases before with hnone | hold
        · have hzero := h.known r hnone
          omega
        · have hpaid := h.paid r user hold hpays
          omega
      · exact (others r hr).paid h fees creator hcreator hpays
  | approves ref fees first creator others =>
    refine ⟨fees.orders h.orders, hbegun, fun r => ?_, fun r user hcreator hpays => ?_⟩
    · by_cases hr : r = ref
      · subst hr
        refine hknown r fun hnone => ?_
        rw [hnone] at creator
        exact Option.map_eq_none_iff.mp creator.symm
      · exact hknown r (others r hr).none
    · by_cases hr : r = ref
      · subst hr
        have hold : (face roles s.db r).map Face.creator = some (some user) :=
          creator.symm.trans hcreator
        have hzero : s.rounds r = 0 := by
          obtain ⟨x, hx, hxc⟩ := Option.map_eq_some_iff.mp hold
          by_contra hne
          simp [liveBefore, hx, hxc, hpays, hne] at first
        have hrounds : (next roles s l).rounds r ≤ s.rounds r + 1 := by
          rcases next_rounds roles s l r with heq | ⟨heq, -, -⟩ <;> omega
        have hpaid := h.paid r user hold hpays
        have hkept := fees.paid h.orders r user
        show max 1 ((next roles s l).rounds r) ≤ feesPaid (step roles s.db l).feeTables.fees r user
        have hsame : s.db.feeTables.fees = s.db.fees := rfl
        rw [hsame] at hkept
        omega
      · exact (others r hr).paid h fees user hcreator hpays

/-! ## Runs -/

/-- **Every round has its own creation fee.** From a database without auctions and fees, in every run
in which no call takes an auction live unpaid, every auction that takes bids has had a consumed
creation fee of its creator for every round, in every state reached. -/
theorem every_round_paid (roles : Roles) {s : State} (hmarket : s.db.market.auctions = [])
    (hsoftware : s.db.software = []) (hcommunity : s.db.community = []) (hfees : s.db.fees = [])
    (hrounds : ∀ ref, s.rounds ref = 0) {ls : List Label}
    (hls : Run.Meets (next roles) (fun s l => unpaid roles s l = false) s ls) :
    EveryRoundPaid roles (Run.exec (next roles) s ls) := by
  have hnone : ∀ ref, face roles s.db ref = none := by
    rintro ⟨kind, id⟩
    cases kind with
    | domain => simp [face, hmarket]
    | software => simp [face, hsoftware]
    | community => simp [face, hcommunity]
  have hinit : Paid roles s := by
    refine ⟨?_, fun ref hlive => ?_, fun ref _ => hrounds ref, fun ref creator hcreator => ?_⟩
    · simp [OrdersOk, Services.Db.feeTables, hfees]
    · rw [hnone ref] at hlive
      exact absurd hlive (by decide)
    · rw [hnone ref] at hcreator
      exact absurd hcreator (by simp)
  exact (Run.exec_inv (fun s l h hu => paid_step h hu) hinit hls).everyRoundPaid

/-- User 9 lists every software and owns every profile and listing 0. -/
def sellers : Roles := ⟨fun _ => false, fun _ => some 9, fun _ => some 9⟩

/-- Listing 0 of user 9 and no auctions. -/
def nothingOpen : State := ⟨⟨oneListing, [], [], [], [], [], []⟩, fun _ => 0⟩

/-- User 9 pays a creation fee of 50 rupees, order `n`. -/
def payFee (type : FeeAuctionType) (n : Nat) : List Label :=
  [.auction (.creationFeeOrder ⟨type, 9, 5000, false, true⟩), .auction (.capture n),
    .auction (.verifyCreationFee 9 type ⟨n, n, true⟩)]

/-- A domain, a software and a profile are auctioned, each with its fee; the profile gets no bid and
is auctioned again. -/
def paidRounds : List Label :=
  payFee .domain 0 ++ [.createDomain ⟨0, 9, false, 1000, true, true⟩ (some 0),
    .domain (.sale (.approveAndGoLive 0))] ++
  payFee .software 1 ++ [.auction (.createSoftware ⟨0, none, 9, 10000, 1, 1, false⟩),
    .auction (.approveSoftware 0 0)] ++
  payFee .community 2 ++ [.auction (.createCommunity ⟨0, none, 9, 10000, 1, 2, false, 0⟩),
    .auction (.endCommunity 0 100000)] ++
  payFee .community 3 ++ [.auction (.reAuctionCommunity ⟨0, none, 9, 10000, 1, 3, 200000⟩)]

theorem every_round_paid_rounds :
    EveryRoundPaid sellers (Run.exec (next sellers) nothingOpen paidRounds) ∧
      (Run.exec (next sellers) nothingOpen paidRounds).rounds ⟨.community, 0⟩ = 2 :=
  ⟨every_round_paid sellers rfl rfl rfl rfl (fun _ => rfl) (by decide), by decide⟩

/-- User 9 puts a profile up for auction without having paid anything. -/
def unpaidProfile : Community.CreateRequest := ⟨0, some 9, 9, 10000, 1, 7, false, 0⟩

/-- The call raises 402, and the auction runs. -/
theorem refused_and_live :
    (Community.createAuction nothingOpen.db.auctions unpaidProfile).result =
        raise "Valid auction creation fee payment is required." 402 ∧
      ¬ EveryRoundPaid sellers
        (Run.exec (next sellers) nothingOpen [.auction (.createCommunity unpaidProfile)]) := by
  refine ⟨by decide, fun h => ?_⟩
  obtain ⟨-, hpaid⟩ := h ⟨.community, 0⟩ 9 (by decide) (by decide) rfl
  exact absurd hpaid (by decide)

end Deltapreneur.Auction.CreationFees
