import Deltapreneur.Lib.Run
import Deltapreneur.Auction.Community

/-!
# The system of software and community auctions

All calls of the two services and of the fees they take, on one database, one after another.

The services share fees, wallets and gateway and keep out of each other's auctions.

* `communityOnly_step`: a community call leaves software auctions and wallets alone.
* `softwareOnly_step`: so does a software call that takes no payment, the other way round.
-/

namespace Deltapreneur.Auction

open EdgePoints Marketplace Razorpay

/-! ## The system -/

inductive Label
  | createSoftware (r : Software.CreateRequest)
  | approveSoftware (auction : AuctionId) (now : Time)
  | rejectSoftware (auction : AuctionId)
  | takeDownSoftware (auction : AuctionId)
  | approveAgainSoftware (auction : AuctionId) (now : Time)
  | bidSoftware (r : Software.BidRequest)
  | endSoftware (auction : AuctionId) (now : Time)
  | reAuctionSoftware (r : Software.ReAuctionRequest)
  | closeSoftware (auction : AuctionId) (listedBy : Option UserId) (lister : UserId)
  | forfeitSoftware (auction : AuctionId)
  | orderSoftware (r : Software.WinnerOrderRequest)
  | verifySoftware (r : Software.VerifyRequest)
  | createCommunity (r : Community.CreateRequest)
  | activateCommunity (auction : AuctionId) (user : UserId) (now : Time)
  | bidCommunity (r : Community.BidRequest)
  | endCommunity (auction : AuctionId) (now : Time)
  | reAuctionCommunity (r : Community.ReAuctionRequest)
  | closeCommunity (auction : AuctionId) (owner : Option UserId) (user : UserId)
  | orderCommunity (auction : AuctionId) (user : UserId) (gatewayUp : Bool)
  | verifyCommunity (auction : AuctionId) (user : UserId) (paid : Triple)
  | creationFeeOrder (r : FeeOrderRequest)
  | bidFeeOrder (r : FeeOrderRequest) (auction : AuctionId) (bidAmount : Paise)
  | verifyCreationFee (user : UserId) (auctionType : FeeAuctionType) (p : Triple)
  | otherOrder (user : UserId) (amount : Paise)
  | capture (order : OrderId)
  | award (user : UserId) (points : Nat)

/-- A call that works on the fee tables only. -/
def AuctionDb.onFees (db : AuctionDb) (o : FeeTables × Except AppException Unit) : AuctionOutcome :=
  ⟨db.withFees o.1, o.2⟩

def call (db : AuctionDb) : Label → AuctionOutcome
  | .createSoftware r => Software.createAuction db r
  | .approveSoftware auction now => Software.approveAuction db auction now
  | .rejectSoftware auction => Software.rejectAuction db auction
  | .takeDownSoftware auction => Software.takeDownAuction db auction
  | .approveAgainSoftware auction now => Software.approveAgainAuction db auction now
  | .bidSoftware r => Software.placeBid db r
  | .endSoftware auction now => (Software.endExpired db auction now).done
  | .reAuctionSoftware r => Software.reAuction db r
  | .closeSoftware auction listedBy lister => Software.closeAuction db auction listedBy lister
  | .forfeitSoftware auction => (Software.forfeit db auction).done
  | .orderSoftware r => Software.createWinnerPaymentOrder db r
  | .verifySoftware r => Software.verifyWinnerPayment db r
  | .createCommunity r => Community.createAuction db r
  | .activateCommunity auction user now =>
    Community.activateAuctionAfterPayment db auction user now
  | .bidCommunity r => Community.placeBid db r
  | .endCommunity auction now => (Community.endExpired db auction now).done
  | .reAuctionCommunity r => Community.reAuction db r
  | .closeCommunity auction owner user => Community.closeAuction db auction owner user
  | .orderCommunity auction user up => Community.createWinnerPaymentOrder db auction user up
  | .verifyCommunity auction user paid => Community.verifyWinnerPayment db auction user paid
  | .creationFeeOrder r => db.onFees (createCreationFeeOrder db.toFeeTables r)
  | .bidFeeOrder r auction amount => db.onFees (createBidFeeOrder db.toFeeTables r auction amount)
  | .verifyCreationFee user type p =>
    db.onFees (verifyCreationFeePayment db.toFeeTables user type p)
  | .otherOrder user amount =>
    match db.gateway.createOrder amount (.other user) with
    | some (_, gateway) => { db with gateway := gateway }.done
    | none => db.fail "Order amount must be greater than zero." 400
  | .capture order => { db with gateway := db.gateway.capture order }.done
  | .award user points =>
    { db with wallets := db.wallets.awardReferrerPoints user points }.done

/-- The tables after one call. -/
def step (db : AuctionDb) (l : Label) : AuctionDb := (call db l).db

/-- Nothing at all. -/
def noAuctions : AuctionDb :=
  ⟨⟨[], .empty, .empty⟩, [], [], [], [], []⟩

/-- User 9 auctions software 0 and user 1 wins it with a bid of 150 rupees; order 0 was the bid
fee of 20 rupees. -/
def wonSoftware : List Label :=
  [.createSoftware ⟨0, some 9, 9, 10000, 1, 0, true⟩, .approveSoftware 0 0,
    .bidFeeOrder ⟨.software, 1, 2000, false, true⟩ 0 15000, .capture 0,
    .bidSoftware ⟨0, 1, 15000, ⟨0, 0, true⟩, 10, true, some 9, true⟩, .endSoftware 0 100000]

/-! ## What the helpers write -/

variable {db db' : AuctionDb} {auction j : AuctionId} {user : UserId} {type : FeeAuctionType}
  {order : OrderId} {check : SoftwareAuction → Except AppException Unit}
  {f : SoftwareAuction → SoftwareAuction}

theorem consumeCreationFee_frame {t t' : FeeTables}
    (h : consumeCreationFee t user type order auction = .ok t') :
    t' = { t with fees := t'.fees } := by
  unfold consumeCreationFee at h
  split at h
  · exact absurd h raise_ne_ok
  · rw [ite_raise_eq_ok] at h
    obtain rfl := Except.ok.inj h.2
    rfl

theorem thenConsume_frame {waived : Bool} :
    (Community.thenConsume db user order auction waived).db =
      { db with fees := (Community.thenConsume db user order auction waived).db.fees } := by
  unfold Community.thenConsume
  split
  · rfl
  split
  · rfl
  · next t hok =>
    rw [consumeCreationFee_frame hok]
    rfl

theorem onSoftware_frame :
    (db.onSoftware j check f).db = { db with software := (db.onSoftware j check f).db.software } := by
  unfold AuctionDb.onSoftware
  split
  · rfl
  · split <;> rfl

theorem completeAuctionWinnerPurchase_frame {a : SoftwareAuction} {r : Software.VerifyRequest}
    (h : Software.completeAuctionWinnerPurchase db a r = .ok db') :
    db' = { db with purchases := db'.purchases } := by
  unfold Software.completeAuctionWinnerPurchase at h
  split at h
  · cases h
    rfl
  · simp only [ite_raise_eq_ok] at h
    obtain rfl := Except.ok.inj h.2.2.2
    rfl

/-! ## Community calls -/

/-- Software auctions and wallets stay as they are. -/
structure CommunityOnly (db db' : AuctionDb) : Prop where
  software : db'.software = db.software
  wallets : db'.wallets = db.wallets

theorem CommunityOnly.refl (db : AuctionDb) : CommunityOnly db db := ⟨rfl, rfl⟩

theorem communityOnly_thenConsume {waived : Bool} (h : CommunityOnly db db') :
    CommunityOnly db (Community.thenConsume db' user order auction waived).db := by
  rw [thenConsume_frame]
  exact ⟨h.software, h.wallets⟩

theorem communityOnly_createAuction (r : Community.CreateRequest) :
    CommunityOnly db (Community.createAuction db r).db := by
  unfold Community.createAuction
  split
  · exact .refl db
  split
  · exact .refl db
  split
  · exact communityOnly_thenConsume ⟨rfl, rfl⟩
  split
  · exact .refl db
  split_ifs
  · exact ⟨rfl, rfl⟩
  · exact .refl db
  · exact communityOnly_thenConsume ⟨rfl, rfl⟩
  · exact communityOnly_thenConsume ⟨rfl, rfl⟩

theorem verifyBidFeeSync_wallets (t : FeeTables) (user : UserId) (p : Triple) (amount : Paise) :
    (verifyBidFeeSync t auction user p amount).session.wallets = t.wallets ∧
      (verifyBidFeeSync t auction user p amount).committed.wallets = t.wallets := by
  unfold verifyBidFeeSync
  split
  · exact ⟨rfl, rfl⟩
  · split <;> exact ⟨rfl, rfl⟩

theorem communityOnly_placeBid (r : Community.BidRequest) :
    CommunityOnly db (Community.placeBid db r).db := by
  have hfee := @verifyBidFeeSync_wallets r.auction db.toFeeTables r.bidder r.fee r.amount
  unfold Community.placeBid
  split
  · exact .refl db
  split
  · exact .refl db
  split_ifs
  · exact .refl db
  · exact .refl db
  · exact .refl db
  split
  · exact .refl db
  dsimp only
  split
  · exact ⟨rfl, hfee.2⟩
  · exact ⟨rfl, hfee.1⟩

theorem communityOnly_endExpired {now : Time} :
    CommunityOnly db (Community.endExpired db j now) := by
  unfold Community.endExpired
  split
  · exact .refl db
  split
  · unfold Community.endAuction
    split
    · dsimp only
      split <;> exact ⟨rfl, rfl⟩
    · exact ⟨rfl, rfl⟩
  · exact .refl db

theorem communityOnly_reAuction (r : Community.ReAuctionRequest) :
    CommunityOnly db (Community.reAuction db r).db := by
  unfold Community.reAuction
  split
  · exact .refl db
  split_ifs
  · exact .refl db
  · exact .refl db
  · exact communityOnly_thenConsume ⟨rfl, rfl⟩

theorem communityOnly_createWinnerPaymentOrder {up : Bool} :
    CommunityOnly db (Community.createWinnerPaymentOrder db j user up).db := by
  unfold Community.createWinnerPaymentOrder
  split
  · exact .refl db
  split_ifs
  all_goals try exact .refl db
  split <;> exact ⟨rfl, rfl⟩

/-- The call is one of the community service. -/
def Label.onCommunity : Label → Bool
  | .createCommunity _ | .activateCommunity _ _ _ | .bidCommunity _ | .endCommunity _ _
  | .reAuctionCommunity _ | .closeCommunity _ _ _ | .orderCommunity _ _ _
  | .verifyCommunity _ _ _ => true
  | _ => false

/-- **A community call leaves software auctions and wallets alone.** -/
theorem communityOnly_step {l : Label} (h : l.onCommunity = true) :
    CommunityOnly db (step db l) := by
  cases l with
  | createCommunity r => exact communityOnly_createAuction r
  | activateCommunity j user now =>
    simp only [step, call, Community.activateAuctionAfterPayment]
    split
    · exact .refl db
    · split_ifs <;> exact ⟨rfl, rfl⟩
  | bidCommunity r => exact communityOnly_placeBid r
  | endCommunity j now => exact communityOnly_endExpired
  | reAuctionCommunity r => exact communityOnly_reAuction r
  | closeCommunity j owner user =>
    simp only [step, call, Community.closeAuction]
    split
    · exact .refl db
    · split_ifs <;> exact ⟨rfl, rfl⟩
  | orderCommunity j user up => exact communityOnly_createWinnerPaymentOrder
  | verifyCommunity j user paid =>
    simp only [step, call, Community.verifyWinnerPayment]
    split
    · exact .refl db
    · split_ifs <;> exact ⟨rfl, rfl⟩
  | _ => cases h

/-! ## Software calls -/

/-- Community auctions and wallets stay as they are. -/
structure SoftwareOnly (db db' : AuctionDb) : Prop where
  community : db'.community = db.community
  wallets : db'.wallets = db.wallets

theorem SoftwareOnly.refl (db : AuctionDb) : SoftwareOnly db db := ⟨rfl, rfl⟩

theorem softwareOnly_onSoftware : SoftwareOnly db (db.onSoftware j check f).db := by
  rw [onSoftware_frame]
  exact ⟨rfl, rfl⟩

theorem softwareOnly_withFees {t : FeeTables} (h : SoftwareOnly db db')
    (hok : consumeCreationFee db.toFeeTables user type order auction = .ok t) :
    SoftwareOnly db (db'.withFees t) := by
  rw [consumeCreationFee_frame hok]
  exact ⟨h.community, rfl⟩

theorem softwareOnly_createAuction (r : Software.CreateRequest) :
    SoftwareOnly db (Software.createAuction db r).db := by
  unfold Software.createAuction
  split
  · exact .refl db
  split
  · exact .refl db
  split
  · unfold Software.insertAuction
    split
    · exact ⟨rfl, rfl⟩
    split
    · exact .refl db
    · next t hok => exact softwareOnly_withFees ⟨rfl, rfl⟩ hok
  · split <;> exact ⟨rfl, rfl⟩

theorem softwareOnly_endExpired {now : Time} : SoftwareOnly db (Software.endExpired db j now) := by
  unfold Software.endExpired
  split
  · exact .refl db
  split
  · unfold Software.endAuction
    split
    · exact ⟨rfl, rfl⟩
    · dsimp only
      split <;> exact ⟨rfl, rfl⟩
  · exact .refl db

theorem softwareOnly_reAuction (r : Software.ReAuctionRequest) :
    SoftwareOnly db (Software.reAuction db r).db := by
  unfold Software.reAuction
  split
  · exact .refl db
  split_ifs
  · exact .refl db
  · exact .refl db
  split
  · exact .refl db
  · next t hok => exact softwareOnly_withFees ⟨rfl, rfl⟩ hok

/-- The call is one of the software service and takes no payment. -/
def Label.onSoftware : Label → Bool
  | .createSoftware _ | .approveSoftware _ _ | .rejectSoftware _ | .takeDownSoftware _
  | .approveAgainSoftware _ _ | .endSoftware _ _ | .reAuctionSoftware _ | .closeSoftware _ _ _
  | .forfeitSoftware _ => true
  | _ => false

/-- **A software call that takes no payment leaves community auctions and wallets alone.** -/
theorem softwareOnly_step {l : Label} (h : l.onSoftware = true) : SoftwareOnly db (step db l) := by
  cases l with
  | createSoftware r => exact softwareOnly_createAuction r
  | approveSoftware j now => exact softwareOnly_onSoftware
  | rejectSoftware j => exact softwareOnly_onSoftware
  | takeDownSoftware j => exact softwareOnly_onSoftware
  | approveAgainSoftware j now => exact softwareOnly_onSoftware
  | endSoftware j now => exact softwareOnly_endExpired
  | reAuctionSoftware r => exact softwareOnly_reAuction r
  | closeSoftware j listedBy lister => exact softwareOnly_onSoftware
  | forfeitSoftware j =>
    simp only [step, call, Software.forfeit]
    split <;> exact ⟨rfl, rfl⟩
  | _ => cases h

end Deltapreneur.Auction
