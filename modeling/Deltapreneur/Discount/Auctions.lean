import Deltapreneur.EdgePoints.Ledger
import Deltapreneur.Auction.Rounds

/-!
# Points in fees and auctions

What the calls of `Auction/Rounds.lean` do to the wallets; the counterpart of
`Discount/Market.lean`.

* `verify_bid_fee_sync` and `verify_winner_payment` of community auctions accept an order and do
  not know about redemptions (`skips`).

Results:

* `auction_wallets`: every call is a wallet step that cancels what `cancels` says.
* `auction_accepts`: an accepting call confirms the order's redemption, unless it skips that.
-/

namespace Deltapreneur.Auction

open EdgePoints Marketplace

variable {db : AuctionDb} {t : FeeTables} {o : OrderId} {c : OrderId → Prop}

/-! ## Fees -/

theorem issueFee_wallets (r : FeeOrderRequest) (kind : FeeKind) (auction : Option AuctionId)
    (bidAmount : Option Paise) (unreachable : String) :
    WalletStep c t.wallets (t.issueFee r kind auction bidAmount unreachable).1.wallets := by
  unfold FeeTables.issueFee
  dsimp only
  split
  · exact .same
  split
  · exact .same
  · exact .reserve _ _ _ (calculateRedemption_le_available _ _ _ _)

theorem createBidFeeOrder_wallets (r : FeeOrderRequest) (auction : AuctionId) (bidAmount : Paise) :
    WalletStep c t.wallets (createBidFeeOrder t r auction bidAmount).1.wallets := by
  unfold createBidFeeOrder
  split
  · exact .same
  split
  · exact .same
  · exact issueFee_wallets r .bid (some auction) (some bidAmount) _

theorem verifyCreationFeePayment_cases (user : UserId) (type : FeeAuctionType) (p : Triple) :
    ((verifyCreationFeePayment t user type p).2.isOk = false ∧ p.verifies t.gateway = false ∧
        (verifyCreationFeePayment t user type p).1.wallets = t.wallets.cancelRedemption p.order) ∨
      ((verifyCreationFeePayment t user type p).2.isOk = false ∧
        (verifyCreationFeePayment t user type p).1.wallets = t.wallets) ∨
      (verifyCreationFeePayment t user type p).1.wallets = t.wallets.confirmRedemption p.order := by
  unfold verifyCreationFeePayment
  split
  · next hsig => exact .inl ⟨rfl, hsig, rfl⟩
  split
  · exact .inr (.inl ⟨rfl, rfl⟩)
  split_ifs
  · exact .inr (.inl ⟨rfl, rfl⟩)
  · exact .inr (.inl ⟨rfl, rfl⟩)
  · exact .inr (.inr rfl)

/-- A bid fee verification: a cancellation, an exception, or a confirmation that its session sees
and that is committed when it changed anything. -/
theorem verifyBidFeePayment_cases (type : FeeAuctionType) (auction : AuctionId) (user : UserId)
    (p : Triple) (amount : Paise) :
    ((verifyBidFeePayment t type auction user p amount).result.isOk = false ∧
        p.verifies t.gateway = false ∧
        (verifyBidFeePayment t type auction user p amount).committed.wallets =
          t.wallets.cancelRedemption p.order) ∨
      ((verifyBidFeePayment t type auction user p amount).result.isOk = false ∧
        (verifyBidFeePayment t type auction user p amount).committed.wallets = t.wallets) ∨
      ((verifyBidFeePayment t type auction user p amount).result.isOk = true ∧
        (verifyBidFeePayment t type auction user p amount).session.wallets =
          t.wallets.confirmRedemption p.order ∧
        (verifyBidFeePayment t type auction user p amount).committed.wallets =
          t.wallets.confirmRedemption p.order) := by
  unfold verifyBidFeePayment
  split
  · next hsig => exact .inl ⟨rfl, hsig, rfl⟩
  split
  · exact .inr (.inl ⟨rfl, rfl⟩)
  · refine .inr (.inr ⟨rfl, rfl, ?_⟩)
    dsimp only
    split
    · rfl
    · next hnone =>
      rw [Bool.not_eq_true, Option.isSome_eq_false_iff, Option.isNone_iff_eq_none] at hnone
      simp [Wallets.confirmRedemption, hnone]

/-! ## Cancelling, accepting, skipping -/

/-- `place_bid` of a software auction gets as far as the fee. -/
def Software.reachesFee (db : AuctionDb) (r : Software.BidRequest) : Bool :=
  r.canBid && (db.software[r.auction]?).any fun a =>
    a.approvalStatus = .approved && a.status.live && !(a.endTime.any fun e => e < r.now) &&
      r.listedBy ≠ some r.bidder && r.technologyVerified &&
      (normalizeBidAmount r.amount a.currentHighestBid a.minBidPrice).isOk

/-- `verify_winner_payment` of a software auction gets as far as the signature. -/
def Software.reachesSignature (db : AuctionDb) (r : Software.VerifyRequest) : Bool :=
  (db.software[r.auction]?).any fun a =>
    a.currentWinnerId = some r.winner && a.status = .ended &&
      (a.winnerPaymentOrderId = none || a.winnerPaymentOrderId = some r.paid.order)

/-- The call cancels the redemption of `o` if it is pending. -/
def Label.cancels (db : AuctionDb) (o : OrderId) : Label → Bool
  | .bidSoftware r => r.fee.order = o && Software.reachesFee db r && !r.fee.verifies db.gateway
  | .verifySoftware r =>
    r.paid.order = o && Software.reachesSignature db r && !r.paid.verifies db.gateway
  | .verifyCreationFee _ _ p => p.order = o && !p.verifies db.gateway
  | _ => false

/-- The call accepts `o` as paid. A verification of an auction that is paid already answers with
the auction, whatever order is presented, and accepts nothing. -/
def Label.accepts (db : AuctionDb) (o : OrderId) : Label → Bool
  | .bidSoftware r => r.fee.order = o && (Software.placeBid db r).result.isOk
  | .verifySoftware r =>
    r.paid.order = o && (Software.verifyWinnerPayment db r).result.isOk &&
      (db.software[r.auction]?).any fun a => a.status = .ended
  | .verifyCreationFee user type p =>
    p.order = o && (verifyCreationFeePayment db.toFeeTables user type p).2.isOk
  | .bidCommunity r => r.fee.order = o && (Community.placeBid db r).result.isOk
  | .verifyCommunity auction user paid =>
    paid.order = o && (Community.verifyWinnerPayment db auction user paid).result.isOk &&
      (db.community[auction]?).any fun a => a.status = .ended
  | _ => false

/-- The call accepts `o` without looking at its redemption. -/
def Label.skips (db : AuctionDb) (o : OrderId) (l : Label) : Bool :=
  match l with
  | .bidCommunity _ | .verifyCommunity _ _ _ => l.accepts db o
  | _ => false

/-! ## Steps of the wallets -/

/-- Everything a software bid does to the wallets. -/
theorem software_placeBid_cases (r : Software.BidRequest) :
    ((Software.placeBid db r).result.isOk = false ∧
        (Software.placeBid db r).db.wallets = db.wallets) ∨
      ((Software.placeBid db r).result.isOk = false ∧
        Label.cancels db r.fee.order (.bidSoftware r) = true ∧
        (Software.placeBid db r).db.wallets = db.wallets.cancelRedemption r.fee.order) ∨
      (Software.placeBid db r).db.wallets = db.wallets.confirmRedemption r.fee.order := by
  unfold Software.placeBid
  split
  · exact .inl ⟨rfl, rfl⟩
  next hcan =>
  split
  · exact .inl ⟨rfl, rfl⟩
  next a hget =>
  split
  · exact .inl ⟨rfl, rfl⟩
  next happ =>
  split
  · exact .inl ⟨rfl, rfl⟩
  next hlive =>
  split
  · exact .inl ⟨rfl, rfl⟩
  next hend =>
  split
  · exact .inl ⟨rfl, rfl⟩
  next hown =>
  split
  · exact .inl ⟨rfl, rfl⟩
  next htech =>
  split
  · exact .inl ⟨rfl, rfl⟩
  next amount hamount =>
  have hreach : Software.reachesFee db r = true := by
    simp only [Software.reachesFee, hget, Option.any_some, hamount, Bool.and_eq_true,
      Bool.not_eq_true']
    refine ⟨by simpa using hcan, ⟨⟨⟨⟨by simpa using happ, by simpa using hlive⟩, ?_⟩, ?_⟩,
      by simpa using htech⟩, rfl⟩
    · simpa using hend
    · simpa using hown
  dsimp only
  rcases @verifyBidFeePayment_cases db.toFeeTables .software r.auction r.bidder r.fee r.amount with
    ⟨hno, hsig, hw⟩ | ⟨hno, hw⟩ | ⟨hyes, hw, -⟩
  · split
    · refine .inr (.inl ⟨rfl, ?_, hw⟩)
      simp [Label.cancels, hreach, hsig]
    · next hok =>
      rw [hok] at hno
      cases hno
  · split
    · exact .inl ⟨rfl, hw⟩
    · next hok =>
      rw [hok] at hno
      cases hno
  · split
    · next herr =>
      rw [herr] at hyes
      cases hyes
    · exact .inr (.inr hw)

/-- Everything a verification of a software auction does to the wallets. -/
theorem software_verify_cases (r : Software.VerifyRequest) :
    (((Software.verifyWinnerPayment db r).result.isOk = false ∨
          ((db.software[r.auction]?).any fun a => a.status = .ended) = false) ∧
        (Software.verifyWinnerPayment db r).db.wallets = db.wallets) ∨
      ((Software.verifyWinnerPayment db r).result.isOk = false ∧
        Label.cancels db r.paid.order (.verifySoftware r) = true ∧
        (Software.verifyWinnerPayment db r).db.wallets = db.wallets.cancelRedemption r.paid.order) ∨
      (Software.verifyWinnerPayment db r).db.wallets =
        db.wallets.confirmRedemption r.paid.order := by
  unfold Software.verifyWinnerPayment
  cases hget : db.software[r.auction]? with
  | none => exact .inl ⟨.inl rfl, rfl⟩
  | some a =>
    dsimp only
    split
    · exact .inl ⟨.inl rfl, rfl⟩
    next hwin =>
    split
    · next hdone => exact .inl ⟨.inr (by simp [hdone.2]), rfl⟩
    split
    · exact .inl ⟨.inl rfl, rfl⟩
    next hended =>
    split
    · exact .inl ⟨.inl rfl, rfl⟩
    next hord =>
    split
    · next hsig =>
      refine .inr (.inl ⟨rfl, ?_, rfl⟩)
      have hreach : Software.reachesSignature db r = true := by
        simp only [Software.reachesSignature, hget, Option.any_some, Bool.and_eq_true,
          decide_eq_true_eq, Bool.or_eq_true]
        refine ⟨⟨not_not.mp hwin, not_not.mp hended⟩, ?_⟩
        by_cases hnone : a.winnerPaymentOrderId = none
        · exact .inl hnone
        · exact .inr (not_not.mp fun hne => hord ⟨hnone, hne⟩)
      simp [Label.cancels, hreach, hsig]
    · refine .inr (.inr ?_)
      split
      · rfl
      · next db' hok =>
        have hframe := completeAuctionWinnerPurchase_frame hok
        rw [auctionDone_db, hframe]
        rfl

theorem software_createWinnerPaymentOrder_wallets (r : Software.WinnerOrderRequest) :
    WalletStep c db.wallets (Software.createWinnerPaymentOrder db r).db.wallets := by
  unfold Software.createWinnerPaymentOrder
  split
  · exact .same
  split_ifs
  all_goals try exact .same
  split
  · exact .same
  · exact .reserve _ _ _ (calculateRedemption_le_available _ _ _ _)

/-- **Every call is a wallet step.** -/
theorem auction_wallets (l : Label) :
    WalletStep (fun o => l.cancels db o = true) db.wallets (step db l).wallets := by
  cases l with
  | bidSoftware r =>
    rcases @software_placeBid_cases db r with ⟨-, h⟩ | ⟨-, hc, h⟩ | h
    · exact .of_eq h
    · have hstep : (step db (.bidSoftware r)).wallets =
          db.wallets.cancelRedemption r.fee.order := h
      rw [hstep]
      exact .cancel r.fee.order hc
    · exact .of_confirm h
  | verifySoftware r =>
    rcases @software_verify_cases db r with ⟨-, h⟩ | ⟨-, hc, h⟩ | h
    · exact .of_eq h
    · have hstep : (step db (.verifySoftware r)).wallets =
          db.wallets.cancelRedemption r.paid.order := h
      rw [hstep]
      exact .cancel r.paid.order hc
    · exact .of_confirm h
  | verifyCreationFee user type p =>
    rcases @verifyCreationFeePayment_cases db.toFeeTables user type p with
      ⟨-, hsig, h⟩ | ⟨-, h⟩ | h
    · have hstep : (step db (.verifyCreationFee user type p)).wallets =
          db.wallets.cancelRedemption p.order := h
      rw [hstep]
      exact .cancel p.order (by simp [Label.cancels, hsig])
    · exact .of_eq h
    · exact .of_confirm h
  | creationFeeOrder r => exact issueFee_wallets r .creation none none _
  | bidFeeOrder r auction amount => exact createBidFeeOrder_wallets r auction amount
  | orderSoftware r => exact software_createWinnerPaymentOrder_wallets r
  | award user points => exact .award user points
  | otherOrder user amount =>
    refine .of_eq ?_
    simp only [step, call]
    split <;> rfl
  | capture order => exact .same
  | _ =>
    first
      | exact .of_eq (softwareOnly_step rfl).wallets
      | exact .of_eq (communityOnly_step rfl).wallets

/-! ## Acceptance -/

/-- **An accepting call confirms the redemption of its order**, unless it skips that. -/
theorem auction_accepts {l : Label} (h : l.accepts db o = true) :
    (step db l).wallets = db.wallets.confirmRedemption o ∨
      (l.skips db o = true ∧ (step db l).wallets = db.wallets) := by
  cases l with
  | bidSoftware r =>
    simp only [Label.accepts, Bool.and_eq_true, decide_eq_true_eq] at h
    obtain ⟨rfl, hok⟩ := h
    rcases @software_placeBid_cases db r with ⟨hno, -⟩ | ⟨hno, -⟩ | hw
    · cases hok.symm.trans hno
    · cases hok.symm.trans hno
    · exact .inl hw
  | verifySoftware r =>
    simp only [Label.accepts, Bool.and_eq_true, decide_eq_true_eq] at h
    obtain ⟨⟨rfl, hok⟩, hended⟩ := h
    rcases @software_verify_cases db r with ⟨hno | hno, -⟩ | ⟨hno, -⟩ | hw
    · cases hok.symm.trans hno
    · cases hended.symm.trans hno
    · cases hok.symm.trans hno
    · exact .inl hw
  | verifyCreationFee user type p =>
    simp only [Label.accepts, Bool.and_eq_true, decide_eq_true_eq] at h
    obtain ⟨rfl, hok⟩ := h
    rcases @verifyCreationFeePayment_cases db.toFeeTables user type p with
      ⟨hno, -⟩ | ⟨hno, -⟩ | hw
    · cases hok.symm.trans hno
    · cases hok.symm.trans hno
    · exact .inl hw
  | bidCommunity r => exact .inr ⟨h, (communityOnly_step rfl).wallets⟩
  | verifyCommunity auction user paid => exact .inr ⟨h, (communityOnly_step rfl).wallets⟩
  | _ => cases h

end Deltapreneur.Auction
