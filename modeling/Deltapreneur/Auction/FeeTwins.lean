import Deltapreneur.Auction.Fee

/-!
# The two verifications of a bid fee

`verify_bid_fee_sync` and `consume_bid_fee_sync` (`app/service/auction/auction_fee_sync.py:100-160`)
beside `verify_bid_fee_payment` and `consume_bid_fee` of `AuctionFeeService`
(`app/service/auction/auction_fee_service.py:363-436`), for a community auction, with what a caller
makes of them: it commits at the end and rolls back at an exception.

* `Store`: order ids are unique in `auction_fee_payments`. The synchronous verification selects the
  row by all its keys, the other one by its order id.
* A waived role with an `admin_free_bid_` order gets a row that is not in the session. Its refresh is
  caught in the verification and raises in the consumption.
* Amounts are compared as floats of two-digit numbers, so as what they are.

Results:

* `twins_agree_iff`: they agree exactly where no redemption is left to confirm or to cancel.
* `points_kept`: a bidder pays the fee with points and keeps them.
-/

namespace Deltapreneur.Auction.FeeTwins

open EdgePoints

/-- `auction_fee_payments` with its unique constraint, and the wallets. -/
structure Store extends FeeTables where
  unique : (fees.map FeePayment.razorpayOrderId).Nodup

structure Call where
  user : UserId
  /-- `role_waives_auction_platform_fees` of the bidder. -/
  waives : Bool
  auction : AuctionId
  paid : Triple
  /-- The order id begins with `admin_free_bid_`. -/
  freeOrder : Bool
  bidAmount : Paise
  deriving Repr, DecidableEq

/-- A row as a session has it. -/
structure Loaded where
  row : FeePayment
  /-- It is stored. -/
  persistent : Bool
  deriving Repr, DecidableEq

/-- What a verification leaves in the session and what it has committed, and the row it returns. -/
structure Verified where
  session : FeeTables
  committed : FeeTables
  result : Except AppException Loaded

/-- The tables after the caller's commit or rollback, and the result. -/
structure Ended where
  tables : FeeTables
  result : Except AppException Unit

/-! ## The synchronous functions -/

/-- The query of `verify_bid_fee_sync`. -/
def bidFeeRow (t : FeeTables) (c : Call) : Option FeePayment :=
  t.fees.find? fun row => row.razorpayOrderId = c.paid.order ∧ row.userId = c.user ∧
    row.auctionId = some c.auction ∧ row.paymentKind = .bid ∧ row.auctionType = .community

/-- `verify_bid_fee_sync`. -/
def verifyBidFeeSync (t : FeeTables) (c : Call) : Verified :=
  if c.paid.verifies t.gateway = false then
    ⟨t, t, raise "Invalid bid fee payment signature." 400⟩
  else match bidFeeRow t c with
    | none => ⟨t, t, raise "Bid fee payment not found." 404⟩
    | some row =>
      if row.status = .consumed then ⟨t, t, raise "Bid fee payment already used." 409⟩
      else if row.bidAmount ≠ some c.bidAmount then
        ⟨t, t, raise "Bid amount does not match the paid bid fee order." 400⟩
      else ⟨t.editFee c.paid.order (.complete c.paid.payment), t,
        .ok ⟨row.complete c.paid.payment, true⟩⟩

/-- `consume_bid_fee_sync`. -/
def consumeBidFeeSync (t : FeeTables) (r : Loaded) : Except AppException FeeTables :=
  if r.row.status = .consumed then .ok t
  else if r.row.status ≠ .completed then raise "Bid fee payment is not verified." 402
  else .ok (t.editFee r.row.razorpayOrderId .consume)

/-! ## The asynchronous functions -/

/-- The row of a waived fee. -/
def Call.freeRow (c : Call) : FeePayment where
  paymentKind := .bid
  auctionType := .community
  userId := c.user
  auctionId := some c.auction
  bidAmount := some c.bidAmount
  feeAmount := 0
  razorpayOrderId := c.paid.order
  razorpayPaymentId := some c.paid.payment
  status := .completed

/-- `verify_bid_fee_payment`. -/
def verifyBidFeePayment (t : FeeTables) (c : Call) : Verified :=
  if c.waives && c.freeOrder then ⟨t, t, .ok ⟨c.freeRow, false⟩⟩
  else if c.paid.verifies t.gateway = false then
    let cancelled := { t with wallets := t.wallets.cancelRedemption c.paid.order }
    ⟨cancelled, cancelled, raise "Invalid payment signature." 400⟩
  else match t.feeByOrder c.paid.order with
    | none => ⟨t, t, raise "Bid fee payment not found." 404⟩
    | some row =>
      if row.userId ≠ c.user ∨ row.paymentKind ≠ .bid ∨ row.auctionType ≠ .community ∨
          row.auctionId ≠ some c.auction then
        ⟨t, t, raise "Bid fee payment not found." 404⟩
      else if row.status = .consumed then ⟨t, t, raise "Bid fee payment already used." 409⟩
      else if row.bidAmount ≠ some c.bidAmount then
        ⟨t, t, raise "Bid amount does not match the paid bid fee order." 400⟩
      else
        let confirmed := { t.editFee c.paid.order (.complete c.paid.payment) with
          wallets := t.wallets.confirmRedemption c.paid.order }
        ⟨confirmed,
          if (t.wallets.pendingRedemption c.paid.order).isSome then confirmed else t,
          .ok ⟨row.complete c.paid.payment, true⟩⟩

/-- `consume_bid_fee`. Only a row of the session can be refreshed. -/
def consumeBidFee (t : FeeTables) (r : Loaded) : Except AppException FeeTables :=
  if r.row.status = .consumed then .ok t
  else if r.row.status ≠ .completed then raise "Bid fee payment is not verified." 402
  else if r.persistent = false then raise "Failed to place bid." 500
  else .ok (t.editFee r.row.razorpayOrderId .consume)

/-! ## The two sequences -/

/-- Verify, consume and commit; an exception is followed by a rollback. -/
def andConsume (v : Verified) (consume : FeeTables → Loaded → Except AppException FeeTables) :
    Ended :=
  match v.result with
  | .error e => ⟨v.committed, .error e⟩
  | .ok row =>
    match consume v.session row with
    | .error e => ⟨v.committed, .error e⟩
    | .ok t => ⟨t, .ok ()⟩

def syncBid (t : FeeTables) (c : Call) : Ended := andConsume (verifyBidFeeSync t c) consumeBidFeeSync

def asyncBid (t : FeeTables) (c : Call) : Ended := andConsume (verifyBidFeePayment t c) consumeBidFee

/-- Both accept or both refuse, and the tables are the same. -/
structure Agree (o o' : Ended) : Prop where
  accepts : o.result.isOk = o'.result.isOk
  fees : o.tables.fees = o'.tables.fees
  wallets : o.tables.wallets = o'.tables.wallets

/-- The checks of the row pass. -/
def Call.checks (c : Call) (t : FeeTables) : Except AppException Unit :=
  checkBidFee t .community c.auction c.user c.paid.order c.bidAmount

variable {t : FeeTables} {c : Call} {w : Wallets} {order : OrderId}

/-! ## The row -/

/-- **The two ways to find the row**: order ids are unique, so the row of the order with the right
keys is the row of the order, if it has the right keys. -/
theorem bidFeeRow_eq (s : Store) (c : Call) : bidFeeRow s.toFeeTables c =
    (s.feeByOrder c.paid.order).filter fun row => row.userId = c.user ∧
      row.auctionId = some c.auction ∧ row.paymentKind = .bid ∧ row.auctionType = .community := by
  unfold bidFeeRow FeeTables.feeByOrder
  rw [← Table.find?_and s.unique]
  simp only [Bool.decide_and]

/-! ## What the sequences do -/

/-- The row verified and consumed. -/
def paidUp (t : FeeTables) (c : Call) : FeeTables :=
  (t.editFee c.paid.order (.complete c.paid.payment)).editFee c.paid.order .consume

theorem consumeBidFeeSync_complete (payment : PaymentId) (row : FeePayment) :
    consumeBidFeeSync t ⟨row.complete payment, true⟩ =
      .ok (t.editFee row.razorpayOrderId .consume) := rfl

theorem consumeBidFee_complete (payment : PaymentId) (row : FeePayment) :
    consumeBidFee t ⟨row.complete payment, true⟩ = .ok (t.editFee row.razorpayOrderId .consume) :=
  rfl

/-- **The synchronous sequence.** -/
theorem syncBid_eq (s : Store) (c : Call) : syncBid s.toFeeTables c =
    if c.paid.verifies s.gateway = false then
      ⟨s.toFeeTables, raise "Invalid bid fee payment signature." 400⟩
    else match c.checks s.toFeeTables with
      | .error e => ⟨s.toFeeTables, .error e⟩
      | .ok () => ⟨paidUp s.toFeeTables c, .ok ()⟩ := by
  unfold syncBid verifyBidFeeSync Call.checks checkBidFee
  by_cases hbad : c.paid.verifies s.gateway = false
  · rw [if_pos hbad, if_pos hbad]
    rfl
  rw [if_neg hbad, if_neg hbad, bidFeeRow_eq]
  cases hrow : s.feeByOrder c.paid.order with
  | none => rfl
  | some row =>
    have horder : row.razorpayOrderId = c.paid.order := (Table.lookup_eq_some hrow).2
    by_cases hkeys : row.userId = c.user ∧ row.auctionId = some c.auction ∧
        row.paymentKind = .bid ∧ row.auctionType = .community
    swap
    · have hwrong : row.userId ≠ c.user ∨ row.paymentKind ≠ .bid ∨ row.auctionType ≠ .community ∨
          row.auctionId ≠ some c.auction := by tauto
      rw [Option.filter_some_neg (by simpa using hkeys)]
      dsimp only
      rw [if_pos hwrong]
      rfl
    have hright : ¬ (row.userId ≠ c.user ∨ row.paymentKind ≠ .bid ∨ row.auctionType ≠ .community ∨
        row.auctionId ≠ some c.auction) := by tauto
    rw [Option.filter_some_pos (by simpa using hkeys)]
    dsimp only
    rw [if_neg hright]
    by_cases hconsumed : row.status = .consumed
    · rw [if_pos hconsumed, if_pos hconsumed]
      rfl
    rw [if_neg hconsumed, if_neg hconsumed]
    by_cases hamount : row.bidAmount ≠ some c.bidAmount
    · rw [if_pos hamount, if_pos hamount]
      rfl
    rw [if_neg hamount, if_neg hamount, andConsume]
    dsimp only
    rw [consumeBidFeeSync_complete, horder]
    rfl

/-- **The asynchronous sequence.** -/
theorem asyncBid_eq (t : FeeTables) (c : Call) : asyncBid t c =
    if c.waives && c.freeOrder then ⟨t, raise "Failed to place bid." 500⟩
    else if c.paid.verifies t.gateway = false then
      ⟨{ t with wallets := t.wallets.cancelRedemption c.paid.order },
        raise "Invalid payment signature." 400⟩
    else match c.checks t with
      | .error e => ⟨t, .error e⟩
      | .ok () =>
        ⟨{ paidUp t c with wallets := t.wallets.confirmRedemption c.paid.order }, .ok ()⟩ := by
  unfold asyncBid verifyBidFeePayment Call.checks checkBidFee
  by_cases hfree : (c.waives && c.freeOrder) = true
  · rw [if_pos hfree, if_pos hfree]
    rfl
  rw [if_neg hfree, if_neg hfree]
  by_cases hbad : c.paid.verifies t.gateway = false
  · rw [if_pos hbad, if_pos hbad]
    rfl
  rw [if_neg hbad, if_neg hbad]
  cases hrow : t.feeByOrder c.paid.order with
  | none => rfl
  | some row =>
    have horder : row.razorpayOrderId = c.paid.order := (Table.lookup_eq_some hrow).2
    dsimp only
    by_cases hwrong : row.userId ≠ c.user ∨ row.paymentKind ≠ .bid ∨ row.auctionType ≠ .community ∨
        row.auctionId ≠ some c.auction
    · rw [if_pos hwrong, if_pos hwrong]
      rfl
    rw [if_neg hwrong, if_neg hwrong]
    by_cases hconsumed : row.status = .consumed
    · rw [if_pos hconsumed, if_pos hconsumed]
      rfl
    rw [if_neg hconsumed, if_neg hconsumed]
    by_cases hamount : row.bidAmount ≠ some c.bidAmount
    · rw [if_pos hamount, if_pos hamount]
      rfl
    rw [if_neg hamount, if_neg hamount, andConsume]
    dsimp only
    rw [consumeBidFee_complete, horder]
    rfl

/-! ## Agreement -/

theorem commitStatus_ne {r : Redemption} {status : RedemptionStatus}
    (hr : w.pendingRedemption order = some r) (hstatus : status ≠ .pending) :
    (w.commitStatus order status).redemptions ≠ w.redemptions := by
  obtain ⟨hmem, horder, hpending⟩ := pendingRedemption_eq_some hr
  intro heq
  have hself := Table.update_eq_self_iff.mp heq r hmem horder
  have hnow : status = r.status := congrArg Redemption.status hself
  exact hstatus (hnow.trans hpending)

theorem confirmRedemption_eq_self_iff :
    w = w.confirmRedemption order ↔ w.pendingRedemption order = none := by
  unfold Wallets.confirmRedemption
  cases hr : w.pendingRedemption order with
  | none => simp
  | some r =>
    have horder := (pendingRedemption_eq_some hr).2.1
    refine iff_of_false (fun heq => ?_) (by simp)
    rw [← horder] at hr
    have hne : RedemptionStatus.completed ≠ .pending := by decide
    exact commitStatus_ne hr hne (congrArg Wallets.redemptions heq).symm

theorem cancelRedemption_eq_self_iff :
    w = w.cancelRedemption order ↔ w.pendingRedemption order = none := by
  unfold Wallets.cancelRedemption
  cases hr : w.pendingRedemption order with
  | none => simp
  | some r =>
    refine iff_of_false (fun heq => ?_) (by simp)
    exact commitStatus_ne hr (by decide) (congrArg Wallets.redemptions heq).symm

/-- The signature verifies and the row passes its checks. -/
def Passes (t : FeeTables) (c : Call) : Prop :=
  c.paid.verifies t.gateway = true ∧ c.checks t = .ok ()

/-- **The two paths agree**, on the same answer and the same tables, exactly where no redemption of
the presented order waits to be confirmed by a payment that passes or cancelled by a signature that
does not verify; and for a waived fee, where the order it is presented with does not pass. -/
theorem twins_agree_iff (s : Store) (c : Call) :
    Agree (syncBid s.toFeeTables c) (asyncBid s.toFeeTables c) ↔
      if c.waives && c.freeOrder then ¬ Passes s.toFeeTables c
      else s.wallets.pendingRedemption c.paid.order = none ∨
        c.paid.verifies s.gateway = true ∧ c.checks s.toFeeTables ≠ .ok () := by
  rw [syncBid_eq, asyncBid_eq]
  have hself (o : Ended) : Agree o o := ⟨rfl, rfl, rfl⟩
  by_cases hfree : (c.waives && c.freeOrder) = true
  · rw [if_pos hfree, if_pos hfree]
    by_cases hbad : c.paid.verifies s.gateway = false
    · rw [if_pos hbad]
      exact iff_of_true ⟨rfl, rfl, rfl⟩ fun h => absurd (hbad.symm.trans h.1) (by decide)
    rw [if_neg hbad]
    cases hchecks : c.checks s.toFeeTables with
    | error e =>
      exact iff_of_true ⟨rfl, rfl, rfl⟩ fun h => absurd (hchecks.symm.trans h.2) (by simp)
    | ok u =>
      have hpasses : Passes s.toFeeTables c := ⟨by simpa using hbad, hchecks⟩
      refine iff_of_false (fun h => ?_) (not_not.mpr hpasses)
      have haccepts : true = false := h.accepts
      exact absurd haccepts (by decide)
  · rw [if_neg hfree, if_neg hfree]
    by_cases hbad : c.paid.verifies s.gateway = false
    · rw [if_pos hbad, if_pos hbad, ← cancelRedemption_eq_self_iff]
      refine ⟨fun h => .inl h.wallets, ?_⟩
      rintro (h | ⟨hgood, -⟩)
      · exact ⟨rfl, rfl, h⟩
      · exact absurd (hbad.symm.trans hgood) (by decide)
    rw [if_neg hbad, if_neg hbad]
    cases hchecks : c.checks s.toFeeTables with
    | error e => exact iff_of_true (hself _) (.inr ⟨by simpa using hbad, by simp⟩)
    | ok u =>
      rw [← confirmRedemption_eq_self_iff]
      refine ⟨fun h => .inl h.wallets, ?_⟩
      rintro (h | ⟨-, hfails⟩)
      · exact ⟨rfl, rfl, h⟩
      · exact absurd rfl hfails

/-- User 9 has 20 points and has paid the fee of a bid of 120 rupees on community auction 0 with
them. -/
def feePaid : Store where
  toFeeTables :=
    let fees := (createBidFeeOrder ⟨[], Wallets.empty.awardReferrerPoints 9 20, .empty⟩
      ⟨.community, 9, 2000, true, true⟩ 0 12000).1
    { fees with gateway := fees.gateway.capture 0 }
  unique := by decide

/-- User 9 bids. -/
def payer : Call where
  user := 9
  waives := false
  auction := 0
  paid := ⟨0, 0, true⟩
  freeOrder := false
  bidAmount := 12000

/-- **A discount for points that are kept**: both paths accept the bid, and only the asynchronous one
takes the points. -/
theorem points_kept :
    (syncBid feePaid.toFeeTables payer).result.isOk = true ∧
      (asyncBid feePaid.toFeeTables payer).result.isOk = true ∧
      (syncBid feePaid.toFeeTables payer).tables.wallets.edgePoints 9 = 20 ∧
      (asyncBid feePaid.toFeeTables payer).tables.wallets.edgePoints 9 = 0 ∧
      ¬ Agree (syncBid feePaid.toFeeTables payer) (asyncBid feePaid.toFeeTables payer) := by
  refine ⟨by decide, by decide, by decide, by decide, fun h => ?_⟩
  have hpoints := congrArg (fun w => w.edgePoints 9) h.wallets
  exact absurd hpoints (by decide)

end Deltapreneur.Auction.FeeTwins
