import Deltapreneur.Lib.Commits
import Deltapreneur.Auction.DomainBids

/-!
# A rejected bid

One call of `BidService.place_bid` (`app/service/auction/bid_service.py:76-201`), alone, with the
commits on its way: `confirm_redemption` and `cancel_redemption` commit where they find a pending
redemption, and the call commits at its end.

* `Point`: the statements at which the database may fail, which the call turns into a status 500. A
  commit that fails has committed nothing. A request that is cut off is a failure like any other.
* A free order is one that begins with `admin_free_bid_`, presented by a user whose role waives the
  fee. Its row is not in the session: `consume_bid_fee` cannot refresh it and raises.
* `Account` is what the tables hold of one user's fees, redemptions and points.
* A signature that does not verify may cancel the redemption of the presented order
  (`Unchanged.account`).

Results:

* `rejected_bid_unchanged_iff`: a call that raises leaves everything as it was, unless it raises
  after the confirmation of a redemption (`Splits`).
* `own_bid_redeems`: the owner of an auction bids on it and loses fee and points.
-/

namespace Deltapreneur.Auction.RejectedBid

open EdgePoints Marketplace Commits
open PlaceBid (DomainRow Request Guards Bid)

/-! ## The call -/

/-- Where the database may fail. -/
inductive Point
  /-- The `SELECT … FOR UPDATE` of the auction. -/
  | lock
  /-- `ensure_domain_verified_for_auction`. -/
  | listing
  /-- `assert_user_can_bid_async`. -/
  | block
  /-- The row of the bid fee, its reading or its flush. -/
  | fee
  /-- `confirm_redemption` or `cancel_redemption`. -/
  | redemption
  /-- `clear_winning_flag`. -/
  | clear
  /-- `create_bid`. -/
  | insert
  /-- `consume_bid_fee`. -/
  | consume
  /-- The last flush and commit. -/
  | commit
  deriving Repr, DecidableEq

/-- The statements after the verification of the fee. -/
def Point.late : Point → Bool
  | .clear | .insert | .consume | .commit => true
  | .lock | .listing | .block | .fee | .redemption => false

structure Tables where
  auctions : AuctionId → Option DomainRow
  bids : AuctionId → List Bid
  fees : FeeTables

structure Call where
  auctionId : Option AuctionId
  bid : Request
  /-- The bidder presents a free order and may. -/
  free : Bool
  guards : Guards
  /-- The time of the anti-snipe decision. -/
  now : Time
  fault : Option Point

/-- A `SQLAlchemyError`, as the call raises it. -/
def dbError : AppException := ⟨"Failed to place bid.", 500⟩

/-- The call gets to the statement `p`. -/
def reach (c : Call) (p : Point) : Work Tables AppException Unit := strike c.fault p dbError

/-- The presented fee is completed. -/
def complete (t : Tables) (r : Request) : Tables :=
  { t with fees := t.fees.editFee r.fee.order (.complete r.fee.payment) }

/-- Its redemption, if one is pending, is completed. -/
def redeem (t : Tables) (r : Request) : Tables :=
  { t with fees.wallets := t.fees.wallets.confirmRedemption r.fee.order }

/-- Its redemption, if one is pending, has failed. -/
def cancel (t : Tables) (r : Request) : Tables :=
  { t with fees.wallets := t.fees.wallets.cancelRedemption r.fee.order }

/-- A redemption of the presented order is pending. -/
def pending (t : Tables) (r : Request) : Bool :=
  (t.fees.wallets.pendingRedemption r.fee.order).isSome

/-- `confirm_redemption` of the presented order. -/
def confirmRedemption (c : Call) : Work Tables AppException Unit := do
  reach c .redemption
  let t ← read
  if pending t c.bid then
    write (redeem · c.bid)
    commit

/-- `cancel_redemption` of the presented order. -/
def cancelRedemption (c : Call) : Work Tables AppException Unit := do
  reach c .redemption
  let t ← read
  if pending t c.bid then
    write (cancel · c.bid)
    commit

/-- `verify_bid_fee_payment`. -/
def verifyBidFee (auction : AuctionId) (c : Call) : Work Tables AppException Unit :=
  if c.free then pure ()
  else do
    let t ← read
    if c.bid.fee.verifies t.fees.gateway = false then
      cancelRedemption c
      check (raise "Invalid payment signature." 400)
    else
      reach c .fee
      check (checkBidFee t.fees .domain auction c.bid.bidder c.bid.fee.order c.bid.amount)
      write (complete · c.bid)
      confirmRedemption c

/-- Steps 5 and 6 of `_place_bid_locked`. -/
def storeBid (auction : AuctionId) (a : DomainRow) (c : Call) : Work Tables AppException Unit := do
  reach c .clear
  reach c .insert
  write fun t => { t with
    auctions := Function.update t.auctions auction (some (a.bidOn c.bid c.now))
    bids := Function.update t.bids auction
      (PlaceBid.clearFlags (PlaceBid.winners (t.bids auction)) (t.bids auction) ++
        [⟨(t.bids auction).length, c.bid.bidder, c.bid.amount, true⟩]) }
  reach c .consume
  check (if c.free then .error dbError else .ok ())
  write fun t => { t with fees := t.fees.consumeBidFee c.bid.fee.order }
  reach c .commit
  commit

/-- `_place_bid_locked`. -/
def placeBidLocked (auction : AuctionId) (c : Call) : Work Tables AppException Unit := do
  reach c .lock
  let t ← read
  match t.auctions auction with
  | none => check (raise "Auction not found." 404)
  | some a =>
    check (a.validateAuctionState c.guards.now)
    reach c .listing
    check (if c.guards.verified then .ok ()
      else raise "Bidding is blocked until the domain is verified by the owner." 400)
    reach c .block
    check (if c.guards.canBid then .ok ()
      else raise "Your account is blocked from bidding after an unpaid auction win." 403)
    check (a.validateBidAmount c.bid.amount)
    verifyBidFee auction c
    check (a.accept c.bid)
    storeBid auction a c

/-- `place_bid`. -/
def placeBid (c : Call) : Work Tables AppException Unit :=
  match c.auctionId with
  | none => check (raise "auction_id is required." 400)
  | some auction =>
    if c.bid.amount = 0 then check (raise "Bid amount must be positive." 400)
    else orRollback (placeBidLocked auction c)

/-! ## What must not change -/

/-- What the tables hold of one user. -/
structure Account where
  fees : List FeePayment
  redemptions : List Redemption
  edgePoints : Nat
  history : List HistoryEntry
  deriving Repr, DecidableEq

def account (t : FeeTables) (user : UserId) : Account where
  fees := t.fees.filter (·.userId = user)
  redemptions := t.wallets.redemptions.filter (·.userId = user)
  edgePoints := t.wallets.edgePoints user
  history := t.wallets.history.filter (·.userId = user)

/-- Auctions, bids and the bidder's account are as before. -/
structure Unchanged (c : Call) (t t' : Tables) : Prop where
  auctions : t'.auctions = t.auctions
  bids : t'.bids = t.bids
  account : account t'.fees c.bid.bidder = account t.fees c.bid.bidder ∨
    c.bid.fee.verifies t.fees.gateway = false ∧
      account t'.fees c.bid.bidder = account { t.fees with
        wallets := t.fees.wallets.cancelRedemption c.bid.fee.order } c.bid.bidder

/-- The confirmed fee or its redemption is the bidder's, and not yet as the confirmation leaves
it. -/
def Touched (t : FeeTables) (r : Request) : Prop :=
  (∃ row ∈ t.fees, row.userId = r.bidder ∧ row.razorpayOrderId = r.fee.order ∧
    row.complete r.fee.payment ≠ row) ∨
  ∃ q ∈ t.wallets.redemptions, q.userId = r.bidder ∧ q.orderId = r.fee.order ∧ q.status ≠ .completed

/-- The bid is refused after its fee was verified. -/
def Stopped (c : Call) (a : DomainRow) : Prop :=
  a.createdBy = c.bid.bidder ∨ ∃ p, c.fault = some p ∧ p.late = true

/-- **The call raises after a commit**: it gets past the checks and the verification of the fee, a
redemption of the order is confirmed, and the bid is refused after that. -/
structure Splits (t : Tables) (c : Call) (auction : AuctionId) (a : DomainRow) : Prop where
  auctionId : c.auctionId = some auction
  row : t.auctions auction = some a
  checked : a.validate c.bid c.guards = .ok ()
  paid : c.free = false
  genuine : c.bid.fee.verifies t.fees.gateway = true
  fee : checkBidFee t.fees .domain auction c.bid.bidder c.bid.fee.order c.bid.amount = .ok ()
  redeems : pending t c.bid = true
  touched : Touched t.fees c.bid
  undisturbed : ∀ p, c.fault = some p → p.late = true
  stopped : Stopped c a

variable {X : Tables → Prop} {c : Call} {t : Tables} {auction : AuctionId} {a : DomainRow}
  {conn : Conn Tables} {p : Point} {f : Unit → Work Tables AppException Unit}

/-! ## Statement by statement -/

theorem raising_reach :
    Raising X (reach c p >>= f) conn ↔
      (c.fault = some p → X conn.committed) ∧ (c.fault ≠ some p → Raising X (f ()) conn) :=
  raising_strike_bind

theorem raising_store : Raising X (check (a.accept c.bid) >>= fun _ => storeBid auction a c) conn ↔
    (Stopped c a ∨ c.free = true → X conn.committed) := by
  rw [raising_check_bind]
  unfold DomainRow.accept Stopped
  split_ifs with hown
  · simp [hown, raise]
  · simp only [storeBid, raising_reach, raising_write_bind, raising_check_bind]
    cases hfault : c.fault with
    | none => cases hfree : c.free <;> simp [hown]
    | some p => cases p <;> cases hfree : c.free <;> simp [hown, Point.late]

/-- The tables after the verification of a fee. -/
def confirm (t : Tables) (r : Request) : Tables := redeem (complete t r) r

theorem conn_confirm (t : Tables) (r : Request) :
    (if pending (complete t r) r then ⟨redeem (complete t r) r, redeem (complete t r) r⟩
      else ⟨t, complete t r⟩ : Conn Tables) =
      ⟨if pending t r then confirm t r else t, confirm t r⟩ := by
  have hsame : pending (complete t r) r = pending t r := rfl
  rw [hsame]
  split_ifs with hpending
  · rfl
  · have hnone : t.fees.wallets.pendingRedemption r.fee.order = none := by
      simpa [pending] using hpending
    have hwallets : t.fees.wallets.confirmRedemption r.fee.order = t.fees.wallets := by
      rw [Wallets.confirmRedemption, hnone]
    simp only [confirm, redeem, complete, FeeTables.editFee, hwallets]

theorem raising_confirmRedemption :
    Raising X (confirmRedemption c >>= f) conn ↔
      (c.fault = some .redemption → X conn.committed) ∧ (c.fault ≠ some .redemption →
        Raising X (f ()) (if pending conn.session c.bid then
          ⟨redeem conn.session c.bid, redeem conn.session c.bid⟩ else conn)) := by
  unfold confirmRedemption
  simp only [raising_assoc, raising_reach, raising_read_bind]
  refine and_congr_right fun _ => imp_congr_right fun _ => ?_
  split_ifs
  · simp only [raising_assoc, raising_write_bind, raising_commit_bind]
  · exact Iff.rfl

theorem raising_cancelRedemption {e : AppException} (hself : X t) (hcancel : X (cancel t c.bid)) :
    Raising X ((cancelRedemption c >>= fun _ => check (.error e)) >>= f) ⟨t, t⟩ := by
  unfold cancelRedemption
  simp only [raising_assoc, raising_reach, raising_read_bind]
  refine ⟨fun _ => hself, fun _ => ?_⟩
  split_ifs
  · simp only [raising_assoc, raising_write_bind, raising_commit_bind, raising_check_bind]
    exact hcancel
  · exact hself

/-- **The verification of the fee**, when what it commits on its way to an exception is in `X`. -/
theorem raising_verify (hself : X t)
    (hcancel : c.bid.fee.verifies t.fees.gateway = false → X (cancel t c.bid)) :
    Raising X (verifyBidFee auction c >>= f) ⟨t, t⟩ ↔
      (c.free = true → Raising X (f ()) ⟨t, t⟩) ∧
      (c.free = false → c.bid.fee.verifies t.fees.gateway = true →
        checkBidFee t.fees .domain auction c.bid.bidder c.bid.fee.order c.bid.amount = .ok () →
        c.fault ≠ some .fee → c.fault ≠ some .redemption →
        Raising X (f ()) ⟨if pending t c.bid then confirm t c.bid else t, confirm t c.bid⟩) := by
  unfold verifyBidFee
  by_cases hfree : c.free = true
  · rw [if_pos hfree]
    simp [hfree]
  · rw [if_neg hfree]
    simp only [raising_assoc, raising_read_bind]
    by_cases hbad : c.bid.fee.verifies t.fees.gateway = false
    · rw [if_pos hbad]
      have hraised := raising_cancelRedemption (f := f)
        (e := ⟨"Invalid payment signature.", 400⟩) hself (hcancel hbad)
      exact ⟨fun _ => ⟨fun h => absurd h hfree, fun _ h => absurd (hbad.symm.trans h) (by simp)⟩,
        fun _ => hraised⟩
    · rw [if_neg hbad]
      simp only [raising_assoc, raising_reach, raising_check_bind]
      cases hfee : checkBidFee t.fees .domain auction c.bid.bidder c.bid.fee.order c.bid.amount with
      | error e => simp [hfree, hself]
      | ok u =>
        simp only [raising_write_bind, raising_confirmRedemption]
        rw [conn_confirm]
        simp [hfree, hself, hbad]

theorem validate_iff : a.validate c.bid c.guards = .ok () ↔
    c.bid.amount ≠ 0 ∧ a.validateAuctionState c.guards.now = .ok () ∧ c.guards.verified = true ∧
      c.guards.canBid = true ∧ a.validateBidAmount c.bid.amount = .ok () := by
  simp only [DomainRow.validate, ite_raise_eq_ok, ne_eq]
  cases a.validateAuctionState c.guards.now with
  | error e => simp
  | ok u => simp [ite_raise_eq_ok]

/-- **The checks before the fee** leave the tables alone. -/
theorem raising_placeBid (hself : X t) : Raising X (placeBid c) ⟨t, t⟩ ↔
    ∀ auction, c.auctionId = some auction → ∀ a, t.auctions auction = some a →
      a.validate c.bid c.guards = .ok () →
      c.fault ≠ some .lock → c.fault ≠ some .listing → c.fault ≠ some .block →
      Raising X (verifyBidFee auction c >>= fun _ => check (a.accept c.bid) >>= fun _ =>
        storeBid auction a c) ⟨t, t⟩ := by
  simp only [validate_iff]
  unfold placeBid
  cases hid : c.auctionId with
  | none => simp [raise, hself]
  | some auction =>
    simp only [Option.some.injEq, forall_eq']
    by_cases hamount : c.bid.amount = 0
    · rw [if_pos hamount]
      simp [raise, hself, hamount]
    rw [if_neg hamount]
    simp only [raising_orRollback, placeBidLocked, raising_reach, raising_read_bind]
    cases hrow : t.auctions auction with
    | none => simp [raise, hself]
    | some a =>
      simp only [Option.some.injEq, forall_eq']
      cases hstate : a.validateAuctionState c.guards.now with
      | error e => simp [hself]
      | ok u =>
        cases hverified : c.guards.verified with
        | false => simp [raising_reach, raise, hself]
        | true =>
          cases hcan : c.guards.canBid with
          | false => simp [raising_reach, raise, hself]
          | true =>
            cases hbid : a.validateBidAmount c.bid.amount with
            | error e => simp [raising_reach, hself]
            | ok u =>
              simp [raising_reach, hself, hamount]

/-! ## The account of the bidder -/

/-- **A confirmation changes the account** of the bidder exactly if it touches a row of theirs. -/
theorem account_confirm {r : Request} (hpending : pending t r = true) :
    account (confirm t r).fees r.bidder = account t.fees r.bidder ↔ ¬ Touched t.fees r := by
  obtain ⟨q, hq⟩ := Option.isSome_iff_exists.mp hpending
  obtain ⟨hmem, horder, hstatus⟩ := pendingRedemption_eq_some hq
  have hwallets : (confirm t r).fees.wallets =
      t.fees.wallets.commitConfirm q (t.fees.wallets.edgePoints q.userId) := by
    show t.fees.wallets.confirmRedemption r.fee.order = _
    rw [Wallets.confirmRedemption, hq]
  have hfees : (confirm t r).fees.fees.filter (·.userId = r.bidder) =
      Table.update FeePayment.razorpayOrderId r.fee.order (.complete r.fee.payment)
        (t.fees.fees.filter (·.userId = r.bidder)) :=
    Table.filter_update (f := FeePayment.complete r.fee.payment) (fun _ => rfl) _
  have hredemptions : (confirm t r).fees.wallets.redemptions.filter (·.userId = r.bidder) =
      Table.update Redemption.orderId r.fee.order (.withStatus .completed)
        (t.fees.wallets.redemptions.filter (·.userId = r.bidder)) := by
    rw [hwallets, ← horder]
    exact Table.filter_update (f := Redemption.withStatus .completed) (fun _ => rfl) _
  have htouched : ¬ Touched t.fees r ↔
      (∀ row ∈ t.fees.fees.filter (·.userId = r.bidder), row.razorpayOrderId = r.fee.order →
        row.complete r.fee.payment = row) ∧
      (∀ p ∈ t.fees.wallets.redemptions.filter (·.userId = r.bidder), p.orderId = r.fee.order →
        p.withStatus .completed = p) := by
    have hstatus (p : Redemption) : p.withStatus .completed = p ↔ p.status = .completed :=
      ⟨fun h => (congrArg Redemption.status h).symm, fun h => by rw [Redemption.withStatus, ← h]⟩
    simp only [Touched, List.mem_filter, decide_eq_true_eq, hstatus]
    simp only [not_or, not_exists, not_and, not_not, and_imp]
  rw [htouched]
  constructor
  · intro h
    exact ⟨Table.update_eq_self_iff.mp (hfees.symm.trans (congrArg Account.fees h)),
      Table.update_eq_self_iff.mp (hredemptions.symm.trans (congrArg Account.redemptions h))⟩
  · rintro ⟨hrows, hredeemed⟩
    -- the redemption is another user's, or it would not be pending
    have hother : r.bidder ≠ q.userId := by
      intro heq
      have hdone := hredeemed q (List.mem_filter.mpr ⟨hmem, by simp [heq]⟩) horder
      have hcompleted : RedemptionStatus.completed = .pending :=
        (congrArg Redemption.status hdone).trans hstatus
      cases hcompleted
    simp only [account, Account.mk.injEq]
    refine ⟨hfees.trans (Table.update_eq_self_iff.mpr hrows),
      hredemptions.trans (Table.update_eq_self_iff.mpr hredeemed), ?_, ?_⟩
    · rw [hwallets]
      exact Function.update_of_ne hother _ _
    · rw [hwallets]
      exact List.filter_cons_of_neg (by simpa using hother.symm)

theorem unchanged_refl (c : Call) (t : Tables) : Unchanged c t t := ⟨rfl, rfl, .inl rfl⟩

theorem unchanged_cancel (h : c.bid.fee.verifies t.fees.gateway = false) :
    Unchanged c t (cancel t c.bid) := ⟨rfl, rfl, .inr ⟨h, rfl⟩⟩

theorem unchanged_confirm (hgenuine : c.bid.fee.verifies t.fees.gateway = true)
    (hpending : pending t c.bid = true) :
    Unchanged c t (confirm t c.bid) ↔ ¬ Touched t.fees c.bid := by
  rw [← account_confirm hpending]
  refine ⟨fun h => h.account.resolve_right ?_, fun h => ⟨rfl, rfl, .inl h⟩⟩
  rintro ⟨hbad, -⟩
  cases hgenuine.symm.trans hbad

/-! ## The exact condition -/

/-- **A rejected bid changes nothing**, unless it is rejected after a redemption was confirmed: for
any tables, request and fault, if the call raises, auctions, bids and the bidder's account are as
before, exactly if it is not the case that it gets past its checks and the verification of the fee,
confirms a redemption of the presented order and is stopped after that. -/
theorem rejected_bid_unchanged_iff (t : Tables) (c : Call) :
    ((call (placeBid c) t).result.isOk = false → Unchanged c t (call (placeBid c) t).tables) ↔
      ¬ ∃ auction a, Splits t c auction a := by
  rw [← raising_call, raising_placeBid (unchanged_refl c t)]
  simp only [raising_verify (unchanged_refl c t) unchanged_cancel, raising_store]
  constructor
  · rintro h ⟨auction, a, hsplit⟩
    have hearly (p : Point) (hp : p.late = false) : c.fault ≠ some p := fun heq =>
      absurd (hsplit.undisturbed p heq) (by simp [hp])
    have hend := (h auction hsplit.auctionId a hsplit.row hsplit.checked (hearly _ rfl)
      (hearly _ rfl) (hearly _ rfl)).2 hsplit.paid hsplit.genuine hsplit.fee (hearly _ rfl)
      (hearly _ rfl) (.inl hsplit.stopped)
    rw [if_pos hsplit.redeems] at hend
    exact (unchanged_confirm hsplit.genuine hsplit.redeems).mp hend hsplit.touched
  · intro h auction hid a hrow hchecked hlock hlisting hblock
    refine ⟨fun _ _ => unchanged_refl c t, fun hpaid hgenuine hfee hrow' hredemption hstop => ?_⟩
    split_ifs with hpending
    · refine (unchanged_confirm hgenuine hpending).mpr fun htouched => ?_
      refine h ⟨auction, a, hid, hrow, hchecked, hpaid, hgenuine, hfee, hpending, htouched, ?_, ?_⟩
      · intro p hp
        cases p <;> simp_all [Point.late]
      · exact hstop.resolve_right (by simp [hpaid])
    · exact unchanged_refl c t

/-- User 9 auctions a domain from 100 rupees, has 20 points, and has paid the fee of a bid of 120
rupees with them. -/
def ownFeePaid : Tables :=
  let fees := (createBidFeeOrder ⟨[], Wallets.empty.awardReferrerPoints 9 20, .empty⟩
    ⟨.domain, 9, 2000, true, true⟩ 0 12000).1
  { auctions := fun i => if i = 0 then some ⟨9, 10000, .active, 100000, none, none, 0⟩ else none
    bids := fun _ => []
    fees := { fees with gateway := fees.gateway.capture 0 } }

/-- User 9 bids on the auction. -/
def ownBid : Call where
  auctionId := some 0
  bid := ⟨9, 12000, ⟨0, 0, true⟩⟩
  free := false
  guards := ⟨10, true, true, none⟩
  now := 10
  fault := none

/-- **The owner of an auction bids on it**, is refused, and has the fee completed and the points
spent. -/
theorem own_bid_redeems :
    (call (placeBid ownBid) ownFeePaid).result.isOk = false ∧
      ¬ Unchanged ownBid ownFeePaid (call (placeBid ownBid) ownFeePaid).tables := by
  refine ⟨by decide, fun h => ?_⟩
  rcases h.account with haccount | ⟨hbad, -⟩
  · exact absurd haccount (by decide)
  · exact absurd hbad (by decide)

end Deltapreneur.Auction.RejectedBid
