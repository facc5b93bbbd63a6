import Deltapreneur.Marketplace.Sales

/-!
# What a sale leaves alone

The calls that issue an order or verify a payment reach Razorpay and the wallets. The rest of the
system writes listings, auctions, transactions and carts only, and so do the helpers that the
verifications share. In the same way only the calls of an auction write auctions and winner
payments.

* `createFromPayment_frame`, `storeVerified_frame`: the tables a sale writes, as an equation.
* `Untouched`: no order and no wallet changes.
* `untouched_step`: that holds of every call that is `offline`.
* `Aside`: no auction and no winner payment changes, and no transaction loses its payment.
* `aside_step`: that holds of every call that is not `ofAuction`.
* `KeepsRows`: completed auctions stay completed.
-/

namespace Deltapreneur.Marketplace

open EdgePoints Razorpay Transfer

variable {db db' db'' : Db} {listing : ListingId} {buyer : UserId} {payment : PaymentId}
  {deadline : Time} {row : Listing} {gross : Paise} {a : Auction} {p : WinnerPayment}
  {auction : AuctionId} {r : VerifyCheckoutRequest}
  {g : Transaction → Except AppException Transaction} {record : Payment} {net : RefundNetwork}
  {existing : Option RefundId} {action : ReviewAction}

/-! ## The tables a sale writes -/

theorem createFromPayment_frame
    (hok : db.createFromPayment listing row buyer payment gross deadline = .ok db') :
    db' = { db with listings := db'.listings, txs := db'.txs } := by
  rcases createFromPayment_cases hok with ⟨-, rfl⟩ | ⟨seller, -, rfl⟩
  · rfl
  · rfl

theorem ensureDomainTransfer_frame (hok : db.ensureDomainTransfer a p deadline = .ok db') :
    db' = { db with listings := db'.listings, txs := db'.txs } := by
  unfold Db.ensureDomainTransfer at hok
  split at hok
  · cases hok
    rfl
  split at hok
  · cases hok
    rfl
  split at hok
  · cases hok
    rfl
  split at hok
  · cases hok
    rfl
  · have hsold := createFromPayment_frame hok
    exact hsold

theorem storeVerified_frame {n : Nat} (hok : db.storeVerified n p a deadline = .ok db') :
    db' = { db with
      listings := db'.listings
      txs := db'.txs
      payments := db.payments.set n p
      auctions := db.auctions.modify p.auctionId fun a => { a with status := .completed } } :=
  ensureDomainTransfer_frame hok

theorem restoreAfterNoSale_frame {price : Paise} :
    db.restoreAfterNoSale listing price =
      { db with listings := (db.restoreAfterNoSale listing price).listings } := by
  unfold Db.restoreAfterNoSale
  split
  · rfl
  split
  · rfl
  split
  · split <;> rfl
  · rfl

/-- The life of an auction up to its end: it writes auctions and listings only. -/
def AuctionsOnly (db db' : Db) : Prop :=
  db' = { db with auctions := db'.auctions, listings := db'.listings }

theorem AuctionsOnly.payments (h : AuctionsOnly db db') : db'.payments = db.payments := by
  unfold AuctionsOnly at h
  rw [h]

theorem createAuction_frame (r : CreateAuctionRequest) :
    AuctionsOnly db (createAuction db r).db := by
  unfold createAuction AuctionsOnly
  split
  · rfl
  split_ifs
  all_goals rfl

theorem approveAndGoLive_frame : AuctionsOnly db (approveAndGoLive db listing).db := by
  unfold approveAndGoLive AuctionsOnly
  split
  · rfl
  split_ifs
  · rfl
  · rfl
  split
  · rfl
  · split
    all_goals rfl

theorem recordBid_frame {amount : Paise} : AuctionsOnly db (recordBid db auction buyer amount) := by
  unfold recordBid AuctionsOnly
  split
  all_goals rfl

theorem resolveAuction_frame {price : Paise} :
    AuctionsOnly db (resolveAuction db auction price).db := by
  unfold resolveAuction AuctionsOnly
  split
  · rfl
  split_ifs
  · rfl
  · rfl
  · rw [done_db, restoreAfterNoSale_frame]
    rfl

/-! ## Orders and wallets -/

/-- No order is registered or paid, and no wallet is written. -/
structure Untouched (db db' : Db) : Prop where
  gateway : db'.gateway = db.gateway
  wallets : db'.wallets = db.wallets

theorem Untouched.refl (db : Db) : Untouched db db := ⟨rfl, rfl⟩

theorem Untouched.trans (h : Untouched db db') (h' : Untouched db' db'') : Untouched db db'' :=
  ⟨h'.gateway.trans h.gateway, h'.wallets.trans h.wallets⟩

theorem AuctionsOnly.untouched (h : AuctionsOnly db db') : Untouched db db' := by
  unfold AuctionsOnly at h
  rw [h]
  exact ⟨rfl, rfl⟩

theorem untouched_createFromPayment
    (hok : db.createFromPayment listing row buyer payment gross deadline = .ok db') :
    Untouched db db' := by
  rw [createFromPayment_frame hok]
  exact ⟨rfl, rfl⟩

theorem untouched_storeVerified {n : Nat} (hok : db.storeVerified n p a deadline = .ok db') :
    Untouched db db' := by
  rw [storeVerified_frame hok]
  exact ⟨rfl, rfl⟩

theorem untouched_storeWinnerPayment {r : WinnerOrderRequest} {order : OrderId} {amount : Paise} :
    Untouched db (db.storeWinnerPayment r order amount) := by
  unfold Db.storeWinnerPayment
  split
  · exact ⟨rfl, rfl⟩
  · exact ⟨rfl, rfl⟩

theorem untouched_completeDomainPurchase : Untouched db (db.completeDomainPurchase r listing) := by
  unfold Db.completeDomainPurchase
  split
  · exact .refl db
  dsimp only
  split
  · exact ⟨rfl, rfl⟩
  split
  · next db' hok =>
    have hsold : Untouched db (db.editListing listing (.markSold r.buyer r.payment)) := ⟨rfl, rfl⟩
    exact hsold.trans (untouched_createFromPayment hok)
  · exact ⟨rfl, rfl⟩

theorem untouched_checkoutLines (r : VerifyCheckoutRequest) (lines : List ListingId) (db : Db) :
    Untouched db (lines.foldl (fun db listing => db.completeDomainPurchase r listing) db) := by
  induction lines generalizing db with
  | nil => exact .refl db
  | cons listing lines ih => exact untouched_completeDomainPurchase.trans (ih _)

theorem untouched_onTx {id : TxId} : Untouched db (db.onTx id g).db := by
  unfold Db.onTx
  split
  · exact .refl db
  · split
    · exact .refl db
    · exact ⟨rfl, rfl⟩

theorem untouched_settle {id : TxId} {tx : Transaction} : Untouched db (db.settle id tx) :=
  ⟨rfl, rfl⟩

/-- The call neither issues an order nor pays or verifies one. -/
def Label.offline : Label → Bool
  | .createAuction _ | .approveAndGoLive _ | .recordBid _ _ _ | .resolveAuction _ _
  | .addToCart _ _ _ | .refund _ _ _ _ | .syncRefund _ _ _ _ | .resolveAdminReview _ _ _
  | .party _ _ | .forceComplete _ _ | .approvePayout _ _ _ | .releasePayout _ _ => true
  | .createPurchaseOrder _ | .verifyPayment _ | .handlePaymentFailure _ | .createWinnerOrder _
  | .verifyWinnerPayment _ | .createCheckoutOrder _ | .verifyCheckoutPayment _ | .otherOrder _ _
  | .capture _ => false

theorem untouched_refundTx {id : TxId} : Untouched db (refundTx db id record net existing).db := by
  unfold refundTx
  split
  · exact .refl db
  split
  · exact .refl db
  · split_ifs
    · exact ⟨rfl, rfl⟩
    · exact untouched_settle

theorem untouched_syncRefundTx {id : TxId} {reachable : Bool} :
    Untouched db (syncRefundTx db id record reachable existing).db := by
  unfold syncRefundTx
  split
  · exact .refl db
  split
  · exact .refl db
  · split_ifs
    · exact untouched_settle
    · exact .refl db

theorem untouched_resolveAdminReviewTx {id : TxId} :
    Untouched db (resolveAdminReviewTx db id action deadline).db := by
  cases action with
  | cancel =>
    unfold resolveAdminReviewTx
    dsimp only
    split
    · exact .refl db
    · split
      · exact .refl db
      · exact untouched_settle
  | refund => exact untouched_onTx
  | extendDeadline => exact untouched_onTx

/-- **A call that is offline leaves orders and wallets alone.** -/
theorem untouched_step {l : Label} (h : l.offline = true) : Untouched db (step db l) := by
  cases l with
  | createAuction r => exact (createAuction_frame r).untouched
  | approveAndGoLive listing => exact approveAndGoLive_frame.untouched
  | recordBid auction bidder amount => exact recordBid_frame.untouched
  | resolveAuction auction price => exact resolveAuction_frame.untouched
  | addToCart buyer listing addonAmount => exact ⟨rfl, rfl⟩
  | refund id record net existing => exact untouched_refundTx
  | syncRefund id record reachable existing => exact untouched_syncRefundTx
  | resolveAdminReview id action deadline => exact untouched_resolveAdminReviewTx
  | party id c => exact untouched_onTx
  | forceComplete id reason => exact untouched_onTx
  | approvePayout id profile now => exact untouched_onTx
  | releasePayout id profile => exact untouched_onTx
  | _ => exact absurd h (by simp [Label.offline])

/-! ## Sales apart from auctions -/

/-- A transaction of the payment exists. -/
def Db.recorded (db : Db) (payment : PaymentId) : Prop :=
  ∃ tx ∈ db.txs, tx.razorpayPaymentId = some payment

theorem recorded_iff : (db.txByPayment payment).isSome = true ↔ db.recorded payment := by
  simp [Db.txByPayment, Db.recorded]

/-- No auction and no winner payment is written, and recorded payments stay recorded. -/
structure Aside (db db' : Db) : Prop where
  auctions : db'.auctions = db.auctions
  payments : db'.payments = db.payments
  recorded : ∀ payment, db.recorded payment → db'.recorded payment

theorem Aside.of_eq (ha : db'.auctions = db.auctions) (hp : db'.payments = db.payments)
    (ht : db'.txs = db.txs) : Aside db db' :=
  ⟨ha, hp, fun payment h => by unfold Db.recorded at h ⊢; rwa [ht]⟩

theorem Aside.refl (db : Db) : Aside db db := .of_eq rfl rfl rfl

theorem Aside.trans (h : Aside db db') (h' : Aside db' db'') : Aside db db'' :=
  ⟨h'.auctions.trans h.auctions, h'.payments.trans h.payments,
    fun payment hrec => h'.recorded payment (h.recorded payment hrec)⟩

theorem aside_createFromPayment
    (hok : db.createFromPayment listing row buyer payment gross deadline = .ok db') :
    Aside db db' := by
  rcases createFromPayment_cases hok with ⟨-, rfl⟩ | ⟨seller, -, rfl⟩
  · exact .refl _
  · refine ⟨rfl, rfl, fun payment ⟨tx, hmem, hpay⟩ => ⟨tx, ?_, hpay⟩⟩
    exact List.mem_append_left _ hmem

theorem aside_setTx {id : TxId} {tx tx' : Transaction} (hget : db.txs[id]? = some tx)
    (hpay : tx'.razorpayPaymentId = tx.razorpayPaymentId) :
    Aside db { db with txs := db.txs.set id tx' } := by
  refine ⟨rfl, rfl, fun payment ⟨old, hmem, hold⟩ => ?_⟩
  obtain ⟨j, hj⟩ := List.mem_iff_getElem?.mp hmem
  by_cases hij : id = j
  · subst hij
    cases hget.symm.trans hj
    have hlt : id < db.txs.length := (List.getElem?_eq_some_iff.mp hget).1
    exact ⟨tx', List.mem_of_getElem? (List.getElem?_set_self hlt), hpay.trans hold⟩
  · refine ⟨old, List.mem_of_getElem? (i := j) ?_, hold⟩
    rwa [List.getElem?_set_ne hij]

theorem aside_onTx {id : TxId}
    (hg : ∀ tx tx', g tx = .ok tx' → tx'.razorpayPaymentId = tx.razorpayPaymentId) :
    Aside db (db.onTx id g).db := by
  unfold Db.onTx
  split
  · exact .refl db
  next tx htx =>
  split
  · exact .refl db
  · next tx' hok => exact aside_setTx htx (hg tx tx' hok)

theorem aside_settle {id : TxId} {tx tx' : Transaction} (hget : db.txs[id]? = some tx)
    (hpay : tx'.razorpayPaymentId = tx.razorpayPaymentId) : Aside db (db.settle id tx') :=
  (aside_setTx hget hpay).trans (.of_eq rfl rfl rfl)

theorem aside_completeSale {r : VerifyRequest} : Aside db (db.completeSale r row).db := by
  have hback : Aside db (db.afterRollback r) := by
    unfold Db.afterRollback
    split_ifs
    · exact .of_eq rfl rfl rfl
    · exact .refl db
  unfold Db.completeSale
  split
  · exact hback
  · next db' hok =>
    have hsell : Aside db (db.sell r) := .of_eq rfl rfl rfl
    split_ifs
    · exact hsell.trans (aside_createFromPayment hok)
    · exact hback

theorem aside_verifyPayment (r : VerifyRequest) : Aside db (verifyPayment db r).db := by
  unfold verifyPayment
  split
  · exact .refl db
  split
  · exact .refl db
  split
  · exact .refl db
  split
  · exact .of_eq rfl rfl rfl
  · exact aside_completeSale

theorem aside_createPurchaseOrder (r : PurchaseRequest) :
    Aside db (createPurchaseOrder db r).db := by
  unfold createPurchaseOrder Db.holdListing
  repeat' split
  all_goals exact .of_eq rfl rfl rfl

theorem aside_createCheckoutOrder (r : CheckoutRequest) :
    Aside db (createCheckoutOrder db r).db := by
  unfold createCheckoutOrder
  dsimp only
  split_ifs
  all_goals first
    | exact .of_eq rfl rfl rfl
    | split <;> exact .of_eq rfl rfl rfl

theorem aside_completeDomainPurchase : Aside db (db.completeDomainPurchase r listing) := by
  unfold Db.completeDomainPurchase
  split
  · exact .refl db
  dsimp only
  have hsold : Aside db (db.editListing listing (.markSold r.buyer r.payment)) :=
    .of_eq rfl rfl rfl
  split
  · exact hsold
  split
  · next db' hok => exact hsold.trans (aside_createFromPayment hok)
  · exact hsold

theorem aside_checkoutLines (r : VerifyCheckoutRequest) (lines : List ListingId) (db : Db) :
    Aside db (lines.foldl (fun db listing => db.completeDomainPurchase r listing) db) := by
  induction lines generalizing db with
  | nil => exact .refl db
  | cons listing lines ih => exact aside_completeDomainPurchase.trans (ih _)

theorem aside_verifyCheckoutPayment (r : VerifyCheckoutRequest) :
    Aside db (verifyCheckoutPayment db r).db := by
  unfold verifyCheckoutPayment
  dsimp only
  split_ifs
  · exact .of_eq rfl rfl rfl
  · exact .of_eq rfl rfl rfl
  · exact .refl db
  · have hconfirmed : Aside db { db with wallets := db.wallets.confirmRedemption r.order } :=
      .of_eq rfl rfl rfl
    have hlines := aside_checkoutLines r
      ((db.checkoutLines r.buyer r.order).map CartLine.productId)
      { db with wallets := db.wallets.confirmRedemption r.order }
    exact (hconfirmed.trans hlines).trans (.of_eq rfl rfl rfl)

section Transfers

variable {tx tx' : Transaction} {id : TxId}

theorem PartyCall.run_payment {c : PartyCall} (h : c.run tx = .ok tx') :
    tx'.razorpayPaymentId = tx.razorpayPaymentId := by
  cases c with
  | verifyRevealOtp buyer otp =>
    simp only [PartyCall.run, Transfer.verifyRevealOtp, ite_raise_eq_ok] at h
    obtain ⟨-, -, h⟩ := h
    cases otp with
    | error e => cases h
    | ok u =>
      dsimp only at h
      split_ifs at h
      · exact Except.ok.inj h ▸ rfl
      · exact Except.ok.inj h ▸ rfl
  | submitAuthCode seller code =>
    simp only [PartyCall.run, Transfer.submitAuthCode, ite_raise_eq_ok, Except.ok.injEq] at h
    obtain ⟨-, -, -, rfl⟩ := h
    rfl
  | _ =>
    simp only [PartyCall.run, Transfer.chooseSelfTransfer, Transfer.requestAssistance,
      Transfer.markTransferStarted, Transfer.confirmTransfer, buyerStep, ite_raise_eq_ok,
      Except.ok.injEq] at h
    obtain ⟨-, -, rfl⟩ := h
    rfl

theorem resolveAdminReview_payment (h : Transfer.resolveAdminReview tx action deadline = .ok tx') :
    tx'.razorpayPaymentId = tx.razorpayPaymentId := by
  cases action with
  | cancel =>
    simp only [Transfer.resolveAdminReview, ite_raise_eq_ok, Except.ok.injEq] at h
    obtain ⟨-, rfl⟩ := h
    rfl
  | refund =>
    simp only [Transfer.resolveAdminReview, ite_raise_eq_ok, Except.ok.injEq] at h
    obtain ⟨-, -, rfl⟩ := h
    rfl
  | extendDeadline =>
    simp only [Transfer.resolveAdminReview, ite_raise_eq_ok, Except.ok.injEq] at h
    obtain ⟨-, rfl⟩ := h
    rfl

theorem aside_resolveAdminReviewTx : Aside db (resolveAdminReviewTx db id action deadline).db := by
  cases action with
  | cancel =>
    simp only [resolveAdminReviewTx]
    split
    · exact .refl db
    next tx htx =>
    split
    · exact .refl db
    · next tx' hok => exact aside_settle htx (resolveAdminReview_payment hok)
  | refund => exact aside_onTx fun tx tx' hok => resolveAdminReview_payment hok
  | extendDeadline => exact aside_onTx fun tx tx' hok => resolveAdminReview_payment hok

theorem aside_refundTx : Aside db (refundTx db id record net existing).db := by
  unfold refundTx
  split
  · exact .refl db
  next tx htx =>
  split
  · exact .refl db
  next tx' hok =>
  have hpay : tx'.razorpayPaymentId = tx.razorpayPaymentId := by
    have hdoes := refund_does tx record net existing
    generalize Transfer.refund tx record net existing = o at hdoes hok
    cases hdoes with
    | already id p hr => exact Except.ok.inj hok ▸ rfl
    | refused e p => cases hok
    | lost e p _ _ => cases hok
    | done id p issued hheld => exact Except.ok.inj hok ▸ rfl
  split_ifs
  · exact aside_setTx htx hpay
  · exact aside_settle htx hpay

theorem aside_syncRefundTx {reachable : Bool} :
    Aside db (syncRefundTx db id record reachable existing).db := by
  unfold syncRefundTx
  split
  · exact .refl db
  next tx htx =>
  split
  · exact .refl db
  next tx' hok =>
  have hpay : tx'.razorpayPaymentId = tx.razorpayPaymentId := by
    unfold Transfer.syncRefundFromRazorpay at hok
    split_ifs at hok
    all_goals first
      | exact absurd hok raise_ne_ok
      | exact Except.ok.inj hok ▸ rfl
  split_ifs
  · exact aside_settle htx hpay
  · exact .refl db

end Transfers

/-- The call belongs to an auction: to its life or to the payment of its winner. -/
def Label.ofAuction : Label → Bool
  | .createAuction _ | .approveAndGoLive _ | .recordBid _ _ _ | .resolveAuction _ _
  | .createWinnerOrder _ | .verifyWinnerPayment _ => true
  | _ => false

/-- **Every other call leaves auctions and their payments aside.** -/
theorem aside_step {l : Label} (h : l.ofAuction = false) : Aside db (step db l) := by
  cases l with
  | createPurchaseOrder r => exact aside_createPurchaseOrder r
  | verifyPayment r => exact aside_verifyPayment r
  | handlePaymentFailure listing =>
    simp only [step, call, handlePaymentFailure]
    split <;> exact .of_eq rfl rfl rfl
  | addToCart buyer listing addonAmount => exact .of_eq rfl rfl rfl
  | createCheckoutOrder r => exact aside_createCheckoutOrder r
  | verifyCheckoutPayment r => exact aside_verifyCheckoutPayment r
  | refund id record net existing => exact aside_refundTx
  | syncRefund id record reachable existing => exact aside_syncRefundTx
  | resolveAdminReview id action deadline => exact aside_resolveAdminReviewTx
  | party id c => exact aside_onTx fun tx tx' hok => PartyCall.run_payment hok
  | forceComplete id reason =>
    refine aside_onTx fun tx tx' hok => ?_
    simp only [Transfer.forceComplete, ite_raise_eq_ok, Except.ok.injEq] at hok
    obtain ⟨-, -, rfl⟩ := hok
    rfl
  | approvePayout id profile now =>
    refine aside_onTx fun tx tx' hok => ?_
    obtain ⟨-, -, rfl⟩ := approvePayout_ok hok
    rfl
  | releasePayout id profile =>
    refine aside_onTx fun tx tx' hok => ?_
    obtain ⟨-, -, rfl⟩ := releasePayout_ok hok
    rfl
  | otherOrder user amount =>
    simp only [step, call]
    split <;> exact .of_eq rfl rfl rfl
  | capture order => exact .of_eq rfl rfl rfl
  | _ => exact absurd h (by simp [Label.ofAuction])

/-! ## Auctions that are completed -/

/-- Every completed row of a table stays completed. -/
def KeepsRows {ρ : Type} (st : ρ → AuctionStatus) (rows rows' : List ρ) : Prop :=
  ∀ i : Nat, (rows[i]?).map st = some .completed → (rows'[i]?).map st = some .completed

section KeepsRows

variable {ρ : Type} {st : ρ → AuctionStatus} {rows rows' rows'' : List ρ}

theorem KeepsRows.refl (rows : List ρ) : KeepsRows st rows rows := fun _ h => h

theorem KeepsRows.of_eq (h : rows' = rows) : KeepsRows st rows rows' := by
  rw [h]
  exact .refl rows

theorem KeepsRows.trans (h : KeepsRows st rows rows') (h' : KeepsRows st rows' rows'') :
    KeepsRows st rows rows'' := fun i hi => h' i (h i hi)

theorem KeepsRows.modify {j : Nat} {f : ρ → ρ} (hrows : rows' = rows.modify j f)
    (hf : ∀ a, rows[j]? = some a → st a = .completed → st (f a) = .completed) :
    KeepsRows st rows rows' := by
  intro i hi
  obtain ⟨a, ha, hst⟩ := Option.map_eq_some_iff.mp hi
  rw [hrows, List.getElem?_modify, ha]
  by_cases hij : j = i
  · subst hij
    simp [hf a ha hst]
  · simp [hij, hst]

theorem KeepsRows.modify_open {j : Nat} {f : ρ → ρ} {a : ρ} (hrows : rows' = rows.modify j f)
    (hget : rows[j]? = some a) (hopen : st a ≠ .completed) : KeepsRows st rows rows' := by
  refine .modify hrows fun a' hget' hst => ?_
  cases hget.symm.trans hget'
  exact absurd hst hopen

theorem KeepsRows.append (new : List ρ) : KeepsRows st rows (rows ++ new) := by
  intro i hi
  obtain ⟨a, ha, hst⟩ := Option.map_eq_some_iff.mp hi
  have hlt : i < rows.length := (List.getElem?_eq_some_iff.mp ha).1
  rw [List.getElem?_append_left hlt, ha]
  exact congrArg some hst

end KeepsRows

theorem keepsRows_createAuction (m : Db) (r : CreateAuctionRequest) :
    KeepsRows Auction.status m.auctions (createAuction m r).db.auctions := by
  unfold createAuction
  split
  · exact .refl _
  split_ifs
  all_goals first
    | exact .refl _
    | exact .append _

/-- An approval sets the latest auction of the listing live, from `DRAFT` or `CANCELLED`. -/
theorem approveAndGoLive_auctions (m : Db) (listing : ListingId) :
    (approveAndGoLive m listing).db.auctions = m.auctions ∨
      ∃ i a, m.latestAuction listing = some i ∧ m.auctions[i]? = some a ∧
        (a.status = .draft ∨ a.status = .cancelled) ∧
        (approveAndGoLive m listing).db.auctions =
          m.auctions.modify i fun a => { a with status := .active } := by
  unfold approveAndGoLive
  split
  · exact .inl rfl
  split_ifs
  · exact .inl rfl
  · exact .inl rfl
  split
  · exact .inl rfl
  next i hi =>
  split
  · next hst =>
    obtain ⟨a, ha, hst⟩ := Option.map_eq_some_iff.mp hst
    exact .inr ⟨i, a, hi, ha, .inl hst, rfl⟩
  · next hst =>
    obtain ⟨a, ha, hst⟩ := Option.map_eq_some_iff.mp hst
    exact .inr ⟨i, a, hi, ha, .inr hst, rfl⟩
  all_goals exact .inl rfl

theorem keepsRows_approveAndGoLive (m : Db) (listing : ListingId) :
    KeepsRows Auction.status m.auctions (approveAndGoLive m listing).db.auctions := by
  rcases approveAndGoLive_auctions m listing with h | ⟨i, a, -, ha, hst, h⟩
  · exact .of_eq h
  · refine .modify_open h ha fun hdone => ?_
    rw [hdone] at hst
    exact absurd hst (by decide)

theorem keepsRows_recordBid (m : Db) (auction : AuctionId) (bidder : UserId) (amount : Paise) :
    KeepsRows Auction.status m.auctions (recordBid m auction bidder amount).auctions := by
  unfold recordBid
  split
  · exact .modify rfl fun _ _ h => h
  · exact .modify rfl fun _ _ h => h
  · exact .refl _

theorem keepsRows_resolveAuction (m : Db) (auction : AuctionId) (price : Paise) :
    KeepsRows Auction.status m.auctions (resolveAuction m auction price).db.auctions := by
  unfold resolveAuction
  split
  · exact .refl _
  · next b hb =>
    split
    · exact .refl _
    · next hopen =>
      have hst : b.status ≠ .completed := by
        intro hst
        rw [hst] at hopen
        exact hopen rfl
      split
      · exact .modify_open rfl hb hst
      · exact .modify_open (congrArg Db.auctions restoreAfterNoSale_frame) hb hst

theorem createWinnerOrder_auctions (m : Db) (r : WinnerOrderRequest) :
    (createWinnerOrder m r).db.auctions = m.auctions := by
  unfold createWinnerOrder Db.issueWinnerOrder Db.storeWinnerPayment
  dsimp only
  repeat' split
  all_goals rfl

theorem verifyWinnerPayment_auctions (m : Db) (r : VerifyWinnerRequest) :
    (verifyWinnerPayment m r).db.auctions = m.auctions ∨
      ∃ i, (verifyWinnerPayment m r).db.auctions =
        m.auctions.modify i fun a => { a with status := .completed } := by
  have hstored : ∀ {n : Nat} {p : WinnerPayment} {a : Auction} {m' : Db},
      m.storeVerified n p a r.deadline = .ok m' → m'.auctions =
        m.auctions.modify p.auctionId fun a => { a with status := .completed } :=
    fun hok => congrArg Db.auctions (storeVerified_frame hok)
  unfold verifyWinnerPayment
  dsimp only
  repeat' split
  all_goals first
    | exact .inl rfl
    | next hok =>
      have hrows := hstored hok
      exact .inr ⟨_, hrows⟩

end Deltapreneur.Marketplace
