import Deltapreneur.EdgePoints.Ledger
import Deltapreneur.Marketplace.Frame

/-!
# Points in domain sales

What the calls of `Marketplace/Sales.lean` do to the wallets.

* `cancels`: a call may cancel the pending redemption of an order.
* `accepts`: a call ends with the order accepted as paid. A replay of a payment that is recorded
  already answers with the recorded sale, whatever order is presented, and accepts nothing.
* `skips`: the branch of `verify_winner_payment` (`auction_payment_service.py:201-212`) that
  accepts a payment of an auction completed meanwhile. It does not call `confirm_redemption`.

Results:

* `market_wallets`: every call is a wallet step that cancels what `cancels` says.
* `market_accepts`: an accepting call confirms the order's redemption, unless it skips that.
-/

namespace Deltapreneur.Marketplace

open EdgePoints Transfer

variable {db db' : Db} {o : OrderId}

/-! ## Cancelling, accepting, skipping -/

/-- `verify_payment` gets as far as the signature. -/
def Db.reachesSignature (db : Db) (r : VerifyRequest) : Bool :=
  !(db.txByPayment r.payment).isSome &&
    (db.listings r.listing).any fun l => !(l.heldByOther r.buyer : Bool)

/-- The payment row that `verify_winner_payment` finds, with its auction, when it is the user's and
not paid yet. -/
def Db.openWinnerPayment (db : Db) (r : VerifyWinnerRequest) : Option Auction :=
  match (db.payments.findIdx? fun p => p.razorpayOrderId = r.order).bind (db.payments[·]?) with
  | none => none
  | some p =>
    if p.userId ≠ r.user ∨ p.paymentStatus = .success then none else db.auctions[p.auctionId]?

/-- The call cancels the redemption of `o` if it is pending. -/
def Label.cancels (db : Db) (o : OrderId) : Label → Bool
  | .verifyPayment r =>
    r.order = o && db.reachesSignature r &&
      !db.gateway.verifyPaymentSignature r.order r.payment r.genuine
  | .handlePaymentFailure listing =>
    (db.listings listing).any fun l => l.razorpayOrderId = some o
  | .verifyWinnerPayment r =>
    r.order = o && (db.openWinnerPayment r).isSome &&
      !db.gateway.verifyPaymentSignature r.order r.payment r.genuine
  | .verifyCheckoutPayment r => r.order = o && !db.acceptsCheckout r
  | _ => false

/-- The call accepts `o` as paid. -/
def Label.accepts (db : Db) (o : OrderId) : Label → Bool
  | .verifyPayment r =>
    r.order = o && (Marketplace.verifyPayment db r).result.isOk && !(db.txByPayment r.payment).isSome
  | .verifyWinnerPayment r => r.order = o && (Marketplace.verifyWinnerPayment db r).result.isOk
  | .verifyCheckoutPayment r =>
    r.order = o && (Marketplace.verifyCheckoutPayment db r).result.isOk &&
      !(db.checkoutLines r.buyer r.order).isEmpty
  | _ => false

/-- The call accepts `o` for an auction that is completed already. -/
def Label.skips (db : Db) (o : OrderId) : Label → Bool
  | .verifyWinnerPayment r =>
    r.order = o && (db.openWinnerPayment r).any fun a => a.status = .completed
  | _ => false

/-! ## Steps of the wallets -/

variable {cancels : OrderId → Prop}

theorem createPurchaseOrder_wallets (r : PurchaseRequest) :
    WalletStep cancels db.wallets (createPurchaseOrder db r).db.wallets := by
  have havail : ∀ l, (r.charge db.wallets l).2 ≤
      db.wallets.edgePoints r.buyer - db.wallets.pending r.buyer := by
    intro l
    unfold PurchaseRequest.charge
    split
    · exact Nat.zero_le _
    · exact calculateRedemption_le_available _ _ _ _
  unfold createPurchaseOrder
  split
  · exact .same
  next l hget =>
  split_ifs
  all_goals try exact .same
  unfold Db.holdListing
  split
  · split_ifs <;> exact .same
  · exact .reserve _ _ _ (havail l)

/-- The sale branch of `verify_payment`: confirmed, or nothing. -/
theorem completeSale_wallets {r : VerifyRequest} {l : Listing} :
    ((db.completeSale r l).db.wallets = db.wallets.confirmRedemption r.order) ∨
      ((db.completeSale r l).result.isOk = false ∧ (db.completeSale r l).db.wallets = db.wallets) := by
  have hback : (db.afterRollback r).wallets = db.wallets.confirmRedemption r.order ∨
      (db.afterRollback r).wallets = db.wallets := by
    unfold Db.afterRollback
    split_ifs
    · exact .inl rfl
    · exact .inr rfl
  unfold Db.completeSale
  split
  · exact hback.imp_right fun h => ⟨rfl, h⟩
  next db' hok =>
  have hsold : db'.wallets = db.wallets.confirmRedemption r.order :=
    (untouched_createFromPayment hok).wallets
  split
  · exact .inl hsold
  · exact hback.imp_right fun h => ⟨rfl, h⟩

theorem verifyPayment_wallets (r : VerifyRequest) :
    WalletStep (fun o => Label.cancels db o (.verifyPayment r) = true) db.wallets
      (verifyPayment db r).db.wallets := by
  unfold verifyPayment
  split
  · exact .same
  next hrec =>
  split
  · exact .same
  next l hget =>
  split
  · exact .same
  next hother =>
  split
  · next hsig =>
    exact .cancel r.order (by simp [Label.cancels, Db.reachesSignature, hrec, hget, hother, hsig])
  · rcases @completeSale_wallets db r l with h | ⟨-, h⟩
    · exact .of_confirm h
    · exact .of_eq h

theorem handlePaymentFailure_wallets (listing : ListingId) :
    WalletStep (fun o => Label.cancels db o (.handlePaymentFailure listing) = true) db.wallets
      (handlePaymentFailure db listing).db.wallets := by
  unfold handlePaymentFailure
  split
  · exact .same
  next l hget =>
  cases hord : l.razorpayOrderId with
  | none => exact .same
  | some order => exact .cancel order (by simp [Label.cancels, hget, hord])

theorem createWinnerOrder_wallets (r : WinnerOrderRequest) :
    WalletStep cancels db.wallets (createWinnerOrder db r).db.wallets := by
  unfold createWinnerOrder
  split
  · exact .same
  split_ifs
  all_goals try exact .same
  split
  · exact .same
  split_ifs
  · exact .same
  unfold Db.issueWinnerOrder
  dsimp only
  split
  · exact .same
  · rw [done_db, untouched_storeWinnerPayment.wallets]
    exact .reserve _ _ _ (calculateRedemption_le_available _ _ _ _)

/-- Everything `verify_winner_payment` does to the wallets: nothing, when it raises; a cancellation
for a bad signature; a confirmation; or nothing, for an auction that is completed already. -/
theorem verifyWinnerPayment_wallets_cases (r : VerifyWinnerRequest) :
    ((verifyWinnerPayment db r).result.isOk = false ∧
        (verifyWinnerPayment db r).db.wallets = db.wallets) ∨
      ((verifyWinnerPayment db r).result.isOk = false ∧
        Label.cancels db r.order (.verifyWinnerPayment r) = true ∧
        (verifyWinnerPayment db r).db.wallets = db.wallets.cancelRedemption r.order) ∨
      (verifyWinnerPayment db r).db.wallets = db.wallets.confirmRedemption r.order ∨
      (Label.skips db r.order (.verifyWinnerPayment r) = true ∧
        (verifyWinnerPayment db r).db.wallets = db.wallets) := by
  unfold verifyWinnerPayment
  split
  · exact .inl ⟨rfl, rfl⟩
  next n hn =>
  split
  · exact .inl ⟨rfl, rfl⟩
  next p hp =>
  split
  · exact .inl ⟨rfl, rfl⟩
  next huser =>
  split
  · exact .inl ⟨rfl, rfl⟩
  next a ha =>
  split
  · split
    · exact .inl ⟨rfl, rfl⟩
    · next db' hok =>
      have hsame := (untouched_storeVerified hok).wallets
      refine .inr (.inr (.inl ?_))
      rw [done_db, hsame]
  next hsucc =>
  have hopen : db.openWinnerPayment r = some a := by
    simp only [Db.openWinnerPayment, hn, Option.bind_some, hp, ha]
    rw [if_neg (by rintro (h | h); exacts [huser h, hsucc h])]
  split
  · next hsig =>
    refine .inr (.inl ⟨rfl, ?_, rfl⟩)
    simp [Label.cancels, hopen, hsig]
  dsimp only
  split_ifs with hdone
  · split
    · exact .inl ⟨rfl, rfl⟩
    · next db' hok =>
      refine .inr (.inr (.inr ⟨by simp [Label.skips, hopen, hdone], ?_⟩))
      exact (untouched_storeVerified hok).wallets
  · exact .inl ⟨rfl, rfl⟩
  · exact .inl ⟨rfl, rfl⟩
  · split
    · exact .inl ⟨rfl, rfl⟩
    · next db' hok =>
      have hsame := (untouched_storeVerified hok).wallets
      refine .inr (.inr (.inl ?_))
      rw [done_db, hsame]

theorem createCheckoutOrder_wallets (r : CheckoutRequest) :
    WalletStep cancels db.wallets (createCheckoutOrder db r).db.wallets := by
  unfold createCheckoutOrder
  dsimp only
  split
  · exact .same
  split
  · exact .same
  split
  · exact .same
  split
  · exact .same
  split
  · exact .same
  · refine .reserve _ _ _ ?_
    split
    · exact Nat.zero_le _
    · exact calculateRedemption_le_available _ _ _ _

theorem verifyCheckoutPayment_wallets (r : VerifyCheckoutRequest) :
    WalletStep (fun o => Label.cancels db o (.verifyCheckoutPayment r) = true) db.wallets
      (verifyCheckoutPayment db r).db.wallets := by
  unfold verifyCheckoutPayment
  dsimp only
  split_ifs with hsig hown hempty
  · exact .cancel r.order (by simp [Label.cancels, Db.acceptsCheckout, hsig])
  · exact .cancel r.order (by simp [Label.cancels, Db.acceptsCheckout, hown])
  · exact .same
  · exact .of_confirm (untouched_checkoutLines r _ _).wallets

/-- **Every call is a wallet step.** -/
theorem market_wallets (l : Label) :
    WalletStep (fun o => l.cancels db o = true) db.wallets (step db l).wallets := by
  cases l with
  | createPurchaseOrder r => exact createPurchaseOrder_wallets r
  | verifyPayment r => exact verifyPayment_wallets r
  | handlePaymentFailure listing => exact handlePaymentFailure_wallets listing
  | createWinnerOrder r => exact createWinnerOrder_wallets r
  | verifyWinnerPayment r =>
    rcases @verifyWinnerPayment_wallets_cases db r with ⟨-, h⟩ | ⟨-, hc, h⟩ | h | ⟨-, h⟩
    · exact .of_eq h
    · have hstep : (step db (.verifyWinnerPayment r)).wallets =
          db.wallets.cancelRedemption r.order := h
      rw [hstep]
      exact .cancel r.order hc
    · exact .of_confirm h
    · exact .of_eq h
  | createCheckoutOrder r => exact createCheckoutOrder_wallets r
  | verifyCheckoutPayment r => exact verifyCheckoutPayment_wallets r
  | otherOrder user amount =>
    refine .of_eq ?_
    simp only [step, call]
    split <;> rfl
  | capture order => exact .same
  | _ => exact .of_eq (untouched_step rfl).wallets

/-! ## Acceptance -/

theorem verifyPayment_accepts {r : VerifyRequest}
    (hok : (verifyPayment db r).result.isOk = true)
    (hnew : (db.txByPayment r.payment).isSome = false) :
    (verifyPayment db r).db.wallets = db.wallets.confirmRedemption r.order := by
  unfold verifyPayment at hok ⊢
  rw [if_neg (by simp [hnew])] at hok ⊢
  cases hget : db.listings r.listing with
  | none => simp [hget, Db.fail, raise, Except.isOk, Except.toBool] at hok
  | some l =>
    simp only [hget] at hok ⊢
    split_ifs at hok ⊢
    · simp [Db.fail, raise, Except.isOk, Except.toBool] at hok
    · simp [Db.fail, raise, Except.isOk, Except.toBool] at hok
    · rcases @completeSale_wallets db r l with h | ⟨hno, -⟩
      · exact h
      · cases hok.symm.trans hno

theorem verifyCheckoutPayment_accepts {r : VerifyCheckoutRequest}
    (hok : (verifyCheckoutPayment db r).result.isOk = true)
    (hlines : db.checkoutLines r.buyer r.order ≠ []) :
    (verifyCheckoutPayment db r).db.wallets = db.wallets.confirmRedemption r.order := by
  unfold verifyCheckoutPayment at hok ⊢
  dsimp only at hok ⊢
  split_ifs at hok ⊢
  · simp [Db.fail, raise, Except.isOk, Except.toBool] at hok
  · simp [Db.fail, raise, Except.isOk, Except.toBool] at hok
  · exact (untouched_checkoutLines r _ _).wallets

/-- **An accepting call confirms the redemption of its order**, unless it skips that. -/
theorem market_accepts {l : Label} (h : l.accepts db o = true) :
    (step db l).wallets = db.wallets.confirmRedemption o ∨
      (l.skips db o = true ∧ (step db l).wallets = db.wallets) := by
  cases l with
  | verifyPayment r =>
    simp only [Label.accepts, Bool.and_eq_true, decide_eq_true_eq, Bool.not_eq_true'] at h
    obtain ⟨⟨rfl, hok⟩, hnew⟩ := h
    exact .inl (verifyPayment_accepts hok hnew)
  | verifyWinnerPayment r =>
    simp only [Label.accepts, Bool.and_eq_true, decide_eq_true_eq] at h
    obtain ⟨rfl, hok⟩ := h
    rcases @verifyWinnerPayment_wallets_cases db r with ⟨hno, -⟩ | ⟨hno, -⟩ | hw | hskip
    · cases hok.symm.trans hno
    · cases hok.symm.trans hno
    · exact .inl hw
    · exact .inr hskip
  | verifyCheckoutPayment r =>
    simp only [Label.accepts, Bool.and_eq_true, decide_eq_true_eq, Bool.not_eq_true'] at h
    obtain ⟨⟨rfl, hok⟩, hlines⟩ := h
    exact .inl (verifyCheckoutPayment_accepts hok (by simpa using hlines))
  | _ => cases h

end Deltapreneur.Marketplace
