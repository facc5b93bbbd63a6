import Deltapreneur.Discount.Market
import Deltapreneur.Discount.Auctions
import Deltapreneur.Services

/-!
# A points discount is paid for exactly once

The marketplace, the winner payments and the auction fees, which take orders with a discount, on one
database (`Services.lean`).

Three things make an order with a discount be accepted without the points being debited:

* an attempt with an invalid signature, by anybody, cancels the redemption for good
  (`cancel_redemption` is called with the order id alone), and later attempts find nothing to
  confirm;
* `verify_bid_fee_sync` and the community's `verify_winner_payment` never confirm;
* `verify_winner_payment` of a domain auction that is completed already does not confirm.

Results:

* `ledger_exec`, `books_in_order`, `kept_exec`: the books along a run, and the order's redemption
  along an honest one.
* `discount_paid_once`: in every run without the three, an accepted order is debited, exactly
  once.
* `bad_signature_waives_debit`: the first of the three, on a run.
-/

namespace Deltapreneur.Services

open EdgePoints Marketplace Auction

/-! ## Calls and one order -/

/-- The call cancels the redemption of `o` if it is pending. -/
def Label.cancels (db : Db) (o : OrderId) : Label → Bool
  | .market l => l.cancels db.market o
  | .auction l => l.cancels db.auctions o
  | .domainBid r => r.fee.order = o && !r.fee.verifies db.market.gateway

/-- The call accepts `o` as paid. -/
def Label.accepts (db : Db) (o : OrderId) : Label → Bool
  | .market l => l.accepts db.market o
  | .auction l => l.accepts db.auctions o
  | .domainBid r => r.fee.order = o && (domainBidFee db.feeTables r).2.isOk

/-- The call accepts `o` without confirming its redemption. -/
def Label.skips (db : Db) (o : OrderId) : Label → Bool
  | .market l => l.skips db.market o
  | .auction l => l.skips db.auctions o
  | .domainBid _ => false

/-- The condition on a call: it neither cancels nor skips the redemption of `o` while that is
pending. -/
def Honest (o : OrderId) (db : Db) (l : Label) : Prop :=
  (db.wallets.pendingRedemption o).isSome = true →
    l.cancels db o = false ∧ l.skips db o = false

instance (o : OrderId) (db : Db) (l : Label) : Decidable (Honest o db l) :=
  inferInstanceAs (Decidable (_ → _))

/-! ## Runs -/

variable {db : Db} {o : OrderId} {l : Label} {ls : List Label}

theorem domainBidFee_cases {t : FeeTables} (r : DomainBid) :
    ((domainBidFee t r).2.isOk = false ∧ (domainBidFee t r).1.wallets = t.wallets) ∨
      ((domainBidFee t r).2.isOk = false ∧ r.fee.verifies t.gateway = false ∧
        (domainBidFee t r).1.wallets = t.wallets.cancelRedemption r.fee.order) ∨
      (domainBidFee t r).1.wallets = t.wallets.confirmRedemption r.fee.order := by
  unfold domainBidFee
  dsimp only
  rcases @verifyBidFeePayment_cases t .domain r.auction r.bidder r.fee r.amount with
    ⟨hno, hsig, hw⟩ | ⟨hno, hw⟩ | ⟨hyes, hses, hcom⟩
  · split
    · exact .inr (.inl ⟨rfl, hsig, hw⟩)
    · next hok =>
      rw [hok] at hno
      cases hno
  · split
    · exact .inl ⟨rfl, hw⟩
    · next hok =>
      rw [hok] at hno
      cases hno
  · split
    · next herr =>
      rw [herr] at hyes
      cases hyes
    · split
      · exact .inr (.inr hses)
      · exact .inr (.inr hcom)

theorem wallets_step (db : Db) (l : Label) :
    WalletStep (fun o => l.cancels db o = true) db.wallets (step db l).wallets := by
  cases l with
  | market l => exact market_wallets l
  | auction l => exact auction_wallets l
  | domainBid r =>
    rcases @domainBidFee_cases db.feeTables r with ⟨-, h⟩ | ⟨-, hsig, h⟩ | h
    · exact .of_eq h
    · have hstep : (step db (.domainBid r)).wallets =
          db.wallets.cancelRedemption r.fee.order := h
      rw [hstep]
      refine .cancel r.fee.order ?_
      have hsig' : r.fee.verifies db.market.gateway = false := hsig
      simp [Label.cancels, hsig']
    · exact .of_confirm h

theorem accepts_wallets (h : l.accepts db o = true) :
    (step db l).wallets = db.wallets.confirmRedemption o ∨
      (l.skips db o = true ∧ (step db l).wallets = db.wallets) := by
  cases l with
  | market l => exact market_accepts h
  | auction l => exact auction_accepts h
  | domainBid r =>
    simp only [Label.accepts, Bool.and_eq_true, decide_eq_true_eq] at h
    obtain ⟨rfl, hok⟩ := h
    rcases @domainBidFee_cases db.feeTables r with ⟨hno, -⟩ | ⟨hno, -⟩ | hw
    · cases hok.symm.trans hno
    · cases hok.symm.trans hno
    · exact .inl hw

theorem ledger_exec (hempty : db.wallets = .empty) (ls : List Label) :
    Ledger (Run.exec step db ls).wallets :=
  Run.exec_preserves (P := fun db => Ledger db.wallets)
    (fun db l h => ledger_step h (wallets_step db l)) ls (hempty ▸ ledger_empty)

theorem kept_exec (hempty : db.wallets = .empty) (hhonest : Run.Meets step (Honest o) db ls) :
    Kept o (Run.exec step db ls).wallets := by
  have hinit : Kept o db.wallets := by
    intro r hr
    rw [hempty] at hr
    cases hr
  refine Run.exec_inv (P := fun db => Kept o db.wallets) (fun db l hkept hok => ?_) hinit hhonest
  refine (wallets_step db l).kept hkept fun hpend => ?_
  rw [(hok hpend).1]
  decide

/-- **A discount is paid for exactly once.** In every honest run, a call that accepts the order as
paid leaves its points debited from the owner, exactly once. -/
theorem discount_paid_once {db : Db} (hempty : db.wallets = .empty) {ls : List Label} {l : Label}
    {o : OrderId} {r : Redemption} (hhonest : Run.Meets step (Honest o) db (ls ++ [l]))
    (hrow : (Run.exec step db ls).wallets.redemption o = some r)
    (haccepts : l.accepts (Run.exec step db ls) o = true) :
    Debited (Run.exec step db (ls ++ [l])).wallets r := by
  rw [Run.meets_append] at hhonest
  obtain ⟨hbefore, hlast, -⟩ := hhonest
  have hledger := ledger_exec hempty ls
  have hkept := kept_exec hempty hbefore r hrow
  have hconf := debited_of_confirmed hledger hrow hkept
  rw [Run.exec_append, Run.exec_cons, Run.exec_nil]
  rcases accepts_wallets haccepts with hw | ⟨hskip, hw⟩
  · rw [hw]
    exact hconf
  · -- skipping is allowed only when there is nothing to confirm
    have hnone : (Run.exec step db ls).wallets.pendingRedemption o = none := by
      by_contra hsome
      have hno := (hlast (Option.isSome_iff_ne_none.mpr hsome)).2
      exact absurd (hskip.symm.trans hno) (by decide)
    rw [hw]
    have hsame : (Run.exec step db ls).wallets.confirmRedemption o =
        (Run.exec step db ls).wallets := by
      simp only [Wallets.confirmRedemption, hnone]
    rwa [hsame] at hconf

/-- Nothing at all. -/
def emptyDb : Db where
  market := { oneListing with listings := fun _ => none }
  fees := []
  software := []
  softwareBids := []
  purchases := []
  community := []
  communityBids := []

/-- User 1 earns 20 points, spends them on a creation fee of 118 rupees and pays the rest. -/
def feeOrder : List Label :=
  [.auction (.award 1 20), .auction (.creationFeeOrder ⟨.software, 1, 11800, true, true⟩),
    .auction (.capture 0)]

/-- User 1 presents the payment. -/
def goodAttempt : Label := .auction (.verifyCreationFee 1 .software ⟨0, 0, true⟩)

/-- Somebody presents the order with a made-up signature. -/
def badAttempt : Label := .auction (.verifyCreationFee 2 .software ⟨0, 7, false⟩)

theorem discount_paid_once_feeOrder :
    (emptyDb.wallets = .empty ∧ Run.Meets step (Honest 0) emptyDb (feeOrder ++ [goodAttempt])) ∧
      Debited (Run.exec step emptyDb (feeOrder ++ [goodAttempt])).wallets ⟨0, 1, 20, .pending⟩ := by
  have hhonest : Run.Meets step (Honest 0) emptyDb (feeOrder ++ [goodAttempt]) := by decide
  exact ⟨⟨rfl, hhonest⟩, discount_paid_once rfl hhonest (by decide) (by decide)⟩

/-- **The books are in order after every run** of the market, the auctions and the fees: an order has
one debit if its redemption is completed and none otherwise, and nobody has reserved more points than
the history leaves. -/
theorem books_in_order {db : Db} (hempty : db.wallets = .empty) (ls : List Label) :
    Ledger (Run.exec step db ls).wallets :=
  ledger_exec hempty ls

theorem books_in_order_badAttempt :
    Ledger (Run.exec step emptyDb (feeOrder ++ [badAttempt, goodAttempt])).wallets :=
  books_in_order rfl (feeOrder ++ [badAttempt, goodAttempt])

/-- **A made-up signature waives the debit.** The order is accepted as paid after it, and nothing
is debited for the 20 points. -/
theorem bad_signature_waives_debit :
    (Run.exec step emptyDb feeOrder).wallets.redemption 0 = some ⟨0, 1, 20, .pending⟩ ∧
      goodAttempt.accepts (Run.exec step emptyDb (feeOrder ++ [badAttempt])) 0 = true ∧
      ¬ Debited (Run.exec step emptyDb (feeOrder ++ [badAttempt, goodAttempt])).wallets
        ⟨0, 1, 20, .pending⟩ := by
  refine ⟨by decide, by decide, fun h => ?_⟩
  exact absurd h.once (by decide)

end Deltapreneur.Services
