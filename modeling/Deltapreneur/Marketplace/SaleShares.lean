import Deltapreneur.Lib.Run
import Deltapreneur.Marketplace.Restore
import Deltapreneur.Venture.Deals

/-!
# What a domain sale books

The amounts that `create_from_payment`
(`app/service/domain/domain_marketplace_transaction_service.py:43-133`) stores for its three
callers: the direct sale (`marketplace_payment_service.py:348`, which passes no amount), the cart
sale (`cart_checkout_service.py:2585`, the asking price) and the auction
(`auction_payment_service.py:296-324`, the winning bid). The price columns it reads are written by
`create_listing` and `update_listing` (`marketplace_domain_service.py:119-216`) and by
`restore_listing_after_no_sale` (`direct_sale_restore.py:91-102`).

* Floats are taken as rationals. The commission percentage lies between 0 and 100: the settings
  service refuses any other (`platform_settings_service.py:171`).
* Two amounts agree at two decimals if their difference rounds to zero.

Results:

* `booked_conserved_iff`: exactly when the shares of a sale are not negative and add up.
* `winning_bid_not_shared`: a listing priced for direct sale and then auctioned.
-/

namespace Deltapreneur.SaleShares

open Decimal
open Marketplace (SaleType)
open VentureDeals (roundInr)

/-! ## Prices -/

structure Percent where
  value : ℚ
  nonneg : 0 ≤ value
  le_hundred : value ≤ 100

/-- The price columns of a `DomainListing`. -/
structure PriceColumns where
  askingPrice : ℚ
  sellerPrice : Option ℚ
  listingPrice : Option ℚ
  commissionPercentage : Option Percent
  commissionAmount : Option ℚ
  sellerPayoutAmount : Option ℚ

/-- `compute_listing_commission`: the payout, the commission and the price. -/
def computeListingCommission (listingPrice : ℚ) (percent : Percent) : ℚ × ℚ × ℚ :=
  let price : ℚ := roundInr listingPrice
  let commission : ℚ := roundInr (price * percent.value / 100)
  (price - commission, commission, price)

/-- The columns of a listing priced for direct sale. -/
def PriceColumns.priced (amount : ℚ) (percent : Percent) : PriceColumns :=
  let (seller, commission, final) := computeListingCommission amount percent
  { askingPrice := final
    sellerPrice := some seller
    listingPrice := some final
    commissionPercentage := some percent
    commissionAmount := some commission
    sellerPayoutAmount := some seller }

/-- `create_listing`. -/
def createListing (saleType : SaleType) (askingPrice : ℚ) (percent : Percent) : PriceColumns :=
  if saleType = .oneTime ∧ 0 < askingPrice then .priced askingPrice percent
  else {
    askingPrice := askingPrice
    sellerPrice := none
    listingPrice := none
    commissionPercentage := none
    commissionAmount := none
    sellerPayoutAmount := none }

/-! ## Booking a sale -/

/-- The amounts of a `DomainMarketplaceTransaction`. -/
structure Shares where
  grossAmountInr : ℚ
  platformFeeInr : ℚ
  sellerPayoutInr : ℚ
  deriving Repr, DecidableEq

/-- `listing_price or asking_price or 0`, where the caller gives no amount. -/
def PriceColumns.gross (c : PriceColumns) (grossAmountInr : Option ℚ) : ℚ :=
  grossAmountInr.getD ((c.listingPrice.filter (· ≠ 0)).getD c.askingPrice)

def PriceColumns.storedPayout (c : PriceColumns) : Option ℚ :=
  c.sellerPayoutAmount.filter (0 ≤ ·)

/-- The seller price of an old row, if it is not negative. -/
def PriceColumns.oldPayout (c : PriceColumns) : Option ℚ := c.sellerPrice.filter (0 ≤ ·)

def PriceColumns.storedCommission (c : PriceColumns) : Option ℚ :=
  c.commissionAmount.filter (· ≠ 0)

/-- The percentage of a sale without a stored payout. -/
def PriceColumns.percent (c : PriceColumns) (commissionPercent : Option Percent)
    (setting : Percent) : Percent :=
  (commissionPercent.or c.commissionPercentage).getD setting

/-- How `create_from_payment` splits the gross amount. -/
def PriceColumns.shares (c : PriceColumns) (gross : ℚ) (percent : Percent) : Shares :=
  match c.storedPayout, c.oldPayout with
  | some payout, _ => ⟨gross, c.storedCommission.getD (round2 (gross - payout)), payout⟩
  | none, some payout => ⟨gross, round2 (gross - payout), payout⟩
  | none, none =>
    let fee := round2 (gross * percent.value / 100)
    ⟨gross, fee, round2 (gross - fee)⟩

/-- The amounts of the transaction that `create_from_payment` returns. `existing` is the one that
the payment has already. -/
def createFromPayment (existing : Option Shares) (listedByUserId : Option UserId)
    (c : PriceColumns) (commissionPercent : Option Percent) (grossAmountInr : Option ℚ)
    (setting : Percent) : Except AppException Shares :=
  match existing with
  | some tx => .ok tx
  | none =>
    match listedByUserId with
    | none => raise "Domain listing has no seller." 400
    | some _ => .ok (c.shares (c.gross grossAmountInr) (c.percent commissionPercent setting))

/-- The callers. -/
inductive Sale
  /-- `verify_payment`. -/
  | direct
  /-- `_complete_domain_purchase` of the cart. -/
  | cart
  /-- `_ensure_domain_transfer`, at a winning amount. -/
  | auction (winningAmount : ℚ)
  deriving Repr, DecidableEq

/-- The amount the caller passes. -/
def Sale.grossAmountInr (c : PriceColumns) : Sale → Option ℚ
  | .direct => none
  | .cart => some c.askingPrice
  | .auction winningAmount => some winningAmount

/-- The columns at the call: an auction overwrites the asking price. -/
def Sale.columns (c : PriceColumns) : Sale → PriceColumns
  | .direct | .cart => c
  | .auction winningAmount => { c with askingPrice := winningAmount }

def Sale.gross (c : PriceColumns) (sale : Sale) : ℚ :=
  (sale.columns c).gross (sale.grossAmountInr c)

/-- A sale of a listing with these columns. -/
def Sale.book (sale : Sale) (existing : Option Shares) (listedByUserId : Option UserId)
    (c : PriceColumns) (setting : Percent) : Except AppException Shares :=
  createFromPayment existing listedByUserId (sale.columns c) none (sale.grossAmountInr c) setting

/-! ## Conservation -/

/-- The amounts differ by less than two decimals show. -/
def AtTwoDecimals (p q : ℚ) : Prop := round2 (p - q) = 0

/-- **No money appears or disappears**: both shares are not negative, and they add up. -/
structure Shares.Conserved (s : Shares) : Prop where
  fee : 0 ≤ s.platformFeeInr
  payout : 0 ≤ s.sellerPayoutInr
  sum : AtTwoDecimals (s.platformFeeInr + s.sellerPayoutInr) s.grossAmountInr

/-- The stored amounts belong to this gross amount: a payout with its commission adds up to it, a
payout without one does not exceed it, up to half a paisa. -/
def PriceColumns.Covers (c : PriceColumns) (gross : ℚ) : Prop :=
  match c.storedPayout, c.oldPayout, c.storedCommission with
  | some payout, _, some commission =>
    0 ≤ commission ∧ AtTwoDecimals (commission + payout) gross
  | some payout, _, none | none, some payout, _ => payout ≤ gross + 1 / 200
  | none, none, _ => True

variable {c : PriceColumns} {gross payout : ℚ} {percent setting : Percent} {p q : ℚ}

theorem atTwoDecimals_iff_abs : AtTwoDecimals p q ↔ |p - q| ≤ 1 / 200 := round2_eq_zero_iff

theorem round2_sub_add (gross payout : ℚ) : AtTwoDecimals (round2 (gross - payout) + payout) gross := by
  have hnear := abs_round2_sub_le (gross - payout)
  rw [atTwoDecimals_iff_abs]
  convert hnear using 2
  ring

theorem storedPayout_nonneg (h : c.storedPayout = some payout) : 0 ≤ payout := by
  simpa using (Option.filter_eq_some_iff.mp h).2

theorem oldPayout_nonneg (h : c.oldPayout = some payout) : 0 ≤ payout := by
  simpa using (Option.filter_eq_some_iff.mp h).2

theorem remainder_conserved_iff (hpayout : 0 ≤ payout) :
    Shares.Conserved ⟨gross, round2 (gross - payout), payout⟩ ↔ payout ≤ gross + 1 / 200 := by
  constructor
  · intro h
    have hfee := round2_nonneg_iff.mp h.fee
    linarith
  · intro h
    exact ⟨round2_nonneg_iff.mpr (by linarith), hpayout, round2_sub_add gross payout⟩

theorem percent_conserved (hgross : 0 ≤ gross) : Shares.Conserved
    ⟨gross, round2 (gross * percent.value / 100),
      round2 (gross - round2 (gross * percent.value / 100))⟩ := by
  have hshare : 0 ≤ gross * percent.value / 100 :=
    div_nonneg (mul_nonneg hgross percent.nonneg) (by norm_num)
  have hle : gross * percent.value / 100 ≤ gross := by
    have hmul := mul_le_mul_of_nonneg_left percent.le_hundred hgross
    linarith
  obtain ⟨-, hnear⟩ := abs_le.mp (abs_round2_sub_le (gross * percent.value / 100))
  refine ⟨round2_nonneg hshare, round2_nonneg_iff.mpr (by linarith), ?_⟩
  rw [add_comm]
  exact round2_sub_add gross _

/-- **Exactly when the split conserves the gross amount.** -/
theorem shares_conserved_iff (hgross : 0 ≤ gross) :
    (c.shares gross percent).Conserved ↔ c.Covers gross := by
  unfold PriceColumns.shares PriceColumns.Covers
  cases hstored : c.storedPayout with
  | some payout =>
    have hpayout := storedPayout_nonneg hstored
    cases c.storedCommission with
    | some commission => exact ⟨fun h => ⟨h.fee, h.sum⟩, fun h => ⟨h.1, hpayout, h.2⟩⟩
    | none => exact remainder_conserved_iff hpayout
  | none =>
    cases hold : c.oldPayout with
    | some payout => exact remainder_conserved_iff (oldPayout_nonneg hold)
    | none => exact iff_of_true (percent_conserved hgross) trivial

/-- **Exactly when a booked sale conserves its gross amount.** The columns that decide are those
of the listing before the sale: what an auction overwrites is not among them. -/
theorem booked_conserved_iff (sale : Sale) (c : PriceColumns) (setting : Percent) (seller : UserId)
    (hpos : 0 < sale.gross c) : ∃ shares,
      sale.book none (some seller) c setting = .ok shares ∧
      shares.grossAmountInr = sale.gross c ∧
      (shares.Conserved ↔ c.Covers (sale.gross c)) := by
  refine ⟨_, rfl, ?_, ?_⟩
  · unfold PriceColumns.shares
    split <;> rfl
  · have hcovers : (sale.columns c).Covers (sale.gross c) ↔ c.Covers (sale.gross c) := by
      cases sale <;> exact Iff.rfl
    rw [← hcovers]
    exact shares_conserved_iff hpos.le

def fifteenPercent : Percent := ⟨15, by norm_num, by norm_num⟩

def pricedListing : PriceColumns := .priced 1000 fifteenPercent

theorem booked_conserved_priced : ∃ shares,
    Sale.direct.book none (some 7) pricedListing fifteenPercent = .ok shares ∧
      shares.grossAmountInr = Sale.direct.gross pricedListing ∧
      (shares.Conserved ↔ pricedListing.Covers (Sale.direct.gross pricedListing)) :=
  booked_conserved_iff .direct pricedListing fifteenPercent 7 (by decide +kernel)

/-- **The bid is not shared.** The auction of a listing that was priced for 1000 rupees ends at
5000: the seller is owed 850 of them and the platform keeps 150. -/
theorem winning_bid_not_shared :
    (Sale.auction 5000).gross (createListing .oneTime 1000 fifteenPercent) = 5000 ∧
      (Sale.auction 5000).book none (some 7)
        (createListing .oneTime 1000 fifteenPercent)
        fifteenPercent = .ok ⟨5000, 150, 850⟩ ∧
      ¬ Shares.Conserved ⟨5000, 150, 850⟩ := by
  refine ⟨by decide +kernel, by decide +kernel, fun h => ?_⟩
  have hsum := atTwoDecimals_iff_abs.mp h.sum
  norm_num at hsum

end Deltapreneur.SaleShares
