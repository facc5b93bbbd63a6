import Deltapreneur.Marketplace.AuctionSale
import Mathlib.Algebra.Field.Rat
import Mathlib.Data.List.MinMax

/-!
# Back to direct sale, with its prices

`restore_listing_after_no_sale` (`app/service/domain/direct_sale_restore.py:30-105`) with all the
columns it writes, `compute_listing_commission` (`app/utils/listing_commission.py`) and the
function's callers: `_restore_listing_to_direct_sale` (`winner_service.py:90-99`, for a resolved
and for a forfeited auction) and `_restore_unsold_auction_listings`
(`marketplace_domain_service.py:70-83`, whenever listings are shown).

* An asking price that is stored already is left as it is, and so are the seller's payout and the
  commission beside it. A listing that was created for auction has none of the two.
* Whole rupees are rounded half up; floats are taken as rationals. The commission percentage is
  not negative (`ge=0` of the settings).
* The latest auction has the greatest `created_at`.

Results:

* `restore_calls`: any number of calls on any auctions.
* `stored_price_inconsistent`: a price typed in for an auction comes back without a payout.
-/

namespace Deltapreneur.Marketplace

/-! ## Rows -/

/-- A `DomainListing` with its price columns. -/
structure PricedListing extends Listing where
  sellerPrice : Option Int
  listingPrice : Option Paise
  commissionPercentage : Option NNRat
  commissionAmount : Option Paise
  sellerPayoutAmount : Option Int
  verifiedAt : Option Time

/-- The columns of an `Auction` that the function reads. -/
structure AuctionRow where
  domainId : ListingId
  isDeleted : Bool
  createdAt : Time
  status : AuctionStatus
  minBidPrice : Paise
  deriving Repr, DecidableEq

/-- The listing's latest auction: `ORDER BY created_at DESC LIMIT 1`. -/
def latestOf (auctions : List AuctionRow) (listing : ListingId) : Option AuctionRow :=
  (auctions.filter fun a => a.domainId = listing && !a.isDeleted).argmax AuctionRow.createdAt

/-! ## The commission -/

/-- `round_inr`, in paise. -/
def roundInr (amount : Paise) : Paise := (amount + 50) / 100 * 100

/-- The commission of a price in whole rupees, rounded to whole rupees. -/
def commissionOf (price : Paise) (percent : NNRat) : Paise :=
  (((price / 100 : Nat) : Rat) * percent / 100 + 1 / 2).floor.toNat * 100

/-- `compute_listing_commission`: the payout, the commission and the price. -/
def computeListingCommission (price : Paise) (percent : NNRat) : Int × Paise × Paise :=
  (roundInr price - commissionOf (roundInr price) percent, commissionOf (roundInr price) percent,
    roundInr price)

/-! ## The function and its callers -/

/-- An unsold auction counts as reviewed. A rejected listing stays rejected. -/
def PricedListing.markVerified (l : PricedListing) (status : AuctionStatus) (now : Time) :
    PricedListing :=
  if status = .unsold ∧ l.verificationStatus ≠ .rejected ∧
      (l.verificationStatus ≠ .verified ∨ l.verified = false) then
    { l with
      verificationStatus := .verified
      verified := true
      verifiedAt := l.verifiedAt.or (some now) }
  else l

/-- An unsold auction's minimum bid becomes the asking price of a listing that has none. -/
def PricedListing.setPrice (l : PricedListing) (a : AuctionRow) (percent : NNRat) :
    PricedListing :=
  if a.status = .unsold ∧ l.askingPrice = 0 ∧ 0 < a.minBidPrice then
    let (seller, commission, final) := computeListingCommission a.minBidPrice percent
    { l with
      askingPrice := final
      listingPrice := some final
      sellerPrice := some seller
      sellerPayoutAmount := some seller
      commissionPercentage := some percent
      commissionAmount := some commission }
  else l

/-- `restore_listing_after_no_sale` of a listing whose latest auction is `latest`. -/
def PricedListing.restoreAfterNoSale (l : PricedListing) (latest : Option AuctionRow)
    (percent : NNRat) (now : Time) : PricedListing :=
  if l.domainStatus = .sold ∨ l.toListing.onDirectSale then l
  else match latest with
    | none => l
    | some a =>
      if a.status.noSale then
        (({ l with saleType := .oneTime, domainStatus := .available }.markVerified a.status now
          ).setPrice a percent)
      else l

/-- Who calls it. -/
inductive RestoreCaller
  /-- A resolved or forfeited auction. -/
  | ended
  /-- A list of listings is shown. -/
  | shown
  deriving Repr, DecidableEq

structure RestoreCall where
  caller : RestoreCaller
  percent : NNRat
  now : Time

/-- A call; `_restore_unsold_auction_listings` passes over what is sold or priced for direct
sale. -/
def PricedListing.call (l : PricedListing) (latest : Option AuctionRow) (c : RestoreCall) :
    PricedListing :=
  match c.caller with
  | .ended => l.restoreAfterNoSale latest c.percent c.now
  | .shown =>
    if l.domainStatus = .sold ∨ (l.saleType ≠ .auction ∧ 0 < l.askingPrice) then l
    else l.restoreAfterNoSale latest c.percent c.now

/-- **The direct-sale price is split**: payout and commission add up to the asking price. -/
def PricedListing.Consistent (l : PricedListing) : Prop :=
  ∃ payout commission, l.sellerPayoutAmount = some payout ∧ l.commissionAmount = some commission ∧
    payout + commission = l.askingPrice

def PricedListing.SamePrices (l l' : PricedListing) : Prop :=
  l'.askingPrice = l.askingPrice ∧ l'.listingPrice = l.listingPrice ∧
    l'.sellerPrice = l.sellerPrice ∧ l'.sellerPayoutAmount = l.sellerPayoutAmount ∧
    l'.commissionPercentage = l.commissionPercentage ∧ l'.commissionAmount = l.commissionAmount

/-- The call prices the listing: it is not sold, has no price, and its latest auction is unsold
with a minimum bid. -/
def PricedListing.toPrice (l : PricedListing) (latest : Option AuctionRow) : Prop :=
  l.domainStatus ≠ .sold ∧ l.askingPrice = 0 ∧
    ∃ a, latest = some a ∧ a.status = .unsold ∧ 0 < a.minBidPrice

/-! ## One call -/

section

variable {l : PricedListing} {latest : Option AuctionRow} {a : AuctionRow} {percent : NNRat}
  {now : Time}

theorem markVerified_toListing (s : AuctionStatus) : (l.markVerified s now).toListing =
    { l.toListing with
      verificationStatus := if s = .unsold ∧ l.verificationStatus ≠ .rejected then .verified
        else l.verificationStatus
      verified := l.verified || (s = .unsold && l.verificationStatus ≠ .rejected) } := by
  unfold PricedListing.markVerified
  split
  · next h => simp [h.1, h.2.1]
  · next h =>
    by_cases hs : s = .unsold ∧ l.verificationStatus ≠ .rejected
    · -- reviewed already
      have hdone : l.verificationStatus = .verified ∧ l.verified = true := by
        by_contra hnot
        refine h ⟨hs.1, hs.2, ?_⟩
        by_cases hv : l.verificationStatus = .verified
        · exact .inr (by simpa using fun hver => hnot ⟨hv, hver⟩)
        · exact .inl hv
      calc l.toListing = { l.toListing with
            verificationStatus := l.verificationStatus, verified := l.verified } := rfl
        _ = _ := by
          rw [hdone.1, hdone.2]
          simp [hs.1]
    · have hfalse : (decide (s = .unsold) && decide (l.verificationStatus ≠ .rejected)) = false := by
        simpa using hs
      rw [if_neg hs, hfalse, Bool.or_false]

theorem setPrice_toListing : (l.setPrice a percent).toListing =
    { l.toListing with
      askingPrice := if a.status = .unsold ∧ l.askingPrice = 0 then roundInr a.minBidPrice
        else l.askingPrice } := by
  unfold PricedListing.setPrice
  split
  · next h => simp [h.1, h.2.1, computeListingCommission]
  · next h =>
    by_cases hs : a.status = .unsold ∧ l.askingPrice = 0
    · have hzero : a.minBidPrice = 0 := by
        by_contra hpos
        exact h ⟨hs.1, hs.2, Nat.pos_of_ne_zero hpos⟩
      calc l.toListing = { l.toListing with askingPrice := l.askingPrice } := rfl
        _ = _ := by
          rw [if_pos hs, hzero, hs.2]
          rfl
    · rw [if_neg hs]

/-! ## More calls -/

theorem markVerified_again (s : AuctionStatus) (now' : Time) :
    (l.markVerified s now).markVerified s now' = l.markVerified s now := by
  unfold PricedListing.markVerified
  split
  · simp
  · rfl

theorem setPrice_again : (l.setPrice a percent).setPrice a percent = l.setPrice a percent := by
  unfold PricedListing.setPrice
  split
  · dsimp only
    split <;> rfl
  · rfl

theorem markVerified_setPrice (s : AuctionStatus) :
    (l.setPrice a percent).markVerified s now = (l.markVerified s now).setPrice a percent := by
  unfold PricedListing.markVerified PricedListing.setPrice
  by_cases hp : a.status = .unsold ∧ l.askingPrice = 0 ∧ 0 < a.minBidPrice
  · by_cases hv : s = .unsold ∧ l.verificationStatus ≠ .rejected ∧
        (l.verificationStatus ≠ .verified ∨ l.verified = false)
    · simp only [if_pos hp, if_pos hv]
    · simp only [if_pos hp, if_neg hv]
  · by_cases hv : s = .unsold ∧ l.verificationStatus ≠ .rejected ∧
        (l.verificationStatus ≠ .verified ∨ l.verified = false)
    · simp only [if_neg hp, if_pos hv]
    · simp only [if_neg hp, if_neg hv]

theorem markVerified_setPrice_relisted (s : AuctionStatus)
    (hl : { l with saleType := .oneTime, domainStatus := .available } = l) :
    { (l.markVerified s now).setPrice a percent with
      saleType := .oneTime, domainStatus := .available } =
        (l.markVerified s now).setPrice a percent := by
  have hsale : l.saleType = .oneTime := by rw [← hl]
  have hstatus : l.domainStatus = .available := by rw [← hl]
  have hkept : ((l.markVerified s now).setPrice a percent).saleType = .oneTime ∧
      ((l.markVerified s now).setPrice a percent).domainStatus = .available := by
    rw [setPrice_toListing, markVerified_toListing]
    exact ⟨hsale, hstatus⟩
  generalize (l.markVerified s now).setPrice a percent = r at hkept
  obtain ⟨⟨⟩⟩ := r
  obtain ⟨rfl, rfl⟩ := hkept
  rfl

/-- **A second call changes nothing.** -/
theorem restore_again (now' : Time) :
    (l.restoreAfterNoSale latest percent now).restoreAfterNoSale latest percent now' =
      l.restoreAfterNoSale latest percent now := by
  by_cases hdone : l.domainStatus = .sold ∨ l.toListing.onDirectSale
  · have hsame : l.restoreAfterNoSale latest percent now = l := if_pos hdone
    rw [hsame]
    exact if_pos hdone
  cases latest with
  | none =>
    have hsame : l.restoreAfterNoSale none percent now = l := if_neg hdone
    rw [hsame]
    exact if_neg hdone
  | some a =>
    by_cases hno : a.status.noSale = true
    · have hcall : ∀ (l : PricedListing) now, ¬ (l.domainStatus = .sold ∨ l.toListing.onDirectSale) →
          l.restoreAfterNoSale (some a) percent now = ({ l with
            saleType := .oneTime, domainStatus := .available }.markVerified a.status now).setPrice
              a percent := by
        intro l now h
        simp only [PricedListing.restoreAfterNoSale, if_neg h, if_pos hno]
      rw [hcall l now hdone]
      by_cases hnow : (({ l with saleType := .oneTime, domainStatus := .available }.markVerified
          a.status now).setPrice a percent).domainStatus = .sold ∨
          (({ l with saleType := .oneTime, domainStatus := .available }.markVerified
          a.status now).setPrice a percent).toListing.onDirectSale
      · exact if_pos hnow
      · rw [hcall _ now' hnow, markVerified_setPrice_relisted _ rfl, markVerified_setPrice,
          markVerified_again, setPrice_again]
    · have hsame : ∀ (l : PricedListing) now, l.restoreAfterNoSale (some a) percent now = l := by
        intro l now
        simp [PricedListing.restoreAfterNoSale, hno]
      rw [hsame, hsame]

/-! ## Prices -/

theorem markVerified_prices (l : PricedListing) (now : Time) (s : AuctionStatus) :
    l.SamePrices (l.markVerified s now) := by
  unfold PricedListing.markVerified
  split
  · exact ⟨rfl, rfl, rfl, rfl, rfl, rfl⟩
  · exact ⟨rfl, rfl, rfl, rfl, rfl, rfl⟩

theorem setPrice_consistent (h : a.status = .unsold ∧ l.askingPrice = 0 ∧ 0 < a.minBidPrice) :
    (l.setPrice a percent).Consistent := by
  unfold PricedListing.setPrice
  rw [if_pos h]
  refine ⟨_, _, rfl, rfl, ?_⟩
  simp only [computeListingCommission]
  omega

/-- **Prices that a call sets are consistent, all others are left as they are.** -/
theorem restored_prices (l : PricedListing) (latest : Option AuctionRow) (percent : NNRat)
    (now : Time) :
    (l.toPrice latest → (l.restoreAfterNoSale latest percent now).Consistent) ∧
      (¬ l.toPrice latest → l.SamePrices (l.restoreAfterNoSale latest percent now)) := by
  unfold PricedListing.restoreAfterNoSale
  split
  · next hdone =>
    refine ⟨?_, fun _ => ⟨rfl, rfl, rfl, rfl, rfl, rfl⟩⟩
    rintro ⟨hsold, hzero, -⟩
    rcases hdone with hdone | hdone
    · exact absurd hdone hsold
    · exact absurd hdone.2.1 (by simp [hzero])
  next hopen =>
  have hsold : l.domainStatus ≠ .sold := fun h => hopen (.inl h)
  split
  · refine ⟨?_, fun _ => ⟨rfl, rfl, rfl, rfl, rfl, rfl⟩⟩
    rintro ⟨-, -, a, hnone, -⟩
    cases hnone
  next a =>
  split
  · obtain ⟨hprice, hrest⟩ := markVerified_prices
      { l with saleType := .oneTime, domainStatus := .available } now a.status
    constructor
    · rintro ⟨-, hzero, a', ha, hunsold, hbid⟩
      cases ha
      exact setPrice_consistent ⟨hunsold, hprice.trans hzero, hbid⟩
    · intro hnot
      unfold PricedListing.setPrice
      split
      · next h => exact absurd ⟨hsold, hprice.symm.trans h.2.1, a, rfl, h.1, h.2.2⟩ hnot
      · exact ⟨hprice, hrest⟩
  · next hsale =>
    refine ⟨?_, fun _ => ⟨rfl, rfl, rfl, rfl, rfl, rfl⟩⟩
    rintro ⟨-, -, a', ha, hunsold, -⟩
    cases ha
    exact absurd (by rw [hunsold]; rfl) hsale

/-! ## Any number of calls -/

/-- Sold, or the latest auction is still live, awaits payment or is completed. -/
def PricedListing.keepsOff (l : PricedListing) (latest : Option AuctionRow) : Prop :=
  l.domainStatus = .sold ∨ ∀ a ∈ latest, a.status.noSale = false

theorem restore_keepsOff (h : l.keepsOff latest) : l.restoreAfterNoSale latest percent now = l := by
  unfold PricedListing.restoreAfterNoSale
  split
  · rfl
  next hopen =>
  split
  · rfl
  next a =>
  have hsale := h.resolve_left (fun hsold => hopen (.inl hsold)) a rfl
  rw [if_neg (by simp [hsale])]

theorem call_keepsOff (h : l.keepsOff latest) (c : RestoreCall) : l.call latest c = l := by
  unfold PricedListing.call
  split
  · exact restore_keepsOff h
  · split
    · rfl
    · exact restore_keepsOff h

/-- A call by the same caller, or after a call for an auction that has ended, changes nothing. -/
theorem call_again {c c' : RestoreCall} (hpercent : c'.percent = c.percent)
    (hcaller : c.caller = .shown → c'.caller = .shown) :
    (l.call latest c).call latest c' = l.call latest c := by
  have hrestored : (l.restoreAfterNoSale latest c.percent c.now).call latest c' =
      l.restoreAfterNoSale latest c.percent c.now := by
    unfold PricedListing.call
    rw [hpercent]
    split
    · exact restore_again c'.now
    · split
      · rfl
      · exact restore_again c'.now
  cases hc : c.caller with
  | ended =>
    have hcall : l.call latest c = l.restoreAfterNoSale latest c.percent c.now := by
      simp only [PricedListing.call, hc]
    rw [hcall, hrestored]
  | shown =>
    by_cases hskip : l.domainStatus = .sold ∨ (l.saleType ≠ .auction ∧ 0 < l.askingPrice)
    · have hcall : l.call latest c = l := by
        simp only [PricedListing.call, hc, if_pos hskip]
      rw [hcall]
      simp only [PricedListing.call, hcaller hc, if_pos hskip]
    · have hcall : l.call latest c = l.restoreAfterNoSale latest c.percent c.now := by
        simp only [PricedListing.call, hc, if_neg hskip]
      rw [hcall, hrestored]

theorem call_prices (c : RestoreCall) : (l.toPrice latest → (l.call latest c).Consistent) ∧
    (¬ l.toPrice latest → l.SamePrices (l.call latest c)) := by
  have hprices := restored_prices l latest c.percent c.now
  unfold PricedListing.call
  split
  · exact hprices
  · split
    · next hskip =>
      refine ⟨?_, fun _ => ⟨rfl, rfl, rfl, rfl, rfl, rfl⟩⟩
      rintro ⟨hsold, hzero, -⟩
      rcases hskip with hskip | hskip
      · exact absurd hskip hsold
      · exact absurd hskip.2 (by simp [hzero])
    · exact hprices

end

/-- **Any number of calls.** Whatever row a call finds, with whatever auctions: a listing that is
sold, or whose latest auction still runs, awaits payment or is completed, is left unchanged; the
prices are consistent where the call sets them and as before where it does not; and further calls
under the same commission, with the same auctions, change nothing. -/
theorem restore_calls (l : PricedListing) (auctions : List AuctionRow) (id : ListingId)
    (c : RestoreCall) (more : List RestoreCall)
    (hmore : ∀ c' ∈ more, c'.percent = c.percent ∧ (c.caller = .shown → c'.caller = .shown)) :
    let latest := latestOf auctions id
    (l.keepsOff latest → l.call latest c = l) ∧
      (l.toPrice latest → (l.call latest c).Consistent) ∧
      (¬ l.toPrice latest → l.SamePrices (l.call latest c)) ∧
      more.foldl (fun l c' => l.call latest c') (l.call latest c) = l.call latest c := by
  intro latest
  refine ⟨fun h => call_keepsOff h c, (call_prices c).1, (call_prices c).2, ?_⟩
  induction more with
  | nil => rfl
  | cons c' rest ih =>
    obtain ⟨hpercent, hcaller⟩ := hmore c' List.mem_cons_self
    rw [List.foldl_cons, call_again hpercent hcaller]
    exact ih fun u hu => hmore u (List.mem_cons_of_mem c' hu)

/-- A listing created for auction, with the price its seller typed in. -/
def auctionListing (askingPrice : Paise) : PricedListing where
  listedByUserId := some 9
  askingPrice := askingPrice
  saleType := .auction
  verificationStatus := .verified
  verified := true
  domainStatus := .available
  paymentStatus := none
  purchasedByUserId := none
  razorpayOrderId := none
  razorpayPaymentId := none
  activeTransactionId := none
  sellerPrice := none
  listingPrice := none
  commissionPercentage := none
  commissionAmount := none
  sellerPayoutAmount := none
  verifiedAt := none

def unsoldAuction : AuctionRow := ⟨0, false, 5, .unsold, 50000⟩

/-- Two calls at ten percent, by a resolution and by a list that is shown. -/
theorem restore_calls_unsold :
    let latest := latestOf [unsoldAuction] 0
    let l := auctionListing 0
    (l.keepsOff latest → l.call latest ⟨.ended, 10, 6⟩ = l) ∧
      (l.toPrice latest → (l.call latest ⟨.ended, 10, 6⟩).Consistent) ∧
      (¬ l.toPrice latest → l.SamePrices (l.call latest ⟨.ended, 10, 6⟩)) ∧
      [⟨.shown, 10, 7⟩].foldl (fun l c' => l.call latest c') (l.call latest ⟨.ended, 10, 6⟩) =
        l.call latest ⟨.ended, 10, 6⟩ :=
  restore_calls (auctionListing 0) [unsoldAuction] 0 ⟨.ended, 10, 6⟩ [⟨.shown, 10, 7⟩] (by simp)

/-- A stored price comes back to direct sale without a payout. -/
theorem stored_price_inconsistent : ¬ ∀ (l : PricedListing) (auctions : List AuctionRow)
    (id : ListingId) (c : RestoreCall), l.saleType = .auction →
    (l.call (latestOf auctions id) c).saleType = .oneTime →
    (l.call (latestOf auctions id) c).Consistent := by
  intro h
  obtain ⟨payout, -, hpayout, -⟩ := h (auctionListing 100000) [unsoldAuction] 0 ⟨.ended, 10, 6⟩
    rfl rfl
  have hnone : ((auctionListing 100000).call (latestOf [unsoldAuction] 0)
      ⟨.ended, 10, 6⟩).sellerPayoutAmount = none := rfl
  rw [hnone] at hpayout
  exact absurd hpayout (by simp)

end Deltapreneur.Marketplace
