import Deltapreneur.Marketplace.Tables

/-!
# Rules of bidding

Model of `app/utils/auction_bid_limits.py` and of `normalize_bid_amount` and `apply_anti_snipe`
(`app/utils/auction_place_bid_common.py`), which all auction services share.

* Amounts have two decimals by the time they get here (the request schemas see to it), so
  quantizing them changes nothing; only 150% of the reference is rounded, half up.
* A missing highest bid counts as 0.

Results:

* `normalizeBidAmount_ok`: an accepted amount is at least one rupee above the reference, and so
  above every bid so far.
-/

namespace Deltapreneur.Auction

open Marketplace

/-! ## Bid limits -/

/-- `active_bid_reference`. -/
def activeBidReference (currentHighest minBidPrice : Paise) : Paise :=
  if 0 < currentHighest then currentHighest else minBidPrice

/-- `min_required_bid`. -/
def minRequiredBid (currentHighest minBidPrice : Paise) : Paise :=
  activeBidReference currentHighest minBidPrice + 100

/-- `max_allowed_bid`. -/
def maxAllowedBid (currentHighest minBidPrice : Paise) : Paise :=
  (activeBidReference currentHighest minBidPrice * 3 + 1) / 2

/-- A number with a comma before every three digits. -/
def groupThousands (n : Nat) : String :=
  if n < 1000 then toString n
  else
    let rest := toString (n % 1000)
    groupThousands (n / 1000) ++ "," ++ "".pushn '0' (3 - rest.length) ++ rest

/-- The format `₹{amount:,.2f}`. -/
def formatInr (amount : Paise) : String :=
  let cents := toString (amount % 100)
  "₹" ++ groupThousands (amount / 100) ++ "." ++ "".pushn '0' (2 - cents.length) ++ cents

/-- `format_bid_range_error`. -/
def formatBidRangeError (normalized minRequired maxAllowed : Paise) : Option String :=
  if maxAllowed = 0 then some "Auction starting price is not configured."
  else if normalized < minRequired then
    some ("Bid must be at least " ++ formatInr minRequired ++ ".")
  else if maxAllowed < normalized then
    some ("Bid cannot exceed " ++ formatInr maxAllowed ++ " (150% of the current active bid).")
  else none

/-- `normalize_bid_amount`: the amount, or the text of a `ValueError`. -/
def normalizeBidAmount (amount currentHighest minBidPrice : Paise) : Except String Paise :=
  match formatBidRangeError amount (minRequiredBid currentHighest minBidPrice)
      (maxAllowedBid currentHighest minBidPrice) with
  | some message => .error message
  | none => .ok amount

theorem normalizeBidAmount_ok {amount currentHighest minBidPrice accepted : Paise}
    (h : normalizeBidAmount amount currentHighest minBidPrice = .ok accepted) :
    accepted = amount ∧ minRequiredBid currentHighest minBidPrice ≤ amount ∧
      amount ≤ maxAllowedBid currentHighest minBidPrice := by
  unfold normalizeBidAmount at h
  split at h
  · cases h
  · next hnone =>
    unfold formatBidRangeError at hnone
    split_ifs at hnone with hzero hlow hhigh
    exact ⟨(Except.ok.inj h).symm, Nat.le_of_not_lt hlow, Nat.le_of_not_lt hhigh⟩

theorem normalizeBidAmount_gt {amount currentHighest minBidPrice accepted : Paise}
    (h : normalizeBidAmount amount currentHighest minBidPrice = .ok accepted) :
    currentHighest < accepted := by
  obtain ⟨rfl, hmin, -⟩ := normalizeBidAmount_ok h
  unfold minRequiredBid activeBidReference at hmin
  split_ifs at hmin with hpos
  · exact Nat.lt_of_lt_of_le (Nat.lt_add_of_pos_right (by decide)) hmin
  · rw [Nat.eq_zero_of_not_pos hpos]
    exact Nat.lt_of_lt_of_le (Nat.succ_pos _) hmin

/-! ## Anti-snipe -/

/-- `ANTI_SNIPE_WINDOW`, in seconds. -/
def antiSnipeWindow : Nat := 300

/-- `ANTI_SNIPE_EXTENSION`, in seconds. -/
def antiSnipeExtension : Nat := 300

/-- `apply_anti_snipe`: the end, the status and whether the auction was extended. -/
def applyAntiSnipe (endTime : Option Time) (now : Time) (status : AuctionStatus) :
    Option Time × AuctionStatus × Bool :=
  match endTime with
  | none => (none, status, false)
  | some e =>
    if e ≤ now then (some e, status, false)
    else if e - now < antiSnipeWindow then (some (e + antiSnipeExtension), .extended, true)
    else (some e, status, false)

theorem applyAntiSnipe_live {endTime : Option Time} {now : Time} {status : AuctionStatus}
    (h : status.live = true) : (applyAntiSnipe endTime now status).2.1.live = true := by
  unfold applyAntiSnipe
  split
  · exact h
  · split_ifs
    · exact h
    · rfl
    · exact h

end Deltapreneur.Auction
