import Deltapreneur.Auction.Bidding
import Deltapreneur.Lib.Decimal
import Deltapreneur.Lib.Run

/-!
# The bid window in decimals

`app/utils/auction_bid_limits.py:32-104` and `normalize_bid_amount`
(`app/utils/auction_place_bid_common.py:30-53`) on any decimals, with the reserve prices of
`CreateAuctionRequest` (`app/model/auction/auction_request.py:40-64`). `Bidding.lean` has the same
rules on paise.

* Quantizing raises `InvalidOperation` for a result of more than 28 digits. The columns for prices
  and bids hold 18 (`Numeric(18, 2)`), and a bid that does not fit is not stored; on such numbers
  the sum and the product are exact.
* The least bid is a rupee above the reference, the greatest is half of it above. The window is
  empty for a reference below 1.99 rupees.

Results:

* `bid_window`: over all bids on an auction, when the window is empty and which amounts are
  accepted.
* `small_reserve_closed`: a reserve of one rupee takes no bid, and an amount of three decimals is
  accepted.
-/

namespace Deltapreneur.BidWindow

open Decimal
open Auction (formatInr)

/-! ## Limits -/

/-- What `normalize_bid_amount` raises. -/
inductive BidError
  | valueError (message : String)
  /-- `decimal.InvalidOperation`. -/
  | invalidOperation
  deriving Repr, DecidableEq

/-- `quantize(MONEY_QUANT, rounding=ROUND_HALF_UP)` in a context of 28 digits. -/
def quantizeMoney (value : ℚ) : Except BidError ℚ :=
  if |quantize value| < 10 ^ 26 then .ok (quantize value) else .error .invalidOperation

/-- `active_bid_reference`. -/
def activeBidReference (currentHighest minBidPrice : ℚ) : Except BidError ℚ :=
  quantizeMoney (if 0 < currentHighest then currentHighest else minBidPrice)

/-- `min_required_bid`. -/
def minRequiredBid (currentHighest minBidPrice : ℚ) : Except BidError ℚ := do
  let reference ← activeBidReference currentHighest minBidPrice
  quantizeMoney (reference + 1)

/-- `max_allowed_bid`. -/
def maxAllowedBid (currentHighest minBidPrice : ℚ) : Except BidError ℚ := do
  let reference ← activeBidReference currentHighest minBidPrice
  if reference ≤ 0 then return 0 else quantizeMoney (reference * (3 / 2))

/-- The format `₹{amount:,.2f}` of a limit. -/
def formatLimit (amount : ℚ) : String := formatInr ⌊amount * 100⌋.toNat

/-- `format_bid_range_error`. -/
def formatBidRangeError (normalized minRequired maxAllowed : ℚ) : Option String :=
  if maxAllowed ≤ 0 then some "Auction starting price is not configured."
  else if normalized < minRequired then
    some ("Bid must be at least " ++ formatLimit minRequired ++ ".")
  else if maxAllowed < normalized then
    some ("Bid cannot exceed " ++ formatLimit maxAllowed ++ " (150% of the current active bid).")
  else none

/-- `normalize_bid_amount`: the amount and the limits. -/
def normalizeBidAmount (amount currentHighest minBidPrice : ℚ) :
    Except BidError (ℚ × ℚ × ℚ) := do
  let normalized ← quantizeMoney amount
  let minRequired ← minRequiredBid currentHighest minBidPrice
  let maxAllowed ← maxAllowedBid currentHighest minBidPrice
  match formatBidRangeError normalized minRequired maxAllowed with
  | some message => .error (.valueError message)
  | none => return (normalized, minRequired, maxAllowed)

/-! ## Auctions -/

/-- The column holds the value. -/
def Stored (value : ℚ) : Prop := Cents value ∧ value < 10 ^ 16

/-- A reserve price that `CreateAuctionRequest` accepts and the column holds. -/
structure Reserve where
  price : ℚ
  pos : 0 < price
  stored : Stored price

/-- `place_bid`, as far as the amount goes: the highest bid afterwards. -/
def placeBid (reserve : Reserve) (highest : Option ℚ) (amount : ℚ) : Option ℚ :=
  match normalizeBidAmount amount (highest.getD 0) reserve.price with
  | .ok (normalized, _, _) => if normalized < 10 ^ 16 then some normalized else highest
  | .error _ => highest

/-! ## The limits of a stored reference -/

variable {reference amount : ℚ} {n : ℤ}

theorem quantize_half_more (hpos : 0 < n) :
    quantize ((n / 100 : ℚ) * (3 / 2)) = ((3 * n + 1) / 2 : ℤ) / 100 := by
  have hcast : (0 : ℚ) < n := by exact_mod_cast hpos
  have hmul : (n / 100 : ℚ) * (3 / 2) * 100 + 1 / 2 = ((3 * n + 1 : ℤ) : ℚ) / (2 : ℕ) := by
    push_cast
    ring
  have hfloor : ⌊(n / 100 : ℚ) * (3 / 2) * 100 + 1 / 2⌋ = (3 * n + 1) / 2 := by
    rw [hmul]
    exact_mod_cast Rat.floor_intCast_div_natCast (3 * n + 1) 2
  rw [quantize, roundAway, if_pos (by positivity), hfloor]

/-- **The window of a reference is empty below 1.99.** -/
theorem window_nonempty_iff (hcents : Cents reference) (hpos : 0 < reference) :
    reference + 1 ≤ quantize (reference * (3 / 2)) ↔ 199 / 100 ≤ reference := by
  obtain ⟨n, rfl⟩ := hcents
  have hn : 0 < n := by
    have hcast : (0 : ℚ) < n := by linarith
    exact_mod_cast hcast
  rw [quantize_half_more hn]
  constructor
  · intro h
    have hint : n + 100 ≤ (3 * n + 1) / 2 := by
      have hcast : ((n + 100 : ℤ) : ℚ) ≤ ((3 * n + 1) / 2 : ℤ) := by
        push_cast
        linarith
      exact_mod_cast hcast
    have hlow : (199 : ℤ) ≤ n := by omega
    have hcast : (199 : ℚ) ≤ n := by exact_mod_cast hlow
    linarith
  · intro h
    have hlow : (199 : ℤ) ≤ n := by
      have hcast : (199 : ℚ) ≤ n := by linarith
      exact_mod_cast hcast
    have hint : n + 100 ≤ (3 * n + 1) / 2 := by omega
    have hcast : ((n + 100 : ℤ) : ℚ) ≤ ((3 * n + 1) / 2 : ℤ) := by exact_mod_cast hint
    push_cast at hcast
    linarith

theorem half_more_bounds (hcents : Cents reference) (hpos : 0 < reference) :
    0 < quantize (reference * (3 / 2)) ∧ quantize (reference * (3 / 2)) < reference * 2 + 1 := by
  obtain ⟨n, rfl⟩ := hcents
  have hn : 0 < n := by
    have hcast : (0 : ℚ) < n := by linarith
    exact_mod_cast hcast
  rw [quantize_half_more hn]
  have hlow : (0 : ℤ) < (3 * n + 1) / 2 := by omega
  have hhigh : (3 * n + 1) / 2 < 2 * n + 100 := by omega
  have hlow' : (0 : ℚ) < ((3 * n + 1) / 2 : ℤ) := by exact_mod_cast hlow
  have hhigh' : (((3 * n + 1) / 2 : ℤ) : ℚ) < ((2 * n + 100 : ℤ) : ℚ) := by exact_mod_cast hhigh
  push_cast at hhigh'
  constructor
  · linarith
  · linarith

theorem quantizeMoney_ok (hcents : Cents amount) (hpos : 0 ≤ amount) (hlt : amount < 10 ^ 26) :
    quantizeMoney amount = .ok amount := by
  rw [quantizeMoney, hcents.quantize, if_pos (by rwa [abs_of_nonneg hpos])]

/-- What a highest bid of an auction is: two decimals, in the column, and above the reserve by the
rupee that the window asks for. -/
structure Reached (reserve : Reserve) (highest : Option ℚ) : Prop where
  bid : ∀ b ∈ highest, Stored b ∧ reserve.price + 1 ≤ b ∧ 199 / 100 ≤ reserve.price

/-- What limits refer to. -/
def referenceOf (reserve : Reserve) (highest : Option ℚ) : ℚ := highest.getD reserve.price

variable {reserve : Reserve} {highest : Option ℚ}

theorem Reached.ref (h : Reached reserve highest) :
    Stored (referenceOf reserve highest) ∧ 0 < referenceOf reserve highest ∧
      (if 0 < highest.getD 0 then highest.getD 0 else reserve.price) =
        referenceOf reserve highest := by
  cases highest with
  | none => exact ⟨reserve.stored, reserve.pos, if_neg (lt_irrefl 0)⟩
  | some b =>
    obtain ⟨hstored, habove, -⟩ := h.bid b rfl
    have hpos : 0 < b := by linarith [reserve.pos]
    exact ⟨hstored, hpos, if_pos hpos⟩

theorem Reached.activeBidReference (h : Reached reserve highest) :
    activeBidReference (highest.getD 0) reserve.price = .ok (referenceOf reserve highest) := by
  obtain ⟨⟨hcents, hfits⟩, hpos, heq⟩ := h.ref
  rw [BidWindow.activeBidReference, heq]
  exact quantizeMoney_ok hcents hpos.le (by linarith)

theorem Reached.minRequiredBid (h : Reached reserve highest) :
    minRequiredBid (highest.getD 0) reserve.price = .ok (referenceOf reserve highest + 1) := by
  obtain ⟨⟨hcents, hfits⟩, hpos, -⟩ := h.ref
  simp only [BidWindow.minRequiredBid, h.activeBidReference, bind, Except.bind]
  exact quantizeMoney_ok (hcents.add ⟨100, by norm_num⟩) (by linarith) (by linarith)

theorem Reached.maxAllowedBid (h : Reached reserve highest) :
    maxAllowedBid (highest.getD 0) reserve.price =
      .ok (quantize (referenceOf reserve highest * (3 / 2))) := by
  obtain ⟨⟨hcents, hfits⟩, hpos, -⟩ := h.ref
  obtain ⟨hlow, hhigh⟩ := half_more_bounds hcents hpos
  simp only [BidWindow.maxAllowedBid, h.activeBidReference, bind, Except.bind, not_le.mpr hpos,
    if_false, quantizeMoney]
  rw [if_pos]
  rw [abs_of_pos hlow]
  linarith

/-- The least and the greatest bid. -/
def low (reserve : Reserve) (highest : Option ℚ) : ℚ := referenceOf reserve highest + 1

def high (reserve : Reserve) (highest : Option ℚ) : ℚ :=
  quantize (referenceOf reserve highest * (3 / 2))

theorem formatBidRangeError_eq_none_iff {normalized minRequired maxAllowed : ℚ}
    (hmax : 0 < maxAllowed) : formatBidRangeError normalized minRequired maxAllowed = none ↔
      minRequired ≤ normalized ∧ normalized ≤ maxAllowed := by
  unfold formatBidRangeError
  rw [if_neg (not_le.mpr hmax)]
  split_ifs with hlow hhigh
  · exact iff_of_false (by simp) fun h => absurd h.1 (not_le.mpr hlow)
  · exact iff_of_false (by simp) fun h => absurd h.2 (not_le.mpr hhigh)
  · exact iff_of_true rfl ⟨not_lt.mp hlow, not_lt.mp hhigh⟩

/-- **What is accepted**: the amounts that lie in the window when they are rounded. -/
theorem Reached.normalizeBidAmount_ok_iff (h : Reached reserve highest) (amount : ℚ)
    (out : ℚ × ℚ × ℚ) : normalizeBidAmount amount (highest.getD 0) reserve.price = .ok out ↔
      (low reserve highest ≤ quantize amount ∧ quantize amount ≤ high reserve highest) ∧
        out = (quantize amount, low reserve highest, high reserve highest) := by
  obtain ⟨⟨hcents, hfits⟩, hpos, -⟩ := h.ref
  obtain ⟨hhigh0, hhigh⟩ := half_more_bounds hcents hpos
  change 0 < high reserve highest at hhigh0
  change high reserve highest < _ at hhigh
  have hlow0 : 0 < low reserve highest := add_pos hpos one_pos
  have hmin : BidWindow.minRequiredBid (highest.getD 0) reserve.price =
      .ok (low reserve highest) := h.minRequiredBid
  have hmax : BidWindow.maxAllowedBid (highest.getD 0) reserve.price =
      .ok (high reserve highest) := h.maxAllowedBid
  by_cases hsize : |quantize amount| < 10 ^ 26
  · have hquantize : quantizeMoney amount = .ok (quantize amount) := if_pos hsize
    simp only [normalizeBidAmount, hquantize, hmin, hmax, bind, Except.bind]
    rw [← formatBidRangeError_eq_none_iff hhigh0]
    split
    · next message hsome => simp [hsome]
    · next hnone =>
      simp only [hnone, pure, Except.pure, Except.ok.injEq, true_and]
      exact eq_comm
  · -- too many digits for the context, and too much for the window
    have hquantize : quantizeMoney amount = .error .invalidOperation := if_neg hsize
    simp only [normalizeBidAmount, hquantize, bind, Except.bind]
    refine iff_of_false (by simp) ?_
    rintro ⟨⟨hlow, hle⟩, -⟩
    rw [abs_of_pos (by linarith)] at hsize
    linarith

/-! ## Over all bids -/

/-- A bid that is accepted is in the window, and the window is not empty. -/
theorem reached_placeBid (h : Reached reserve highest) (amount : ℚ) :
    Reached reserve (placeBid reserve highest amount) := by
  unfold placeBid
  split
  · next normalized lo hi hok =>
    obtain ⟨⟨hlow, hhigh⟩, hout⟩ := (h.normalizeBidAmount_ok_iff amount _).mp hok
    obtain ⟨rfl, -⟩ := Prod.ext_iff.mp hout
    split
    · next hfits =>
      obtain ⟨⟨hcents, -⟩, hpos, -⟩ := h.ref
      have hwindow := (window_nonempty_iff hcents hpos).mp (hlow.trans hhigh)
      refine ⟨fun b hb => ?_⟩
      cases hb
      refine ⟨⟨cents_quantize amount, hfits⟩, ?_⟩
      cases highest with
      | none => exact ⟨hlow, hwindow⟩
      | some c =>
        obtain ⟨-, habove, hreserve⟩ := h.bid c rfl
        have hmore : c + 1 ≤ quantize amount := hlow
        exact ⟨by linarith, hreserve⟩
    · exact h
  · exact h

/-- The highest bid after bids of these amounts. -/
def highestAfter (reserve : Reserve) (amounts : List ℚ) : Option ℚ :=
  Run.exec (placeBid reserve) none amounts

theorem reached_highestAfter (reserve : Reserve) (amounts : List ℚ) :
    Reached reserve (highestAfter reserve amounts) :=
  Run.exec_preserves (P := Reached reserve) (fun _ amount h => reached_placeBid h amount) amounts
    ⟨fun b hb => absurd hb (by simp)⟩

/-- **The bid window.** Whatever has been bid: the window is empty exactly where the reserve is
below 1.99 rupees, and there no bid was ever accepted; an amount is accepted exactly if it lies in
the window when it is rounded to two decimals, so an amount of two decimals exactly if it lies in
the window. -/
theorem bid_window (reserve : Reserve) (amounts : List ℚ) :
    let highest := highestAfter reserve amounts
    ∃ least greatest, minRequiredBid (highest.getD 0) reserve.price = .ok least ∧
      maxAllowedBid (highest.getD 0) reserve.price = .ok greatest ∧
      (least ≤ greatest ↔ 199 / 100 ≤ reserve.price) ∧
      (reserve.price < 199 / 100 → highest = none) ∧
      (∀ amount, (∃ out, normalizeBidAmount amount (highest.getD 0) reserve.price = .ok out) ↔
        least ≤ quantize amount ∧ quantize amount ≤ greatest) ∧
      ∀ amount, Cents amount →
        (normalizeBidAmount amount (highest.getD 0) reserve.price = .ok (amount, least, greatest) ↔
          least ≤ amount ∧ amount ≤ greatest) := by
  intro highest
  have h : Reached reserve highest := reached_highestAfter reserve amounts
  obtain ⟨⟨hcents, -⟩, hpos, -⟩ := h.ref
  refine ⟨low reserve highest, high reserve highest, h.minRequiredBid, h.maxAllowedBid, ?_, ?_, ?_,
    ?_⟩
  · refine (window_nonempty_iff hcents hpos).trans ?_
    cases hbid : highest with
    | none => exact Iff.rfl
    | some b =>
      obtain ⟨-, habove, hreserve⟩ := h.bid b hbid
      exact iff_of_true (show 199 / 100 ≤ b by linarith) hreserve
  · intro hsmall
    cases hbid : highest with
    | none => rfl
    | some b => exact absurd (h.bid b hbid).2.2 (not_le.mpr hsmall)
  · intro amount
    constructor
    · rintro ⟨out, hok⟩
      exact ((h.normalizeBidAmount_ok_iff amount out).mp hok).1
    · exact fun hin => ⟨_, (h.normalizeBidAmount_ok_iff amount _).mpr ⟨hin, rfl⟩⟩
  · intro amount htwo
    rw [h.normalizeBidAmount_ok_iff, htwo.quantize]
    simp

def oneRupee : Reserve := ⟨1, by norm_num, ⟨100, by norm_num⟩, by norm_num⟩

def hundredRupees : Reserve := ⟨100, by norm_num, ⟨10000, by norm_num⟩, by norm_num⟩

/-- **A small reserve closes the window**: from one rupee the least bid is 2.00 and the greatest
1.50. And three decimals are no obstacle: from a hundred rupees, 101.004 is accepted as 101. -/
theorem small_reserve_closed :
    minRequiredBid 0 oneRupee.price = .ok 2 ∧ maxAllowedBid 0 oneRupee.price = .ok (3 / 2) ∧
      ¬ (2 : ℚ) ≤ 3 / 2 ∧
      normalizeBidAmount (101004 / 1000) 0 hundredRupees.price = .ok (101, 101, 150) ∧
      ¬ Cents (101004 / 1000) := by
  refine ⟨by decide +kernel, by decide +kernel, by norm_num, by decide +kernel, ?_⟩
  rintro ⟨n, hn⟩
  have hint : (101004 : ℚ) = ((10 * n : ℤ) : ℚ) := by
    push_cast
    linarith
  have hint' : (101004 : ℤ) = 10 * n := by exact_mod_cast hint
  omega

end Deltapreneur.BidWindow
