import Deltapreneur.EdgePoints.Wallet

/-!
# Is what points leave of an order still an order?

Model of the checks of `create_order` (`app/integrations/razorpay/client.py:123-150`) on what
`EdgePointsService.calculate_redemption` leaves of an amount
(`app/service/user/edge_points_service.py:497-524`).

* An amount has two decimals and is a number of paise (`Nat`); a point is ten of them.
* What Razorpay itself says to an order is outside the source.

Results:

* `redemption_chargeable_iff`: the points are within their bounds, the discount is what they are
  worth and the rest can be charged, just when the discount leaves something; in test mode, no more
  than the limit.
-/

namespace Deltapreneur.EdgePoints

/-- `_TEST_MODE_MAX_ORDER_INR`. -/
def TEST_MODE_MAX_ORDER_INR : Nat := 10000000

/-- `create_order` gets past its checks of the amount. -/
def createOrderAccepts (testMode : Bool) (amountInr : Nat) : Prop :=
  0 < amountInr ∧ (testMode = true → amountInr ≤ TEST_MODE_MAX_ORDER_INR)

/-- What an order and the points redeemed for it are to be, of the points `available`. -/
structure Chargeable (testMode : Bool) (available amount : Nat) (order : Nat × Nat) : Prop where
  points : order.2 ≤ min 5000 available
  worth : (amount : Int) - order.1 = 10 * order.2
  accepted : createOrderAccepts testMode order.1

/-- The amount has paise beyond a whole point, and loses them when it is rounded. -/
def RoundsDown (amount : Nat) : Prop :=
  amount % 10 ≠ 0 ∧ (amount % 10 < 5 ∨ amount % 10 = 5 ∧ amount / 10 % 2 = 0)

/-- The most points that may be redeemed, of the points `available`. -/
def pointsCap (available : Nat) (requested : Bool) : Nat :=
  if requested then min 5000 available else 0

/-- The points leave something of the amount and, in test mode, no more than the limit. -/
def LeavesAnOrder (testMode : Bool) (available amount : Nat) (requested : Bool) : Prop :=
  (10 * pointsCap available requested < amount ∨ RoundsDown amount) ∧
    (testMode = true → amount ≤ TEST_MODE_MAX_ORDER_INR + 10 * pointsCap available requested)

variable {amount : Nat}

theorem amountInPoints_cases (amount : Nat) :
    (amount % 10 < 5 ∨ amount % 10 = 5 ∧ amount / 10 % 2 = 0) ∧
        amountInPoints amount = amount / 10 ∨
      ¬ (amount % 10 < 5 ∨ amount % 10 = 5 ∧ amount / 10 % 2 = 0) ∧
        amountInPoints amount = amount / 10 + 1 := by
  unfold amountInPoints
  split_ifs with h
  · exact .inl ⟨h, rfl⟩
  · exact .inr ⟨h, rfl⟩

theorem amountInPoints_lt_iff : 10 * amountInPoints amount < amount ↔ RoundsDown amount := by
  unfold RoundsDown
  rcases amountInPoints_cases amount with ⟨h, heq⟩ | ⟨h, heq⟩ <;> omega

theorem le_amountInPoints (amount : Nat) : amount ≤ 10 * amountInPoints amount + 5 := by
  rcases amountInPoints_cases amount with ⟨h, heq⟩ | ⟨h, heq⟩ <;> omega

theorem calculateRedemption_eq (edgePoints pending : Nat) (requested : Bool) (h : 0 < amount) :
    calculateRedemption edgePoints pending amount requested =
      (amount - 10 * min (pointsCap (edgePoints - pending) requested) (amountInPoints amount),
        min (pointsCap (edgePoints - pending) requested) (amountInPoints amount)) := by
  unfold calculateRedemption pointsCap redeemable
  cases requested with
  | false => simp
  | true =>
    have hshort : ¬ (true = false ∨ amount = 0) := by simp [h.ne']
    rw [if_neg hshort, if_pos rfl, min_assoc]
    split_ifs with hempty
    · simp [hempty]
    · rfl

/-- **What points leave is an order**, and the discount what they are worth, just when the cap on
the points is below the amount, or the amount is rounded down; in test mode the limit counts too. -/
theorem redemption_chargeable_iff (testMode : Bool) (w : Wallets) (user : UserId) (amount : Nat)
    (requested : Bool) (h : 0 < amount) :
    Chargeable testMode (w.edgePoints user - w.pending user) amount
        (calculateRedemption (w.edgePoints user) (w.pending user) amount requested) ↔
      LeavesAnOrder testMode (w.edgePoints user - w.pending user) amount requested := by
  rw [calculateRedemption_eq _ _ _ h]
  generalize w.edgePoints user - w.pending user = available
  have hcap : pointsCap available requested ≤ min 5000 available := by
    unfold pointsCap
    split_ifs
    · exact le_rfl
    · exact Nat.zero_le _
  have hnear := le_amountInPoints amount
  have hlimit : 5 ≤ TEST_MODE_MAX_ORDER_INR := by decide
  rw [LeavesAnOrder, ← amountInPoints_lt_iff]
  generalize pointsCap available requested = cap at hcap ⊢
  generalize amountInPoints amount = whole at hnear ⊢
  constructor
  · rintro ⟨-, hworth, hpos, htest⟩
    dsimp only at hworth hpos htest
    refine ⟨by omega, fun hmode => ?_⟩
    have hle := htest hmode
    omega
  · rintro ⟨hleaves, htest⟩
    refine ⟨(min_le_left cap whole).trans hcap, by dsimp only; omega, by dsimp only; omega,
      fun hmode => ?_⟩
    have hle := htest hmode
    dsimp only
    omega

def sixHundred : Wallets := ⟨fun _ => 600, [], []⟩

/-- 100 rupees less 60. -/
theorem redemption_chargeable_partly :
    Chargeable false (sixHundred.edgePoints 1 - sixHundred.pending 1) 10000
        (calculateRedemption (sixHundred.edgePoints 1) (sixHundred.pending 1) 10000 true) ↔
      LeavesAnOrder false (sixHundred.edgePoints 1 - sixHundred.pending 1) 10000 true :=
  redemption_chargeable_iff false sixHundred 1 10000 true (by decide)

/-- **Points pay for the whole of 50 rupees, and no order is opened**; and ten points are taken for
96 paise. -/
theorem whole_amount_redeemed :
    ¬ Chargeable false 600 5000 (calculateRedemption 600 0 5000 true) ∧
      ¬ Chargeable false 600 96 (calculateRedemption 600 0 96 true) :=
  ⟨fun h => absurd h.accepted.1 (by decide), fun h => absurd h.worth (by decide)⟩

end Deltapreneur.EdgePoints
