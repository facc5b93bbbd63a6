import Deltapreneur.Cart.Stamps
import Deltapreneur.Technology.SoftwarePrice
import Deltapreneur.Technology.SharedRefunds
import Deltapreneur.Venture.PaidPrice

/-!
# What a refunded buyer of software gets back

`admin_refund` (`app/service/cocreation/cocreation_payment_service.py:650-717`) asks for 1.18 times
the gross amount of the purchase, and `refund_payment` (`app/integrations/razorpay/client.py:331-428`)
sends the request on, cut down to what is left of the payment. The charge was computed elsewhere:

* an order at 1.18 times price, fee and add-ons (`create_purchase_order`);
* a cart line with its add-ons and fee, taxed by `domain_price_breakdown`, less its part of the
  Edge Points (`app/service/cart/cart_checkout_service.py:846-858, 952-959, 1730-1872`); the
  purchase keeps the price of the fulfilment (`2736-2830`);
* a won auction at the bid without tax, less the Edge Points
  (`app/service/cocreation/software_auction_service.py:775-862`,
  `cocreation_payment_service.py:557-608`).

Amounts are exact; `paise` rounds half to even. The charge of a payment in another currency is the
one in INR, before it is converted.

Results:

* `charge_repaid`: nothing but the price and its 18 percent was charged (`Plain`), so the request is
  the charge; or nothing more was (`CostsNoMore`), so `refund_payment` cuts it down to the charge. In
  whole paise (`InPaise`) the request is the charge in no other case.
* `addons_not_repaid`: an order with an add-on.
-/

namespace Deltapreneur.RefundedCharge

open RegistrationPrice (Gst domainPriceBreakdown)
open Decimal
open PyValue (Lang)
open Razorpay (Payment)
open SoftwarePrice
open VentureDeals (calculateRedemption)

/-! ## Requests and charges -/

/-- `_to_smallest_unit(amount, "INR")`. -/
def paise (amount : ℚ) : Paise := (roundEven (amount * 100)).toNat

/-- What `admin_refund` asks `refund_payment` for. -/
def refundRequest (grossAmountInr : ℚ) : Paise := paise (round2 (grossAmountInr * 1.18))

/-- A purchase, with what its buyer was charged in INR. -/
structure Sale where
  grossAmountInr : ℚ
  charged : ℚ
  deriving Repr, DecidableEq

/-- The request is what was charged, and was captured. -/
structure Sale.Repaid (s : Sale) (captured : Paise) : Prop where
  same : refundRequest s.grossAmountInr = paise s.charged
  covered : refundRequest s.grossAmountInr ≤ captured

/-- What `refund_payment` sends on for a payment of which nothing was refunded. -/
def Sale.sent (s : Sale) (captured : Paise) : Paise :=
  (Payment.fresh captured).refundAmount (refundRequest s.grossAmountInr)

/-- How a purchase came about. -/
inductive Bought
  | order (env : Env) (software : Software) (req : Request)
  /-- The listing at the checkout and at the fulfilment; `addonAmount` is what
  `resolve_live_compliance_addon_amount` says. -/
  | cartLine (gst : Gst) (listed sold : Software) (selectedPlan : Option Text) (addonAmount : ℚ)
      (coBrotherOptIn : Bool) (pointsInr : ℚ)
  | auction (currentHighestBid : ℚ) (available : ℕ) (redeemPoints : Bool)

/-- `base_price` of a cart line. -/
def lineBase (software : Software) (selectedPlan : Option Text) : ℚ :=
  software.basePrice (selectedPlan.bind durationOf)

/-- `_resolve_line_total` of a software line. -/
def resolveLineTotal (base addonAmount : ℚ) (coBrotherOptIn : Bool) : ℚ :=
  round2 (base + addonAmount + coBrotherFee coBrotherOptIn)

/-- What the line costs with its tax and without the points. -/
def lineCharge (gst : Gst) (base addonAmount : ℚ) (coBrotherOptIn : Bool) (pointsInr : ℚ) : ℚ :=
  (domainPriceBreakdown gst (resolveLineTotal base addonAmount coBrotherOptIn)).totalInr - pointsInr

/-- What the winner pays. -/
def winnerCharge (bid : ℚ) (available : ℕ) (redeemPoints : Bool) : ℚ :=
  (calculateRedemption bid available redeemPoints).1

variable (L : Lang)

/-- The purchase, unless the payment order was refused. -/
def Bought.sale : Bought → Option Sale
  | .order env software req =>
    match createPurchaseOrder L env software req with
    | .ok opened => some ⟨opened.grossAmountInr, opened.charge⟩
    | .error _ => none
  | .cartLine gst listed sold plan addonAmount optIn pointsInr =>
    some ⟨lineBase sold plan, lineCharge gst (lineBase listed plan) addonAmount optIn pointsInr⟩
  | .auction bid available redeemPoints =>
    if bid ≤ 0 ∨ winnerCharge bid available redeemPoints ≤ 0 then none
    else some ⟨bid, winnerCharge bid available redeemPoints⟩

/-- The price that the purchase keeps. -/
def Bought.price : Bought → ℚ
  | .order _ software req => software.basePrice ((planEnum req.selectedPlan).getD none)
  | .cartLine _ _ sold plan _ _ _ => lineBase sold plan
  | .auction bid _ _ => bid

/-- What fee, add-ons and a new price add to the price that the purchase keeps. -/
def Bought.extras : Bought → ℚ
  | .order _ _ req => coBrotherFee req.coBrotherOptIn +
      effectiveAddon req.addonAmount (((parseAddonServices L req.services).map Prod.fst).getD 0)
  | .cartLine _ listed sold plan addonAmount optIn _ =>
    lineBase listed plan + addonAmount + coBrotherFee optIn - lineBase sold plan
  | .auction _ _ _ => 0

/-! ## The conditions -/

/-- The buyer owed the price with 18 percent on it. The checkout and the refund round the tax of a
line of 75 paise differently; the winner of an auction pays no tax. -/
def Bought.Plain (b : Bought) : Prop :=
  match b with
  | .order .. => b.extras L = 0
  | .cartLine gst _ _ _ _ _ pointsInr => gst.onTop = 18 / 100 ∧ b.extras L = 0 ∧ pointsInr = 0 ∧
      ∃ k : ℕ, b.price = k / 100 ∧ k % 100 ≠ 75
  | .auction .. => ∃ k : ℕ, b.price = k / 100 ∧ k ≤ 2

/-- The buyer owed no more than that. -/
def Bought.CostsNoMore (b : Bought) : Prop :=
  match b with
  | .order .. => b.extras L ≤ 0
  | .cartLine gst _ _ _ _ _ pointsInr => gst.onTop = 18 / 100 ∧ 0 ≤ pointsInr ∧
      ∃ k m : ℕ, b.price = k / 100 ∧ b.price + b.extras L = m / 100 ∧ m ≤ k ∧ k % 100 ≠ 75
  | .auction .. => True

/-- Whole paise; at a cart's checkout 18 percent on top and no points. -/
def Bought.InPaise (b : Bought) : Prop :=
  match b with
  | .order .. => ∃ (k : ℕ) (j : ℤ), 0 < k ∧ b.price = k / 100 ∧ b.extras L = j / 100
  | .cartLine gst _ _ _ _ _ pointsInr => gst.onTop = 18 / 100 ∧ pointsInr = 0 ∧
      ∃ k m : ℕ, b.price = k / 100 ∧ b.price + b.extras L = m / 100
  | .auction .. => ∃ k : ℕ, b.price = k / 100

/-! ## Rounding -/

variable {L} {q bid : ℚ} {b : Bought} {s : Sale} {gst : Gst} {k m : ℕ}

theorem paise_round2 (q : ℚ) : paise (round2 q) = paise q := by
  have hmul : (roundEven (q * 100) : ℚ) / 100 * 100 = roundEven (q * 100) := by ring
  rw [paise, round2, hmul, roundEven_intCast, paise]

theorem refundRequest_eq (gross : ℚ) : refundRequest gross = paise (gross * 1.18) := paise_round2 _

theorem paise_mono {p : ℚ} (h : p ≤ q) : paise p ≤ paise q :=
  Int.toNat_le_toNat (roundEven_mono (by linarith))

theorem paise_natCast (n : ℕ) : paise (n / 100) = n := by
  have hmul : (n / 100 : ℚ) * 100 = (n : ℤ) := by
    push_cast
    ring
  rw [paise, hmul, roundEven_intCast, Int.toNat_natCast]

/-- 1.18 times whole paise. -/
def taxed (n : ℤ) : ℕ := (roundEven ((118 * n : ℤ) / 100)).toNat

theorem paise_taxed (n : ℤ) : paise (n / 100 * 1.18) = taxed n := by
  have hmul : (n / 100 * 1.18 : ℚ) * 100 = (118 * n : ℤ) / 100 := by
    push_cast
    ring
  rw [paise, hmul, taxed]

theorem paise_taxed_natCast (k : ℕ) : paise (k / 100 * 1.18) = taxed k := by
  rw [← paise_taxed, Int.cast_natCast]

theorem taxed_eq_iff (k m : ℕ) : taxed k = m + (18 * m + 50) / 100 ↔ k = m ∧ k % 100 ≠ 75 := by
  rw [taxed, roundEven_div_hundred]
  split_ifs <;> omega

theorem taxed_le_iff (k : ℕ) : taxed k ≤ k ↔ k ≤ 2 := by
  rw [taxed, roundEven_div_hundred]
  split_ifs <;> omega

theorem le_taxed (k : ℕ) : k ≤ taxed k := by
  rw [taxed, roundEven_div_hundred]
  split_ifs <;> omega

theorem eq_zero_of_taxed {k : ℕ} {j : ℤ} (hk : 0 < k) (h : taxed k = taxed (k + j)) : j = 0 := by
  rw [taxed, taxed, roundEven_div_hundred, roundEven_div_hundred] at h
  split_ifs at h <;> omega

theorem totalInr_paise (hgst : gst.onTop = 18 / 100) (k : ℕ) :
    (domainPriceBreakdown gst (k / 100)).totalInr = (k + (18 * k + 50) / 100 : ℕ) / 100 := by
  have hwhole : quantize (k / 100 : ℚ) = k / 100 := Cents.quantize ⟨k, by push_cast; rfl⟩
  have htax : quantize (k / 100 * (18 / 100) : ℚ) = ((18 * k + 50) / 100 : ℕ) / 100 := by
    have hmul : (k / 100 * (18 / 100) : ℚ) * 100 = (18 * k : ℕ) / 100 := by
      push_cast
      ring
    rw [quantize, hmul, roundAway_div_hundred]
    rfl
  rw [RegistrationPrice.totalInr_eq, hgst, hwhole, htax]
  push_cast
  ring

/-! ## The refund -/

theorem sale_eq (h : b.sale L = some s) : s.grossAmountInr = b.price := by
  cases b with
  | order env software req =>
    simp only [Bought.sale] at h
    cases horder : createPurchaseOrder L env software req with
    | error e => simp [horder] at h
    | ok opened =>
      obtain ⟨parsed, keys, plan, -, hplan, -, hgross, -⟩ := createPurchaseOrder_charge horder
      simp only [horder, Option.some.injEq] at h
      rw [← h]
      simp [Bought.price, hplan, hgross]
  | cartLine gst listed sold plan addonAmount optIn pointsInr => rw [← Option.some.inj h]; rfl
  | auction bid available redeemPoints =>
    simp only [Bought.sale] at h
    split_ifs at h
    rw [← Option.some.inj h]
    rfl

theorem charged_order {env : Env} {software : Software} {req : Request}
    (h : (Bought.order env software req).sale L = some s) :
    s.charged = ((Bought.order env software req).price +
      (Bought.order env software req).extras L) * 1.18 := by
  simp only [Bought.sale] at h
  cases horder : createPurchaseOrder L env software req with
  | error e => simp [horder] at h
  | ok opened =>
    obtain ⟨parsed, keys, plan, hparsed, hplan, hcharge, -⟩ := createPurchaseOrder_charge horder
    simp only [horder, Option.some.injEq] at h
    rw [← h]
    simp only [hcharge, Bought.price, Bought.extras, hparsed, hplan, Option.map_some,
      Option.getD_some]
    ring

theorem charged_cartLine {listed sold : Software} {plan : Option Text} {addonAmount pointsInr : ℚ}
    {optIn : Bool}
    (h : (Bought.cartLine gst listed sold plan addonAmount optIn pointsInr).sale L = some s)
    (hgst : gst.onTop = 18 / 100)
    (hm : (Bought.cartLine gst listed sold plan addonAmount optIn pointsInr).price +
      (Bought.cartLine gst listed sold plan addonAmount optIn pointsInr).extras L = m / 100) :
    s.charged = (m + (18 * m + 50) / 100 : ℕ) / 100 - pointsInr := by
  have htotal : resolveLineTotal (lineBase listed plan) addonAmount optIn = m / 100 := by
    have hsum : lineBase listed plan + addonAmount + coBrotherFee optIn = m / 100 := by
      rw [← hm, Bought.price, Bought.extras]
      ring
    rw [resolveLineTotal, hsum]
    exact Cents.round2 ⟨m, by push_cast; rfl⟩
  rw [← Option.some.inj h]
  show lineCharge gst (lineBase listed plan) addonAmount optIn pointsInr = _
  rw [lineCharge, htotal, totalInr_paise hgst]

theorem charged_auction {available : ℕ} {redeemPoints : Bool}
    (h : (Bought.auction bid available redeemPoints).sale L = some s) :
    0 < bid ∧ s.charged = winnerCharge bid available redeemPoints ∧ s.charged ≤ bid := by
  simp only [Bought.sale] at h
  split_ifs at h with hno
  obtain ⟨hbid, hcharge⟩ := not_or.mp hno
  have hle : winnerCharge bid available redeemPoints ≤ bid := by
    unfold winnerCharge calculateRedemption
    split_ifs
    · exact le_rfl
    · exact le_rfl
    · refine max_le (not_le.mp hbid).le (sub_le_self _ ?_)
      positivity
  rw [← Option.some.inj h]
  exact ⟨not_le.mp hbid, rfl, hle⟩

theorem winnerCharge_small {available : ℕ} {redeemPoints : Bool} (hk : k ≤ 2) :
    winnerCharge (k / 100) available redeemPoints = k / 100 := by
  have hpoints : roundEven (k / 100 * 10 : ℚ) = 0 := by
    have hmul : (k / 100 * 10 : ℚ) = ((10 * k : ℕ) : ℤ) / 100 := by
      push_cast
      ring
    rw [hmul, roundEven_div_hundred, if_pos (by omega)]
    omega
  unfold winnerCharge calculateRedemption
  split_ifs
  · rfl
  · rfl
  · simp only [hpoints, Int.toNat_zero, Nat.min_zero, Nat.cast_zero, zero_div, sub_zero]
    exact max_eq_right (by positivity)

theorem repaid_of_eq {rest : Paise}
    (h : paise (s.grossAmountInr * 1.18) = paise s.charged) : s.Repaid (paise s.charged + rest) := by
  rw [← refundRequest_eq] at h
  exact ⟨h, h ▸ Nat.le_add_right _ _⟩

theorem sent_eq (captured : Paise) :
    s.sent captured = min (paise (s.grossAmountInr * 1.18)) captured := by
  rw [← refundRequest_eq]
  rfl

theorem plain_repaid (h : b.sale L = some s) (hplain : b.Plain L) :
    paise (s.grossAmountInr * 1.18) = paise s.charged := by
  rw [sale_eq h]
  cases b with
  | order env software req =>
    have hextras : (Bought.order env software req).extras L = 0 := hplain
    rw [charged_order h, hextras, add_zero]
  | cartLine gst listed sold plan addonAmount optIn pointsInr =>
    obtain ⟨hgst, hextras, rfl, k, hk, h75⟩ := hplain
    rw [charged_cartLine h hgst (m := k) (by rw [hextras, add_zero, hk]), sub_zero, paise_natCast,
      hk, paise_taxed_natCast]
    exact (taxed_eq_iff k k).mpr ⟨rfl, h75⟩
  | auction bid available redeemPoints =>
    obtain ⟨k, hk, hle⟩ := hplain
    obtain rfl : bid = k / 100 := hk
    rw [(charged_auction h).2.1, winnerCharge_small hle, paise_natCast, Bought.price,
      paise_taxed_natCast]
    exact le_antisymm ((taxed_le_iff k).mpr hle) (le_taxed k)

theorem costsNoMore_le (h : b.sale L = some s) (hmore : b.CostsNoMore L) :
    paise s.charged ≤ paise (s.grossAmountInr * 1.18) := by
  rw [sale_eq h]
  cases b with
  | order env software req =>
    have hextras : (Bought.order env software req).extras L ≤ 0 := hmore
    rw [charged_order h]
    exact paise_mono (by linarith)
  | cartLine gst listed sold plan addonAmount optIn pointsInr =>
    obtain ⟨hgst, hpoints, k, m, hk, hm, hle, h75⟩ := hmore
    rw [charged_cartLine h hgst hm, hk, paise_taxed_natCast, (taxed_eq_iff k k).mpr ⟨rfl, h75⟩]
    refine (paise_mono (sub_le_self _ hpoints)).trans ?_
    rw [paise_natCast]
    exact Nat.add_le_add hle (Nat.div_le_div_right (by omega))
  | auction bid available redeemPoints =>
    obtain ⟨hbid, -, hle⟩ := charged_auction h
    have hprice : (Bought.auction bid available redeemPoints).price = bid := rfl
    exact paise_mono (by rw [hprice]; linarith)

theorem plain_of_repaid (h : b.sale L = some s) (hpaise : b.InPaise L)
    (heq : paise (s.grossAmountInr * 1.18) = paise s.charged) : b.Plain L := by
  rw [sale_eq h] at heq
  cases b with
  | order env software req =>
    obtain ⟨k, j, hpos, hk, hj⟩ := hpaise
    have hsum : (k / 100 + j / 100 : ℚ) = (k + j : ℤ) / 100 := by
      push_cast
      ring
    rw [charged_order h, hk, hj, hsum, paise_taxed_natCast, paise_taxed] at heq
    show Bought.extras L _ = 0
    rw [hj, eq_zero_of_taxed hpos heq, Int.cast_zero, zero_div]
  | cartLine gst listed sold plan addonAmount optIn pointsInr =>
    obtain ⟨hgst, rfl, k, m, hk, hm⟩ := hpaise
    rw [charged_cartLine h hgst hm, sub_zero, paise_natCast, hk, paise_taxed_natCast] at heq
    obtain ⟨rfl, h75⟩ := (taxed_eq_iff k m).mp heq
    exact ⟨hgst, by linarith, rfl, k, hk, h75⟩
  | auction bid available redeemPoints =>
    obtain ⟨k, hk⟩ := hpaise
    obtain rfl : bid = k / 100 := hk
    have hle := paise_mono (charged_auction h).2.2
    rw [← heq, paise_natCast, Bought.price, paise_taxed_natCast] at hle
    exact ⟨k, rfl, (taxed_le_iff k).mp hle⟩

/-- **The buyer gets back the charge.** Of a payment that captured the charge, and `rest` for other
lines, `admin_refund` asks for the charge if the purchase was plain, and in whole paise only then. A
payment for this purchase alone is cut down to the charge if it cost no more. What is sent is never
more than what was captured. -/
theorem charge_repaid (h : b.sale L = some s) (rest : Paise) :
    (b.Plain L → s.Repaid (paise s.charged + rest) ∧
      s.sent (paise s.charged + rest) = paise s.charged) ∧
    (rest = 0 → b.CostsNoMore L → s.sent (paise s.charged + rest) = paise s.charged) ∧
    (b.InPaise L → s.Repaid (paise s.charged + rest) → b.Plain L) ∧
    s.sent (paise s.charged + rest) ≤ paise s.charged + rest := by
  refine ⟨fun hplain => ?_, fun hrest hmore => ?_, fun hpaise hrepaid => ?_, ?_⟩
  · have heq := plain_repaid h hplain
    refine ⟨repaid_of_eq heq, ?_⟩
    rw [sent_eq, heq]
    exact Nat.min_eq_left (Nat.le_add_right _ _)
  · rw [sent_eq, hrest, Nat.add_zero]
    exact Nat.min_eq_right (costsNoMore_le h hmore)
  · refine plain_of_repaid h hpaise ?_
    rw [← refundRequest_eq]
    exact hrepaid.same
  · rw [sent_eq]
    exact Nat.min_le_right _ _

/-- An order of the listing at 1000 rupees with an add-on. -/
def orderWith (addonAmount : ℚ) : Bought :=
  .order openShop listed ⟨false, addonAmount, .none, .none, "INR".toList⟩

theorem orderWith_zero_inPaise : (orderWith 0).InPaise plainLang :=
  ⟨100000, 0, by norm_num, by decide +kernel, by decide +kernel⟩

theorem charge_repaid_plain : (Sale.mk 1000 1180).Repaid (paise 1180 + 5) ∧
    (Sale.mk 1000 1180).sent (paise 1180 + 0) = paise 1180 ∧ (orderWith 0).Plain plainLang := by
  have hsale : (orderWith 0).sale plainLang = some ⟨1000, 1180⟩ := by decide +kernel
  have hextras : (orderWith 0).extras plainLang = 0 := by decide +kernel
  have hrepaid := ((charge_repaid hsale 5).1 hextras).1
  exact ⟨hrepaid, (charge_repaid hsale 0).2.1 rfl hextras.le,
    (charge_repaid hsale 5).2.2.1 orderWith_zero_inPaise hrepaid⟩

/-- 1770 rupees were charged for a price of 1000 with an add-on of 500, and 1180 go back. -/
theorem addons_not_repaid :
    ¬ ∀ (L : Lang) (b : Bought) (s : Sale) (rest : Paise), b.sale L = some s →
      s.Repaid (paise s.charged + rest) ∨ s.sent (paise s.charged + rest) = paise s.charged := by
  intro h
  have hsale : (orderWith 500).sale plainLang = some ⟨1000, 1770⟩ := by decide +kernel
  rcases h plainLang (orderWith 500) ⟨1000, 1770⟩ 0 hsale with hrepaid | hsent
  · exact absurd hrepaid.same (by decide +kernel)
  · exact absurd hsent (by decide +kernel)

end Deltapreneur.RefundedCharge
