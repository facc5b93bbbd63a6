import Deltapreneur.Cart.Requote
import Deltapreneur.Cart.Shown

/-!
# The breakdown of a price, and the stamps of a checkout

Model of `domain_price_breakdown` (`app/utils/domain_gst.py:15-47`) for any number of years, and of
the amounts that `create_checkout_order` stamps on the lines it charges
(`app/service/cart/cart_checkout_service.py:846-860, 942-958`).

* Amounts are exact, and the GST settings are any.
* The checkout works out the tax once, on the sum of its lines; a stamp has the tax of its own line.
  Listings and technology are stamped. A registration has its amounts in its order's row, and a
  venture deal has none.

Results:

* `gst_breakdown_exact`: the three amounts of a breakdown are whole paise that add up, the tax is
  not negative, the total grows with the price and, with GST included, is the rounded price.
* `stamps_add_up_iff`: every stamp adds up; together they are the order just when the other lines,
  with their tax, and what rounding adds to the stamps cancel to less than half a paisa.
-/

namespace Deltapreneur.RegistrationPrice

open Decimal

/-! ## The breakdown -/

/-- `domain_price_breakdown(unit, years)`. -/
def domainPriceBreakdownFor (g : Gst) (unitBaseInr : ℚ) (years : ℤ) : Breakdown :=
  domainPriceBreakdown g (unitBaseInr * (max 1 years : ℤ))

/-- The amounts are whole paise and add up. -/
structure Breakdown.Exact (b : Breakdown) : Prop where
  subtotal : Cents b.subtotalInr
  gst : Cents b.gstInr
  total : Cents b.totalInr
  sum : b.subtotalInr + b.gstInr = b.totalInr
  nonneg : 0 ≤ b.gstInr

/-- What the tax adds to a price, as a share of it. -/
def Gst.onTop (g : Gst) : ℚ := if (g.enabled ∧ 0 < g.rate) ∧ ¬ g.inclusive then g.rate / 100 else 0

variable {g : Gst} {x y : ℚ}

theorem onTop_nonneg : 0 ≤ g.onTop := by
  unfold Gst.onTop
  split_ifs with h
  · have hrate := h.1.2
    positivity
  · exact le_rfl

theorem breakdown_exact (hx : 0 ≤ x) : (domainPriceBreakdown g x).Exact := by
  have hsub := cents_quantize x
  have hpos := quantize_nonneg hx
  unfold domainPriceBreakdown
  dsimp only
  split_ifs with hon hin
  · have hrate : 0 < g.rate := hon.2
    have hgst := cents_quantize (quantize x - quantize x / (1 + g.rate / 100))
    have hle : quantize x / (1 + g.rate / 100) ≤ quantize x :=
      div_le_self hpos (by linarith [div_pos hrate (by norm_num : (0 : ℚ) < 100)])
    refine ⟨cents_quantize _, hgst, hsub, ?_, quantize_nonneg (by linarith)⟩
    dsimp only
    rw [(hsub.sub hgst).quantize]
    ring
  · have hrate : 0 < g.rate := hon.2
    have hgst := cents_quantize (quantize x * g.rate / 100)
    exact ⟨hsub, hgst, cents_quantize _, (hsub.add hgst).quantize.symm,
      quantize_nonneg (by positivity)⟩
  · exact ⟨hsub, ⟨0, by simp⟩, hsub, add_zero _, le_rfl⟩

theorem totalInr_eq (g : Gst) (x : ℚ) :
    (domainPriceBreakdown g x).totalInr = quantize x + quantize (quantize x * g.onTop) := by
  have hzero : quantize 0 = 0 := by norm_num [quantize, roundAway]
  unfold domainPriceBreakdown Gst.onTop
  dsimp only
  by_cases hon : g.enabled ∧ 0 < g.rate
  · by_cases hin : g.inclusive = true
    · simp [hon, hin, hzero]
    · rw [if_neg (not_not.mpr hon), if_neg hin, if_pos ⟨hon, hin⟩, mul_div_assoc]
      exact ((cents_quantize x).add (cents_quantize _)).quantize
  · rw [if_pos hon, if_neg fun h => hon h.1]
    simp [hzero]

theorem totalInr_mono (hx : 0 ≤ x) (h : x ≤ y) :
    (domainPriceBreakdown g x).totalInr ≤ (domainPriceBreakdown g y).totalInr := by
  have hsub := quantize_mono hx h
  have htop := mul_le_mul_of_nonneg_right hsub (onTop_nonneg (g := g))
  have hgst := quantize_mono (mul_nonneg (quantize_nonneg hx) onTop_nonneg) htop
  rw [totalInr_eq, totalInr_eq]
  exact add_le_add hsub hgst

theorem totalInr_inclusive (h : g.inclusive = true) :
    (domainPriceBreakdown g x).totalInr = quantize x := by
  unfold domainPriceBreakdown
  dsimp only
  split_ifs <;> rfl

/-- **The breakdown is exact.** -/
theorem gst_breakdown_exact (g : Gst) {unitBaseInr : ℚ} (years : ℤ) (h : 0 ≤ unitBaseInr) :
    (domainPriceBreakdownFor g unitBaseInr years).Exact ∧
      (∀ unit', unitBaseInr ≤ unit' → (domainPriceBreakdownFor g unitBaseInr years).totalInr ≤
        (domainPriceBreakdownFor g unit' years).totalInr) ∧
      (g.inclusive = true → (domainPriceBreakdownFor g unitBaseInr years).totalInr =
        quantize (unitBaseInr * (max 1 years : ℤ))) ∧
      (domainPriceBreakdownFor g unitBaseInr years).totalInr =
        quantize (unitBaseInr * (max 1 years : ℤ)) +
          quantize (quantize (unitBaseInr * (max 1 years : ℤ)) * g.onTop) := by
  have hyears : (0 : ℚ) ≤ (max 1 years : ℤ) := by exact_mod_cast le_max_of_le_left Int.one_nonneg
  have hbase := mul_nonneg h hyears
  exact ⟨breakdown_exact hbase,
    fun unit' hle => totalInr_mono hbase (mul_le_mul_of_nonneg_right hle hyears),
    totalInr_inclusive, totalInr_eq g _⟩

/-- A price of 99.99 rupees for two years, with GST of 18 percent included. -/
theorem gst_breakdown_exact_included :
    let b := domainPriceBreakdownFor ⟨true, 18, true⟩ 99.99 2
    b.Exact ∧
      (∀ unit', 99.99 ≤ unit' →
        b.totalInr ≤ (domainPriceBreakdownFor ⟨true, 18, true⟩ unit' 2).totalInr) ∧
      (true = true → b.totalInr = quantize (99.99 * (max 1 2 : ℤ))) ∧
      b.totalInr = quantize (99.99 * (max 1 2 : ℤ)) +
        quantize (quantize (99.99 * (max 1 2 : ℤ)) * Gst.onTop ⟨true, 18, true⟩) :=
  gst_breakdown_exact ⟨true, 18, true⟩ 2 (by norm_num)

end Deltapreneur.RegistrationPrice

namespace Deltapreneur.Cart

open Decimal Marketplace RegistrationPrice

/-! ## The stamps -/

/-- The line gets `_checkout_subtotal_inr`, `_checkout_gst_inr` and `_checkout_total_inr`. -/
def CartItem.taxStamped (it : CartItem) : Bool :=
  it.productType = .domainListing || it.productType = .technology

/-- `listing_tax` of a line. -/
def lineBreakdown (g : Gst) (line : Paise) : Breakdown := domainPriceBreakdown g ((line : ℚ) / 100)

/-- The three stamps of a line, when it is charged and gets them. -/
def CartItem.taxStamp (g : Gst) (cat : Catalogue) (it : CartItem) : Option Breakdown :=
  if it.taxStamped then (it.lineTotal cat).map (lineBreakdown g) else none

def taxStamps (g : Gst) (cat : Catalogue) (items : List CartItem) : List Breakdown :=
  items.filterMap fun it => it.taxStamp g cat

/-- `pricing["totalInr"]`, over the lines that are charged. -/
def orderAmountInr (g : Gst) (cat : Catalogue) (items : List CartItem) : ℚ :=
  (lineBreakdown g (items.filterMap fun it => it.lineTotal cat).sum).totalInr

/-- The totals of the lines that are stamped, and of the others, in paise. -/
def stampedLines (cat : Catalogue) (items : List CartItem) : List Paise :=
  (items.filter CartItem.taxStamped).filterMap fun it => it.lineTotal cat

def otherLines (cat : Catalogue) (items : List CartItem) : List Paise :=
  (items.filter fun it => !it.taxStamped).filterMap fun it => it.lineTotal cat

/-- The tax on a line, before and after it is rounded. -/
def exactTax (g : Gst) (line : Paise) : ℚ := (line : ℚ) / 100 * g.onTop

def lineTax (g : Gst) (line : Paise) : ℚ := quantize (exactTax g line)

/-- The other lines with their tax, less what rounding adds to the stamps, in rupees. -/
def stampGap (g : Gst) (cat : Catalogue) (items : List CartItem) : ℚ :=
  (otherLines cat items).sum / 100 * (1 + g.onTop) -
    ((stampedLines cat items).map fun line => lineTax g line - exactTax g line).sum

variable {g : Gst} {cat : Catalogue}

theorem cents_paise (n : Paise) : Cents ((n : ℚ) / 100) := ⟨n, by rw [Int.cast_natCast]⟩

theorem exactTax_add (g : Gst) (m n : Paise) :
    exactTax g (m + n) = exactTax g m + exactTax g n := by
  simp only [exactTax]
  push_cast
  ring

theorem sum_lines (cat : Catalogue) (items : List CartItem) :
    (items.filterMap fun it => it.lineTotal cat).sum =
      (stampedLines cat items).sum + (otherLines cat items).sum := by
  rw [stampedLines, otherLines, ← List.sum_append, ← List.filterMap_append]
  exact ((List.filter_append_perm CartItem.taxStamped items).filterMap _).sum_eq.symm

theorem taxStamps_eq (g : Gst) (cat : Catalogue) (items : List CartItem) :
    taxStamps g cat items = (stampedLines cat items).map (lineBreakdown g) := by
  rw [taxStamps, stampedLines, List.map_filterMap, List.filterMap_filter]
  rfl

theorem totalInr_line (g : Gst) (line : Paise) :
    (lineBreakdown g line).totalInr = line / 100 + lineTax g line := by
  rw [lineBreakdown, totalInr_eq, (cents_paise line).quantize]
  rfl

/-- The stamps together: the lines, and the tax on each, which is whole paise and differs from the
exact tax by what rounding adds. -/
theorem sum_totals (g : Gst) (lines : List Paise) :
    Cents (lines.map (lineTax g)).sum ∧
      ((lines.map (lineBreakdown g)).map Breakdown.totalInr).sum =
        lines.sum / 100 + (lines.map (lineTax g)).sum ∧
      (lines.map (lineTax g)).sum =
        exactTax g lines.sum + (lines.map fun line => lineTax g line - exactTax g line).sum := by
  induction lines with
  | nil => exact ⟨⟨0, by simp⟩, by simp, by simp [exactTax]⟩
  | cons line lines ih =>
    obtain ⟨hcents, htotal, htax⟩ := ih
    simp only [List.map_cons, List.sum_cons]
    refine ⟨(cents_quantize _).add hcents, ?_, ?_⟩
    · rw [htotal, totalInr_line]
      push_cast
      ring
    · rw [htax, exactTax_add]
      ring

/-- **The stamps and the charge.** Every stamp of a cart adds up, to the paisa; together they are
the order's amount if and only if the lines that are not stamped, with their tax, and what rounding adds
to the stamps cancel to less than half a paisa. -/
theorem stamps_add_up_iff (g : Gst) (cat : Catalogue) (items : List CartItem) :
    (∀ stamp ∈ taxStamps g cat items, stamp.Exact) ∧
      (((taxStamps g cat items).map Breakdown.totalInr).sum = orderAmountInr g cat items ↔
        -1 / 200 ≤ stampGap g cat items ∧ stampGap g cat items < 1 / 200) := by
  constructor
  · rw [taxStamps_eq]
    intro stamp hstamp
    obtain ⟨line, -, rfl⟩ := List.mem_map.mp hstamp
    exact breakdown_exact (div_nonneg line.cast_nonneg (by norm_num))
  · obtain ⟨hcents, htotal, htax⟩ := sum_totals g (stampedLines cat items)
    rw [taxStamps_eq, htotal, orderAmountInr, totalInr_line, sum_lines, stampGap]
    have hpos : 0 ≤ exactTax g ((stampedLines cat items).sum + (otherLines cat items).sum) :=
      mul_nonneg (div_nonneg (Nat.cast_nonneg _) (by norm_num)) onTop_nonneg
    have hround := (hcents.sub (cents_paise (otherLines cat items).sum)).quantize_eq_iff hpos
    change lineTax g _ = _ ↔ _ at hround
    have hother : ((otherLines cat items).sum : ℚ) / 100 * (1 + g.onTop) =
        (otherLines cat items).sum / 100 + exactTax g (otherLines cat items).sum := by
      rw [exactTax]
      ring
    rw [exactTax_add] at hround
    rw [hother]
    simp only [Nat.cast_add]
    constructor
    · intro h
      obtain ⟨hlow, hhigh⟩ := hround.mp (by linarith)
      constructor <;> linarith
    · rintro ⟨hlow, hhigh⟩
      linarith [hround.mpr ⟨by linarith, by linarith⟩]

/-- The settings by default: 18 percent on top. -/
def defaultGst : Gst := ⟨true, 18, false⟩

/-- Two pieces of software at 100.03 rupees, and a venture. -/
def oddCatalogue : Catalogue :=
  { twoServices with
    software := fun _ => some ⟨some 9, true, false, true, 10003, []⟩
    ventures := fun _ => some ⟨9, true, 70000⟩ }

def plainLine (id : ItemId) (productType : ProductType) : CartItem :=
  ⟨id, 1, productType, id, none, [], false, {}, {}⟩

/-- **Two stamps of 118.04 rupees for an order over 236.07**, and none for a venture. -/
theorem stamps_miss_the_charge :
    ((taxStamps defaultGst oddCatalogue [plainLine 1 .technology, plainLine 2 .technology]).map
        Breakdown.totalInr).sum = 236.08 ∧
      orderAmountInr defaultGst oddCatalogue [plainLine 1 .technology, plainLine 2 .technology] =
        236.07 ∧
      taxStamps defaultGst oddCatalogue [plainLine 3 .ventureDeal] = [] ∧
      orderAmountInr defaultGst oddCatalogue [plainLine 3 .ventureDeal] = 826 := by
  decide +kernel

/-! ## The order at the gateway -/

theorem gstTotal_eq (n : Paise) :
    (gstTotal n : ℚ) / 100 = (lineBreakdown defaultGst n).totalInr := by
  have htop : defaultGst.onTop = 18 / 100 := by norm_num [Gst.onTop, defaultGst]
  have htax : lineTax defaultGst n = ((n * 18 + 50) / 100 : Nat) / 100 := by
    have hnonneg : (0 : ℚ) ≤ n := n.cast_nonneg
    have hcast : (n : ℚ) / 100 * (18 / 100) * 100 + 1 / 2 =
        ((n * 18 + 50 : Nat) : ℚ) / (100 : Nat) := by
      push_cast
      ring
    rw [lineTax, exactTax, htop, quantize, roundAway, if_pos (by positivity), hcast,
      Rat.floor_natCast_div_natCast]
    push_cast
    rfl
  rw [totalInr_line, htax, gstTotal]
  push_cast
  ring

theorem orderAmountInr_checkout {s s' : Shop} {r : CheckoutRequest} {order : OrderId}
    (h : s.createCheckoutOrder cat r = .ok (order, s')) (hinr : r.converted = none)
    (hpoints : r.redeemPoints = false) :
    ∃ items amount,
      (s.db.cart r.buyer).mapM (fun it : CartItem => it.forCheckout cat) = some items ∧
      s'.gateway.orders = ⟨order, amount, r.buyer⟩ :: s.gateway.orders ∧
      (amount : ℚ) / 100 = orderAmountInr defaultGst cat items := by
  obtain ⟨items, hitems, -, hopened, -⟩ := checkedOut_charge h hinr hpoints
  exact ⟨items, _, hitems, hopened, gstTotal_eq _⟩

end Deltapreneur.Cart
