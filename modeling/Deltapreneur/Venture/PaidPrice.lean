import Deltapreneur.Lib.Run
import Deltapreneur.Venture.Partnership

/-!
# The price that pays for a venture deal

Whether the payment that puts a deal into `PAYMENT_HELD` is one for this deal at its price, under
calls one after the other.

`create_payment_order` charges the price of the moment less the redeemed points and stores the
order. A later view of a co-venture deal may set another price (`_sync_coventure_deal_pricing`), and
`verify_payment` compares the presented order with the stored one only if there is one.

* `Purchase`: a deal with its listing, the gateway and the redemptions.
* `purchaseStep`: one call. Attempts with a pair that Razorpay has not captured are no part of a
  history. What becomes of other orders is not followed, but they can be paid and presented.
* `Purchase.Binds`: the property of a call; `Purchase.AtPrice`: the condition.

Results:

* `binds_iff`: the calls of a run satisfy the property just where the price of the stored order is
  still the price of the deal.
* `repriced_deal_paid`, which also pays a deal with the order of another purchase.
-/

namespace Deltapreneur.VentureDeals

open Decimal Razorpay

/-! ## Points -/

/-- `calculate_redemption`: the amount left to pay and the points redeemed, out of the points that
are available. -/
def calculateRedemption (amount : ℚ) (available : Nat) (redeemRequested : Bool) : ℚ × Nat :=
  if ¬ redeemRequested ∨ amount ≤ 0 then (amount, 0)
  else if available = 0 then (amount, 0)
  else
    let points := min 5000 (min available (roundEven (amount * 10)).toNat)
    (max 0 (amount - points / 10), points)

/-! ## State -/

/-- The `notes` of an order, as far as they tell the deal's orders from others. -/
inductive OrderNote
  | ventureDeal | other
  deriving Repr, DecidableEq

structure Purchase where
  venture : Venture
  txn : Deal
  gateway : Gateway OrderNote
  /-- The points of the pending redemption of an order. -/
  pending : OrderId → Nat
  /-- The price for which the stored order was made. -/
  quoted : Option ℚ

/-- A deal without an order. -/
def Purchase.init (venture : Venture) (txn : Deal) : Purchase :=
  ⟨venture, txn, .empty, fun _ => 0, none⟩

/-! ## Calls -/

inductive PurchaseCall
  /-- `update_venture` with what becomes of `deal_value`. -/
  | updateVenture (dealValue : Option ℤ) (commissionPct : ℚ)
  /-- `get_deal`, `list_my_deals` or `list_all_admin`. -/
  | viewDeal (commissionPct : ℚ)
  | adminApproveDeal
  | adminRejectDeal
  | createPaymentOrder (buyer : UserId) (configured redeemPoints : Bool) (available : Nat)
    (accepted : Bool)
  /-- Some other service creates an order. -/
  | otherOrder (amount : Paise)
  | capture (order : OrderId)
  | verifyPayment (buyer : UserId) (payment : PaymentId) (order : OrderId) (linkedElsewhere : Bool)
  | adminReleaseEscrow (profileComplete : Bool)
  /-- Without a refund `refund_payment` has raised. -/
  | adminRefund (refund : Option RefundId)

/-- `sync_coventure_deals_for_venture`. -/
def syncCoventureDealsForVenture (venture : Venture) (txn : Deal) (commissionPct : ℚ) : Deal :=
  if txn.dealKind = .coVenture ∧ txn.dealStatus ∈ [.inProgress, .pendingAdminApproval] then
    syncCoventureDealPricing venture txn commissionPct
  else txn

/-- `update_venture`. -/
def Purchase.updateVenture (s : Purchase) (dealValue : Option ℤ) (commissionPct : ℚ) : Purchase :=
  let venture := { s.venture with dealValue }
  { s with
    venture
    txn := if s.venture.listingMode = .coVenture
      then syncCoventureDealsForVenture venture s.txn commissionPct else s.txn }

/-- `create_payment_order` of a deal with a price: a charge of zero is refused by `create_order`. -/
def Purchase.order (s : Purchase) (redeemPoints : Bool) (available : Nat) (accepted : Bool) :
    Purchase :=
  let (charge, points) := calculateRedemption s.txn.grossAmountInr available redeemPoints
  if ¬ accepted ∨ charge ≤ 0 then s
  else
    match s.gateway.createOrder (toSmallestUnit charge) .ventureDeal with
    | none => s
    | some (order, gateway) =>
      { s with
        gateway
        txn := s.txn.ordered order
        pending := Function.update s.pending order points
        quoted := some s.txn.grossAmountInr }

/-- `verify_payment` with a captured pair; `confirm_redemption` ends the pending redemption. -/
def Purchase.verify (s : Purchase) (buyer : UserId) (payment : PaymentId) (order : OrderId)
    (linkedElsewhere : Bool) : Purchase :=
  if linkedElsewhere ∨ s.txn.razorpayPaymentId = some payment then s
  else if s.gateway.verifyPaymentSignature order payment true then
    match verifyPayment s.txn buyer payment order true with
    | .ok (some new) => { s with txn := new, pending := Function.update s.pending order 0 }
    | _ => s
  else s

/-- One call. A call that raises leaves the state as it is. -/
def purchaseStep (s : Purchase) : PurchaseCall → Purchase
  | .updateVenture dealValue commissionPct => s.updateVenture dealValue commissionPct
  | .viewDeal commissionPct =>
    { s with txn := syncCoventureDealPricing s.venture s.txn commissionPct }
  | .adminApproveDeal =>
    match adminApproveDeal s.txn with
    | .ok new => { s with txn := new }
    | .error _ => s
  | .adminRejectDeal =>
    match adminRejectDeal s.txn with
    | .ok new => { s with txn := new }
    | .error _ => s
  | .createPaymentOrder buyer configured redeemPoints available accepted =>
    match createPaymentOrder s.txn buyer configured with
    | .ok () =>
      if s.txn.grossAmountInr ≤ 0 then { s with txn := s.txn.ordered 0 }
      else s.order redeemPoints available accepted
    | .error _ => s
  | .otherOrder amount =>
    match s.gateway.createOrder amount .other with
    | some (_, gateway) => { s with gateway }
    | none => s
  | .capture order => { s with gateway := s.gateway.capture order }
  | .verifyPayment buyer payment order linkedElsewhere =>
    s.verify buyer payment order linkedElsewhere
  | .adminReleaseEscrow profileComplete =>
    match adminReleaseEscrow s.txn profileComplete with
    | .ok new => { s with txn := new }
    | .error _ => s
  | .adminRefund refund =>
    match adminRefund s.txn, refund with
    | .ok (some _), some id => { s with txn := s.txn.refunded id }
    | _, _ => s

/-! ## The property -/

/-- The order is one of `create_payment_order` for the deal, and its amount and the points make up
the price. -/
def Purchase.Pays (s : Purchase) (order : OrderId) : Prop :=
  ∃ o ∈ s.gateway.orders, o.id = order ∧ o.notes = .ventureDeal ∧
    (o.amount : ℚ) / 100 + s.pending order / 10 = s.txn.grossAmountInr

/-- **The deal is paid by an order of its own at its price, and the price then stays.** -/
structure Purchase.Binds (s : Purchase) (c : PurchaseCall) (s' : Purchase) : Prop where
  paid : s.txn.dealStatus ≠ .paymentHeld → s'.txn.dealStatus = .paymentHeld →
    ∃ buyer payment order linkedElsewhere,
      c = .verifyPayment buyer payment order linkedElsewhere ∧ s.Pays order
  fixed : s.txn.razorpayPaymentId ≠ none → s'.txn.grossAmountInr = s.txn.grossAmountInr

/-- The checks of `verify_payment`. -/
structure Purchase.Accepts (s : Purchase) (buyer : UserId) (payment : PaymentId) (order : OrderId)
    (linkedElsewhere : Bool) : Prop where
  unlinked : linkedElsewhere = false
  buyer_eq : s.txn.buyerId = buyer
  awaiting : s.txn.dealStatus = .pendingPayment
  stored : ∀ stored ∈ s.txn.razorpayOrderId, stored = order
  signed : (order, payment) ∈ s.gateway.captured

/-- The condition: a payment is accepted only if the order stored with the deal was made for the
price that it has now, a whole number of paise. -/
def Purchase.AtPrice (s : Purchase) : PurchaseCall → Prop
  | .verifyPayment buyer payment order linkedElsewhere =>
    s.Accepts buyer payment order linkedElsewhere →
      ∃ price, s.quoted = some price ∧ (toSmallestUnit price : ℚ) = s.txn.grossAmountInr * 100
  | _ => True

/-! ## What is charged -/

/-- **What is charged and the points redeemed make up the price, rounded to paise.** -/
theorem toSmallestUnit_charge {amount charge : ℚ} {available points : Nat} {redeemRequested : Bool}
    (h : calculateRedemption amount available redeemRequested = (charge, points))
    (hpos : 0 < charge) : toSmallestUnit charge + 10 * points = toSmallestUnit amount := by
  unfold calculateRedemption at h
  split_ifs at h
  · obtain ⟨rfl, rfl⟩ := Prod.mk.inj h
    rfl
  · obtain ⟨rfl, rfl⟩ := Prod.mk.inj h
    rfl
  · obtain ⟨hcharge, hpoints⟩ := Prod.mk.inj h
    rw [hpoints] at hcharge
    have hle : 0 ≤ amount - points / 10 := by
      by_contra hneg
      rw [← hcharge, max_eq_left (not_le.mp hneg).le] at hpos
      exact lt_irrefl _ hpos
    rw [max_eq_right hle] at hcharge
    have hshift : charge * 100 = amount * 100 - 2 * ((5 * points : ℤ) : ℚ) := by
      rw [← hcharge]
      push_cast
      ring
    have hround := roundEven_sub_two_mul (amount * 100) (5 * points)
    rw [← hshift] at hround
    have hnonneg : 0 ≤ roundEven (charge * 100) := roundEven_nonneg (by linarith)
    have hpaise : (roundEven (charge * 100)).toNat + 10 * points =
        (roundEven (amount * 100)).toNat := by omega
    exact hpaise

/-! ## What is on record -/

/-- The stored order was made for the price that was quoted. -/
structure Purchase.Stored (s : Purchase) (price : ℚ) (order : OrderId) : Prop where
  stored : s.txn.razorpayOrderId = some order
  issued : ∃ o ∈ s.gateway.orders, o.id = order
  charged : ∀ o ∈ s.gateway.orders, o.id = order → o.notes = .ventureDeal ∧
    (s.txn.razorpayPaymentId = none → o.amount + 10 * s.pending order = toSmallestUnit price)

/-- The deal has an order only if one was quoted, and a paid deal stays paid. -/
structure Purchase.Sound (s : Purchase) : Prop where
  wellFormed : s.gateway.WellFormed
  unquoted : s.quoted = none → ∀ o ∈ s.gateway.orders, o.notes ≠ .ventureDeal
  quoted : ∀ price, s.quoted = some price → ∃ order, s.Stored price order
  paid : s.txn.razorpayPaymentId ≠ none →
    s.txn.dealStatus = .paymentHeld ∨ s.txn.dealStatus = .completed ∨ s.txn.dealStatus = .refunded

variable {s : Purchase} {new : Deal} {v : Venture} {order : OrderId} {payment : PaymentId}
  {buyer : UserId} {linkedElsewhere : Bool}

theorem sound_init (v : Venture) {txn : Deal} (hpayment : txn.razorpayPaymentId = none) :
    (Purchase.init v txn).Sound where
  wellFormed := Gateway.wellFormed_of_nil rfl
  unquoted := by simp [Purchase.init, Gateway.empty]
  quoted := by simp [Purchase.init]
  paid := fun hpaid => absurd hpayment hpaid

theorem Purchase.Sound.unpaid (h : s.Sound) (hheld : s.txn.dealStatus ≠ .paymentHeld)
    (hcompleted : s.txn.dealStatus ≠ .completed) (hrefunded : s.txn.dealStatus ≠ .refunded) :
    s.txn.razorpayPaymentId = none := by
  by_contra hpaid
  rcases h.paid hpaid with heq | heq | heq
  · exact hheld heq
  · exact hcompleted heq
  · exact hrefunded heq

theorem Purchase.Sound.setTxn (h : s.Sound) (horder : new.razorpayOrderId = s.txn.razorpayOrderId)
    (hpayment : new.razorpayPaymentId = s.txn.razorpayPaymentId)
    (hpaid : new.razorpayPaymentId ≠ none →
      new.dealStatus = .paymentHeld ∨ new.dealStatus = .completed ∨ new.dealStatus = .refunded) :
    Purchase.Sound { s with venture := v, txn := new } where
  wellFormed := h.wellFormed
  unquoted := h.unquoted
  quoted := fun price hprice => by
    obtain ⟨order, hstored⟩ := h.quoted price hprice
    refine ⟨order, horder.trans hstored.stored, hstored.issued, fun o ho hid => ?_⟩
    obtain ⟨hnote, hcharged⟩ := hstored.charged o ho hid
    exact ⟨hnote, fun hnone => hcharged (hpayment ▸ hnone)⟩
  paid := hpaid

/-- An order of another purchase. -/
theorem Purchase.Sound.other {gateway : Gateway OrderNote} {amount : Paise} (h : s.Sound)
    (hissue : s.gateway.createOrder amount .other = some (order, gateway)) :
    Purchase.Sound { s with gateway } := by
  obtain ⟨-, horders⟩ := Gateway.createOrder_eq_some hissue
  refine ⟨h.wellFormed.cons horders, fun hnone o ho => ?_, fun price hprice => ?_, h.paid⟩
  · rw [horders] at ho
    rcases List.mem_cons.mp ho with rfl | ho
    · simp
    · exact h.unquoted hnone o ho
  · obtain ⟨stored, hstored⟩ := h.quoted price hprice
    obtain ⟨old, hold, hid⟩ := hstored.issued
    refine ⟨stored, hstored.stored, ⟨old, by simp [horders, hold], hid⟩, fun o ho heq => ?_⟩
    rw [horders] at ho
    rcases List.mem_cons.mp ho with rfl | ho
    -- the new order has an id of its own
    · have hlt := h.wellFormed old hold
      rw [hid, ← heq] at hlt
      exact absurd hlt (Nat.lt_irrefl _)
    · exact hstored.charged o ho heq

/-- The order of the deal. -/
theorem Purchase.Sound.ordered (h : s.Sound) (redeemPoints : Bool) (available : Nat)
    (accepted : Bool) (hgross : ¬ s.txn.grossAmountInr ≤ 0)
    (hunpaid : s.txn.razorpayPaymentId = none) :
    (s.order redeemPoints available accepted).Sound := by
  unfold Purchase.order
  cases hcharge : calculateRedemption s.txn.grossAmountInr available redeemPoints with
  | mk charge points =>
    dsimp only
    by_cases hrefused : ¬ accepted ∨ charge ≤ 0
    · rw [if_pos hrefused]
      exact h
    · rw [if_neg hrefused]
      split
      · exact h
      · next order gateway hissue =>
        obtain ⟨rfl, horders⟩ := Gateway.createOrder_eq_some hissue
        have hordered : s.txn.ordered s.gateway.nextId =
            { s.txn with razorpayOrderId := some s.gateway.nextId } := if_neg hgross
        have hpos : 0 < charge := not_le.mp (not_or.mp hrefused).2
        rw [hordered]
        refine ⟨h.wellFormed.cons horders, fun hnone => ?_, fun price hprice => ?_, fun hpaid => ?_⟩
        · cases hnone
        · cases hprice
          refine ⟨s.gateway.nextId, rfl, ⟨_, by rw [horders]; exact List.mem_cons_self, rfl⟩, ?_⟩
          intro o ho hid
          rw [horders] at ho
          rcases List.mem_cons.mp ho with rfl | ho
          · exact ⟨rfl, fun _ => by simpa using toSmallestUnit_charge hcharge hpos⟩
          · exact absurd (h.wellFormed o ho) (by rw [hid]; exact Nat.lt_irrefl _)
        · exact absurd hunpaid hpaid

/-! ## One call -/

theorem syncCoventureDealPricing_fields (v : Venture) (txn : Deal) (pct : ℚ) :
    (syncCoventureDealPricing v txn pct).razorpayOrderId = txn.razorpayOrderId ∧
      (syncCoventureDealPricing v txn pct).razorpayPaymentId = txn.razorpayPaymentId := by
  unfold syncCoventureDealPricing
  dsimp only
  split_ifs <;> exact ⟨rfl, rfl⟩

/-- A deal that is paid is not priced again, and none is paid by pricing. -/
theorem syncCoventureDealPricing_status (v : Venture) (txn : Deal) (pct : ℚ) :
    syncCoventureDealPricing v txn pct = txn ∨
      txn.dealStatus ∉ [.completed, .cancelled, .refunded, .paymentHeld] ∧
        (syncCoventureDealPricing v txn pct).dealStatus ≠ .paymentHeld := by
  unfold syncCoventureDealPricing
  by_cases hkind : txn.dealKind ≠ .coVenture
  · exact .inl (if_pos hkind)
  · rw [if_neg hkind]
    by_cases hclosed : txn.dealStatus ∈ [.completed, .cancelled, .refunded, .paymentHeld]
    · exact .inl (if_pos hclosed)
    · rw [if_neg hclosed]
      by_cases hfree : coventureGrossAmountInr v ≤ 0
      · exact .inl (if_pos hfree)
      · refine .inr ⟨hclosed, ?_⟩
        have hheld : txn.dealStatus ≠ .paymentHeld := fun heq => hclosed (by simp [heq])
        simp only [hfree, if_false]
        split_ifs <;> simp [hheld]

theorem Purchase.Sound.sync (h : s.Sound) (pct : ℚ) :
    Purchase.Sound { s with venture := v, txn := syncCoventureDealPricing v s.txn pct } := by
  obtain ⟨horder, hpayment⟩ := syncCoventureDealPricing_fields v s.txn pct
  refine h.setTxn horder hpayment fun hpaid => ?_
  rcases syncCoventureDealPricing_status v s.txn pct with heq | ⟨hopen, -⟩
  · rw [heq] at hpaid ⊢
    exact h.paid hpaid
  · rw [hpayment] at hpaid
    exact absurd (h.unpaid (fun heq => hopen (by simp [heq])) (fun heq => hopen (by simp [heq]))
      (fun heq => hopen (by simp [heq]))) hpaid

/-- What `verify_payment` does: nothing, or it takes the payment. -/
theorem verify_cases (hunpaid : s.txn.dealStatus = .pendingPayment →
      s.txn.razorpayPaymentId = none) :
    (¬ s.Accepts buyer payment order linkedElsewhere ∧
        s.verify buyer payment order linkedElsewhere = s) ∨
      (s.Accepts buyer payment order linkedElsewhere ∧
        s.verify buyer payment order linkedElsewhere = { s with
          txn := s.txn.paidBy payment order
          pending := Function.update s.pending order 0 }) := by
  by_cases haccepts : s.Accepts buyer payment order linkedElsewhere
  · refine .inr ⟨haccepts, ?_⟩
    obtain ⟨hlinked, hbuyer, hawaiting, hstored, hsigned⟩ := haccepts
    have hsign : s.gateway.verifyPaymentSignature order payment true = true := by
      simpa [Gateway.verifyPaymentSignature] using hsigned
    have hok : verifyPayment s.txn buyer payment order true =
        .ok (some (s.txn.paidBy payment order)) :=
      verifyPayment_iff.mpr ⟨hbuyer, hawaiting, hstored, rfl, rfl⟩
    have hgo : ¬ (linkedElsewhere = true ∨ s.txn.razorpayPaymentId = some payment) := by
      simp [hlinked, hunpaid hawaiting]
    rw [Purchase.verify, if_neg hgo, if_pos hsign, hok]
  · refine .inl ⟨haccepts, ?_⟩
    unfold Purchase.verify
    split_ifs with hlinked hsign
    · rfl
    · split
      · next hok =>
        obtain ⟨hbuyer, hawaiting, hstored, -, -⟩ := verifyPayment_iff.mp hok
        have hunlinked : linkedElsewhere = false := by simpa using (not_or.mp hlinked).1
        exact absurd ⟨hunlinked, hbuyer, hawaiting, hstored, Gateway.mem_captured_of_verify hsign⟩
          haccepts
      · rfl
    · rfl

/-- **A stored order pays the deal just where the price is still the one it was made for.** -/
theorem Purchase.Sound.pays_iff (h : s.Sound) (hunpaid : s.txn.razorpayPaymentId = none)
    (hstored : ∀ stored ∈ s.txn.razorpayOrderId, stored = order) :
    s.Pays order ↔ ∃ price, s.quoted = some price ∧
      (toSmallestUnit price : ℚ) = s.txn.grossAmountInr * 100 := by
  cases hquoted : s.quoted with
  | none =>
    refine iff_of_false ?_ (by simp)
    rintro ⟨o, ho, -, hnote, -⟩
    exact h.unquoted hquoted o ho hnote
  | some price =>
    obtain ⟨order', hrecord⟩ := h.quoted price hquoted
    obtain rfl := hstored order' hrecord.stored
    -- in paise, the amount and the points are the price that was quoted
    have hpaise : ∀ o ∈ s.gateway.orders, o.id = order' →
        ((o.amount : ℚ) / 100 + s.pending order' / 10 = s.txn.grossAmountInr ↔
          (toSmallestUnit price : ℚ) = s.txn.grossAmountInr * 100) := by
      intro o ho hid
      rw [← (hrecord.charged o ho hid).2 hunpaid]
      push_cast
      constructor <;> intro heq <;> linarith
    constructor
    · rintro ⟨o, ho, hid, -, hsum⟩
      exact ⟨price, rfl, (hpaise o ho hid).mp hsum⟩
    · rintro ⟨price', heq, hprice⟩
      cases heq
      obtain ⟨o, ho, hid⟩ := hrecord.issued
      exact ⟨o, ho, hid, (hrecord.charged o ho hid).1, (hpaise o ho hid).mpr hprice⟩

theorem Purchase.Sound.paidBy (h : s.Sound)
    (haccepts : s.Accepts buyer payment order linkedElsewhere) :
    Purchase.Sound { s with
      txn := s.txn.paidBy payment order
      pending := Function.update s.pending order 0 } where
  wellFormed := h.wellFormed
  unquoted := h.unquoted
  quoted := fun price hprice => by
    obtain ⟨order', hrecord⟩ := h.quoted price hprice
    obtain rfl := haccepts.stored order' hrecord.stored
    exact ⟨order', rfl, hrecord.issued, fun o ho hid =>
      ⟨(hrecord.charged o ho hid).1, fun hnone => absurd hnone (by simp [Deal.paidBy])⟩⟩
  paid := fun _ => .inl rfl

theorem binds_of {s' : Purchase} {c : PurchaseCall}
    (hheld : s'.txn.dealStatus = .paymentHeld → s.txn.dealStatus = .paymentHeld)
    (hgross : s'.txn.grossAmountInr = s.txn.grossAmountInr) : s.Binds c s' :=
  ⟨fun hne heq => absurd (hheld heq) hne, fun _ => hgross⟩

theorem Purchase.Sound.binds_sync (h : s.Sound) (pct : ℚ) (c : PurchaseCall) :
    s.Binds c { s with venture := v, txn := syncCoventureDealPricing v s.txn pct } := by
  rcases syncCoventureDealPricing_status v s.txn pct with heq | ⟨hopen, hheld⟩
  · rw [heq]
    exact binds_of id rfl
  · refine ⟨fun _ heq => absurd heq hheld, fun hpaid => absurd (h.unpaid ?_ ?_ ?_) hpaid⟩
    · exact fun heq => hopen (by simp [heq])
    · exact fun heq => hopen (by simp [heq])
    · exact fun heq => hopen (by simp [heq])

theorem binds_order (redeemPoints : Bool) (available : Nat) (accepted : Bool) (c : PurchaseCall) :
    s.Binds c (s.order redeemPoints available accepted) := by
  unfold Purchase.order
  dsimp only
  split_ifs
  · exact binds_of id rfl
  · split
    · exact binds_of id rfl
    · unfold Deal.ordered
      split_ifs
      · exact binds_of (by simp) rfl
      · exact binds_of id rfl

/-- **Every call keeps the record, and binds the deal just where it is at the price.** -/
theorem sound_purchaseStep (h : s.Sound) (c : PurchaseCall) :
    (purchaseStep s c).Sound ∧ (s.Binds c (purchaseStep s c) ↔ s.AtPrice c) := by
  cases c with
  | updateVenture dealValue pct =>
    simp only [purchaseStep, Purchase.updateVenture, syncCoventureDealsForVenture]
    split_ifs
    · exact ⟨h.sync pct, iff_of_true (h.binds_sync pct _) trivial⟩
    · exact ⟨h.setTxn rfl rfl h.paid, iff_of_true (binds_of id rfl) trivial⟩
    · exact ⟨h.setTxn rfl rfl h.paid, iff_of_true (binds_of id rfl) trivial⟩
  | viewDeal pct => exact ⟨h.sync pct, iff_of_true (h.binds_sync pct _) trivial⟩
  | adminApproveDeal =>
    simp only [purchaseStep]
    split
    · next hok =>
      obtain ⟨hpending, rfl⟩ := adminApproveDeal_ok hok
      have hunpaid := h.unpaid (by simp [hpending]) (by simp [hpending]) (by simp [hpending])
      exact ⟨h.setTxn rfl rfl (absurd hunpaid), iff_of_true (binds_of (by simp) rfl) trivial⟩
    · exact ⟨h, iff_of_true (binds_of id rfl) trivial⟩
  | adminRejectDeal =>
    simp only [purchaseStep]
    split
    · next hok =>
      obtain ⟨hpending, rfl⟩ := adminRejectDeal_ok hok
      have hunpaid := h.unpaid (by simp [hpending]) (by simp [hpending]) (by simp [hpending])
      exact ⟨h.setTxn rfl rfl (absurd hunpaid), iff_of_true (binds_of (by simp) rfl) trivial⟩
    · exact ⟨h, iff_of_true (binds_of id rfl) trivial⟩
  | createPaymentOrder buyer configured redeemPoints available accepted =>
    simp only [purchaseStep]
    split
    · next hok =>
      have hawaiting := createPaymentOrder_ok hok
      have hunpaid := h.unpaid (by simp [hawaiting]) (by simp [hawaiting]) (by simp [hawaiting])
      by_cases hfree : s.txn.grossAmountInr ≤ 0
      · have hordered : s.txn.ordered 0 = { s.txn with dealStatus := .inProgress } := if_pos hfree
        rw [if_pos hfree, hordered]
        exact ⟨h.setTxn rfl rfl (absurd hunpaid), iff_of_true (binds_of (by simp) rfl) trivial⟩
      · rw [if_neg hfree]
        exact ⟨h.ordered redeemPoints available accepted hfree hunpaid,
          iff_of_true (binds_order redeemPoints available accepted _) trivial⟩
    · exact ⟨h, iff_of_true (binds_of id rfl) trivial⟩
  | otherOrder amount =>
    simp only [purchaseStep]
    split
    · next hissue => exact ⟨h.other hissue, iff_of_true (binds_of id rfl) trivial⟩
    · exact ⟨h, iff_of_true (binds_of id rfl) trivial⟩
  | capture order =>
    refine ⟨⟨?_, ?_, ?_, h.paid⟩, iff_of_true (binds_of id rfl) trivial⟩
    · simpa [purchaseStep, Gateway.WellFormed, Gateway.nextId] using h.wellFormed
    · simpa [purchaseStep] using h.unquoted
    · intro price hprice
      obtain ⟨stored, hrecord⟩ := h.quoted price hprice
      exact ⟨stored, hrecord.stored, by simpa [purchaseStep] using hrecord.issued,
        by simpa [purchaseStep] using hrecord.charged⟩
  | verifyPayment buyer payment order linkedElsewhere =>
    have hunpaid : s.txn.dealStatus = .pendingPayment → s.txn.razorpayPaymentId = none :=
      fun heq => h.unpaid (by simp [heq]) (by simp [heq]) (by simp [heq])
    simp only [purchaseStep, Purchase.AtPrice]
    rcases (verify_cases hunpaid : (¬ s.Accepts buyer payment order linkedElsewhere ∧ _) ∨ _) with
      ⟨hrefused, heq⟩ | ⟨haccepts, heq⟩
    · rw [heq]
      exact ⟨h, iff_of_true (binds_of id rfl) fun hgo => absurd hgo hrefused⟩
    · rw [heq]
      refine ⟨h.paidBy haccepts, ?_⟩
      rw [← h.pays_iff (hunpaid haccepts.awaiting) haccepts.stored]
      constructor
      · intro hbinds _
        obtain ⟨_, _, _, _, hcall, hpays⟩ := hbinds.paid (by simp [haccepts.awaiting]) rfl
        obtain ⟨-, -, rfl, -⟩ := PurchaseCall.verifyPayment.inj hcall
        exact hpays
      · exact fun hpays => ⟨fun _ _ => ⟨_, _, _, _, rfl, hpays haccepts⟩, fun _ => rfl⟩
  | adminReleaseEscrow profileComplete =>
    simp only [purchaseStep]
    split
    · next hok =>
      obtain ⟨-, -, rfl⟩ := adminReleaseEscrow_ok hok
      exact ⟨h.setTxn rfl rfl fun _ => .inr (.inl rfl),
        iff_of_true (binds_of (by simp) rfl) trivial⟩
    · exact ⟨h, iff_of_true (binds_of id rfl) trivial⟩
  | adminRefund refund =>
    simp only [purchaseStep]
    split
    · exact ⟨h.setTxn rfl rfl fun _ => .inr (.inr rfl),
        iff_of_true (binds_of (by simp [Deal.refunded]) rfl) trivial⟩
    · exact ⟨h, iff_of_true (binds_of id rfl) trivial⟩

/-! ## Runs -/

/-- **A venture deal is paid by its own order at its price, in every call of just the runs in which
the price of the stored order is still that of the deal when a payment is accepted.** -/
theorem binds_iff (v : Venture) (txn : Deal) (hpayment : txn.razorpayPaymentId = none)
    (cs : List PurchaseCall) :
    Run.AllSteps purchaseStep Purchase.Binds (Purchase.init v txn) cs ↔
      Run.Meets purchaseStep Purchase.AtPrice (Purchase.init v txn) cs :=
  Run.allSteps_iff_meets (fun _ c h => (sound_purchaseStep h c).1)
    (fun _ c h => (sound_purchaseStep h c).2) cs (sound_init v hpayment)

/-! ## Other prices -/

instance (s : Purchase) (order : OrderId) : Decidable (s.Pays order) :=
  inferInstanceAs (Decidable (∃ o ∈ s.gateway.orders, _))

/-- A co-venture listing of user 1 and the deal with user 2 on it, approved at 500 rupees. -/
def partnerDeal : Purchase :=
  .init ⟨some 1, true, true, .coVenture, .partnershipFinalized, true, false, some 500, none, some 0⟩
    ⟨2, none, some 0, .coVenture, .pendingPayment, .held, 500, 450, none, none, none⟩

/-- The listing is edited and the deal viewed after the order is created. -/
def repricing : List PurchaseCall :=
  [.createPaymentOrder 2 true false 0 true, .updateVenture (some 700) 10, .viewDeal 10, .capture 0]

/-- An order of one rupee for something else is paid. -/
def otherPurchase : List PurchaseCall := [.otherOrder 100, .capture 0]

/-- **The deal is paid with an order of another price, or of another purchase.** -/
theorem repriced_deal_paid :
    ¬ Run.AllSteps purchaseStep Purchase.Binds partnerDeal
        (repricing ++ [.verifyPayment 2 0 0 false]) ∧
      ¬ Run.AllSteps purchaseStep Purchase.Binds partnerDeal
        (otherPurchase ++ [.verifyPayment 2 0 0 false]) := by
  constructor
  · intro h
    have hlast := (Run.allSteps_iff _ _).mp h repricing _ [] rfl
    obtain ⟨_, _, _, _, hcall, hpays⟩ := hlast.paid (by decide +kernel) (by decide +kernel)
    obtain ⟨-, -, rfl, -⟩ := PurchaseCall.verifyPayment.inj hcall
    exact absurd hpays (by decide +kernel)
  · intro h
    have hlast := (Run.allSteps_iff _ _).mp h otherPurchase _ [] rfl
    obtain ⟨_, _, _, _, hcall, hpays⟩ := hlast.paid (by decide +kernel) (by decide +kernel)
    obtain ⟨-, -, rfl, -⟩ := PurchaseCall.verifyPayment.inj hcall
    exact absurd hpays (by decide +kernel)

/-- The listing is edited and the deal viewed after it is paid. -/
def paidBeforeRepricing : List PurchaseCall :=
  [.createPaymentOrder 2 true false 0 true, .capture 0, .verifyPayment 2 0 0 false,
    .updateVenture (some 700) 10, .viewDeal 10]

/-- A deal that is paid at its price keeps it. -/
theorem binds_repricing :
    (Run.exec purchaseStep partnerDeal paidBeforeRepricing).txn.dealStatus = .paymentHeld ∧
      (Run.exec purchaseStep partnerDeal paidBeforeRepricing).txn.grossAmountInr = 500 ∧
      Run.AllSteps purchaseStep Purchase.Binds partnerDeal paidBeforeRepricing :=
  ⟨by decide +kernel, by decide +kernel, (binds_iff _ _ rfl paidBeforeRepricing).mpr
    ⟨trivial, trivial, fun _ => ⟨500, by decide +kernel, by decide +kernel⟩, trivial, trivial,
      trivial⟩⟩

end Deltapreneur.VentureDeals
