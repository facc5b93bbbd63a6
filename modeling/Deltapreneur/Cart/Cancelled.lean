import Deltapreneur.Cart.Checkout

/-!
# Whose rows does a cancelled checkout change?

`cancel_checkout_order` (`app/service/cart/cart_checkout_service.py:1680-1728`) looks the order id
that the client sends up in three tables. `get_by_user` restricts the lines to the caller's;
`cancel_redemption` (`app/service/user/edge_points_service.py:576-589`) and
`list_by_razorpay_order_id` restrict nothing.

Results:

* `cancel_spares_others_iff`: no row of another user changes just when nobody else has a pending
  redemption or a created registration order under the id.
* `foreign_order_cancelled`: a user cancels what another one is about to pay for.
-/

namespace Deltapreneur.Cart

open EdgePoints

/-- The lines, redemptions and registration orders of all users but `buyer` are the same. -/
structure SparesOthers (buyer : UserId) (db db' : Db) : Prop where
  items : db'.items.filter (fun it => it.userId ≠ buyer) =
    db.items.filter fun it => it.userId ≠ buyer
  redemptions : db'.wallets.redemptions.filter (fun r => r.userId ≠ buyer) =
    db.wallets.redemptions.filter fun r => r.userId ≠ buyer
  registrations : db'.registrations.filter (fun o => o.buyerId ≠ buyer) =
    db.registrations.filter fun o => o.buyerId ≠ buyer

/-- What is open under the order is the buyer's. -/
structure OwnOrder (db : Db) (buyer : UserId) (order : OrderId) : Prop where
  redemption : ∀ r ∈ db.wallets.pendingRedemption order, r.userId = buyer
  registrations : ∀ o ∈ db.registrations, o.razorpayOrderId = order → o.status = .created →
    o.buyerId = buyer

variable {db : Db} {buyer : UserId} {order : OrderId}

theorem spares_items (db : Db) (buyer : UserId) (order : OrderId) :
    (db.cancelCheckoutOrder buyer order).items.filter (fun it => it.userId ≠ buyer) =
      db.items.filter fun it => it.userId ≠ buyer := by
  refine (Table.filter_map_eq_iff fun it => ?_).mpr fun it _ hit => ?_
  · split_ifs <;> rfl
  · exact if_neg fun hown => of_decide_eq_true hit hown.1

theorem spares_registrations_iff :
    (db.cancelCheckoutOrder buyer order).registrations.filter (fun o => o.buyerId ≠ buyer) =
        db.registrations.filter (fun o => o.buyerId ≠ buyer) ↔
      ∀ o ∈ db.registrations, o.razorpayOrderId = order → o.status = .created →
        o.buyerId = buyer := by
  refine (Table.filter_map_eq_iff fun o => ?_).trans (forall₂_congr fun o _ => ?_)
  · split_ifs <;> rfl
  · constructor
    · intro h horder hcreated
      by_contra hne
      have heq := h (decide_eq_true hne)
      rw [if_pos ⟨horder, hcreated⟩] at heq
      have hsame : RegistrationStatus.expired = .created :=
        (congrArg RegistrationOrder.status heq).trans hcreated
      cases hsame
    · intro h hne
      exact if_neg fun hopen => of_decide_eq_true hne (h hopen.1 hopen.2)

/-- The order id of a redemption is unique, so at most one row changes. -/
theorem spares_redemptions_iff (hunique : (db.wallets.redemptions.map Redemption.orderId).Nodup) :
    (db.cancelCheckoutOrder buyer order).wallets.redemptions.filter (fun r => r.userId ≠ buyer) =
        db.wallets.redemptions.filter (fun r => r.userId ≠ buyer) ↔
      ∀ r ∈ db.wallets.pendingRedemption order, r.userId = buyer := by
  show (db.wallets.cancelRedemption order).redemptions.filter _ = _ ↔ _
  unfold Wallets.cancelRedemption
  cases hr : db.wallets.pendingRedemption order with
  | none => simp
  | some r =>
    obtain ⟨hmem, horder, hpending⟩ := pendingRedemption_eq_some hr
    refine (Table.filter_map_eq_iff fun x => ?_).trans ?_
    · split_ifs <;> rfl
    · simp only [Option.mem_some_iff, forall_eq']
      constructor
      · intro h
        by_contra hne
        have heq := h r hmem (decide_eq_true hne)
        rw [if_pos horder] at heq
        have hsame : RedemptionStatus.failed = .pending :=
          (congrArg Redemption.status heq).trans hpending
        cases hsame
      · intro hown x hx hne
        refine if_neg fun hkey => of_decide_eq_true hne ?_
        rwa [List.inj_on_of_nodup_map hunique hx hmem (hkey.trans horder.symm)]

/-- **A cancelled checkout spares the other users** just when what is open under its order is the
caller's own. -/
theorem cancel_spares_others_iff (db : Db) (buyer : UserId) (order : OrderId)
    (hunique : (db.wallets.redemptions.map Redemption.orderId).Nodup) :
    SparesOthers buyer db (db.cancelCheckoutOrder buyer order) ↔ OwnOrder db buyer order := by
  constructor
  · exact fun h => ⟨(spares_redemptions_iff hunique).mp h.redemptions,
      spares_registrations_iff.mp h.registrations⟩
  · exact fun h => ⟨spares_items db buyer order, (spares_redemptions_iff hunique).mpr h.redemption,
      spares_registrations_iff.mpr h.registrations⟩

/-- User 1 is about to pay for a registration under order 7, with points. -/
def aboutToPay : Db :=
  { Db.empty with
    registrations := [⟨(0, 0), 1, 3, 1, 7, none, .created, false, false, 0⟩]
    wallets := ⟨fun _ => 600, [], [⟨7, 1, 500, .pending⟩]⟩ }

theorem cancel_spares_others_own :
    SparesOthers 1 aboutToPay (aboutToPay.cancelCheckoutOrder 1 7) ↔ OwnOrder aboutToPay 1 7 :=
  cancel_spares_others_iff aboutToPay 1 7 (by decide)

/-- **User 2 cancels it**: the points are released and the registration order expires. -/
theorem foreign_order_cancelled :
    ¬ SparesOthers 2 aboutToPay (aboutToPay.cancelCheckoutOrder 2 7) :=
  fun h => absurd h.redemptions (by decide)

end Deltapreneur.Cart
