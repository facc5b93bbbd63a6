import Deltapreneur.Marketplace.Frame

/-!
# Which order pays for a direct sale

`verify_payment` (`app/service/domain/marketplace_payment_service.py:235-432`) compares the
presented triple with nothing the listing or the order was stored with: the signature binds the
payment to the order and to nothing else. The order's own note (`domainListingId`, `buyerId`) is
not read.

* `Issued` is a statement about the history: some call of `create_purchase_order` for that
  listing and buyer made Razorpay register the order.
* `Marks` says that a verification sells the listing to the buyer under the presented payment.

Results:

* `issued_iff`: the history and the gateway's notes say the same.
* `purchase_bound_iff`: in every history, a verification is bound to its order exactly when the
  order was issued for it or one of those checks stops the call.
* `fee_order_buys_domain`: a paid fee of one rupee buys a domain.
-/

namespace Deltapreneur.Marketplace

open EdgePoints Razorpay Transfer

variable {db db' : Db} {listing : ListingId} {buyer : UserId} {order : OrderId}

/-! ## Orders along a run -/

/-- The id is one of an order registered at the gateway. -/
def Db.hasOrder (db : Db) (order : OrderId) : Prop := ∃ o ∈ db.gateway.orders, o.id = order

/-- The order was issued by `create_purchase_order` for this listing and buyer, in the run `ls`
from `db`. -/
def Issued (db : Db) (ls : List Label) (order : OrderId) (listing : ListingId) (buyer : UserId) :
    Prop :=
  ∃ pre r post, ls = pre ++ .createPurchaseOrder r :: post ∧ r.listing = listing ∧
    r.buyer = buyer ∧ ¬ (Run.exec step db pre).hasOrder order ∧
    (createPurchaseOrder (Run.exec step db pre) r).db.hasOrder order

/-- What a call does to the orders: nothing, or one more under the next id and a note that `P`
allows. -/
def Registers (P : Notes → Prop) (db db' : Db) : Prop :=
  db'.gateway.orders = db.gateway.orders ∨ ∃ amount notes, P notes ∧
    db'.gateway.orders = ⟨db.gateway.nextId, amount, notes⟩ :: db.gateway.orders

variable {P : Notes → Prop}

theorem Registers.same (h : db'.gateway = db.gateway) : Registers P db db' := .inl (by rw [h])

theorem Registers.created {amount : Paise} {notes : Notes} {gateway : Gateway Notes}
    (h : db.gateway.createOrder amount notes = some (order, gateway)) (hP : P notes)
    (hdb : db'.gateway = gateway) : Registers P db db' := by
  obtain ⟨-, horders⟩ := Gateway.createOrder_eq_some h
  exact .inr ⟨amount, notes, hP, by rw [hdb, horders]⟩

/-! ### The calls that register an order -/

theorem createPurchaseOrder_registers (r : PurchaseRequest) :
    Registers (· = .domainListing r.listing r.buyer) db (createPurchaseOrder db r).db := by
  unfold createPurchaseOrder
  split
  · exact .same rfl
  next l hget =>
  split_ifs
  all_goals try exact .same rfl
  unfold Db.holdListing
  split
  · split_ifs <;> exact .same rfl
  · next order gateway hissue =>
    unfold Db.issueOrder at hissue
    split_ifs at hissue
    exact .created hissue rfl rfl

theorem createWinnerOrder_registers (r : WinnerOrderRequest) :
    Registers (· = .auctionWinner r.auction r.user) db (createWinnerOrder db r).db := by
  unfold createWinnerOrder
  split
  · exact .same rfl
  split_ifs
  all_goals try exact .same rfl
  split
  · exact .same rfl
  split_ifs
  · exact .same rfl
  unfold Db.issueWinnerOrder
  dsimp only
  split
  · exact .same rfl
  · next order gateway hissue =>
    split_ifs at hissue
    exact .created hissue rfl untouched_storeWinnerPayment.gateway

theorem createCheckoutOrder_registers (r : CheckoutRequest) :
    Registers (· = .cartCheckout r.buyer) db (createCheckoutOrder db r).db := by
  unfold createCheckoutOrder
  dsimp only
  split
  · exact .same rfl
  split
  · exact .same rfl
  split
  · exact .same rfl
  split
  · exact .same rfl
  split
  · exact .same rfl
  · next order gateway hissue =>
    split_ifs at hissue
    exact .created hissue rfl rfl

/-! ### The verifications, which leave the gateway alone -/

theorem verifyPayment_gateway (r : VerifyRequest) : (verifyPayment db r).db.gateway = db.gateway := by
  have hback : (db.afterRollback r).gateway = db.gateway := by
    unfold Db.afterRollback
    split_ifs <;> rfl
  unfold verifyPayment
  split
  · rfl
  split
  · rfl
  split
  · rfl
  split
  · rfl
  unfold Db.completeSale
  split
  · exact hback
  next db' hok =>
  have hgw : db'.gateway = (db.sell r).gateway := (untouched_createFromPayment hok).gateway
  split_ifs
  · exact hgw
  · exact hback

theorem verifyWinnerPayment_gateway (r : VerifyWinnerRequest) :
    (verifyWinnerPayment db r).db.gateway = db.gateway := by
  unfold verifyWinnerPayment
  split
  · rfl
  split
  · rfl
  split
  · rfl
  split
  · rfl
  split
  · split
    · rfl
    · next db' hok =>
      exact (untouched_storeVerified hok).gateway
  split
  · rfl
  dsimp only
  split_ifs
  · split
    · rfl
    · next db' hok =>
      exact (untouched_storeVerified hok).gateway
  · rfl
  · rfl
  · split
    · rfl
    · next db' hok =>
      exact (untouched_storeVerified hok).gateway

theorem verifyCheckoutPayment_gateway (r : VerifyCheckoutRequest) :
    (verifyCheckoutPayment db r).db.gateway = db.gateway := by
  unfold verifyCheckoutPayment
  dsimp only
  split_ifs
  · rfl
  · rfl
  · rfl
  · exact (untouched_checkoutLines r _ _).gateway

/-! ### All calls -/

/-- Only `create_purchase_order` registers orders with the note of a listing. -/
def Label.allows (l : Label) (notes : Notes) : Prop :=
  ∀ listing buyer, notes = .domainListing listing buyer →
    ∃ r, l = .createPurchaseOrder r ∧ r.listing = listing ∧ r.buyer = buyer

theorem Registers.mono {Q : Notes → Prop} (h : Registers P db db') (hPQ : ∀ n, P n → Q n) :
    Registers Q db db' :=
  h.imp_right fun ⟨amount, notes, hP, horders⟩ => ⟨amount, notes, hPQ notes hP, horders⟩

/-- **A call registers at most one order, under its own note.** -/
theorem orders_step (l : Label) : Registers l.allows db (step db l) := by
  -- a note of another kind is allowed to every call
  have hother : ∀ (l : Label) (n : Notes), (∀ listing buyer, n ≠ .domainListing listing buyer) →
      ∀ notes, notes = n → l.allows notes := by
    rintro l n hn notes rfl listing buyer heq
    exact absurd heq (hn listing buyer)
  cases l with
  | createPurchaseOrder r =>
    refine (createPurchaseOrder_registers r).mono ?_
    rintro notes rfl listing buyer heq
    obtain ⟨rfl, rfl⟩ := Notes.domainListing.inj heq
    exact ⟨r, rfl, rfl, rfl⟩
  | createWinnerOrder r =>
    exact (createWinnerOrder_registers r).mono (hother _ _ (by simp))
  | createCheckoutOrder r =>
    exact (createCheckoutOrder_registers r).mono (hother _ _ (by simp))
  | otherOrder user amount =>
    simp only [step, call]
    split
    · next order gateway hissue =>
      exact .created hissue (hother _ (.other user) (by simp) _ rfl) rfl
    · exact .same rfl
  | capture order => exact .inl Gateway.capture_orders
  | verifyPayment r => exact .same (verifyPayment_gateway r)
  | verifyWinnerPayment r => exact .same (verifyWinnerPayment_gateway r)
  | verifyCheckoutPayment r => exact .same (verifyCheckoutPayment_gateway r)
  | handlePaymentFailure listing =>
    simp only [step, call, handlePaymentFailure]
    split <;> exact .same rfl
  | _ => exact .same (untouched_step rfl).gateway

/-! ## History and notes -/

/-- The order carries the note of this listing and buyer. -/
def Db.orderFor (db : Db) (order : OrderId) (listing : ListingId) (buyer : UserId) : Bool :=
  db.gateway.orders.any fun o => o.id = order && o.notes = .domainListing listing buyer

theorem orderFor_iff : db.orderFor order listing buyer = true ↔
    ∃ o ∈ db.gateway.orders, o.id = order ∧ o.notes = .domainListing listing buyer := by
  simp [Db.orderFor]

theorem Registers.wellFormed (h : Registers P db db') (hwf : db.gateway.WellFormed) :
    db'.gateway.WellFormed := by
  rcases h with hsame | ⟨amount, notes, -, hcons⟩
  · intro o ho
    have hnext : db'.gateway.nextId = db.gateway.nextId := by simp [Gateway.nextId, hsame]
    rw [hnext]
    exact hwf o (hsame ▸ ho)
  · exact hwf.cons hcons

theorem wellFormed_exec (hfresh : Fresh db) (ls : List Label) :
    (Run.exec step db ls).gateway.WellFormed := by
  have hinit : db.gateway.WellFormed := Gateway.wellFormed_of_nil hfresh.noOrders
  exact Run.exec_preserves (P := fun db : Db => db.gateway.WellFormed)
    (fun _ l h => (orders_step l).wellFormed h) ls hinit

theorem orderFor_step (l : Label) (h : db.orderFor order listing buyer = true) :
    (step db l).orderFor order listing buyer = true := by
  obtain ⟨o, ho, hid, hnote⟩ := orderFor_iff.mp h
  refine orderFor_iff.mpr ⟨o, ?_, hid, hnote⟩
  rcases orders_step l with hsame | ⟨amount, notes, -, hcons⟩
  · rwa [hsame]
  · rw [hcons]
    exact List.mem_cons_of_mem _ ho

theorem orderFor_exec (ls : List Label) (h : db.orderFor order listing buyer = true) :
    (Run.exec step db ls).orderFor order listing buyer = true :=
  Run.exec_preserves (P := fun db : Db => db.orderFor order listing buyer = true)
    (fun _ l h => orderFor_step l h) ls h

/-- The order a call of `create_purchase_order` registers carries the note of its request. -/
theorem orderFor_of_issued {r : PurchaseRequest} (hnew : ¬ db.hasOrder order)
    (hhas : (createPurchaseOrder db r).db.hasOrder order) :
    (createPurchaseOrder db r).db.orderFor order r.listing r.buyer = true := by
  obtain ⟨o, ho, rfl⟩ := hhas
  refine orderFor_iff.mpr ⟨o, ho, rfl, ?_⟩
  rcases @createPurchaseOrder_registers db r with hsame | ⟨amount, notes, rfl, hcons⟩
  · exact absurd ⟨o, hsame ▸ ho, rfl⟩ hnew
  · rw [hcons] at ho
    rcases List.mem_cons.mp ho with rfl | hold
    · rfl
    · exact absurd ⟨o, hold, rfl⟩ hnew

/-- **The note tells the history.** An order carries the note of a listing and a buyer exactly
when `create_purchase_order` issued it for them. The induction is on the run from its end. -/
theorem issued_iff (hfresh : Fresh db) (ls : List Label) :
    Issued db ls order listing buyer ↔
      (Run.exec step db ls).orderFor order listing buyer = true := by
  constructor
  · rintro ⟨pre, r, post, rfl, rfl, rfl, hnew, hhas⟩
    rw [Run.exec_append, Run.exec_cons]
    exact orderFor_exec post (orderFor_of_issued hnew hhas)
  · induction ls using List.reverseRecOn with
    | nil =>
      intro h
      obtain ⟨o, ho, -, -⟩ := orderFor_iff.mp h
      rw [Run.exec_nil, hfresh.noOrders] at ho
      cases ho
    | append_singleton ls l ih =>
      intro h
      by_cases hold : (Run.exec step db ls).orderFor order listing buyer = true
      · obtain ⟨pre, r, post, rfl, hrest⟩ := ih hold
        exact ⟨pre, r, post ++ [l], by simp, hrest⟩
      · obtain ⟨o, ho, rfl, hnote⟩ := orderFor_iff.mp h
        rw [Run.exec_append, Run.exec_cons, Run.exec_nil] at ho
        have hstep : o ∈ (step (Run.exec step db ls) l).gateway.orders := ho
        rcases @orders_step (Run.exec step db ls) l with hsame | ⟨amount, notes, hallow, hcons⟩
        · exact absurd (orderFor_iff.mpr ⟨o, hsame ▸ ho, rfl, hnote⟩) hold
        · rw [hcons] at ho
          rcases List.mem_cons.mp ho with rfl | ho
          · obtain ⟨r, rfl, rfl, rfl⟩ := hallow listing buyer hnote
            refine ⟨ls, r, [], rfl, rfl, rfl, ?_, ⟨_, hstep, rfl⟩⟩
            rintro ⟨o, ho, hid⟩
            have hlt := wellFormed_exec hfresh ls o ho
            rw [hid] at hlt
            exact absurd hlt (Nat.lt_irrefl _)
          · exact absurd (orderFor_iff.mpr ⟨o, ho, rfl, hnote⟩) hold

/-! ## What a verification checks -/

/-- The listing is sold to the buyer under the payment. -/
def Db.soldTo (db : Db) (listing : ListingId) (buyer : UserId) (payment : PaymentId) : Bool :=
  (db.listings listing).any fun l =>
    l.domainStatus = .sold && l.purchasedByUserId = some buyer && l.razorpayPaymentId = some payment

/-- The verification marks the listing sold to its buyer under its payment. -/
def Marks (db : Db) (r : VerifyRequest) : Prop :=
  db.soldTo r.listing r.buyer r.payment = false ∧
    (verifyPayment db r).db.soldTo r.listing r.buyer r.payment = true

instance (db : Db) (r : VerifyRequest) : Decidable (Marks db r) :=
  inferInstanceAs (Decidable (_ ∧ _))

/-- The checks of `verify_payment`, and what decides whether the sale is committed: the payment is
not recorded, the listing exists and belongs to no other buyer, the signature verifies, and
either a pending redemption of the order makes `confirm_redemption` commit the sale or the rest of
the call goes through. -/
def Db.passesChecks (db : Db) (r : VerifyRequest) : Bool :=
  !(db.txByPayment r.payment).isSome && (db.listings r.listing).any fun l =>
    !(l.heldByOther r.buyer : Bool) &&
      db.gateway.verifyPaymentSignature r.order r.payment r.genuine &&
      ((db.wallets.pendingRedemption r.order).isSome || (l.listedByUserId.isSome && r.completes))

variable {r : VerifyRequest} {l : Listing} {payment : PaymentId}

theorem soldTo_sell (hget : db.listings r.listing = some l) :
    (db.sell r).soldTo r.listing r.buyer r.payment = true := by
  have hself : (db.sell r).listings r.listing = some (l.markSold r.buyer r.payment) :=
    editListing_self hget
  simp [Db.soldTo, hself, Listing.markSold]

theorem soldTo_createFromPayment {row : Listing} {gross : Paise} {deadline : Time}
    (hok : db.createFromPayment listing row buyer payment gross deadline = .ok db')
    (h : db.soldTo listing buyer payment = true) : db'.soldTo listing buyer payment = true := by
  rcases createFromPayment_cases hok with ⟨-, rfl⟩ | ⟨seller, -, rfl⟩
  · exact h
  · cases hget : db.listings listing with
    | none => simp [Db.soldTo, hget] at h
    | some l =>
      simp only [Db.soldTo, hget, Option.any_some] at h
      simp only [Db.soldTo, Db.editListing, Function.update_self, hget, Option.map_some,
        Option.any_some]
      exact h

/-- `create_from_payment` goes through when there is a seller or the payment is recorded. -/
theorem createFromPayment_error {row : Listing} {gross : Paise} {deadline : Time}
    {e : AppException}
    (h : db.createFromPayment listing row buyer payment gross deadline = .error e) :
    row.listedByUserId = none := by
  unfold Db.createFromPayment at h
  split_ifs at h
  cases hs : row.listedByUserId with
  | none => rfl
  | some seller => simp [hs] at h

theorem soldTo_afterRollback (hget : db.listings r.listing = some l)
    (hbefore : db.soldTo r.listing r.buyer r.payment = false) :
    (db.afterRollback r).soldTo r.listing r.buyer r.payment =
      (db.wallets.pendingRedemption r.order).isSome := by
  unfold Db.afterRollback
  split
  · next hp => rw [soldTo_sell hget, hp]
  · next hp => rw [hbefore, Bool.eq_false_iff.mpr hp]

/-- The sale branch: sold when the order has a pending redemption or the call goes through. -/
theorem soldTo_completeSale (hget : db.listings r.listing = some l)
    (hrec : (db.txByPayment r.payment).isSome = false)
    (hbefore : db.soldTo r.listing r.buyer r.payment = false) :
    (db.completeSale r l).db.soldTo r.listing r.buyer r.payment =
      ((db.wallets.pendingRedemption r.order).isSome ||
        (l.listedByUserId.isSome && r.completes)) := by
  have hback := soldTo_afterRollback hget hbefore
  unfold Db.completeSale
  split
  · next e herr =>
    have hseller := createFromPayment_error herr
    change (db.afterRollback r).soldTo r.listing r.buyer r.payment = _
    rw [hback, hseller]
    simp
  next db' hok =>
  have hseller : l.listedByUserId.isSome = true := by
    by_contra hs
    rw [Option.not_isSome_iff_eq_none] at hs
    have hrec' : ((db.sell r).txByPayment r.payment).isSome = false := hrec
    simp [Db.createFromPayment, hrec', hs] at hok
  split
  · next hcomp =>
    rw [done_db, soldTo_createFromPayment hok (soldTo_sell hget), hseller, hcomp]
    simp
  · next hcomp =>
    rw [fail_db, hback, Bool.eq_false_iff.mpr hcomp]
    simp

/-- **What stands between a triple and the sale.** The order is not among it. -/
theorem marks_iff : Marks db r ↔
    db.soldTo r.listing r.buyer r.payment = false ∧ db.passesChecks r = true := by
  refine and_congr_right fun hbefore => ?_
  unfold verifyPayment Db.passesChecks
  split
  · next hrec => simp [hrec, hbefore]
  next hrec =>
  split
  · next hget => simp [hget, hbefore]
  next l hget =>
  split
  · next hother => simp [hget, hbefore, hother]
  next hother =>
  split
  · next hsig =>
    -- a failed payment clears the buyer
    have hself : ({ db with wallets := db.wallets.cancelRedemption r.order }.editListing r.listing
        .markFailed).listings r.listing = some l.markFailed := editListing_self hget
    simp [Db.soldTo, hself, hsig, hget, Listing.markFailed]
  · next hsig =>
    rw [soldTo_completeSale hget (by simpa using hrec) hbefore]
    simp [hrec, hget, hother, hsig]

/-! ## Binding -/

/-- **Binding of a payment to its purchase.** After every history, a verification that sells the
listing presents an order issued for it exactly when the order carries the note of this listing
and buyer, or the verification does not sell. -/
theorem purchase_bound_iff {db : Db} (hfresh : Fresh db) (ls : List Label) (r : VerifyRequest) :
    (Marks (Run.exec step db ls) r → Issued db ls r.order r.listing r.buyer) ↔
      ((Run.exec step db ls).orderFor r.order r.listing r.buyer = true ∨
        (Run.exec step db ls).passesChecks r = false ∨
        (Run.exec step db ls).soldTo r.listing r.buyer r.payment = true) := by
  rw [issued_iff hfresh, marks_iff]
  cases (Run.exec step db ls).orderFor r.order r.listing r.buyer <;>
    cases (Run.exec step db ls).passesChecks r <;>
    cases (Run.exec step db ls).soldTo r.listing r.buyer r.payment <;> simp

theorem purchase_bound_iff_buys :
    Fresh oneListing ∧
      Marks (Run.exec step oneListing ((buys 1 0).take 2)) ⟨0, 0, 0, true, 1, 0, true⟩ ∧
      Issued oneListing ((buys 1 0).take 2) 0 0 1 := by
  have hmarks : Marks (Run.exec step oneListing ((buys 1 0).take 2))
      ⟨0, 0, 0, true, 1, 0, true⟩ := by decide
  refine ⟨⟨rfl, rfl⟩, hmarks, ?_⟩
  exact (purchase_bound_iff ⟨rfl, rfl⟩ _ ⟨0, 0, 0, true, 1, 0, true⟩).mpr (.inl (by decide)) hmarks

/-- User 1 pays one rupee for something else. -/
def feeRun : List Label := [.otherOrder 1 100, .capture 0]

/-- **A fee of one rupee buys a domain.** -/
theorem fee_order_buys_domain :
    Fresh oneListing ∧ Marks (Run.exec step oneListing feeRun) ⟨0, 0, 0, true, 1, 0, true⟩ ∧
      ¬ Issued oneListing feeRun 0 0 1 := by
  refine ⟨⟨rfl, rfl⟩, by decide, ?_⟩
  rw [issued_iff ⟨rfl, rfl⟩]
  decide

end Deltapreneur.Marketplace
