import Deltapreneur.Marketplace.Sales
import Deltapreneur.Transfer.Closed

/-!
# A domain is not sold twice

A transaction is live while its money is held and it is not cancelled, and counts as live for
good once its seller is paid (`Live`). `OneSale` says that a listing with a live
transaction is sold and points to it; since a listing points to one transaction, it has at most
one live transaction.

The operations write the listing's status without asking for it: `verify_payment`, the cart's
`_complete_domain_purchase` and the auction's `_ensure_domain_transfer` sell a listing that has a
live transaction; `handle_payment_failure` and a failed `verify_payment` put one back on the
market; `refund` and `sync_refund_from_razorpay` of an old, cancelled or refunded transaction
restore a listing that was meanwhile sold again. `Clear` excludes exactly these.

Results:

* `inv_step`, `no_double_sale`: every run whose calls are clear sells no listing twice.
* `payment_failure_reopens_sold`: without it, two buyers own one domain.
-/

namespace Deltapreneur.Marketplace

open EdgePoints Razorpay Transfer

/-! ## Live transactions -/

/-- Money held for a transfer that is not cancelled, or paid out. -/
def Live (tx : Transaction) : Prop :=
  (tx.escrowStatus = .held ∧ tx.transferStatus ≠ .cancelled) ∨ tx.escrowStatus = .released

instance (tx : Transaction) : Decidable (Live tx) := inferInstanceAs (Decidable (_ ∨ _))

/-- A listing with a live transaction is sold and points to it. -/
def OneSale (db : Db) : Prop :=
  ∀ (i : TxId) (tx : Transaction), db.txs[i]? = some tx → Live tx →
    ∃ l, db.listings tx.listingId = some l ∧ l.domainStatus = .sold ∧
      l.activeTransactionId = some i

theorem OneSale.unique {db : Db} (h : OneSale db) {i j : TxId} {tx tx' : Transaction}
    (hi : db.txs[i]? = some tx) (hj : db.txs[j]? = some tx') (hl : Live tx) (hl' : Live tx')
    (hsame : tx.listingId = tx'.listingId) : i = j := by
  obtain ⟨l, hget, -, hact⟩ := h i tx hi hl
  obtain ⟨l', hget', -, hact'⟩ := h j tx' hj hl'
  rw [hsame, hget'] at hget
  cases hget
  rw [hact'] at hact
  exact (Option.some.inj hact).symm

/-- Some transaction of the listing is live. -/
def Db.live (db : Db) (listing : ListingId) : Bool :=
  db.txs.any fun tx => tx.listingId = listing && Live tx

/-- The invariant: the status columns of every transaction agree, and no listing is sold
twice. -/
structure Inv (db : Db) : Prop where
  agree : ∀ (i : TxId) (tx : Transaction), db.txs[i]? = some tx → tx.Agree
  oneSale : OneSale db

/-- No transaction of the listing is live. -/
def NoLive (db : Db) (listing : ListingId) : Prop :=
  ∀ (i : TxId) (tx : Transaction), db.txs[i]? = some tx → tx.listingId = listing → ¬ Live tx

variable {db db' : Db} {listing : ListingId} {f : Listing → Listing} {i : TxId}
  {tx tx' : Transaction} {l row : Listing} {buyer : UserId} {gross : Paise} {payment : PaymentId}
  {deadline : Time} {auction : AuctionId} {p : WinnerPayment} {r : VerifyCheckoutRequest}
  {lines : List ListingId} {g : Transaction → Except AppException Transaction} {record : Payment}
  {existing : Option RefundId}

theorem noLive_of_live (h : db.live listing = false) : NoLive db listing := by
  intro i tx hi hlist hlive
  have hany := List.any_eq_false.mp h tx (List.mem_of_getElem? hi)
  simp [hlist, hlive] at hany

theorem noLive_of_not_sold (h : Inv db) (hget : db.listings listing = some l)
    (hs : l.domainStatus ≠ .sold) : NoLive db listing := by
  intro i tx hi hlist hlive
  obtain ⟨l', hget', hsold, -⟩ := h.oneSale i tx hi hlive
  rw [hlist, hget] at hget'
  cases hget'
  exact hs hsold

/-! ## The four kinds of change -/

theorem Inv.frame (h : Inv db) (ht : db'.txs = db.txs) (hl : db'.listings = db.listings) :
    Inv db' := by
  refine ⟨fun i tx hi => h.agree i tx (ht ▸ hi), fun i tx hi hlive => ?_⟩
  rw [hl]
  exact h.oneSale i tx (ht ▸ hi) hlive

theorem inv_editListing (h : Inv db)
    (hs : ∀ l : Listing, l.domainStatus = .sold → (f l).domainStatus = .sold)
    (ha : ∀ l : Listing, (f l).activeTransactionId = l.activeTransactionId) :
    Inv (db.editListing listing f) := by
  refine ⟨h.agree, fun i tx hi hlive => ?_⟩
  obtain ⟨l, hget, hsold, hact⟩ := h.oneSale i tx hi hlive
  by_cases heq : tx.listingId = listing
  · refine ⟨f l, ?_, hs l hsold, by rw [ha, hact]⟩
    rw [heq] at hget ⊢
    exact editListing_self hget
  · exact ⟨l, by rw [editListing_ne heq, hget], hsold, hact⟩

theorem inv_editListing_noLive (h : Inv db) (hno : NoLive db listing) :
    Inv (db.editListing listing f) := by
  refine ⟨h.agree, fun i tx hi hlive => ?_⟩
  have hne : tx.listingId ≠ listing := fun heq => hno i tx hi heq hlive
  rw [editListing_ne hne]
  exact h.oneSale i tx hi hlive

/-- A change of one transaction row that does not bring it to life. -/
theorem inv_setTx (h : Inv db) (hi : db.txs[i]? = some tx) (hagree : tx'.Agree)
    (hlist : tx'.listingId = tx.listingId) (hlive : Live tx' → Live tx) :
    Inv { db with txs := db.txs.set i tx' } := by
  have hlt : i < db.txs.length := (List.getElem?_eq_some_iff.mp hi).1
  refine ⟨fun j y hj => ?_, fun j y hj hy => ?_⟩
  · by_cases hij : i = j
    · subst hij
      rw [List.getElem?_set_self hlt] at hj
      exact Option.some.inj hj ▸ hagree
    · rw [List.getElem?_set_ne hij] at hj
      exact h.agree j y hj
  · by_cases hij : i = j
    · subst hij
      rw [List.getElem?_set_self hlt] at hj
      cases hj
      rw [hlist]
      exact h.oneSale i tx hi (hlive hy)
    · rw [List.getElem?_set_ne hij] at hj
      exact h.oneSale j y hj hy

/-- A transaction is settled and its listing restored: either the transaction was the live one
of its listing, or there is none. -/
theorem inv_settle (h : Inv db) (hi : db.txs[i]? = some tx) (hagree : tx'.Agree)
    (hlist : tx'.listingId = tx.listingId) (hdead : ¬ Live tx')
    (hok : Live tx ∨ db.live tx.listingId = false) : Inv (db.settle i tx') := by
  have hset := inv_setTx h hi hagree hlist fun hl => absurd hl hdead
  refine inv_editListing_noLive hset fun j y hj hy hlive => ?_
  have hlt : i < db.txs.length := (List.getElem?_eq_some_iff.mp hi).1
  by_cases hij : i = j
  · subst hij
    rw [List.getElem?_set_self hlt] at hj
    exact hdead (Option.some.inj hj ▸ hlive)
  · rw [List.getElem?_set_ne hij] at hj
    rw [hlist] at hy
    rcases hok with htx | hopen
    · exact hij (h.oneSale.unique hi hj htx hlive hy.symm)
    · exact noLive_of_live hopen j y hj hy hlive

theorem agree_create {seller : UserId} :
    (Transaction.create listing buyer seller gross payment deadline).Agree := by
  simp [Transaction.Agree, Transaction.create]

/-- `create_from_payment` on a listing that was just marked sold and has no live transaction. -/
theorem inv_createFromPayment (h : Inv db) (hno : NoLive db listing)
    (hget : db.listings listing = some l) (hsold : l.domainStatus = .sold)
    (hok : db.createFromPayment listing row buyer payment gross deadline = .ok db') : Inv db' := by
  rcases createFromPayment_cases hok with ⟨-, rfl⟩ | ⟨seller, -, rfl⟩
  · exact h
  refine ⟨fun j y hj => ?_, fun j y hj hlive => ?_⟩
  · rw [editListing_txs, List.getElem?_append] at hj
    split_ifs at hj with hlt
    · exact h.agree j y hj
    · rw [List.getElem?_singleton] at hj
      split_ifs at hj
      exact Option.some.inj hj ▸ agree_create
  · rw [editListing_txs, List.getElem?_append] at hj
    split_ifs at hj with hlt
    · have hne : y.listingId ≠ listing := fun heq => hno j y hj heq hlive
      rw [editListing_ne hne]
      exact h.oneSale j y hj hlive
    · rw [List.getElem?_singleton] at hj
      split_ifs at hj with hz
      cases hj
      have hj' : j = db.txs.length :=
        Nat.le_antisymm (Nat.le_of_sub_eq_zero hz) (Nat.le_of_not_lt hlt)
      refine ⟨{ l with activeTransactionId := some db.txs.length }, ?_, hsold, by rw [hj']⟩
      exact editListing_self hget

/-- A sale: the listing is marked sold and its payment recorded. It is in order when the listing
had no live transaction, or when the payment is recorded already. -/
theorem inv_sale (h : Inv db) (hget : db.listings listing = some l)
    (hok : (db.editListing listing f).createFromPayment listing row buyer payment gross deadline =
      .ok db') (hs : ∀ l : Listing, (f l).domainStatus = .sold)
    (ha : ∀ l : Listing, (f l).activeTransactionId = l.activeTransactionId)
    (hno : NoLive db listing ∨ (db.txByPayment payment).isSome = true) : Inv db' := by
  have hsold : Inv (db.editListing listing f) := inv_editListing h (fun l _ => hs l) ha
  rcases hno with hno | hrec
  · exact inv_createFromPayment hsold hno (editListing_self hget) (hs l) hok
  · rcases createFromPayment_cases hok with ⟨-, rfl⟩ | ⟨seller, hnone, -⟩
    · exact hsold
    · have hsame : (db.editListing listing f).txByPayment payment = db.txByPayment payment := rfl
      rw [hsame, hrec] at hnone
      cases hnone

/-! ## Clear calls -/

/-- The listing and the payment that a verification of a winner payment sells: it has passed the
checks of `verify_winner_payment`. -/
def Db.winnerSale (db : Db) (r : VerifyWinnerRequest) : Option (ListingId × PaymentId) :=
  match (db.payments.findIdx? fun p => p.razorpayOrderId = r.order).bind (db.payments[·]?) with
  | none => none
  | some p =>
    match db.auctions[p.auctionId]? with
    | none => none
    | some a =>
      if p.userId ≠ r.user then none
      else if p.paymentStatus = .success then p.razorpayPaymentId.map (a.domainId, ·)
      else if db.gateway.verifyPaymentSignature r.order r.payment r.genuine = false then none
      else if a.status = .completed ∨
          (a.status = .paymentPending ∧ a.currentWinnerId = some r.user) then
        some (a.domainId, r.payment)
      else none

/-- The checks of `verify_payment` that stop a call before it writes the listing, and the failures
that take a sale back. -/
def Db.stopsVerify (db : Db) (r : VerifyRequest) : Bool :=
  (db.txByPayment r.payment).isSome || (db.listings r.listing).any fun l =>
    l.heldByOther r.buyer ||
      (db.gateway.verifyPaymentSignature r.order r.payment r.genuine &&
        (!r.completes || l.listedByUserId = none))

/-- The line of a cart that gets a transaction: the first that does not fail before. -/
def Db.cartSale (db : Db) (r : VerifyCheckoutRequest) (lines : List ListingId) :
    Option ListingId :=
  lines.find? fun listing => (db.listings listing).any fun l =>
    !r.fails listing && l.listedByUserId.isSome

/-- The condition on a call: it sells no listing that has a live transaction under a payment not
recorded yet, it fails no payment of such a listing, and it settles no other transaction of it. -/
def Clear (db : Db) : Label → Prop
  | .verifyPayment r => db.live r.listing = true → db.stopsVerify r = true
  | .handlePaymentFailure listing => db.live listing = false
  | .verifyWinnerPayment r =>
    ∀ sale ∈ db.winnerSale r, db.live sale.1 = true → (db.txByPayment sale.2).isSome = true
  | .verifyCheckoutPayment r =>
    db.acceptsCheckout r = true →
      ∀ listing ∈ db.cartSale r ((db.checkoutLines r.buyer r.order).map CartLine.productId),
        db.live listing = true → (db.txByPayment r.payment).isSome = true
  | .refund id record net existing =>
    ∀ tx ∈ db.txs[id]?, tx.transferStatus = .cancelled →
      (Transfer.refund tx record net existing).result.isOk = true → db.live tx.listingId = false
  | .syncRefund id record reachable existing =>
    ∀ tx ∈ db.txs[id]?, reachable = true → syncMarks tx record existing = true → ¬ Live tx →
      db.live tx.listingId = false
  | _ => True

/-! ## Direct sale -/

theorem inv_createPurchaseOrder (h : Inv db) (r : PurchaseRequest) :
    Inv (createPurchaseOrder db r).db := by
  unfold createPurchaseOrder
  split
  · exact h
  · next l hget =>
    split_ifs with hown hsold hreview hother hprem hzero hcontact
    all_goals try exact h
    · exact inv_editListing_noLive h (noLive_of_not_sold h hget hsold)
    · unfold Db.holdListing
      split
      · split_ifs <;> exact h
      · next order gateway hissue =>
        have hopen : Inv { db with
            gateway := gateway
            wallets := db.wallets.createPendingRedemption r.buyer order
              (r.charge db.wallets l).2 } := h.frame rfl rfl
        exact inv_editListing_noLive hopen (noLive_of_not_sold hopen hget hsold)

theorem inv_afterRollback {r : VerifyRequest} (h : Inv db) : Inv (db.afterRollback r) := by
  unfold Db.afterRollback
  split_ifs
  · have hsold : Inv (db.editListing r.listing (.markSold r.buyer r.payment)) :=
      inv_editListing h (fun _ _ => rfl) fun _ => rfl
    exact hsold.frame rfl rfl
  · exact h

/-- The sale branch of `verify_payment`. -/
theorem inv_completeSale {r : VerifyRequest} (h : Inv db) (hget : db.listings r.listing = some l)
    (hno : r.completes = true → l.listedByUserId ≠ none → NoLive db r.listing) :
    Inv (db.completeSale r l).db := by
  unfold Db.completeSale
  split
  · exact inv_afterRollback h
  next db' hok =>
  split
  · next hcomp =>
    have hw : Inv { db with wallets := db.wallets.confirmRedemption r.order } := h.frame rfl rfl
    by_cases hseller : l.listedByUserId = none
    · -- without a seller only a payment that is recorded already gets here
      refine inv_sale hw hget hok (fun _ => rfl) (fun _ => rfl) (.inr ?_)
      by_contra hrec
      have hrec' : ((db.sell r).txByPayment r.payment).isSome = false := by
        rw [Bool.not_eq_true] at hrec
        exact hrec
      simp [Db.createFromPayment, hrec', hseller] at hok
    · exact inv_sale hw hget hok (fun _ => rfl) (fun _ => rfl) (.inl (hno hcomp hseller))
  · exact inv_afterRollback h

theorem inv_verifyPayment {r : VerifyRequest} (h : Inv db)
    (hclear : Clear db (.verifyPayment r)) : Inv (verifyPayment db r).db := by
  unfold verifyPayment
  split
  · exact h
  next hrec =>
  split
  · exact h
  next l hget =>
  split
  · exact h
  next hother =>
  -- the call is not stopped, so the listing has no live transaction
  split
  · next hsig =>
    have hlive : db.live r.listing = false := by
      by_contra hl
      have hstop := hclear (by simpa using hl)
      simp [Db.stopsVerify, hrec, hget, hother, hsig] at hstop
    have hw : Inv { db with wallets := db.wallets.cancelRedemption r.order } := h.frame rfl rfl
    exact inv_editListing_noLive hw (noLive_of_live hlive)
  · next hsig =>
    refine inv_completeSale h hget fun hcomp hseller => noLive_of_live ?_
    by_contra hl
    have hstop := hclear (by simpa using hl)
    simp [Db.stopsVerify, hrec, hget, hother, hcomp, hseller] at hstop

theorem inv_handlePaymentFailure (h : Inv db) (hlive : db.live listing = false) :
    Inv (handlePaymentFailure db listing).db := by
  unfold handlePaymentFailure
  split
  · exact h
  · next l hget =>
    have hw : ∀ w : Wallets, Inv { db with wallets := w } := fun w => h.frame rfl rfl
    exact inv_editListing_noLive (hw _) (noLive_of_live hlive)

/-! ## Auction sale -/

theorem inv_createAuction (h : Inv db) (r : CreateAuctionRequest) : Inv (createAuction db r).db := by
  unfold createAuction
  split
  · exact h
  · split_ifs
    all_goals try exact h
    have ha : Inv { db with auctions := db.auctions ++ [r.auction] } := h.frame rfl rfl
    exact inv_editListing ha (fun _ => id) fun _ => rfl

theorem inv_approveAndGoLive (h : Inv db) : Inv (approveAndGoLive db listing).db := by
  have hverify : ∀ db', Inv db' → Inv (db'.editListing listing .verify) := fun db' h' =>
    inv_editListing h' (fun _ => id) fun _ => rfl
  unfold approveAndGoLive
  split
  · exact h
  · split_ifs
    · exact h
    · exact h
    · split
      · exact h
      · split
        · exact hverify _ (h.frame rfl rfl)
        · exact hverify _ (h.frame rfl rfl)
        · exact hverify _ h
        · exact hverify _ h
        · exact h

theorem inv_recordBid {bidder : UserId} {amount : Paise} (h : Inv db) :
    Inv (recordBid db auction bidder amount) := by
  unfold recordBid
  split
  · exact h.frame rfl rfl
  · exact h.frame rfl rfl
  · exact h

/-- `restore_listing_after_no_sale` looks at the listing's status first. -/
theorem inv_restoreAfterNoSale {price : Paise} (h : Inv db) :
    Inv (db.restoreAfterNoSale listing price) := by
  unfold Db.restoreAfterNoSale
  split
  · exact h
  next l hget =>
  split
  · exact h
  next hopen =>
  split
  · split_ifs
    · exact inv_editListing_noLive h (noLive_of_not_sold h hget fun hs => hopen (.inl hs))
    · exact h
  · exact h

theorem inv_resolveAuction {price : Paise} (h : Inv db) :
    Inv (resolveAuction db auction price).db := by
  unfold resolveAuction
  split
  · exact h
  · split_ifs
    · exact h
    · exact h.frame rfl rfl
    · exact inv_restoreAfterNoSale (h.frame rfl rfl)

theorem inv_createWinnerOrder (h : Inv db) (r : WinnerOrderRequest) :
    Inv (createWinnerOrder db r).db := by
  have hstore : ∀ db' order amount, Inv db' → Inv (db'.storeWinnerPayment r order amount) := by
    intro db' order amount h'
    unfold Db.storeWinnerPayment
    split
    · exact h'.frame rfl rfl
    · exact h'.frame rfl rfl
  unfold createWinnerOrder
  split
  · exact h
  · split_ifs
    all_goals try exact h
    split
    · exact h
    · split_ifs
      · exact h
      · unfold Db.issueWinnerOrder
        dsimp only
        split
        · exact h
        · exact hstore _ _ _ (h.frame rfl rfl)

/-- `_ensure_domain_transfer`, when the listing has no live transaction or the payment is
recorded. -/
theorem inv_ensureDomainTransfer {a : Auction}
    (hok : db.ensureDomainTransfer a p deadline = .ok db') (h : Inv db)
    (hclear : ∀ payment, p.razorpayPaymentId = some payment → db.live a.domainId = true →
      (db.txByPayment payment).isSome = true) : Inv db' := by
  unfold Db.ensureDomainTransfer at hok
  split at hok
  · exact Except.ok.inj hok ▸ h
  next payment hpay =>
  split at hok
  · exact Except.ok.inj hok ▸ h
  next hrec =>
  split at hok
  · exact Except.ok.inj hok ▸ h
  next l hget =>
  split at hok
  · exact Except.ok.inj hok ▸ h
  · have hlive : db.live a.domainId = false := by
      by_contra hl
      exact hrec (hclear payment hpay (by simpa using hl))
    exact inv_sale h hget hok (fun _ => rfl) (fun _ => rfl) (.inl (noLive_of_live hlive))

theorem inv_storeVerified {n : Nat} {a : Auction} (h : Inv db)
    (hclear : ∀ payment, p.razorpayPaymentId = some payment → db.live a.domainId = true →
      (db.txByPayment payment).isSome = true) (hok : db.storeVerified n p a deadline = .ok db') :
    Inv db' := by
  unfold Db.storeVerified at hok
  exact inv_ensureDomainTransfer hok (h.frame rfl rfl) hclear

theorem inv_verifyWinnerPayment {r : VerifyWinnerRequest} (h : Inv db)
    (hclear : Clear db (.verifyWinnerPayment r)) : Inv (verifyWinnerPayment db r).db := by
  unfold verifyWinnerPayment
  split
  · exact h
  next n hn =>
  split
  · exact h
  next p hp =>
  split
  · exact h
  next huser =>
  split
  · exact h
  next a ha =>
  split
  · next hsucc =>
    split
    · exact h
    · next db' hok =>
      refine (inv_storeVerified h (fun payment hpay => ?_) hok).frame rfl rfl
      refine hclear (a.domainId, payment) ?_
      simp only [Db.winnerSale, hn, Option.bind_some, hp, ha, if_neg huser, if_pos hsucc, hpay]
      rfl
  next hsucc =>
  split
  · exact h.frame rfl rfl
  next hsig =>
  -- in the two branches that store the payment, it sells the auction's listing
  have hsale : a.status = .completed ∨
      (a.status = .paymentPending ∧ a.currentWinnerId = some r.user) → ∀ payment,
      some r.payment = some payment → db.live a.domainId = true →
      (db.txByPayment payment).isSome = true := by
    intro hstatus payment hpay
    cases hpay
    refine hclear (a.domainId, r.payment) ?_
    simp only [Db.winnerSale, hn, Option.bind_some, hp, ha, if_neg huser, if_neg hsucc,
      if_neg hsig, if_pos hstatus]
    rfl
  dsimp only
  split_ifs with hdone hpend hwin
  · split
    · exact h
    · next db' hok => exact inv_storeVerified h (hsale (.inl hdone)) hok
  · exact h
  · exact h
  · split
    · exact h
    · next db' hok =>
      have hstatus : a.status = .paymentPending ∧ a.currentWinnerId = some r.user :=
        ⟨not_not.mp hpend, not_not.mp hwin⟩
      exact (inv_storeVerified h (hsale (.inr hstatus)) hok).frame rfl rfl

/-! ## Cart sale -/

theorem inv_createCheckoutOrder (h : Inv db) (r : CheckoutRequest) :
    Inv (createCheckoutOrder db r).db := by
  unfold createCheckoutOrder
  dsimp only
  split_ifs
  all_goals first | exact h | skip
  all_goals
    split
    · exact h
    · exact h.frame rfl rfl

/-- What has to hold of the lines still to come: the payment is recorded, or the line that will
record it has no live transaction. -/
def CartClear (r : VerifyCheckoutRequest) (db : Db) (lines : List ListingId) : Prop :=
  (db.txByPayment r.payment).isSome = true ∨
    ∀ listing ∈ db.cartSale r lines, NoLive db listing

theorem cartSale_editListing_markSold :
    (db.editListing listing (.markSold r.buyer r.payment)).cartSale r lines =
      db.cartSale r lines := by
  unfold Db.cartSale
  congr 1
  funext other
  by_cases heq : other = listing
  · subst heq
    cases hget : db.listings other with
    | none => simp [Db.editListing, hget]
    | some l => rw [editListing_self hget]; rfl
  · rw [editListing_ne heq]

theorem txByPayment_createFromPayment
    (hok : db.createFromPayment listing row buyer payment gross deadline = .ok db') :
    (db'.txByPayment payment).isSome = true := by
  rcases createFromPayment_cases hok with ⟨hrec, rfl⟩ | ⟨seller, -, rfl⟩
  · exact hrec
  · rw [Db.txByPayment, editListing_txs, List.findIdx?_isSome]
    simp [Transaction.create]

/-- One line of the cart. -/
theorem inv_completeDomainPurchase (h : Inv db) (hclear : CartClear r db (listing :: lines)) :
    Inv (db.completeDomainPurchase r listing) ∧
      CartClear r (db.completeDomainPurchase r listing) lines := by
  unfold Db.completeDomainPurchase
  split
  · next hnone =>
    refine ⟨h, hclear.imp_right fun hno => ?_⟩
    simpa [Db.cartSale, hnone] using hno
  next l hget =>
  dsimp only
  have hsold : Inv (db.editListing listing (.markSold r.buyer r.payment)) :=
    inv_editListing h (fun _ _ => rfl) fun _ => rfl
  split_ifs with hfail
  · -- a line that fails before its transaction is not the one that records the payment
    refine ⟨hsold, hclear.imp_right fun hno => ?_⟩
    rw [cartSale_editListing_markSold]
    have hskip : db.cartSale r (listing :: lines) = db.cartSale r lines := by
      unfold Db.cartSale
      rw [List.find?_cons_of_neg]
      rcases hfail with hf | hs
      · simp [hget, hf]
      · simp [hget, hs]
    rwa [hskip] at hno
  · push Not at hfail
    split
    · next db' hok =>
      refine ⟨inv_sale h hget hok (fun _ => rfl) (fun _ => rfl) ?_,
        .inl (txByPayment_createFromPayment hok)⟩
      refine hclear.symm.imp_left fun hno => hno listing ?_
      have hseller : l.listedByUserId.isSome = true := Option.isSome_iff_ne_none.mpr hfail.2
      simp [Db.cartSale, hget, hfail.1, hseller]
    · next e herr =>
      exfalso
      obtain ⟨seller, hseller⟩ := Option.ne_none_iff_exists'.mp hfail.2
      simp only [Db.createFromPayment, hseller] at herr
      split_ifs at herr

/-- **Every line of the cart.** The induction is on the lines; the payment is recorded at the
first line that gets a transaction, and the lines after it find it recorded. -/
theorem inv_checkoutLines : ∀ (lines : List ListingId) (db : Db),
    Inv db → CartClear r db lines →
      Inv (lines.foldl (fun db listing => db.completeDomainPurchase r listing) db)
  | [], _, h, _ => h
  | listing :: lines, db, h, hclear => by
    obtain ⟨hinv, hrest⟩ := inv_completeDomainPurchase h hclear
    exact inv_checkoutLines lines (db.completeDomainPurchase r listing) hinv hrest

theorem inv_verifyCheckoutPayment (h : Inv db) (hclear : Clear db (.verifyCheckoutPayment r)) :
    Inv (verifyCheckoutPayment db r).db := by
  unfold verifyCheckoutPayment
  dsimp only
  split_ifs with hsig hown hempty
  · exact h.frame rfl rfl
  · exact h.frame rfl rfl
  · exact h
  · have hconf : Inv { db with wallets := db.wallets.confirmRedemption r.order } :=
      h.frame rfl rfl
    have haccept : db.acceptsCheckout r = true := by
      simp only [Db.acceptsCheckout, Bool.and_eq_true]
      exact ⟨by simpa using hsig, by simpa using hown⟩
    refine (inv_checkoutLines _ _ hconf ?_).frame rfl rfl
    by_cases hrec : (db.txByPayment r.payment).isSome = true
    · exact .inl hrec
    · refine .inr fun listing hsale => ?_
      have hlive : db.live listing = false := by
        by_contra hl
        exact hrec (hclear haccept listing hsale (by simpa using hl))
      exact noLive_of_live hlive

/-! ## Escrow -/

theorem inv_onTx (h : Inv db) (hg : ∀ tx tx', tx.Agree → g tx = .ok tx' →
      tx'.Agree ∧ tx'.listingId = tx.listingId ∧ (Live tx' → Live tx)) : Inv (db.onTx i g).db := by
  unfold Db.onTx
  split
  · exact h
  next tx htx =>
  split
  · exact h
  next tx' hok =>
  obtain ⟨hagree, hlist, hlive⟩ := hg tx tx' (h.agree i tx htx) hok
  exact inv_setTx h htx hagree hlist hlive

theorem TransferStep.live_of_live (hs : TransferStep tx tx') (hlive : Live tx') : Live tx := by
  rcases hlive with ⟨hheld, hopen⟩ | hrel
  · refine .inl ⟨hs.escrow ▸ hheld, fun hc => ?_⟩
    rcases hs.status with hsame | ⟨hfin, -⟩
    · exact hopen (hsame.trans hc)
    · rw [hc] at hfin
      cases hfin
  · exact .inr (hs.escrow ▸ hrel)

theorem inv_onTx_transfer (h : Inv db) (hg : ∀ tx tx', g tx = .ok tx' → TransferStep tx tx') :
    Inv (db.onTx i g).db :=
  inv_onTx h fun tx tx' hagree hok =>
    have hs := hg tx tx' hok
    ⟨(hs.lawful hagree).agree, hs.listing, TransferStep.live_of_live hs⟩

theorem inv_approvePayout {profile : Bool} {now : Time} (h : Inv db) :
    Inv (db.onTx i fun tx => Transfer.approvePayout tx profile now).db := by
  refine inv_onTx h fun tx tx' hagree hok => ?_
  have hlaw := approvePayout_lawful hagree hok
  obtain ⟨hheld, hs, rfl⟩ := approvePayout_ok hok
  refine ⟨hlaw.agree, rfl, fun _ => .inl ⟨hheld, ?_⟩⟩
  rcases hs with hs | hs <;> rw [hs] <;> decide

theorem inv_releasePayout {profile : Bool} (h : Inv db) :
    Inv (db.onTx i fun tx => Transfer.releasePayout tx profile).db := by
  refine inv_onTx h fun tx tx' hagree hok => ?_
  have hlaw := releasePayout_lawful hok
  obtain ⟨hheld, hs, rfl⟩ := releasePayout_ok hok
  exact ⟨hlaw.agree, rfl, fun _ => .inl ⟨hheld, by rw [hs]; decide⟩⟩

theorem inv_settle_cancelled (h : Inv db) (htx : db.txs[i]? = some tx)
    (hopen : tx.transferStatus.final = false) :
    Inv (db.settle i { tx with transferStatus := .cancelled }) := by
  have hagree := h.agree i tx htx
  have hheld : tx.escrowStatus = .held := by
    rw [hagree.held_iff]
    constructor <;> (intro hs; rw [hs] at hopen; exact absurd hopen (by decide))
  have hlaw : Lawful tx { tx with transferStatus := .cancelled } :=
    .setStatus (s := .cancelled) hagree hopen (by decide) (by decide) rfl rfl
  refine inv_settle h htx hlaw.agree rfl ?_ (.inl (.inl ⟨hheld, fun hc => ?_⟩))
  · simp [Live, hheld]
  · rw [hc] at hopen
    cases hopen

theorem inv_resolveAdminReviewTx {action : ReviewAction} (h : Inv db) :
    Inv (resolveAdminReviewTx db i action deadline).db := by
  have hother : ∀ action, Inv (db.onTx i fun tx =>
      Transfer.resolveAdminReview tx action deadline).db := by
    intro action
    refine inv_onTx h fun tx tx' hagree hok => ?_
    have hlaw := resolveAdminReview_lawful hagree hok
    rcases resolveAdminReview_cases hok with hs | ⟨-, rfl⟩
    · exact ⟨hlaw.agree, hs.listing, TransferStep.live_of_live hs⟩
    · exact ⟨hlaw.agree, rfl, fun hl => .inr (hl.resolve_left fun hc => hc.2 rfl)⟩
  cases action with
  | refund => exact hother .refund
  | extendDeadline => exact hother .extendDeadline
  | cancel =>
    simp only [resolveAdminReviewTx]
    split
    · exact h
    next tx htx =>
    split
    · exact h
    next tx' hok =>
    simp only [resolveAdminReview, ite_raise_eq_ok, Except.ok.injEq, not_or] at hok
    obtain ⟨⟨hr, hc, hd, -⟩, rfl⟩ := hok
    refine inv_settle_cancelled h htx ?_
    generalize tx.transferStatus = s at hr hc hd
    cases s <;> first | rfl | contradiction

theorem not_live_markRefunded {refundId : Option RefundId} : ¬ Live (tx.markRefunded refundId) := by
  simp [Live, Transaction.markRefunded]

theorem inv_refundTx {net : RefundNetwork} (h : Inv db)
    (hclear : Clear db (.refund i record net existing)) :
    Inv (refundTx db i record net existing).db := by
  unfold refundTx
  split
  · exact h
  next tx htx =>
  split
  · exact h
  next tx' hok =>
  have hlaw := refund_lawful (h.agree i tx htx) hok
  have hgone : (Transfer.refund tx record net existing).result.isOk = true := by rw [hok]; rfl
  have hno := hclear tx htx
  have hdoes := refund_does tx record net existing
  generalize Transfer.refund tx record net existing = o at hdoes hok hgone hno
  cases hdoes with
  | already id p hr =>
    cases hok
    rw [if_pos hr]
    exact inv_setTx h htx hlaw.agree rfl fun hl => hl
  | refused e p => cases hok
  | lost e p _ _ => cases hok
  | done id p issued hheld =>
    cases hok
    have hset : Inv (db.settle i (tx.markRefunded id)) := by
      refine inv_settle h htx hlaw.agree rfl not_live_markRefunded ?_
      by_cases hc : tx.transferStatus = .cancelled
      · exact .inr (hno hc hgone)
      · exact .inl (.inl ⟨hheld, hc⟩)
    split_ifs with hr
    · have hagree := h.agree i tx htx
      rw [hagree.1, or_self, hheld] at hr
      cases hr
    · exact hset

theorem syncRefundFromRazorpay_marks {reachable : Bool}
    (hok : syncRefundFromRazorpay tx record reachable existing = .ok tx')
    (hmarks : syncMarks tx record existing = true) :
    reachable = true ∧ tx' = tx.markRefunded existing := by
  unfold syncMarks at hmarks
  rw [Bool.and_eq_true] at hmarks
  obtain ⟨hnew, hfull⟩ := hmarks
  simp only [syncRefundFromRazorpay, ite_raise_eq_ok] at hok
  obtain ⟨-, hok⟩ := hok
  split_ifs at hok with hdone hnet
  · simp [hdone] at hnew
  · exact absurd hok raise_ne_ok
  · exact ⟨by simpa using hnet, (Except.ok.inj hok).symm⟩

theorem inv_syncRefundTx {reachable : Bool} (h : Inv db)
    (hclear : Clear db (.syncRefund i record reachable existing)) :
    Inv (syncRefundTx db i record reachable existing).db := by
  unfold syncRefundTx
  split
  · exact h
  next tx htx =>
  split
  · exact h
  next tx' hok =>
  split
  · next hmarks =>
    obtain ⟨hreach, rfl⟩ := syncRefundFromRazorpay_marks hok hmarks
    have hagree : (tx.markRefunded existing).Agree := by
      simp [Transaction.Agree, Transaction.markRefunded]
    refine inv_settle h htx hagree rfl not_live_markRefunded ?_
    by_cases hlive : Live tx
    · exact .inl hlive
    · exact .inr (hclear tx htx hreach hmarks hlive)
  · exact h

/-! ## Runs -/

theorem inv_step (l : Label) (h : Inv db) (hclear : Clear db l) : Inv (step db l) := by
  cases l with
  | createPurchaseOrder r => exact inv_createPurchaseOrder h r
  | verifyPayment r => exact inv_verifyPayment h hclear
  | handlePaymentFailure listing => exact inv_handlePaymentFailure h hclear
  | createAuction r => exact inv_createAuction h r
  | approveAndGoLive listing => exact inv_approveAndGoLive h
  | recordBid auction bidder amount => exact inv_recordBid h
  | resolveAuction auction price => exact inv_resolveAuction h
  | createWinnerOrder r => exact inv_createWinnerOrder h r
  | verifyWinnerPayment r => exact inv_verifyWinnerPayment h hclear
  | addToCart buyer listing addonAmount => exact h.frame rfl rfl
  | createCheckoutOrder r => exact inv_createCheckoutOrder h r
  | verifyCheckoutPayment r => exact inv_verifyCheckoutPayment h hclear
  | refund id record net existing => exact inv_refundTx h hclear
  | syncRefund id record reachable existing => exact inv_syncRefundTx h hclear
  | resolveAdminReview id action deadline => exact inv_resolveAdminReviewTx h
  | party id c => exact inv_onTx_transfer h fun tx tx' hok => PartyCall.run_transfer hok
  | forceComplete id reason =>
    exact inv_onTx_transfer h fun tx tx' hok => forceComplete_transfer hok
  | approvePayout id profile now => exact inv_approvePayout h
  | releasePayout id profile => exact inv_releasePayout h
  | otherOrder user amount =>
    simp only [step, call]
    split
    · exact h.frame rfl rfl
    · exact h
  | capture order => exact h.frame rfl rfl

theorem Fresh.inv (h : Fresh db) : Inv db := by
  refine ⟨fun i tx hi => ?_, fun i tx hi => ?_⟩
  all_goals
    rw [h.noTxs] at hi
    cases hi

/-- A listing has at most one live transaction, and then it is sold and points to it. -/
def NoDoubleSale (db : Db) : Prop :=
  (∀ (i j : TxId) (tx tx' : Transaction), db.txs[i]? = some tx → db.txs[j]? = some tx' →
    Live tx → Live tx' → tx.listingId = tx'.listingId → i = j) ∧ OneSale db

/-- **No listing is sold twice**, in every run of clear calls. -/
theorem no_double_sale {db : Db} (hfresh : Fresh db) {ls : List Label}
    (hclear : Run.Meets step Clear db ls) : NoDoubleSale (Run.exec step db ls) := by
  have hinv : Inv (Run.exec step db ls) :=
    Run.exec_inv (P := Inv) (fun _ l h hl => inv_step l h hl) hfresh.inv hclear
  exact ⟨fun _ _ _ _ hi hj hl hl' hsame => hinv.oneSale.unique hi hj hl hl' hsame, hinv.oneSale⟩

instance (db : Db) : (l : Label) → Decidable (Clear db l)
  | .verifyPayment _ => inferInstanceAs (Decidable (_ → _))
  | .handlePaymentFailure _ => inferInstanceAs (Decidable (_ = _))
  | .verifyWinnerPayment _ => inferInstanceAs (Decidable (∀ _ ∈ _, _ → _))
  | .verifyCheckoutPayment _ => inferInstanceAs (Decidable (_ → ∀ _ ∈ _, _ → _))
  | .refund _ _ _ _ => inferInstanceAs (Decidable (∀ _ ∈ _, _ → _ → _))
  | .syncRefund _ _ _ _ => inferInstanceAs (Decidable (∀ _ ∈ _, _ → _ → _ → _))
  | .createPurchaseOrder _ | .createAuction _ | .approveAndGoLive _ | .recordBid _ _ _
  | .resolveAuction _ _ | .createWinnerOrder _ | .addToCart _ _ _ | .createCheckoutOrder _
  | .resolveAdminReview _ _ _ | .party _ _ | .forceComplete _ _ | .approvePayout _ _ _
  | .releasePayout _ _ | .otherOrder _ _ | .capture _ => .isTrue trivial

/-- A sale that is cancelled, and the next one. -/
def resaleRun : List Label :=
  buys 1 0 ++ [.resolveAdminReview 0 .cancel 0] ++ buys 2 1

theorem no_double_sale_resaleRun :
    (Fresh oneListing ∧ Run.Meets step Clear oneListing resaleRun) ∧
      NoDoubleSale (Run.exec step oneListing resaleRun) :=
  ⟨⟨⟨rfl, rfl⟩, by decide⟩, no_double_sale ⟨rfl, rfl⟩ (by decide)⟩

/-- Buyer 1 has paid; then somebody reports a failed payment of the listing. -/
def reopenedRun : List Label := buys 1 0 ++ [.handlePaymentFailure 0] ++ buys 2 1

/-- **A reported failure reopens a sold listing.** Buyers 1 and 2 hold a live transaction each,
and the listing points to the second. -/
theorem payment_failure_reopens_sold :
    Fresh oneListing ∧ ¬ NoDoubleSale (Run.exec step oneListing reopenedRun) := by
  refine ⟨⟨rfl, rfl⟩, fun ⟨hone, _⟩ => ?_⟩
  have hsame : (0 : TxId) = 1 :=
    hone 0 1 (.create 0 1 9 100000 0 0) (.create 0 2 9 100000 1 0) (by decide) (by decide)
      (by decide) (by decide) rfl
  exact absurd hsame (by decide)

end Deltapreneur.Marketplace
