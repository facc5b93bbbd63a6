import Deltapreneur.Marketplace.Frame

/-!
# One payment and one transfer for an auction

Whether `AuctionPaymentService` takes more than one payment for an auction, over all attempts of
all users, between any other calls of the marketplace.

`create_winner_order` refuses an auction that has a successful payment, and an order that replaces
a pending one takes over its row. But a failed verification leaves its row behind, a new order then
gets a row of its own, and `verify_winner_payment` of a row that is not successful goes through for
an auction that is `COMPLETED`: it stores a second success and opens a second transfer.

* `Db.paysAgain`: that branch is taken.
* `transfers`: the transactions that verifications of winner payments of an auction add, along a
  run.

Results:

* `one_success_one_transfer`: in every run in which no verification pays again, an auction has one
  successful payment and one transfer at most.
* `failed_order_pays_again`: the winner's first verification fails, the second order is paid, and
  then the first one is verified after all.
-/

namespace Deltapreneur.Marketplace

open EdgePoints Razorpay Transfer

/-! ## Successful payments and transfers -/

/-- Row `i` is a successful payment of the auction. -/
def Db.paid (db : Db) (auction : AuctionId) (i : Nat) : Prop :=
  ∃ p, db.payments[i]? = some p ∧ p.auctionId = auction ∧ p.paymentStatus = .success

def Db.paymentRow (db : Db) (order : OrderId) : Option WinnerPayment :=
  (db.payments.findIdx? fun p => p.razorpayOrderId = order).bind (db.payments[·]?)

/-- The transactions that a call adds for the auction. -/
def transfersMade (db : Db) (auction : AuctionId) : Label → Nat
  | .verifyWinnerPayment r =>
    if (db.paymentRow r.order).any fun p => p.auctionId = auction then
      (verifyWinnerPayment db r).db.txs.length - db.txs.length
    else 0
  | _ => 0

/-- The transactions that a run adds for the auction. -/
def transfers (auction : AuctionId) : Db → List Label → Nat
  | _, [] => 0
  | db, l :: ls => transfersMade db auction l + transfers auction (step db l) ls

/-- The branch of `verify_winner_payment` for an auction that is paid already: a genuine payment
of an order whose row is not successful. -/
def Db.paysAgain (db : Db) : Label → Bool
  | .verifyWinnerPayment r => (db.paymentRow r.order).any fun p =>
    p.userId = r.user && p.paymentStatus ≠ .success &&
      db.gateway.verifyPaymentSignature r.order r.payment r.genuine &&
      (db.auctions[p.auctionId]?).map Auction.status = some .completed
  | _ => false

/-! ## What a call does to them -/

/-- The successful rows are the same, completed auctions stay completed and recorded payments
recorded. -/
structure Quiet (db db' : Db) : Prop where
  success : ∀ (i : Nat) (p : WinnerPayment), p.paymentStatus = .success →
    (db'.payments[i]? = some p ↔ db.payments[i]? = some p)
  completed : KeepsRows Auction.status db.auctions db'.auctions
  recorded : ∀ payment, db.recorded payment → db'.recorded payment

/-- Recorded payments stay, and at most one transaction is added: of the row's payment, which was
not recorded before. -/
structure Records (db db' : Db) (p : WinnerPayment) : Prop where
  kept : ∀ payment, db.recorded payment → db'.recorded payment
  added : db'.txs = db.txs ∨ ∃ payment, p.razorpayPaymentId = some payment ∧
    ¬ db.recorded payment ∧ db'.recorded payment ∧ db'.txs.length = db.txs.length + 1

def WinnerPayment.verified (payment : PaymentId) (p : WinnerPayment) : WinnerPayment :=
  { p with paymentStatus := .success, razorpayPaymentId := some payment }

/-- What a call of `verify_winner_payment` can do. -/
inductive Verifies (db : Db) (r : VerifyWinnerRequest) (db' : Db) : Prop
  /-- Refused. -/
  | refused (quiet : Quiet db db') (txs : db'.txs = db.txs)
  /-- A successful row is verified again: its transfer is made up for. -/
  | again (i : Nat) (p : WinnerPayment) (row : db.paymentRow r.order = some p)
      (get : db.payments[i]? = some p) (success : p.paymentStatus = .success)
      (quiet : Quiet db db') (records : Records db db' p)
  /-- A row becomes successful. -/
  | pays (i : Nat) (p : WinnerPayment) (a : Auction) (row : db.paymentRow r.order = some p)
      (get : db.payments[i]? = some p) (open_ : p.paymentStatus ≠ .success)
      (auction : db.auctions[p.auctionId]? = some a)
      (status : a.status = .paymentPending ∨ db.paysAgain (.verifyWinnerPayment r) = true)
      (payments : db'.payments = db.payments.set i (p.verified r.payment))
      (auctions : db'.auctions = db.auctions.modify p.auctionId
        fun a => { a with status := .completed })
      (records : Records db db' (p.verified r.payment))

variable {db db' : Db} {i : Nat} {p q : WinnerPayment} {a : Auction} {deadline : Time}
  {r : VerifyWinnerRequest}

theorem Quiet.of_aside (h : Aside db db') : Quiet db db' :=
  ⟨fun i p _ => by rw [h.payments], .of_eq h.auctions, h.recorded⟩

theorem Quiet.trans {db'' : Db} (h : Quiet db db') (h' : Quiet db' db'') : Quiet db db'' :=
  ⟨fun i p hs => (h'.success i p hs).trans (h.success i p hs), h.completed.trans h'.completed,
    fun payment hrec => h'.recorded payment (h.recorded payment hrec)⟩

theorem Records.of_eq (h : db'.txs = db.txs) : Records db db' p :=
  ⟨fun payment hrec => by unfold Db.recorded at hrec ⊢; rwa [h], .inl h⟩

theorem ensureDomainTransfer_records (hok : db.ensureDomainTransfer a p deadline = .ok db') :
    Records db db' p := by
  unfold Db.ensureDomainTransfer at hok
  split at hok
  · exact .of_eq (congrArg Db.txs (Except.ok.inj hok).symm)
  next payment hpay =>
  split at hok
  · exact .of_eq (congrArg Db.txs (Except.ok.inj hok).symm)
  next hnew =>
  split at hok
  · exact .of_eq (congrArg Db.txs (Except.ok.inj hok).symm)
  split at hok
  · exact .of_eq (congrArg Db.txs (Except.ok.inj hok).symm)
  · have hkept := (aside_createFromPayment hok).recorded
    refine ⟨hkept, ?_⟩
    rcases createFromPayment_cases hok with ⟨-, rfl⟩ | ⟨seller, -, rfl⟩
    · exact .inl rfl
    · refine .inr ⟨payment, hpay, fun h => hnew (recorded_iff.mpr h), ?_, ?_⟩
      · exact ⟨_, List.mem_append_right _ (List.mem_singleton_self _), rfl⟩
      · exact List.length_append

theorem storeVerified_records (hok : db.storeVerified i p a deadline = .ok db') :
    Records db db' p := by
  have hrec := ensureDomainTransfer_records (show ({ db with
    payments := db.payments.set i p }.editAuction p.auctionId fun a =>
      { a with status := .completed }).ensureDomainTransfer a p deadline = .ok db' from hok)
  exact ⟨hrec.kept, hrec.added⟩

theorem storeVerified_quiet (hget : db.payments[i]? = some p)
    (hok : db.storeVerified i p a deadline = .ok db') : Quiet db db' := by
  have hframe := storeVerified_frame hok
  have hpayments : db'.payments = db.payments := by
    rw [hframe]
    obtain ⟨hlt, rfl⟩ := List.getElem?_eq_some_iff.mp hget
    exact List.set_getElem_self hlt
  have hauctions := congrArg Db.auctions hframe
  exact ⟨fun j q _ => by rw [hpayments], .modify hauctions fun _ _ _ => rfl,
    (storeVerified_records hok).kept⟩

theorem Quiet.of_rows (ha : db'.auctions = db.auctions) (ht : db'.txs = db.txs)
    (h : ∀ j : Nat, db'.payments[j]? = db.payments[j]? ∨
      ((∀ q ∈ db.payments[j]?, q.paymentStatus ≠ .success) ∧
        ∀ q ∈ db'.payments[j]?, q.paymentStatus ≠ .success)) : Quiet db db' := by
  refine ⟨fun j s hs => ?_, .of_eq ha, fun payment hrec => ?_⟩
  · rcases h j with heq | ⟨hold, hnew⟩
    · rw [heq]
    · exact ⟨fun hj => absurd hs (hnew s hj), fun hj => absurd hs (hold s hj)⟩
  · unfold Db.recorded at hrec ⊢
    rwa [ht]

theorem quiet_setOpen {wallets : Wallets} (hget : db.payments[i]? = some p)
    (hopen : p.paymentStatus ≠ .success) (hq : q.paymentStatus ≠ .success) :
    Quiet db { db with wallets := wallets, payments := db.payments.set i q } := by
  refine .of_rows rfl rfl fun j => ?_
  by_cases hij : i = j
  · subst hij
    have hlt : i < db.payments.length := (List.getElem?_eq_some_iff.mp hget).1
    refine .inr ⟨fun s hs => ?_, fun s hs => ?_⟩
    · rw [hget] at hs
      exact Option.some.inj hs ▸ hopen
    · rw [List.getElem?_set_self hlt] at hs
      exact Option.some.inj hs ▸ hq
  · exact .inl (List.getElem?_set_ne hij)

theorem Verifies.confirmed {wallets : Wallets} (h : Verifies db r db') :
    Verifies db r { db' with wallets := wallets } := by
  cases h with
  | refused quiet txs => exact .refused ⟨quiet.success, quiet.completed, quiet.recorded⟩ txs
  | again i p row get success quiet records =>
    exact .again i p row get success ⟨quiet.success, quiet.completed, quiet.recorded⟩
      ⟨records.kept, records.added⟩
  | pays i p a row get open_ auction status payments auctions records =>
    exact .pays i p a row get open_ auction status payments auctions
      ⟨records.kept, records.added⟩

/-- **Everything a verification of a winner payment can do.** -/
theorem verifyWinnerPayment_does (db : Db) (r : VerifyWinnerRequest) :
    Verifies db r (verifyWinnerPayment db r).db := by
  have hstay : Verifies db r db := .refused (.of_aside (.refl db)) rfl
  unfold verifyWinnerPayment
  split
  · exact hstay
  next n hn =>
  split
  · exact hstay
  next p hp =>
  have hrow : db.paymentRow r.order = some p := by
    simp only [Db.paymentRow, hn, Option.bind_some, hp]
  split
  · exact hstay
  next huser =>
  split
  · exact hstay
  next a ha =>
  split
  · next hsucc =>
    split
    · exact hstay
    · next db' hok =>
      have hagain : Verifies db r db' :=
        .again n p hrow hp hsucc (storeVerified_quiet hp hok) (storeVerified_records hok)
      exact hagain.confirmed
  next hopen =>
  split
  · exact .refused (quiet_setOpen hp hopen (by simp)) rfl
  next hsig =>
  -- the two branches that store a success differ in the auction's status only
  have hpays : ∀ db' : Db, db.storeVerified n (p.verified r.payment) a r.deadline = .ok db' →
      a.status = .paymentPending ∨ a.status = .completed → Verifies db r db' := by
    intro db' hok hstatus
    have hframe := storeVerified_frame hok
    refine .pays n p a hrow hp hopen ha (hstatus.imp_right fun hdone => ?_)
      (congrArg Db.payments hframe) (congrArg Db.auctions hframe) (storeVerified_records hok)
    have hgen : db.gateway.verifyPaymentSignature r.order r.payment r.genuine = true := by
      simpa using hsig
    simp [Db.paysAgain, hrow, not_not.mp huser, hopen, hgen, ha, hdone]
  dsimp only
  split_ifs with hdone hpend hwin
  · split
    · exact hstay
    · next db' hok => exact hpays db' hok (.inr hdone)
  · exact hstay
  · exact hstay
  · split
    · exact hstay
    · next db' hok => exact (hpays db' hok (.inl (not_not.mp hpend))).confirmed

/-- A new order takes over a pending row or adds one. -/
theorem quiet_storeWinnerPayment {r : WinnerOrderRequest} {order : OrderId} {amount : Paise} :
    Quiet db (db.storeWinnerPayment r order amount) := by
  unfold Db.storeWinnerPayment
  split
  · next n hn =>
    refine .of_rows rfl rfl fun j => ?_
    rw [List.getElem?_modify]
    by_cases hnj : n = j
    · subst hnj
      have hpend := List.find?_some hn
      refine .inr ⟨fun s hs => ?_, fun s hs => ?_⟩
      · simp only [Option.mem_def.mp hs, Option.any_some, Bool.and_eq_true, decide_eq_true_eq]
          at hpend
        rw [hpend.2]
        decide
      · obtain ⟨q, -, rfl⟩ := Option.map_eq_some_iff.mp hs
        simp
    · refine .inl ?_
      simp [hnj]
  · refine .of_rows rfl rfl fun j => ?_
    by_cases hj : j < db.payments.length
    · exact .inl (List.getElem?_append_left hj)
    · refine .inr ⟨fun s hs => ?_, fun s hs => ?_⟩
      · exact absurd (List.getElem?_eq_some_iff.mp hs).1 hj
      · rw [List.getElem?_append_right (Nat.le_of_not_lt hj)] at hs
        obtain rfl := List.mem_singleton.mp (List.mem_of_getElem? hs)
        simp

theorem quiet_createWinnerOrder (r : WinnerOrderRequest) :
    Quiet db (createWinnerOrder db r).db := by
  have hstay : Quiet db db := .of_aside (.refl db)
  unfold createWinnerOrder
  split
  · exact hstay
  split_ifs
  · exact hstay
  · exact hstay
  · exact hstay
  split
  · exact hstay
  split_ifs
  · exact hstay
  unfold Db.issueWinnerOrder
  dsimp only
  split
  · exact hstay
  · have hissued : ∀ (gateway : Gateway Notes) (wallets : Wallets),
        Quiet db { db with gateway := gateway, wallets := wallets } :=
      fun _ _ => .of_aside (.of_eq rfl rfl rfl)
    exact (hissued _ _).trans quiet_storeWinnerPayment

theorem Quiet.of_auctionsOnly (h : AuctionsOnly db db')
    (hk : KeepsRows Auction.status db.auctions db'.auctions) : Quiet db db' := by
  unfold AuctionsOnly at h
  refine ⟨fun i p _ => ?_, hk, fun payment hrec => ?_⟩
  · rw [h]
  · rw [h]
    exact hrec

theorem quiet_step {l : Label} (h : ∀ r, l ≠ .verifyWinnerPayment r) : Quiet db (step db l) := by
  by_cases hof : l.ofAuction = true
  · cases l with
    | createAuction r =>
      exact .of_auctionsOnly (createAuction_frame r) (keepsRows_createAuction db r)
    | approveAndGoLive listing =>
      exact .of_auctionsOnly approveAndGoLive_frame (keepsRows_approveAndGoLive db listing)
    | recordBid auction bidder amount =>
      exact .of_auctionsOnly recordBid_frame (keepsRows_recordBid db auction bidder amount)
    | resolveAuction auction price =>
      exact .of_auctionsOnly resolveAuction_frame (keepsRows_resolveAuction db auction price)
    | createWinnerOrder r => exact quiet_createWinnerOrder r
    | verifyWinnerPayment r => exact absurd rfl (h r)
    | _ => cases hof
  · exact .of_aside (aside_step (by simpa using hof))

/-! ## The invariant -/

/-- An auction with a successful payment is completed and has no other one; an auction with a
transfer has one, of its successful payment. -/
structure PaidOnce (db : Db) (made : AuctionId → Nat) : Prop where
  completed : ∀ auction i, db.paid auction i →
    (db.auctions[auction]?).map Auction.status = some .completed
  unique : ∀ auction i j, db.paid auction i → db.paid auction j → i = j
  transferred : ∀ auction, made auction ≠ 0 → ∃ (i : Nat) (p : WinnerPayment) (payment : PaymentId),
    db.payments[i]? = some p ∧ p.auctionId = auction ∧ p.paymentStatus = .success ∧
    p.razorpayPaymentId = some payment ∧ db.recorded payment
  once : ∀ auction, made auction ≤ 1

variable {made : AuctionId → Nat} {auction : AuctionId}

theorem Quiet.paid_iff (h : Quiet db db') : db'.paid auction i ↔ db.paid auction i := by
  constructor
  · rintro ⟨p, hget, ha, hs⟩
    exact ⟨p, (h.success i p hs).mp hget, ha, hs⟩
  · rintro ⟨p, hget, ha, hs⟩
    exact ⟨p, (h.success i p hs).mpr hget, ha, hs⟩

theorem PaidOnce.quiet (h : PaidOnce db made) (hq : Quiet db db') : PaidOnce db' made := by
  refine ⟨fun auction i hi => ?_, fun auction i j hi hj => ?_, fun auction hm => ?_, h.once⟩
  · exact hq.completed auction (h.completed auction i (hq.paid_iff.mp hi))
  · exact h.unique auction i j (hq.paid_iff.mp hi) (hq.paid_iff.mp hj)
  · obtain ⟨i, p, payment, hget, ha, hs, hp, hrec⟩ := h.transferred auction hm
    exact ⟨i, p, payment, (hq.success i p hs).mpr hget, ha, hs, hp, hq.recorded payment hrec⟩

/-- The transactions added for the auction of a successful row: none but the one of its payment,
and only when there was none. -/
theorem PaidOnce.transfer (h : PaidOnce db' made) (hget : db'.payments[i]? = some p)
    (hs : p.paymentStatus = .success) (hrec : Records db db' p)
    (hmade : made p.auctionId ≠ 0 → ∀ payment, p.razorpayPaymentId = some payment →
      db.recorded payment) :
    PaidOnce db' fun auction =>
      made auction + if p.auctionId = auction then db'.txs.length - db.txs.length else 0 := by
  rcases hrec.added with hsame | ⟨payment, hpay, hnew, hnow, hlen⟩
  · simpa only [hsame, Nat.sub_self, ite_self, Nat.add_zero] using h
  have hzero : made p.auctionId = 0 := by
    by_contra hne
    exact hnew (hmade hne payment hpay)
  refine ⟨h.completed, h.unique, fun auction hm => ?_, fun auction => ?_⟩
  · by_cases ha : p.auctionId = auction
    · exact ⟨i, p, payment, hget, ha, hs, hpay, hnow⟩
    · rw [if_neg ha] at hm
      exact h.transferred auction hm
  · by_cases ha : p.auctionId = auction
    · subst ha
      rw [if_pos rfl, hzero, hlen]
      omega
    · rw [if_neg ha]
      exact h.once auction

/-- A row of an auction without a successful payment becomes successful. -/
theorem PaidOnce.pay (h : PaidOnce db made) (hget : db.payments[i]? = some p)
    (hsame : q.auctionId = p.auctionId) (ha : db.auctions[p.auctionId]? = some a)
    (hnone : ∀ j, ¬ db.paid p.auctionId j) (hpayments : db'.payments = db.payments.set i q)
    (hauctions : db'.auctions = db.auctions.modify p.auctionId
      fun a => { a with status := .completed })
    (hkept : ∀ payment, db.recorded payment → db'.recorded payment) : PaidOnce db' made := by
  have hlt : i < db.payments.length := (List.getElem?_eq_some_iff.mp hget).1
  have hkeeps : KeepsRows Auction.status db.auctions db'.auctions :=
    .modify hauctions fun _ _ _ => rfl
  -- every other successful row was one before
  have hother : ∀ auction j, db'.paid auction j →
      (j = i ∧ auction = p.auctionId) ∨ (j ≠ i ∧ db.paid auction j) := by
    rintro auction j ⟨s, hj, hauct, hs⟩
    rw [hpayments] at hj
    by_cases hij : i = j
    · subst hij
      rw [List.getElem?_set_self hlt] at hj
      exact .inl ⟨rfl, by rw [← hauct, ← Option.some.inj hj, hsame]⟩
    · rw [List.getElem?_set_ne hij] at hj
      exact .inr ⟨fun heq => hij heq.symm, s, hj, hauct, hs⟩
  refine ⟨fun auction j hj => ?_, fun auction j k hj hk => ?_, fun auction hm => ?_, h.once⟩
  · rcases hother auction j hj with ⟨-, rfl⟩ | ⟨-, hold⟩
    · rw [hauctions, List.getElem?_modify_eq, ha]
      rfl
    · exact hkeeps auction (h.completed auction j hold)
  · rcases hother auction j hj with ⟨rfl, rfl⟩ | ⟨-, hold⟩
    · rcases hother _ k hk with ⟨rfl, -⟩ | ⟨-, hold'⟩
      · rfl
      · exact absurd hold' (hnone k)
    · rcases hother auction k hk with ⟨rfl, rfl⟩ | ⟨-, hold'⟩
      · exact absurd hold (hnone j)
      · exact h.unique auction j k hold hold'
  · obtain ⟨j, s, payment, hj, hauct, hs, hpay, hrec⟩ := h.transferred auction hm
    have hij : i ≠ j := by
      rintro rfl
      cases hget.symm.trans hj
      exact hnone i ⟨p, hget, rfl, hs⟩
    refine ⟨j, s, payment, ?_, hauct, hs, hpay, hkept payment hrec⟩
    rw [hpayments, List.getElem?_set_ne hij, hj]

/-! ## Runs -/

theorem transfersMade_of_row (h : db.paymentRow r.order = some p) :
    transfersMade db auction (.verifyWinnerPayment r) = if p.auctionId = auction then
      (verifyWinnerPayment db r).db.txs.length - db.txs.length else 0 := by
  simp only [transfersMade, h, Option.any_some, decide_eq_true_eq]

/-- **The step lemma.** A call that does not pay again keeps the invariant. -/
theorem paidOnce_step {l : Label} (h : PaidOnce db made) (hok : db.paysAgain l = false) :
    PaidOnce (step db l) fun auction => made auction + transfersMade db auction l := by
  by_cases hl : ∀ r, l ≠ .verifyWinnerPayment r
  · have hnone : ∀ auction, transfersMade db auction l = 0 := by
      intro auction
      cases l with
      | verifyWinnerPayment r => exact absurd rfl (hl r)
      | _ => rfl
    simpa only [hnone, Nat.add_zero] using h.quiet (quiet_step hl)
  · obtain ⟨r, rfl⟩ := not_forall_not.mp hl
    have hdoes := verifyWinnerPayment_does db r
    cases hdoes with
    | refused quiet txs =>
      have hnone : ∀ auction, transfersMade db auction (.verifyWinnerPayment r) = 0 := by
        intro auction
        simp [transfersMade, txs]
      have hquiet : PaidOnce (step db (.verifyWinnerPayment r)) made := h.quiet quiet
      simpa only [hnone, Nat.add_zero] using hquiet
    | again i p row get success quiet records =>
      simp only [transfersMade_of_row row]
      refine (h.quiet quiet).transfer ((quiet.success i p success).mpr get) success records ?_
      intro hm payment hpay
      obtain ⟨j, q, payment', hq, hauct, hs, hpay', hrec⟩ := h.transferred p.auctionId hm
      obtain rfl := h.unique p.auctionId i j ⟨p, get, rfl, success⟩ ⟨q, hq, hauct, hs⟩
      cases get.symm.trans hq
      exact Option.some.inj (hpay'.symm.trans hpay) ▸ hrec
    | pays i p a row get open_ auction status payments auctions records =>
      simp only [transfersMade_of_row row]
      have hpending : a.status = .paymentPending :=
        status.resolve_right fun hagain => by rw [hok] at hagain; cases hagain
      have hnone : ∀ j, ¬ db.paid p.auctionId j := by
        intro j hj
        have hdone := h.completed p.auctionId j hj
        rw [auction, Option.map_some, hpending] at hdone
        cases hdone
      have hpaid := h.pay get (q := p.verified r.payment) rfl auction hnone payments auctions
        records.kept
      have hlt : i < db.payments.length := (List.getElem?_eq_some_iff.mp get).1
      have hnow : (step db (.verifyWinnerPayment r)).payments[i]? = some (p.verified r.payment) := by
        show (verifyWinnerPayment db r).db.payments[i]? = _
        rw [payments, List.getElem?_set_self hlt]
      refine hpaid.transfer (p := p.verified r.payment) hnow rfl records ?_
      intro hm payment _
      obtain ⟨j, q, -, hq, hauct, hs, -⟩ := h.transferred p.auctionId hm
      exact absurd ⟨q, hq, hauct, hs⟩ (hnone j)

theorem paidOnce_exec : ∀ {ls : List Label} {db : Db} {made : AuctionId → Nat},
    PaidOnce db made → Run.Meets step (fun db l => db.paysAgain l = false) db ls →
      PaidOnce (Run.exec step db ls) fun auction => made auction + transfers auction db ls
  | [], _, _, h, _ => h
  | l :: ls, db, made, h, hls => by
    obtain ⟨hl, hls⟩ := hls
    have hrest := paidOnce_exec (paidOnce_step h hl) hls
    simpa only [transfers, Nat.add_assoc, Run.exec_cons] using hrest

theorem paid_step (l : Label) (h : db.paid auction i) : (step db l).paid auction i := by
  by_cases hl : ∀ r, l ≠ .verifyWinnerPayment r
  · exact (quiet_step hl).paid_iff.mpr h
  · obtain ⟨r, rfl⟩ := not_forall_not.mp hl
    have hdoes := verifyWinnerPayment_does db r
    cases hdoes with
    | refused quiet txs => exact quiet.paid_iff.mpr h
    | again j p row get success quiet records => exact quiet.paid_iff.mpr h
    | pays j p a row get open_ auction status payments auctions records =>
      obtain ⟨q, hq, hauct, hs⟩ := h
      have hij : j ≠ i := by
        rintro rfl
        exact open_ (Option.some.inj (get.symm.trans hq) ▸ hs)
      refine ⟨q, ?_, hauct, hs⟩
      show (verifyWinnerPayment db r).db.payments[i]? = some q
      rw [payments, List.getElem?_set_ne hij, hq]

theorem paid_exec (ls : List Label) (h : db.paid auction i) :
    (Run.exec step db ls).paid auction i :=
  Run.exec_preserves (P := fun db : Db => db.paid auction i) (fun _ l h => paid_step l h) ls h

/-- Row `i` is a successful payment of the auction at some time in the run. -/
def EverPaid (db : Db) (ls : List Label) (auction : AuctionId) (i : Nat) : Prop :=
  ∃ pre post, ls = pre ++ post ∧ (Run.exec step db pre).paid auction i

theorem EverPaid.now {ls : List Label} (h : EverPaid db ls auction i) :
    (Run.exec step db ls).paid auction i := by
  obtain ⟨pre, post, rfl, hpaid⟩ := h
  rw [Run.exec_append]
  exact paid_exec post hpaid

/-- **One payment, one transfer.** From a database without winner payments, in every run in which
no verification pays an auction again, at most one payment row of an auction is ever successful
and at most one transaction is created for it. -/
theorem one_success_one_transfer {db : Db} (hnew : db.payments = []) {ls : List Label}
    (hls : Run.Meets step (fun db l => db.paysAgain l = false) db ls) (auction : AuctionId) :
    (∀ i j, EverPaid db ls auction i → EverPaid db ls auction j → i = j) ∧
      transfers auction db ls ≤ 1 := by
  have hinit : PaidOnce db fun _ => 0 := by
    have hnone : ∀ auction i, ¬ db.paid auction i := by
      rintro auction i ⟨p, hget, -⟩
      rw [hnew] at hget
      exact absurd hget (by simp)
    exact ⟨fun a i hi => absurd hi (hnone a i), fun a i j hi => absurd hi (hnone a i),
      fun _ hm => absurd rfl hm, fun _ => Nat.zero_le 1⟩
  have hend := paidOnce_exec hinit hls
  refine ⟨fun i j hi hj => hend.unique auction i j hi.now hj.now, ?_⟩
  simpa using hend.once auction

/-- User 1 wins the auction of listing 0 with 500 rupees. -/
def auctionWon : List Label :=
  [.createAuction ⟨0, 9, false, 1000, true, true⟩, .approveAndGoLive 0, .recordBid 0 1 50000,
    .resolveAuction 0 0]

/-- The winner orders, pays the first order and presents a bad signature. -/
def failedAttempt : List Label :=
  [.createWinnerOrder ⟨0, 1, false, true⟩, .capture 0, .verifyWinnerPayment ⟨1, 0, 0, false, 0⟩]

/-- The winner orders again and pays that order. -/
def secondAttempt : List Label :=
  [.createWinnerOrder ⟨0, 1, false, true⟩, .capture 1, .verifyWinnerPayment ⟨1, 1, 1, true, 0⟩]

theorem one_success_one_transfer_retried :
    oneListing.payments = [] ∧
      (∀ i j, EverPaid oneListing (auctionWon ++ failedAttempt ++ secondAttempt) 0 i →
        EverPaid oneListing (auctionWon ++ failedAttempt ++ secondAttempt) 0 j → i = j) ∧
      transfers 0 oneListing (auctionWon ++ failedAttempt ++ secondAttempt) ≤ 1 :=
  ⟨rfl, one_success_one_transfer rfl (by decide) 0⟩

/-- The first order is verified after all, with the signature Razorpay gave for it. -/
def firstAfterAll : List Label := [.verifyWinnerPayment ⟨1, 0, 0, true, 0⟩]

/-- Two orders of one auction are paid: two rows are successful and two transfers are open. -/
theorem failed_order_pays_again :
    let run := auctionWon ++ failedAttempt ++ secondAttempt ++ firstAfterAll
    (Run.exec step oneListing run).payments.map (fun p => (p.auctionId, p.paymentStatus)) =
        [(0, .success), (0, .success)] ∧
      transfers 0 oneListing run = 2 := by
  decide

end Deltapreneur.Marketplace
