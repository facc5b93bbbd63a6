import Deltapreneur.Marketplace.Binding
import Deltapreneur.Marketplace.WinnerOnce

/-!
# Orders of a winner that a later order replaces

Whether an order that `create_winner_order` returned can still be verified once the winner has
asked for more orders, between any other calls of the marketplace.

A new order takes over the row of the winner's newest pending payment, order id included, and the
order that was there is forgotten: `verify_winner_payment` answers `Payment record not found.`
when the winner pays it. Only a payment whose verification has failed keeps its row.

* `Db.replaces`: a call takes over the row of an order.
* `Db.accepts`: the winner pays the order now, and the verification goes through.

Results:

* `accepted_iff`: an order of the winner of an auction that awaits payment is accepted exactly if
  no later call has replaced it.
* `second_order_strands_first`: the winner asks twice and pays the first order.
-/

namespace Deltapreneur.Marketplace

open EdgePoints Razorpay Transfer

variable {db db' : Db} {order : OrderId} {auction : AuctionId} {user : UserId} {p q : WinnerPayment}
  {a : Auction} {i : Nat} {l : Label} {r : WinnerOrderRequest}

/-! ## Orders of winners -/

/-- The order of the winner's newest pending payment. -/
def Db.openOrder (db : Db) (auction : AuctionId) (user : UserId) : Option OrderId :=
  ((db.openPayment auction user).bind fun i => db.payments[i]?).map WinnerPayment.razorpayOrderId

/-- `create_winner_order` returns this order. -/
def Db.returnsOrder (db : Db) (r : WinnerOrderRequest) (order : OrderId) : Prop :=
  (createWinnerOrder db r).result = .ok () ∧ order = db.gateway.nextId

/-- `create_winner_order` goes through and takes over the row of this order. -/
def Db.replaces (db : Db) (r : WinnerOrderRequest) (order : OrderId) : Prop :=
  (createWinnerOrder db r).result = .ok () ∧ db.openOrder r.auction r.user = some order

/-- Some call of the run replaces the order. -/
def Replaced (db : Db) (ls : List Label) (order : OrderId) : Prop :=
  ∃ pre r post, ls = pre ++ .createWinnerOrder r :: post ∧
    (Run.exec step db pre).replaces r order

/-- The auction waits for the payment of this user, and its listing has a seller. -/
def Db.awaits (db : Db) (auction : AuctionId) (user : UserId) : Prop :=
  ∃ a, db.auctions[auction]? = some a ∧ a.status = .paymentPending ∧
    a.currentWinnerId = some user ∧ ∀ l ∈ db.listings a.domainId, l.listedByUserId ≠ none

/-- The user pays the order now and presents the signature: `verify_winner_payment` accepts it. -/
def Db.accepts (db : Db) (order : OrderId) (user : UserId) : Prop :=
  ∀ deadline, (verifyWinnerPayment (step db (.capture order))
    ⟨user, order, db.gateway.freshPayment, true, deadline⟩).result = .ok ()

/-! ## Keys of the payment rows -/

/-- What a verification does not write. -/
def WinnerPayment.key (p : WinnerPayment) : OrderId × AuctionId × UserId :=
  (p.razorpayOrderId, p.auctionId, p.userId)

def Db.orderIds (db : Db) : List OrderId := db.payments.map WinnerPayment.razorpayOrderId

/-- The keys stay, and no order id is given out again. -/
structure SameKeys (db db' : Db) : Prop where
  keys : db'.payments.map WinnerPayment.key = db.payments.map WinnerPayment.key
  nextId : db.gateway.nextId ≤ db'.gateway.nextId

theorem SameKeys.orderIds (h : SameKeys db db') : db'.orderIds = db.orderIds := by
  have hfst := congrArg (List.map Prod.fst) h.keys
  simpa [Db.orderIds, List.map_map, Function.comp_def, WinnerPayment.key] using hfst

theorem map_key_set {ps : List WinnerPayment} (hget : ps[i]? = some p) (hkey : q.key = p.key) :
    (ps.set i q).map WinnerPayment.key = ps.map WinnerPayment.key := by
  obtain ⟨hlt, rfl⟩ := List.getElem?_eq_some_iff.mp hget
  rw [List.map_set, hkey, ← List.getElem_map WinnerPayment.key]
  · exact List.set_getElem_self (by simpa using hlt)

theorem nextId_step (db : Db) (l : Label) : db.gateway.nextId ≤ (step db l).gateway.nextId := by
  rcases @orders_step db l with hsame | ⟨amount, notes, -, hcons⟩
  · simp [Gateway.nextId, hsame]
  · simp [Gateway.nextId, hcons]

theorem storeVerified_keys {deadline : Time} (hget : db.payments[i]? = some p)
    (hkey : q.key = p.key) (hok : db.storeVerified i q a deadline = .ok db') :
    db'.payments.map WinnerPayment.key = db.payments.map WinnerPayment.key :=
  (congrArg (fun db : Db => db.payments.map WinnerPayment.key) (storeVerified_frame hok)).trans
    (map_key_set hget hkey)

theorem verifyWinnerPayment_keys (r : VerifyWinnerRequest) :
    (verifyWinnerPayment db r).db.payments.map WinnerPayment.key =
      db.payments.map WinnerPayment.key := by
  unfold verifyWinnerPayment
  split
  · rfl
  next n hn =>
  split
  · rfl
  next p hp =>
  split
  · rfl
  split
  · rfl
  next a ha =>
  split
  · split
    · rfl
    · next db' hok =>
      have hkeys := storeVerified_keys hp rfl hok
      exact hkeys
  split
  · exact map_key_set hp rfl
  dsimp only
  split_ifs
  · split
    · rfl
    · next db' hok =>
      have hkeys := storeVerified_keys
        (q := { p with paymentStatus := .success, razorpayPaymentId := some r.payment }) hp rfl hok
      exact hkeys
  · rfl
  · rfl
  · split
    · rfl
    · next db' hok =>
      have hkeys := storeVerified_keys
        (q := { p with paymentStatus := .success, razorpayPaymentId := some r.payment }) hp rfl hok
      exact hkeys

/-- Every call but `create_winner_order` leaves the keys alone. -/
theorem keys_step (h : ∀ r, l ≠ .createWinnerOrder r) : SameKeys db (step db l) := by
  refine ⟨?_, nextId_step db l⟩
  by_cases hof : l.ofAuction = true
  · cases l with
    | createAuction r => exact congrArg _ (createAuction_frame r).payments
    | approveAndGoLive listing => exact congrArg _ approveAndGoLive_frame.payments
    | recordBid auction bidder amount => exact congrArg _ recordBid_frame.payments
    | resolveAuction auction price => exact congrArg _ resolveAuction_frame.payments
    | createWinnerOrder r => exact absurd rfl (h r)
    | verifyWinnerPayment r => exact verifyWinnerPayment_keys r
    | _ => cases hof
  · have haside : Aside db (step db l) := aside_step (by simpa using hof)
    rw [haside.payments]

/-- **What `create_winner_order` does**: nothing, or it stores a payment of the next order. -/
theorem createWinnerOrder_does (db : Db) (r : WinnerOrderRequest) :
    ((createWinnerOrder db r).result ≠ .ok () ∧ (createWinnerOrder db r).db = db) ∨
      (createWinnerOrder db r).result = .ok () ∧ ∃ amount charge,
        (createWinnerOrder db r).db.payments =
          (db.storeWinnerPayment r db.gateway.nextId amount).payments ∧
        (createWinnerOrder db r).db.gateway.orders =
          ⟨db.gateway.nextId, charge, .auctionWinner r.auction r.user⟩ :: db.gateway.orders := by
  have hraise : ∀ m n, (db.fail m n).result ≠ .ok () := fun m n => by simp [Db.fail, raise]
  unfold createWinnerOrder
  split
  · exact .inl ⟨hraise _ _, rfl⟩
  split_ifs
  · exact .inl ⟨hraise _ _, rfl⟩
  · exact .inl ⟨hraise _ _, rfl⟩
  · exact .inl ⟨hraise _ _, rfl⟩
  split
  · exact .inl ⟨hraise _ _, rfl⟩
  next amount _ =>
  split_ifs
  · exact .inl ⟨hraise _ _, rfl⟩
  unfold Db.issueWinnerOrder
  dsimp only
  split
  · exact .inl ⟨hraise _ _, rfl⟩
  · next order gateway hissued =>
    split_ifs at hissued
    obtain ⟨rfl, horders⟩ := Gateway.createOrder_eq_some hissued
    refine .inr ⟨rfl, amount, (calculateRedemption (db.wallets.edgePoints r.user)
      (db.wallets.pending r.user) amount r.redeemPoints).1, ?_, ?_⟩
    · unfold Db.storeWinnerPayment Db.openPayment
      dsimp only
      split <;> rfl
    · rw [done_db, untouched_storeWinnerPayment.gateway]
      exact horders

/-! ## The rows of the orders -/

/-- Order ids are unique among the payment rows and were given out. -/
structure PaymentOrdersOk (db : Db) : Prop where
  nodup : db.orderIds.Nodup
  issued : ∀ order ∈ db.orderIds, order < db.gateway.nextId

theorem PaymentOrdersOk.same (h : PaymentOrdersOk db) (hs : SameKeys db db') : PaymentOrdersOk db' :=
  ⟨hs.orderIds.symm ▸ h.nodup, fun order ho =>
    (h.issued order (hs.orderIds ▸ ho)).trans_le hs.nextId⟩

theorem openPayment_spec {n : Nat} (h : db.openPayment auction user = some n) :
    ∃ p, db.payments[n]? = some p ∧ p.auctionId = auction ∧ p.userId = user ∧
      p.paymentStatus = .pending := by
  have hopen := List.find?_some h
  cases hget : db.payments[n]? with
  | none => simp [hget] at hopen
  | some p =>
    simp only [hget, Option.any_some, Bool.and_eq_true, decide_eq_true_eq] at hopen
    exact ⟨p, rfl, hopen.1.1, hopen.1.2, hopen.2⟩

def WinnerOrderRequest.payment (r : WinnerOrderRequest) (order : OrderId) (amount : Paise) :
    WinnerPayment := ⟨r.auction, r.user, order, amount, .pending, none⟩

/-- **The rows after a new order**: the open one is taken over, or there is one more. -/
theorem storeWinnerPayment_payments (db : Db) (r : WinnerOrderRequest) (order : OrderId)
    (amount : Paise) :
    (∃ before p after, db.payments = before ++ p :: after ∧
      db.openOrder r.auction r.user = some p.razorpayOrderId ∧
      (db.storeWinnerPayment r order amount).payments =
        before ++ r.payment order amount :: after) ∨
    db.openOrder r.auction r.user = none ∧
      (db.storeWinnerPayment r order amount).payments = db.payments ++ [r.payment order amount] := by
  unfold Db.storeWinnerPayment Db.openOrder
  cases hopen : db.openPayment r.auction r.user with
  | none => exact .inr ⟨rfl, rfl⟩
  | some n =>
    obtain ⟨p, hget, hauction, huser, -⟩ := openPayment_spec hopen
    obtain ⟨hlt, -⟩ := List.getElem?_eq_some_iff.mp hget
    obtain ⟨before, q, after, hps, hn, hmodify⟩ := List.exists_of_modify (fun p : WinnerPayment =>
      { p with
        razorpayOrderId := order
        amount := amount
        paymentStatus := .pending
        razorpayPaymentId := none }) hlt
    obtain rfl : q = p := by
      rw [hps, ← hn, List.getElem?_append_right le_rfl, Nat.sub_self] at hget
      exact Option.some.inj hget
    refine .inl ⟨before, q, after, hps, by simp [hget], ?_⟩
    rw [WinnerOrderRequest.payment, ← hauction, ← huser]
    exact hmodify

/-- An order's row, and whose it is. -/
def Db.holds (db : Db) (order : OrderId) (auction : AuctionId) (user : UserId) : Prop :=
  (order, auction, user) ∈ db.payments.map WinnerPayment.key

theorem holds_iff : db.holds order auction user ↔
    ∃ p ∈ db.payments, p.razorpayOrderId = order ∧ p.auctionId = auction ∧ p.userId = user := by
  simp [Db.holds, WinnerPayment.key]

/-- The rows after any call, for an order that was given out before. -/
theorem paymentOrdersOk_step (h : PaymentOrdersOk db) (l : Label) : PaymentOrdersOk (step db l) := by
  by_cases hl : ∀ r, l ≠ .createWinnerOrder r
  · exact h.same (keys_step hl)
  obtain ⟨r, rfl⟩ := not_forall_not.mp hl
  rcases createWinnerOrder_does db r with ⟨-, hsame⟩ | ⟨-, amount, charge, hrows, horders⟩
  · rwa [show step db (.createWinnerOrder r) = db from hsame]
  have hnext : (step db (.createWinnerOrder r)).gateway.nextId = db.gateway.nextId + 1 :=
    congrArg List.length horders
  have hnew : db.gateway.nextId ∉ db.orderIds := fun hmem => lt_irrefl _ (h.issued _ hmem)
  have hids : (step db (.createWinnerOrder r)).orderIds =
      (db.storeWinnerPayment r db.gateway.nextId amount).orderIds :=
    congrArg (List.map WinnerPayment.razorpayOrderId) hrows
  have hsound : (step db (.createWinnerOrder r)).orderIds.Nodup ∧
      ∀ order ∈ (step db (.createWinnerOrder r)).orderIds,
        order = db.gateway.nextId ∨ order ∈ db.orderIds := by
    rw [hids]
    have hnodup := h.nodup
    unfold Db.orderIds at hnew hnodup ⊢
    rcases storeWinnerPayment_payments db r db.gateway.nextId amount with
      ⟨before, p, after, hps, -, hps'⟩ | ⟨-, hps'⟩
    · rw [hps, List.map_append, List.map_cons] at hnew hnodup
      rw [hps', hps, List.map_append, List.map_cons, List.map_append, List.map_cons]
      rw [List.nodup_middle, List.nodup_cons] at hnodup
      rw [List.nodup_middle, List.nodup_cons]
      refine ⟨⟨fun hmem => hnew ?_, hnodup.2⟩, fun order ho => ?_⟩
      · rcases List.mem_append.mp hmem with hmem | hmem
        · exact List.mem_append_left _ hmem
        · exact List.mem_append_right _ (List.mem_cons_of_mem _ hmem)
      · rcases List.mem_append.mp ho with ho | ho
        · exact .inr (List.mem_append_left _ ho)
        · rcases List.mem_cons.mp ho with rfl | ho
          · exact .inl rfl
          · exact .inr (List.mem_append_right _ (List.mem_cons_of_mem _ ho))
    · rw [hps', List.map_append, List.map_singleton]
      refine ⟨List.nodup_append.mpr ⟨hnodup, List.nodup_singleton _, ?_⟩, fun order ho => ?_⟩
      · rintro x hx y hy rfl
        rw [List.mem_singleton.mp hy] at hx
        exact hnew hx
      · exact (List.mem_append.mp ho).symm.imp List.mem_singleton.mp id
  refine ⟨hsound.1, fun order ho => ?_⟩
  rw [hnext]
  rcases hsound.2 order ho with rfl | ho
  · exact Nat.lt_succ_self _
  · exact (h.issued order ho).trans (Nat.lt_succ_self _)

theorem holds_step (h : db.holds order auction user)
    (hkeep : ∀ r, l = .createWinnerOrder r → ¬ db.replaces r order) :
    (step db l).holds order auction user := by
  by_cases hl : ∀ r, l ≠ .createWinnerOrder r
  · unfold Db.holds
    rwa [(keys_step hl).keys]
  obtain ⟨r, rfl⟩ := not_forall_not.mp hl
  rcases createWinnerOrder_does db r with ⟨-, hsame⟩ | ⟨hok, amount, charge, hrows, -⟩
  · rwa [show step db (.createWinnerOrder r) = db from hsame]
  obtain ⟨p, hp, rfl, rfl, rfl⟩ := holds_iff.mp h
  refine holds_iff.mpr ⟨p, ?_, rfl, rfl, rfl⟩
  show p ∈ (createWinnerOrder db r).db.payments
  rw [hrows]
  rcases storeWinnerPayment_payments db r db.gateway.nextId amount with
    ⟨before, q, after, hps, hopen, hps'⟩ | ⟨-, hps'⟩
  · have hne : p ≠ q := by
      rintro rfl
      exact hkeep r rfl ⟨hok, hopen⟩
    rw [hps] at hp
    rw [hps']
    rcases List.mem_append.mp hp with hp | hp
    · exact List.mem_append_left _ hp
    · exact List.mem_append_right _ (List.mem_cons_of_mem _ ((List.mem_cons.mp hp).resolve_left hne))
  · rw [hps']
    exact List.mem_append_left _ hp

/-- An order without a row gets none. -/
theorem lost_step (h : order ∉ db.orderIds) (hissued : order < db.gateway.nextId) :
    order ∉ (step db l).orderIds := by
  by_cases hl : ∀ r, l ≠ .createWinnerOrder r
  · rwa [(keys_step hl).orderIds]
  obtain ⟨r, rfl⟩ := not_forall_not.mp hl
  rcases createWinnerOrder_does db r with ⟨-, hsame⟩ | ⟨-, amount, charge, hrows, -⟩
  · rwa [show step db (.createWinnerOrder r) = db from hsame]
  intro hmem
  obtain ⟨p, hp, hid⟩ := List.mem_map.mp hmem
  have hp : p ∈ (createWinnerOrder db r).db.payments := hp
  rw [hrows] at hp
  have hold : p ∈ db.payments ∨ p = r.payment db.gateway.nextId amount := by
    rcases storeWinnerPayment_payments db r db.gateway.nextId amount with
      ⟨before, q, after, hps, -, hps'⟩ | ⟨-, hps'⟩
    · rw [hps'] at hp
      rw [hps]
      rcases List.mem_append.mp hp with hp | hp
      · exact .inl (List.mem_append_left _ hp)
      · exact (List.mem_cons.mp hp).symm.imp
          (fun hp => List.mem_append_right _ (List.mem_cons_of_mem _ hp)) id
    · rw [hps'] at hp
      exact (List.mem_append.mp hp).imp id List.mem_singleton.mp
  rcases hold with hold | rfl
  · exact h (hid ▸ List.mem_map_of_mem hold)
  · exact absurd (hid ▸ hissued) (lt_irrefl _)

/-- A replaced order loses its row. -/
theorem lost_of_replaces (h : PaymentOrdersOk db) (hr : db.replaces r order) :
    order ∉ (step db (.createWinnerOrder r)).orderIds := by
  obtain ⟨hok, hopen⟩ := hr
  rcases createWinnerOrder_does db r with ⟨hfail, -⟩ | ⟨-, amount, charge, hrows, -⟩
  · exact absurd hok hfail
  have hids : (step db (.createWinnerOrder r)).orderIds =
      (db.storeWinnerPayment r db.gateway.nextId amount).orderIds :=
    congrArg (List.map WinnerPayment.razorpayOrderId) hrows
  rw [hids]
  have hnodup := h.nodup
  have hissued := h.issued
  unfold Db.orderIds at hnodup hissued ⊢
  rcases storeWinnerPayment_payments db r db.gateway.nextId amount with
    ⟨before, q, after, hps, hq, hps'⟩ | ⟨hnone, -⟩
  · obtain rfl : q.razorpayOrderId = order := Option.some.inj (hq.symm.trans hopen)
    rw [hps, List.map_append, List.map_cons] at hnodup hissued
    rw [hps', List.map_append, List.map_cons]
    rw [List.nodup_middle, List.nodup_cons] at hnodup
    intro hmem
    rcases List.mem_append.mp hmem with hmem | hmem
    · exact hnodup.1 (List.mem_append_left _ hmem)
    · rcases List.mem_cons.mp hmem with hnew | hmem
      · have hlt := hissued q.razorpayOrderId (by simp)
        rw [show q.razorpayOrderId = db.gateway.nextId from hnew] at hlt
        exact lt_irrefl _ hlt
      · exact hnodup.1 (List.mem_append_right _ hmem)
  · rw [hopen] at hnone
    cases hnone

/-! ## Runs -/

theorem replaced_cons {ls : List Label} : Replaced db (l :: ls) order ↔
    (∃ r, l = .createWinnerOrder r ∧ db.replaces r order) ∨ Replaced (step db l) ls order := by
  constructor
  · rintro ⟨pre, r, post, heq, hr⟩
    cases pre with
    | nil =>
      obtain ⟨rfl, -⟩ := List.cons.inj heq
      exact .inl ⟨r, rfl, hr⟩
    | cons l' pre =>
      obtain ⟨rfl, rfl⟩ := List.cons.inj heq
      exact .inr ⟨pre, r, post, rfl, hr⟩
  · rintro (⟨r, rfl, hr⟩ | ⟨pre, r, post, rfl, hr⟩)
    · exact ⟨[], r, ls, rfl, hr⟩
    · exact ⟨l :: pre, r, post, rfl, hr⟩

theorem lost_exec : ∀ {ls : List Label} {db : Db}, order ∉ db.orderIds →
    order < db.gateway.nextId → order ∉ (Run.exec step db ls).orderIds
  | [], _, h, _ => h
  | l :: ls, db, h, hissued => by
    rw [Run.exec_cons]
    exact lost_exec (lost_step h hissued) (hissued.trans_le (nextId_step db l))

/-- **An order keeps its row exactly if no call replaces it.** -/
theorem holds_exec : ∀ (ls : List Label) {db : Db}, PaymentOrdersOk db →
    db.holds order auction user →
    (¬ Replaced db ls order → (Run.exec step db ls).holds order auction user) ∧
      (Replaced db ls order → order ∉ (Run.exec step db ls).orderIds)
  | [], db, _, h => by
    refine ⟨fun _ => h, fun hr => ?_⟩
    obtain ⟨pre, r, post, heq, -⟩ := hr
    exact absurd heq (by simp)
  | l :: ls, db, hok, h => by
    rw [replaced_cons, Run.exec_cons]
    by_cases hl : ∃ r, l = .createWinnerOrder r ∧ db.replaces r order
    · obtain ⟨r, rfl, hr⟩ := hl
      refine ⟨fun hnot => absurd (.inl ⟨r, rfl, hr⟩) hnot, fun _ => ?_⟩
      have hmem : order ∈ db.orderIds := by
        obtain ⟨p, hp, rfl, -⟩ := holds_iff.mp h
        exact List.mem_map_of_mem hp
      exact lost_exec (lost_of_replaces hok hr)
        ((hok.issued order hmem).trans_le (nextId_step db _))
    · have hrest := holds_exec ls (paymentOrdersOk_step hok l)
        (holds_step h fun r hr hrep => hl ⟨r, hr, hrep⟩)
      exact ⟨fun hnot => hrest.1 fun hr => hnot (.inr hr),
        fun hr => hrest.2 (hr.resolve_left hl)⟩

/-! ## Acceptance -/

theorem storeVerified_ok {n : Nat} {deadline : Time}
    (hseller : ∀ l ∈ db.listings a.domainId, l.listedByUserId ≠ none) :
    ∃ db', db.storeVerified n p a deadline = .ok db' := by
  unfold Db.storeVerified Db.ensureDomainTransfer
  split
  · exact ⟨_, rfl⟩
  split
  · exact ⟨_, rfl⟩
  split
  · exact ⟨_, rfl⟩
  next l hl =>
  split
  · exact ⟨_, rfl⟩
  unfold Db.createFromPayment
  split
  · exact ⟨_, rfl⟩
  split
  · next hnone => exact absurd hnone (hseller l hl)
  · exact ⟨_, rfl⟩

theorem findIdx?_order (hnodup : db.orderIds.Nodup) (hp : p ∈ db.payments) :
    ∃ n, (db.payments.findIdx? fun q => q.razorpayOrderId = p.razorpayOrderId) = some n ∧
      db.payments[n]? = some p := by
  have hsome : (db.payments.findIdx? fun q => q.razorpayOrderId = p.razorpayOrderId).isSome := by
    rw [List.findIdx?_isSome]
    exact List.any_eq_true.mpr ⟨p, hp, by simp⟩
  obtain ⟨n, hn⟩ := Option.isSome_iff_exists.mp hsome
  obtain ⟨hlt, hrow, -⟩ := List.findIdx?_eq_some_iff_getElem.mp hn
  refine ⟨n, hn, ?_⟩
  rw [List.getElem?_eq_getElem hlt]
  exact congrArg some (List.inj_on_of_nodup_map hnodup (List.getElem_mem hlt) hp
    (by simpa using hrow))

/-- An order of the awaited winner that has its row is accepted. -/
theorem accepts_of_holds (hok : PaymentOrdersOk db) (hawait : db.awaits auction user)
    (hissued : db.hasOrder order) (h : db.holds order auction user) : db.accepts order user := by
  intro deadline
  obtain ⟨a, ha, hpending, hwinner, hseller⟩ := hawait
  obtain ⟨o, ho, rfl⟩ := hissued
  have hcaptured : (db.gateway.capture o.id).verifyPaymentSignature o.id
      db.gateway.freshPayment true = true := by
    have hany : (db.gateway.orders.any fun o' => o'.id == o.id) = true :=
      List.any_eq_true.mpr ⟨o, ho, by simp⟩
    simp [Gateway.capture, hany, Gateway.verifyPaymentSignature]
  obtain ⟨p, hp, hid, rfl, rfl⟩ := holds_iff.mp h
  obtain ⟨n, hn, hget⟩ := findIdx?_order hok.nodup hp
  rw [hid] at hn
  have hstored : ∀ q : WinnerPayment, q.auctionId = p.auctionId → ∃ db',
      ({ db with gateway := db.gateway.capture o.id } : Db).storeVerified n q a deadline = .ok db' :=
    fun q _ => storeVerified_ok hseller
  show (verifyWinnerPayment { db with gateway := db.gateway.capture o.id } _).result = .ok ()
  unfold verifyWinnerPayment
  simp only [hn, hget, ha, ne_eq, not_true_eq_false, if_false, hcaptured, hpending, hwinner,
    reduceCtorEq]
  by_cases hsuccess : p.paymentStatus = .success
  · obtain ⟨db', hdb'⟩ := hstored p rfl
    simp only [hsuccess, if_true, hdb']
    rfl
  · obtain ⟨db', hdb'⟩ := hstored
      { p with paymentStatus := .success, razorpayPaymentId := some db.gateway.freshPayment } rfl
    simp only [hsuccess, if_false, hdb']
    rfl

theorem not_found_of_lost (h : order ∉ db.orderIds) : ∀ deadline,
    (verifyWinnerPayment (step db (.capture order))
      ⟨user, order, db.gateway.freshPayment, true, deadline⟩).result =
        raise "Payment record not found." 404 := by
  intro deadline
  have hnone : (db.payments.findIdx? fun q => q.razorpayOrderId = order) = none := by
    rw [List.findIdx?_eq_none_iff]
    intro q hq
    simpa using fun hid : q.razorpayOrderId = order => h (hid ▸ List.mem_map_of_mem hq)
  show (verifyWinnerPayment { db with gateway := db.gateway.capture order } _).result = _
  unfold verifyWinnerPayment
  simp only [hnone]
  rfl

theorem hasOrder_step (l : Label) (h : db.hasOrder order) : (step db l).hasOrder order := by
  obtain ⟨o, ho, rfl⟩ := h
  rcases @orders_step db l with hsame | ⟨amount, notes, -, hcons⟩
  · exact ⟨o, hsame ▸ ho, rfl⟩
  · exact ⟨o, hcons ▸ List.mem_cons_of_mem _ ho, rfl⟩

/-- A call that returns an order has stored its row. -/
theorem holds_of_returns (h : db.returnsOrder r order) :
    (step db (.createWinnerOrder r)).holds order r.auction r.user ∧
      (step db (.createWinnerOrder r)).hasOrder order := by
  obtain ⟨hok, rfl⟩ := h
  rcases createWinnerOrder_does db r with ⟨hfail, -⟩ | ⟨-, amount, charge, hrows, horders⟩
  · exact absurd hok hfail
  refine ⟨holds_iff.mpr ⟨r.payment db.gateway.nextId amount, ?_, rfl, rfl, rfl⟩,
    ⟨⟨db.gateway.nextId, charge, .auctionWinner r.auction r.user⟩, ?_, rfl⟩⟩
  · show _ ∈ (createWinnerOrder db r).db.payments
    rw [hrows]
    rcases storeWinnerPayment_payments db r db.gateway.nextId amount with
      ⟨before, q, after, -, -, hps'⟩ | ⟨-, hps'⟩
    · rw [hps']
      exact List.mem_append_right _ List.mem_cons_self
    · rw [hps']
      exact List.mem_append_right _ (List.mem_singleton_self _)
  · show _ ∈ (createWinnerOrder db r).db.gateway.orders
    rw [horders]
    exact List.mem_cons_self

/-- **An order of a winner is accepted exactly if it has not been replaced.** In every run from a
database without winner payments, take any order that `create_winner_order` returned. While the
auction awaits the payment of that user, the user's payment of the order is accepted if no later
call has taken over the order's row, and else the payment record is not found. -/
theorem accepted_iff {db : Db} (hnew : db.payments = []) {pre post : List Label}
    {r : WinnerOrderRequest} {order : OrderId}
    (hreturned : (Run.exec step db pre).returnsOrder r order)
    (hawait : (Run.exec step db (pre ++ .createWinnerOrder r :: post)).awaits r.auction r.user) :
    (Run.exec step db (pre ++ .createWinnerOrder r :: post)).accepts order r.user ↔
      ¬ Replaced (Run.exec step db (pre ++ [.createWinnerOrder r])) post order := by
  have hinit : PaymentOrdersOk db := ⟨by simp [Db.orderIds, hnew], by simp [Db.orderIds, hnew]⟩
  have hpre : PaymentOrdersOk (Run.exec step db pre) :=
    Run.exec_preserves (P := PaymentOrdersOk) (fun _ l h => paymentOrdersOk_step h l) pre hinit
  obtain ⟨hholds, hhas⟩ := holds_of_returns hreturned
  have hmid : Run.exec step db (pre ++ [.createWinnerOrder r]) =
      step (Run.exec step db pre) (.createWinnerOrder r) := by
    rw [Run.exec_append, Run.exec_cons, Run.exec_nil]
  have hend : Run.exec step db (pre ++ .createWinnerOrder r :: post) =
      Run.exec step (step (Run.exec step db pre) (.createWinnerOrder r)) post := by
    rw [Run.exec_append, Run.exec_cons]
  rw [hend] at hawait
  rw [hmid, hend]
  have hok : PaymentOrdersOk (step (Run.exec step db pre) (.createWinnerOrder r)) :=
    paymentOrdersOk_step hpre _
  obtain ⟨hkept, hlost⟩ := holds_exec post hok hholds
  constructor
  · intro haccepts hreplaced
    have hfound := haccepts 0
    rw [not_found_of_lost (hlost hreplaced) 0] at hfound
    exact absurd hfound raise_ne_ok
  · intro hnot
    refine accepts_of_holds ?_ hawait ?_ (hkept hnot)
    · exact Run.exec_preserves (P := PaymentOrdersOk) (fun _ l h => paymentOrdersOk_step h l) post
        hok
    · exact Run.exec_preserves (P := fun db : Db => db.hasOrder order)
        (fun _ l h => hasOrder_step l h) post hhas

def asks : WinnerOrderRequest := ⟨0, 1, false, true⟩

theorem awaits_one (ha : db.auctions[0]? = some a) (hstatus : a.status = .paymentPending)
    (hwinner : a.currentWinnerId = some 1)
    (hlisting : ∃ l, db.listings a.domainId = some l ∧ l.listedByUserId = some 9) :
    db.awaits 0 1 := by
  obtain ⟨l, hl, hseller⟩ := hlisting
  refine ⟨a, ha, hstatus, hwinner, fun l' hl' => ?_⟩
  cases hl.symm.trans hl'
  simp [hseller]

/-- The verification of the first order fails before the second one is asked for: the first one
can still be paid. -/
theorem accepted_after_failure :
    (Run.exec step oneListing (auctionWon ++ .createWinnerOrder asks :: [.capture 0,
      .verifyWinnerPayment ⟨1, 0, 0, false, 0⟩, .createWinnerOrder asks])).accepts 0 1 ↔
    ¬ Replaced (Run.exec step oneListing (auctionWon ++ [.createWinnerOrder asks]))
      [.capture 0, .verifyWinnerPayment ⟨1, 0, 0, false, 0⟩, .createWinnerOrder asks] 0 :=
  accepted_iff (r := asks) rfl ⟨rfl, rfl⟩ (awaits_one rfl rfl rfl ⟨_, rfl, rfl⟩)

/-- The winner asks twice: the first order is not found any more. -/
theorem second_order_strands_first : ¬ ∀ (db : Db) (pre post : List Label)
    (r : WinnerOrderRequest) (order : OrderId), db.payments = [] →
    (Run.exec step db pre).returnsOrder r order →
    (Run.exec step db (pre ++ .createWinnerOrder r :: post)).awaits r.auction r.user →
    (Run.exec step db (pre ++ .createWinnerOrder r :: post)).accepts order r.user := by
  intro h
  have haccepts := h oneListing auctionWon [.createWinnerOrder asks] asks 0 rfl ⟨rfl, rfl⟩
    (awaits_one rfl rfl rfl ⟨_, rfl, rfl⟩) 0
  have hnot : (verifyWinnerPayment (step (Run.exec step oneListing
      (auctionWon ++ .createWinnerOrder asks :: [.createWinnerOrder asks])) (.capture 0))
        ⟨1, 0, 0, true, 0⟩).result = raise "Payment record not found." 404 := rfl
  exact raise_ne_ok (hnot.symm.trans haccepts)

end Deltapreneur.Marketplace
