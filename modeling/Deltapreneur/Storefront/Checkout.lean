import Deltapreneur.Storefront.Stranded

/-!
# The checkouts of transfers

Model of `create_transfer_payment_order`, `retry_transfer_payment`, `_recent_retry_mint`
(`app/service/domain/domain_registration_service.py:3489-3810`) and
`get_active_transfer_by_buyer_and_domain`, on the table of all transfers of all buyers, together with
what reports a payment: `verify_transfer_payment`, the webhooks and the jobs.

* `Till.returned` are the Razorpay orders that the two functions gave to a buyer, with the transfer.
  `Till.payments` is what Razorpay knows about a payment.
* Rows are in the order of their creation, and the id of a row is its position.
* A double click gets the Razorpay order of the first one (`Till.recentRetryMint`); otherwise a new
  one takes its place in the row, and the row forgets the old one, which can still be paid.
* The guard of `create_transfer_payment_order` reads the latest row that is not `REFUNDED`, that of
  `retry_transfer_payment` the row itself. A row tells of a payment when it was reported.

Results:

* `never_paid_twice`: in every such run no Razorpay order is opened for a transfer that is paid, and
  every paid one leads to its transfer.
* `opened_while_paid`: otherwise not.
-/

namespace Deltapreneur.Storefront

open Registration (RegistrationOrderStatus RegistrationId)
open Razorpay (Gateway Payment)
open Run

/-! ## The guards -/

/-- `create_transfer_payment_order` refuses when it finds this row. -/
def Order.blocks (o : Order) : Bool :=
  o.status = .active ∨
    ((o.status = .registrationPending ∨ o.transferStatus = .pending) ∧ o.paid = true) ∨
    (o.paid = true ∧ (o.status = .provisionFailed ∨ o.status = .failed))

/-- The transfers, the Razorpay orders and their payments. -/
structure Till where
  rows : List Order
  /-- `_RETRY_MINT_GUARD`, the latest entry first. -/
  minted : List (RegistrationId × Nat × OrderId)
  gateway : Gateway Unit
  payments : PaymentId → Payment
  returned : List (OrderId × RegistrationId)

inductive TillOp
  | create (buyerId : UserId) (fqdn : Fqdn) (buyerEmail : Email) (phoneValid : Bool)
    (priceInr : Paise) (now : Nat)
  | retry (buyerId : UserId) (id : RegistrationId) (now : Nat)
  /-- The buyer pays a Razorpay order. -/
  | pay (r : OrderId)
  | verify (buyerId : UserId) (r : OrderId) (payment : PaymentId) (genuine : Bool)
    (t : TransferAnswers)
  | paymentCaptured (r : OrderId) (payment : PaymentId) (a : Answers) (t : TransferAnswers)
    (answer : Option Bool)
  | paymentFailed (r : OrderId)
  | tick (id : RegistrationId) (t : TransferAnswers)
  | poll (id : RegistrationId) (answer : Option Bool)
  | expire (id : RegistrationId) (aged : Bool)

namespace Till

def empty : Till := ⟨[], [], .empty, fun _ => ⟨.created, 0, 0⟩, []⟩

/-- `get_active_transfer_by_buyer_and_domain`. -/
def latest (s : Till) (buyerId : UserId) (fqdn : Fqdn) : Option Order :=
  s.rows.reverse.find? fun o =>
    o.buyerId = buyerId ∧ o.fqdn = fqdn ∧ o.isTransfer = true ∧ o.status ≠ .refunded

/-- `get_by_razorpay_order_id`. -/
def resolve (s : Till) (r : OrderId) : Option Order :=
  s.rows.find? fun o => o.razorpayOrderId = some r

/-- `_recent_retry_mint`: an entry counts for 60 seconds. -/
def recentRetryMint (s : Till) (id : RegistrationId) (now : Nat) : Option OrderId :=
  match s.minted.find? fun m => m.1 = id with
  | none => none
  | some (_, mintedAt, r) => if mintedAt + 60 < now then none else some r

/-- One row is written. -/
def write (s : Till) (o : Order) : Till :=
  { s with rows := Table.update Order.id o.id (fun _ => o) s.rows }

/-- A row is written, and Razorpay's record of its payment with it. -/
def visit (s : Till) (payment : PaymentId) (left : Left) : Till :=
  { s.write left.order with
    payments := fun p => if p = payment then left.payment else s.payments p }

/-- The checkout of an unpaid row is opened once more: a double click gets the same Razorpay order,
otherwise a new one goes into the row. -/
def reopen (s : Till) (o : Order) (amount : Paise) (now : Nat) (next : OrderId → Order) : Till :=
  if (s.recentRetryMint o.id now).isSome = true ∧ s.recentRetryMint o.id now = o.razorpayOrderId then
    s
  else match s.gateway.createOrder amount () with
    | none => s
    | some (r, gateway) =>
      { s.write (next r) with
        gateway
        minted := (o.id, now, r) :: s.minted
        returned := (r, o.id) :: s.returned }

/-- A new row with its Razorpay order. -/
def newAttempt (s : Till) (buyerId : UserId) (fqdn : Fqdn) (buyerEmail : Email) (phoneValid : Bool)
    (priceInr : Paise) : Till :=
  match s.gateway.createOrder priceInr () with
  | none => s
  | some (r, gateway) =>
    { s with
      gateway
      rows := s.rows ++ [{ Order.created s.rows.length buyerId fqdn buyerEmail phoneValid priceInr r
        with transferStatus := .paymentPending, transferAuthCode := true }]
      returned := (r, s.rows.length) :: s.returned }

/-- `create_transfer_payment_order`. -/
def createTransferPaymentOrder (s : Till) (buyerId : UserId) (fqdn : Fqdn) (buyerEmail : Email)
    (phoneValid : Bool) (priceInr : Paise) (now : Nat) : Till :=
  match s.latest buyerId fqdn with
  | none => s.newAttempt buyerId fqdn buyerEmail phoneValid priceInr
  | some o =>
    if o.blocks then s
    else if o.paid = false ∧ o.status = .created then
      s.reopen o (if o.priceInr = 0 then priceInr else o.priceInr) now fun r => o.reopened r
    else s.newAttempt buyerId fqdn buyerEmail phoneValid priceInr

/-- `retry_transfer_payment`. -/
def retryTransferPayment (s : Till) (buyerId : UserId) (id : RegistrationId) (now : Nat) : Till :=
  match Table.lookup Order.id id s.rows with
  | none => s
  | some o =>
    if o.buyerId = buyerId ∧ o.retryable = true then
      s.reopen o o.priceInr now fun r =>
        { o.reopened r with status := .created, transferStatus := .paymentPending }
    else s

/-- The buyer pays: Razorpay captures the amount of the order. -/
def pay (s : Till) (r : OrderId) : Till :=
  { s with
    gateway := s.gateway.capture r
    payments := fun p =>
      if p = s.gateway.freshPayment then
        .fresh (((s.gateway.orders.find? fun z => z.id == r).map (·.amount)).getD 0)
      else s.payments p }

def step (c : Config) (others : Holders) (s : Till) : TillOp → Till
  | .create buyerId fqdn buyerEmail phoneValid priceInr now =>
    s.createTransferPaymentOrder buyerId fqdn buyerEmail phoneValid priceInr now
  | .retry buyerId id now => s.retryTransferPayment buyerId id now
  | .pay r => s.pay r
  | .verify buyerId r payment genuine t =>
    match s.resolve r with
    | none => s
    | some o =>
      if o.buyerId = buyerId then
        s.visit payment (verifyTransferPayment c t payment
          (s.gateway.verifyPaymentSignature r payment genuine) (s.payments payment) o)
      else s
  | .paymentCaptured r payment a t answer =>
    match s.resolve r with
    | none => s
    | some o =>
      if (r, payment) ∈ s.gateway.captured then
        s.visit payment (completePaymentFromWebhook c others a t answer o.isTransfer payment
          (s.payments payment) o)
      else s
  | .paymentFailed r =>
    match s.resolve r with
    | none => s
    | some o => s.write (Storefront.paymentFailed o)
  | .tick id t =>
    match Table.lookup Order.id id s.rows with
    | none => s
    | some o =>
      match o.razorpayPaymentId with
      | none => s
      | some payment => s.visit payment (transferReconcile c t (s.payments payment) o)
  | .poll id answer =>
    match Table.lookup Order.id id s.rows with
    | none => s
    | some o => s.write (o.sync answer)
  | .expire id aged =>
    match Table.lookup Order.id id s.rows with
    | none => s
    | some o => s.write (expireStale aged o)

/-! ## What every step keeps -/

/-- A payment for a transfer of the domain by the buyer is captured and not refunded. -/
def Charged (s : Till) (buyerId : UserId) (fqdn : Fqdn) (payment : PaymentId) : Prop :=
  ∃ r, ∃ o ∈ s.rows, (r, o.id) ∈ s.returned ∧ o.buyerId = buyerId ∧ o.fqdn = fqdn ∧
    (r, payment) ∈ s.gateway.captured ∧ (s.payments payment).fullyRefunded = false

/-- A Razorpay order that the step opened is for a transfer without such a payment. -/
def OpensUncharged (s s' : Till) : Prop :=
  ∀ r, ∀ o ∈ s'.rows, (r, o.id) ∈ s'.returned → (r, o.id) ∉ s.returned →
    ∀ payment, ¬ s.Charged o.buyerId o.fqdn payment

/-- A Razorpay order that was given out and paid is resolved to its transfer. -/
def Resolves (s : Till) : Prop :=
  ∀ r id payment, (r, id) ∈ s.returned → (r, payment) ∈ s.gateway.captured →
    ∃ o, s.resolve r = some o ∧ o.id = id

/-- The inputs for which the guards read the payments there are. -/
def Plain (s : Till) : TillOp → Prop
  -- The latest row has recorded every payment.
  | .create buyerId fqdn _ _ _ _ => ∀ payment, s.Charged buyerId fqdn payment →
    ∃ o, s.latest buyerId fqdn = some o ∧ o.razorpayPaymentId = some payment
  -- The row itself has.
  | .retry _ id _ => ∀ o, Table.lookup Order.id id s.rows = some o →
    ∀ payment, s.Charged o.buyerId o.fqdn payment → o.razorpayPaymentId = some payment
  -- The Razorpay order is the row's.
  | .pay r => ∃ o ∈ s.rows, o.razorpayOrderId = some r
  -- The lookup does not raise, unless the transfer is queued.
  | .verify _ r payment _ t => ∀ o, s.resolve r = some o →
    o.razorpayPaymentId = some payment ∨ o.openProviderDomainId.isSome = true ∨
      o.transferStatus = .pending ∨ ∀ e, t.found ≠ .error e
  -- A verify has recorded a payment.
  | .paymentCaptured r _ _ _ _ => ∀ o, s.resolve r = some o → o.paid = true
  | _ => True

/-- What holds before and after every step. -/
structure Kept (s : Till) : Prop where
  keyed : s.rows.map Order.id = List.range s.rows.length
  genuine : s.gateway.Genuine
  wellFormed : s.gateway.WellFormed
  below : ∀ r id, (r, id) ∈ s.returned → r < s.gateway.nextId
  unique : ∀ r id id', (r, id) ∈ s.returned → (r, id') ∈ s.returned → id = id'
  row : ∀ o ∈ s.rows, o.isTransfer = true ∧ o.transferAuthCode = true ∧
    ∃ r, o.razorpayOrderId = some r ∧ (r, o.id) ∈ s.returned
  /-- A recorded payment is one for the row's Razorpay order. -/
  recorded : ∀ o ∈ s.rows, ∀ payment, o.razorpayPaymentId = some payment →
    ∃ r, o.razorpayOrderId = some r ∧ (r, payment) ∈ s.gateway.captured
  /-- A recorded payment stops `create_transfer_payment_order`. -/
  stands : ∀ o ∈ s.rows, o.paid = true → o.blocks = true ∨ o.status = .refunded
  /-- A payment for a Razorpay order finds it in its row, and a refund finds the payment there. -/
  current : ∀ r id payment, (r, id) ∈ s.returned → (r, payment) ∈ s.gateway.captured →
    ∃ o ∈ s.rows, o.id = id ∧ o.razorpayOrderId = some r ∧
      ((s.payments payment).fullyRefunded = true → o.paid = true)

end Till

/-! ## Rows and their Razorpay orders -/

variable {c : Config} {others : Holders} {s : Till} {op : TillOp} {o o' : Order} {r : OrderId}
  {payment : PaymentId} {t : TransferAnswers} {left : Left} {p : Payment} {id : RegistrationId}
  {buyerId : UserId} {fqdn : Fqdn} {answer : Option Bool} {amount : Paise} {gateway : Gateway Unit}
  {next : OrderId → Order}

theorem Till.Kept.nodup (h : s.Kept) : (s.rows.map Order.id).Nodup := by
  rw [h.keyed]
  exact List.nodup_range

theorem Till.Kept.eq_of_order (h : s.Kept) (ho : o ∈ s.rows) (ho' : o' ∈ s.rows)
    (hr : o.razorpayOrderId = some r) (hr' : o'.razorpayOrderId = some r) : o = o' := by
  obtain ⟨-, -, q, hq, hret⟩ := h.row o ho
  obtain ⟨-, -, q', hq', hret'⟩ := h.row o' ho'
  obtain rfl : q = r := Option.some.inj (hq.symm.trans hr)
  obtain rfl : q' = q := Option.some.inj (hq'.symm.trans hr')
  exact List.inj_on_of_nodup_map h.nodup ho ho' (h.unique q' o.id o'.id hret hret')

theorem resolve_eq_some (h : s.resolve r = some o) : o ∈ s.rows ∧ o.razorpayOrderId = some r := by
  unfold Till.resolve at h
  exact ⟨List.mem_of_find?_eq_some h, by simpa using List.find?_some h⟩

theorem Till.Kept.resolve (h : s.Kept) (ho : o ∈ s.rows) (hr : o.razorpayOrderId = some r) :
    s.resolve r = some o := by
  cases hfind : s.resolve r with
  | none =>
    unfold Till.resolve at hfind
    exact absurd (List.find?_eq_none.mp hfind o ho) (by simp [hr])
  | some x =>
    obtain ⟨hx, hxr⟩ := resolve_eq_some hfind
    rw [h.eq_of_order hx ho hxr hr]

theorem Till.Kept.resolves (h : s.Kept) : s.Resolves := by
  intro r id payment hret hcaptured
  obtain ⟨o, ho, hid, hr, -⟩ := h.current r id payment hret hcaptured
  exact ⟨o, h.resolve ho hr, hid⟩

theorem latest_eq_some (h : s.latest buyerId fqdn = some o) :
    o ∈ s.rows ∧ o.buyerId = buyerId ∧ o.fqdn = fqdn ∧ o.status ≠ .refunded := by
  unfold Till.latest at h
  have hmem := List.mem_of_find?_eq_some h
  have hfound := List.find?_some h
  simp only [decide_eq_true_eq] at hfound
  exact ⟨List.mem_reverse.mp hmem, hfound.1, hfound.2.1, hfound.2.2.2⟩

/-! ## Reports -/

/-- What a report leaves of a row: the Razorpay order stays, a payment that is recorded is one for
it and stops another checkout, and only its own payment is refunded. -/
structure Till.Writes (s : Till) (o : Order) (payment : PaymentId) (left : Left) : Prop where
  id : left.order.id = o.id
  transfer : left.order.isTransfer = true
  code : left.order.transferAuthCode = true
  order : left.order.razorpayOrderId = o.razorpayOrderId
  paid : o.paid = true → left.order.paid = true
  recorded : ∀ q, left.order.razorpayPaymentId = some q →
    ∃ r, o.razorpayOrderId = some r ∧ (r, q) ∈ s.gateway.captured
  stands : left.order.paid = true → left.order.blocks = true ∨ left.order.status = .refunded
  payment : left.payment ≠ s.payments payment → left.order.razorpayPaymentId = some payment

theorem mem_visit {x : Order} (hx : x ∈ (s.visit payment left).rows) :
    x = left.order ∨ (x ∈ s.rows ∧ x.id ≠ left.order.id) := by
  obtain ⟨y, hy, heq⟩ := List.mem_map.mp (show x ∈ List.map _ _ from hx)
  split_ifs at heq with hid
  · exact .inl heq.symm
  · subst heq
    exact .inr ⟨hy, hid⟩

theorem kept_visit (h : s.Kept) (ho : o ∈ s.rows) (hw : s.Writes o payment left) :
    (s.visit payment left).Kept := by
  obtain ⟨-, -, r₀, hr₀, hret₀⟩ := h.row o ho
  have hr₀' : left.order.razorpayOrderId = some r₀ := hw.order.trans hr₀
  have hnew : left.order ∈ (s.visit payment left).rows :=
    List.mem_map.mpr ⟨o, ho, if_pos hw.id.symm⟩
  refine ⟨?_, h.genuine, h.wellFormed, h.below, h.unique, ?_, ?_, ?_, ?_⟩
  · have hlen : (s.visit payment left).rows.length = s.rows.length := List.length_map _
    rw [hlen, ← h.keyed]
    exact Table.map_key_update_const rfl s.rows
  · intro x hx
    rcases mem_visit hx with rfl | ⟨hx', -⟩
    · exact ⟨hw.transfer, hw.code, r₀, hr₀', hw.id ▸ hret₀⟩
    · exact h.row x hx'
  · intro x hx q hq
    rcases mem_visit hx with rfl | ⟨hx', -⟩
    · rw [hw.order]
      exact hw.recorded q hq
    · exact h.recorded x hx' q hq
  · intro x hx hpaid
    rcases mem_visit hx with rfl | ⟨hx', -⟩
    · exact hw.stands hpaid
    · exact h.stands x hx' hpaid
  · intro r id q hret hcaptured
    obtain ⟨x, hx, hxid, hxr, hfull⟩ := h.current r id q hret hcaptured
    -- Only the payment of the written row has changed at Razorpay.
    have hchange : (s.visit payment left).payments q ≠ s.payments q →
        left.order.razorpayPaymentId = some q := by
      intro hne
      by_cases hq : q = payment
      · subst hq
        exact hw.payment fun heq => hne (by simp [Till.visit, heq])
      · exact absurd (by simp [Till.visit, Till.write, hq]) hne
    by_cases hxo : x.id = left.order.id
    · have hsame : x = o := List.inj_on_of_nodup_map h.nodup hx ho (hxo.trans hw.id)
      subst hsame
      refine ⟨left.order, hnew, hw.id.trans hxid, hw.order.trans hxr, fun hfull' => ?_⟩
      by_cases hq : (s.visit payment left).payments q = s.payments q
      · exact hw.paid (hfull (hq ▸ hfull'))
      · unfold Order.paid
        rw [hchange hq]
        rfl
    · refine ⟨x, List.mem_map.mpr ⟨x, hx, if_neg hxo⟩, hxid, hxr, fun hfull' => ?_⟩
      by_cases hq : (s.visit payment left).payments q = s.payments q
      · exact hfull (hq ▸ hfull')
      · -- A payment is for one Razorpay order.
        obtain ⟨r', hr', hcaptured'⟩ := hw.recorded q (hchange hq)
        obtain rfl := h.genuine.order_unique hcaptured hcaptured'
        obtain rfl := h.eq_of_order hx ho hxr hr'
        exact absurd hw.id.symm hxo

theorem Order.Handled.blocks (h : o.Handled) (hpaid : o.paid = true) :
    o.blocks = true ∨ o.status = .refunded := by
  unfold Order.blocks
  rcases h with hs | hs | ⟨-, ht, -, -⟩ | hs | hs
  · exact .inl (by simp [hs, hpaid])
  · exact .inl (by simp [hs])
  · exact .inl (by simp [ht, hpaid])
  · exact .inl (by simp [hs, hpaid])
  · exact .inr hs

theorem blocks_of_pending (ht : o.transferStatus = .pending) (hpaid : o.paid = true) :
    o.blocks = true := by
  simp [Order.blocks, ht, hpaid]

/-- A submission of a row with its payment. -/
theorem writes_submission {o₁ : Order} (h : s.Kept) (ho : o ∈ s.rows)
    (hdoes : Submission c t (s.payments payment) o₁ left) (hs : o₁.status = .paymentCompleted)
    (hpayment : o₁.razorpayPaymentId = some payment) (hsale : o₁.id = o.id ∧
      o₁.razorpayOrderId = o.razorpayOrderId ∧ o₁.isTransfer = o.isTransfer ∧
        o₁.transferAuthCode = o.transferAuthCode)
    (hcaptured : ∃ r, o.razorpayOrderId = some r ∧ (r, payment) ∈ s.gateway.captured)
    (hraises : o₁.openProviderDomainId = none → (∃ e, t.found = .error e) → o₁.blocks = true) :
    s.Writes o payment left := by
  obtain ⟨ht, hcode, -⟩ := h.row o ho
  obtain ⟨hid, horder, htransfer, hauth⟩ := hsale
  have hkeeps := hdoes.sameSale
  have hleft : left.order.razorpayPaymentId = some payment := hkeeps.razorpayPaymentId.trans hpayment
  have hpaid₁ : o₁.paid = true := by
    unfold Order.paid
    rw [hpayment]
    rfl
  have hpaid : left.order.paid = true := by
    unfold Order.paid
    rw [hleft]
    rfl
  refine ⟨hkeeps.id.trans hid, hdoes.keepsTransfer (htransfer.trans ht),
    hkeeps.transferAuthCode.trans (hauth.trans hcode), hkeeps.razorpayOrderId.trans horder,
    fun _ => hpaid, fun q hq => ?_, fun _ => ?_, fun _ => hleft⟩
  · obtain rfl : payment = q := Option.some.inj (hleft.symm.trans hq)
    exact hcaptured
  · rcases hdoes.handled hs hpaid₁ (hauth.trans hcode) with ⟨heq, hnone, herr⟩ | hhandled
    · rw [heq]
      exact .inl (hraises hnone herr)
    · exact hhandled.blocks hpaid

theorem writes_row (h : s.Kept) (ho : o ∈ s.rows) (o' : Order) (hid : o'.id = o.id)
    (htransfer : o'.isTransfer = true) (hcode : o'.transferAuthCode = o.transferAuthCode)
    (horder : o'.razorpayOrderId = o.razorpayOrderId)
    (hpayment : o'.razorpayPaymentId = o.razorpayPaymentId)
    (hstands : o.paid = true → o.blocks = true ∨ o.status = .refunded →
      o'.blocks = true ∨ o'.status = .refunded) (payment : PaymentId) :
    s.Writes o payment ⟨o', s.payments payment, []⟩ := by
  have hpaid : o'.paid = o.paid := by
    unfold Order.paid
    rw [hpayment]
  refine ⟨hid, htransfer, hcode.trans (h.row o ho).2.1, horder, fun hp => hpaid.trans hp,
    fun q hq => ?_, fun hp => ?_, fun hne => absurd rfl hne⟩
  · exact h.recorded o ho q (hpayment.symm.trans hq)
  · exact hstands (hpaid.symm.trans hp) (h.stands o ho (hpaid.symm.trans hp))

theorem writes_same (h : s.Kept) (ho : o ∈ s.rows) (payment : PaymentId) :
    s.Writes o payment ⟨o, s.payments payment, []⟩ :=
  writes_row h ho o rfl (h.row o ho).1 rfl rfl rfl (fun _ hs => hs) payment

theorem writes_sync (h : s.Kept) (ho : o ∈ s.rows) (answer : Option Bool) (payment : PaymentId) :
    s.Writes o payment ⟨o.sync answer, s.payments payment, []⟩ := by
  have ht := (h.row o ho).1
  rcases sync_cases_row o answer with heq | ⟨-, -, heq⟩
  · rw [heq]
    exact writes_same h ho payment
  · have ht' : (o.sync answer).isTransfer = true := isTransfer_sync ht
    rw [heq] at ht' ⊢
    exact writes_row h ho o.confirm rfl ht' rfl rfl rfl
      (fun _ _ => .inl (by simp [Order.blocks, Order.confirm])) payment

theorem writes_status (h : s.Kept) (ho : o ∈ s.rows) (hs : o.status = .created)
    (status : RegistrationOrderStatus) (payment : PaymentId) :
    s.Writes o payment ⟨{ o with status }, s.payments payment, []⟩ := by
  refine writes_row h ho { o with status } rfl (h.row o ho).1 rfl rfl rfl (fun hpaid hstands => ?_)
    payment
  have hpending : o.transferStatus = .pending := by simpa [Order.blocks, hs, hpaid] using hstands
  exact .inl (blocks_of_pending hpending hpaid)

theorem writes_verify {genuine : Bool} (h : s.Kept) (ho : o ∈ s.rows)
    (hr : o.razorpayOrderId = some r)
    (hok : o.razorpayPaymentId = some payment ∨ o.openProviderDomainId.isSome = true ∨
      o.transferStatus = .pending ∨ ∀ e, t.found ≠ .error e) :
    s.Writes o payment (verifyTransferPayment c t payment
      (s.gateway.verifyPaymentSignature r payment genuine) (s.payments payment) o) := by
  have ht := (h.row o ho).1
  unfold verifyTransferPayment
  split_ifs with hsame hvalid
  · exact writes_same h ho payment
  · -- The signature is wrong.
    refine writes_row h ho { o with status := .failed } rfl ht rfl rfl rfl (fun hpaid _ => .inl ?_)
      payment
    have hpaid' : ({ o with status := .failed } : Order).paid = true := hpaid
    simp [Order.blocks, hpaid']
  · have hcaptured := Gateway.mem_captured_of_verify (Bool.not_eq_false _ ▸ hvalid)
    refine writes_submission h ho (provisionTransfer_does c t (s.payments payment)
      { o.paidBy payment with status := .paymentCompleted }) rfl rfl ⟨rfl, rfl, rfl, rfl⟩
      ⟨r, hr, hcaptured⟩ ?_
    rintro hnone ⟨e, herr⟩
    have hnone' : o.openProviderDomainId = none := hnone
    have hpending : o.transferStatus = .pending := by
      rcases hok with hc | hc | hc | hc
      · exact absurd hc hsame
      · exact absurd hc (by simp [hnone'])
      · exact hc
      · exact absurd herr (hc e)
    exact blocks_of_pending hpending rfl

theorem writes_webhook (h : s.Kept) (ho : o ∈ s.rows) (hpaid : o.paid = true) (a : Answers)
    (t : TransferAnswers) :
    s.Writes o payment (completePaymentFromWebhook c others a t answer o.isTransfer payment
      (s.payments payment) o) := by
  rcases webhook_transfer c others a t (s.payments payment) (h.row o ho).1 with
    ⟨heq, -⟩ | ⟨heq, hsame⟩
  · rw [heq]
    exact writes_same h ho payment
  · have hback : o.paidBy payment = o := by
      unfold Order.paidBy
      rw [← hsame hpaid]
    rw [heq, hback]
    exact writes_sync h ho answer payment

theorem writes_tick (h : s.Kept) (ho : o ∈ s.rows) (hpayment : o.razorpayPaymentId = some payment)
    (t : TransferAnswers) :
    s.Writes o payment (transferReconcile c t (s.payments payment) o) := by
  unfold transferReconcile
  split_ifs with hselected
  · obtain ⟨hs, hpending, hpaid, -⟩ := hselected
    refine writes_submission h ho (provisionTransfer_does c t (s.payments payment) o) hs hpayment
      ⟨rfl, rfl, rfl, rfl⟩ (h.recorded o ho payment hpayment) fun _ _ => ?_
    exact blocks_of_pending hpending hpaid
  · exact writes_same h ho payment

/-! ## Razorpay orders -/

theorem kept_pay (h : s.Kept) (ho : o ∈ s.rows) (hr : o.razorpayOrderId = some r) :
    (s.pay r).Kept := by
  have horders : (s.pay r).gateway.orders = s.gateway.orders := Gateway.capture_orders
  have hnext : (s.pay r).gateway.nextId = s.gateway.nextId := congrArg List.length horders
  refine ⟨h.keyed, h.genuine.capture r, ?_, ?_, h.unique, h.row, ?_, h.stands, ?_⟩
  · intro z hz
    rw [hnext]
    exact h.wellFormed z (horders ▸ hz)
  · intro q id hret
    rw [hnext]
    exact h.below q id hret
  · intro x hx payment hpayment
    obtain ⟨q, hq, hcaptured⟩ := h.recorded x hx payment hpayment
    exact ⟨q, hq, Gateway.capture_captured_subset r hcaptured⟩
  · intro q id payment hret hcaptured
    rcases Gateway.mem_capture hcaptured with hold | hnew
    · obtain ⟨x, hx, hid, hxq, hfull⟩ := h.current q id payment hret hold
      refine ⟨x, hx, hid, hxq, fun hfull' => hfull ?_⟩
      have hne : payment ≠ s.gateway.freshPayment := Nat.ne_of_lt (h.genuine.below _ hold)
      simpa [Till.pay, hne] using hfull'
    · -- The payment is new, and the Razorpay order is the row's.
      obtain ⟨rfl, rfl⟩ := Prod.mk.inj hnew
      obtain ⟨-, -, q', hq', hret'⟩ := h.row o ho
      obtain rfl : q' = q := Option.some.inj (hq'.symm.trans hr)
      refine ⟨o, ho, h.unique q' o.id id hret' hret, hr, fun hfull => ?_⟩
      rw [show (s.pay q').payments s.gateway.freshPayment = .fresh _ from if_pos rfl,
        Razorpay.fullyRefunded_fresh] at hfull
      cases hfull

theorem Till.Kept.not_paid (h : s.Kept) (hg : s.gateway.createOrder amount () = some (r, gateway)) :
    (∀ id, (r, id) ∉ s.returned) ∧ ∀ payment, (r, payment) ∉ s.gateway.captured := by
  obtain ⟨rfl, -⟩ := Gateway.createOrder_eq_some hg
  exact ⟨fun id hret => absurd (h.below _ id hret) (Nat.lt_irrefl _),
    fun payment => h.genuine.next_not_mem h.wellFormed⟩

/-- One more Razorpay order is given out. -/
theorem Till.Kept.returned_cons (h : s.Kept)
    (hg : s.gateway.createOrder amount () = some (r, gateway)) (i : RegistrationId) :
    (∀ q id, (q, id) ∈ (r, i) :: s.returned → q < gateway.nextId) ∧
      ∀ q id id', (q, id) ∈ (r, i) :: s.returned → (q, id') ∈ (r, i) :: s.returned → id = id' := by
  obtain ⟨hreturned, -⟩ := h.not_paid hg
  obtain ⟨hr, -⟩ := Gateway.createOrder_eq_some hg
  constructor
  · intro q id hret
    rw [Gateway.nextId_of_createOrder hg]
    rcases List.mem_cons.mp hret with heq | hret
    · rw [(Prod.mk.inj heq).1, hr]
      exact Nat.lt_succ_self _
    · exact Nat.lt_succ_of_lt (h.below q id hret)
  · intro q id id' hret hret'
    rcases List.mem_cons.mp hret with heq | hret
    · rcases List.mem_cons.mp hret' with heq' | hret'
      · rw [(Prod.mk.inj heq).2, (Prod.mk.inj heq').2]
      · exact absurd ((Prod.mk.inj heq).1 ▸ hret') (hreturned id')
    · rcases List.mem_cons.mp hret' with heq' | hret'
      · exact absurd ((Prod.mk.inj heq').1 ▸ hret) (hreturned id)
      · exact h.unique q id id' hret hret'

/-- A new Razorpay order in an unpaid row whose old one is not paid either. -/
theorem kept_reopen {now : Nat} (h : s.Kept) (ho : o ∈ s.rows)
    (hunpaid : o.razorpayPaymentId = none)
    (hold : ∀ q payment, o.razorpayOrderId = some q → (q, payment) ∉ s.gateway.captured)
    (hnext : ∀ r, (next r).id = o.id ∧ (next r).isTransfer = true ∧
      (next r).transferAuthCode = true ∧ (next r).razorpayOrderId = some r ∧
      (next r).razorpayPaymentId = none) : (s.reopen o amount now next).Kept := by
  unfold Till.reopen
  split_ifs
  · exact h
  · split
    · exact h
    · next r gateway hg =>
      obtain ⟨hid, htransfer, hcode, horder, hpayment⟩ := hnext r
      obtain ⟨-, hpaid⟩ := h.not_paid hg
      obtain ⟨-, horders⟩ := Gateway.createOrder_eq_some hg
      have hcaptured := Gateway.createOrder_captured hg
      have hunpaid' : (next r).paid = true → False := by
        unfold Order.paid
        rw [hpayment]
        exact fun h => absurd h (by simp)
      have hrows : ∀ x ∈ (s.write (next r)).rows, x = next r ∨ (x ∈ s.rows ∧ x.id ≠ o.id) := by
        intro x hx
        obtain ⟨y, hy, heq⟩ := List.mem_map.mp hx
        split_ifs at heq with hyid
        · exact .inl heq.symm
        · subst heq
          exact .inr ⟨hy, hid ▸ hyid⟩
      obtain ⟨hbelow, hunique⟩ := h.returned_cons hg o.id
      refine ⟨?_, h.genuine.create hg, h.wellFormed.cons horders, hbelow, hunique, ?_, ?_, ?_, ?_⟩
      · have hlen : (s.write (next r)).rows.length = s.rows.length := List.length_map _
        show (s.write (next r)).rows.map Order.id = List.range (s.write (next r)).rows.length
        rw [hlen, ← h.keyed]
        exact Table.map_key_update_const rfl s.rows
      · intro x hx
        rcases hrows x hx with rfl | ⟨hx', -⟩
        · exact ⟨htransfer, hcode, r, horder, hid ▸ List.mem_cons_self⟩
        · obtain ⟨hxt, hxc, q, hq, hret⟩ := h.row x hx'
          exact ⟨hxt, hxc, q, hq, List.mem_cons_of_mem _ hret⟩
      · intro x hx payment hx'
        rcases hrows x hx with rfl | ⟨hold', -⟩
        · cases hpayment.symm.trans hx'
        · rw [hcaptured]
          exact h.recorded x hold' payment hx'
      · intro x hx hxpaid
        rcases hrows x hx with rfl | ⟨hold', -⟩
        · exact (hunpaid' hxpaid).elim
        · exact h.stands x hold' hxpaid
      · intro q id payment hret hcap
        rw [hcaptured] at hcap
        rcases List.mem_cons.mp hret with heq | hret
        · exact absurd ((Prod.mk.inj heq).1 ▸ hcap) (hpaid payment)
        · obtain ⟨x, hx, hxid, hxq, hfull⟩ := h.current q id payment hret hcap
          by_cases hxo : x.id = o.id
          · obtain rfl := List.inj_on_of_nodup_map h.nodup hx ho hxo
            exact absurd hcap (hold q payment hxq)
          · exact ⟨x, List.mem_map.mpr ⟨x, hx, if_neg (hid ▸ hxo)⟩, hxid, hxq, hfull⟩

/-- A new row with a new Razorpay order. -/
theorem kept_newAttempt {buyerEmail : Email} {phoneValid : Bool} {priceInr : Paise} (h : s.Kept) :
    (s.newAttempt buyerId fqdn buyerEmail phoneValid priceInr).Kept := by
  unfold Till.newAttempt
  split
  · exact h
  · next r gateway hg =>
    obtain ⟨-, hpaid⟩ := h.not_paid hg
    obtain ⟨-, horders⟩ := Gateway.createOrder_eq_some hg
    have hcaptured := Gateway.createOrder_captured hg
    obtain ⟨hbelow, hunique⟩ := h.returned_cons hg s.rows.length
    refine ⟨?_, h.genuine.create hg, h.wellFormed.cons horders, hbelow, hunique, ?_, ?_, ?_, ?_⟩
    · rw [List.map_append, h.keyed, List.length_append, List.length_singleton, List.range_succ]
      rfl
    · intro x hx
      rcases List.mem_append.mp hx with hx | hx
      · obtain ⟨hxt, hxc, q, hq, hret⟩ := h.row x hx
        exact ⟨hxt, hxc, q, hq, List.mem_cons_of_mem _ hret⟩
      · rw [List.mem_singleton.mp hx]
        exact ⟨rfl, rfl, r, rfl, List.mem_cons_self⟩
    · intro x hx payment hx'
      rcases List.mem_append.mp hx with hx | hx
      · rw [hcaptured]
        exact h.recorded x hx payment hx'
      · rw [List.mem_singleton.mp hx] at hx'
        cases hx'
    · intro x hx hxpaid
      rcases List.mem_append.mp hx with hx | hx
      · exact h.stands x hx hxpaid
      · rw [List.mem_singleton.mp hx] at hxpaid
        cases hxpaid
    · intro q id payment hret hcap
      rw [hcaptured] at hcap
      rcases List.mem_cons.mp hret with heq | hret
      · exact absurd ((Prod.mk.inj heq).1 ▸ hcap) (hpaid payment)
      · obtain ⟨x, hx, hrest⟩ := h.current q id payment hret hcap
        exact ⟨x, List.mem_append_left _ hx, hrest⟩

/-! ## What the guards find -/

theorem Till.Kept.uncaptured (h : s.Kept) (ho : o ∈ s.rows) (hunpaid : o.razorpayPaymentId = none)
    (hok : ∀ payment, s.Charged o.buyerId o.fqdn payment → o.razorpayPaymentId = some payment) :
    ∀ q payment, o.razorpayOrderId = some q → (q, payment) ∉ s.gateway.captured := by
  intro q payment hq hcaptured
  obtain ⟨-, -, q', hq', hret⟩ := h.row o ho
  obtain rfl : q' = q := Option.some.inj (hq'.symm.trans hq)
  cases hfull : (s.payments payment).fullyRefunded with
  | true =>
    obtain ⟨x, hx, hid, -, hpaid⟩ := h.current q' o.id payment hret hcaptured
    obtain rfl := List.inj_on_of_nodup_map h.nodup hx ho hid
    exact absurd (hpaid hfull) (by simp [Order.paid, hunpaid])
  | false =>
    have hsome := hok payment ⟨q', o, ho, hret, rfl, rfl, hcaptured, hfull⟩
    cases hunpaid.symm.trans hsome

/-- A Razorpay order for a row whose payments would be recorded is for an uncharged transfer. -/
theorem opens_reopen {now : Nat} (hunpaid : o.razorpayPaymentId = none)
    (hok : ∀ payment, s.Charged o.buyerId o.fqdn payment → o.razorpayPaymentId = some payment)
    (hnext : ∀ r, (next r).id = o.id ∧ (next r).buyerId = o.buyerId ∧ (next r).fqdn = o.fqdn) :
    s.OpensUncharged (s.reopen o amount now next) := by
  intro q x hx hret hnew payment hcharged
  unfold Till.reopen at hx hret
  split_ifs at hx hret
  · exact hnew hret
  · split at hx
    · next hg =>
      rw [hg] at hret
      exact hnew hret
    · next r gateway hg =>
      rw [hg] at hret
      obtain ⟨hid, hbuyer, hfqdn⟩ := hnext r
      have hxid : x.id = o.id := by
        rcases List.mem_cons.mp hret with heq | hret
        · exact (Prod.mk.inj heq).2
        · exact absurd hret hnew
      obtain ⟨y, hy, heq⟩ := List.mem_map.mp (show x ∈ List.map _ s.rows from hx)
      split_ifs at heq with hyid
      · subst heq
        rw [hbuyer, hfqdn] at hcharged
        cases hunpaid.symm.trans (hok payment hcharged)
      · subst heq
        exact hyid (hxid.trans hid.symm)

theorem opens_newAttempt {buyerEmail : Email} {phoneValid : Bool} {priceInr : Paise} (h : s.Kept)
    (huncharged : ∀ payment, ¬ s.Charged buyerId fqdn payment) :
    s.OpensUncharged (s.newAttempt buyerId fqdn buyerEmail phoneValid priceInr) := by
  intro q x hx hret hnew payment hcharged
  unfold Till.newAttempt at hx hret
  split at hx
  · next hg =>
    rw [hg] at hret
    exact hnew hret
  · next r gateway hg =>
    rw [hg] at hret
    have hxid : x.id = s.rows.length := by
      rcases List.mem_cons.mp hret with heq | hret
      · exact (Prod.mk.inj heq).2
      · exact absurd hret hnew
    rcases List.mem_append.mp hx with hx | hx
    · have hlt : x.id ∈ List.range s.rows.length := h.keyed ▸ List.mem_map_of_mem hx
      rw [hxid, List.mem_range] at hlt
      exact absurd hlt (Nat.lt_irrefl _)
    · rw [List.mem_singleton.mp hx] at hcharged
      exact huncharged payment hcharged

theorem opens_of_returned {s' : Till} (hret : s'.returned = s.returned) : s.OpensUncharged s' :=
  fun _ _ _ hmem hnew => absurd (hret ▸ hmem) hnew

theorem visit_eq_write (payment : PaymentId) :
    s.visit payment ⟨o', s.payments payment, []⟩ = s.write o' := by
  have hsame : (fun p => if p = payment then s.payments payment else s.payments p) = s.payments := by
    funext p
    split_ifs with hp
    · rw [hp]
    · rfl
  show { s.write o' with payments := fun p =>
    if p = payment then s.payments payment else s.payments p } = s.write o'
  rw [hsame]
  rfl

theorem kept_write (h : s.Kept) (ho : o ∈ s.rows)
    (hw : s.Writes o payment ⟨o', s.payments payment, []⟩) : (s.write o').Kept := by
  rw [← visit_eq_write payment]
  exact kept_visit h ho hw

/-- **One step.** It opens no Razorpay order for a charged transfer, and keeps the invariant. -/
theorem till_step (h : s.Kept) (hok : s.Plain op) :
    (s.step c others op).Kept ∧ s.OpensUncharged (s.step c others op) := by
  have hnone : s.Kept ∧ s.OpensUncharged s := ⟨h, opens_of_returned rfl⟩
  cases op with
  | create buyerId fqdn buyerEmail phoneValid priceInr now =>
    show (s.createTransferPaymentOrder buyerId fqdn buyerEmail phoneValid priceInr now).Kept ∧
      s.OpensUncharged (s.createTransferPaymentOrder buyerId fqdn buyerEmail phoneValid priceInr now)
    unfold Till.createTransferPaymentOrder
    cases hlatest : s.latest buyerId fqdn with
    | none =>
      refine ⟨kept_newAttempt h, opens_newAttempt h fun payment hcharged => ?_⟩
      obtain ⟨o, ho, -⟩ := hok payment hcharged
      cases hlatest.symm.trans ho
    | some o =>
      obtain ⟨ho, hbuyer, hfqdn, hs⟩ := latest_eq_some hlatest
      have hrecorded : ∀ payment, s.Charged buyerId fqdn payment →
          o.razorpayPaymentId = some payment := by
        intro payment hcharged
        obtain ⟨x, hx, hpayment⟩ := hok payment hcharged
        cases hlatest.symm.trans hx
        exact hpayment
      dsimp only
      by_cases hblocks : o.blocks = true
      · rw [if_pos hblocks]
        exact hnone
      rw [if_neg hblocks]
      by_cases hopen : o.paid = false ∧ o.status = .created
      · rw [if_pos hopen]
        have hunpaid : o.razorpayPaymentId = none := by simpa [Order.paid] using hopen.1
        obtain ⟨ht, hcode, -⟩ := h.row o ho
        have hrecorded' : ∀ payment, s.Charged o.buyerId o.fqdn payment →
            o.razorpayPaymentId = some payment := by rwa [hbuyer, hfqdn]
        exact ⟨kept_reopen h ho hunpaid (h.uncaptured ho hunpaid hrecorded')
          fun r => ⟨rfl, ht, hcode, rfl, hunpaid⟩,
          opens_reopen hunpaid hrecorded' fun r => ⟨rfl, rfl, rfl⟩⟩
      · -- The row would stop the new attempt if it had a payment.
        rw [if_neg hopen]
        refine ⟨kept_newAttempt h, opens_newAttempt h fun payment hcharged => ?_⟩
        have hpaid : o.paid = true := by
          unfold Order.paid
          rw [hrecorded payment hcharged]
          rfl
        rcases h.stands o ho hpaid with hb | hr
        · exact hblocks hb
        · exact hs hr
  | retry buyerId id now =>
    show (s.retryTransferPayment buyerId id now).Kept ∧
      s.OpensUncharged (s.retryTransferPayment buyerId id now)
    unfold Till.retryTransferPayment
    split
    · exact hnone
    · next o hlookup =>
      obtain ⟨ho, -⟩ := Table.lookup_eq_some hlookup
      have hrecorded := hok o hlookup
      split_ifs with haccepted
      · have hunpaid : o.razorpayPaymentId = none := by
          have hretryable := haccepted.2
          simp only [Order.retryable, decide_eq_true_eq] at hretryable
          simpa [Order.paid] using hretryable.2.2.2.1
        obtain ⟨-, hcode, -⟩ := h.row o ho
        exact ⟨kept_reopen h ho hunpaid (h.uncaptured ho hunpaid hrecorded)
          fun r => ⟨rfl, rfl, hcode, rfl, hunpaid⟩,
          opens_reopen hunpaid hrecorded fun r => ⟨rfl, rfl, rfl⟩⟩
      · exact hnone
  | pay r =>
    obtain ⟨o, ho, hr⟩ := hok
    exact ⟨kept_pay h ho hr, opens_of_returned rfl⟩
  | verify buyerId r payment genuine t =>
    unfold Till.step
    dsimp only
    split
    · exact hnone
    · next o hresolve =>
      obtain ⟨ho, hr⟩ := resolve_eq_some hresolve
      split_ifs
      · exact ⟨kept_visit h ho (writes_verify h ho hr (hok o hresolve)), opens_of_returned rfl⟩
      · exact hnone
  | paymentCaptured r payment a t answer =>
    unfold Till.step
    dsimp only
    split
    · exact hnone
    · next o hresolve =>
      obtain ⟨ho, -⟩ := resolve_eq_some hresolve
      split_ifs
      · exact ⟨kept_visit h ho (writes_webhook h ho (hok o hresolve) a t), opens_of_returned rfl⟩
      · exact hnone
  | paymentFailed r =>
    unfold Till.step
    dsimp only
    split
    · exact hnone
    · next o hresolve =>
      obtain ⟨ho, -⟩ := resolve_eq_some hresolve
      unfold Storefront.paymentFailed
      split_ifs with hs
      · exact ⟨kept_write h ho (writes_status h ho hs .paymentFailed 0), opens_of_returned rfl⟩
      · exact ⟨kept_write h ho (writes_same h ho 0), opens_of_returned rfl⟩
  | tick id t =>
    unfold Till.step
    dsimp only
    split
    · exact hnone
    · next o hlookup =>
      obtain ⟨ho, -⟩ := Table.lookup_eq_some hlookup
      split
      · exact hnone
      · next payment hpayment =>
        exact ⟨kept_visit h ho (writes_tick h ho hpayment t), opens_of_returned rfl⟩
  | poll id answer =>
    unfold Till.step
    dsimp only
    split
    · exact hnone
    · next o hlookup =>
      obtain ⟨ho, -⟩ := Table.lookup_eq_some hlookup
      exact ⟨kept_write h ho (writes_sync h ho answer 0), opens_of_returned rfl⟩
  | expire id aged =>
    unfold Till.step
    dsimp only
    split
    · exact hnone
    · next o hlookup =>
      obtain ⟨ho, -⟩ := Table.lookup_eq_some hlookup
      unfold expireStale
      split_ifs with hs
      · exact ⟨kept_write h ho (writes_status h ho hs.1 .expired 0), opens_of_returned rfl⟩
      · exact ⟨kept_write h ho (writes_same h ho 0), opens_of_returned rfl⟩

/-! ## Runs -/

theorem kept_empty : Till.empty.Kept := by
  refine ⟨rfl, Gateway.Genuine.empty, Gateway.wellFormed_of_nil rfl, ?_, ?_, ?_, ?_, ?_, ?_⟩ <;>
    simp [Till.empty, Gateway.empty]

/-- **A transfer is never paid twice**, in every run in which the guards read the payments there
are: no Razorpay order is opened for a charged transfer, and a paid one leads to its transfer. -/
theorem never_paid_twice {ops : List TillOp}
    (hok : Meets (Till.step c others) Till.Plain .empty ops) :
    AllSteps (Till.step c others) (fun s _ s' => s.OpensUncharged s' ∧ s'.Resolves) .empty ops :=
  allSteps_of_inv (fun s op (h : s.Kept) (hl : s.Plain op) => (till_step h hl).1)
    (fun _ _ h hl => ⟨(till_step h hl).2, (till_step h hl).1.resolves⟩) kept_empty hok

/-! ## Runs that break it -/

/-- The buyer opens a checkout for a transfer and pays. -/
def paidCheckout : List TillOp := [.create 0 0 0 true 79900 0, .pay 0]

theorem never_paid_twice_verify :
    AllSteps (Till.step .ascii fun _ => []) (fun s _ s' => s.OpensUncharged s' ∧ s'.Resolves) .empty
      (paidCheckout ++ [.verify 0 0 0 true (.accepts 1)]) := by
  refine never_paid_twice ⟨?_, ?_, ?_, trivial⟩
  · rintro payment ⟨r, o, ho, -⟩
    exact absurd ho (by simp [Till.empty])
  · exact ⟨_, List.mem_singleton_self _, rfl⟩
  · intro o _
    exact .inr (.inr (.inr fun _ h => absurd h (by simp [TransferAnswers.accepts])))

/-- **A second checkout for a paid transfer**: the webhook comes first, and the row it leaves does
not stop the buyer. **A payment that nobody finds**: the buyer pays the Razorpay order of the first
click after a retry. -/
theorem opened_while_paid :
    ¬ AllSteps (Till.step .ascii fun _ => []) (fun s _ s' => s.OpensUncharged s' ∧ s'.Resolves)
        .empty (paidCheckout ++ [.paymentCaptured 0 0 (.registers 1 true) (.accepts 1) none,
          .create 0 0 0 true 79900 0]) ∧
      ¬ AllSteps (Till.step .ascii fun _ => []) (fun s _ s' => s.OpensUncharged s' ∧ s'.Resolves)
        .empty [.create 0 0 0 true 79900 0, .retry 0 0 1, .pay 0] := by
  constructor
  · rintro ⟨-, -, -, ⟨hopens, -⟩, -⟩
    generalize hs : Till.step .ascii (fun _ => []) (Till.step .ascii (fun _ => [])
      (Till.step .ascii (fun _ => []) .empty (.create 0 0 0 true 79900 0)) (.pay 0))
      (.paymentCaptured 0 0 (.registers 1 true) (.accepts 1) none) = s at hopens
    have hnew : ∃ o ∈ (Till.step .ascii (fun _ => []) s (.create 0 0 0 true 79900 0)).rows,
        (1, o.id) ∈ (Till.step .ascii (fun _ => []) s (.create 0 0 0 true 79900 0)).returned ∧
          (1, o.id) ∉ s.returned ∧ o.buyerId = 0 ∧ o.fqdn = 0 := by
      rw [← hs]
      decide
    have hcharged : ∃ o ∈ s.rows, (0, o.id) ∈ s.returned ∧ o.buyerId = 0 ∧ o.fqdn = 0 ∧
        (0, 0) ∈ s.gateway.captured ∧ (s.payments 0).fullyRefunded = false := by
      rw [← hs]
      decide
    obtain ⟨o, ho, hret, hnot, hbuyer, hfqdn⟩ := hnew
    refine hopens 1 o ho hret hnot 0 ?_
    rw [hbuyer, hfqdn]
    exact ⟨0, hcharged⟩
  · rintro ⟨-, -, ⟨-, hresolves⟩, -⟩
    generalize hs : Till.step .ascii (fun _ => []) (Till.step .ascii (fun _ => [])
      (Till.step .ascii (fun _ => []) .empty (.create 0 0 0 true 79900 0)) (.retry 0 0 1))
      (.pay 0) = s at hresolves
    have hpaid : (0, 0) ∈ s.returned ∧ (0, 0) ∈ s.gateway.captured ∧ s.resolve 0 = none := by
      rw [← hs]
      decide
    obtain ⟨o, ho, -⟩ := hresolves 0 0 0 hpaid.1 hpaid.2.1
    exact absurd (hpaid.2.2.symm.trans ho) (by simp)

end Deltapreneur.Storefront
