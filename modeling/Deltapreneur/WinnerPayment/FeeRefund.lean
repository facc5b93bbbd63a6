import Deltapreneur.WinnerPayment.Lifecycle

/-!
# The refund of a creation fee

The job `process_reminders_and_forfeits` day after day, against the payments as Razorpay knows them
(`Razorpay.lean`). What the job writes is committed at its end. A job that raises, or that the
scheduler cuts off after 25 seconds, loses what it wrote; the refunds it made stay made.

* `call`: the call of `refund_payment` that a track leads to, and what becomes of it. The state of
  the database is that of `processTrack`, told whether Razorpay answered with a refund.
* `Job.raises`: how many tracks the job got through before it raised.
* `World.refunds` lists the refunds that Razorpay carried out, with the auction forfeited.
* Razorpay captures the amount of the order, which is the amount of the fee row (`Captured`).

Results:

* `forfeit_refunds_once`: in every run of jobs, every auction causes at most one refund and no
  payment is refunded twice; and if no track that is forfeited is misdirected, every refund is of a
  creation fee of its auction, of the auction's kind.
* `community_refunds_domain_fee`: an unpaid community auction takes back the fee of a domain auction.
-/

namespace Deltapreneur.WinnerPayment

open EdgePoints Marketplace Auction Razorpay

/-! ## The job and the gateway -/

/-- A refund that Razorpay carried out on account of an auction. -/
structure Refund where
  payment : PaymentId
  auction : AuctionRef
  deriving Repr, DecidableEq

structure World where
  state : State
  /-- What `client.payment.fetch` returns. -/
  payments : PaymentId → Payment
  refunds : List Refund

structure Job where
  env : Tick
  /-- What becomes of the refund call for an auction. -/
  net : AuctionRef → RefundNetwork
  /-- The job raises after so many tracks. -/
  raises : Option Nat

/-- The payment and the amount for which `refund_creation_fee_if_any` calls Razorpay. -/
def refundDue (s : State) (row : TrackRow) : Option (PaymentId × Paise) :=
  row.track.sellerUserId.bind fun seller =>
    let type := forfeitFeeType row.key.auctionType
    if ((s.settings.getTrack ⟨type, row.key.auction⟩).getD .empty).creationFeeRefundedAt.isSome then
      none
    else (creationFeeRow s.db.fees type row.key.auction seller).bind fun f =>
      f.razorpayPaymentId.map fun payment => (payment, f.feeAmount)

/-- The call of `refund_payment` in a turn of the loop: the payment, and what comes of it. -/
def call (w : World) (row : TrackRow) (job : Job) :
    Option (PaymentId × RefundReply × Payment × Bool) :=
  if row.track.overdue job.env.now then
    (refundDue w.state row).map fun due =>
      (due.1, refundPayment (w.payments due.1) due.2 (job.net row.key.auction))
  else none

/-- Razorpay answers with a refund. -/
def isRefund : RefundReply → Bool
  | .refund _ _ => true
  | _ => false

def turn (job : Job) (w : World) (row : TrackRow) : World where
  state := (processTrack w.state row { job.env with
    refunds := (call w row job).any fun c => isRefund c.2.1 }).1
  payments :=
    match call w row job with
    | none => w.payments
    | some c => Function.update w.payments c.1 c.2.2.1
  refunds := w.refunds ++
    match call w row job with
    | none => []
    | some c => if c.2.2.2 then [⟨c.1, row.key.auction⟩] else []

/-- The tracks that the job gets through. -/
def taken (w : World) (job : Job) : List TrackRow :=
  match job.raises with
  | none => w.state.settings.listOpenTracks
  | some n => w.state.settings.listOpenTracks.take n

/-- One run of the job: what a job that raises wrote is rolled back. -/
def tick (w : World) (job : Job) : World :=
  let after := Run.exec (turn job) w (taken w job)
  { after with state := if job.raises.isSome then w.state else after.state }

/-! ## The right fee -/

/-- The payment is that of a creation fee for the auction, of the auction's kind. -/
def RightFee (fees : List FeePayment) (r : Refund) : Prop :=
  ∃ f ∈ fees, f.paymentKind = .creation ∧ f.razorpayPaymentId = some r.payment ∧
    f.auctionType = r.auction.kind ∧ f.auctionId = some r.auction.id

/-- The creation fee of the seller that is looked for is one for the auction itself. -/
def ownFee (auctionType : FeeAuctionType) (auction : AuctionRef) (seller : UserId) (f : FeePayment) :
    Bool :=
  paidCreationFee auctionType seller f &&
    (auctionType = auction.kind && f.auctionId = some auction.id)

/-- The seller has paid no creation fee of the type looked for with this auction's id, but has paid
one of that type for something else. -/
def misdirected (fees : List FeePayment) (row : TrackRow) : Bool :=
  row.track.sellerUserId.any fun seller =>
    let type := forfeitFeeType row.key.auctionType
    !fees.any (ownFee type row.key.auction seller) && fees.any (paidCreationFee type seller)

/-- The job forfeits no track that is misdirected. -/
def directed (w : World) (job : Job) : Bool :=
  (taken w job).all fun row =>
    !(row.track.overdue job.env.now && misdirected w.state.db.fees row)

variable {fees : List FeePayment} {type : FeeAuctionType} {auction : AuctionRef} {seller : UserId}
  {f : FeePayment}

theorem creationFeeRow_mem (h : creationFeeRow fees type auction seller = some f) :
    f ∈ fees ∧ paidCreationFee type seller f = true := by
  unfold creationFeeRow at h
  split at h
  · next row hrow =>
    cases h
    have hmem := List.mem_filter.mp (List.mem_of_getLast? hrow)
    simp only [Bool.and_eq_true] at hmem
    exact ⟨hmem.1, hmem.2.1⟩
  · exact List.mem_filter.mp (List.mem_of_getLast? h)

theorem creationFeeRow_own (h : creationFeeRow fees type auction seller = some f)
    (hown : fees.any (ownFee type auction seller) = true) : ownFee type auction seller f = true := by
  unfold creationFeeRow at h
  split at h
  · next row hrow =>
    cases h
    exact (List.mem_filter.mp (List.mem_of_getLast? hrow)).2
  · next hnone =>
    obtain ⟨g, hg, hgown⟩ := List.any_eq_true.mp hown
    rw [List.getLast?_eq_none_iff, List.filter_eq_nil_iff] at hnone
    exact absurd hgown (hnone g hg)

/-! ## Calls -/

variable {w : World} {row : TrackRow} {job : Job} {c : PaymentId × RefundReply × Payment × Bool}

theorem call_eq_some (h : call w row job = some c) :
    row.track.overdue job.env.now = true ∧ ∃ seller f, row.track.sellerUserId = some seller ∧
      creationFeeRow w.state.db.fees (forfeitFeeType row.key.auctionType) row.key.auction seller =
        some f ∧ f.razorpayPaymentId = some c.1 ∧
      c.2 = refundPayment (w.payments c.1) f.feeAmount (job.net row.key.auction) := by
  unfold call at h
  split_ifs at h with hover
  obtain ⟨due, hdue, rfl⟩ := Option.map_eq_some_iff.mp h
  unfold refundDue at hdue
  obtain ⟨seller, hseller, hdue⟩ := Option.bind_eq_some_iff.mp hdue
  dsimp only at hdue
  split_ifs at hdue
  obtain ⟨f, hf, hdue⟩ := Option.bind_eq_some_iff.mp hdue
  obtain ⟨payment, hpay, rfl⟩ := Option.map_eq_some_iff.mp hdue
  exact ⟨hover, seller, f, hseller, hf, hpay, rfl⟩

/-! ## Tracks -/

/-- An open track is stored under the kind of its auction, and names the seller that `sellers`
does. -/
def Steady (sellers : AuctionRef → Option UserId) (st : Settings) : Prop :=
  ∀ row ∈ st.tracks, row.track.isOpen = true →
    row.key.auctionType = row.key.auction.kind ∧ row.track.sellerUserId = sellers row.key.auction

variable {sellers : AuctionRef → Option UserId} {s : State} {key : TrackKey}
  {t : Track} {env : Tick}

theorem undated_steady (sellers : AuctionRef → Option UserId) : Undated fun key t =>
    key.auctionType = key.auction.kind ∧ t.sellerUserId = sellers key.auction :=
  ⟨fun _ _ _ h => h, fun _ _ _ h => h⟩

theorem steady_processTrack (h : Steady sellers s.settings)
    (hrow : row.key.auctionType = row.key.auction.kind ∧
      row.track.sellerUserId = sellers row.key.auction) :
    Steady sellers (processTrack s row env).1.settings :=
  Settings.OpenTracks.processTrack (undated_steady sellers) h hrow

/-! ## The invariant -/

/-- The payment that a forfeiture of the auction asks to refund. -/
def feePayment (fees : List FeePayment) (sellers : AuctionRef → Option UserId) (auction : AuctionRef) :
    Option PaymentId :=
  (sellers auction).bind fun seller =>
    (creationFeeRow fees (forfeitFeeType auction.kind) auction seller).bind
      FeePayment.razorpayPaymentId

/-- Razorpay captured the amount of the fee. -/
def Captured (fees : List FeePayment) (payments : PaymentId → Payment) : Prop :=
  ∀ f ∈ fees, ∀ payment, f.razorpayPaymentId = some payment → (payments payment).amount = f.feeAmount

/-- Fees, sellers and captured amounts stay, and every refund is the whole refund of the payment that
the fees and the seller name. -/
structure Inv (fees : List FeePayment) (sellers : AuctionRef → Option UserId) (w : World) : Prop where
  table : w.state.db.fees = fees
  steady : Steady sellers w.state.settings
  captured : Captured fees w.payments
  named : ∀ r ∈ w.refunds, feePayment fees sellers r.auction = some r.payment
  refunded : ∀ r ∈ w.refunds, (w.payments r.payment).fullyRefunded = true
  nodup : (w.refunds.map Refund.payment).Nodup

/-- What the loop knows of a track. -/
def Known (sellers : AuctionRef → Option UserId) (row : TrackRow) : Prop :=
  row.key.auctionType = row.key.auction.kind ∧ row.track.sellerUserId = sellers row.key.auction

theorem turn_refunds (job : Job) (w : World) (row : TrackRow) :
    (turn job w row).refunds = w.refunds ∨
      ∃ c, call w row job = some c ∧ c.2.2.2 = true ∧
        (turn job w row).refunds = w.refunds ++ [⟨c.1, row.key.auction⟩] := by
  simp only [turn]
  cases hcall : call w row job with
  | none => exact .inl (List.append_nil _)
  | some c =>
    cases hc : c.2.2.2 with
    | false => exact .inl (by simp [hc])
    | true => exact .inr ⟨c, rfl, hc, by simp [hc]⟩

theorem turn_payments (job : Job) (w : World) (row : TrackRow) :
    (turn job w row).payments = w.payments ∨
      ∃ c, call w row job = some c ∧
        (turn job w row).payments = Function.update w.payments c.1 c.2.2.1 := by
  simp only [turn]
  cases call w row job with
  | none => exact .inl rfl
  | some c => exact .inr ⟨c, rfl, rfl⟩

/-- The record of a payment after a turn: its amount stays, and so does a refund. -/
theorem turn_payment (job : Job) (w : World) (row : TrackRow) (payment : PaymentId) :
    ((turn job w row).payments payment).amount = (w.payments payment).amount ∧
      ((w.payments payment).fullyRefunded = true →
        ((turn job w row).payments payment).fullyRefunded = true) := by
  rcases turn_payments job w row with h | ⟨c, hcall, h⟩
  · rw [h]
    exact ⟨rfl, fun hr => hr⟩
  · obtain ⟨-, seller, f, -, -, -, hc⟩ := call_eq_some hcall
    rw [h]
    by_cases hp : payment = c.1
    · subst hp
      rw [Function.update_self, hc]
      refine ⟨refundPayment_amount, fun hr => ?_⟩
      rw [refundPayment_again hr]
      exact hr
    · rw [Function.update_of_ne hp]
      exact ⟨rfl, fun hr => hr⟩

theorem inv_turn (h : Inv fees sellers w) (hrow : Known sellers row) :
    Inv fees sellers (turn job w row) := by
  have hcaptured : Captured fees (turn job w row).payments := by
    intro f hf payment hpay
    rw [(turn_payment job w row payment).1]
    exact h.captured f hf payment hpay
  have hfees : (turn job w row).state.db.fees = fees := processTrack_fees.trans h.table
  have hsteady : Steady sellers (turn job w row).state.settings := steady_processTrack h.steady hrow
  have hold : ∀ r ∈ w.refunds, ((turn job w row).payments r.payment).fullyRefunded = true :=
    fun r hr => (turn_payment job w row r.payment).2 (h.refunded r hr)
  rcases turn_refunds job w row with hsame | ⟨c, hcall, hdone, hnew⟩
  · refine ⟨hfees, hsteady, hcaptured, ?_, ?_, ?_⟩
    · rw [hsame]
      exact h.named
    · rw [hsame]
      exact hold
    · rw [hsame]
      exact h.nodup
  · obtain ⟨-, seller, f, hseller, hf, hpay, hc⟩ := call_eq_some hcall
    rw [h.table] at hf
    -- the fee covers the whole payment, so the payment was open and is refunded now
    have hamount : (w.payments c.1).amount ≤ f.feeAmount :=
      (h.captured f (creationFeeRow_mem hf).1 c.1 hpay).le
    have hprocessed := hdone
    rw [hc] at hprocessed
    obtain ⟨hopen, hfull⟩ := refundPayment_full hamount hprocessed
    have hnow : ((turn job w row).payments c.1).fullyRefunded = true := by
      have heq : (turn job w row).payments = Function.update w.payments c.1 c.2.2.1 := by
        simp only [turn, hcall]
      rw [heq, Function.update_self, hc]
      exact hfull
    have hnamed : feePayment fees sellers row.key.auction = some c.1 := by
      unfold feePayment
      rw [← hrow.2, hseller, ← hrow.1]
      show (creationFeeRow fees (forfeitFeeType row.key.auctionType) row.key.auction seller).bind
        FeePayment.razorpayPaymentId = some c.1
      rw [hf]
      exact hpay
    refine ⟨hfees, hsteady, hcaptured, fun r hr => ?_, fun r hr => ?_, ?_⟩
    · rw [hnew] at hr
      rcases List.mem_append.mp hr with hr | hr
      · exact h.named r hr
      · obtain rfl := List.mem_singleton.mp hr
        exact hnamed
    · rw [hnew] at hr
      rcases List.mem_append.mp hr with hr | hr
      · exact hold r hr
      · obtain rfl := List.mem_singleton.mp hr
        exact hnow
    · rw [hnew, List.map_append, List.map_singleton]
      refine List.nodup_append.mpr ⟨h.nodup, List.nodup_singleton _, fun p hp q hq heq => ?_⟩
      obtain rfl := List.mem_singleton.mp hq
      obtain ⟨r, hr, rfl⟩ := List.mem_map.mp hp
      have hpaid := h.refunded r hr
      rw [heq, hopen] at hpaid
      cases hpaid

/-- A forfeiture that is not misdirected refunds the right fee. -/
theorem right_turn (h : Inv fees sellers w) (hright : ∀ r ∈ w.refunds, RightFee fees r)
    (hrow : row.track.overdue job.env.now = true → misdirected fees row = false) :
    ∀ r ∈ (turn job w row).refunds, RightFee fees r := by
  intro r hr
  rcases turn_refunds job w row with hsame | ⟨c, hcall, -, hnew⟩
  · exact hright r (hsame ▸ hr)
  rw [hnew] at hr
  rcases List.mem_append.mp hr with hr | hr
  · exact hright r hr
  obtain rfl := List.mem_singleton.mp hr
  obtain ⟨hover, seller, f, hseller, hf, hpay, -⟩ := call_eq_some hcall
  rw [h.table] at hf
  obtain ⟨hmem, hpaid⟩ := creationFeeRow_mem hf
  have hdirected := hrow hover
  have hsome : fees.any (paidCreationFee (forfeitFeeType row.key.auctionType) seller) = true :=
    List.any_eq_true.mpr ⟨f, hmem, hpaid⟩
  simp only [misdirected, hseller, Option.any_some, hsome, Bool.and_true, Bool.not_eq_false']
    at hdirected
  have hown := creationFeeRow_own hf hdirected
  simp only [ownFee, paidCreationFee, Bool.and_eq_true, decide_eq_true_eq] at hown
  exact ⟨f, hmem, hown.1.1.1.1, hpay, hown.1.1.1.2.trans hown.2.1, hown.2.2⟩

/-! ## Runs of jobs -/

theorem known_taken (h : Steady sellers w.state.settings) : ∀ row ∈ taken w job, Known sellers row := by
  intro row hrow
  have hmem : row ∈ w.state.settings.listOpenTracks := by
    unfold taken at hrow
    split at hrow
    · exact hrow
    · exact List.mem_of_mem_take hrow
  obtain ⟨htracks, hopen⟩ := List.mem_filter.mp hmem
  exact h row htracks hopen

/-- **The job keeps the invariant**, whether it raises or not. -/
theorem inv_tick (h : Inv fees sellers w) : Inv fees sellers (tick w job) := by
  have hloop : Inv fees sellers (Run.exec (turn job) w (taken w job)) :=
    Run.exec_inv (fun w row hw hrow => inv_turn hw hrow) h
      (Run.meets_of_forall w (known_taken h.steady))
  unfold tick
  dsimp only
  split_ifs
  · exact ⟨h.table, h.steady, hloop.captured, hloop.named, hloop.refunded, hloop.nodup⟩
  · exact hloop

theorem right_tick (h : Inv fees sellers w) (hright : ∀ r ∈ w.refunds, RightFee fees r)
    (hjob : directed w job = true) : ∀ r ∈ (tick w job).refunds, RightFee fees r := by
  have hrows : ∀ row ∈ taken w job, Known sellers row ∧
      (row.track.overdue job.env.now = true → misdirected fees row = false) := by
    intro row hrow
    refine ⟨known_taken h.steady row hrow, fun hover => ?_⟩
    have hall := List.all_eq_true.mp hjob row hrow
    rw [hover, h.table] at hall
    simpa using hall
  exact (Run.exec_inv (P := fun w => Inv fees sellers w ∧ ∀ r ∈ w.refunds, RightFee fees r)
    (fun w row hw hrow => ⟨inv_turn hw.1 hrow.1, right_turn hw.1 hw.2 hrow.2⟩) ⟨h, hright⟩
    (Run.meets_of_forall w hrows)).2

/-- All refunds of an auction are of one payment. -/
theorem Inv.once (h : Inv fees sellers w) (auction : AuctionRef) :
    (w.refunds.filter fun r => r.auction = auction).length ≤ 1 := by
  have hnd : ((w.refunds.filter fun r => r.auction = auction).map Refund.payment).Nodup :=
    h.nodup.sublist (List.filter_sublist.map _)
  have hsame : ∀ p ∈ (w.refunds.filter fun r => r.auction = auction).map Refund.payment,
      feePayment fees sellers auction = some p := by
    intro p hp
    obtain ⟨r, hr, rfl⟩ := List.mem_map.mp hp
    obtain ⟨hmem, hauction⟩ := List.mem_filter.mp hr
    have heq : r.auction = auction := by simpa using hauction
    exact heq ▸ h.named r hmem
  cases hlist : (w.refunds.filter fun r => r.auction = auction) with
  | nil => exact Nat.zero_le 1
  | cons r rest =>
    cases rest with
    | nil => exact Nat.le_refl 1
    | cons r' rest =>
      rw [hlist] at hnd hsame
      have hr := hsame r.payment (by simp)
      have hr' := hsame r'.payment (by simp)
      simp [Option.some.inj (hr.symm.trans hr')] at hnd

/-- **Forfeiture refunds the right fee, once.** From any set of tracks, stored under unique keys of
their auctions' kinds, and payments captured for the amounts of the fees: in every run of jobs,
raising or not, that forfeit no misdirected track, every auction causes at most one refund, of a
creation fee for it and of its kind, and no payment is refunded twice. -/
theorem forfeit_refunds_once {w : World} (hnew : w.refunds = [])
    (hkeys : (w.state.settings.tracks.map TrackRow.key).Nodup)
    (htypes : ∀ row ∈ w.state.settings.tracks, row.key.auctionType = row.key.auction.kind)
    (hcaptured : Captured w.state.db.fees w.payments) {jobs : List Job}
    (hjobs : Run.Meets tick (fun w job => directed w job = true) w jobs) :
    (∀ auction, ((Run.exec tick w jobs).refunds.filter fun r => r.auction = auction).length ≤ 1) ∧
      (∀ r ∈ (Run.exec tick w jobs).refunds, RightFee w.state.db.fees r) ∧
      ((Run.exec tick w jobs).refunds.map Refund.payment).Nodup := by
  have hsteady : Steady (fun a => (w.state.settings.getTrack ⟨a.kind, a⟩).bind Track.sellerUserId)
      w.state.settings := by
    intro row hrow _
    have htype := htypes row hrow
    refine ⟨htype, ?_⟩
    have hkey : (⟨row.key.auction.kind, row.key.auction⟩ : TrackKey) = row.key := by
      rw [← htype]
    show _ = (w.state.settings.getTrack ⟨row.key.auction.kind, row.key.auction⟩).bind
      Track.sellerUserId
    rw [hkey, Settings.getTrack, Table.lookup_of_mem hkeys hrow]
    rfl
  have hnone : ∀ r, r ∉ w.refunds := by
    intro r
    rw [hnew]
    exact List.not_mem_nil
  have hinit : Inv w.state.db.fees
      (fun a => (w.state.settings.getTrack ⟨a.kind, a⟩).bind Track.sellerUserId) w :=
    ⟨rfl, hsteady, hcaptured, fun r hr => absurd hr (hnone r), fun r hr => absurd hr (hnone r),
      by rw [hnew]; exact List.nodup_nil⟩
  obtain ⟨hinv, hright⟩ := Run.exec_inv
    (P := fun w' => Inv w.state.db.fees
      (fun a => (w.state.settings.getTrack ⟨a.kind, a⟩).bind Track.sellerUserId) w' ∧
      ∀ r ∈ w'.refunds, RightFee w.state.db.fees r)
    (fun w' job hw hjob => ⟨inv_tick hw.1, right_tick hw.1 hw.2 hjob⟩)
    ⟨hinit, fun r hr => absurd hr (hnone r)⟩ hjobs
  exact ⟨hinv.once, hright, hinv.nodup⟩

/-- User 1 won an auction of user 9 and should have paid in the first week. -/
def unpaidTrack (kind : FeeAuctionType) : TrackRow :=
  ⟨⟨kind, ⟨kind, 0⟩⟩, { Track.empty with
    winnerUserId := some 1
    sellerUserId := some 9
    dueAt := some (7 * day) }⟩

/-- The consumed creation fee of user 9 for an auction, 50 rupees, paid with payment `n`. -/
def creationFee (kind : FeeAuctionType) (auction n : Nat) : FeePayment :=
  ⟨.creation, kind, 9, some auction, none, 5000, n, some n, .consumed⟩

/-- An auction of user 9 awaits its payment; the fees are captured. -/
def awaiting (kind : FeeAuctionType) (fees : List FeePayment) : World where
  state := ⟨⟨oneListing, fees, [], [], [], [], []⟩, ⟨[unpaidTrack kind], fun _ => none, []⟩⟩
  payments := fun _ => ⟨.captured, 5000, 0⟩
  refunds := []

/-- The job on the ninth day; Razorpay accepts the refund. -/
def ninthDay (raises : Option Nat) : Job :=
  ⟨⟨9 * day, fun _ => true, true, fun _ => 0⟩, fun _ => .accepted 0, raises⟩

/-- The job raises after the refund; the next one finds the track open and the payment refunded. -/
theorem forfeit_refunds_once_retried :
    (Run.exec tick (awaiting .software [creationFee .software 0 0])
        [ninthDay (some 1), ninthDay none]).refunds = [⟨0, ⟨.software, 0⟩⟩] ∧
      (∀ r ∈ (Run.exec tick (awaiting .software [creationFee .software 0 0])
        [ninthDay (some 1), ninthDay none]).refunds, RightFee [creationFee .software 0 0] r) := by
  refine ⟨by decide, (forfeit_refunds_once rfl (by decide) (by decide) ?_ (by decide)).2.1⟩
  intro f hf payment _
  obtain rfl := List.mem_singleton.mp hf
  rfl

/-- User 9 has paid for domain auction 4 and for community auction 0. The winner of the community
auction does not pay, and the fee of the domain auction goes back. -/
theorem community_refunds_domain_fee :
    let fees := [creationFee .community 0 0, creationFee .domain 4 1]
    let w := Run.exec tick (awaiting .community fees) [ninthDay none]
    w.refunds = [⟨1, ⟨.community, 0⟩⟩] ∧ ¬ ∀ r ∈ w.refunds, RightFee fees r := by
  have hrefunds : (Run.exec tick (awaiting .community
      [creationFee .community 0 0, creationFee .domain 4 1]) [ninthDay none]).refunds =
      [⟨1, ⟨.community, 0⟩⟩] := by
    decide
  refine ⟨hrefunds, fun h => ?_⟩
  obtain ⟨f, hf, -, hpay, htype, -⟩ := h ⟨1, ⟨.community, 0⟩⟩ (by rw [hrefunds]; simp)
  rcases List.mem_cons.mp hf with rfl | hf
  · exact absurd hpay (by decide)
  · obtain rfl := List.mem_singleton.mp hf
    exact absurd htype (by decide)

end Deltapreneur.WinnerPayment
