import Deltapreneur.Services

/-!
# The winner's payment window

Model of `WinnerPaymentLifecycleAsync` (`app/service/auction/winner_payment_lifecycle.py`): tracks
of unpaid wins and bidding blocks, kept as JSON in `platform_settings`, and the daily job
`process_reminders_and_forfeits` over them.

* Auction ids are `uuid`s, different for auctions of different services: `AuctionRef`. A track is
  stored under a type and an id (`TrackKey`). The type is DOMAIN, SOFTWARE or COMMUNITY; the job
  also knows TECHNOLOGY and CREATOR, which nobody writes.
* The key is repeated inside the JSON of a track; `payPath` is only text of mails. Both are left
  out.
* The server's clock runs in UTC, so `date.today()` and the UTC date agree.
* Mails and refunds leave the database: they are `Effect`s of the job.

Results:

* `mem_processRemindersAndForfeits`: every effect of the job is about the auction of a track that
  was open when the job started and due for that effect; a fee that goes back is the one that
  `feeGivenBack` names for the track.
* `processTrack_db`, `Settings.OpenTracks.processTracks`: what the job writes.
-/

namespace Deltapreneur.WinnerPayment

open EdgePoints Marketplace Auction

/-! ## Settings -/

/-- An auction of any service. -/
structure AuctionRef where
  kind : FeeAuctionType
  id : AuctionId
  deriving Repr, DecidableEq

/-- `_track_key`. -/
structure TrackKey where
  auctionType : FeeAuctionType
  auction : AuctionRef
  deriving Repr, DecidableEq

/-- `creationFeeRefundedAt`: a time, or the text `skipped_no_payment`. -/
inductive FeeRefund
  | refunded (now : Time)
  | skippedNoPayment
  deriving Repr, DecidableEq

/-- The JSON of a track. -/
structure Track where
  winnerUserId : Option UserId
  sellerUserId : Option UserId
  winningAmount : Paise
  title : String
  dueAt : Option Time
  winEmailSentAt : Option Time
  /-- A date, in days since the epoch. -/
  reminderSentOn : Option Nat
  forfeitedAt : Option Time
  zeroBid : Bool
  zeroBidNoticeSentAt : Option Time
  creationFeeRefundedAt : Option FeeRefund
  deriving Repr, DecidableEq

def Track.empty : Track := ⟨none, none, 0, "", none, none, none, none, false, none, none⟩

structure TrackRow where
  key : TrackKey
  track : Track
  deriving Repr, DecidableEq

/-- The JSON of a bidding block. -/
structure Block where
  reason : String
  auction : TrackKey
  blockedAt : Time
  unblockedAt : Option Time
  deriving Repr, DecidableEq

/-- The rows of `platform_settings` under `wpt:`, `bidblock:` and `bidblock_index`. -/
structure Settings where
  tracks : List TrackRow
  blocks : UserId → Option Block
  blockIndex : List UserId

def Settings.empty : Settings := ⟨[], fun _ => none, []⟩

/-- `get_track`. -/
def Settings.getTrack (st : Settings) (key : TrackKey) : Option Track :=
  (Table.lookup TrackRow.key key st.tracks).map TrackRow.track

/-- `_set` of a track. -/
def Settings.setTrack (st : Settings) (key : TrackKey) (t : Track) : Settings :=
  { st with tracks :=
      if (st.getTrack key).isSome then
        Table.update TrackRow.key key (fun row => { row with track := t }) st.tracks
      else st.tracks ++ [⟨key, t⟩] }

/-- `block_user`. -/
def Settings.blockUser (st : Settings) (user : UserId) (b : Block) : Settings :=
  { st with
    blocks := Function.update st.blocks user (some b)
    blockIndex := if user ∈ st.blockIndex then st.blockIndex else st.blockIndex ++ [user] }

/-! ## Dates -/

/-- The UTC date of a time. -/
def dayOf (t : Time) : Nat := t / day

/-- `days_left_until`. -/
def daysLeftUntil (due now : Time) : Int := (dayOf due : Int) - dayOf now

/-- `PAYMENT_WINDOW_DAYS`. -/
def paymentWindowDays : Nat := 7

/-! ## The end of an auction -/

/-- `start_winner_window`. -/
def Settings.startWinnerWindow (st : Settings) (key : TrackKey) (winner seller : Option UserId)
    (amount : Paise) (title : String) (now : Time) : Settings :=
  st.setTrack key { Track.empty with
    winnerUserId := winner
    sellerUserId := seller
    winningAmount := amount
    title := title
    dueAt := some (now + paymentWindowDays * day) }

/-- `mark_win_email_sent`. -/
def Settings.markWinEmailSent (st : Settings) (key : TrackKey) (now : Time) : Settings :=
  st.setTrack key { (st.getTrack key).getD .empty with winEmailSentAt := some now }

/-- `mark_zero_bid_notice_sent`: a track of an earlier round is kept as it is. -/
def Settings.markZeroBidNoticeSent (st : Settings) (key : TrackKey) (seller : UserId)
    (title : String) (now : Time) : Settings :=
  let t := (st.getTrack key).getD { Track.empty with zeroBid := true }
  if t.zeroBidNoticeSentAt.isSome then st
  else st.setTrack key
    { t with zeroBidNoticeSentAt := some now, sellerUserId := some seller, title := title }

/-! ## The daily job -/

/-- What the job does outside the database, and the blocks. -/
inductive Effect
  | block (user : UserId) (auction : AuctionRef)
  | reminder (user : UserId) (auction : AuctionRef)
  /-- A creation fee of the seller goes back, with the auction it was paid for. -/
  | refund (payment : PaymentId) (amount : Paise) (auction : AuctionRef) (paidFor : Option AuctionRef)
  deriving Repr, DecidableEq

/-- The auction on account of which it happens. -/
def Effect.auction : Effect → AuctionRef
  | .block _ a | .reminder _ a | .refund _ _ a _ => a

/-- The auction whose creation fee goes back. -/
def Effect.feeOf : Effect → Option AuctionRef
  | .block _ _ | .reminder _ _ => none
  | .refund _ _ _ paidFor => paidFor

/-- What a run of the job finds around it. -/
structure Tick where
  now : Time
  /-- The user exists, has an address, and the mail goes out. -/
  mails : UserId → Bool
  /-- Razorpay carries out a refund. -/
  refunds : Bool
  /-- The price of a listing that goes back to direct sale. -/
  price : ListingId → Paise

/-- The database and the settings. -/
structure State where
  db : Services.Db
  settings : Settings

/-- `list_open_tracks` takes the track. -/
def Track.isOpen (t : Track) : Bool := t.forfeitedAt.isNone && !t.zeroBid && t.dueAt.isSome

def Track.overdue (t : Track) (now : Time) : Bool :=
  t.dueAt.any fun due => daysLeftUntil due now < 0

/-- `try_send_daily_reminder` sends a mail, and to whom. -/
def Track.reminds (t : Track) (env : Tick) : Option UserId :=
  if t.reminderSentOn = some (dayOf env.now) ∨ t.winEmailSentAt.map dayOf = some (dayOf env.now) then
    none
  else t.winnerUserId.filter env.mails

/-- `list_open_tracks`. -/
def Settings.listOpenTracks (st : Settings) : List TrackRow := st.tracks.filter (·.track.isOpen)

/-- `try_send_daily_reminder` on an open track that is not overdue. -/
def trySendDailyReminder (s : State) (row : TrackRow) (env : Tick) : State × List Effect :=
  match row.track.reminds env with
  | none => (s, [])
  | some winner =>
    ({ s with settings :=
        s.settings.setTrack row.key { row.track with reminderSentOn := some (dayOf env.now) } },
      [.reminder winner row.key.auction])

def paidCreationFee (auctionType : FeeAuctionType) (seller : UserId) (f : FeePayment) : Bool :=
  f.paymentKind = .creation && f.auctionType = auctionType && f.userId = seller &&
    (f.status = .completed || f.status = .consumed)

/-- The fee row a refund takes: the latest of the auction, else the latest of the seller. -/
def creationFeeRow (fees : List FeePayment) (auctionType : FeeAuctionType) (auction : AuctionRef)
    (seller : UserId) : Option FeePayment :=
  match (fees.filter fun f => paidCreationFee auctionType seller f &&
      (auctionType = auction.kind && f.auctionId = some auction.id)).getLast? with
  | some row => some row
  | none => (fees.filter (paidCreationFee auctionType seller)).getLast?

/-- The auction that a creation fee was used for. -/
def feeAuction (f : FeePayment) : Option AuctionRef := f.auctionId.map fun id => ⟨f.auctionType, id⟩

/-- `refund_creation_fee_if_any`. -/
def refundCreationFeeIfAny (s : State) (auctionType : FeeAuctionType) (auction : AuctionRef)
    (seller : UserId) (env : Tick) : State × List Effect :=
  let key : TrackKey := ⟨auctionType, auction⟩
  let t := (s.settings.getTrack key).getD .empty
  let mark (r : FeeRefund) : State :=
    { s with settings := s.settings.setTrack key { t with creationFeeRefundedAt := some r } }
  if t.creationFeeRefundedAt.isSome then (s, [])
  else match creationFeeRow s.db.fees auctionType auction seller with
    | none => (mark .skippedNoPayment, [])
    | some row =>
      match row.razorpayPaymentId with
      | none => (mark .skippedNoPayment, [])
      | some payment =>
        if env.refunds then
          (mark (.refunded env.now), [.refund payment row.feeAmount auction (feeAuction row)])
        else (s, [])

/-- The fee type `_forfeit_unpaid_winner` looks for: a COMMUNITY track is taken for a domain's. -/
def forfeitFeeType : FeeAuctionType → FeeAuctionType
  | .software => .software
  | .domain | .community => .domain

/-- The block of a winner who did not pay. -/
def unpaidBlock (row : TrackRow) (now : Time) : Block where
  reason := "Unpaid winning bid on “" ++ (if row.track.title = "" then "auction" else row.track.title)
    ++ "” (" ++ formatInr row.track.winningAmount ++
    "). Contact support / admin to unblacklist."
  auction := row.key
  blockedAt := now
  unblockedAt := none

/-- A domain auction that awaits its payment is marked UNSOLD and its listing released. -/
def forfeitDomain (db : Marketplace.Db) (auction : AuctionId) (price : ListingId → Paise) :
    Marketplace.Db :=
  match db.auctions[auction]? with
  | none => db
  | some a =>
    if a.status = .paymentPending ∨ a.status = .ended then
      (db.editAuction auction fun a => { a with status := .unsold, currentWinnerId := none
        }).restoreAfterNoSale a.domainId (price a.domainId)
    else db

/-- The auction row in `_forfeit_unpaid_winner`; nothing is done for a community auction. -/
def markUnsold (db : Services.Db) (key : TrackKey) (price : ListingId → Paise) : Services.Db :=
  match key.auctionType, key.auction.kind with
  | .domain, .domain => { db with market := forfeitDomain db.market key.auction.id price }
  | .software, .software => db.putAuctions (Software.forfeit db.auctions key.auction.id)
  | _, _ => db

def blockWinner (s : State) (row : TrackRow) (env : Tick) : State × List Effect :=
  match row.track.winnerUserId with
  | none => (s, [])
  | some winner =>
    ({ s with settings := s.settings.blockUser winner (unpaidBlock row env.now) },
      [.block winner row.key.auction])

/-- The seller's fee goes back. -/
def refundSeller (s : State) (row : TrackRow) (env : Tick) : State × List Effect :=
  match row.track.sellerUserId with
  | none => (s, [])
  | some seller =>
    refundCreationFeeIfAny s (forfeitFeeType row.key.auctionType) row.key.auction seller env

/-- `_forfeit_unpaid_winner` on an open track. -/
def forfeitUnpaidWinner (s : State) (row : TrackRow) (env : Tick) : State × List Effect :=
  let blocked := blockWinner s row env
  let unsold := { blocked.1 with db := markUnsold blocked.1.db row.key env.price }
  let refunded := refundSeller unsold row env
  ({ refunded.1 with settings :=
      refunded.1.settings.setTrack row.key { row.track with forfeitedAt := some env.now } },
    blocked.2 ++ refunded.2)

/-- One turn of the loop. -/
def processTrack (s : State) (row : TrackRow) (env : Tick) : State × List Effect :=
  if row.track.overdue env.now then forfeitUnpaidWinner s row env
  else trySendDailyReminder s row env

/-- The loop over the tracks read at the start. -/
def processTracks (env : Tick) : List TrackRow → State → State × List Effect
  | [], s => (s, [])
  | row :: rows, s =>
    let first := processTrack s row env
    let rest := processTracks env rows first.1
    (rest.1, first.2 ++ rest.2)

/-- `process_reminders_and_forfeits`. -/
def processRemindersAndForfeits (s : State) (env : Tick) : State × List Effect :=
  processTracks env s.settings.listOpenTracks s

/-! ## The fee of a forfeited track -/

def Track.acts (t : Track) (env : Tick) : Bool :=
  t.isOpen && (t.overdue env.now || (t.reminds env).isSome)

/-- The fee for the key was dealt with: so says every track under it, and there is one. -/
def Settings.noted (st : Settings) (key : TrackKey) : Bool :=
  (st.tracks.any fun row => row.key = key) &&
    st.tracks.all fun row => row.key ≠ key || row.track.creationFeeRefundedAt.isSome

/-- The auction whose creation fee goes back when the track is forfeited. -/
def feeGivenBack (s : State) (row : TrackRow) (env : Tick) : Option AuctionRef :=
  let type := forfeitFeeType row.key.auctionType
  if s.settings.noted ⟨type, row.key.auction⟩ || !env.refunds then none
  else row.track.sellerUserId.bind fun seller =>
    ((creationFeeRow s.db.fees type row.key.auction seller).filter
      (·.razorpayPaymentId.isSome)).bind feeAuction

variable {s s₀ : State} {row : TrackRow} {env : Tick} {e : Effect} {st : Settings} {key : TrackKey}
  {t : Track}

theorem noted_iff : st.noted key = true ↔ (∃ row ∈ st.tracks, row.key = key) ∧
    ∀ row ∈ st.tracks, row.key = key → row.track.creationFeeRefundedAt.isSome = true := by
  simp [Settings.noted, or_iff_not_imp_left]

theorem getTrack_of_noted (h : st.noted key = true) :
    ((st.getTrack key).getD .empty).creationFeeRefundedAt.isSome = true := by
  obtain ⟨⟨row, hrow, hkey⟩, hall⟩ := noted_iff.mp h
  unfold Settings.getTrack
  cases hfound : Table.lookup TrackRow.key key st.tracks with
  | none => exact absurd hkey (Table.lookup_eq_none.mp hfound row hrow)
  | some found =>
    obtain ⟨hmem, hfound⟩ := Table.lookup_eq_some hfound
    exact hall found hmem hfound

/-- A key stays noted while its tracks do. -/
theorem noted_setTrack {key' : TrackKey} (h : st.noted key = true)
    (ht : key' = key → t.creationFeeRefundedAt.isSome = true) :
    (st.setTrack key' t).noted key = true := by
  obtain ⟨⟨old, hold, hkey⟩, hall⟩ := noted_iff.mp h
  unfold Settings.setTrack
  split_ifs with hin
  · refine noted_iff.mpr ⟨⟨_, List.mem_map_of_mem hold, ?_⟩, fun row hrow hrowkey => ?_⟩
    · split_ifs
      · exact hkey
      · exact hkey
    · obtain ⟨old, hold, rfl⟩ := List.mem_map.mp hrow
      split_ifs at hrowkey ⊢ with heq
      · exact ht (heq.symm.trans hrowkey)
      · exact hall old hold hrowkey
  · refine noted_iff.mpr ⟨⟨old, List.mem_append_left _ hold, hkey⟩, fun row hrow hrowkey => ?_⟩
    rcases List.mem_append.mp hrow with hrow | hrow
    · exact hall row hrow hrowkey
    · obtain rfl := List.mem_singleton.mp hrow
      exact ht hrowkey

/-! ## What a turn writes -/

theorem blockWinner_db : (blockWinner s row env).1.db = s.db := by
  unfold blockWinner
  split <;> rfl

theorem refundSeller_db : (refundSeller s row env).1.db = s.db := by
  unfold refundSeller
  split
  · rfl
  unfold refundCreationFeeIfAny
  dsimp only
  split
  · rfl
  split
  · rfl
  split
  · rfl
  split
  · rfl
  · rfl

/-- **The tables after a turn**: a forfeiture marks the auction, a reminder writes none. -/
theorem processTrack_db : (processTrack s row env).1.db =
    if row.track.overdue env.now = true then markUnsold s.db row.key env.price else s.db := by
  unfold processTrack
  split_ifs
  · unfold forfeitUnpaidWinner
    dsimp only
    rw [refundSeller_db]
    dsimp only
    rw [blockWinner_db]
  · unfold trySendDailyReminder
    split <;> rfl

theorem markUnsold_fees {db : Services.Db} {price : ListingId → Paise} :
    (markUnsold db key price).fees = db.fees := by
  unfold markUnsold
  split
  · rfl
  · unfold Software.forfeit
    split <;> rfl
  · rfl

theorem processTrack_fees : (processTrack s row env).1.db.fees = s.db.fees := by
  rw [processTrack_db]
  split_ifs
  · exact markUnsold_fees
  · rfl

theorem noted_blockWinner (h : s.settings.noted key = true) :
    (blockWinner s row env).1.settings.noted key = true := by
  unfold blockWinner
  split
  · exact h
  · exact h

theorem noted_refundSeller (h : s.settings.noted key = true) :
    (refundSeller s row env).1.settings.noted key = true := by
  unfold refundSeller
  split
  · exact h
  unfold refundCreationFeeIfAny
  dsimp only
  split
  · exact h
  split
  · exact noted_setTrack h fun _ => rfl
  split
  · exact noted_setTrack h fun _ => rfl
  split
  · exact noted_setTrack h fun _ => rfl
  · exact h

theorem noted_processTrack (hrow : row ∈ s₀.settings.tracks) (h₀ : s₀.settings.noted key = true)
    (h : s.settings.noted key = true) : (processTrack s row env).1.settings.noted key = true := by
  have hread : row.key = key → row.track.creationFeeRefundedAt.isSome = true :=
    (noted_iff.mp h₀).2 row hrow
  unfold processTrack
  split_ifs
  · unfold forfeitUnpaidWinner
    dsimp only
    exact noted_setTrack (noted_refundSeller (noted_blockWinner h)) hread
  · unfold trySendDailyReminder
    split
    · exact h
    · exact noted_setTrack h hread

/-! ## Where effects come from -/

/-- The effect is due for the track, and a fee that goes back is the one for the track when the job
started. -/
structure DueFor (s₀ : State) (env : Tick) (row : TrackRow) (e : Effect) : Prop where
  auction : e.auction = row.key.auction
  acts : row.track.acts env = true
  fee : ∀ a, e.feeOf = some a → row.track.overdue env.now = true ∧
    feeGivenBack s₀ row env = some a

/-- How far the loop may have got. -/
structure Since (s₀ s : State) : Prop where
  fees : s.db.fees = s₀.db.fees
  noted : ∀ key, s₀.settings.noted key = true → s.settings.noted key = true

theorem Since.processTrack (h : Since s₀ s) (hrow : row ∈ s₀.settings.tracks) :
    Since s₀ (processTrack s row env).1 :=
  ⟨processTrack_fees.trans h.fees, fun key h₀ => noted_processTrack hrow h₀ (h.noted key h₀)⟩

theorem mem_refundSeller (hsince : Since s₀ s) (h : e ∈ (refundSeller s row env).2) :
    e.auction = row.key.auction ∧ e.feeOf = feeGivenBack s₀ row env := by
  unfold refundSeller at h
  split at h
  · simp at h
  next seller hseller =>
  unfold refundCreationFeeIfAny at h
  dsimp only at h
  split at h
  · simp at h
  next hmark =>
  split at h
  · simp at h
  next f hf =>
  split at h
  · simp at h
  next payment hpay =>
  split at h
  · next hrefunds =>
    rw [List.mem_singleton.mp h]
    refine ⟨rfl, ?_⟩
    -- the key was not noted at the start either
    have hnoted : s₀.settings.noted ⟨forfeitFeeType row.key.auctionType, row.key.auction⟩ ≠ true :=
      fun h₀ => hmark (getTrack_of_noted (hsince.noted _ h₀))
    rw [hsince.fees] at hf
    simp [Effect.feeOf, feeGivenBack, hnoted, hrefunds, hseller, hf, Option.filter, hpay]
  · simp at h

theorem mem_forfeitUnpaidWinner (hsince : Since s₀ s) (hacts : row.track.acts env = true)
    (hover : row.track.overdue env.now = true) (h : e ∈ (forfeitUnpaidWinner s row env).2) :
    DueFor s₀ env row e := by
  unfold forfeitUnpaidWinner at h
  rcases List.mem_append.mp h with hblock | hrefund
  · unfold blockWinner at hblock
    split at hblock
    · simp at hblock
    · rw [List.mem_singleton.mp hblock]
      exact ⟨rfl, hacts, fun a ha => by cases ha⟩
  · have hunsold : Since s₀ { (blockWinner s row env).1 with
        db := markUnsold (blockWinner s row env).1.db row.key env.price } := by
      refine ⟨markUnsold_fees.trans ?_, fun key h₀ => noted_blockWinner (hsince.noted key h₀)⟩
      rw [blockWinner_db]
      exact hsince.fees
    obtain ⟨hauction, hfee⟩ := mem_refundSeller hunsold hrefund
    exact ⟨hauction, hacts, fun a ha => ⟨hover, hfee.symm.trans ha⟩⟩

theorem mem_processTrack (hsince : Since s₀ s) (hopen : row.track.isOpen = true)
    (h : e ∈ (processTrack s row env).2) : DueFor s₀ env row e := by
  unfold WinnerPayment.processTrack at h
  split at h
  · next hover =>
    exact mem_forfeitUnpaidWinner hsince (by simp [Track.acts, hopen, hover]) hover h
  · unfold trySendDailyReminder at h
    split at h
    · simp at h
    · next winner hsome =>
      rw [List.mem_singleton.mp h]
      exact ⟨rfl, by simp [Track.acts, hopen, hsome], fun a ha => by cases ha⟩

theorem mem_processTracks : ∀ {rows : List TrackRow} {s : State}, Since s₀ s →
    (∀ row ∈ rows, row ∈ s₀.settings.tracks ∧ row.track.isOpen = true) →
      e ∈ (processTracks env rows s).2 → ∃ row ∈ rows, DueFor s₀ env row e
  | [], _, _, _, h => absurd h (by simp [processTracks])
  | row :: rows, s, hsince, hrows, h => by
    obtain ⟨hrow, hopen⟩ := hrows row List.mem_cons_self
    rcases List.mem_append.mp h with hfirst | hrest
    · exact ⟨row, List.mem_cons_self, mem_processTrack hsince hopen hfirst⟩
    · obtain ⟨r, hr, hdue⟩ := mem_processTracks (hsince.processTrack hrow)
        (fun r hr => hrows r (List.mem_cons_of_mem row hr)) hrest
      exact ⟨r, List.mem_cons_of_mem row hr, hdue⟩

/-- **Every effect is the due effect of an open track**, and a fee that goes back is that track's. -/
theorem mem_processRemindersAndForfeits (h : e ∈ (processRemindersAndForfeits s env).2) :
    ∃ row ∈ s.settings.tracks, DueFor s env row e := by
  obtain ⟨row, hrow, hdue⟩ := mem_processTracks ⟨rfl, fun _ h => h⟩
    (fun row hrow => List.mem_filter.mp hrow) h
  exact ⟨row, (List.mem_filter.mp hrow).1, hdue⟩

/-! ## What holds of the open tracks -/

/-- `φ` holds of every open track. -/
def Settings.OpenTracks (φ : TrackKey → Track → Prop) (st : Settings) : Prop :=
  ∀ row ∈ st.tracks, row.track.isOpen = true → φ row.key row.track

/-- `φ` does not depend on what the job notes on a track. -/
structure Undated (φ : TrackKey → Track → Prop) : Prop where
  refund : ∀ key t r, φ key t → φ key { t with creationFeeRefundedAt := r }
  reminder : ∀ key t d, φ key t → φ key { t with reminderSentOn := d }

variable {φ : TrackKey → Track → Prop}

theorem Settings.OpenTracks.setTrack (h : st.OpenTracks φ) (ht : t.isOpen = true → φ key t) :
    (st.setTrack key t).OpenTracks φ := by
  intro row hrow hopen
  unfold Settings.setTrack at hrow
  dsimp only at hrow
  split_ifs at hrow
  · obtain ⟨old, hold, rfl⟩ := List.mem_map.mp hrow
    split_ifs at hopen ⊢ with hkey
    · exact hkey ▸ ht hopen
    · exact h old hold hopen
  · rcases List.mem_append.mp hrow with hrow | hrow
    · exact h row hrow hopen
    · obtain rfl := List.mem_singleton.mp hrow
      exact ht hopen

theorem Settings.OpenTracks.getTrack (h : st.OpenTracks φ)
    (hopen : ((st.getTrack key).getD .empty).isOpen = true) :
    φ key ((st.getTrack key).getD .empty) := by
  unfold Settings.getTrack at hopen ⊢
  cases hrow : Table.lookup TrackRow.key key st.tracks with
  | none =>
    rw [hrow] at hopen
    cases hopen
  | some row =>
    rw [hrow] at hopen
    obtain ⟨hmem, rfl⟩ := Table.lookup_eq_some hrow
    exact h row hmem hopen

theorem Settings.OpenTracks.refundSeller (hφ : Undated φ) (h : s.settings.OpenTracks φ) :
    (refundSeller s row env).1.settings.OpenTracks φ := by
  unfold WinnerPayment.refundSeller
  split
  · exact h
  unfold refundCreationFeeIfAny
  dsimp only
  have hmark (key : TrackKey) (r : FeeRefund) : (s.settings.setTrack key
      { (s.settings.getTrack key).getD .empty with
        creationFeeRefundedAt := some r }).OpenTracks φ :=
    h.setTrack fun hopen => hφ.refund key _ _ (h.getTrack hopen)
  split
  · exact h
  split
  · exact hmark _ _
  split
  · exact hmark _ _
  split
  · exact hmark _ _
  · exact h

/-- **A turn of the job** on a track that was open keeps what holds of the open tracks. -/
theorem Settings.OpenTracks.processTrack (hφ : Undated φ) (h : s.settings.OpenTracks φ)
    (hrow : φ row.key row.track) : (processTrack s row env).1.settings.OpenTracks φ := by
  unfold WinnerPayment.processTrack
  split_ifs
  · unfold forfeitUnpaidWinner
    dsimp only
    refine Settings.OpenTracks.setTrack (OpenTracks.refundSeller hφ ?_) fun hopen => ?_
    · show (blockWinner s row env).1.settings.OpenTracks φ
      unfold blockWinner
      split
      · exact h
      · exact h
    · cases hopen
  · unfold trySendDailyReminder
    split
    · exact h
    · exact h.setTrack fun _ => hφ.reminder _ _ _ hrow

theorem Settings.OpenTracks.processTracks (hφ : Undated φ) : ∀ {rows : List TrackRow} {s : State},
    s.settings.OpenTracks φ → (∀ row ∈ rows, φ row.key row.track) →
      (processTracks env rows s).1.settings.OpenTracks φ
  | [], _, h, _ => h
  | row :: rows, s, h, hrows => by
    show (WinnerPayment.processTracks env rows (WinnerPayment.processTrack s row env).1
      ).1.settings.OpenTracks φ
    exact OpenTracks.processTracks hφ (h.processTrack hφ (hrows row List.mem_cons_self))
      fun r hr => hrows r (List.mem_cons_of_mem row hr)

end Deltapreneur.WinnerPayment
