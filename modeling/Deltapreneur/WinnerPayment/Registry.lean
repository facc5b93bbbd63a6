import Deltapreneur.WinnerPayment.BlockRows
import Deltapreneur.WinnerPayment.Paid

/-!
# The registry of bidding blocks

The system of `Paid.lean` with the settings rows of the blocks: ends of auctions, payments, the daily
job and its forfeitures, the admin's `unblock_user`
(`app/controller/auction/bidding_block_admin_controller.py`), and writes of other settings, in any
order.

* The job runs to its end and commits; one that raises or is cut off leaves nothing behind. Two jobs
  never run at once (`app/background_jobs.py`, the scheduler's advisory lock).
* A forfeiture is of a track, until a window is started under its key again (`windowStarted`).
  `Registry.pardoned` are the forfeitures for which a user was unblocked.

Results:

* `registry_consistent`: in every run, the list is the list of the blocked users, the guards agree,
  and no user is blocked for a forfeiture for which they were unblocked.
-/

namespace Deltapreneur.WinnerPayment

open EdgePoints Marketplace Auction
open BlockRows (Words Rows Setting Raised Unpaid Agrees Text)

/-! ## The system -/

/-- The winner whom a turn of the job blocks. -/
def forfeit (env : Tick) (row : TrackRow) : Option UserId :=
  if row.track.overdue env.now then row.track.winnerUserId else none

/-- What `_forfeit_unpaid_winner` tells `block_user`. -/
def unpaid (row : TrackRow) (now : Time) : Unpaid where
  reason := (unpaidBlock row now).reason
  auction := row.key
  winningAmount := row.track.winningAmount
  title := if row.track.title = "" then "auction" else row.track.title

/-- The rows after the turns on these tracks. -/
def blockTracks (W : Words) (env : Tick) : List TrackRow → Rows → Except Raised Rows
  | [], rows => .ok rows
  | row :: tracks, rows =>
    match forfeit env row with
    | none => blockTracks W env tracks rows
    | some winner =>
      match BlockRows.blockUser W rows winner (unpaid row env.now) env.now with
      | .error e => .error e
      | .ok rows => blockTracks W env tracks rows

/-- The users that a run of the job blocks, and the tracks on account of which. -/
def forfeits (env : Tick) (tracks : List TrackRow) : List (UserId × TrackKey) :=
  tracks.filterMap fun row => (forfeit env row).map fun winner => (winner, row.key)

/-- The track under which a call starts a payment window. -/
def windowStarted (s : State) : Label → Option TrackKey
  | .resolveDomain auction _ c =>
    match s.db.market.auctions[auction]? with
    | none => none
    | some a =>
      if c.stored ∧ a.status.nonResolvable = false ∧ a.currentHighestBid.isSome then
        some ⟨.domain, .domain, auction⟩
      else none
  | .endSoftware auction c =>
    match s.db.auctions.software[auction]? with
    | none => none
    | some a =>
      if c.stored ∧ a.status.live ∧ (a.endTime.any fun e => e < c.now) ∧ a.totalBids ≠ 0 then
        some ⟨.software, .software, auction⟩
      else none
  | .endCommunity auction c =>
    match s.db.auctions.community[auction]? with
    | none => none
    | some a =>
      if c.stored ∧ a.status.live ∧ (a.endTime.any fun e => e < c.now) ∧ 0 < a.totalBids ∧
          0 < a.currentHighestBid.getD 0 ∧
          (Software.topBid s.db.auctions.communityBids auction).isSome then
        some ⟨.community, .community, auction⟩
      else none
  | _ => none

structure Registry where
  state : State
  /-- The settings rows of the blocks, and any others. -/
  rows : Rows
  /-- The forfeitures so far, of tracks whose window has not been started again. -/
  forfeited : List (UserId × TrackKey)
  /-- Those for which the user was unblocked. -/
  pardoned : List (UserId × TrackKey)

inductive Registry.Event
  | call (l : Label)
  /-- `unblacklist_user`. -/
  | unblock (user : UserId) (admin : Option UserId) (now : Time)
  /-- Another service stores a setting of its own. -/
  | set (key : Text) (value : Setting)

/-- The key is one of the registry's. -/
def OfRegistry (key : Text) : Prop :=
  BlockRows.BLOCK_PREFIX <+: key ∨ key = BlockRows.BLOCK_INDEX_KEY

instance (key : Text) : Decidable (OfRegistry key) := inferInstanceAs (Decidable (_ ∨ _))

namespace Registry

def job (W : Words) (w : Registry) (env : Tick) : Registry :=
  let tracks := w.state.settings.listOpenTracks
  match blockTracks W env tracks w.rows with
  | .error _ => w
  | .ok rows => { w with
      state := step w.state (.tick env)
      rows := rows
      forfeited := w.forfeited ++ forfeits env tracks }

/-- Any other call. -/
def call (w : Registry) (l : Label) : Registry :=
  let keeps := fun p : UserId × TrackKey => windowStarted w.state l ≠ some p.2
  { w with
    state := step w.state l
    forfeited := w.forfeited.filter keeps
    pardoned := w.pardoned.filter keeps }

/-- `unblock_user`. -/
def unblock (W : Words) (w : Registry) (user : UserId) (admin : Option UserId) (now : Time) : Registry :=
  match BlockRows.unblockUser W w.rows user admin now with
  | .error _ => w
  | .ok (false, rows) => { w with rows := rows }
  | .ok (true, rows) => { w with
      state := { w.state with settings := w.state.settings.unblockUser user now }
      rows := rows
      pardoned := w.pardoned ++ w.forfeited.filter (·.1 = user) }

/-- One event. -/
def step (W : Words) (w : Registry) : Event → Registry
  | .call (.tick env) => w.job W env
  | .call l => w.call l
  | .unblock user admin now => w.unblock W user admin now
  | .set key value => if OfRegistry key then w else { w with rows := w.rows.set key value }

/-- No tracks, no blocks. -/
def opened (db : Services.Db) : Registry := ⟨⟨db, .empty⟩, fun _ => none, [], []⟩

end Registry

/-! ## Settings -/

/-- No track is open under the key. -/
def Settings.Closed (st : Settings) (key : TrackKey) : Prop := st.OpenTracks fun k _ => k ≠ key

/-- Every key has one track. -/
def Settings.UniqueTracks (st : Settings) : Prop := (st.tracks.map TrackRow.key).Nodup

variable {st : Settings} {key k : TrackKey} {t : Track} {W : Words} {rows : Rows} {s : State}
  {row : TrackRow} {env : Tick} {c : Closing}

theorem getTrack_eq_none (h : ¬ (st.getTrack key).isSome = true) :
    ∀ row ∈ st.tracks, row.key ≠ key := by
  refine Table.lookup_eq_none.mp ?_
  cases hrow : Table.lookup TrackRow.key key st.tracks with
  | none => rfl
  | some row => exact absurd (by rw [Settings.getTrack, hrow]; rfl) h

theorem uniqueTracks_setTrack (h : st.UniqueTracks) : (st.setTrack key t).UniqueTracks := by
  unfold Settings.setTrack Settings.UniqueTracks
  dsimp only
  split_ifs with hsome
  · have hkeys : (Table.update TrackRow.key key (fun row => { row with track := t })
        st.tracks).map TrackRow.key = st.tracks.map TrackRow.key :=
      Table.map_key_update (f := fun row : TrackRow => { row with track := t }) (fun _ => rfl)
        st.tracks
    rw [hkeys]
    exact h
  · rw [List.map_append, List.nodup_append]
    refine ⟨h, List.nodup_singleton _, ?_⟩
    rintro a ha b hb rfl
    obtain ⟨row, hrow, hkey⟩ := List.mem_map.mp ha
    exact getTrack_eq_none hsome row hrow (hkey.trans (List.mem_singleton.mp hb))

theorem closed_setTrack_self (ht : t.isOpen = false) : (st.setTrack key t).Closed key := by
  intro row hrow hopen hkey
  unfold Settings.setTrack at hrow
  dsimp only at hrow
  split_ifs at hrow with hsome
  · obtain ⟨old, hold, rfl⟩ := List.mem_map.mp hrow
    split_ifs at hopen hkey with hk
    · simp [ht] at hopen
    · exact hk hkey
  · rcases List.mem_append.mp hrow with hrow | hrow
    · exact getTrack_eq_none hsome row hrow hkey
    · rw [List.mem_singleton.mp hrow] at hopen
      simp [ht] at hopen

theorem undated_ne (key : TrackKey) : Undated fun k _ => k ≠ key :=
  ⟨fun _ _ _ h => h, fun _ _ _ h => h⟩

/-! ## Rules for the writers -/

/-- What a call can leave in the settings. -/
inductive Closes (s : State) (l : Label) (st : Settings) : Prop
  | same (h : st = s.settings)
  | window {key : TrackKey} {winner seller : Option UserId} {amount : Paise} {c : Closing}
    (hstart : windowStarted s l = some key) (h : st = s.settings.openWindow key winner seller amount c)
  | notice {key : TrackKey} {seller : Option UserId} {c : Closing}
    (h : st = s.settings.noticeZeroBid key seller c)

theorem closes_domain (s : State) (auction : AuctionId) (price : Paise) (c : Closing) :
    Closes s (.resolveDomain auction price c) (closing s (.resolveDomain auction price c)) := by
  unfold closing closeDomain
  dsimp only
  split_ifs with hstored
  · split
    · exact .same rfl
    next a ha =>
    split_ifs with hstatus
    · exact .same rfl
    split
    · next amount hbid =>
      refine .window ?_ rfl
      simp [windowStarted, ha, hstored, hstatus, hbid]
    · exact .notice rfl
  · exact .same rfl

theorem closes_software (s : State) (auction : AuctionId) (c : Closing) :
    Closes s (.endSoftware auction c) (closing s (.endSoftware auction c)) := by
  unfold closing closeSoftware
  dsimp only
  split_ifs with hstored
  · split
    · exact .same rfl
    next a ha =>
    split_ifs with hends hbids
    · exact .notice rfl
    · refine .window ?_ rfl
      simp [windowStarted, ha, hstored, hends, hbids]
    · exact .same rfl
  · exact .same rfl

theorem closes_community (s : State) (auction : AuctionId) (c : Closing) :
    Closes s (.endCommunity auction c) (closing s (.endCommunity auction c)) := by
  unfold closing closeCommunity
  dsimp only
  split_ifs with hstored
  · split
    · exact .same rfl
    next a ha =>
    split_ifs with hends
    · split
      · exact .same rfl
      next top htop =>
      refine .window (c := { c with mailed := false }) ?_ rfl
      simp [windowStarted, ha, hstored, hends, htop]
    · exact .same rfl
  · exact .same rfl

theorem closing_closes (s : State) (l : Label) : Closes s l (closing s l) := by
  cases l with
  | resolveDomain auction price c => exact closes_domain s auction price c
  | endSoftware auction c => exact closes_software s auction c
  | endCommunity auction c => exact closes_community s auction c
  | _ => exact .same rfl

def Settings.blockTrack (st : Settings) (env : Tick) (row : TrackRow) : Settings :=
  match forfeit env row with
  | none => st
  | some winner => st.blockUser winner (unpaidBlock row env.now)

section

variable {P : Settings → Prop}

theorem refundSeller_keeps (hset : ∀ st key t, P st → P (st.setTrack key t)) (h : P s.settings) :
    P (refundSeller s row env).1.settings := by
  unfold refundSeller
  split
  · exact h
  unfold refundCreationFeeIfAny
  dsimp only
  split
  · exact h
  split
  · exact hset _ _ _ h
  split
  · exact hset _ _ _ h
  split
  · exact hset _ _ _ h
  · exact h

/-- **The rule for a turn.** Apart from the block, the job only stores tracks. -/
theorem processTrack_keeps (hset : ∀ st key t, P st → P (st.setTrack key t))
    (h : P (s.settings.blockTrack env row)) : P (processTrack s row env).1.settings := by
  unfold Settings.blockTrack forfeit at h
  unfold processTrack
  split_ifs with hover
  · rw [if_pos hover] at h
    refine hset _ _ _ (refundSeller_keeps hset ?_)
    show P (blockWinner s row env).1.settings
    unfold blockWinner
    cases hwinner : row.track.winnerUserId with
    | none => simpa only [hwinner] using h
    | some winner => simpa only [hwinner] using h
  · rw [if_neg hover] at h
    unfold trySendDailyReminder
    split
    · exact h
    · exact hset _ _ _ h

/-- **The rule for the other calls**, which only store tracks. -/
theorem closing_keeps (hset : ∀ st key t, P st → P (st.setTrack key t)) (h : P s.settings)
    (l : Label) : P (closing s l) := by
  cases closing_closes s l with
  | same heq => rwa [heq]
  | window hstart heq =>
    rw [heq]
    unfold Settings.openWindow
    dsimp only
    split_ifs
    · exact hset _ _ _ (hset _ _ _ h)
    · exact hset _ _ _ h
  | notice heq =>
    rw [heq]
    unfold Settings.noticeZeroBid Settings.markZeroBidNoticeSent
    split
    · exact h
    dsimp only
    split_ifs
    · exact h
    · exact hset _ _ _ h

end

/-! ## The blocks -/

theorem agrees_setTrack (h : Agrees W rows st) : Agrees W rows (st.setTrack key t) :=
  ⟨h.absent, h.block, h.index, h.listed⟩

theorem unpaid_reason_ne (row : TrackRow) (now : Time) : (unpaid row now).reason.toList ≠ [] := by
  intro h
  unfold unpaid unpaidBlock at h
  simp only [String.toList_append, List.append_eq_nil_iff] at h
  exact absurd h.1.1.1.1 (by decide +kernel)

/-- **The job blocks the same users on the rows.** The induction is over the tracks it has read. -/
theorem agrees_processTracks (env : Tick) : ∀ (tracks : List TrackRow) {s : State} {rows : Rows},
    Agrees W rows s.settings → ∃ rows', blockTracks W env tracks rows = .ok rows' ∧
      Agrees W rows' (processTracks env tracks s).1.settings
  | [], _, rows, h => ⟨rows, rfl, h⟩
  | row :: tracks, s, rows, h => by
    have hturn (rows' : Rows) (hblock : Agrees W rows' (s.settings.blockTrack env row)) :
        Agrees W rows' (processTrack s row env).1.settings :=
      processTrack_keeps (fun _ _ _ => agrees_setTrack) hblock
    cases hforfeit : forfeit env row with
    | none =>
      have hrow := hturn rows (by rwa [Settings.blockTrack, hforfeit])
      obtain ⟨rows', hrows, hend⟩ := agrees_processTracks env tracks hrow
      refine ⟨rows', ?_, hend⟩
      simpa only [blockTracks, hforfeit] using hrows
    | some winner =>
      have hforfeited : ∃ blocked,
          BlockRows.blockUser W rows winner (unpaid row env.now) env.now = .ok blocked ∧
          Agrees W blocked (s.settings.blockUser winner (unpaidBlock row env.now)) :=
        BlockRows.agrees_blockUser h rfl (unpaid_reason_ne row env.now) rfl
      obtain ⟨blocked, hblocked, hagrees⟩ := hforfeited
      have hrow := hturn blocked (by rwa [Settings.blockTrack, hforfeit])
      obtain ⟨rows', hrows, hend⟩ := agrees_processTracks env tracks hrow
      refine ⟨rows', ?_, hend⟩
      simpa only [blockTracks, hforfeit, hblocked] using hrows

/-! ## The tracks -/

theorem uniqueTracks_processTracks : ∀ (tracks : List TrackRow) {s : State},
    s.settings.UniqueTracks → (processTracks env tracks s).1.settings.UniqueTracks
  | [], _, h => h
  | row :: tracks, s, h => by
    have hturn : (processTrack s row env).1.settings.UniqueTracks := by
      refine processTrack_keeps (fun _ _ _ => uniqueTracks_setTrack) ?_
      unfold Settings.blockTrack
      split
      · exact h
      · exact h
    exact uniqueTracks_processTracks tracks hturn

theorem closed_processTracks {tracks : List TrackRow} (h : s.settings.Closed k)
    (hk : ∀ row ∈ tracks, row.key ≠ k) : (processTracks env tracks s).1.settings.Closed k :=
  Settings.OpenTracks.processTracks (undated_ne k) h hk

/-- **A forfeited track is closed** at the end of the job. -/
theorem closed_of_forfeits : ∀ {tracks : List TrackRow} {s : State} {p : UserId × TrackKey},
    (tracks.map TrackRow.key).Nodup → p ∈ forfeits env tracks →
      (processTracks env tracks s).1.settings.Closed p.2
  | row :: tracks, s, p, hnd, hp => by
    obtain ⟨hhead, htail⟩ := List.nodup_cons.mp hnd
    show (processTracks env tracks (processTrack s row env).1).1.settings.Closed p.2
    obtain ⟨r, hr, hforfeit⟩ := List.mem_filterMap.mp hp
    rcases List.mem_cons.mp hr with rfl | hr
    · obtain ⟨winner, hwinner, rfl⟩ := Option.map_eq_some_iff.mp hforfeit
      unfold forfeit at hwinner
      refine closed_processTracks ?_ fun q hq heq => ?_
      · unfold processTrack
        split_ifs at hwinner ⊢
        exact closed_setTrack_self rfl
      · have hkey : q.key = r.key := heq
        exact hhead (hkey ▸ List.mem_map_of_mem hq)
    · exact closed_of_forfeits htail (List.mem_filterMap.mpr ⟨r, hr, hforfeit⟩)

/-- **Only the start of a window opens a track again.** -/
theorem closed_call (h : s.settings.Closed k) {l : Label} (hstart : windowStarted s l ≠ some k) :
    (closing s l).Closed k := by
  cases closing_closes s l with
  | same heq => rwa [heq]
  | window hwindow heq =>
    have hkey : _ ≠ k := fun hk => hstart (hk ▸ hwindow)
    rw [heq]
    unfold Settings.openWindow
    dsimp only
    split_ifs
    · exact Settings.OpenTracks.setTrack (Settings.OpenTracks.setTrack h fun _ => hkey)
        fun _ => hkey
    · exact Settings.OpenTracks.setTrack h fun _ => hkey
  | @notice key seller c heq =>
    rw [heq]
    unfold Settings.noticeZeroBid Settings.markZeroBidNoticeSent
    split
    · exact h
    dsimp only
    split_ifs
    · exact h
    -- a track of an earlier round is as open as it was, and a new one is not open
    refine Settings.OpenTracks.setTrack h fun hopen => ?_
    unfold Settings.getTrack at hopen
    cases hrow : Table.lookup TrackRow.key key s.settings.tracks with
    | none =>
      rw [hrow] at hopen
      cases hopen
    | some row =>
      rw [hrow] at hopen
      obtain ⟨hmem, rfl⟩ := Table.lookup_eq_some hrow
      exact h row hmem hopen

/-! ## Runs -/

namespace Registry

/-- What every event keeps. -/
structure Inv (W : Words) (w : Registry) : Prop where
  agrees : Agrees W w.rows w.state.settings
  unique : w.state.settings.UniqueTracks
  closed : ∀ p ∈ w.forfeited, w.state.settings.Closed p.2
  pardoned : ∀ p ∈ w.pardoned, p ∈ w.forfeited

variable {w : Registry}

theorem inv_opened (W : Words) (db : Services.Db) : (opened db).Inv W where
  agrees := ⟨fun _ _ => rfl, fun _ _ h => absurd h (by simp [opened, Settings.empty]), rfl,
    fun u => by simp [opened, Settings.empty]⟩
  unique := List.nodup_nil
  closed _ hp := absurd hp List.not_mem_nil
  pardoned _ hp := absurd hp List.not_mem_nil

theorem inv_job (env : Tick) (h : w.Inv W) : (w.job W env).Inv W := by
  obtain ⟨rows, hrows, hagrees⟩ := agrees_processTracks env w.state.settings.listOpenTracks h.agrees
  unfold job
  simp only [hrows]
  refine ⟨hagrees, uniqueTracks_processTracks _ h.unique, fun p hp => ?_, fun p hp => ?_⟩
  · rcases List.mem_append.mp hp with hp | hp
    · refine closed_processTracks (h.closed p hp) fun row hrow => ?_
      obtain ⟨hmem, hopen⟩ := List.mem_filter.mp hrow
      exact h.closed p hp row hmem hopen
    · refine closed_of_forfeits ?_ hp
      exact h.unique.sublist (List.filter_sublist.map _)
  · exact List.mem_append_left _ (h.pardoned p hp)

theorem inv_call {l : Label} (hl : ∀ env, l ≠ .tick env) (h : w.Inv W) : (w.call l).Inv W := by
  have hsettings : (WinnerPayment.step w.state l).settings = closing w.state l := by
    cases l with
    | tick env => exact absurd rfl (hl env)
    | _ => rfl
  refine ⟨?_, ?_, fun p hp => ?_, fun p hp => ?_⟩
  · show Agrees W w.rows (WinnerPayment.step w.state l).settings
    rw [hsettings]
    exact closing_keeps (fun _ _ _ => agrees_setTrack) h.agrees l
  · show (WinnerPayment.step w.state l).settings.UniqueTracks
    rw [hsettings]
    exact closing_keeps (fun _ _ _ => uniqueTracks_setTrack) h.unique l
  · obtain ⟨hmem, hkeeps⟩ := List.mem_filter.mp hp
    show (WinnerPayment.step w.state l).settings.Closed p.2
    rw [hsettings]
    exact closed_call (h.closed p hmem) (of_decide_eq_true hkeeps)
  · obtain ⟨hmem, hkeeps⟩ := List.mem_filter.mp hp
    exact List.mem_filter.mpr ⟨h.pardoned p hmem, hkeeps⟩

theorem inv_unblock (user : UserId) (admin : Option UserId) (now : Time) (h : w.Inv W) :
    (w.unblock W user admin now).Inv W := by
  have hunblocked : ∃ rows, BlockRows.unblockUser W w.rows user admin now =
      .ok ((w.state.settings.blocks user).isSome, rows) ∧
      Agrees W rows (w.state.settings.unblockUser user now) :=
    BlockRows.agrees_unblockUser h.agrees admin now
  obtain ⟨rows, hrows, hagrees⟩ := hunblocked
  unfold unblock
  rw [hrows]
  cases hblock : w.state.settings.blocks user with
  | none =>
    rw [BlockRows.unblockUser_of_none hblock] at hagrees
    exact ⟨hagrees, h.unique, h.closed, h.pardoned⟩
  | some b =>
    refine ⟨hagrees, h.unique, h.closed, fun p hp => ?_⟩
    rcases List.mem_append.mp hp with hp | hp
    · exact h.pardoned p hp
    · exact (List.mem_filter.mp hp).1

theorem inv_set {key : Text} (hkey : ¬ OfRegistry key) (value : Setting) (h : w.Inv W) :
    ({ w with rows := w.rows.set key value } : Registry).Inv W := by
  refine ⟨BlockRows.agrees_set h.agrees (fun u heq => ?_) (fun heq => hkey (.inr heq)) value,
    h.unique, h.closed, h.pardoned⟩
  exact hkey (.inl ⟨W.uuid u, heq.symm⟩)

theorem inv_step (W : Words) (w : Registry) (e : Event) (h : w.Inv W) : (w.step W e).Inv W := by
  cases e with
  | call l =>
    cases l with
    | tick env => exact inv_job env h
    | _ =>
      refine inv_call ?_ h
      exact fun _ => Label.noConfusion
  | unblock user admin now => exact inv_unblock user admin now h
  | set key value =>
    unfold step
    dsimp only
    split_ifs with hkey
    · exact h
    · exact inv_set hkey value h

/-- The job blocks nobody on account of a forfeiture for which they were unblocked. -/
def NotAgain (w : Registry) : Event → Prop
  | .call (.tick env) => ∀ p ∈ forfeits env w.state.settings.listOpenTracks, p ∉ w.pardoned
  | _ => True

theorem Inv.notAgain (h : w.Inv W) (e : Event) : w.NotAgain e := by
  unfold NotAgain
  split
  · next env =>
    intro p hp hpardoned
    obtain ⟨row, hrow, hforfeit⟩ := List.mem_filterMap.mp hp
    obtain ⟨winner, -, rfl⟩ := Option.map_eq_some_iff.mp hforfeit
    obtain ⟨hmem, hopen⟩ := List.mem_filter.mp hrow
    exact h.closed _ (h.pardoned _ hpardoned) row hmem hopen rfl
  · trivial

/-- **The registry of bidding blocks is consistent.** After any run, the list names exactly the users
whom `is_user_bidding_blocked` calls blocked and the two guards answer alike, and in no step of the
run was a user blocked again for a forfeiture for which they were unblocked. -/
theorem registry_consistent (W : Words) (db : Services.Db) (events : List Event) :
    (∃ entries, BlockRows.listBlockedUsers (Run.exec (step W) (opened db) events).rows = .ok entries ∧
      (∀ u, (∃ e ∈ entries, BlockRows.field e "userId" = some (.str (W.uuid u))) ↔
        ∃ reason, BlockRows.isUserBiddingBlocked W (Run.exec (step W) (opened db) events).rows u =
          .ok (true, reason)) ∧
      ∀ e ∈ entries, ∃ u, BlockRows.field e "userId" = some (.str (W.uuid u))) ∧
    (∀ u, BlockRows.assertUserCanBidSync W (Run.exec (step W) (opened db) events).rows u =
      BlockRows.assertUserCanBidAsync W (Run.exec (step W) (opened db) events).rows u) ∧
    Run.Meets (step W) NotAgain (opened db) events := by
  have hinv : (Run.exec (step W) (opened db) events).Inv W :=
    Run.exec_preserves (fun w e => inv_step W w e) events (inv_opened W db)
  generalize hw : Run.exec (step W) (opened db) events = w at hinv ⊢
  refine ⟨?_, fun u => ?_, ?_⟩
  · obtain ⟨entries, hlist, hblocked, husers⟩ := hinv.agrees.listBlockedUsers
    refine ⟨entries, hlist, fun u => (hblocked u).trans ?_, husers⟩
    rw [hinv.agrees.isUserBiddingBlocked]
    constructor
    · intro hu
      exact ⟨(BlockRows.answer (w.state.settings.blocks u)).2, congrArg Except.ok (Prod.ext hu rfl)⟩
    · rintro ⟨reason, hreason⟩
      rw [Except.ok.inj hreason]
  · rw [hinv.agrees.guardSync, hinv.agrees.guardAsync]
  · exact Run.allSteps_of_preserved (fun w e => inv_step W w e) (fun _ e h => h.notAgain e) events
      (inv_opened W db)

/-- A winner who has not paid is blocked, unblocked, and not blocked by the next day's job. -/
example :
    let events := [.call (.resolveDomain 0 0 ⟨0, "example.com", none, true, true⟩), .call (jobOn 8),
      .unblock 1 none (9 * day), .call (jobOn 9)]
    let blocked := fun n =>
      match BlockRows.isUserBiddingBlocked .unary (Run.exec (step .unary)
        (opened runningAuction.db) (events.take n)).rows 1 with
      | .ok (blocked, _) => some blocked
      | .error _ => none
    blocked 2 = some true ∧ blocked 3 = some false ∧ blocked 4 = some false := by
  decide +kernel

end Registry

end Deltapreneur.WinnerPayment
