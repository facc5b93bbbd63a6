import Deltapreneur.Lib.Run
import Deltapreneur.EdgePoints.Wallet

/-!
# Referral rewards

Model of `track_referral_link` (`app/controller/user/edge_points_controller.py:97-139`) and of
`track_referral`, `track_share_referral` and `_atomic_track_insert`
(`app/service/user/edge_points_service.py:117-161, 309-495`), for any number of calls at once, with
the two partial unique indexes of the migration `share001`.

* A call loads the referrer, and then commits a row of `referral_tracks` and the reward together.
  A second row for the same key waits for the first, so the index is looked at when the call
  commits; nothing locks the referrer.
* `check_reward` and the failures of a call are up to the environment, except that a text which is
  too long for its column fails.
* `Entry.item` and `Entry.person` are no columns: what was shared, and who came, whether logged in
  or not.
* `str` writes an id. A shared domain is in ASCII (`share_service.py:28-30`).

Results:

* `fair_iff`: each receiver earns at most 20 points per item, the visits of the referrer earn none,
  and balances are what the rows say, exactly in the runs of sound steps.
* `referral_rewards_unfair`: one listing under two types, two rewards at once, and a referrer who
  has logged out.
-/

namespace Deltapreneur.Referral.Rewards

open EdgePoints

/-! ## Requests -/

/-- `ShareLink`, as `resolve_share` finds it. -/
structure ShareLink where
  referrerId : Option UserId
  domain : Option String
  referrerVisitorKey : Option String
  deriving Repr, DecidableEq

/-- `ReferralTrackRequest`. -/
inductive Body
  | share (share : ShareLink)
  | listing (referrerId : UserId) (listingId : ListingId) (listingType : String)
  deriving Repr, DecidableEq

/-- Who sends it, as far as the endpoint knows, and who it is. -/
structure Visit where
  visitor : Option UserId
  cookie : Option String
  ip : String
  person : Option UserId
  deriving Repr, DecidableEq

/-- What a referral is about. -/
inductive Item
  | listing (id : ListingId)
  | domain (name : String)
  deriving Repr, DecidableEq

/-- The columns of `ReferralTrack` but for the points. -/
structure Entry where
  referrerId : UserId
  itemKey : String
  listingType : String
  visitorIp : String
  visitorId : Option UserId
  visitorKey : String
  item : Item
  person : Option UserId
  deriving Repr, DecidableEq

structure Track extends Entry where
  pointsAwarded : Nat
  deriving Repr, DecidableEq

section Requests

variable (str : Nat → String)

/-- `track_referral`: what it inserts. -/
def trackReferral (referrerId : UserId) (listingId : ListingId) (listingType : String)
    (visit : Visit) : Option Entry :=
  if visit.visitor = some referrerId then none
  else some {
    referrerId := referrerId
    itemKey := listingType ++ ":" ++ str listingId
    listingType := listingType
    visitorIp := visit.ip
    visitorId := visit.visitor
    visitorKey := (visit.visitor.map str).getD visit.ip
    item := .listing listingId
    person := visit.visitor <|> visit.person }

/-- `track_share_referral`. -/
def trackShareReferral (share : ShareLink) (visit : Visit) : Option Entry :=
  match share.referrerId with
  | none => none
  | some referrerId =>
    let domain := (share.domain.getD "").toLower
    if visit.visitor = some referrerId then none
    else if visit.visitor = none ∧ visit.cookie.isSome ∧
        share.referrerVisitorKey = visit.cookie then none
    else if domain = "" then none
    else some {
      referrerId := referrerId
      itemKey := "domain:" ++ domain
      listingType := "domain"
      visitorIp := visit.ip
      visitorId := visit.visitor
      visitorKey := (visit.visitor.map str <|> visit.cookie).getD visit.ip
      item := .domain domain
      person := visit.visitor <|> visit.person }

/-- `track_referral_link`. -/
def trackReferralLink (visit : Visit) : Body → Option Entry
  | .share share => trackShareReferral str share visit
  | .listing referrerId listingId listingType =>
    if listingType = "" then none else trackReferral str referrerId listingId listingType visit

end Requests

/-! ## Tables and calls -/

/-- The columns hold 253, 50, 45 and 64 characters. -/
def Entry.Fits (e : Entry) : Prop :=
  e.itemKey.length ≤ 253 ∧ e.listingType.length ≤ 50 ∧ e.visitorIp.length ≤ 45 ∧
    e.visitorKey.length ≤ 64

instance (e : Entry) : Decidable e.Fits := inferInstanceAs (Decidable (_ ∧ _))

/-- The two partial unique indexes. -/
def Entry.Conflicts (e t : Entry) : Prop :=
  e.referrerId = t.referrerId ∧ e.itemKey = t.itemKey ∧ e.visitorId = t.visitorId ∧
    (e.visitorId = none → e.visitorKey = t.visitorKey)

instance (e t : Entry) : Decidable (e.Conflicts t) := inferInstanceAs (Decidable (_ ∧ _))

/-- A call that has loaded the referrer. -/
structure Call where
  entry : Entry
  loaded : Nat
  deriving Repr, DecidableEq

structure State where
  db : Wallets
  isUser : UserId → Bool
  tracks : List Track
  calls : Nat → Option Call

/-- No referral yet, and no call. -/
def State.init (db : Wallets) (isUser : UserId → Bool) : State := ⟨db, isUser, [], fun _ => none⟩

inductive Label
  /-- The call checks the request and loads the referrer. -/
  | load (call : Nat) (body : Body) (visit : Visit)
  /-- It inserts, asks `check_reward`, and commits. -/
  | commit (call : Nat) (rewarded : Bool)
  /-- It fails. -/
  | abort (call : Nat)
  deriving Repr, DecidableEq

/-- The insertion gets a row. -/
def State.Inserts (s : State) (e : Entry) : Prop := e.Fits ∧ ∀ t ∈ s.tracks, ¬ e.Conflicts t.toEntry

instance (s : State) (e : Entry) : Decidable (s.Inserts e) := inferInstanceAs (Decidable (_ ∧ _))

def State.setCall (s : State) (k : Nat) (c : Option Call) : State :=
  { s with calls := Function.update s.calls k c }

def State.reward (s : State) (c : Call) : State :=
  { s with
    tracks := ⟨c.entry, 20⟩ :: s.tracks
    db := s.db.commitAward c.entry.referrerId 20 c.loaded }

/-- What the second half of a call commits. -/
def State.commit (s : State) (c : Call) (rewarded : Bool) : State :=
  if s.Inserts c.entry then
    if rewarded then s.reward c else { s with tracks := ⟨c.entry, 0⟩ :: s.tracks }
  else s

def step (str : Nat → String) (s : State) : Label → State
  | .load k body visit =>
    match trackReferralLink str visit body with
    | none => s
    | some e =>
      if s.isUser e.referrerId = true ∧ s.calls k = none then
        s.setCall k (some ⟨e, s.db.edgePoints e.referrerId⟩)
      else s
  | .commit k rewarded =>
    match s.calls k with
    | none => s
    | some c => (s.commit c rewarded).setCall k none
  | .abort k => s.setCall k none

/-! ## Fair rewards -/

/-- What a row has earned `referrer` from the visits of `receiver` to `item`. -/
def Track.earns (referrer : UserId) (item : Item) (receiver : UserId) (t : Track) : Nat :=
  if t.referrerId = referrer ∧ t.item = item ∧ t.visitorId = some receiver then t.pointsAwarded
  else 0

/-- What a row has earned `referrer`. -/
def Track.awards (referrer : UserId) (t : Track) : Nat :=
  if t.referrerId = referrer then t.pointsAwarded else 0

def State.earned (s : State) (referrer : UserId) (item : Item) (receiver : UserId) : Nat :=
  (s.tracks.map (·.earns referrer item receiver)).sum

def State.awarded (s : State) (referrer : UserId) : Nat := (s.tracks.map (·.awards referrer)).sum

/-- A receiver earns the referrer at most 20 points with an item, no visit of the referrer earns
any, and every balance has grown by what the rows say. -/
structure Fair (before : Wallets) (s : State) : Prop where
  once : ∀ referrer item receiver, s.earned referrer item receiver ≤ 20
  others : ∀ t ∈ s.tracks, 0 < t.pointsAwarded → t.person ≠ some t.referrerId
  credited : ∀ referrer, s.db.edgePoints referrer = before.edgePoints referrer + s.awarded referrer

/-- What the receiver, if logged in, has earned the referrer with the item before was under the same
listing type. -/
def SameType (s : State) (e : Entry) : Prop :=
  e.visitorId.isSome = true → ∀ t ∈ s.tracks, t.referrerId = e.referrerId → t.item = e.item →
    t.visitorId = e.visitorId → 0 < t.pointsAwarded → t.listingType = e.listingType

/-- A reward comes on top of the balance that was loaded and for an item that goes by one listing
type, and a visitor without a login is not the referrer. -/
def Sound (s : State) : Label → Prop
  | .commit k true => ∀ c, s.calls k = some c → s.Inserts c.entry →
      SameType s c.entry ∧
        (c.entry.visitorId = none → c.entry.person ≠ some c.entry.referrerId) ∧
        s.db.edgePoints c.entry.referrerId = c.loaded
  | _ => True

variable {str : Nat → String} {s : State} {e t : Entry} {c : Call} {before : Wallets}
  {referrer : UserId}

/-! ## Item keys -/

/-- The key says what is shared, and by which listing type. -/
def Entry.Keyed (str : Nat → String) (e : Entry) : Prop :=
  match e.item with
  | .listing id => e.itemKey = e.listingType ++ ":" ++ str id
  | .domain name => e.itemKey = "domain:" ++ name ∧ e.listingType = "domain"

theorem Entry.Keyed.itemKey_eq (he : e.Keyed str) (ht : t.Keyed str) (hitem : t.item = e.item)
    (htype : t.listingType = e.listingType) : t.itemKey = e.itemKey := by
  unfold Entry.Keyed at he ht
  rw [hitem] at ht
  cases hi : e.item with
  | listing id =>
    rw [hi] at he ht
    exact (ht.trans (by rw [htype])).trans he.symm
  | domain name =>
    rw [hi] at he ht
    exact ht.1.trans he.1.symm

theorem keyed_trackReferralLink {visit : Visit} {body : Body}
    (h : trackReferralLink str visit body = some e) : e.Keyed str := by
  cases body with
  | listing referrerId listingId listingType =>
    simp only [trackReferralLink, trackReferral, Option.ite_none_left_eq_some,
      Option.some.injEq] at h
    obtain ⟨-, -, rfl⟩ := h
    rfl
  | share share =>
    simp only [trackReferralLink, trackShareReferral] at h
    cases hreferrer : share.referrerId with
    | none => simp [hreferrer] at h
    | some referrerId =>
      simp only [hreferrer, Option.ite_none_left_eq_some, Option.some.injEq] at h
      obtain ⟨-, -, -, rfl⟩ := h
      exact ⟨rfl, rfl⟩

/-- A visitor with a login is the one that it names, and not the referrer. -/
def Entry.Admitted (e : Entry) : Prop :=
  ∀ v, e.visitorId = some v → e.person = some v ∧ v ≠ e.referrerId

/-- Both functions turn a referrer with a login away. -/
theorem admitted_trackReferralLink {visit : Visit} {body : Body}
    (h : trackReferralLink str visit body = some e) : e.Admitted := by
  intro v hv
  cases body with
  | listing referrerId listingId listingType =>
    simp only [trackReferralLink, trackReferral, Option.ite_none_left_eq_some,
      Option.some.injEq] at h
    obtain ⟨-, hself, rfl⟩ := h
    have hvisitor : visit.visitor = some v := hv
    exact ⟨by simp [hvisitor], fun heq => hself (hvisitor.trans (congrArg some heq))⟩
  | share share =>
    simp only [trackReferralLink, trackShareReferral] at h
    cases hreferrer : share.referrerId with
    | none => simp [hreferrer] at h
    | some referrerId =>
      simp only [hreferrer, Option.ite_none_left_eq_some, Option.some.injEq] at h
      obtain ⟨hself, -, -, rfl⟩ := h
      have hvisitor : visit.visitor = some v := hv
      exact ⟨by simp [hvisitor], fun heq => hself (hvisitor.trans (congrArg some heq))⟩

/-- Every row, and every row to come, has the key of its item; those to come are admitted. -/
structure Keyed (str : Nat → String) (s : State) : Prop where
  tracks : ∀ t ∈ s.tracks, t.toEntry.Keyed str
  calls : ∀ k c, s.calls k = some c → c.entry.Keyed str ∧ c.entry.Admitted

theorem Keyed.setCall (h : Keyed str s) (k : Nat) {c : Option Call}
    (hc : ∀ c', c = some c' → c'.entry.Keyed str ∧ c'.entry.Admitted) :
    Keyed str (s.setCall k c) where
  tracks := h.tracks
  calls k' c' hc' := by
    by_cases hk : k' = k
    · subst hk
      exact hc c' (by simpa [State.setCall] using hc')
    · exact h.calls k' c' (by simpa [State.setCall, hk] using hc')

theorem Keyed.commit (h : Keyed str s) (hc : c.entry.Keyed str) (rewarded : Bool) :
    Keyed str (s.commit c rewarded) := by
  have hcons (n : Nat) : ∀ t ∈ (⟨c.entry, n⟩ : Track) :: s.tracks, t.toEntry.Keyed str := by
    intro t ht
    rcases List.mem_cons.mp ht with rfl | ht
    · exact hc
    · exact h.tracks t ht
  unfold State.commit State.reward
  split_ifs
  · exact ⟨hcons 20, h.calls⟩
  · exact ⟨hcons 0, h.calls⟩
  · exact h

theorem keyed_step (h : Keyed str s) (l : Label) : Keyed str (step str s l) := by
  cases l with
  | load k body visit =>
    dsimp only [step]
    cases hentry : trackReferralLink str visit body with
    | none => exact h
    | some e =>
      dsimp only
      split_ifs
      · refine h.setCall k fun c' hc' => ?_
        cases hc'
        exact ⟨keyed_trackReferralLink hentry, admitted_trackReferralLink hentry⟩
      · exact h
  | commit k rewarded =>
    dsimp only [step]
    cases hcall : s.calls k with
    | none => exact h
    | some c => exact (h.commit (h.calls k c hcall).1 rewarded).setCall k (by simp)
  | abort k => exact h.setCall k (by simp)

/-! ## One row more -/

theorem earned_eq_zero_iff {receiver : UserId} {item : Item} :
    s.earned referrer item receiver = 0 ↔ ∀ t ∈ s.tracks, t.referrerId = referrer →
      t.item = item → t.visitorId = some receiver → t.pointsAwarded = 0 := by
  unfold State.earned
  rw [List.sum_eq_zero_iff_forall_eq_nat, List.forall_mem_map]
  refine forall₂_congr fun t _ => ?_
  unfold Track.earns
  split_ifs with h
  · exact ⟨fun h0 _ _ _ => h0, fun hall => hall h.1 h.2.1 h.2.2⟩
  · exact ⟨fun _ h₁ h₂ h₃ => absurd ⟨h₁, h₂, h₃⟩ h, fun _ => rfl⟩

/-- A row that gets in has earned nothing yet with its item, unless the item has another listing
type. -/
theorem sameType_iff (hkeyed : ∀ t ∈ s.tracks, t.toEntry.Keyed str) (he : e.Keyed str)
    (hin : s.Inserts e) : SameType s e ↔
      ∀ receiver, e.visitorId = some receiver → s.earned e.referrerId e.item receiver = 0 := by
  constructor
  · intro hsame receiver hvisitor
    rw [earned_eq_zero_iff]
    intro t ht hreferrer hitem hreceiver
    by_contra hpos
    have hid : t.visitorId = e.visitorId := hreceiver.trans hvisitor.symm
    have htype := hsame (by rw [hvisitor]; rfl) t ht hreferrer hitem hid (Nat.pos_of_ne_zero hpos)
    have hkey := he.itemKey_eq (hkeyed t ht) hitem htype
    refine hin.2 t ht ⟨hreferrer.symm, hkey.symm, hid.symm, fun hnone => ?_⟩
    rw [hvisitor] at hnone
    cases hnone
  · intro hzero hlogged t ht hreferrer hitem hid hpos
    obtain ⟨receiver, hvisitor⟩ := Option.isSome_iff_exists.mp hlogged
    have h0 := earned_eq_zero_iff.mp (hzero receiver hvisitor) t ht hreferrer hitem
      (hid.trans hvisitor)
    exact absurd h0 hpos.ne'

theorem earned_of_cons {s' : State} {t : Track} {receiver : UserId} {item : Item}
    (h : s'.tracks = t :: s.tracks) : s'.earned referrer item receiver =
      t.earns referrer item receiver + s.earned referrer item receiver := by
  simp [State.earned, h]

theorem awarded_of_cons {s' : State} {t : Track} (h : s'.tracks = t :: s.tracks) :
    s'.awarded referrer = t.awards referrer + s.awarded referrer := by
  simp [State.awarded, h]

theorem Fair.unrewarded (h : Fair before s) :
    Fair before { s with tracks := ⟨e, 0⟩ :: s.tracks } where
  once referrer item receiver := by
    have hrow : (⟨e, 0⟩ : Track).earns referrer item receiver = 0 := by simp [Track.earns]
    rw [earned_of_cons rfl, hrow, zero_add]
    exact h.once referrer item receiver
  others t ht hpos := by
    rcases List.mem_cons.mp ht with rfl | ht
    · exact absurd hpos (lt_irrefl 0)
    · exact h.others t ht hpos
  credited referrer := by
    have hrow : (⟨e, 0⟩ : Track).awards referrer = 0 := by simp [Track.awards]
    rw [awarded_of_cons rfl, hrow, zero_add]
    exact h.credited referrer

theorem reward_edgePoints_self :
    (s.reward c).db.edgePoints c.entry.referrerId = c.loaded + 20 := by
  simp [State.reward, Wallets.commitAward, UnitOfWork.flushColumn]

theorem reward_edgePoints_other (h : referrer ≠ c.entry.referrerId) :
    (s.reward c).db.edgePoints referrer = s.db.edgePoints referrer := by
  simp [State.reward, Wallets.commitAward, h]

/-- The reward is the first with this item. -/
theorem once_reward_iff (h : Fair before s) :
    (∀ referrer item receiver, (s.reward c).earned referrer item receiver ≤ 20) ↔
      ∀ receiver, c.entry.visitorId = some receiver →
        s.earned c.entry.referrerId c.entry.item receiver = 0 := by
  constructor
  · intro honce receiver hvisitor
    have hle := honce c.entry.referrerId c.entry.item receiver
    have hrow : (⟨c.entry, 20⟩ : Track).earns c.entry.referrerId c.entry.item receiver = 20 := by
      simp [Track.earns, hvisitor]
    rw [earned_of_cons rfl, hrow] at hle
    omega
  · intro hzero referrer item receiver
    rw [earned_of_cons rfl]
    unfold Track.earns
    split_ifs with hrow
    · obtain ⟨rfl, rfl, hvisitor⟩ := hrow
      rw [hzero receiver hvisitor]
    · rw [zero_add]
      exact h.once referrer item receiver

/-- The reward comes on top of the balance. -/
theorem credited_reward_iff (h : Fair before s) :
    (∀ referrer, (s.reward c).db.edgePoints referrer =
        before.edgePoints referrer + (s.reward c).awarded referrer) ↔
      s.db.edgePoints c.entry.referrerId = c.loaded := by
  have hself := h.credited c.entry.referrerId
  have hrow : (⟨c.entry, 20⟩ : Track).awards c.entry.referrerId = 20 := by simp [Track.awards]
  constructor
  · intro hall
    have hnew := hall c.entry.referrerId
    rw [reward_edgePoints_self, awarded_of_cons rfl, hrow] at hnew
    omega
  · intro hfresh referrer
    rw [awarded_of_cons rfl]
    by_cases heq : referrer = c.entry.referrerId
    · subst heq
      rw [reward_edgePoints_self, hrow]
      omega
    · have hother : (⟨c.entry, 20⟩ : Track).awards referrer = 0 := by
        simp [Track.awards, Ne.symm heq]
      rw [reward_edgePoints_other heq, hother, zero_add]
      exact h.credited referrer

/-- **A reward is fair exactly if it is sound.** -/
theorem fair_reward_iff (h : Fair before s) (hkeyed : Keyed str s)
    (hc : c.entry.Keyed str ∧ c.entry.Admitted) (hin : s.Inserts c.entry) :
    Fair before (s.reward c) ↔ SameType s c.entry ∧
      (c.entry.visitorId = none → c.entry.person ≠ some c.entry.referrerId) ∧
      s.db.edgePoints c.entry.referrerId = c.loaded := by
  rw [sameType_iff hkeyed.tracks hc.1 hin, ← once_reward_iff h, ← credited_reward_iff h]
  constructor
  · intro hfair
    exact ⟨hfair.once, fun _ => hfair.others _ List.mem_cons_self (Nat.succ_pos 19),
      hfair.credited⟩
  · rintro ⟨honce, hothers, hcredited⟩
    refine ⟨honce, fun t ht hpos => ?_, hcredited⟩
    rcases List.mem_cons.mp ht with rfl | ht
    · cases hvisitor : c.entry.visitorId with
      | none => exact hothers hvisitor
      | some v =>
        obtain ⟨hperson, hne⟩ := hc.2 v hvisitor
        exact fun heq => hne (Option.some.inj (hperson.symm.trans heq))
    · exact h.others t ht hpos

/-! ## Runs -/

theorem fair_setCall {k : Nat} {c : Option Call} : Fair before (s.setCall k c) ↔ Fair before s :=
  ⟨fun h => ⟨h.once, h.others, h.credited⟩, fun h => ⟨h.once, h.others, h.credited⟩⟩

theorem fair_step (hkeyed : Keyed str s) (h : Fair before s) (l : Label) :
    Fair before (step str s l) ↔ Sound s l := by
  cases l with
  | load k body visit =>
    dsimp only [step]
    cases hentry : trackReferralLink str visit body with
    | none => exact iff_of_true h trivial
    | some e =>
      dsimp only
      split_ifs
      · exact iff_of_true (fair_setCall.mpr h) trivial
      · exact iff_of_true h trivial
  | abort k => exact iff_of_true (fair_setCall.mpr h) trivial
  | commit k rewarded =>
    dsimp only [step]
    cases hcall : s.calls k with
    | none => cases rewarded <;> simp [Sound, hcall, h]
    | some c =>
      dsimp only
      rw [fair_setCall]
      unfold State.commit
      by_cases hin : s.Inserts c.entry
      · rw [if_pos hin]
        cases rewarded with
        | false => exact iff_of_true h.unrewarded trivial
        | true =>
          have hreward := fair_reward_iff h hkeyed (hkeyed.calls k c hcall) hin
          simpa [Sound, hcall, hin] using hreward
      · rw [if_neg hin]
        refine iff_of_true h ?_
        cases rewarded with
        | false => exact trivial
        | true =>
          intro c' hc' hin'
          cases hcall.symm.trans hc'
          exact absurd hin' hin

theorem keyed_init (isUser : UserId → Bool) : Keyed str (.init before isUser) :=
  ⟨fun _ h => absurd h List.not_mem_nil, fun _ _ h => absurd h (by simp [State.init])⟩

theorem fair_init (isUser : UserId → Bool) : Fair before (.init before isUser) :=
  ⟨fun _ _ _ => Nat.zero_le _, fun _ h => absurd h List.not_mem_nil, fun _ => rfl⟩

/-- **Fair rewards, exactly.** Whatever the order of the steps of any number of calls, a receiver
earns the referrer at most 20 points with an item, the visits of the referrer earn none, and the
balances are what the rows say, throughout the runs of sound steps and in no others. -/
theorem fair_iff (str : Nat → String) (before : Wallets) (isUser : UserId → Bool)
    (ls : List Label) :
    (∀ pre, pre <+: ls → Fair before (Run.exec (step str) (.init before isUser) pre)) ↔
      Run.Meets (step str) Sound (.init before isUser) ls :=
  Run.throughout_iff (I := Keyed str) (P := Fair before)
    (fun _ l hkeyed hfair => ⟨keyed_step hkeyed l, fair_step hkeyed hfair l⟩)
    (keyed_init isUser) (fair_init isUser)

/-- An id of two digits. -/
def shortId (n : Nat) : String := if n = 7 then "07" else "08"

/-- The same receiver comes to the same listing twice, the second time by another listing type. -/
def twoSpellings : List Label :=
  [.load 0 (.listing 1 7 "domain") ⟨some 2, none, "192.0.2.1", some 2⟩, .commit 0 true,
    .load 0 (.listing 1 7 "Domain") ⟨some 2, none, "192.0.2.1", some 2⟩, .commit 0 true]

/-- Two receivers come at the same time. -/
def twoAtOnce : List Label :=
  [.load 0 (.listing 1 7 "domain") ⟨some 2, none, "192.0.2.1", some 2⟩,
    .load 1 (.listing 1 7 "domain") ⟨some 3, none, "192.0.2.2", some 3⟩,
    .commit 0 true, .commit 1 true]

/-- The referrer logs out and follows the link. -/
def ownLink : List Label :=
  [.load 0 (.listing 1 7 "domain") ⟨none, none, "192.0.2.1", some 1⟩, .commit 0 true]

/-- **Rewards are not fair**: two spellings earn 40 points with one listing, two rewards at once add
20 points to the balance, and the referrer's own visit is rewarded. -/
theorem referral_rewards_unfair :
    let run := Run.exec (step shortId) (.init .empty fun _ => true)
    ¬ Fair .empty (run twoSpellings) ∧ ¬ Fair .empty (run twoAtOnce) ∧
      ¬ Fair .empty (run ownLink) := by
  intro run
  have hspellings : (run twoSpellings).earned 1 (.listing 7) 2 = 40 := by decide +kernel
  have hawarded : (run twoAtOnce).awarded 1 = 40 := by decide +kernel
  have hbalance : (run twoAtOnce).db.edgePoints 1 = 20 := by decide +kernel
  have hself : ∃ t ∈ (run ownLink).tracks, 0 < t.pointsAwarded ∧ t.person = some t.referrerId := by
    decide +kernel
  refine ⟨fun h => ?_, fun h => ?_, fun h => ?_⟩
  · have honce := h.once 1 (.listing 7) 2
    omega
  · have hcredited := h.credited 1
    rw [hawarded, hbalance] at hcredited
    exact absurd hcredited (by decide)
  · obtain ⟨t, ht, hpos, hperson⟩ := hself
    exact h.others t ht hpos hperson

end Deltapreneur.Referral.Rewards
