import Deltapreneur.Creator.Onboarding
import Deltapreneur.Lib.Run

/-!
# LinkedIn callbacks side by side

Model of `handle_linkedin_oauth_callback` (`app/service/community/community_service.py:1007-1193`)
as a program of single database statements, for any number of callbacks whose signed state carries
one invitation token, between decisions of the admins about applications.

* A statement reads or commits at one instant. The reads that look for the row to save are one
  statement: they run in the transaction that has just cleared the LinkedIn id from the other
  users' rows.
* A profile is its user, its LinkedIn id, its name and whether it is deleted.
* LinkedIn may take any number of other statements to answer, or fail. The pictures, the
  notification and the other columns are left out.
* At the start nobody is eligible: nobody has a live profile or a state row.

`validate_invitation_token` is read before LinkedIn is asked, and the profile is committed without
another look. The token is consumed afterwards, in a transaction of its own.

* `Seen`: what the gate has read, kept with the callback.
* `Undisturbed`: at a callback's commits and at its second look at the invitation the rows are as it
  has read them, no other callback is at its own consumption, and the link has not expired.

**`one_profile`**: in every undisturbed run one user at most gets a profile, none is committed too
late, and a callback that raises has committed none. What makes it so is that the gate lets nobody
pass with a used invitation or an application that is not approved, and that the consumption marks
the invitation as used.
-/

namespace Deltapreneur.Creator.LinkedIn

open Run

abbrev LinkedInId := Nat

/-- A row of `communities`. -/
structure Community where
  appUserId : UserId
  isDeleted : Bool
  linkedInId : Option LinkedInId
  name : Option String
  deriving DecidableEq

/-! ## Statements -/

/-- The row of an invitation, as `validate_invitation_token` reads and tests it. -/
def readInvitation (db : Db) (token : Token) (now : Instant) : Except AppException Invitation :=
  match db.invitations.find? (·.token = token) with
  | none => raise "Invitation link is invalid." 404
  | some invitation =>
    if invitation.usedAt ≠ none then raise "This invitation link has already been used." 410
    else if invitation.expiresAt ≤ now then
      raise "This invitation link has expired. Please contact the Deltapreneur team." 410
    else .ok invitation

/-- `_has_existing_community_profile`. -/
def hasProfile (communities : List Community) (user : UserId) : Bool :=
  communities.any fun c => c.appUserId = user ∧ c.isDeleted = false

/-- The users whose LinkedIn id `clear_linked_in_id_from_other_users` takes away. -/
def othersWith (communities : List Community) (user : UserId) (id : LinkedInId) : List UserId :=
  (communities.filter fun c => c.linkedInId = some id ∧ c.appUserId ≠ user).map (·.appUserId)

/-- `clear_linked_in_id_from_other_users`, once it is committed. -/
def clearLinkedInId (users : List UserId) (communities : List Community) : List Community :=
  communities.map fun c => if c.appUserId ∈ users then { c with linkedInId := none } else c

/-- `find_by_linked_in_id`, and `find_any_by_app_user_id` where that finds nothing. -/
def findCommunity (communities : List Community) (user : UserId) (id : LinkedInId) :
    Option Community :=
  match communities.find? fun c => c.linkedInId = some id ∧ c.isDeleted = false with
  | some c => some c
  | none => communities.find? (·.appUserId = user)

/-- What LinkedIn says about the member. -/
structure Member where
  linkedInId : LinkedInId
  name : Option String

/-- The row that is saved. -/
def communityToSave (user : UserId) (member : Member) : Option Community → Community
  | some c => { c with
      isDeleted := false
      linkedInId := some member.linkedInId
      name := member.name.or c.name }
  | none => ⟨user, false, some member.linkedInId, member.name⟩

/-- `IntegrityError`: a new row for a user who has one by now, or a LinkedIn id that another row
has by now. -/
def conflicts (communities : List Community) (user : UserId) (member : Member)
    (found : Option Community) (cleared : List UserId) : Bool :=
  (found.isNone && communities.any (·.appUserId = user)) ||
    (clearLinkedInId cleared communities).any fun c =>
      c.linkedInId = some member.linkedInId ∧
        c.appUserId ≠ (communityToSave user member found).appUserId

/-- `CommunityRepository.save`. -/
def saveCommunity (communities : List Community) (user : UserId) (member : Member)
    (found : Option Community) (cleared : List UserId) : List Community :=
  let row := communityToSave user member found
  (clearLinkedInId cleared communities).filter (·.appUserId ≠ row.appUserId) ++ [row]

/-- The state row that the consumption commits. -/
def consumedState (user : UserId) (invitation : Invitation) (row : Option OnboardingState) :
    OnboardingState :=
  ⟨user, (row.map (·.declaredRevenueInr)).getD 0, .invitation, some invitation.id⟩

/-- The commit of `consume_invitation`. The rows are written whatever they are by now. -/
def commitConsumption (db : Db) (user : UserId) (invitation : Invitation)
    (row : Option OnboardingState) (now : Instant) : Db :=
  ((db.writeInvitations (·.use invitation.id user now) (by simp)).saveState
    (consumedState user invitation row)).writeApplication invitation.applicationId
      (fun a => { a with status := .onboarded, onboardedAt := some now }) fun _ => rfl

/-! ## Callbacks -/

/-- The statement that a callback executes next. -/
inductive Point
  /-- `is_user_eligible`. -/
  | eligibility
  /-- `validate_invitation_token`: the invitation, then its application. -/
  | token
  | application (invitation : Invitation)
  /-- The token exchange and the member's profile. -/
  | linkedIn
  /-- The clearing of the LinkedIn id and the search for the row. -/
  | find (member : Member)
  /-- `CommunityRepository.save`. -/
  | save (member : Member) (found : Option Community) (cleared : List UserId)
  /-- `consume_invitation`: the invitation, its application, the state row, the commit. -/
  | consume
  | consumeApplication (invitation : Invitation)
  | consumeState (invitation : Invitation)
  | commit (invitation : Invitation) (row : Option OnboardingState)
  | returned
  | raised

/-- What the tables say about the invitation. -/
structure Standing where
  status : Option ApplicationStatus
  usedBy : Option UserId

/-- What the gate reads: the invitation, and the status of its application. -/
structure Seen where
  invitation : Invitation
  status : Option ApplicationStatus
  deriving DecidableEq

/-- One `handle_linkedin_oauth_callback`. -/
structure Callback where
  user : UserId
  point : Point
  /-- What the gate has read. -/
  seen : Option Seen
  /-- The standing of the invitation when the callback committed its profile. -/
  saved : Option Standing

/-- The tables and the callbacks. -/
structure World where
  db : Db
  communities : List Community
  callbacks : List Callback

/-- Tables in which nobody is eligible, and an unused invitation is nobody's. -/
structure Initial where
  db : Db
  communities : List Community
  noState : db.states = []
  noProfile : ∀ c ∈ communities, c.isDeleted = true
  unused : ∀ i ∈ db.invitations, i.usedAt = none → i.usedByUserId = none

def Initial.world (t : Initial) : World := ⟨t.db, t.communities, []⟩

def standing (db : Db) (token : Token) : Standing :=
  match db.invitations.find? (·.token = token) with
  | none => ⟨none, none⟩
  | some invitation => ⟨db.status invitation.applicationId, invitation.usedByUserId⟩

/-- The callback goes on at `point`, or raises. -/
def Callback.at (r : Callback) (point : Point) : Callback := { r with point }

/-- Where a callback goes after a read that may raise. -/
def Callback.after {α : Type} (r : Callback) (next : α → Point) : Except AppException α → Callback
  | .ok x => r.at (next x)
  | .error _ => r.at .raised

/-- The next statement of a callback, at the time `now`. `answer` is what LinkedIn says. -/
def advance (token : Token) (w : World) (r : Callback) (now : Instant) (answer : Option Member) :
    World × Callback :=
  match r.point with
  | .eligibility =>
    (w, r.at (if isUserEligible w.db (hasProfile w.communities r.user) r.user then .linkedIn
      else .token))
  | .token => (w, r.after .application (readInvitation w.db token now))
  | .application invitation =>
    (w, { r with
      seen := some ⟨invitation, w.db.status invitation.applicationId⟩
      point := if allowsInviteUse (w.db.application invitation.applicationId) then .linkedIn
        else .raised })
  | .linkedIn => (w, r.at (answer.elim .raised .find))
  | .find member =>
    let cleared := othersWith w.communities r.user member.linkedInId
    (w, r.at (.save member (findCommunity (clearLinkedInId cleared w.communities) r.user
      member.linkedInId) cleared))
  | .save member found cleared =>
    if conflicts w.communities r.user member found cleared then (w, r.at .raised)
    else ({ w with communities := saveCommunity w.communities r.user member found cleared },
      { r with point := .consume, saved := some (standing w.db token) })
  | .consume => (w, r.after .consumeApplication (readInvitation w.db token now))
  | .consumeApplication invitation =>
    (w, r.at (if allowsInviteUse (w.db.application invitation.applicationId) ∧
      (invitation.usedByUserId = none ∨ invitation.usedByUserId = some r.user)
      then .consumeState invitation else .raised))
  | .consumeState invitation => (w, r.at (.commit invitation (w.db.state r.user)))
  | .commit invitation row =>
    -- An insert of a second row, or an update of a row that is gone, fails.
    if row.isSome ≠ (w.db.state r.user).isSome then (w, r.at .raised)
    else ({ w with db := commitConsumption w.db r.user invitation row now }, r.at .returned)
  | .returned | .raised => (w, r)

/-! ## Runs -/

inductive Label
  /-- A callback arrives. -/
  | arrive (user : UserId)
  /-- The callback `i` executes a statement. -/
  | statement (i : Nat) (now : Instant) (answer : Option Member)
  | review (caller : Caller) (id : ApplicationId) (action : Action) (reason : Option String)
    (now : Instant)
  | revoke (caller : Caller) (id : ApplicationId) (discardActiveLink : Bool)
    (reason : Option String) (now : Instant)

/-- The tables after a decision. -/
def World.decided (w : World) : Except AppException Db → World
  | .ok db => { w with db }
  | .error _ => w

def step (token : Token) (w : World) : Label → World
  | .arrive user => { w with callbacks := w.callbacks ++ [⟨user, .eligibility, none, none⟩] }
  | .statement i now answer =>
    match w.callbacks[i]? with
    | none => w
    | some r =>
      let (w', r') := advance token w r now answer
      { w' with callbacks := w.callbacks.set i r' }
  | .review caller id action reason now =>
    w.decided (reviewApplication w.db caller id action reason now)
  | .revoke caller id discard reason now =>
    w.decided (revokeApplication w.db caller id discard reason now)

/-! ## The property -/

/-- The application is neither revoked nor rejected, and nobody else has used the invitation. -/
def Standing.InForce (s : Standing) (user : UserId) : Prop :=
  s.status ≠ some .pendingReview ∧ s.status ≠ some .rejected ∧
    (s.usedBy = none ∨ s.usedBy = some user)

/-- At most one user got a profile, each in time, and no callback that raised has left one. -/
structure World.AtMostOne (w : World) : Prop where
  one : ∀ r ∈ w.callbacks, ∀ r' ∈ w.callbacks, r.saved ≠ none → r'.saved ≠ none → r.user = r'.user
  inForce : ∀ r ∈ w.callbacks, ∀ s, r.saved = some s → s.InForce r.user
  raised : ∀ r ∈ w.callbacks, r.point = .raised → r.saved = none

/-! ## The condition -/

/-- The callback has committed its profile and not yet consumed the invitation. -/
def Callback.consuming (r : Callback) : Bool :=
  match r.point with
  | .consume | .consumeApplication _ | .consumeState _ | .commit _ _ => true
  | _ => false

/-- The rows are as the gate has read them. -/
def Seen.Current (token : Token) (db : Db) (s : Seen) : Prop :=
  db.invitations.find? (·.token = token) = some s.invitation ∧
    db.status s.invitation.applicationId = s.status

instance (token : Token) (db : Db) (s : Seen) : Decidable (s.Current token db) :=
  inferInstanceAs (Decidable (_ ∧ _))

/-- What may not have happened when a callback executes its next statement. -/
def Callback.OnTime (token : Token) (w : World) (r : Callback) (now : Instant) : Prop :=
  match r.point with
  | .eligibility => isUserEligible w.db (hasProfile w.communities r.user) r.user = false
  | .save _ _ _ => (∀ s ∈ r.seen, s.Current token w.db) ∧
      ∀ r' ∈ w.callbacks, r'.consuming = false
  | .consume => ∀ s ∈ r.seen, s.Current token w.db ∧ now < s.invitation.expiresAt
  | .consumeApplication _ => ∀ s ∈ r.seen, s.Current token w.db
  | .commit _ row => (∀ s ∈ r.seen, s.Current token w.db) ∧ w.db.state r.user = row
  | _ => True

instance (token : Token) (w : World) (r : Callback) (now : Instant) :
    Decidable (r.OnTime token w now) := by
  unfold Callback.OnTime
  split <;> infer_instance

/-- No decision, no other callback's commit and no expiry comes between what a callback has read and
its own commits; its user is not eligible when it starts. -/
def Undisturbed (token : Token) (w : World) : Label → Prop
  | .statement i now _ => ∀ r ∈ w.callbacks[i]?, r.OnTime token w now
  | _ => True

instance (token : Token) (w : World) : (label : Label) → Decidable (Undisturbed token w label)
  | .statement i now _ => inferInstanceAs (Decidable (∀ r ∈ w.callbacks[i]?, r.OnTime token w now))
  | .arrive _ | .review .. | .revoke .. => .isTrue trivial

/-! ## What a callback knows -/

variable {token : Token} {w w' : World} {r r' : Callback} {i : Nat} {now : Instant}
  {answer : Option Member} {db : Db}

/-- The gate has let the callback pass. -/
def Callback.Admitted (r : Callback) (s : Seen) : Prop :=
  r.seen = some s ∧ s.invitation.usedAt = none ∧ s.status = some .approved

/-- Where a callback stands: up to LinkedIn what the gate has found, and whether its profile is
committed. -/
def Callback.Sound (r : Callback) : Prop :=
  match r.point with
  | .eligibility | .token | .raised => r.saved = none
  | .application invitation => r.saved = none ∧ invitation.usedAt = none
  | .linkedIn | .find _ | .save _ _ _ => r.saved = none ∧ ∃ s, r.Admitted s
  | .consume => r.saved ≠ none ∧ ∃ s, r.Admitted s
  | .consumeApplication invitation | .consumeState invitation | .commit invitation _ =>
    r.saved ≠ none ∧ ∃ s, r.Admitted s ∧ s.invitation = invitation
  | .returned => r.saved ≠ none

/-- The invitation is used. -/
def Spent (token : Token) (db : Db) : Prop :=
  ∀ i, db.invitations.find? (·.token = token) = some i → i.usedAt ≠ none

/-- An unused invitation is nobody's. -/
def Unused (db : Db) : Prop := ∀ i ∈ db.invitations, i.usedAt = none → i.usedByUserId = none

/-- The callbacks beside the tables: a profile has been consumed for, or is about to be. -/
structure World.Good (token : Token) (w : World) : Prop where
  sound : ∀ r ∈ w.callbacks, r.Sound
  unused : Unused w.db
  spent : ∀ r ∈ w.callbacks, r.saved ≠ none → r.consuming = true ∨ Spent token w.db
  one : ∀ r ∈ w.callbacks, ∀ r' ∈ w.callbacks, r.saved ≠ none → r'.saved ≠ none → r.user = r'.user
  inForce : ∀ r ∈ w.callbacks, ∀ s, r.saved = some s → s.InForce r.user

theorem World.Good.atMostOne (h : w.Good token) : w.AtMostOne := by
  refine ⟨h.one, h.inForce, fun r hr hraised => ?_⟩
  have hsound := h.sound r hr
  simpa [Callback.Sound, hraised] using hsound

theorem allows_iff {id : ApplicationId} :
    allowsInviteUse (db.application id) = true ↔ db.status id = some .approved := by
  simp [allowsInviteUse, Db.status, Option.any_eq_true]

theorem readInvitation_ok {invitation : Invitation} :
    readInvitation db token now = .ok invitation ↔
      db.invitations.find? (·.token = token) = some invitation ∧ invitation.usedAt = none ∧
        now < invitation.expiresAt := by
  unfold readInvitation
  cases db.invitations.find? (·.token = token) with
  | none => simp
  | some x =>
    simp only [ite_raise_eq_ok, Except.ok.injEq, Option.some.injEq, not_not, not_le]
    constructor
    · rintro ⟨hunused, hlive, rfl⟩
      exact ⟨rfl, hunused, hlive⟩
    · rintro ⟨rfl, hunused, hlive⟩
      exact ⟨hunused, hlive, rfl⟩

/-! ## The tables -/

/-- A change of invitations that takes no use back. -/
structure Monotone (f : Invitation → Invitation) : Prop where
  token : ∀ i, (f i).token = i.token
  used : ∀ i, i.usedAt ≠ none → (f i).usedAt ≠ none
  unused : ∀ i, (i.usedAt = none → i.usedByUserId = none) → (f i).usedAt = none →
    (f i).usedByUserId = none

theorem monotone_use (id : InvitationId) (user : UserId) (now : Instant) :
    Monotone (·.use id user now) := by
  constructor <;> intro i <;> unfold Invitation.use <;> split_ifs <;> simp_all

theorem monotone_expire (id : ApplicationId) (now : Instant) : Monotone (·.expire id now) := by
  constructor <;> intro i <;> unfold Invitation.expire <;> split_ifs <;> simp_all

theorem find_map {f : Invitation → Invitation} (hf : Monotone f) (is : List Invitation) :
    (is.map f).find? (·.token = token) = (is.find? (·.token = token)).map f := by
  rw [List.find?_map]
  have hsame : (fun i : Invitation => decide (i.token = token)) ∘ f =
      fun i => decide (i.token = token) := by
    funext i
    simp [hf.token]
  rw [hsame]

theorem Spent.map {f : Invitation → Invitation} (hf : Monotone f) {db' : Db}
    (hdb : db'.invitations = db.invitations.map f) (h : Spent token db) : Spent token db' := by
  intro i hi
  rw [hdb, find_map hf] at hi
  obtain ⟨x, hx, rfl⟩ := Option.map_eq_some_iff.mp hi
  exact hf.used x (h x hx)

theorem Unused.map {f : Invitation → Invitation} (hf : Monotone f) {db' : Db}
    (hdb : db'.invitations = db.invitations.map f) (h : Unused db) : Unused db' := by
  intro i hi
  rw [hdb] at hi
  obtain ⟨x, hx, rfl⟩ := List.mem_map.mp hi
  exact hf.unused x (h x hx)

/-- **The consumption marks the invitation of the token as used.** -/
theorem spent_commitConsumption {user : UserId} {invitation : Invitation}
    {row : Option OnboardingState}
    (hfind : db.invitations.find? (·.token = token) = some invitation) :
    Spent token (commitConsumption db user invitation row now) := by
  intro i hi
  rw [show (commitConsumption db user invitation row now).invitations =
    db.invitations.map (·.use invitation.id user now) from rfl,
    find_map (monotone_use invitation.id user now), hfind] at hi
  obtain rfl := Option.some.inj hi
  simp [Invitation.use]

theorem monotone_id : Monotone id := ⟨fun _ => rfl, fun _ => id, fun _ h hnone => h hnone⟩

/-- What a decision does to the invitations. -/
def Expires (db db' : Db) : Prop := ∃ f, Monotone f ∧ db'.invitations = db.invitations.map f

theorem expires_review {caller : Caller} {app : ApplicationId} {action : Action}
    {reason : Option String} {db' : Db}
    (h : reviewApplication db caller app action reason now = .ok db') : Expires db db' := by
  obtain ⟨-, a, -, hok⟩ := withApplication_ok.mp h
  simp only [ite_raise_eq_ok] at hok
  obtain ⟨-, hok⟩ := hok
  cases action with
  | approve =>
    cases hok
    exact ⟨id, monotone_id, (List.map_id _).symm⟩
  | reject =>
    cases hok
    exact ⟨_, monotone_expire app now, rfl⟩
  | other => cases hok

theorem invitations_deleteStateOf (a : Application) :
    (deleteStateOf db a).invitations = db.invitations := by
  unfold deleteStateOf
  split_ifs
  · split <;> rfl
  · rfl

theorem expires_revoke {caller : Caller} {app : ApplicationId} {discard : Bool}
    {reason : Option String} {db' : Db}
    (h : revokeApplication db caller app discard reason now = .ok db') : Expires db db' := by
  obtain ⟨-, a, -, hok⟩ := withApplication_ok.mp h
  simp only [ite_raise_eq_ok] at hok
  obtain ⟨-, hok⟩ := hok
  cases hok
  cases discard with
  | true => exact ⟨_, monotone_expire app now, invitations_deleteStateOf a⟩
  | false => exact ⟨id, monotone_id, (invitations_deleteStateOf a).trans (List.map_id _).symm⟩

/-! ## One statement -/

theorem Callback.Admitted.current {s : Seen} (hs : r.Admitted s)
    (hcurrent : ∀ s ∈ r.seen, s.Current token db) :
    db.invitations.find? (·.token = token) = some s.invitation ∧
      db.status s.invitation.applicationId = some .approved := by
  obtain ⟨hfind, hstatus⟩ := hcurrent s hs.1
  exact ⟨hfind, hstatus.trans hs.2.2⟩

/-- What a statement other than the two commits does. -/
structure Quiet (w : World) (r : Callback) (out : World × Callback) : Prop where
  db : out.1.db = w.db
  user : out.2.user = r.user
  saved : out.2.saved = r.saved
  sound : out.2.Sound
  consuming : r.consuming = true → out.2.consuming = true

/-- The next statement commits the profile, or the consumption. -/
def Callback.Commits (w : World) (r : Callback) : Prop :=
  (∃ member found cleared, r.point = .save member found cleared ∧
    conflicts w.communities r.user member found cleared = false) ∨
  ∃ invitation row, r.point = .commit invitation row

theorem advance_quiet (hs : r.Sound) (hunused : Unused w.db) (hok : r.OnTime token w now)
    (hcommits : ¬ r.Commits w) : Quiet w r (advance token w r now answer) := by
  cases hpoint : r.point with
  | eligibility =>
    simp only [Callback.OnTime, hpoint] at hok
    simp only [Callback.Sound, hpoint] at hs
    simp only [advance, hpoint, hok]
    exact ⟨rfl, rfl, rfl, hs, by simp [Callback.consuming, hpoint]⟩
  | token =>
    simp only [Callback.Sound, hpoint] at hs
    simp only [advance, hpoint]
    cases hread : readInvitation w.db token now with
    | ok invitation =>
      exact ⟨rfl, rfl, rfl, ⟨hs, (readInvitation_ok.mp hread).2.1⟩,
        by simp [Callback.consuming, hpoint]⟩
    | error e => exact ⟨rfl, rfl, rfl, hs, by simp [Callback.consuming, hpoint]⟩
  | application invitation =>
    simp only [Callback.Sound, hpoint] at hs
    simp only [advance, hpoint]
    refine ⟨rfl, rfl, rfl, ?_, by simp [Callback.consuming, hpoint]⟩
    split_ifs with hallows
    · exact ⟨hs.1, _, rfl, hs.2, allows_iff.mp hallows⟩
    · exact hs.1
  | linkedIn =>
    simp only [Callback.Sound, hpoint] at hs
    simp only [advance, hpoint]
    refine ⟨rfl, rfl, rfl, ?_, by simp [Callback.consuming, hpoint]⟩
    cases answer with
    | none => exact hs.1
    | some member => exact hs
  | find member =>
    simp only [Callback.Sound, hpoint] at hs
    simp only [advance, hpoint]
    exact ⟨rfl, rfl, rfl, hs, by simp [Callback.consuming, hpoint]⟩
  | save member found cleared =>
    have hconflict : conflicts w.communities r.user member found cleared = true := by
      by_contra hno
      exact hcommits (.inl ⟨member, found, cleared, hpoint, by simpa using hno⟩)
    simp only [Callback.Sound, hpoint] at hs
    simp only [advance, hpoint, hconflict, if_true]
    exact ⟨rfl, rfl, rfl, hs.1, by simp [Callback.consuming, hpoint]⟩
  | consume =>
    -- the invitation is the one that the gate has read, and it has not expired
    simp only [Callback.Sound, hpoint] at hs
    simp only [Callback.OnTime, hpoint] at hok
    obtain ⟨hsaved, s, hadmitted⟩ := hs
    obtain ⟨hcurrent, hlive⟩ := hok s hadmitted.1
    have hread := readInvitation_ok.mpr ⟨hcurrent.1, hadmitted.2.1, hlive⟩
    simp only [advance, hpoint, hread]
    exact ⟨rfl, rfl, rfl, ⟨hsaved, s, hadmitted, rfl⟩, fun _ => rfl⟩
  | consumeApplication invitation =>
    simp only [Callback.Sound, hpoint] at hs
    simp only [Callback.OnTime, hpoint] at hok
    obtain ⟨hsaved, s, hadmitted, rfl⟩ := hs
    obtain ⟨hfind, hstatus⟩ := hadmitted.current hok
    have hnobody := hunused _ (List.mem_of_find?_eq_some hfind) hadmitted.2.1
    simp only [advance, hpoint, allows_iff, hstatus, hnobody, true_or, and_self, if_true]
    exact ⟨rfl, rfl, rfl, ⟨hsaved, s, hadmitted, rfl⟩, fun _ => rfl⟩
  | consumeState invitation =>
    simp only [Callback.Sound, hpoint] at hs
    simp only [advance, hpoint]
    exact ⟨rfl, rfl, rfl, hs, fun _ => rfl⟩
  | commit invitation row => exact absurd (.inr ⟨invitation, row, hpoint⟩) hcommits
  | returned | raised =>
    simp only [advance, hpoint]
    exact ⟨rfl, rfl, rfl, hs, id⟩

/-! ## One step -/

theorem mem_set_iff (hi : w.callbacks[i]? = some r) (q : Callback) :
    q ∈ w.callbacks.set i r' ↔ q = r' ∨ ∃ j, j ≠ i ∧ w.callbacks[j]? = some q := by
  obtain ⟨hlt, -⟩ := List.getElem?_eq_some_iff.mp hi
  simp only [List.mem_iff_getElem?, List.getElem?_set]
  constructor
  · rintro ⟨j, hj⟩
    by_cases hij : i = j
    · rw [if_pos hij, if_pos hlt] at hj
      exact .inl (Option.some.inj hj).symm
    · rw [if_neg hij] at hj
      exact .inr ⟨j, Ne.symm hij, hj⟩
  · rintro (rfl | ⟨j, hne, hj⟩)
    · exact ⟨i, by rw [if_pos rfl, if_pos hlt]⟩
    · exact ⟨j, by rw [if_neg hne.symm, hj]⟩

/-- A statement that commits no profile: the tables stay and the callback goes on, or the invitation
is used by now. -/
theorem World.Good.update (h : w.Good token) (hi : w.callbacks[i]? = some r)
    (hw : w'.callbacks = w.callbacks.set i r') (huser : r'.user = r.user)
    (hsaved : r'.saved = r.saved) (hsound : r'.Sound) (hunused : Unused w'.db)
    (hspent : Spent token w'.db ∨
      w'.db = w.db ∧ (r.consuming = true → r'.consuming = true)) : w'.Good token := by
  have hr := List.mem_of_getElem? hi
  have hmem : ∀ q ∈ w'.callbacks, ∃ p ∈ w.callbacks, p.user = q.user ∧ p.saved = q.saved ∧
      (q = r' ∧ p = r ∨ q = p) := by
    intro q hq
    rw [hw, mem_set_iff hi] at hq
    rcases hq with rfl | ⟨j, -, hj⟩
    · exact ⟨r, hr, huser.symm, hsaved.symm, .inl ⟨rfl, rfl⟩⟩
    · exact ⟨q, List.mem_of_getElem? hj, rfl, rfl, .inr rfl⟩
  refine ⟨fun q hq => ?_, hunused, fun q hq hs => ?_, fun q hq q' hq' hs hs' => ?_,
    fun q hq s hs => ?_⟩ <;> obtain ⟨p, hp, hpu, hps, hpq⟩ := hmem q hq
  · rcases hpq with ⟨rfl, -⟩ | rfl
    · exact hsound
    · exact h.sound _ hp
  · rcases hspent with hspent | ⟨hdb, hgoes⟩
    · exact .inr hspent
    · rcases h.spent p hp (hps ▸ hs) with hc | hspent
      · rcases hpq with ⟨rfl, rfl⟩ | rfl
        · exact .inl (hgoes hc)
        · exact .inl hc
      · exact .inr (hdb ▸ hspent)
  · obtain ⟨p', hp', hpu', hps', -⟩ := hmem q' hq'
    exact hpu ▸ hpu' ▸ h.one p hp p' hp' (hps ▸ hs) (hps' ▸ hs')
  · exact hpu ▸ h.inForce p hp s (hps.trans hs)

/-- The commit of a profile, when nobody else has one and the invitation is in force. -/
theorem World.Good.save (h : w.Good token) (hi : w.callbacks[i]? = some r) {s : Standing}
    (hr' : r' = { r with point := .consume, saved := some s })
    (hw : w'.callbacks = w.callbacks.set i r') (hdb : w'.db = w.db) (hsound : r'.Sound)
    (hnobody : ∀ q ∈ w.callbacks, q.saved = none) (hforce : s.InForce r.user) :
    w'.Good token := by
  subst hr'
  have hmem : ∀ q ∈ w'.callbacks, q = { r with point := .consume, saved := some s } ∨
      q ∈ w.callbacks := by
    intro q hq
    rw [hw, mem_set_iff hi] at hq
    exact hq.imp_right fun ⟨_, _, hj⟩ => List.mem_of_getElem? hj
  have honly : ∀ q ∈ w'.callbacks, q.saved ≠ none →
      q = { r with point := .consume, saved := some s } :=
    fun q hq hs => (hmem q hq).resolve_right fun hold => hs (hnobody q hold)
  refine ⟨fun q hq => ?_, hdb ▸ h.unused, fun q hq hs => ?_, fun q hq q' hq' hs hs' => ?_,
    fun q hq t ht => ?_⟩
  · rcases hmem q hq with rfl | hq
    · exact hsound
    · exact h.sound q hq
  · rw [honly q hq hs]
    exact .inl rfl
  · rw [honly q hq hs, honly q' hq' hs']
  · have hq := honly q hq (ht ▸ Option.some_ne_none t)
    subst hq
    obtain rfl := Option.some.inj ht
    exact hforce

/-- **A statement of a callback.** -/
theorem good_statement (h : w.Good token) (hi : w.callbacks[i]? = some r)
    (hok : r.OnTime token w now) : (step token w (.statement i now answer)).Good token := by
  have hs := h.sound r (List.mem_of_getElem? hi)
  have hw : (step token w (.statement i now answer)).callbacks =
      w.callbacks.set i (advance token w r now answer).2 := by
    simp [step, hi]
  have hdb : (step token w (.statement i now answer)).db = (advance token w r now answer).1.db := by
    simp [step, hi]
  by_cases hcommits : r.Commits w
  · rcases hcommits with ⟨member, found, cleared, hpoint, hno⟩ | ⟨invitation, row, hpoint⟩
    · simp only [Callback.Sound, hpoint] at hs
      simp only [Callback.OnTime, hpoint] at hok
      obtain ⟨-, s, hadmitted⟩ := hs
      obtain ⟨hcurrent, hconsuming⟩ := hok
      obtain ⟨hfind, hstatus⟩ := hadmitted.current hcurrent
      have hfresh := hadmitted.2.1
      have hnobody : ∀ q ∈ w.callbacks, q.saved = none := by
        intro q hq
        by_contra hsaved
        rcases h.spent q hq hsaved with hc | hspent
        · exact absurd hc (by simp [hconsuming q hq])
        · exact hspent _ hfind hfresh
      have hforce : (standing w.db token).InForce r.user := by
        have hunused := h.unused _ (List.mem_of_find?_eq_some hfind) hfresh
        simp [standing, hfind, hstatus, Standing.InForce, hunused]
      have hsave : advance token w r now answer =
          ({ w with communities := saveCommunity w.communities r.user member found cleared },
            { r with point := .consume, saved := some (standing w.db token) }) := by
        simp [advance, hpoint, hno]
      rw [hsave] at hw hdb
      exact h.save hi rfl hw hdb ⟨Option.some_ne_none _, s, hadmitted⟩ hnobody hforce
    · simp only [Callback.Sound, hpoint] at hs
      simp only [Callback.OnTime, hpoint] at hok
      obtain ⟨hsaved, s, hadmitted, rfl⟩ := hs
      obtain ⟨hfind, -⟩ := hadmitted.current hok.1
      have hcommit : advance token w r now answer =
          ({ w with db := commitConsumption w.db r.user s.invitation row now },
            r.at .returned) := by
        simp [advance, hpoint, hok.2]
      rw [hcommit] at hw hdb
      refine h.update hi hw rfl rfl hsaved ?_ (.inl ?_)
      · rw [hdb]
        exact h.unused.map (monotone_use _ r.user now) rfl
      · rw [hdb]
        exact spent_commitConsumption hfind
  · have hq : Quiet w r (advance token w r now answer) :=
      advance_quiet hs h.unused hok hcommits
    have hsame := hdb.trans hq.db
    exact h.update hi hw hq.user hq.saved hq.sound (hsame ▸ h.unused) (.inr ⟨hsame, hq.consuming⟩)

theorem World.Good.decided (h : w.Good token) {x : Except AppException Db}
    (hx : ∀ db', x = .ok db' → Expires w.db db') : (w.decided x).Good token := by
  cases x with
  | error e => exact h
  | ok db' =>
    obtain ⟨f, hf, hdb⟩ := hx db' rfl
    exact ⟨h.sound, h.unused.map hf hdb, fun r hr hs => (h.spent r hr hs).imp_right (·.map hf hdb),
      h.one, h.inForce⟩

/-- **One step.** -/
theorem good_step (label : Label) (h : w.Good token) (hok : Undisturbed token w label) :
    (step token w label).Good token := by
  cases label with
  | arrive user =>
    have hmem : ∀ q ∈ (step token w (.arrive user)).callbacks,
        q ∈ w.callbacks ∨ q = ⟨user, .eligibility, none, none⟩ := fun q hq =>
      (List.mem_append.mp hq).imp_right List.mem_singleton.mp
    have hold : ∀ q ∈ (step token w (.arrive user)).callbacks, q.saved ≠ none →
        q ∈ w.callbacks := by
      intro q hq hs
      refine (hmem q hq).resolve_right fun heq => hs ?_
      rw [heq]
    refine ⟨fun q hq => ?_, h.unused, fun q hq hs => h.spent q (hold q hq hs) hs,
      fun q hq q' hq' hs hs' => h.one q (hold q hq hs) q' (hold q' hq' hs') hs hs',
      fun q hq s hs => h.inForce q (hold q hq (hs ▸ Option.some_ne_none s)) s hs⟩
    rcases hmem q hq with hq | rfl
    · exact h.sound q hq
    · rfl
  | statement i now answer =>
    cases hi : w.callbacks[i]? with
    | none =>
      have hsame : step token w (.statement i now answer) = w := by simp [step, hi]
      rwa [hsame]
    | some r => exact good_statement h hi (hok r hi)
  | review caller app action reason now => exact h.decided fun _ => expires_review
  | revoke caller app discard reason now => exact h.decided fun _ => expires_revoke

theorem good_initial (t : Initial) (token : Token) : t.world.Good token := by
  have hnone : ∀ r, r ∉ t.world.callbacks := fun _ => List.not_mem_nil
  exact ⟨fun r hr => absurd hr (hnone r), t.unused, fun r hr => absurd hr (hnone r),
    fun r hr => absurd hr (hnone r), fun r hr => absurd hr (hnone r)⟩

/-- **One profile, in time, and none from a callback that fails**, in every undisturbed run. -/
theorem one_profile (t : Initial) (token : Token) (labels : List Label)
    (h : Meets (step token) (Undisturbed token) t.world labels) :
    (exec (step token) t.world labels).AtMostOne := by
  have hstep : ∀ (w : World) (label : Label), w.Good token → Undisturbed token w label →
      (step token w label).Good token := fun _ label hw hok => good_step label hw hok
  exact (exec_inv hstep (good_initial t token) h).atMostOne

/-- An approved application with one invitation. -/
def approvedOnce : Initial where
  db :=
    { applications := [⟨0, "A", "a@b", 100, .approved, none, none, none, none⟩]
      invitations := [⟨0, 0, 77, 1000, none, none, 9⟩]
      states := []
      applicationsNumbered := rfl
      invitationsNumbered := rfl
      oneState := List.nodup_nil }
  communities := []
  noState := rfl
  noProfile := nofun
  unused := by simp

/-- Six statements of the callback `i`, whose member has the LinkedIn id `id`: up to its profile. -/
def upToSave (i id : Nat) : List Label :=
  List.replicate 6 (.statement i 1 (some ⟨id, none⟩))

/-- Two users follow the same link, and the second is validated before the first one's callback
comes to consume the invitation. -/
def bothFollow : List Label := .arrive 1 :: .arrive 2 :: (upToSave 0 100 ++ upToSave 1 200)

/-- The first one's callback runs to its end, and the second one comes then. An admin revokes the
onboarded application in the end. -/
def oneAfterTheOther : List Label :=
  .arrive 1 :: .arrive 2 :: (upToSave 0 100 ++ List.replicate 4 (.statement 0 1 none) ++
    upToSave 1 200 ++ [.revoke ⟨9, true⟩ 0 true none 2])

theorem one_profile_oneAfterTheOther :
    (exec (step 77) approvedOnce.world oneAfterTheOther).AtMostOne :=
  one_profile approvedOnce 77 oneAfterTheOther (by decide +kernel)

/-- Both get a profile. -/
theorem two_profiles :
    ¬ ∀ (t : Initial) (token : Token) (labels : List Label), ∀ pre, pre <+: labels →
      (exec (step token) t.world pre).AtMostOne := by
  intro h
  have htwo : ∃ r ∈ (exec (step 77) approvedOnce.world bothFollow).callbacks,
      ∃ r' ∈ (exec (step 77) approvedOnce.world bothFollow).callbacks,
        r.saved.isSome = true ∧ r'.saved.isSome = true ∧ r.user ≠ r'.user := by decide +kernel
  obtain ⟨r, hr, r', hr', hs, hs', hne⟩ := htwo
  have hone := (h approvedOnce 77 bothFollow bothFollow (List.prefix_refl _)).one r hr r' hr'
    (Option.isSome_iff_ne_none.mp hs) (Option.isSome_iff_ne_none.mp hs')
  exact hne hone

end Deltapreneur.Creator.LinkedIn
