import Deltapreneur.Core
import Deltapreneur.Lib.Table
import Mathlib.Algebra.Order.Ring.Rat
import Mathlib.Data.List.Range

/-!
# The gate in front of the creator profiles

Model of `DeltapreneurOnboardingService`
(`app/service/deltapreneur/deltapreneur_onboarding_service.py`): self-declared revenue,
applications, and the secret invitations that an approved application gets.

* A row's id is its position in its table. `app_user_id` and `token` are unique columns.
* Tokens are numbers; `none` is a token that is blank after `strip`.
* `HTTPException` is an `AppException`. A call that raises writes nothing.
* Whether a user has a live community profile comes with the call: other services write
  those. So does the clock.
* An application's company, links and texts are left out, and the payloads for the pages.
-/

namespace Deltapreneur.Creator

abbrev ApplicationId := Nat
abbrev InvitationId := Nat
abbrev Token := Nat

/-- `REVENUE_THRESHOLD_INR`. -/
def REVENUE_THRESHOLD_INR : ℚ := 4000000

/-- `INVITATION_VALIDITY_DAYS`, in microseconds. -/
def invitationValidity : Instant := 7 * 24 * 3600 * 1000000

/-! ## The tables -/

/-- `APPLICATION_STATUSES`. -/
inductive ApplicationStatus
  | pendingReview | approved | rejected | onboarded
  deriving Repr, DecidableEq

def ApplicationStatus.text : ApplicationStatus → String
  | .pendingReview => "PENDING_REVIEW"
  | .approved => "APPROVED"
  | .rejected => "REJECTED"
  | .onboarded => "ONBOARDED"

/-- A row of `deltapreneur_applications`. -/
structure Application where
  id : ApplicationId
  fullName : String
  email : String
  annualRevenueInr : ℚ
  status : ApplicationStatus
  reviewedAt : Option Instant
  reviewedById : Option UserId
  rejectionReason : Option String
  onboardedAt : Option Instant
  deriving DecidableEq

/-- A row of `deltapreneur_invitations`. -/
structure Invitation where
  id : InvitationId
  applicationId : ApplicationId
  token : Token
  expiresAt : Instant
  usedAt : Option Instant
  usedByUserId : Option UserId
  createdByAdminId : UserId
  deriving DecidableEq

inductive Channel
  | selfDeclared | invitation
  deriving Repr, DecidableEq

/-- A row of `deltapreneur_onboarding_state`. -/
structure OnboardingState where
  appUserId : UserId
  declaredRevenueInr : ℚ
  channel : Channel
  invitationId : Option InvitationId
  deriving DecidableEq

/-- The three tables. -/
@[ext] structure Db where
  applications : List Application
  invitations : List Invitation
  states : List OnboardingState
  applicationsNumbered : applications.map (·.id) = List.range applications.length
  invitationsNumbered : invitations.map (·.id) = List.range invitations.length
  oneState : (states.map (·.appUserId)).Nodup

variable {ρ : Type*} {token : Option Token}

namespace Db

def empty : Db := ⟨[], [], [], rfl, rfl, List.nodup_nil⟩

theorem numbered_append {key : ρ → Nat} {rows : List ρ} {r : ρ}
    (h : rows.map key = List.range rows.length) (hr : key r = rows.length) :
    (rows ++ [r]).map key = List.range (rows ++ [r]).length := by
  simp [h, hr, List.range_succ]

theorem numbered_map {key : ρ → Nat} {rows : List ρ} {f : ρ → ρ} (hf : ∀ r, key (f r) = key r)
    (h : rows.map key = List.range rows.length) :
    (rows.map f).map key = List.range (rows.map f).length := by
  rw [List.map_map, List.length_map, ← h]
  exact List.map_congr_left fun r _ => hf r

variable (db : Db)

/-- `db.query(DeltapreneurApplication).filter(id == …).first()`. -/
def application (id : ApplicationId) : Option Application :=
  Table.lookup Application.id id db.applications

/-- The state row of a user. -/
def state (user : UserId) : Option OnboardingState :=
  Table.lookup OnboardingState.appUserId user db.states

def addApplication (a : Application) (h : a.id = db.applications.length) : Db :=
  { db with
    applications := db.applications ++ [a]
    applicationsNumbered := numbered_append db.applicationsNumbered h }

def addInvitation (i : Invitation) (h : i.id = db.invitations.length) : Db :=
  { db with
    invitations := db.invitations ++ [i]
    invitationsNumbered := numbered_append db.invitationsNumbered h }

/-- A change of the columns of one application other than its id. -/
def writeApplication (id : ApplicationId) (f : Application → Application)
    (hf : ∀ a, (f a).id = a.id) : Db :=
  { db with
    applications := db.applications.map fun a => if a.id = id then f a else a
    applicationsNumbered := by
      refine numbered_map (fun a => ?_) db.applicationsNumbered
      by_cases h : a.id = id
      · simp [h, hf]
      · simp [h] }

/-- A change of the columns of invitations other than their ids. -/
def writeInvitations (f : Invitation → Invitation) (hf : ∀ i, (f i).id = i.id) : Db :=
  { db with
    invitations := db.invitations.map f
    invitationsNumbered := numbered_map hf db.invitationsNumbered }

/-- `db.add(state)` of the user's row, new or not. -/
def saveState (s : OnboardingState) : Db :=
  { db with
    states := db.states.filter (·.appUserId ≠ s.appUserId) ++ [s]
    oneState := by
      rw [List.map_append, List.map_singleton, List.nodup_append]
      refine ⟨db.oneState.sublist (List.filter_sublist.map _), List.nodup_singleton _, ?_⟩
      intro u hu v hv
      obtain ⟨r, hr, rfl⟩ := List.mem_map.mp hu
      obtain rfl := List.mem_singleton.mp hv
      simpa using (List.mem_filter.mp hr).2 }

/-- `db.delete(state)`. -/
def deleteState (user : UserId) : Db :=
  { db with
    states := db.states.filter (·.appUserId ≠ user)
    oneState := db.oneState.sublist (List.filter_sublist.map _) }

end Db

/-! ## Eligibility -/

/-- `is_user_eligible`; `profile` is `_has_existing_community_profile`. -/
def isUserEligible (db : Db) (profile : Bool) (user : UserId) : Bool :=
  profile || (db.state user).isSome

/-- What `set_declared_revenue` answers. -/
inductive Declared
  | existingProfile | apply | selfDeclared
  deriving Repr, DecidableEq

/-- `set_declared_revenue`. A revenue that `float` does not read is `none`. -/
def setDeclaredRevenue (db : Db) (profile : Bool) (user : UserId) (revenue : Option ℚ) :
    Except AppException (Declared × Db) :=
  match revenue with
  | none => raise "Enter a valid annual business revenue." 422
  | some revenue =>
    if revenue < 0 then raise "Enter a valid annual business revenue." 422
    else if profile = true then .ok (.existingProfile, db)
    else if revenue < REVENUE_THRESHOLD_INR then .ok (.apply, db)
    else
      let invitationId := (db.state user).bind (·.invitationId)
      .ok (.selfDeclared, db.saveState ⟨user, revenue, .selfDeclared, invitationId⟩)

/-! ## Invitations -/

/-- `_assert_application_allows_invite_use`, as a test. -/
def allowsInviteUse (application : Option Application) : Bool :=
  application.any (·.status = .approved)

/-- `validate_invitation_token`. -/
def validateInvitationToken (db : Db) (token : Option Token) (now : Instant) :
    Except AppException Invitation :=
  match token.bind fun token => db.invitations.find? (·.token = token) with
  | none => raise "Invitation link is invalid." 404
  | some invitation =>
    if invitation.usedAt ≠ none then raise "This invitation link has already been used." 410
    else if invitation.expiresAt ≤ now then
      raise "This invitation link has expired. Please contact the Deltapreneur team." 410
    else if allowsInviteUse (db.application invitation.applicationId) = false then
      raise "This invitation link is no longer valid. Please contact the Deltapreneur team." 410
    else .ok invitation

/-- The invitation `id` is used. -/
def Invitation.use (id : InvitationId) (user : UserId) (now : Instant) (i : Invitation) :
    Invitation :=
  if i.id = id then { i with usedAt := some now, usedByUserId := some user } else i

@[simp] theorem Invitation.id_use (x : InvitationId) (user : UserId) (now : Instant)
    (i : Invitation) : (i.use x user now).id = i.id := by
  unfold Invitation.use
  split_ifs <;> rfl

@[simp] theorem Invitation.applicationId_use (x : InvitationId) (user : UserId) (now : Instant)
    (i : Invitation) : (i.use x user now).applicationId = i.applicationId := by
  unfold Invitation.use
  split_ifs <;> rfl

/-- The application of a used invitation is onboarded, once. -/
def Application.onboard (now : Instant) (a : Application) : Application :=
  if a.status ≠ .onboarded then { a with status := .onboarded, onboardedAt := some now } else a

@[simp] theorem Application.id_onboard (now : Instant) (a : Application) :
    (a.onboard now).id = a.id := by
  unfold Application.onboard
  split_ifs <;> rfl

@[simp] theorem Application.status_onboard (now : Instant) (a : Application) :
    (a.onboard now).status = .onboarded := by
  unfold Application.onboard
  split_ifs with h
  · rfl
  · exact not_not.mp h

/-- The state row that a consumption saves. -/
def invitedState (db : Db) (invitation : Invitation) (user : UserId) : OnboardingState :=
  ⟨user, ((db.state user).map (·.declaredRevenueInr)).getD 0, .invitation, some invitation.id⟩

/-- The rows that `consume_invitation` writes. -/
def consumed (db : Db) (invitation : Invitation) (user : UserId) (now : Instant) : Db :=
  ((db.writeInvitations (·.use invitation.id user now) (by simp)).saveState
    (invitedState db invitation user)).writeApplication invitation.applicationId
      (·.onboard now) (by simp)

/-- `consume_invitation`. -/
def consumeInvitation (db : Db) (token : Option Token) (user : UserId) (now : Instant) :
    Except AppException Db := do
  let invitation ← validateInvitationToken db token now
  if allowsInviteUse (db.application invitation.applicationId) = false then
    raise "This invitation link is no longer valid. Please contact the Deltapreneur team." 410
  else if invitation.usedByUserId ≠ none ∧ invitation.usedByUserId ≠ some user then
    raise "This invitation link has already been used." 410
  else .ok (consumed db invitation user now)

/-! ## Applications -/

/-- What `submit_application` reads of the payload, stripped; the e-mail in lower case. -/
structure Submission where
  fullName : String
  email : String
  annualRevenueInr : Option ℚ

/-- `submit_application`. -/
def submitApplication (db : Db) (payload : Submission) : Except AppException Db :=
  if payload.fullName = "" then raise "Full name is required." 422
  else if payload.email = "" ∨ '@' ∉ payload.email.toList then
    raise "A valid email address is required." 422
  else match payload.annualRevenueInr with
    | none => raise "A valid annual revenue is required." 422
    | some revenue =>
      if revenue < 0 then raise "A valid annual revenue is required." 422
      else .ok (db.addApplication
        ⟨db.applications.length, payload.fullName, payload.email, revenue, .pendingReview, none,
          none, none, none⟩ rfl)

/-- Who calls: the id, and whether the role is `ADMIN`. -/
structure Caller where
  id : UserId
  isAdmin : Bool

/-- `_require_admin` and `_get_application`, and what comes after them. -/
def withApplication {α : Type} (db : Db) (caller : Caller) (id : ApplicationId)
    (next : Application → Except AppException α) : Except AppException α :=
  if caller.isAdmin = false then raise "Admin access required." 403
  else match db.application id with
    | none => raise "Application not found." 404
    | some application => next application

/-- An unused invitation of the application expires. -/
def Invitation.expire (id : ApplicationId) (now : Instant) (i : Invitation) : Invitation :=
  if i.applicationId = id ∧ i.usedAt = none then { i with expiresAt := now } else i

@[simp] theorem Invitation.id_expire (x : ApplicationId) (now : Instant) (i : Invitation) :
    (i.expire x now).id = i.id := by
  unfold Invitation.expire
  split_ifs <;> rfl

@[simp] theorem Invitation.applicationId_expire (x : ApplicationId) (now : Instant)
    (i : Invitation) : (i.expire x now).applicationId = i.applicationId := by
  unfold Invitation.expire
  split_ifs <;> rfl

/-- `_expire_unused_invitations`, and the loop of a rejection. -/
def expireUnusedInvitations (db : Db) (id : ApplicationId) (now : Instant) : Db :=
  db.writeInvitations (·.expire id now) (by simp)

/-- The columns that every decision about an application writes. -/
def Application.reviewed (a : Application) (status : ApplicationStatus) (caller : Caller)
    (now : Instant) (reason : Option String) : Application :=
  { a with
    status, reviewedAt := some now, reviewedById := some caller.id, rejectionReason := reason }

@[simp] theorem Application.id_reviewed (a : Application) (status : ApplicationStatus)
    (caller : Caller) (now : Instant) (reason : Option String) :
    (a.reviewed status caller now reason).id = a.id := rfl

/-- A revoked application is back in review. -/
def Application.revoked (a : Application) (caller : Caller) (now : Instant)
    (reason : Option String) : Application :=
  { a.reviewed .pendingReview caller now reason with onboardedAt := none }

@[simp] theorem Application.id_revoked (a : Application) (caller : Caller) (now : Instant)
    (reason : Option String) : (a.revoked caller now reason).id = a.id := rfl

/-- `(action or "").strip().upper()`. -/
inductive Action
  | approve | reject | other
  deriving Repr, DecidableEq

/-- `review_application`. -/
def reviewApplication (db : Db) (caller : Caller) (id : ApplicationId) (action : Action)
    (rejectionReason : Option String) (now : Instant) : Except AppException Db :=
  withApplication db caller id fun application =>
    if application.status ≠ .pendingReview ∧ application.status ≠ .rejected then
      raise ("Application is already " ++ application.status.text ++ ".") 409
    else match action with
      | .approve => .ok (db.writeApplication id (·.reviewed .approved caller now none)
          fun a => a.id_reviewed .approved caller now none)
      | .reject => .ok ((expireUnusedInvitations db id now).writeApplication id
          (·.reviewed .rejected caller now rejectionReason)
          fun a => a.id_reviewed .rejected caller now rejectionReason)
      | .other => raise "Action must be APPROVE or REJECT." 422

/-- The state row that the revocation of an onboarded application deletes: the first one whose
invitation is one of the application's. -/
def stateOfApplication (db : Db) (id : ApplicationId) : Option OnboardingState :=
  let invitationIds := (db.invitations.filter (·.applicationId = id)).map (·.id)
  db.states.find? fun s => s.invitationId.any (· ∈ invitationIds)

/-- The second step of `revoke_application`. -/
def deleteStateOf (db : Db) (application : Application) : Db :=
  if application.status = .onboarded then
    match stateOfApplication db application.id with
    | some s => db.deleteState s.appUserId
    | none => db
  else db

/-- `revoke_application`. -/
def revokeApplication (db : Db) (caller : Caller) (id : ApplicationId) (discardActiveLink : Bool)
    (reason : Option String) (now : Instant) : Except AppException Db :=
  withApplication db caller id fun application =>
    if application.status ≠ .approved ∧ application.status ≠ .onboarded then
      raise ("Only approved or onboarded applications can be revoked. This application is " ++
        application.status.text ++ ".") 409
    else
      let db := if discardActiveLink then expireUnusedInvitations db id now else db
      .ok ((deleteStateOf db application).writeApplication id (·.revoked caller now reason)
        fun a => a.id_revoked caller now reason)

/-- `reopen_application`. -/
def reopenApplication (db : Db) (caller : Caller) (id : ApplicationId) (now : Instant) :
    Except AppException Db :=
  withApplication db caller id fun application =>
    if application.status ≠ .rejected then
      raise ("Only rejected applications can be moved back to review. This application is " ++
        application.status.text ++ ".") 409
    else .ok (db.writeApplication id (·.reviewed .pendingReview caller now none)
      fun a => a.id_reviewed .pendingReview caller now none)

/-- `_invitation_status` is `INVITATION_ACTIVE`. -/
def Invitation.active (i : Invitation) (now : Instant) : Bool := i.usedAt = none ∧ now < i.expiresAt

/-- `generate_invitation`, with the token that `secrets` draws. The unique column refuses a token
that is taken. -/
def generateInvitation (db : Db) (caller : Caller) (id : ApplicationId) (token : Token)
    (now : Instant) : Except AppException Db :=
  withApplication db caller id fun application =>
    match application.status with
    | .onboarded =>
      raise "Applicant is already onboarded. No invitation can be generated." 409
    | .pendingReview => raise "Approve the application before generating an invitation." 409
    | .rejected => raise "Rejected applications cannot receive invitations." 409
    | .approved =>
      let latest := db.invitations.reverse.find? fun i => i.applicationId = id ∧ i.usedAt = none
      if latest.any (·.active now) = true then
        raise ("An active invitation already exists. It must expire or be used before a new " ++
          "link can be generated.") 409
      else if db.invitations.any (·.token = token) = true then raise "Internal Server Error" 500
      else .ok (db.addInvitation
        ⟨db.invitations.length, id, token, now + invitationValidity, none, none, caller.id⟩ rfl)

/-! ## Reading the tables after a write -/

namespace Db

variable {db : Db} {id id' : ApplicationId} {i : InvitationId} {a : Application}
  {s r : OnboardingState} {user : UserId} {f : Application → Application}

def invitationOf (db : Db) (i : InvitationId) : Option ApplicationId :=
  (Table.lookup Invitation.id i db.invitations).map (·.applicationId)

def status (db : Db) (id : ApplicationId) : Option ApplicationStatus :=
  (db.application id).map (·.status)

@[simp] theorem mem_saveState : r ∈ (db.saveState s).states ↔
    r = s ∨ r ∈ db.states ∧ r.appUserId ≠ s.appUserId := by
  simp [saveState, or_comm]

@[simp] theorem mem_deleteState : r ∈ (db.deleteState user).states ↔
    r ∈ db.states ∧ r.appUserId ≠ user := by
  simp [deleteState]

theorem row_saveState : (∃ r ∈ (db.saveState s).states, r.appUserId = user) ↔
    user = s.appUserId ∨ ∃ r ∈ db.states, r.appUserId = user := by
  simp only [mem_saveState]
  constructor
  · rintro ⟨r, rfl | ⟨hr, -⟩, rfl⟩
    · exact .inl rfl
    · exact .inr ⟨r, hr, rfl⟩
  · rintro (rfl | ⟨r, hr, rfl⟩)
    · exact ⟨s, .inl rfl, rfl⟩
    · by_cases heq : r.appUserId = s.appUserId
      · exact ⟨s, .inl rfl, heq.symm⟩
      · exact ⟨r, .inr ⟨hr, heq⟩, rfl⟩

theorem state_isSome : (db.state user).isSome = true ↔ ∃ r ∈ db.states, r.appUserId = user := by
  simp [state, Table.lookup]

theorem state_of_mem (h : r ∈ db.states) : db.state r.appUserId = some r :=
  Table.lookup_of_mem db.oneState h

theorem mem_of_state (h : db.state user = some r) : r ∈ db.states ∧ r.appUserId = user :=
  Table.lookup_eq_some h

theorem status_writeApplication_self {hf : ∀ a, (f a).id = a.id} :
    (db.writeApplication id f hf).status id = (db.application id).map fun a => (f a).status := by
  have hlookup : _ = (Table.lookup Application.id id db.applications).map f :=
    Table.lookup_update_self hf db.applications
  unfold status application writeApplication
  unfold Table.update at hlookup
  rw [hlookup, Option.map_map]
  rfl

theorem status_writeApplication_ne {hf : ∀ a, (f a).id = a.id} (hne : id' ≠ id) :
    (db.writeApplication id f hf).status id' = db.status id' :=
  congrArg (Option.map _) (Table.lookup_update_ne hne hf db.applications)

theorem lookup_append {key : ρ → Nat} {k : Nat} {rows : List ρ} {r x : ρ}
    (h : Table.lookup key k rows = some r) : Table.lookup key k (rows ++ [x]) = some r := by
  unfold Table.lookup at h ⊢
  rw [List.find?_append, h, Option.some_or]

theorem status_addApplication {h : a.id = db.applications.length} {t : ApplicationStatus}
    (ht : db.status id = some t) : (db.addApplication a h).status id = some t := by
  obtain ⟨x, hx, rfl⟩ := Option.map_eq_some_iff.mp ht
  have hfound : (db.addApplication a h).application id = some x := lookup_append hx
  rw [status, hfound, Option.map_some]

theorem invitationOf_addInvitation {x : Invitation} {h : x.id = db.invitations.length}
    (hi : db.invitationOf i = some id) : (db.addInvitation x h).invitationOf i = some id := by
  obtain ⟨y, hy, rfl⟩ := Option.map_eq_some_iff.mp hi
  have hfound : Table.lookup Invitation.id i (db.addInvitation x h).invitations = some y :=
    lookup_append hy
  rw [invitationOf, hfound, Option.map_some]

theorem invitationOf_writeInvitations {f : Invitation → Invitation} (hf : ∀ i, (f i).id = i.id)
    (happ : ∀ i, (f i).applicationId = i.applicationId) (i : InvitationId) :
    (db.writeInvitations f hf).invitationOf i = db.invitationOf i := by
  unfold invitationOf writeInvitations Table.lookup
  dsimp only
  rw [List.find?_map, Option.map_map]
  have hkey : (fun r : Invitation => decide (r.id = i)) ∘ f = fun r => decide (r.id = i) := by
    funext r
    simp [hf]
  have hown : (fun r : Invitation => r.applicationId) ∘ f = fun r => r.applicationId :=
    funext happ
  rw [hkey, hown]

theorem invitationOf_of_mem {x : Invitation} (h : x ∈ db.invitations) :
    db.invitationOf x.id = some x.applicationId := by
  have hnodup : (db.invitations.map Invitation.id).Nodup := by
    rw [db.invitationsNumbered]
    exact List.nodup_range
  rw [invitationOf, Table.lookup_of_mem hnodup h, Option.map_some]

theorem mem_ids_iff : i ∈ (db.invitations.filter (·.applicationId = id)).map (·.id) ↔
    db.invitationOf i = some id := by
  constructor
  · intro h
    obtain ⟨x, hx, rfl⟩ := List.mem_map.mp h
    obtain ⟨hmem, happ⟩ := List.mem_filter.mp hx
    rw [invitationOf_of_mem hmem, of_decide_eq_true happ]
  · intro h
    obtain ⟨x, hx, happ⟩ := Option.map_eq_some_iff.mp h
    obtain ⟨hmem, hid⟩ := Table.lookup_eq_some hx
    exact List.mem_map.mpr ⟨x, List.mem_filter.mpr ⟨hmem, by simpa using happ⟩, hid⟩

end Db

/-! ## What the calls do -/

variable {db db' : Db} {caller : Caller} {id : ApplicationId} {user : UserId} {now : Instant}

theorem withApplication_ok {α : Type} {next : Application → Except AppException α} {x : α} :
    withApplication db caller id next = .ok x ↔
      caller.isAdmin = true ∧ ∃ a, db.application id = some a ∧ next a = .ok x := by
  unfold withApplication
  cases db.application id <;> simp

theorem stateOfApplication_eq (db : Db) (id : ApplicationId) : stateOfApplication db id =
    db.states.find? fun s => s.invitationId.any fun i => db.invitationOf i = some id := by
  unfold stateOfApplication
  simp only [Db.mem_ids_iff]

theorem stateOfApplication_some {s : OnboardingState} (h : stateOfApplication db id = some s) :
    s ∈ db.states ∧ ∃ i, s.invitationId = some i ∧ db.invitationOf i = some id := by
  rw [stateOfApplication_eq] at h
  have hfound := List.find?_some h
  exact ⟨List.mem_of_find?_eq_some h, by simpa [Option.any_eq_true] using hfound⟩

theorem stateOfApplication_none (h : stateOfApplication db id = none) {s : OnboardingState}
    (hs : s ∈ db.states) {i : InvitationId} (hi : s.invitationId = some i) :
    db.invitationOf i ≠ some id := by
  rw [stateOfApplication_eq] at h
  have hno := List.find?_eq_none.mp h s hs
  simpa [hi] using hno

/-- A valid invitation: found, unused, not expired, and its application is approved. -/
theorem validate_ok {invitation : Invitation} :
    validateInvitationToken db token now = .ok invitation ↔
      (token.bind fun token => db.invitations.find? (·.token = token)) = some invitation ∧
      invitation.usedAt = none ∧ now < invitation.expiresAt ∧
      db.status invitation.applicationId = some .approved := by
  unfold validateInvitationToken
  cases hfound : token.bind fun token => db.invitations.find? (·.token = token) with
  | none => simp
  | some x =>
    simp only [ite_raise_eq_ok, Except.ok.injEq, Option.some.injEq]
    constructor
    · rintro ⟨hunused, hlive, hallows, rfl⟩
      refine ⟨rfl, not_not.mp hunused, not_le.mp hlive, ?_⟩
      simpa [allowsInviteUse, Db.status, Option.any_eq_true] using hallows
    · rintro ⟨rfl, hunused, hlive, hstatus⟩
      refine ⟨not_not.mpr hunused, not_le.mpr hlive, ?_, rfl⟩
      simpa [allowsInviteUse, Db.status, Option.any_eq_true] using hstatus

theorem validate_mem {invitation : Invitation}
    (h : validateInvitationToken db token now = .ok invitation) : invitation ∈ db.invitations := by
  obtain ⟨t, -, hfind⟩ := Option.bind_eq_some_iff.mp (validate_ok.mp h).1
  exact List.mem_of_find?_eq_some hfind

theorem consume_ok (h : consumeInvitation db token user now = .ok db') :
    ∃ invitation, validateInvitationToken db token now = .ok invitation ∧
      db' = consumed db invitation user now := by
  unfold consumeInvitation at h
  cases hvalid : validateInvitationToken db token now with
  | error e => simp [hvalid, bind, Except.bind] at h
  | ok invitation =>
    simp only [hvalid, bind, Except.bind, ite_raise_eq_ok, Except.ok.injEq] at h
    exact ⟨invitation, rfl, h.2.2.symm⟩

section Consumed

variable {invitation : Invitation} {i : InvitationId}

theorem mem_states_consumed {r : OnboardingState} :
    r ∈ (consumed db invitation user now).states ↔
      r = invitedState db invitation user ∨ r ∈ db.states ∧ r.appUserId ≠ user :=
  Db.mem_saveState

theorem invitationOf_consumed :
    (consumed db invitation user now).invitationOf i = db.invitationOf i :=
  Db.invitationOf_writeInvitations (by simp) (by simp) i

theorem status_consumed_self (h : db.status invitation.applicationId = some .approved) :
    (consumed db invitation user now).status invitation.applicationId = some .onboarded := by
  obtain ⟨a, ha, hstatus⟩ := Option.map_eq_some_iff.mp h
  unfold consumed
  rw [Db.status_writeApplication_self]
  exact Option.map_eq_some_iff.mpr ⟨a, ha, a.status_onboard now⟩

theorem status_consumed_ne (h : id ≠ invitation.applicationId) :
    (consumed db invitation user now).status id = db.status id := by
  unfold consumed
  rw [Db.status_writeApplication_ne h]
  rfl

end Consumed

theorem invitationOf_expire (i : InvitationId) :
    (expireUnusedInvitations db id now).invitationOf i = db.invitationOf i :=
  Db.invitationOf_writeInvitations (by simp) (by simp) i

/-- What a revocation does: back to review, and the row of an onboarded application goes. -/
theorem revoke_ok {discard : Bool} {reason : Option String}
    (h : revokeApplication db caller id discard reason now = .ok db') :
    caller.isAdmin = true ∧ ∃ a, db.application id = some a ∧
      (a.status = .approved ∨ a.status = .onboarded) ∧
      db'.states = (deleteStateOf db a).states ∧
      (∀ i, db'.invitationOf i = db.invitationOf i) ∧
      db'.status id = some .pendingReview ∧
      ∀ other, other ≠ id → db'.status other = db.status other := by
  unfold revokeApplication at h
  obtain ⟨hadmin, a, ha, hok⟩ := withApplication_ok.mp h
  simp only [ite_raise_eq_ok, Except.ok.injEq] at hok
  obtain ⟨hstatus, rfl⟩ := hok
  have hid : a.id = id := (Table.lookup_eq_some ha).2
  refine ⟨hadmin, a, ha, by tauto, ?_⟩
  generalize hdb : (if discard = true then expireUnusedInvitations db id now else db) = db₁
  have hinv : ∀ i, db₁.invitationOf i = db.invitationOf i := by
    intro i
    rw [← hdb]
    split_ifs
    · exact invitationOf_expire i
    · rfl
  have hstates : db₁.states = db.states := by
    rw [← hdb]
    split_ifs <;> rfl
  have happs : db₁.applications = db.applications := by
    rw [← hdb]
    split_ifs <;> rfl
  have hrow : stateOfApplication db₁ a.id = stateOfApplication db a.id := by
    simp only [stateOfApplication_eq, hinv, hstates]
  have hdelete : ∀ d : Db, (deleteStateOf d a).invitationOf = d.invitationOf ∧
      (deleteStateOf d a).applications = d.applications := by
    intro d
    unfold deleteStateOf
    split_ifs
    · split <;> exact ⟨rfl, rfl⟩
    · exact ⟨rfl, rfl⟩
  have happs' : (deleteStateOf db₁ a).applications = db.applications :=
    (hdelete db₁).2.trans happs
  refine ⟨?_, fun i => ?_, ?_, fun other hne => ?_⟩
  · change (deleteStateOf db₁ a).states = _
    unfold deleteStateOf
    rw [hrow]
    split_ifs
    · cases stateOfApplication db a.id with
      | none => exact hstates
      | some s => simp [Db.deleteState, hstates]
    · exact hstates
  · change (deleteStateOf db₁ a).invitationOf i = _
    rw [(hdelete db₁).1, hinv]
  · rw [Db.status_writeApplication_self]
    have hfound : (deleteStateOf db₁ a).application id = some a := by
      rw [Db.application, happs']
      exact ha
    rw [hfound, Option.map_some]
    rfl
  · rw [Db.status_writeApplication_ne hne]
    unfold Db.status Db.application
    rw [happs']

end Deltapreneur.Creator
