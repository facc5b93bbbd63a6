import Deltapreneur.Core
import Deltapreneur.Lib.Run
import Deltapreneur.Lib.Table
import Deltapreneur.Lib.Trim
import Deltapreneur.Lib.UnitOfWork

/-!
# Applications of virtual assistants

Model of `VirtualAssistantService.submit_application`
(`app/service/virtual_assistant/virtual_assistant_service.py:111-282`) and of `update_status`,
`update_role_status`, `create_application` and `delete_application` of
`VirtualAssistantAdminService` (`app/service/admin/virtual_assistant_admin_service.py:278-357`,
`428-472`, `874-1085`, `1493-1513`), with the roles as their controllers read them.

* A session executes one statement at a time, at READ COMMITTED; sessions interleave in any way.
  `expire_on_commit` is on and `autoflush` is off: an operation reads its rows anew after a commit,
  and sends its changes when it commits. A column is sent if it differs from what was read.
* The role that `update_role_status` holds is not read again by its later queries.
* A creation can fail anywhere between its check and its insert: `abandon`. The files, the links
  and the reference numbers are part of that.
* The role rows of an application are part of its row; the foreign key deletes them with it. An
  application has its role rows from the start: `_ensure_roles`, which adds them to older ones, is
  left out.
* Ids are counted up. Notifications, mails and review dates are left out.
-/

namespace Deltapreneur.Assistant

open UnitOfWork (flushColumn)

abbrev Text := List Char

/-! ## Rows -/

/-- `role_status_enum`. -/
inductive RoleStatus
  | pending | approved | rejected
  deriving Repr, DecidableEq

/-- `overall_status_enum`. -/
inductive OverallStatus
  | pending | partiallyApproved | approved | rejected
  deriving Repr, DecidableEq

def OverallStatus.text : OverallStatus → String
  | .pending => "pending"
  | .partiallyApproved => "partially_approved"
  | .approved => "approved"
  | .rejected => "rejected"

/-- The column `status`. -/
inductive Status
  | pending | reviewing | accepted | rejected | approved
  deriving Repr, DecidableEq

/-- A row of `virtual_assistant_application_roles`. -/
structure ApplicationRole where
  id : Nat
  roleName : Text
  status : RoleStatus
  deriving Repr, DecidableEq

/-- A row of `virtual_assistant_applications`, with its roles. -/
structure Application where
  id : Nat
  isDeleted : Bool
  email : Text
  roles : Text
  status : Status
  overallStatus : OverallStatus
  workspaceLocked : Bool
  applicationRoles : List ApplicationRole
  deriving Repr, DecidableEq

namespace Application

/-- The status of each role. -/
def statuses (a : Application) : List RoleStatus := a.applicationRoles.map ApplicationRole.status

/-- What the check for an existing application looks for. -/
def Live (a : Application) : Prop :=
  a.isDeleted = false ∧ (a.overallStatus = .pending ∨ a.overallStatus = .approved)

instance (a : Application) : Decidable a.Live := inferInstanceAs (Decidable (_ ∧ _))

/-- A live application of this email for this role. -/
def LiveFor (email role : Text) (a : Application) : Prop :=
  a.email = email ∧ a.roles = role ∧ a.Live

instance (email role : Text) : DecidablePred (LiveFor email role) := fun _ =>
  inferInstanceAs (Decidable (_ ∧ _))

end Application

/-! ## The derived columns -/

/-- `_recompute_overall_status`. -/
def overallStatusOf (statuses : List RoleStatus) : OverallStatus :=
  if statuses = [] then .pending
  else if ∀ s ∈ statuses, s = .approved then .approved
  else if ∀ s ∈ statuses, s = .rejected then .rejected
  else if .approved ∈ statuses ∧ .rejected ∉ statuses then .partiallyApproved
  else if .rejected ∈ statuses ∧ .approved ∉ statuses then .rejected
  else if .approved ∈ statuses ∧ .rejected ∈ statuses then .partiallyApproved
  else .pending

/-- `_recompute_workspace_lock`. -/
def workspaceLockedOf (statuses : List RoleStatus) : Bool := .approved ∉ statuses

/-! ## Checks -/

section Checks

variable (isSpace : Char → Bool) (lower : Text → Text)

def strip (t : Text) : Text := Trim.strip isSpace t

/-- `VA_ROLE_OTHER_SENTINEL`. -/
def VA_ROLE_OTHER_SENTINEL : Text := "Other (Specify Your Role)".toList

def VA_ROLE_MAX_LEN : Nat := 100

/-- `role_list` of the controllers. -/
def roleList (roles : Text) : List Text :=
  ((roles.splitOn ',').map (strip isSpace)).filter (· ≠ [])

/-- `normalize_va_role_name`. -/
def normalizeVaRoleName (role : Text) : Except AppException Text :=
  let roleName := strip isSpace role
  if roleName = [] then raise "Exactly one Virtual Assistant role is required per application." 400
  else if roleName = VA_ROLE_OTHER_SENTINEL then
    raise "Please provide a specific role name instead of Other." 400
  else if ',' ∈ roleName then raise "Role cannot contain commas." 400
  else if VA_ROLE_MAX_LEN < roleName.length then raise "Role must be 100 characters or fewer." 400
  else .ok roleName

/-- The one role of a request, as it was given, with its normal form. -/
def oneRole (roles : List Text) : Except AppException (Text × Text) :=
  match roles with
  | [role] => (normalizeVaRoleName isSpace role).map fun roleName => (role, roleName)
  | _ => raise "Exactly one Virtual Assistant role is required per application." 400

/-- An application that has passed the check. `publish` is `none` for a submission. -/
structure Draft where
  email : Text
  roleName : Text
  publish : Option Bool
  deriving Repr, DecidableEq

/-- `submit_application` up to the check. -/
def submitApplication (apps : List Application) (email : Text) (roles : List Text) :
    Except AppException Draft :=
  (oneRole isSpace roles).bind fun role =>
    match apps.find? (Application.LiveFor (lower (strip isSpace email)) role.2 ·) with
    | some existing =>
      let current := existing.overallStatus.text
      raise s!"You already have a {current} application for {String.ofList role.2}." 409
    | none => .ok ⟨lower (strip isSpace email), role.1, none⟩

structure AdminForm where
  fullName : Text
  email : Text
  location : Text
  bio : Text
  roles : Text
  skills : Text
  yearsExperience : Text
  languages : Text
  availability : Text
  maxClientCapacity : Option ℤ
  publicMonthlyPriceInr : Option ℤ
  expectedCompensation : Text
  currentAssignedClients : ℤ
  publishImmediately : Bool
  deriving Repr, DecidableEq

/-- `create_application` up to the check. -/
def createApplication (apps : List Application) (form : AdminForm) : Except AppException Draft :=
  let email := lower (strip isSpace form.email)
  if strip isSpace form.fullName = [] then raise "Full name is required." 400
  else if email = [] then raise "Email is required." 400
  else if strip isSpace form.location = [] then raise "Location is required." 400
  else if strip isSpace form.bio = [] then raise "Short bio is required." 400
  else (oneRole isSpace (roleList isSpace form.roles)).bind fun role =>
    if strip isSpace form.skills = [] then raise "Skills are required." 400
    else if strip isSpace form.yearsExperience = [] then
      raise "Years of experience is required." 400
    else if strip isSpace form.languages = [] then raise "Languages known is required." 400
    else if strip isSpace form.availability = [] then raise "Availability must be selected." 400
    else if form.maxClientCapacity.all (· < 1) then
      raise "Maximum Client Capacity must be configured." 400
    else if form.publicMonthlyPriceInr.all (· < 0) then
      raise "Customer Monthly Price must be set." 400
    else if strip isSpace form.expectedCompensation = [] then
      raise "Expected compensation is required." 400
    else if form.maxClientCapacity.any (· < max 0 form.currentAssignedClients) then
      raise "Current assigned clients cannot exceed maximum client capacity." 400
    else match apps.find? (Application.LiveFor email role.2 ·) with
      | some existing =>
        let current := existing.overallStatus.text
        raise s!"A {current} application already exists for {String.ofList role.2}." 409
      | none => .ok ⟨email, role.1, some form.publishImmediately⟩

end Checks

def Draft.row (d : Draft) (id : Nat) : Application :=
  let published := d.publish = some true
  { id
    isDeleted := false
    email := d.email
    roles := d.roleName
    status := if published then .approved else .pending
    overallStatus := if published then .approved else .pending
    workspaceLocked := true
    applicationRoles := [⟨id, d.roleName, if published then .approved else .pending⟩] }

/-! ## Sessions -/

/-- What a session recomputes the derived columns for. -/
inductive Cause
  | created
  /-- A decided role, with the status of it that the session holds. -/
  | decided (role : Nat) (held : RoleStatus)
  /-- `update_status`; `none` is `partially_approved`. -/
  | status (new : Option Status)
  deriving Repr, DecidableEq

/-- Where a session is in its operation. -/
inductive Phase
  | idle
  /-- The check has passed. -/
  | passed (d : Draft)
  /-- The role is read, and its new status is not committed. -/
  | deciding (app role : Nat) (loaded new : RoleStatus)
  /-- The status of the role is committed. -/
  | decided (app role : Nat)
  | refreshed (app role : Nat) (held : RoleStatus)
  /-- The new application is committed. -/
  | created (app : Nat)
  /-- The application is read. -/
  | opened (cause : Cause) (loaded : Application)
  /-- The roles are read for the overall status. -/
  | rated (cause : Cause) (loaded : Application) (first : List RoleStatus)
  /-- The roles are read for the lock. -/
  | ready (cause : Cause) (loaded : Application) (first second : List RoleStatus)
  deriving Repr, DecidableEq

/-- The statuses that a query returns to a session. -/
def Cause.sees (cause : Cause) (roles : List ApplicationRole) : List RoleStatus :=
  roles.map fun r =>
    match cause with
    | .decided role held => if r.id = role then held else r.status
    | _ => r.status

/-- The column `status` after the commit. -/
def Cause.flushStatus (cause : Cause) (loaded row : Status) : Status :=
  match cause with
  | .status (some new) => flushColumn loaded new row
  | _ => row

/-- What the commit leaves in the row. -/
def flush (cause : Cause) (loaded : Application) (first second : List RoleStatus)
    (row : Application) : Application :=
  { row with
    status := cause.flushStatus loaded.status row.status
    overallStatus := flushColumn loaded.overallStatus (overallStatusOf first) row.overallStatus
    workspaceLocked :=
      flushColumn loaded.workspaceLocked (workspaceLockedOf second) row.workspaceLocked }

/-- The database, the next id, and the sessions. -/
structure World (ι : Type) where
  apps : List Application
  nextId : Nat
  session : ι → Phase

/-- What a session is asked to do. -/
inductive Act
  | submit (email roles : Text)
  | create (form : AdminForm)
  | abandon
  | updateRoleStatus (app role : Nat) (new : RoleStatus)
  | updateStatus (app : Nat) (new : Option Status)
  | delete (app : Nat)
  /-- The next statement of the operation in hand. -/
  | next
  deriving Repr, DecidableEq

section Step

variable (isSpace : Char → Bool) (lower : Text → Text) {ι : Type}

def World.find (w : World ι) (app : Nat) : Option Application :=
  Table.lookup Application.id app w.apps

/-- The role row of an application. -/
def World.findRole (w : World ι) (app role : Nat) : Option ApplicationRole :=
  (w.find app).bind fun a => Table.lookup ApplicationRole.id role a.applicationRoles

/-- What the commit leaves in the row of a role. -/
def ApplicationRole.decide (loaded new : RoleStatus) (r : ApplicationRole) : ApplicationRole :=
  { r with status := flushColumn loaded new r.status }

/-- `UPDATE virtual_assistant_application_roles SET status = …`. -/
def decideRole (role : Nat) (loaded new : RoleStatus) (a : Application) : Application :=
  let decided := Table.update ApplicationRole.id role (.decide loaded new) a.applicationRoles
  { a with applicationRoles := decided }

/-- The first statement of an operation. -/
def start (w : World ι) : Act → List Application × Phase
  | .submit email roles =>
    match submitApplication isSpace lower w.apps email (roleList isSpace roles) with
    | .ok d => (w.apps, .passed d)
    | .error _ => (w.apps, .idle)
  | .create form =>
    match createApplication isSpace lower w.apps form with
    | .ok d => (w.apps, .passed d)
    | .error _ => (w.apps, .idle)
  | .updateRoleStatus app role new =>
    match w.findRole app role with
    | some r => (w.apps, .deciding app role r.status new)
    | none => (w.apps, .idle)
  | .updateStatus app new =>
    match w.find app with
    | some a => (w.apps, if a.isDeleted then .idle else .opened (.status new) a)
    | none => (w.apps, .idle)
  | .delete app => (w.apps.filter fun a => a.id ≠ app ∨ a.isDeleted = true, .idle)
  | .abandon | .next => (w.apps, .idle)

/-- The next statement of an operation; an exception ends it. -/
def advance (w : World ι) : Phase → List Application × Phase
  | .idle => (w.apps, .idle)
  | .passed d =>
    (w.apps ++ [d.row w.nextId], if d.publish.isSome then .created w.nextId else .idle)
  | .deciding app role loaded new =>
    match w.findRole app role with
    | some _ => (Table.update Application.id app (decideRole role loaded new) w.apps,
        .decided app role)
    | none => (w.apps, .idle)
  | .decided app role =>
    match w.findRole app role with
    | some r => (w.apps, .refreshed app role r.status)
    | none => (w.apps, .idle)
  | .refreshed app role held =>
    match w.find app with
    | some a => (w.apps, if a.isDeleted then .idle else .opened (.decided role held) a)
    | none => (w.apps, .idle)
  | .created app =>
    match w.find app with
    | some a => (w.apps, .opened .created a)
    | none => (w.apps, .idle)
  | .opened cause loaded =>
    match w.find loaded.id with
    | some a => (w.apps, .rated cause loaded (cause.sees a.applicationRoles))
    | none => (w.apps, .idle)
  | .rated cause loaded first =>
    match w.find loaded.id with
    | some a => (w.apps, .ready cause loaded first (cause.sees a.applicationRoles))
    | none => (w.apps, .idle)
  | .ready cause loaded first second =>
    (Table.update Application.id loaded.id (flush cause loaded first second) w.apps, .idle)

/-- The session `i` executes one statement. -/
def step [DecidableEq ι] (w : World ι) (l : ι × Act) : World ι :=
  let r := match w.session l.1, l.2 with
    | .idle, act => start isSpace lower w act
    | .passed _, .abandon => (w.apps, .idle)
    | phase, .next => advance w phase
    | phase, _ => (w.apps, phase)
  let inserted := match w.session l.1, l.2 with
    | .passed _, .next => true
    | _, _ => false
  { apps := r.1
    nextId := if inserted then w.nextId + 1 else w.nextId
    session := Function.update w.session l.1 r.2 }

end Step

end Deltapreneur.Assistant
