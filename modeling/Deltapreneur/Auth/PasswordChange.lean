import Deltapreneur.Auth.Rotation
import Deltapreneur.Lib.Requests

/-!
# Password changes, one database step at a time

Everything that issues, accepts or cuts off a user's tokens, when any number of requests run at the
same time: `login`, `refresh_access_token`, `forgot_password`, `reset_password`, `change_password`
and `set_password` (`app/service/auth/auth_service.py:289-391, 475-568, 967-1202`), the REST
dependency `get_current_user` (`app/core/dependencies.py:43-160`) and the endpoints that decode the
access token on their own: the websockets (`auction_socket.py`, `community_auction_ws.py`,
`notification_socket.py` in `app/websocket`), `/chat/stream`
(`app/controller/ai/cobrother_ai_controller.py:368-410`) and `/referrals/track`
(`app/controller/user/edge_points_controller.py:35-58, 97-104`).

* The tables hold the rows of one user. Ids of refresh and reset tokens, and of access tokens, are
  positions in the order of their issue; a raw token and its hash are named by its id. A hash is the
  password it verifies.
* A refresh moves as in `Rotation`. The moves of a change are its first read, the `DELETE` of reset
  tokens, the `SELECT` of refresh tokens and the commit. A reset token is issued when it is mailed,
  and stored when its request commits. The revocation of a login is one move, the insertion of its
  row another.
* `change_password` and `set_password` change a user that belongs to no session: what they assign
  is stored nowhere.
* `cut` is the last change that has reported success, with how many tokens had been issued by then;
  `granted` is what was accepted. Only the statements read these.
* Statements go through, a mail may fail. `active`, `is_deleted` and `email_verified` stay as they
  are.
-/

namespace Deltapreneur.Auth.PasswordChange

open Requests

abbrev Password := Nat
abbrev AccessId := Nat
abbrev ResetId := Nat

def PASSWORD_RESET_EXPIRY_MINUTES : Nat := 30

structure Config extends Settings where
  jwtAccessTokenExpireMs : Nat
  deriving Repr, DecidableEq

/-- A row of `users`. -/
structure AppUser where
  id : UserId
  password : Option Password
  passwordChangedAt : Option Instant
  emailVerified : Bool
  account : Account
  deriving Repr, DecidableEq

/-- The claims of an access token that are read; times are in seconds. -/
structure AccessToken where
  sessionPublicId : SessionId
  iat : Nat
  exp : Nat
  deriving Repr, DecidableEq

/-- A row of `password_reset_tokens`, from the mail on. -/
inductive ResetToken
  | mailed
  | stored (expiresAt : Instant) (usedAt : Option Instant)
  | deleted
  deriving Repr, DecidableEq

/-- A change that has reported success, and the numbers of tokens and sessions by then. -/
structure Cut where
  password : Password
  tokens : TokenId
  access : AccessId
  resets : ResetId
  sessions : SessionId
  deriving Repr, DecidableEq

/-- Something was accepted; the session of a login comes with its access token. -/
inductive Grant
  | login (password : Password) (access : AccessToken) (now : Instant)
  | refresh (token : TokenId)
  | rest (access : AccessId)
  | endpoint (access : AccessId)
  | reset (token : ResetId)
  deriving Repr, DecidableEq

structure Db where
  user : AppUser
  tokens : Tokens
  access : List AccessToken
  resets : List ResetToken
  /-- The number of sessions opened, which names the next one. -/
  opened : SessionId
  cut : Option Cut
  granted : List Grant

/-! ## The tests -/

/-- The tests of `login`. -/
def AppUser.loginAccepts (u : AppUser) (pw : Password) : Bool :=
  !u.account.isDeleted && u.password = some pw && u.emailVerified && u.account.active

/-- `_is_eligible_for_password_reset`. -/
def AppUser.isEligibleForPasswordReset (u : AppUser) : Bool :=
  u.account.active && !u.account.isDeleted && u.emailVerified

/-- `access_token_invalidated_by_password_change`. -/
def AppUser.invalidates (u : AppUser) (iat : Nat) : Bool :=
  u.passwordChangedAt.any (iat * second < ·)

/-- `create_access_token`. -/
def createAccessToken (cfg : Config) (session : SessionId) (now : Instant) : AccessToken where
  sessionPublicId := session
  iat := now / second
  exp := (now + cfg.jwtAccessTokenExpireMs * millisecond) / second

/-- `jwt.decode` rejects the token. -/
def AccessToken.expired (a : AccessToken) (now : Instant) : Bool := a.exp < now / second

/-- `_resolve_current_user`. -/
def Db.restAccepts (db : Db) (a : AccessToken) (now : Instant) : Bool :=
  !a.expired now &&
    (db.tokens.any fun t => t.sessionPublicId = a.sessionPublicId && !t.revoked &&
      now < t.expiresAt && t.userId = db.user.id) &&
    !db.user.account.isDeleted && db.user.account.active && !db.user.invalidates a.iat

/-- An endpoint that does not use `get_current_user`. -/
inductive Endpoint
  | auction | communityAuction | notification | chatStream | referralsTrack
  deriving Repr, DecidableEq

/-- `_resolve_user_id` of the websockets, `_safe_optional_current_user` of the chat and
`_resolve_optional_visitor` of the referrals: the token makes the caller the user. Only the
notifications look at the time of the last password change; none looks at the session. -/
def Db.endpointAccepts (db : Db) (a : AccessToken) (now : Instant) : Endpoint → Bool
  | .auction | .communityAuction | .chatStream | .referralsTrack =>
    !a.expired now && db.user.account.active && !db.user.account.isDeleted
  | .notification =>
    !a.expired now && db.user.account.active && !db.user.account.isDeleted &&
      !db.user.invalidates a.iat

/-- The tests of `reset_password` on the row of the token. -/
def ResetToken.accepts (now : Instant) : ResetToken → Bool
  | .stored expiresAt none => !(expiresAt < now)
  | .stored _ (some _) | .mailed | .deleted => false

/-- A query finds the row. -/
def ResetToken.visible : ResetToken → Bool
  | .stored _ _ => true
  | .mailed | .deleted => false

/-- A query finds the row, and `used_at` is not set. -/
def ResetToken.unused : ResetToken → Bool
  | .stored _ none => true
  | .stored _ (some _) | .mailed | .deleted => false

/-! ## Requests -/

inductive Op
  | login (pw : Password) (deviceName : Option String)
  | refresh (token : TokenId)
  | forgotPassword
  | resetPassword (token : ResetId) (new : Password)
  | changePassword (access : AccessId) (current new : Password)
  | setPassword (access : AccessId) (new : Password)
  | rest (access : AccessId)
  | endpoint (endpoint : Endpoint) (access : AccessId)
  deriving Repr, DecidableEq

/-- Whether a change assigns to a user of its own session, with the token it uses up and its
`now`. -/
inductive Via
  | reset (token : ResetId) (now : Instant)
  | detached
  deriving Repr, DecidableEq

structure Change where
  new : Password
  via : Via
  deriving Repr, DecidableEq

/-- Where a request is. -/
inductive Stage
  | called (op : Op)
  /-- `login`: the password is right. -/
  | revoking (pw : Password) (deviceName : Option String)
  | inserting (pw : Password) (deviceName : Option String)
  | refreshing (c : Call)
  /-- `forgot_password`. -/
  | requesting
  | storing (token : ResetId) (deleted : List ResetId)
  /-- A change that has passed its tests. -/
  | deleting (ch : Change)
  | selecting (ch : Change) (deleted : List ResetId)
  | committing (ch : Change) (deleted : List ResetId) (selected : List TokenId)
      (selectedAt : Instant)
  | done

/-- What the environment decides for a move: the clock, and whether a mail goes out. -/
structure Env where
  now : Instant
  mailed : Bool

/-! ## The moves -/

def Db.grant (db : Db) (g : Grant) : Db := { db with granted := db.granted ++ [g] }

/-- A change reports success. -/
def Db.succeed (db : Db) (new : Password) : Db :=
  { db with
    cut := some ⟨new, db.tokens.length, db.access.length, db.resets.length, db.opened⟩ }

/-- The access token passes the REST dependency. -/
def Db.authenticates (db : Db) (a : AccessId) (now : Instant) : Bool :=
  (db.access[a]?).any (db.restAccepts · now)

/-- A refresh issues an access token at a move: with the link, or for a duplicate. -/
def issuesAccess (c : Call) (pc : Pc) : Bool :=
  match c.pc, pc with
  | .link _, .done (.ok _) | .descend _ _ _, .done (.ok _) => true
  | _, _ => false

/-- A refresh accepts the token presented at a move: it rotates it, or takes it for a duplicate. -/
def acceptsRefresh (c : Call) (pc : Pc) : Bool :=
  match c.pc, pc with
  | .rotate _, _ | .descend _ _ _, .done (.ok _) => true
  | _, _ => false

/-- A move of `refresh_access_token`. -/
def Db.refresh (cfg : Config) (db : Db) (now : Instant) (c : Call) : Db × Stage :=
  let r := c.move cfg.toSettings db.tokens db.user.account now
  ({ db with
      tokens := r.1
      access := db.access ++
        if issuesAccess c r.2 then
          (db.tokens[c.presented]?).toList.map fun t : RefreshToken =>
            createAccessToken cfg t.sessionPublicId now
        else []
      granted := db.granted ++ if acceptsRefresh c r.2 then [.refresh c.presented] else [] },
    .refreshing { c with pc := r.2 })

/-- The first read of a request. -/
def Db.call (cfg : Config) (db : Db) (now : Instant) : Op → Db × Stage
  | .login pw deviceName =>
    (db, if db.user.loginAccepts pw then .revoking pw deviceName else .done)
  | .refresh token => db.refresh cfg now ⟨token, .read, none⟩
  | .forgotPassword => (db, if db.user.isEligibleForPasswordReset then .requesting else .done)
  | .resetPassword token new =>
    (db, if (db.resets[token]?).any (·.accepts now) && db.user.isEligibleForPasswordReset then
        .deleting ⟨new, .reset token now⟩ else .done)
  | .changePassword a current new =>
    if db.authenticates a now then
      (db.grant (.rest a),
        if db.user.password = some current then .deleting ⟨new, .detached⟩ else .done)
    else (db, .done)
  | .setPassword a new =>
    if db.authenticates a now then
      (db.grant (.rest a), if db.user.password = none then .deleting ⟨new, .detached⟩ else .done)
    else (db, .done)
  | .rest a => (if db.authenticates a now then db.grant (.rest a) else db, .done)
  | .endpoint endpoint a =>
    (if (db.access[a]?).any (db.endpointAccepts · now endpoint) then db.grant (.endpoint a) else db,
      .done)

/-- The insertion of `_create_authenticated_session`. -/
def Db.insertSession (cfg : Config) (db : Db) (now : Instant) (pw : Password)
    (deviceName : Option String) : Db :=
  let row := loginRow cfg.toSettings db.user.id db.opened deviceName now
  if fits row then
    { db with
      tokens := db.tokens ++ [row]
      opened := db.opened + 1
      access := db.access ++ [createAccessToken cfg db.opened now]
      granted := db.granted ++ [.login pw (createAccessToken cfg db.opened now) now] }
  else db

/-- The ids of the rows that a `DELETE` finds. -/
def idsOf (resets : List ResetToken) (p : ResetId → ResetToken → Bool) : List ResetId :=
  (List.range resets.length).filter fun i => (resets[i]?).any (p i)

def deleteRows (resets : List ResetToken) (ids : List ResetId) : List ResetToken :=
  resets.mapIdx fun i t => if i ∈ ids then .deleted else t

/-- The rows after `forgot_password` commits: its `DELETE`, and the row of the token it has
mailed. -/
def storeRow (resets : List ResetToken) (deleted : List ResetId) (token : ResetId)
    (expiresAt : Instant) : List ResetToken :=
  (deleteRows resets deleted).modify token fun
    | .mailed => .stored expiresAt none
    | t => t

/-- The rows a change deletes: `delete_all_except` the token it uses, or `delete_all_for_user`. -/
def Via.deletes : Via → ResetId → Bool
  | .reset token _, i => i ≠ token
  | .detached, _ => true

/-- The commit of a change, with the rows its `DELETE` and its `SELECT` have found. A token whose
row is gone fails it. -/
def Db.commit (db : Db) (ch : Change) (deleted : List ResetId) (selected : List TokenId)
    (selectedAt : Instant) : Db :=
  let cutOff := { db with
    resets := deleteRows db.resets deleted
    tokens := db.tokens.revokeRows selected selectedAt .passwordChanged }
  match ch.via with
  | .detached => cutOff.succeed ch.new
  | .reset token now =>
    match db.resets[token]? with
    | some (.stored expiresAt _) =>
      ({ cutOff with
          user := { db.user with password := some ch.new, passwordChangedAt := some now }
          resets := (deleteRows db.resets deleted).set token (.stored expiresAt (some now))
          granted := db.granted ++ [Grant.reset token] }).succeed ch.new
    | _ => db

def Db.move (cfg : Config) (db : Db) (e : Env) : Stage → Db × Stage
  | .called op => db.call cfg e.now op
  | .revoking pw deviceName =>
    ({ db with
        tokens := revokeAllUserTokens db.tokens db.user.id .logout (some cfg.sessionScope) e.now },
      .inserting pw deviceName)
  | .inserting pw deviceName => (db.insertSession cfg e.now pw deviceName, .done)
  | .refreshing c => db.refresh cfg e.now c
  | .requesting =>
    if e.mailed then
      ({ db with resets := db.resets ++ [.mailed] },
        .storing db.resets.length (idsOf db.resets fun _ t => t.unused))
    else (db, .done)
  | .storing token deleted =>
    ({ db with
        resets := storeRow db.resets deleted token
          (e.now + PASSWORD_RESET_EXPIRY_MINUTES * (60 * second)) },
      .done)
  | .deleting ch => (db, .selecting ch (idsOf db.resets fun i t => t.visible && ch.via.deletes i))
  | .selecting ch deleted =>
    (db, .committing ch deleted (db.tokens.select (ofUser db.user.id none)) e.now)
  | .committing ch deleted selected selectedAt =>
    (db.commit ch deleted selected selectedAt, .done)
  | .done => (db, .done)

def service (cfg : Config) : Service Db Stage Op Env where
  arrive := .called
  move db r e := db.move cfg e r

abbrev Step (cfg : Config) := World.step (service cfg)

/-- What the tables hold when the requests start; sessions are numbered in the order in which they
were opened. -/
structure History where
  user : AppUser
  tokens : Tokens
  access : List AccessToken
  resets : List ResetToken
  opened : SessionId
  tokensOpened : ∀ t ∈ tokens, t.sessionPublicId < opened
  accessOpened : ∀ a ∈ access, a.sessionPublicId < opened

def History.start (s : History) : Db := ⟨s.user, s.tokens, s.access, s.resets, s.opened, none, []⟩

/-! ## A clean cut -/

/-- What is accepted while `cut` is the last change: the session of a login has its password, and
its access token is good; a token was issued after it; no reset token is accepted twice. -/
def Rightful (db db' : Db) : Grant → Prop
  | .login pw a now => ∀ c ∈ db.cut, pw = c.password ∧ db'.restAccepts a now = true
  | .refresh token => ∀ c ∈ db.cut, c.tokens ≤ token
  | .rest a | .endpoint a => ∀ c ∈ db.cut, c.access ≤ a
  | .reset token => (∀ c ∈ db.cut, c.resets ≤ token) ∧ .reset token ∉ db.granted

/-- What holds once a change has reported success: its password is the one that `login` accepts,
and the tokens issued before are rejected. -/
structure Clean (db : Db) : Prop where
  login : ∀ c ∈ db.cut, ∀ pw, db.user.loginAccepts pw = true ↔ pw = c.password
  refresh : ∀ c ∈ db.cut, ∀ i t, db.tokens[i]? = some t → i < c.tokens → t.revoked = true
  rest : ∀ c ∈ db.cut, ∀ i a, db.access[i]? = some a → i < c.access →
    ∀ now, db.restAccepts a now = false
  reset : ∀ c ∈ db.cut, ∀ i t, db.resets[i]? = some t → i < c.resets →
    ∀ now, t.accepts now = false

/-- **A clean cut.** All that a move accepts is rightful, and the database it leaves is clean. -/
structure CleanCut (db db' : Db) : Prop where
  rightful : ∀ g ∈ db'.granted.drop db.granted.length, Rightful db db' g
  clean : Clean db'

/-! ## The condition -/

/-- The rows that are unrevoked, or not used, are those that a change has found, and its own. -/
def Covered (db : Db) (via : Via) (deleted : List ResetId) (selected : List TokenId) : Prop :=
  (∀ i t, db.tokens[i]? = some t → t.revoked = false → i ∈ selected) ∧
    ∀ i t, db.resets[i]? = some t → t.unused = true → via.deletes i = true → i ∈ deleted

/-- The condition on a move.

* An endpoint with an authentication of its own is given an access token issued after the last
  change, or one that has expired, or, for notifications, one whose `iat` is before
  `password_changed_at`.
* A login inserts its row: the password is still the stored one, and the second of its `iat` does
  not begin before `password_changed_at`.
* A refresh rotates a token that no change has cut off since it was read.
* A request for a reset link commits: no change has succeeded since the mail went out.
* A change commits: the token of a reset is not used yet, `change_password` and `set_password` are
  given the password that is stored already, and nothing was added since the rows were found. -/
def Proper (cfg : Config) (db : Db) (r : Stage) (e : Env) : Prop :=
  match r with
  | .called (.endpoint endpoint a) => ∀ t ∈ db.access[a]?, ∀ c ∈ db.cut, a < c.access →
      t.expired e.now = true ∨ (endpoint = .notification ∧ db.user.invalidates t.iat = true)
  | .inserting pw deviceName => ∀ _ ∈ db.cut,
      fits (loginRow cfg.toSettings db.user.id db.opened deviceName e.now) = true →
      db.user.password = some pw ∧ db.user.invalidates (e.now / second) = false ∧
        0 < cfg.jwtRefreshTokenExpireMs
  | .refreshing c => ∀ t, c.pc = .rotate t → ∀ k ∈ db.cut, k.tokens ≤ c.presented
  | .storing token _ => ∀ c ∈ db.cut, token < c.resets → db.resets[token]? ≠ some .mailed
  | .committing ch deleted selected _ =>
    match ch.via with
    | .detached => db.user.loginAccepts ch.new = true ∧ Covered db .detached deleted selected
    | .reset token now => ∀ expiresAt usedAt,
        db.resets[token]? = some (.stored expiresAt usedAt) →
        usedAt = none ∧ Covered db (.reset token now) deleted selected
  | _ => True

end Deltapreneur.Auth.PasswordChange
