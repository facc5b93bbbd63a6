import Deltapreneur.Auth.SingleSession

/-!
# Refresh-token rotation, one database step at a time

Model of `refresh_access_token` (`app/service/auth/auth_service.py:401-568`) when any number of
calls run at the same time, in any number of processes. A call is a program counter (`Pc`), and
each of its moves is one statement or one transaction:

* `read`: the `SELECT` by hash, and the tests on what it returns;
* `descend`: one turn of `_latest_active_descendant`, on the row as it then is;
* `chainSelect`, `chainCommit`: `revoke_session_chain`, which selects first and commits the rows
  it selected;
* `rotate`, `link`: the two commits of a rotation.

A process may stop before any move. What a call reads of `users` comes with the move, and time
passes by any amount before a move.

The state also keeps when which token was rotated (`rotations`), and every call when it read its
token and whether that had been rotated by then (`seen`). Only the laws look at these.
-/

namespace Deltapreneur.Auth

/-- Where a call is; `t` is the row presented, as the call has read it. -/
inductive Pc
  | read
  | descend (t : RefreshToken) (visited : List TokenId) (current : TokenId)
  | chainSelect (t : RefreshToken) (reason : RevocationReason) (e : AppException)
  | chainCommit (t : RefreshToken) (ids : List TokenId) (reason : RevocationReason)
      (e : AppException) (selectedAt : Instant)
  | rotate (t : RefreshToken)
  | link (child : TokenId)
  | done (reply : Except AppException RefreshReply)
  | stopped

structure Call where
  presented : TokenId
  pc : Pc
  /-- The time the token had been rotated at when the call read it, and the time of that read. -/
  seen : Option (Instant × Instant)

structure Refreshes where
  tokens : Tokens
  calls : List Call
  clock : Instant
  rotations : List (TokenId × Instant)

/-- The time of the first rotation of a token. -/
def Refreshes.rotatedAt (s : Refreshes) (id : TokenId) : Option Instant :=
  (s.rotations.find? fun r => r.1 = id).map (·.2)

/-! ## The moves of a call -/

/-- A revoked token that is no duplicate: the session goes, when the token has a replacement. -/
def reused (t : RefreshToken) : Pc :=
  if t.replacedByTokenId.isSome then .chainSelect t .reuseDetected ⟨"Refresh token revoked", 401⟩
  else .done (raise "Refresh token revoked" 401)

/-- The `SELECT` by hash and what follows from it. -/
def readPc (tokens : Tokens) (presented : TokenId) (user : Account) (now : Instant) : Pc :=
  match tokens[presented]? with
  | none => .done (raise "Invalid refresh token" 401)
  | some t =>
    if t.revoked then
      match t.graceChild now with
      | some child => .descend t [] child
      | none => reused t
    else if t.expiresAt < now then .done (raise "Refresh token expired" 401)
    else if user.isDeleted then .chainSelect t .logout ⟨"Invalid refresh token", 401⟩
    else if ¬ user.active then .chainSelect t .logout ⟨"Account is deactivated", 403⟩
    else .rotate t

/-- One turn of `_latest_active_descendant`, and the end of `_inflight_rotated_refresh`. -/
def descendPc (tokens : Tokens) (t : RefreshToken) (visited : List TokenId) (current : TokenId)
    (user : Account) (now : Instant) : Pc :=
  if current ∈ visited then reused t
  else match descend tokens[current]? now with
    | .nothing => reused t
    | .next child => .descend t (current :: visited) child
    | .found =>
      if tokens[current]?.all (fun child => child.sessionPublicId ≠ t.sessionPublicId) ||
          user.isDeleted || !user.active then reused t
      else .done (.ok .accessOnly)

/-- The next move of a call: the table after it, and where the call is then. -/
def Call.move (cfg : Settings) (tokens : Tokens) (user : Account) (now : Instant) (c : Call) :
    Tokens × Pc :=
  match c.pc with
  | .read => (tokens, readPc tokens c.presented user now)
  | .descend t visited current => (tokens, descendPc tokens t visited current user now)
  | .chainSelect t reason e =>
    (tokens, .chainCommit t (tokens.select (ofSession t.sessionPublicId)) reason e now)
  | .chainCommit _ ids reason e selectedAt =>
    (tokens.revokeRows ids selectedAt reason, .done (.error e))
  | .rotate t => (tokens.rotate c.presented t cfg now, .link tokens.length)
  | .link child => (tokens.link c.presented child, .done (.ok (.rotated child)))
  | .done reply => (tokens, .done reply)
  | .stopped => (tokens, .stopped)

/-! ## The system -/

inductive Move
  | present (id : TokenId)
  | run (k : Nat) (elapsed : Nat) (user : Account)
  | stop (k : Nat)

/-- A call after its move; the first one notes whether the token had been rotated. -/
def Refreshes.after (s : Refreshes) (c : Call) (pc : Pc) (now : Instant) : Call where
  presented := c.presented
  pc := pc
  seen := match c.pc with
    | .read => (s.rotatedAt c.presented).map (·, now)
    | _ => c.seen

/-- The process of a call stops; one that has ended stays as it is. -/
def Call.stop (c : Call) : Call :=
  match c.pc with
  | .done _ => c
  | _ => { c with pc := .stopped }

def rotationStep (cfg : Settings) (s : Refreshes) : Move → Refreshes
  | .present id => { s with calls := s.calls ++ [⟨id, .read, none⟩] }
  | .run k elapsed user =>
    match s.calls[k]? with
    | none => { s with clock := s.clock + elapsed }
    | some c =>
      let now := s.clock + elapsed
      let r := c.move cfg s.tokens user now
      { tokens := r.1
        calls := s.calls.set k (s.after c r.2 now)
        clock := now
        rotations := match c.pc with
          | .rotate _ => s.rotations ++ [(c.presented, now)]
          | _ => s.rotations }
  | .stop k => { s with calls := s.calls.modify k Call.stop }

/-- A login, as `_create_authenticated_session` stores it. -/
structure Login where
  user : UserId
  deviceName : Option String
  time : Instant

/-- Any number of sessions, each just logged in. -/
def loggedIn (cfg : Settings) (logins : List Login) (clock : Instant) : Refreshes where
  tokens := logins.mapIdx fun session l => loginRow cfg l.user session l.deviceName l.time
  calls := []
  clock := clock
  rotations := []

/-! ## The laws -/

/-- No call is between two of its database steps. -/
def Refreshes.Quiet (s : Refreshes) : Prop :=
  ∀ c ∈ s.calls, c.pc = .read ∨ c.pc = .stopped ∨ ∃ reply, c.pc = .done reply

/-- Every token of the session is revoked. -/
def Refreshes.Dead (s : Refreshes) (session : SessionId) : Prop :=
  ∀ t ∈ s.tokens, t.sessionPublicId = session → t.revoked = true

/-- **One live token.** While no call is on its way, a session has at most one unrevoked token. -/
def Refreshes.OneLive (s : Refreshes) : Prop :=
  s.Quiet → ∀ (i j : TokenId) (t u : RefreshToken), s.tokens[i]? = some t →
    s.tokens[j]? = some u → t.sessionPublicId = u.sessionPublicId → t.revoked = false →
    u.revoked = false → i = j

/-- The token was presented within the grace period of its rotation. -/
def Call.InGrace (c : Call) : Prop :=
  ∃ rotated read, c.seen = some (rotated, read) ∧ read ≤ rotated + REFRESH_REUSE_GRACE

/-- The token was presented after the grace period of its rotation. -/
def Call.Reuse (c : Call) : Prop :=
  ∃ rotated read, c.seen = some (rotated, read) ∧ rotated + REFRESH_REUSE_GRACE < read

def Call.isDone (c : Call) : Prop := ∃ reply, c.pc = .done reply

/-- **Reuse is detected.** When a call with a token rotated longer ago than the grace period ends,
every token of the session is revoked. -/
def ReuseRevokes (s : Refreshes) (m : Move) (s' : Refreshes) : Prop :=
  match m with
  | .run k _ _ => ∀ c c' t, s.calls[k]? = some c → s'.calls[k]? = some c' → ¬ c.isDone →
    c'.isDone → c'.Reuse → s'.tokens[c'.presented]? = some t → s'.Dead t.sessionPublicId
  | _ => True

/-- **Duplicates are harmless.** A call with a token rotated within the grace period changes no
token and returns no refresh token. -/
def GraceSpares (s : Refreshes) (m : Move) (s' : Refreshes) : Prop :=
  match m with
  | .run k _ _ => ∀ c', s'.calls[k]? = some c' → c'.InGrace →
    s'.tokens = s.tokens ∧ ∀ child, c'.pc ≠ .done (.ok (.rotated child))
  | _ => True

/-! ## The condition -/

/-- A call is between the two commits of a rotation of this token. -/
def Refreshes.LinkPending (s : Refreshes) (id : TokenId) : Prop :=
  ∃ c ∈ s.calls, c.presented = id ∧ ∃ child, c.pc = .link child

/-- A move that no other call has come in the way of.

* `rotate`: nobody has revoked the token since the call read it.
* `chainCommit`: every unrevoked token of the session is among those selected.
* `read`: a token presented after its grace period has its link.
* `descend`: the token read is not one whose rotation is under way, and when it is live it has not
  expired and the account is in order.
* No process stops between the two commits of a rotation. -/
def Undisturbed (s : Refreshes) : Move → Prop
  | .present _ => True
  | .stop k => ∀ c, s.calls[k]? = some c → ∀ child, c.pc ≠ .link child
  | .run k elapsed user => ∀ c, s.calls[k]? = some c →
    match c.pc with
    | .read => ∀ t r, s.tokens[c.presented]? = some t → t.revoked = true → t.revokedAt = some r →
      r + REFRESH_REUSE_GRACE < s.clock + elapsed → ¬ s.LinkPending c.presented
    | .descend _ _ current => ¬ s.LinkPending current ∧
      ∀ t, s.tokens[current]? = some t → t.revoked = false →
        s.clock + elapsed < t.expiresAt ∧ user.isDeleted = false ∧ user.active = true
    | .chainCommit t ids _ _ _ => ∀ i u, s.tokens[i]? = some u →
      u.sessionPublicId = t.sessionPublicId → u.revoked = false → i ∈ ids
    | .rotate _ => ∀ t, s.tokens[c.presented]? = some t → t.revoked = false
    | _ => True

end Deltapreneur.Auth
