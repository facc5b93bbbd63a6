import Deltapreneur.Core
import Mathlib.Data.Finset.Card

/-!
# Refresh tokens

Model of the table `refresh_tokens` (`app/entity/user/refresh_token.py`), its repository
(`app/repository/refresh_token_repository.py`) and the parts of `AuthService`
(`app/service/auth/auth_service.py:275-594`) that read and write it.

* A row's id is its position. A raw token and its hash are named by the row they were made for:
  secrets do not repeat, and different secrets hash differently.
* `ip_address`, `user_agent`, `pepper_kid` and `last_used_at` are left out: no test reads them.
* The functions here are the single transactions and the tests between them. `SingleSession` puts
  them together to whole calls, `Rotation` interleaves them.
-/

namespace Deltapreneur.Auth

abbrev TokenId := Nat
/-- `session_public_id`. -/
abbrev SessionId := Nat

def millisecond : Instant := 1000
def second : Instant := 1000 * millisecond

/-- `REFRESH_REUSE_GRACE`. -/
def REFRESH_REUSE_GRACE : Instant := 30 * second

/-- What the functions read of `settings`. -/
structure Settings where
  jwtRefreshTokenExpireMs : Nat
  /-- `resolved_session_scope()`. -/
  sessionScope : String
  deriving Repr, DecidableEq

inductive RevocationReason
  | rotated | logout | adminRevoked | reuseDetected | passwordChanged | userDeleted
  deriving Repr, DecidableEq

/-- A row of `refresh_tokens`. -/
structure RefreshToken where
  userId : UserId
  sessionPublicId : SessionId
  parentTokenId : Option TokenId
  replacedByTokenId : Option TokenId
  expiresAt : Instant
  revoked : Bool
  revokedAt : Option Instant
  revocationReason : Option RevocationReason
  deviceName : Option String
  deriving Repr, DecidableEq

abbrev Tokens := List RefreshToken

/-- What the calls read of a row of `users`. -/
structure Account where
  isDeleted : Bool
  active : Bool
  deriving Repr, DecidableEq

/-! ## Revoking -/

/-- The three columns every revocation writes. -/
def RefreshToken.revoke (t : RefreshToken) (now : Instant) (reason : RevocationReason) :
    RefreshToken :=
  { t with revoked := true, revokedAt := some now, revocationReason := some reason }

/-- The ids a `SELECT` with this filter returns. -/
def Tokens.select (tokens : Tokens) (p : RefreshToken → Bool) : List TokenId :=
  (List.range tokens.length).filter fun i => tokens[i]?.any p

/-- The loop over the rows of a `SELECT` and the commit after it. -/
def Tokens.revokeRows (tokens : Tokens) (ids : List TokenId) (now : Instant)
    (reason : RevocationReason) : Tokens :=
  tokens.mapIdx fun i t => if i ∈ ids then t.revoke now reason else t

/-- The rows `revoke_session_chain` selects. -/
def ofSession (session : SessionId) (t : RefreshToken) : Bool :=
  t.sessionPublicId = session && !t.revoked

/-- The rows `revoke_all_user_tokens` selects. -/
def ofUser (user : UserId) (scope : Option String) (t : RefreshToken) : Bool :=
  t.userId = user && !t.revoked && scope.all fun s => t.deviceName = some s

/-- `revoke_session_chain`. -/
def revokeSessionChain (tokens : Tokens) (session : SessionId) (reason : RevocationReason)
    (now : Instant) : Tokens :=
  tokens.revokeRows (tokens.select (ofSession session)) now reason

/-- `revoke_all_user_tokens`. -/
def revokeAllUserTokens (tokens : Tokens) (user : UserId) (reason : RevocationReason)
    (scope : Option String) (now : Instant) : Tokens :=
  tokens.revokeRows (tokens.select (ofUser user scope)) now reason

variable {tokens : Tokens} {p : RefreshToken → Bool} {ids : List TokenId} {now : Instant}
  {reason : RevocationReason} {i : TokenId} {t : RefreshToken}

@[simp] theorem revoke_sessionPublicId :
    (t.revoke now reason).sessionPublicId = t.sessionPublicId := rfl

@[simp] theorem revoke_revoked : (t.revoke now reason).revoked = true := rfl

@[simp] theorem revoke_replacedByTokenId :
    (t.revoke now reason).replacedByTokenId = t.replacedByTokenId := rfl

theorem Tokens.mem_select : i ∈ tokens.select p ↔ ∃ t, tokens[i]? = some t ∧ p t = true := by
  simp only [Tokens.select, List.mem_filter, List.mem_range, Option.any_eq_true]
  constructor
  · rintro ⟨-, t, h⟩
    exact ⟨t, h⟩
  · rintro ⟨t, h, hp⟩
    exact ⟨(List.getElem?_eq_some_iff.mp h).1, t, h, hp⟩

@[simp] theorem Tokens.length_revokeRows :
    (tokens.revokeRows ids now reason).length = tokens.length := List.length_mapIdx

theorem Tokens.getElem?_revokeRows : (tokens.revokeRows ids now reason)[i]? =
    tokens[i]?.map fun t => if i ∈ ids then t.revoke now reason else t := List.getElem?_mapIdx

/-! ## Rotation -/

/-- The `data` of a refresh: with a new refresh token, or the access token alone. -/
inductive RefreshReply
  | rotated (child : TokenId)
  | accessOnly
  deriving Repr, DecidableEq

/-- The row `refresh_access_token` inserts. -/
def RefreshToken.child (t : RefreshToken) (id : TokenId) (cfg : Settings) (now : Instant) :
    RefreshToken where
  userId := t.userId
  sessionPublicId := t.sessionPublicId
  parentTokenId := some id
  replacedByTokenId := none
  expiresAt := now + cfg.jwtRefreshTokenExpireMs * millisecond
  revoked := false
  revokedAt := none
  revocationReason := none
  deviceName := t.deviceName

/-- The first commit of `refresh_access_token`: the old row is revoked, the new one inserted. `t`
is the old row as the call has read it. -/
def Tokens.rotate (tokens : Tokens) (id : TokenId) (t : RefreshToken) (cfg : Settings)
    (now : Instant) : Tokens :=
  tokens.modify id (·.revoke now .rotated) ++ [t.child id cfg now]

/-- The second commit: the link from the old row to the new one. -/
def Tokens.link (tokens : Tokens) (id child : TokenId) : Tokens :=
  tokens.modify id fun t => { t with replacedByTokenId := some child }

/-! ## Reuse -/

/-- The tests of `_inflight_rotated_refresh` on the row presented: its replacement, when the row
was rotated within the grace period. -/
def RefreshToken.graceChild (t : RefreshToken) (now : Instant) : Option TokenId :=
  match t.replacedByTokenId with
  | none => none
  | some child =>
    if t.revocationReason ≠ none ∧ t.revocationReason ≠ some .rotated then none
    else match t.revokedAt with
      | none => none
      | some revokedAt => if now - revokedAt > REFRESH_REUSE_GRACE then none else some child

/-- What one turn of the loop of `_latest_active_descendant` comes to. -/
inductive Descent
  | found
  | nothing
  | next (id : TokenId)
  deriving Repr, DecidableEq

/-- One turn of the loop, on the row it reads. -/
def descend (row : Option RefreshToken) (now : Instant) : Descent :=
  match row with
  | none => .nothing
  | some t =>
    if ¬ t.revoked then (if t.expiresAt ≤ now then .nothing else .found)
    else match t.replacedByTokenId with
      | none => .nothing
      | some child => .next child

theorem descend_next {row : Option RefreshToken} {child : TokenId}
    (h : descend row now = .next child) : ∃ t, row = some t ∧ t.revoked = true ∧
      t.replacedByTokenId = some child := by
  cases row with
  | none => cases h
  | some t =>
    by_cases hrev : t.revoked = true
    · cases hrep : t.replacedByTokenId with
      | none => simp [descend, hrev, hrep] at h
      | some c => simp_all [descend]
    · by_cases hexp : t.expiresAt ≤ now
      · simp [descend, hrev, hexp] at h
      · simp [descend, hrev, hexp] at h

/-- `_latest_active_descendant`, all of it on one state of the table. Every turn reads a row that
was not read before, so the loop ends. -/
def latestActiveDescendant (tokens : Tokens) (now : Instant) (seen : List TokenId)
    (current : TokenId) : Option TokenId :=
  if current ∈ seen then none
  else match _h : descend tokens[current]? now with
    | .nothing => none
    | .found => some current
    | .next child => latestActiveDescendant tokens now (current :: seen) child
termination_by (Finset.range tokens.length \ seen.toFinset).card
decreasing_by
  obtain ⟨t, hrow, -⟩ := descend_next _h
  refine Finset.card_lt_card ⟨fun i hi => ?_, fun hsub => ?_⟩
  · simp only [List.toFinset_cons, Finset.mem_sdiff, Finset.mem_insert, not_or] at hi ⊢
    exact ⟨hi.1, hi.2.2⟩
  · have hcur : current ∈ Finset.range tokens.length \ seen.toFinset := by
      simp only [Finset.mem_sdiff, Finset.mem_range, List.mem_toFinset]
      exact ⟨(List.getElem?_eq_some_iff.mp hrow).1, by assumption⟩
    have := hsub hcur
    simp at this

/-- `_inflight_rotated_refresh`: the newest row of the chain, when the row presented was rotated
within the grace period and the chain leads to a live row of the same session. -/
def inflightRotatedRefresh (tokens : Tokens) (user : Account) (t : RefreshToken) (now : Instant) :
    Option TokenId := do
  let first ← t.graceChild now
  let id ← latestActiveDescendant tokens now [] first
  let child ← tokens[id]?
  guard (child.sessionPublicId = t.sessionPublicId)
  guard (!user.isDeleted && user.active)
  return id

end Deltapreneur.Auth
