import Deltapreneur.Auth.Tokens
import Deltapreneur.Lib.Run

/-!
# One session per user and deployment

Model of `_create_authenticated_session`, `refresh_access_token` and `logout` as whole calls
(`app/service/auth/auth_service.py:275-346, 475-594`) of one deployment.

A login revokes the rows whose `device_name` is the scope of the deployment. The row it inserts
carries the scope there only when the caller gives no `device_name` of its own, and a rotation
copies the column. So a session opened under a name of its own survives the next login
(`named_session_survives`); `single_session_iff` says that nothing else does.

* What a call reads of `users` comes with the call.
* `saved` tells whether the `INSERT` of a login gets through; the revocation before it is
  committed already.
* `tokens_age`: a revoked token stays revoked.
-/

namespace Deltapreneur.Auth

open Run

/-- The table and the number of sessions opened, which names the next one. -/
structure Sessions where
  tokens : Tokens
  opened : SessionId
  deriving Repr, DecidableEq

def Sessions.empty : Sessions := ⟨[], 0⟩

/-! ## The calls -/

/-- The row `_create_authenticated_session` inserts. -/
def loginRow (cfg : Settings) (user : UserId) (session : SessionId) (deviceName : Option String)
    (now : Instant) : RefreshToken where
  userId := user
  sessionPublicId := session
  parentTokenId := none
  replacedByTokenId := none
  expiresAt := now + cfg.jwtRefreshTokenExpireMs * millisecond
  revoked := false
  revokedAt := none
  revocationReason := none
  deviceName := some ((deviceName.filter (· ≠ "")).getD cfg.sessionScope)

/-- The column is `String(255)`. -/
def fits (row : RefreshToken) : Bool := row.deviceName.all fun name => name.length ≤ 255

/-- `_create_authenticated_session`; `none` when the `INSERT` fails. -/
def createAuthenticatedSession (cfg : Settings) (s : Sessions) (user : UserId)
    (deviceName : Option String) (saved : Bool) (now : Instant) : Sessions × Option SessionId :=
  let tokens := revokeAllUserTokens s.tokens user .logout (some cfg.sessionScope) now
  let row := loginRow cfg user s.opened deviceName now
  if fits row && saved then (⟨tokens ++ [row], s.opened + 1⟩, some s.opened)
  else ({ s with tokens := tokens }, none)

/-- `refresh_access_token`. -/
def refreshAccessToken (cfg : Settings) (tokens : Tokens) (presented : TokenId) (user : Account)
    (now : Instant) : Tokens × Except AppException RefreshReply :=
  match tokens[presented]? with
  | none => (tokens, raise "Invalid refresh token" 401)
  | some t =>
    if t.revoked then
      match inflightRotatedRefresh tokens user t now with
      | some _ => (tokens, .ok .accessOnly)
      | none =>
        (if t.replacedByTokenId.isSome then
            revokeSessionChain tokens t.sessionPublicId .reuseDetected now
          else tokens,
          raise "Refresh token revoked" 401)
    else if t.expiresAt < now then (tokens, raise "Refresh token expired" 401)
    else if user.isDeleted then
      (revokeSessionChain tokens t.sessionPublicId .logout now, raise "Invalid refresh token" 401)
    else if ¬ user.active then
      (revokeSessionChain tokens t.sessionPublicId .logout now,
        raise "Account is deactivated" 403)
    else
      ((tokens.rotate presented t cfg now).link presented tokens.length,
        .ok (.rotated tokens.length))

/-- `logout`. -/
def logout (tokens : Tokens) (presented : Option TokenId) (now : Instant) : Tokens :=
  match presented.bind (tokens[·]?) with
  | none => tokens
  | some t =>
    if t.revoked then tokens else revokeSessionChain tokens t.sessionPublicId .logout now

inductive SessionOp
  | login (user : UserId) (deviceName : Option String) (saved : Bool) (now : Instant)
  | refresh (presented : TokenId) (user : Account) (now : Instant)
  | logout (presented : Option TokenId) (now : Instant)
  deriving Repr, DecidableEq

def sessionStep (cfg : Settings) (s : Sessions) : SessionOp → Sessions
  | .login user deviceName saved now =>
    (createAuthenticatedSession cfg s user deviceName saved now).1
  | .refresh presented user now =>
    { s with tokens := (refreshAccessToken cfg s.tokens presented user now).1 }
  | .logout presented now => { s with tokens := logout s.tokens presented now }

/-! ## What the calls keep -/

/-- The row is neither revoked nor expired. -/
def RefreshToken.Live (t : RefreshToken) (now : Instant) : Prop :=
  t.revoked = false ∧ now ≤ t.expiresAt

variable {cfg : Settings} {tokens tokens' : Tokens} {s : Sessions} {now : Instant}
  {reason : RevocationReason} {i : TokenId} {t : RefreshToken} {deviceName : Option String}

/-- The columns no call of the service changes. -/
structure SameIdentity (t t' : RefreshToken) : Prop where
  userId : t'.userId = t.userId
  sessionPublicId : t'.sessionPublicId = t.sessionPublicId
  deviceName : t'.deviceName = t.deviceName

/-- Every row has the user, the session and the device name of a row of `tokens`. -/
def Descends (tokens tokens' : Tokens) : Prop := ∀ t' ∈ tokens', ∃ t ∈ tokens, SameIdentity t t'

theorem SameIdentity.refl (t : RefreshToken) : SameIdentity t t := ⟨rfl, rfl, rfl⟩

theorem Descends.refl (tokens : Tokens) : Descends tokens tokens :=
  fun t ht => ⟨t, ht, .refl t⟩

theorem SameIdentity.trans {t' t'' : RefreshToken} (h : SameIdentity t t')
    (h' : SameIdentity t' t'') : SameIdentity t t'' :=
  ⟨h'.userId.trans h.userId, h'.sessionPublicId.trans h.sessionPublicId,
    h'.deviceName.trans h.deviceName⟩

theorem Descends.trans {tokens'' : Tokens} (h : Descends tokens tokens')
    (h' : Descends tokens' tokens'') : Descends tokens tokens'' := by
  intro t'' ht''
  obtain ⟨t', ht', hsame'⟩ := h' t'' ht''
  obtain ⟨t, ht, hsame⟩ := h t' ht'
  exact ⟨t, ht, hsame.trans hsame'⟩

theorem descends_revokeRows (ids : List TokenId) :
    Descends tokens (tokens.revokeRows ids now reason) := by
  intro t' ht'
  obtain ⟨i, hi⟩ := List.mem_iff_getElem?.mp ht'
  rw [Tokens.getElem?_revokeRows] at hi
  obtain ⟨t, ht, rfl⟩ := Option.map_eq_some_iff.mp hi
  refine ⟨t, List.mem_of_getElem? ht, ?_⟩
  by_cases hin : i ∈ ids
  · rw [if_pos hin]
    exact ⟨rfl, rfl, rfl⟩
  · rw [if_neg hin]
    exact .refl t

theorem descends_modify {f : RefreshToken → RefreshToken} (hf : ∀ t, SameIdentity t (f t)) :
    Descends tokens (tokens.modify i f) := by
  intro t' ht'
  obtain ⟨j, hj⟩ := List.mem_iff_getElem?.mp ht'
  rw [List.getElem?_modify] at hj
  obtain ⟨t, ht, rfl⟩ := Option.map_eq_some_iff.mp hj
  refine ⟨t, List.mem_of_getElem? ht, ?_⟩
  by_cases hij : i = j
  · rw [if_pos hij]
    exact hf t
  · rw [if_neg hij]
    exact .refl t

theorem descends_rotate (h : tokens[i]? = some t) (child : TokenId) :
    Descends tokens ((tokens.rotate i t cfg now).link i child) := by
  refine Descends.trans ?_ (descends_modify fun t => ⟨rfl, rfl, rfl⟩)
  intro t' ht'
  have hrevoked : Descends tokens (tokens.modify i (·.revoke now .rotated)) :=
    descends_modify fun t => ⟨rfl, rfl, rfl⟩
  rcases List.mem_append.mp ht' with hold | hnew
  · exact hrevoked t' hold
  · rw [List.mem_singleton.mp hnew]
    exact ⟨t, List.mem_of_getElem? h, rfl, rfl, rfl⟩

/-- What a refresh can do to the table. -/
theorem refresh_does (cfg : Settings) (tokens : Tokens) (presented : TokenId) (user : Account)
    (now : Instant) :
    (refreshAccessToken cfg tokens presented user now).1 = tokens ∨
    (∃ session reason, (refreshAccessToken cfg tokens presented user now).1 =
      revokeSessionChain tokens session reason now) ∨
    (∃ t, tokens[presented]? = some t ∧ (refreshAccessToken cfg tokens presented user now).1 =
      (tokens.rotate presented t cfg now).link presented tokens.length) := by
  unfold refreshAccessToken
  cases hrow : tokens[presented]? with
  | none => exact .inl rfl
  | some t =>
    dsimp only
    by_cases hrev : t.revoked = true
    · rw [if_pos hrev]
      cases inflightRotatedRefresh tokens user t now with
      | some _ => exact .inl rfl
      | none =>
        by_cases hrep : t.replacedByTokenId.isSome = true
        · exact .inr (.inl ⟨t.sessionPublicId, .reuseDetected, if_pos hrep⟩)
        · exact .inl (if_neg hrep)
    rw [if_neg hrev]
    by_cases hexp : t.expiresAt < now
    · exact .inl (by rw [if_pos hexp])
    rw [if_neg hexp]
    by_cases hdel : user.isDeleted = true
    · exact .inr (.inl ⟨t.sessionPublicId, .logout, by rw [if_pos hdel]⟩)
    rw [if_neg hdel]
    by_cases hact : user.active = true
    · exact .inr (.inr ⟨t, rfl, by rw [if_neg (not_not.mpr hact)]⟩)
    · exact .inr (.inl ⟨t.sessionPublicId, .logout, by rw [if_pos hact]⟩)

theorem descends_refresh (presented : TokenId) (user : Account) :
    Descends tokens (refreshAccessToken cfg tokens presented user now).1 := by
  obtain h | ⟨session, reason, h⟩ | ⟨t, hrow, h⟩ :=
    refresh_does cfg tokens presented user now <;> rw [h]
  · exact .refl tokens
  · exact descends_revokeRows _
  · exact descends_rotate hrow tokens.length

theorem descends_logout (presented : Option TokenId) :
    Descends tokens (logout tokens presented now) := by
  unfold logout
  cases presented.bind (tokens[·]?) with
  | none => exact .refl tokens
  | some t =>
    dsimp only
    by_cases hrev : t.revoked = true
    · rw [if_pos hrev]
      exact .refl tokens
    · rw [if_neg hrev]
      exact descends_revokeRows _

/-! ## After a login -/

/-- A login that gets through. -/
def completes (cfg : Settings) (s : Sessions) (user : UserId) (deviceName : Option String)
    (saved : Bool) (now : Instant) : Bool :=
  fits (loginRow cfg user s.opened deviceName now) && saved

/-- After a login that got through, the user's live rows belong to its session. -/
def AloneAfter (cfg : Settings) (s : Sessions) (op : SessionOp) (s' : Sessions) : Prop :=
  match op with
  | .login user deviceName saved now => ∀ session,
    (createAuthenticatedSession cfg s user deviceName saved now).2 = some session →
    ∀ t ∈ s'.tokens, t.userId = user → t.Live now → t.sessionPublicId = session
  | _ => True

/-- A login that gets through finds no live row of the user with another device name than the
scope. -/
def NothingForeign (cfg : Settings) (s : Sessions) : SessionOp → Prop
  | .login user deviceName saved now => completes cfg s user deviceName saved now = true →
    ∀ t ∈ s.tokens, t.userId = user → t.Live now → t.deviceName = some cfg.sessionScope
  | _ => True

/-- Every row's session has been opened. -/
def Sessions.Opened (s : Sessions) : Prop := ∀ t ∈ s.tokens, t.sessionPublicId < s.opened

theorem Descends.opened (h : Descends tokens tokens') {n : SessionId}
    (hop : (⟨tokens, n⟩ : Sessions).Opened) : (⟨tokens', n⟩ : Sessions).Opened := by
  intro t' ht'
  obtain ⟨t, ht, hsame⟩ := h t' ht'
  exact hsame.sessionPublicId ▸ hop t ht

theorem login_refused {user : UserId} {saved : Bool}
    (h : ¬ completes cfg s user deviceName saved now = true) :
    createAuthenticatedSession cfg s user deviceName saved now =
      ({ s with tokens := revokeAllUserTokens s.tokens user .logout (some cfg.sessionScope) now },
        none) :=
  if_neg h

theorem login_completes {user : UserId} {saved : Bool}
    (h : completes cfg s user deviceName saved now = true) :
    createAuthenticatedSession cfg s user deviceName saved now =
      (⟨revokeAllUserTokens s.tokens user .logout (some cfg.sessionScope) now ++
        [loginRow cfg user s.opened deviceName now], s.opened + 1⟩, some s.opened) :=
  if_pos h

theorem opened_step (s : Sessions) (op : SessionOp) (h : s.Opened) :
    (sessionStep cfg s op).Opened := by
  cases op with
  | login user deviceName saved now =>
    have hrevoked : Sessions.Opened
        { s with tokens := revokeAllUserTokens s.tokens user .logout (some cfg.sessionScope) now } :=
      (descends_revokeRows _).opened h
    by_cases hc : completes cfg s user deviceName saved now = true
    · simp only [sessionStep, login_completes hc]
      intro t ht
      rcases List.mem_append.mp ht with hold | hnew
      · exact Nat.lt_succ_of_lt (hrevoked t hold)
      · rw [List.mem_singleton.mp hnew]
        exact Nat.lt_succ_self s.opened
    · simpa only [sessionStep, login_refused hc] using hrevoked
  | refresh presented user now => exact (descends_refresh presented user).opened h
  | logout presented now => exact (descends_logout presented).opened h

/-- **One login.** It leaves a live row of another session exactly when it finds one under a name
of its own. -/
theorem aloneAfter_iff (s : Sessions) (op : SessionOp) (h : s.Opened) :
    AloneAfter cfg s op (sessionStep cfg s op) ↔ NothingForeign cfg s op := by
  cases op with
  | refresh | logout => exact Iff.rfl
  | login user deviceName saved now =>
    by_cases hc : completes cfg s user deviceName saved now = true
    swap
    · refine iff_of_true ?_ fun hdone => absurd hdone hc
      intro session hsession
      simp [login_refused hc] at hsession
    simp only [AloneAfter, NothingForeign, sessionStep, login_completes hc, hc, true_implies]
    constructor
    · intro halone t ht huser hlive
      by_contra hname
      obtain ⟨i, hi⟩ := List.mem_iff_getElem?.mp ht
      have hkept : i ∉ s.tokens.select (ofUser user (some cfg.sessionScope)) := by
        rw [Tokens.mem_select]
        rintro ⟨t', ht', hsel⟩
        cases hi.symm.trans ht'
        simp [ofUser, hname] at hsel
      have hrow : (revokeAllUserTokens s.tokens user .logout (some cfg.sessionScope) now)[i]? =
          some t := by
        rw [revokeAllUserTokens, Tokens.getElem?_revokeRows, hi, Option.map_some, if_neg hkept]
      have hsame := halone s.opened rfl t
        (List.mem_append_left _ (List.mem_of_getElem? hrow)) huser hlive
      exact absurd hsame (Nat.ne_of_lt (h t ht))
    · rintro hforeign session hsession t ht huser hlive
      cases hsession
      rcases List.mem_append.mp ht with hold | hnew
      · exfalso
        obtain ⟨i, hi⟩ := List.mem_iff_getElem?.mp hold
        rw [revokeAllUserTokens, Tokens.getElem?_revokeRows] at hi
        obtain ⟨t', ht', rfl⟩ := Option.map_eq_some_iff.mp hi
        by_cases hin : i ∈ s.tokens.select (ofUser user (some cfg.sessionScope))
        · rw [if_pos hin] at hlive
          exact absurd hlive.1 (by simp)
        · rw [if_neg hin] at hlive huser
          have hname := hforeign t' (List.mem_of_getElem? ht') huser hlive
          refine hin (Tokens.mem_select.mpr ⟨t', ht', ?_⟩)
          simp [ofUser, huser, hlive.1, hname]
      · rw [List.mem_singleton.mp hnew]
        rfl

/-- **One session per user.** In a run every login leaves the user with its own session alone
exactly when no login finds a live row under another device name than the scope. -/
theorem single_session_iff (cfg : Settings) (ops : List SessionOp) :
    AllSteps (sessionStep cfg) (AloneAfter cfg) Sessions.empty ops ↔
      Meets (sessionStep cfg) (NothingForeign cfg) Sessions.empty ops :=
  allSteps_iff_meets opened_step aloneAfter_iff ops fun _ ht => absurd ht List.not_mem_nil

/-! ## Rows that age -/

/-- The row keeps its owner and its expiry, and stays revoked once it is. -/
structure RefreshToken.Ages (t t' : RefreshToken) : Prop extends SameIdentity t t' where
  expiresAt : t'.expiresAt = t.expiresAt
  revoked : t.revoked = true → t'.revoked = true

/-- No row is lost, and each ages. -/
def Ages (tokens tokens' : Tokens) : Prop :=
  ∀ (i : TokenId) (t : RefreshToken), tokens[i]? = some t →
    ∃ t', tokens'[i]? = some t' ∧ t.Ages t'

theorem RefreshToken.Ages.refl (t : RefreshToken) : t.Ages t := ⟨.refl t, rfl, id⟩

theorem Ages.refl (tokens : Tokens) : Ages tokens tokens := fun _ t h => ⟨t, h, .refl t⟩

theorem Ages.trans {tokens'' : Tokens} (h : Ages tokens tokens') (h' : Ages tokens' tokens'') :
    Ages tokens tokens'' := by
  intro i t hi
  obtain ⟨t', hi', ht⟩ := h i t hi
  obtain ⟨t'', hi'', ht'⟩ := h' i t' hi'
  exact ⟨t'', hi'', ht.toSameIdentity.trans ht'.toSameIdentity, ht'.expiresAt.trans ht.expiresAt,
    ht'.revoked ∘ ht.revoked⟩

theorem ages_append (row : RefreshToken) : Ages tokens (tokens ++ [row]) := fun i t h =>
  ⟨t, by rwa [List.getElem?_append_left (List.getElem?_eq_some_iff.mp h).1], .refl t⟩

theorem ages_modify {f : RefreshToken → RefreshToken} (hf : ∀ t : RefreshToken, t.Ages (f t)) :
    Ages tokens (tokens.modify i f) := by
  intro j t hj
  refine ⟨if i = j then f t else t, by rw [List.getElem?_modify, hj]; rfl, ?_⟩
  split_ifs
  · exact hf t
  · exact .refl t

theorem ages_revokeRows (ids : List TokenId) : Ages tokens (tokens.revokeRows ids now reason) := by
  intro i t hi
  refine ⟨_, by rw [Tokens.getElem?_revokeRows, hi]; rfl, ?_⟩
  split_ifs
  · exact ⟨⟨rfl, rfl, rfl⟩, rfl, fun _ => rfl⟩
  · exact .refl t

theorem ages_step (s : Sessions) (op : SessionOp) : Ages s.tokens (sessionStep cfg s op).tokens := by
  cases op with
  | login user deviceName saved now =>
    have hrevoked : Ages s.tokens (s.tokens.revokeRows
        (s.tokens.select (ofUser user (some cfg.sessionScope))) now .logout) := ages_revokeRows _
    by_cases hc : completes cfg s user deviceName saved now = true
    · simp only [sessionStep, login_completes hc]
      exact hrevoked.trans (ages_append _)
    · simp only [sessionStep, login_refused hc]
      exact hrevoked
  | refresh presented user now =>
    obtain h | ⟨session, reason, h⟩ | ⟨t, -, h⟩ :=
      refresh_does cfg s.tokens presented user now <;> simp only [sessionStep, h]
    · exact .refl _
    · exact ages_revokeRows _
    · have hold : Ages s.tokens (s.tokens.modify presented (·.revoke now .rotated)) :=
        ages_modify fun _ => ⟨⟨rfl, rfl, rfl⟩, rfl, fun _ => rfl⟩
      exact (hold.trans (ages_append _)).trans (ages_modify fun _ => ⟨⟨rfl, rfl, rfl⟩, rfl, id⟩)
  | logout presented now =>
    simp only [sessionStep, logout]
    split
    · exact .refl _
    · split_ifs
      · exact .refl _
      · exact ages_revokeRows _

/-- **A revoked token stays revoked**, and no token changes hands or lives longer, in every run from
any table. -/
theorem tokens_age (cfg : Settings) (s : Sessions) (ops : List SessionOp) :
    Ages s.tokens (exec (sessionStep cfg) s ops).tokens :=
  exec_preserves (P := fun s' => Ages s.tokens s'.tokens)
    (fun s' op h => h.trans (ages_step s' op)) ops (.refl s.tokens)

/-! ## Logins without a name of their own -/

def developmentSettings : Settings := ⟨30 * 24 * 3600 * 1000, "development"⟩

/-- A session opened as "laptop" survives the next login of the user. -/
theorem named_session_survives : ¬ ∀ (cfg : Settings) (ops : List SessionOp),
    AllSteps (sessionStep cfg) (AloneAfter cfg) Sessions.empty ops := by
  intro h
  have hrun := (single_session_iff developmentSettings _).mp
    (h developmentSettings [.login 1 (some "laptop") true 0, .login 1 none true second])
  have hlaptop := hrun.2.1 (by decide +kernel)
    (loginRow developmentSettings 1 0 (some "laptop") 0) (by decide +kernel) rfl
    ⟨rfl, by decide +kernel⟩
  exact absurd hlaptop (by decide +kernel)

end Deltapreneur.Auth
