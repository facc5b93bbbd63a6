import Deltapreneur.Auth.PasswordChange

/-!
# What a password change cuts off

The invariant of `PasswordChange`, and what each kind of move does to it.

* Sessions are numbered, and a rotation stays in its session. So what was issued before a change
  belongs to the sessions opened before it, and these have no live refresh token any more (`Sound`).
* `Fits` is what a request knows of the tables. No move takes it away (`Grows`).

Results:

* `Sound.clean`: in a sound database everything issued before the change is rejected.
* `Sound.quiet`, `Sound.stores`, `Sound.resets`, `sound_succeed`: the moves that only revoke, that
  store a refresh token, that change the reset tokens, and that report a change.
* `revokeRows_revoked`, `deleteRows_unused`: a change leaves nothing usable exactly when it has
  found all the rows.
-/

namespace Deltapreneur.Auth.PasswordChange

variable {cfg : Config} {db db' : Db} {u : AppUser} {pw : Password} {now : Instant}
  {row : RefreshToken} {rs : List ResetToken} {t' : ResetToken}

/-! ## The tests -/

theorem loginAccepts_iff : u.loginAccepts pw = true ↔ u.account.isDeleted = false ∧
    u.password = some pw ∧ u.emailVerified = true ∧ u.account.active = true := by
  simp [AppUser.loginAccepts, and_assoc]

theorem isEligible_iff : u.isEligibleForPasswordReset = true ↔ u.account.active = true ∧
    u.account.isDeleted = false ∧ u.emailVerified = true := by
  simp [AppUser.isEligibleForPasswordReset, and_assoc]

theorem isEligible_of_login (h : u.loginAccepts pw = true) :
    u.isEligibleForPasswordReset = true := by
  obtain ⟨hdel, -, hver, hact⟩ := loginAccepts_iff.mp h
  exact isEligible_iff.mpr ⟨hact, hdel, hver⟩

theorem loginAccepts_eq {new : Password} (hel : u.isEligibleForPasswordReset = true)
    (hpw : u.password = some new) : u.loginAccepts pw = true ↔ pw = new := by
  obtain ⟨hact, hdel, hver⟩ := isEligible_iff.mp hel
  rw [loginAccepts_iff, hpw]
  constructor
  · exact fun h => (Option.some.inj h.2.1).symm
  · exact fun h => ⟨hdel, by rw [h], hver, hact⟩

theorem accepts_iff {t : ResetToken} : (∀ now, t.accepts now = false) ↔ t.unused = false := by
  cases t with
  | mailed => simp [ResetToken.accepts, ResetToken.unused]
  | deleted => simp [ResetToken.accepts, ResetToken.unused]
  | stored expiresAt usedAt =>
    cases usedAt with
    | some used => simp [ResetToken.accepts, ResetToken.unused]
    | none =>
      simp only [ResetToken.unused, Bool.true_eq_false, iff_false]
      exact fun h => absurd (h 0) (by simp [ResetToken.accepts])

theorem restAccepts_iff {a : AccessToken} : db.restAccepts a now = true ↔
    a.expired now = false ∧
    (∃ t ∈ db.tokens, t.sessionPublicId = a.sessionPublicId ∧ t.revoked = false ∧
      now < t.expiresAt ∧ t.userId = db.user.id) ∧
    db.user.account.isDeleted = false ∧ db.user.account.active = true ∧
    db.user.invalidates a.iat = false := by
  simp [Db.restAccepts, and_assoc]

/-! ## Sound databases -/

/-- The invariant. -/
structure Sound (db : Db) : Prop where
  login : ∀ c ∈ db.cut, ∀ pw, db.user.loginAccepts pw = true ↔ pw = c.password
  refresh : ∀ c ∈ db.cut, ∀ i t, db.tokens[i]? = some t → i < c.tokens → t.revoked = true
  reset : ∀ c ∈ db.cut, ∀ i t, db.resets[i]? = some t → i < c.resets → t.unused = false
  /-- A refresh token is older than the change exactly when its session is. -/
  oldTokens : ∀ c ∈ db.cut, ∀ i t, db.tokens[i]? = some t →
    (i < c.tokens ↔ t.sessionPublicId < c.sessions)
  oldAccess : ∀ c ∈ db.cut, ∀ i a, db.access[i]? = some a → i < c.access →
    a.sessionPublicId < c.sessions
  bounds : ∀ c ∈ db.cut, c.tokens ≤ db.tokens.length ∧ c.access ≤ db.access.length ∧
    c.resets ≤ db.resets.length ∧ c.sessions ≤ db.opened
  tokensOpened : ∀ t ∈ db.tokens, t.sessionPublicId < db.opened
  accessOpened : ∀ a ∈ db.access, a.sessionPublicId < db.opened
  /-- A reset token that was accepted is used, or gone. -/
  granted : ∀ i, Grant.reset i ∈ db.granted → ∃ t, db.resets[i]? = some t ∧ t ≠ .mailed ∧
    t.unused = false

theorem Sound.rest (h : Sound db) {c : Cut} (hc : c ∈ db.cut) {i : AccessId} {a : AccessToken}
    (ha : db.access[i]? = some a) (hi : i < c.access) (now : Instant) :
    db.restAccepts a now = false := by
  by_contra hacc
  rw [Bool.not_eq_false, restAccepts_iff] at hacc
  obtain ⟨-, ⟨t, ht, hses, hlive, -⟩, -⟩ := hacc
  obtain ⟨j, hj⟩ := List.getElem?_of_mem ht
  have hold : j < c.tokens := by
    rw [h.oldTokens c hc j t hj, hses]
    exact h.oldAccess c hc i a ha hi
  rw [h.refresh c hc j t hj hold] at hlive
  cases hlive

/-- **A sound database is clean.** -/
theorem Sound.clean (h : Sound db) : Clean db where
  login := h.login
  refresh := h.refresh
  rest _ hc _ _ ha hi now := h.rest hc ha hi now
  reset c hc i t ht hi := accepts_iff.mpr (h.reset c hc i t ht hi)

theorem Sound.fresh (h : Sound db) {c : Cut} (hc : c ∈ db.cut) {i : TokenId} {t : RefreshToken}
    (ht : db.tokens[i]? = some t) (hlive : t.revoked = false) : c.tokens ≤ i := by
  by_contra hi
  rw [h.refresh c hc i t ht (not_le.mp hi)] at hlive
  cases hlive

/-! ## Moves that add nothing -/

/-- Rows may get revoked and linked. -/
def Weaker (tokens tokens' : Tokens) : Prop :=
  tokens'.length = tokens.length ∧ ∀ (i : TokenId) t', tokens'[i]? = some t' →
    ∃ t, tokens[i]? = some t ∧ t'.sessionPublicId = t.sessionPublicId ∧
      (t.revoked = true → t'.revoked = true)

theorem Weaker.refl (tokens : Tokens) : Weaker tokens tokens :=
  ⟨rfl, fun _ t' ht' => ⟨t', ht', rfl, id⟩⟩

theorem weaker_revokeRows (tokens : Tokens) (ids : List TokenId) (reason : RevocationReason) :
    Weaker tokens (tokens.revokeRows ids now reason) := by
  refine ⟨Tokens.length_revokeRows, fun i t' ht' => ?_⟩
  rw [Tokens.getElem?_revokeRows, Option.map_eq_some_iff] at ht'
  obtain ⟨t, ht, rfl⟩ := ht'
  refine ⟨t, ht, ?_⟩
  split_ifs <;> simp

theorem weaker_link (tokens : Tokens) (id child : TokenId) :
    Weaker tokens (tokens.link id child) := by
  refine ⟨List.length_modify _ _ _, fun i t' ht' => ?_⟩
  simp only [Tokens.link, List.getElem?_modify, Option.map_eq_map, Option.map_eq_some_iff] at ht'
  obtain ⟨t, ht, rfl⟩ := ht'
  refine ⟨t, ht, ?_⟩
  split_ifs <;> simp

/-- A move that neither stores a refresh or a reset token nor reports a change. -/
structure Quiet (db db' : Db) : Prop where
  user : db'.user = db.user
  tokens : Weaker db.tokens db'.tokens
  access : ∃ new, db'.access = db.access ++ new ∧ ∀ a ∈ new, a.sessionPublicId < db.opened
  resets : db'.resets = db.resets
  opened : db'.opened = db.opened
  cut : db'.cut = db.cut
  granted : ∃ gs, db'.granted = db.granted ++ gs ∧ ∀ i, Grant.reset i ∉ gs

theorem Quiet.refl (db : Db) : Quiet db db :=
  ⟨rfl, .refl _, ⟨[], by simp⟩, rfl, rfl, rfl, ⟨[], by simp⟩⟩

theorem getElem?_append_of_lt {α : Type} {xs ys : List α} {i n : Nat} {x : α}
    (h : (xs ++ ys)[i]? = some x) (hn : n ≤ xs.length) (hi : i < n) : xs[i]? = some x := by
  rwa [List.getElem?_append_left (hi.trans_le hn)] at h

theorem Sound.quiet (h : Sound db) (hq : Quiet db db') : Sound db' := by
  obtain ⟨hlen, hweak⟩ := hq.tokens
  obtain ⟨new, hacc, hnew⟩ := hq.access
  obtain ⟨gs, hgr, hgs⟩ := hq.granted
  constructor
  · rw [hq.cut, hq.user]
    exact h.login
  · rw [hq.cut]
    intro c hc i t' ht' hi
    obtain ⟨t, ht, -, hrev⟩ := hweak i t' ht'
    exact hrev (h.refresh c hc i t ht hi)
  · rw [hq.cut, hq.resets]
    exact h.reset
  · rw [hq.cut]
    intro c hc i t' ht'
    obtain ⟨t, ht, hses, -⟩ := hweak i t' ht'
    rw [hses]
    exact h.oldTokens c hc i t ht
  · rw [hq.cut, hacc]
    intro c hc i a ha hi
    exact h.oldAccess c hc i a (getElem?_append_of_lt ha (h.bounds c hc).2.1 hi) hi
  · rw [hq.cut, hq.resets, hq.opened, hlen, hacc, List.length_append]
    intro c hc
    obtain ⟨htok, hac, hres, hses⟩ := h.bounds c hc
    exact ⟨htok, hac.trans (Nat.le_add_right _ _), hres, hses⟩
  · rw [hq.opened]
    intro t' ht'
    obtain ⟨i, hi⟩ := List.getElem?_of_mem ht'
    obtain ⟨t, ht, hses, -⟩ := hweak i t' hi
    rw [hses]
    exact h.tokensOpened t (List.mem_of_getElem? ht)
  · rw [hq.opened, hacc]
    intro a ha
    rcases List.mem_append.mp ha with ha | ha
    · exact h.accessOpened a ha
    · exact hnew a ha
  · rw [hgr, hq.resets]
    intro i hi
    exact h.granted i ((List.mem_append.mp hi).resolve_right (hgs i))

/-! ## Moves that add a row -/

/-- A move that stores one refresh token. -/
structure Stores (db db' : Db) (row : RefreshToken) : Prop where
  user : db'.user = db.user
  tokens : db'.tokens = db.tokens ++ [row]
  access : ∃ new, db'.access = db.access ++ new ∧ ∀ a ∈ new, a.sessionPublicId < db'.opened
  resets : db'.resets = db.resets
  opened : db.opened ≤ db'.opened
  cut : db'.cut = db.cut
  granted : ∃ gs, db'.granted = db.granted ++ gs ∧ ∀ i, Grant.reset i ∉ gs

/-- The session of the row must be newer than the change. -/
theorem Sound.stores (h : Sound db) (hs : Stores db db' row)
    (hopened : row.sessionPublicId < db'.opened)
    (hfresh : ∀ c ∈ db.cut, c.sessions ≤ row.sessionPublicId) : Sound db' := by
  obtain ⟨new, hacc, hnew⟩ := hs.access
  obtain ⟨gs, hgr, hgs⟩ := hs.granted
  have hle := hs.opened
  constructor
  · rw [hs.cut, hs.user]
    exact h.login
  · rw [hs.cut, hs.tokens]
    intro c hc i t ht hi
    exact h.refresh c hc i t (getElem?_append_of_lt ht (h.bounds c hc).1 hi) hi
  · rw [hs.cut, hs.resets]
    exact h.reset
  · rw [hs.cut, hs.tokens]
    intro c hc i t ht
    by_cases hi : i < db.tokens.length
    · rw [List.getElem?_append_left hi] at ht
      exact h.oldTokens c hc i t ht
    · rw [List.getElem?_append_right (not_lt.mp hi), List.getElem?_singleton] at ht
      split_ifs at ht
      cases ht
      have hbound := (h.bounds c hc).1
      have hses := hfresh c hc
      exact ⟨fun hlt => absurd (hlt.trans_le hbound) hi, fun hlt => absurd hlt (not_lt.mpr hses)⟩
  · rw [hs.cut, hacc]
    intro c hc i a ha hi
    exact h.oldAccess c hc i a (getElem?_append_of_lt ha (h.bounds c hc).2.1 hi) hi
  · rw [hs.cut, hs.resets, hs.tokens, hacc, List.length_append, List.length_append]
    intro c hc
    obtain ⟨htok, hac, hres, hses⟩ := h.bounds c hc
    exact ⟨htok.trans (Nat.le_add_right _ _), hac.trans (Nat.le_add_right _ _), hres,
      hses.trans hle⟩
  · rw [hs.tokens]
    intro t ht
    rcases List.mem_append.mp ht with ht | ht
    · exact (h.tokensOpened t ht).trans_le hle
    · rw [List.mem_singleton.mp ht]
      exact hopened
  · rw [hacc]
    intro a ha
    rcases List.mem_append.mp ha with ha | ha
    · exact (h.accessOpened a ha).trans_le hle
    · exact hnew a ha
  · rw [hgr, hs.resets]
    intro i hi
    exact h.granted i ((List.mem_append.mp hi).resolve_right (hgs i))

/-- A move on the reset tokens alone. A row gets usable only when it is stored. -/
theorem Sound.resets (h : Sound db) (hlen : db.resets.length ≤ rs.length)
    (hrow : ∀ (i : ResetId) (t t' : ResetToken), db.resets[i]? = some t → rs[i]? = some t' →
      t ≠ .mailed → t' ≠ .mailed ∧ (t.unused = false → t'.unused = false))
    (hmailed : ∀ c ∈ db.cut, ∀ (i : ResetId) (t' : ResetToken),
      db.resets[i]? = some .mailed → rs[i]? = some t' → i < c.resets → t'.unused = false) :
    Sound { db with resets := rs } where
  login := h.login
  refresh := h.refresh
  reset c hc i t' ht' hi := by
    have hbound := (h.bounds c hc).2.2.1
    obtain ⟨t, ht⟩ : ∃ t, db.resets[i]? = some t :=
      ⟨_, List.getElem?_eq_getElem (hi.trans_le hbound)⟩
    by_cases hm : t = .mailed
    · exact hmailed c hc i t' (hm ▸ ht) ht' hi
    · exact (hrow i t t' ht ht' hm).2 (h.reset c hc i t ht hi)
  oldTokens := h.oldTokens
  oldAccess := h.oldAccess
  bounds c hc := by
    obtain ⟨htok, hac, hres, hses⟩ := h.bounds c hc
    exact ⟨htok, hac, hres.trans hlen, hses⟩
  tokensOpened := h.tokensOpened
  accessOpened := h.accessOpened
  granted i hi := by
    obtain ⟨t, ht, hm, hused⟩ := h.granted i hi
    have hlt : i < rs.length := (List.getElem?_eq_some_iff.mp ht).1.trans_le hlen
    obtain ⟨hm', hused'⟩ := hrow i t _ ht (List.getElem?_eq_getElem hlt) hm
    exact ⟨_, List.getElem?_eq_getElem hlt, hm', hused' hused⟩

/-- A change that leaves nothing usable behind. -/
theorem sound_succeed {new : Password}
    (hlogin : ∀ pw, db.user.loginAccepts pw = true ↔ pw = new)
    (hrevoked : ∀ t ∈ db.tokens, t.revoked = true) (hused : ∀ t ∈ db.resets, t.unused = false)
    (htokens : ∀ t ∈ db.tokens, t.sessionPublicId < db.opened)
    (haccess : ∀ a ∈ db.access, a.sessionPublicId < db.opened)
    (hgranted : ∀ i, Grant.reset i ∈ db.granted → ∃ t, db.resets[i]? = some t ∧ t ≠ .mailed ∧
      t.unused = false) : Sound (db.succeed new) := by
  constructor <;> simp only [Db.succeed, Option.mem_def, Option.some.injEq, forall_eq']
  · exact hlogin
  · exact fun i t ht _ => hrevoked t (List.mem_of_getElem? ht)
  · exact fun i t ht _ => hused t (List.mem_of_getElem? ht)
  · intro i t ht
    have hi := (List.getElem?_eq_some_iff.mp ht).1
    exact iff_of_true hi (htokens t (List.mem_of_getElem? ht))
  · exact fun i a ha _ => haccess a (List.mem_of_getElem? ha)
  · exact ⟨le_rfl, le_rfl, le_rfl, le_rfl⟩
  · exact htokens
  · exact haccess
  · exact hgranted

/-! ## What a request knows -/

/-- The row that a refresh has read, while it still needs it. -/
def knows : Pc → Option RefreshToken
  | .rotate t | .descend t _ _ => some t
  | _ => none

/-- A refresh knows the session of its token; a request for a link does not delete its own token; a
reset knows an eligible user and, if its token is used, that it has been accepted. -/
def Fits (db : Db) : Stage → Prop
  | .refreshing c => ∀ t ∈ knows c.pc,
      ∃ u, db.tokens[c.presented]? = some u ∧ u.sessionPublicId = t.sessionPublicId
  | .storing token deleted => token ∉ deleted
  | .deleting ch | .selecting ch _ | .committing ch _ _ _ =>
    ∀ token now, ch.via = .reset token now → db.user.isEligibleForPasswordReset = true ∧
      ∀ t, db.resets[token]? = some t → t.visible = true → t.unused = false →
        .reset token ∈ db.granted
  | _ => True

/-- What no move takes away. -/
structure Grows (db db' : Db) : Prop where
  eligible : db'.user.isEligibleForPasswordReset = db.user.isEligibleForPasswordReset
  tokens : ∀ (i : TokenId) t, db.tokens[i]? = some t →
    ∃ t', db'.tokens[i]? = some t' ∧ t'.sessionPublicId = t.sessionPublicId
  granted : ∀ g ∈ db.granted, g ∈ db'.granted
  /-- A reset token gets used only when it is accepted. -/
  used : ∀ (i : ResetId) t', db'.resets[i]? = some t' → t'.visible = true → t'.unused = false →
    (∃ t, db.resets[i]? = some t ∧ t.visible = true ∧ t.unused = false) ∨
      Grant.reset i ∈ db'.granted

theorem Fits.grows {r : Stage} (hg : Grows db db') (h : Fits db r) : Fits db' r := by
  have hses : ∀ (i : TokenId) (n : SessionId),
      (∃ u, db.tokens[i]? = some u ∧ u.sessionPublicId = n) →
      ∃ u, db'.tokens[i]? = some u ∧ u.sessionPublicId = n := by
    rintro i n ⟨u, hu, rfl⟩
    exact hg.tokens i u hu
  have hreset : ∀ ch : Change,
      (∀ token now, ch.via = .reset token now → db.user.isEligibleForPasswordReset = true ∧
        ∀ t, db.resets[token]? = some t → t.visible = true → t.unused = false →
          Grant.reset token ∈ db.granted) →
      ∀ token now, ch.via = .reset token now → db'.user.isEligibleForPasswordReset = true ∧
        ∀ t, db'.resets[token]? = some t → t.visible = true → t.unused = false →
          Grant.reset token ∈ db'.granted := by
    intro ch hch token now hvia
    obtain ⟨hel, hused⟩ := hch token now hvia
    refine ⟨hg.eligible.trans hel, fun t' ht' hvis hun => ?_⟩
    rcases hg.used token t' ht' hvis hun with ⟨t, ht, hvis, hun⟩ | hin
    · exact hg.granted _ (hused t ht hvis hun)
    · exact hin
  cases r with
  | refreshing c => exact fun t ht => hses _ _ (h t ht)
  | deleting ch => exact hreset ch h
  | selecting ch deleted => exact hreset ch h
  | committing ch deleted selected selectedAt => exact hreset ch h
  | storing token deleted => exact h
  | called | revoking | inserting | requesting | done => trivial

theorem Quiet.grows (hq : Quiet db db') : Grows db db' where
  eligible := by rw [hq.user]
  tokens i t ht := by
    obtain ⟨hlen, hweak⟩ := hq.tokens
    have hlt : i < db'.tokens.length := hlen ▸ (List.getElem?_eq_some_iff.mp ht).1
    obtain ⟨u, hu, hses, -⟩ := hweak i _ (List.getElem?_eq_getElem hlt)
    cases ht.symm.trans hu
    exact ⟨_, List.getElem?_eq_getElem hlt, hses⟩
  granted g hg := by
    obtain ⟨gs, hgr, -⟩ := hq.granted
    rw [hgr]
    exact List.mem_append_left gs hg
  used i t' ht' hvis hun := .inl ⟨t', hq.resets ▸ ht', hvis, hun⟩

theorem Stores.grows (hs : Stores db db' row) : Grows db db' where
  eligible := by rw [hs.user]
  tokens i t ht := by
    rw [hs.tokens, List.getElem?_append_left (List.getElem?_eq_some_iff.mp ht).1]
    exact ⟨t, ht, rfl⟩
  granted g hg := by
    obtain ⟨gs, hgr, -⟩ := hs.granted
    rw [hgr]
    exact List.mem_append_left gs hg
  used i t' ht' hvis hun := .inl ⟨t', hs.resets ▸ ht', hvis, hun⟩

theorem Grows.trans {db'' : Db} (h : Grows db db') (h' : Grows db' db'') : Grows db db'' where
  eligible := h'.eligible.trans h.eligible
  tokens i t ht := by
    obtain ⟨t', ht', hses⟩ := h.tokens i t ht
    obtain ⟨t'', ht'', hses'⟩ := h'.tokens i t' ht'
    exact ⟨t'', ht'', hses'.trans hses⟩
  granted g hg := h'.granted g (h.granted g hg)
  used i t'' ht'' hvis hun := by
    rcases h'.used i t'' ht'' hvis hun with ⟨t', ht', hvis, hun⟩ | hin
    · rcases h.used i t' ht' hvis hun with hold | hin
      · exact .inl hold
      · exact .inr (h'.granted _ hin)
    · exact .inr hin

section Refresh

variable {c : Call} {tokens : Tokens} {account : Account} {t : RefreshToken}

theorem weaker_move (hc : ∀ t, c.pc ≠ .rotate t) :
    Weaker tokens (c.move cfg.toSettings tokens account now).1 := by
  unfold Call.move
  cases hpc : c.pc with
  | rotate t => exact absurd hpc (hc t)
  | chainCommit t ids reason x selectedAt => exact weaker_revokeRows tokens ids reason
  | link child => exact weaker_link tokens c.presented child
  | read | descend | chainSelect | done | stopped => exact .refl tokens

theorem acceptsRefresh_no_reset {pc : Pc} :
    ∀ i, Grant.reset i ∉ if acceptsRefresh c pc then [Grant.refresh c.presented] else [] := by
  intro i
  split_ifs <;> simp

theorem Sound.refresh_quiet (h : Sound db) (hc : ∀ t, c.pc ≠ .rotate t) :
    Quiet db (db.refresh cfg now c).1 where
  user := rfl
  tokens := weaker_move hc
  access := by
    refine ⟨_, rfl, fun a ha => ?_⟩
    split_ifs at ha
    · simp only [List.mem_map, Option.mem_toList] at ha
      obtain ⟨t, ht, rfl⟩ := ha
      exact h.tokensOpened t (List.mem_of_getElem? ht)
    · cases ha
  resets := rfl
  opened := rfl
  cut := rfl
  granted := ⟨_, rfl, acceptsRefresh_no_reset⟩

theorem rotate_quiet (db : Db) (p : TokenId) :
    Quiet db { db with tokens := db.tokens.modify p (·.revoke now .rotated) } where
  user := rfl
  tokens := by
    refine ⟨List.length_modify _ _ _, fun i t' ht' => ?_⟩
    simp only [List.getElem?_modify, Option.map_eq_map, Option.map_eq_some_iff] at ht'
    obtain ⟨t, ht, rfl⟩ := ht'
    refine ⟨t, ht, ?_⟩
    split_ifs <;> simp
  access := ⟨[], by simp⟩
  resets := rfl
  opened := rfl
  cut := rfl
  granted := ⟨[], by simp⟩

theorem rotate_stores (hc : c.pc = .rotate t) :
    Stores { db with tokens := db.tokens.modify c.presented (·.revoke now .rotated) }
      (db.refresh cfg now c).1 (t.child c.presented cfg.toSettings now) where
  user := rfl
  tokens := by simp only [Db.refresh, Call.move, hc, Tokens.rotate]
  access := ⟨[], by simp [Db.refresh, Call.move, hc, issuesAccess]⟩
  resets := rfl
  opened := le_rfl
  cut := rfl
  granted := ⟨_, rfl, acceptsRefresh_no_reset⟩

theorem Sound.rotate (h : Sound db) (hf : Fits db (.refreshing c)) (hc : c.pc = .rotate t)
    (hnew : ∀ k ∈ db.cut, k.tokens ≤ c.presented) : Sound (db.refresh cfg now c).1 := by
  obtain ⟨u, hu, hses⟩ := hf t (by rw [hc]; rfl)
  refine (h.quiet (rotate_quiet db c.presented)).stores (rotate_stores hc) ?_ fun k hk => ?_
  · exact hses ▸ h.tokensOpened u (List.mem_of_getElem? hu)
  · have hold := h.oldTokens k hk c.presented u hu
    exact not_lt.mp fun hlt => absurd (hold.mpr (hses ▸ hlt)) (not_lt.mpr (hnew k hk))

end Refresh

/-! ## Logins -/

section Login

variable {deviceName : Option String}

theorem insertSession_stores
    (hfits : fits (loginRow cfg.toSettings db.user.id db.opened deviceName now) = true) :
    Stores db (db.insertSession cfg now pw deviceName)
      (loginRow cfg.toSettings db.user.id db.opened deviceName now) := by
  unfold Db.insertSession
  dsimp only
  rw [if_pos hfits]
  exact {
    user := rfl
    tokens := rfl
    access := ⟨_, rfl, fun a ha => by
      rw [List.mem_singleton.mp ha]
      exact Nat.lt_succ_self _⟩
    resets := rfl
    opened := Nat.le_succ _
    cut := rfl
    granted := ⟨_, rfl, by simp⟩ }

theorem insertSession_refused
    (hfits : ¬ fits (loginRow cfg.toSettings db.user.id db.opened deviceName now) = true) :
    db.insertSession cfg now pw deviceName = db := by
  unfold Db.insertSession
  dsimp only
  rw [if_neg hfits]

theorem Sound.insertSession (h : Sound db) : Sound (db.insertSession cfg now pw deviceName) := by
  by_cases hfits : fits (loginRow cfg.toSettings db.user.id db.opened deviceName now) = true
  · refine h.stores (insertSession_stores hfits) ?_ fun c hc => (h.bounds c hc).2.2.2
    unfold Db.insertSession
    dsimp only
    rw [if_pos hfits]
    exact Nat.lt_succ_self db.opened
  · rwa [insertSession_refused hfits]

end Login

/-! ## Reset tokens -/

section Resets

variable {resets : List ResetToken} {ids deleted : List ResetId} {token i : ResetId}

@[simp] theorem length_deleteRows : (deleteRows resets ids).length = resets.length :=
  List.length_mapIdx

theorem getElem?_deleteRows : (deleteRows resets ids)[i]? =
    resets[i]?.map fun t => if i ∈ ids then .deleted else t := List.getElem?_mapIdx

theorem row_of_deleteRows {t : ResetToken} (ht : resets[i]? = some t)
    (ht' : (deleteRows resets ids)[i]? = some t') : t' = t ∨ t' = .deleted := by
  rw [getElem?_deleteRows, ht, Option.map_some] at ht'
  cases ht'
  split_ifs
  · exact .inr rfl
  · exact .inl rfl

theorem row_of_storeRow {expiresAt : Instant} {t : ResetToken} (ht : resets[i]? = some t)
    (ht' : (storeRow resets deleted token expiresAt)[i]? = some t') :
    t' = t ∨ t' = .deleted ∨ (t = .mailed ∧ i = token ∧ t' = .stored expiresAt none) := by
  simp only [storeRow, List.getElem?_modify, Option.map_eq_map, Option.map_eq_some_iff] at ht'
  obtain ⟨u, hu, rfl⟩ := ht'
  rcases row_of_deleteRows ht hu with rfl | rfl
  · split_ifs with heq
    · cases u with
      | mailed => exact .inr (.inr ⟨rfl, heq.symm, rfl⟩)
      | stored | deleted => exact .inl rfl
    · exact .inl rfl
  · split_ifs <;> exact .inr (.inl rfl)

theorem Sound.requesting (h : Sound db) :
    Sound { db with resets := db.resets ++ [.mailed] } := by
  have hrow : ∀ (i : ResetId) (t t' : ResetToken), db.resets[i]? = some t →
      (db.resets ++ [.mailed])[i]? = some t' → t' = t := by
    intro i t t' ht ht'
    rw [List.getElem?_append_left (List.getElem?_eq_some_iff.mp ht).1, ht] at ht'
    exact (Option.some.inj ht').symm
  refine h.resets (by simp) (fun i t t' ht ht' hm => ?_) fun c _ i t' ht ht' _ => ?_
  · rw [hrow i t t' ht ht']
    exact ⟨hm, id⟩
  · rw [hrow i _ t' ht ht']
    rfl

theorem Sound.storing (h : Sound db) {expiresAt : Instant}
    (hok : ∀ c ∈ db.cut, token < c.resets → db.resets[token]? ≠ some .mailed) :
    Sound { db with resets := storeRow db.resets deleted token expiresAt } := by
  refine h.resets (by simp [storeRow]) (fun i t t' ht ht' hm => ?_) fun c hc i t' ht ht' hi => ?_
  · rcases row_of_storeRow ht ht' with rfl | rfl | ⟨rfl, -, -⟩
    · exact ⟨hm, id⟩
    · exact ⟨by simp, fun _ => rfl⟩
    · exact absurd rfl hm
  · rcases row_of_storeRow ht ht' with rfl | rfl | ⟨-, rfl, -⟩
    · rfl
    · rfl
    · exact absurd ht (hok c hc hi)

end Resets

/-! ## Changes -/

section Changes

variable {ch : Change} {deleted : List ResetId} {selected : List TokenId} {at' : Instant}
  {token : ResetId} {expiresAt : Instant} {usedAt : Option Instant}

/-- The `SELECT` of a change has found every unrevoked row exactly when none is left. -/
theorem revokeRows_revoked {tokens : Tokens} :
    (∀ t ∈ tokens.revokeRows selected at' .passwordChanged, t.revoked = true) ↔
      ∀ (i : TokenId) t, tokens[i]? = some t → t.revoked = false → i ∈ selected := by
  constructor
  · intro h i t ht hlive
    by_contra hi
    have hrow : (tokens.revokeRows selected at' .passwordChanged)[i]? = some t := by
      rw [Tokens.getElem?_revokeRows, ht, Option.map_some, if_neg hi]
    rw [h t (List.mem_of_getElem? hrow)] at hlive
    cases hlive
  · intro h t' ht'
    obtain ⟨i, hi⟩ := List.getElem?_of_mem ht'
    rw [Tokens.getElem?_revokeRows, Option.map_eq_some_iff] at hi
    obtain ⟨t, ht, rfl⟩ := hi
    split_ifs with hsel
    · rfl
    · by_contra hlive
      exact hsel (h i t ht (Bool.not_eq_true _ ▸ hlive))

/-- The `DELETE` of a change has found every usable row exactly when none is left. -/
theorem deleteRows_unused {resets : List ResetToken} {p : ResetId → Bool} :
    (∀ (i : ResetId) t, (deleteRows resets deleted)[i]? = some t → p i = true →
        t.unused = false) ↔
      ∀ (i : ResetId) t, resets[i]? = some t → t.unused = true → p i = true → i ∈ deleted := by
  constructor
  · intro h i t ht hun hp
    by_contra hi
    have hrow : (deleteRows resets deleted)[i]? = some t := by
      rw [getElem?_deleteRows, ht, Option.map_some, if_neg hi]
    rw [h i t hrow hp] at hun
    cases hun
  · intro h i t' ht' hp
    rw [getElem?_deleteRows, Option.map_eq_some_iff] at ht'
    obtain ⟨t, ht, rfl⟩ := ht'
    split_ifs with hdel
    · rfl
    · by_contra hun
      exact hdel (h i t ht (Bool.not_eq_false _ ▸ hun) hp)

theorem Sound.revoked_opened (h : Sound db) (reason : RevocationReason) :
    ∀ t ∈ db.tokens.revokeRows selected at' reason, t.sessionPublicId < db.opened := by
  intro t' ht'
  obtain ⟨i, hi⟩ := List.getElem?_of_mem ht'
  obtain ⟨t, ht, hses, -⟩ := (weaker_revokeRows db.tokens selected reason).2 i t' hi
  rw [hses]
  exact h.tokensOpened t (List.mem_of_getElem? ht)

theorem Sound.granted_deleteRows (h : Sound db) {i : ResetId} (hi : Grant.reset i ∈ db.granted) :
    ∃ t, (deleteRows db.resets deleted)[i]? = some t ∧ t ≠ .mailed ∧ t.unused = false := by
  obtain ⟨t, ht, hm, hun⟩ := h.granted i hi
  rw [getElem?_deleteRows, ht, Option.map_some]
  refine ⟨_, rfl, ?_⟩
  split_ifs
  · exact ⟨by simp, rfl⟩
  · exact ⟨hm, hun⟩

theorem Sound.commit_detached (h : Sound db) (hvia : ch.via = .detached)
    (hlogin : db.user.loginAccepts ch.new = true) (hcov : Covered db .detached deleted selected) :
    Sound (db.commit ch deleted selected at') := by
  simp only [Db.commit, hvia]
  refine sound_succeed
    (fun pw => loginAccepts_eq (isEligible_of_login hlogin) (loginAccepts_iff.mp hlogin).2.1)
    (revokeRows_revoked.mpr hcov.1) (fun t ht => ?_) (h.revoked_opened _) h.accessOpened
    fun i hi => h.granted_deleteRows hi
  obtain ⟨i, hi⟩ := List.getElem?_of_mem ht
  exact deleteRows_unused.mpr hcov.2 i t hi rfl

/-- The database after `reset_password`. -/
theorem commit_reset (hvia : ch.via = .reset token now)
    (hrow : db.resets[token]? = some (.stored expiresAt usedAt)) :
    db.commit ch deleted selected at' = Db.succeed { db with
      user := { db.user with password := some ch.new, passwordChangedAt := some now }
      resets := (deleteRows db.resets deleted).set token (.stored expiresAt (some now))
      tokens := db.tokens.revokeRows selected at' .passwordChanged
      granted := db.granted ++ [Grant.reset token] } ch.new := by
  simp only [Db.commit, hvia, hrow]

theorem commit_gone (hvia : ch.via = .reset token now)
    (hrow : ∀ expiresAt usedAt, db.resets[token]? ≠ some (.stored expiresAt usedAt)) :
    db.commit ch deleted selected at' = db := by
  simp only [Db.commit, hvia]

theorem Sound.commit_reset (h : Sound db) (hvia : ch.via = .reset token now)
    (hrow : db.resets[token]? = some (.stored expiresAt usedAt))
    (hel : db.user.isEligibleForPasswordReset = true)
    (hcov : Covered db (.reset token now) deleted selected) :
    Sound (db.commit ch deleted selected at') := by
  have hlt : token < (deleteRows db.resets deleted).length := by
    rw [length_deleteRows]
    exact (List.getElem?_eq_some_iff.mp hrow).1
  rw [PasswordChange.commit_reset hvia hrow]
  refine sound_succeed (fun pw => loginAccepts_eq hel rfl) (revokeRows_revoked.mpr hcov.1)
    (fun t ht => ?_) (h.revoked_opened _) h.accessOpened fun i hi => ?_
  · obtain ⟨i, hi⟩ := List.getElem?_of_mem ht
    by_cases heq : token = i
    · subst heq
      rw [List.getElem?_set_self hlt] at hi
      cases hi
      rfl
    · rw [List.getElem?_set_ne heq] at hi
      exact deleteRows_unused.mpr hcov.2 i t hi (by simpa [Via.deletes] using Ne.symm heq)
  · by_cases heq : token = i
    · subst heq
      exact ⟨_, List.getElem?_set_self hlt, by simp, rfl⟩
    · rw [List.getElem?_set_ne heq]
      refine h.granted_deleteRows ((List.mem_append.mp hi).resolve_right fun hin => heq ?_)
      exact (Grant.reset.inj (List.mem_singleton.mp hin)).symm

end Changes

end Deltapreneur.Auth.PasswordChange
