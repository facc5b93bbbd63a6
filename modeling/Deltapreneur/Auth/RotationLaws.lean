import Deltapreneur.Auth.Rotation

/-!
# What holds of refresh-token rotation

None of the three laws holds in every run (`rotation_laws_fail`): two calls that read the same live
token rotate it twice; a process that stops between its two commits leaves a rotated token
without its link, so its reuse goes unnoticed; and a duplicate that follows the chain while
another rotation is between its commits takes the missing link for theft and ends the session.

In a run of undisturbed moves all three hold (`rotation_laws`). The invariant `Kept` says where a
session can stand: it is dead, or it has at most one live token and every other one was rotated
and is linked to a later token, or its link is on the way. Every call keeps what it needs to know
of that (`Fits`).
-/

namespace Deltapreneur.Auth

open Run

variable {cfg : Settings} {s s' : Refreshes} {i j : TokenId} {t u : RefreshToken}
  {session : SessionId} {c : Call} {now : Instant} {user : Account}

/-! ## Rows and sessions -/

/-- The table has this row, of this session. -/
def Refreshes.HasRow (s : Refreshes) (i : TokenId) (session : SessionId) : Prop :=
  ∃ t, s.tokens[i]? = some t ∧ t.sessionPublicId = session

/-- The row is there and revoked. -/
def Refreshes.Spent (s : Refreshes) (i : TokenId) : Prop :=
  ∃ t, s.tokens[i]? = some t ∧ t.revoked = true

/-- Rows stay, in their sessions, revoked ones stay revoked and dead sessions dead. -/
structure Extends (s s' : Refreshes) : Prop where
  row : ∀ {i session}, s.HasRow i session → s'.HasRow i session
  spent : ∀ {i}, s.Spent i → s'.Spent i
  dead : ∀ {session}, s.Dead session → s'.Dead session

theorem Extends.of_tokens (h : s'.tokens = s.tokens) : Extends s s' := by
  constructor
  · rintro i session ⟨t, ht, hs⟩
    exact ⟨t, h ▸ ht, hs⟩
  · rintro i ⟨t, ht, hrev⟩
    exact ⟨t, h ▸ ht, hrev⟩
  · intro session hdead t ht
    exact hdead t (h ▸ ht)

theorem Refreshes.Dead.revoked (h : s.Dead session) (ht : s.tokens[i]? = some t)
    (hs : t.sessionPublicId = session) : t.revoked = true :=
  h t (List.mem_of_getElem? ht) hs

theorem Refreshes.Dead.select (h : s.Dead session) : s.tokens.select (ofSession session) = [] := by
  refine List.eq_nil_iff_forall_not_mem.mpr fun i hi => ?_
  obtain ⟨t, ht, hof⟩ := Tokens.mem_select.mp hi
  simp only [ofSession, Bool.and_eq_true, decide_eq_true_eq, Bool.not_eq_true'] at hof
  exact absurd (h.revoked ht hof.1) (by simp [hof.2])

theorem revokeRows_nil (tokens : Tokens) (reason : RevocationReason) :
    tokens.revokeRows [] now reason = tokens := by
  refine List.ext_getElem? fun i => ?_
  rw [Tokens.getElem?_revokeRows]
  simp

/-! ## The invariant -/

/-- The row was rotated, and leads on to a later row or will do so. -/
def Refreshes.Rotated (s : Refreshes) (i : TokenId) (t : RefreshToken) : Prop :=
  ∃ r, s.rotatedAt i = some r ∧ t.revocationReason = some .rotated ∧ t.revokedAt = some r ∧
    (t.replacedByTokenId = none ∧ s.LinkPending i ∨
      ∃ child, t.replacedByTokenId = some child ∧ i < child ∧ s.HasRow child t.sessionPublicId)

/-- What a call may rely on. -/
def Fits (s : Refreshes) (c : Call) : Prop :=
  match c.pc with
  | .read => c.seen = none
  | .descend t visited current => s.HasRow c.presented t.sessionPublicId ∧
    (s.Dead t.sessionPublicId ∨
      c.InGrace ∧ s.HasRow current t.sessionPublicId ∧ ∀ i ∈ visited, i < current)
  | .chainSelect t _ _ => s.HasRow c.presented t.sessionPublicId ∧
    (s.Dead t.sessionPublicId ∨ ¬ c.InGrace)
  | .chainCommit t ids _ _ _ => s.HasRow c.presented t.sessionPublicId ∧
    (∀ i ∈ ids, s.HasRow i t.sessionPublicId) ∧
    (c.InGrace → s.Dead t.sessionPublicId ∧ ids = [])
  | .rotate t => s.HasRow c.presented t.sessionPublicId ∧ c.seen = none
  | .link child => (∃ session, s.HasRow c.presented session ∧ s.HasRow child session) ∧
    s.Spent c.presented ∧ c.presented < child ∧ c.seen = none
  | .done reply => c.InGrace → ∀ child, reply ≠ .ok (.rotated child)
  | .stopped => True

/-- What undisturbed moves keep. -/
structure Kept (s : Refreshes) : Prop where
  one : ∀ (i j : TokenId) (t u : RefreshToken), s.tokens[i]? = some t → s.tokens[j]? = some u →
    t.sessionPublicId = u.sessionPublicId → t.revoked = false → u.revoked = false → i = j
  revoked : ∀ (i : TokenId) (t : RefreshToken), s.tokens[i]? = some t → t.revoked = true →
    s.Dead t.sessionPublicId ∨ s.Rotated i t
  rotated : ∀ i r, s.rotatedAt i = some r → s.Spent i
  unlinked : ∀ (i : TokenId) (t : RefreshToken), s.tokens[i]? = some t → t.revoked = false →
    t.replacedByTokenId = none
  calls : ∀ c ∈ s.calls, Fits s c

theorem Fits.extend (h : Extends s s') (hc : Fits s c) : Fits s' c := by
  unfold Fits at hc ⊢
  cases hpc : c.pc with
  | read | stopped | done =>
    simp only [hpc] at hc
    exact hc
  | descend t visited current =>
    simp only [hpc] at hc ⊢
    obtain ⟨hrow, hdead | ⟨hin, hcur, hlt⟩⟩ := hc
    · exact ⟨h.row hrow, .inl (h.dead hdead)⟩
    · exact ⟨h.row hrow, .inr ⟨hin, h.row hcur, hlt⟩⟩
  | chainSelect t reason e =>
    simp only [hpc] at hc ⊢
    exact ⟨h.row hc.1, hc.2.imp_left h.dead⟩
  | chainCommit t ids reason e at' =>
    simp only [hpc] at hc ⊢
    exact ⟨h.row hc.1, fun i hi => h.row (hc.2.1 i hi), fun hin => (hc.2.2 hin).imp_left h.dead⟩
  | rotate t =>
    simp only [hpc] at hc ⊢
    exact ⟨h.row hc.1, hc.2⟩
  | link child =>
    simp only [hpc] at hc ⊢
    obtain ⟨⟨session, hrow, hchild⟩, hspent, hlt, hseen⟩ := hc
    exact ⟨⟨session, h.row hrow, h.row hchild⟩, h.spent hspent, hlt, hseen⟩

/-! ## Moving one call -/

variable {k : Nat} {c' : Call}

theorem Refreshes.LinkPending.moved (hk : s.calls[k]? = some c) (hcalls : s'.calls = s.calls.set k c')
    (hc : ∀ child, c.pc ≠ .link child) (h : s.LinkPending i) : s'.LinkPending i := by
  obtain ⟨d, hd, hpres, child, hpc⟩ := h
  obtain ⟨n, hn⟩ := List.mem_iff_getElem?.mp hd
  have hne : k ≠ n := by
    rintro rfl
    cases hk.symm.trans hn
    exact hc child hpc
  refine ⟨d, List.mem_of_getElem? (i := n) ?_, hpres, child, hpc⟩
  rw [hcalls, List.getElem?_set_ne hne, hn]

theorem fits_set (h : Kept s) (hext : Extends s s') (hcalls : s'.calls = s.calls.set k c')
    (hc' : Fits s' c') : ∀ d ∈ s'.calls, Fits s' d := by
  intro d hd
  rw [hcalls] at hd
  rcases List.mem_or_eq_of_mem_set hd with hd | rfl
  · exact (h.calls d hd).extend hext
  · exact hc'

/-- A move that writes nothing, of a call that is not about to write a link. -/
theorem Kept.reads (h : Kept s) (hk : s.calls[k]? = some c) (htok : s'.tokens = s.tokens)
    (hrot : s'.rotations = s.rotations) (hcalls : s'.calls = s.calls.set k c')
    (hc : ∀ child, c.pc ≠ .link child) (hc' : Fits s c') : Kept s' := by
  have hext : Extends s s' := .of_tokens htok
  have hat : ∀ i, s'.rotatedAt i = s.rotatedAt i := fun i => by
    simp only [Refreshes.rotatedAt, hrot]
  refine ⟨?_, fun i t ht hrev => ?_, fun i r hr => hext.spent (h.rotated i r ((hat i).symm.trans hr)),
    ?_, fits_set h hext hcalls (hc'.extend hext)⟩
  · rw [htok]
    exact h.one
  · rw [htok] at ht
    rcases h.revoked i t ht hrev with hdead | ⟨r, hr, hreason, hrevAt, hlink⟩
    · exact .inl (hext.dead hdead)
    · refine .inr ⟨r, (hat i).trans hr, hreason, hrevAt, hlink.imp ?_ ?_⟩
      · exact fun hp => ⟨hp.1, hp.2.moved hk hcalls hc⟩
      · exact fun ⟨child, hrep, hlt, hrow⟩ => ⟨child, hrep, hlt, hext.row hrow⟩
  · rw [htok]
    exact h.unlinked

/-! ## The first read -/

theorem Kept.rotatedAt_none (h : Kept s) (ht : s.tokens[i]? = some t) (hrev : t.revoked = false) :
    s.rotatedAt i = none := by
  refine Option.eq_none_iff_forall_not_mem.mpr fun r hr => ?_
  obtain ⟨t', ht', hrev'⟩ := h.rotated i r hr
  cases ht.symm.trans ht'
  exact absurd hrev' (by simp [hrev])

theorem not_inGrace_of_seen (h : c.seen = none) : ¬ c.InGrace := by
  rintro ⟨r, a, hs, -⟩
  cases h.symm.trans hs

theorem not_reuse_of_seen (h : c.seen = none) : ¬ c.Reuse := by
  rintro ⟨r, a, hs, -⟩
  cases h.symm.trans hs

theorem fits_reused (hpc : c.pc = reused t) (hrow : s.HasRow c.presented t.sessionPublicId)
    (h : s.Dead t.sessionPublicId ∨ ¬ c.InGrace ∨ t.replacedByTokenId = none) : Fits s c := by
  unfold Fits
  unfold reused at hpc
  cases hrep : t.replacedByTokenId with
  | none =>
    simp only [hrep, Option.isSome_none, Bool.false_eq_true, if_false] at hpc
    simp only [hpc]
    exact fun _ _ => by simp [raise]
  | some child =>
    simp only [hrep, Option.isSome_some, if_true] at hpc
    simp only [hpc]
    refine ⟨hrow, ?_⟩
    rcases h with hdead | hin | hnone
    · exact .inl hdead
    · exact .inr hin
    · cases hrep.symm.trans hnone

theorem graceChild_eq_some {child : TokenId} (h : t.graceChild now = some child) :
    t.replacedByTokenId = some child ∧
      ∃ r, t.revokedAt = some r ∧ now ≤ r + REFRESH_REUSE_GRACE := by
  unfold RefreshToken.graceChild at h
  cases hrep : t.replacedByTokenId with
  | none => simp [hrep] at h
  | some next =>
    simp only [hrep] at h
    by_cases hreason : t.revocationReason ≠ none ∧ t.revocationReason ≠ some .rotated
    · simp [hreason] at h
    rw [if_neg hreason] at h
    cases hat : t.revokedAt with
    | none => simp [hat] at h
    | some r =>
      simp only [hat] at h
      by_cases hlate : now - r > REFRESH_REUSE_GRACE
      · simp [hlate] at h
      · rw [if_neg hlate] at h
        exact ⟨h, r, rfl, Nat.sub_le_iff_le_add'.mp (Nat.not_lt.mp hlate)⟩

theorem graceChild_eq_none {child : TokenId} {r : Instant} (h : t.graceChild now = none)
    (hrep : t.replacedByTokenId = some child) (hreason : t.revocationReason = some .rotated)
    (hat : t.revokedAt = some r) : r + REFRESH_REUSE_GRACE < now := by
  by_contra hle
  have hlate : ¬ now - r > REFRESH_REUSE_GRACE :=
    Nat.not_lt.mpr (Nat.sub_le_iff_le_add'.mpr (Nat.not_lt.mp hle))
  simp [RefreshToken.graceChild, hrep, hreason, hat, hlate] at h

theorem fits_read (h : Kept s) {p : TokenId} :
    Fits s ⟨p, readPc s.tokens p user now, (s.rotatedAt p).map (·, now)⟩ := by
  cases hrow : s.tokens[p]? with
  | none =>
    simp only [Fits, readPc, hrow]
    exact fun _ _ => by simp [raise]
  | some t =>
    have hhas : s.HasRow p t.sessionPublicId := ⟨t, hrow, rfl⟩
    by_cases hrev : t.revoked = true
    · cases hgrace : t.graceChild now with
      | some child =>
        simp only [Fits, readPc, hrow, hrev, if_true, hgrace]
        refine ⟨hhas, ?_⟩
        obtain ⟨hrep, r', hat', hin⟩ := graceChild_eq_some hgrace
        refine (h.revoked p t hrow hrev).imp_right ?_
        rintro ⟨r, hr, hreason, hat, hlink⟩
        obtain rfl := Option.some.inj (hat.symm.trans hat')
        refine ⟨⟨r, now, by simp [hr], hin⟩, ?_, fun i hi => absurd hi List.not_mem_nil⟩
        rcases hlink with ⟨hnone, -⟩ | ⟨child', hrep', -, hchild⟩
        · cases hrep.symm.trans hnone
        · cases hrep.symm.trans hrep'
          exact hchild
      | none =>
        refine fits_reused (t := t) (by simp only [readPc, hrow, hrev, if_true, hgrace]) hhas ?_
        refine (h.revoked p t hrow hrev).imp_right ?_
        rintro ⟨r, hr, hreason, hat, ⟨hnone, -⟩ | ⟨child, hrep, -⟩⟩
        · exact .inr hnone
        · refine .inl ?_
          rintro ⟨r', a, hseen, hin⟩
          simp only [hr, Option.map_some, Option.some.injEq, Prod.mk.injEq] at hseen
          obtain ⟨rfl, rfl⟩ := hseen
          exact absurd (graceChild_eq_none hgrace hrep hreason hat) (Nat.not_lt.mpr hin)
    · have hseen : (s.rotatedAt p).map (·, now) = none := by
        rw [h.rotatedAt_none hrow (by simpa using hrev), Option.map_none]
      have hnot : ∀ pc, ¬ (⟨p, pc, (s.rotatedAt p).map (·, now)⟩ : Call).InGrace :=
        fun pc => not_inGrace_of_seen hseen
      simp only [readPc, hrow, hrev]
      by_cases hexp : t.expiresAt < now
      · rw [if_pos hexp]
        exact fun hin => absurd hin (hnot _)
      rw [if_neg hexp]
      by_cases hdel : user.isDeleted = true
      · rw [if_pos hdel]
        exact ⟨hhas, .inr (hnot _)⟩
      rw [if_neg hdel]
      by_cases hact : user.active = true
      · rw [if_neg (not_not.mpr hact)]
        exact ⟨hhas, hseen⟩
      · rw [if_pos hact]
        exact ⟨hhas, .inr (hnot _)⟩

/-! ## Following the chain -/

/-- A live session's chain leads on: a duplicate never comes to `reused` there. -/
theorem fits_descend (h : Kept s) {visited : List TokenId} {current : TokenId} (hc : Fits s c)
    (hpc : c.pc = .descend t visited current) (hpending : ¬ s.LinkPending current)
    (hlive : ∀ u : RefreshToken, s.tokens[current]? = some u → u.revoked = false →
      now < u.expiresAt ∧ user.isDeleted = false ∧ user.active = true) :
    Fits s ⟨c.presented, descendPc s.tokens t visited current user now, c.seen⟩ := by
  simp only [Fits, hpc] at hc
  obtain ⟨hrow, hdead | ⟨hin, ⟨u, hu, hsess⟩, hlt⟩⟩ := hc
  · -- Nothing is left to lose, whatever the call does.
    have hreused : Fits s ⟨c.presented, reused t, c.seen⟩ := fits_reused rfl hrow (.inl hdead)
    unfold descendPc
    by_cases hvis : current ∈ visited
    · rwa [if_pos hvis]
    rw [if_neg hvis]
    cases descend s.tokens[current]? now with
    | nothing => exact hreused
    | next child => exact ⟨hrow, .inl hdead⟩
    | found =>
      dsimp only
      split_ifs
      · exact hreused
      · exact fun _ _ => by simp
  · have hvis : current ∉ visited := fun hmem => Nat.lt_irrefl _ (hlt current hmem)
    by_cases hrev : u.revoked = true
    · rcases h.revoked current u hu hrev with hdead | ⟨r, -, -, -, hlink⟩
      · have hdead' : s.Dead t.sessionPublicId := hsess ▸ hdead
        cases hrep : u.replacedByTokenId with
        | none =>
          simp only [descendPc, hvis, if_false, descend, hu, hrev, not_true_eq_false, hrep]
          exact fits_reused rfl hrow (.inl hdead')
        | some child =>
          simp only [descendPc, hvis, if_false, descend, hu, hrev, not_true_eq_false, hrep]
          exact ⟨hrow, .inl hdead'⟩
      · rcases hlink with ⟨-, hp⟩ | ⟨child, hrep, hchild, hnext⟩
        · exact absurd hp hpending
        · simp only [descendPc, hvis, if_false, descend, hu, hrev, not_true_eq_false, hrep]
          refine ⟨hrow, .inr ⟨hin, hsess ▸ hnext, fun i hi => ?_⟩⟩
          rcases List.mem_cons.mp hi with rfl | hi
          · exact hchild
          · exact Nat.lt_trans (hlt i hi) hchild
    · obtain ⟨hexp, hdel, hact⟩ := hlive u hu (by simpa using hrev)
      have hfound : descendPc s.tokens t visited current user now = .done (.ok .accessOnly) := by
        simp [descendPc, hvis, descend, hu, hrev, Nat.not_le.mpr hexp, hdel, hact, hsess]
      rw [hfound]
      exact fun _ _ => by simp

/-! ## Revoking a session -/

theorem fits_chainSelect {reason : RevocationReason} {e : AppException} (hc : Fits s c)
    (hpc : c.pc = .chainSelect t reason e) (now : Instant) :
    Fits s ⟨c.presented, .chainCommit t (s.tokens.select (ofSession t.sessionPublicId)) reason e now,
      c.seen⟩ := by
  simp only [Fits, hpc] at hc ⊢
  refine ⟨hc.1, fun i hi => ?_, fun hin => ?_⟩
  · obtain ⟨u, hu, hof⟩ := Tokens.mem_select.mp hi
    simp only [ofSession, Bool.and_eq_true, decide_eq_true_eq] at hof
    exact ⟨u, hu, hof.1⟩
  · have hdead := hc.2.resolve_right fun hnot => hnot hin
    exact ⟨hdead, hdead.select⟩

section ChainCommit

variable {ids : List TokenId} {reason : RevocationReason} {selectedAt : Instant}
  (hids : ∀ i ∈ ids, s.HasRow i session)
  (htok : s'.tokens = s.tokens.revokeRows ids selectedAt reason)
include htok

theorem row_of_revoked (hu : s'.tokens[i]? = some u) : ∃ t, s.tokens[i]? = some t ∧
    u.sessionPublicId = t.sessionPublicId ∧ (i ∈ ids ∧ u = t.revoke selectedAt reason ∨
      i ∉ ids ∧ u = t) := by
  rw [htok, Tokens.getElem?_revokeRows] at hu
  obtain ⟨t, ht, rfl⟩ := Option.map_eq_some_iff.mp hu
  refine ⟨t, ht, ?_⟩
  by_cases hin : i ∈ ids
  · simp [hin]
  · simp [hin]

theorem extends_revokeRows : Extends s s' := by
  constructor
  · rintro i session ⟨t, ht, rfl⟩
    refine ⟨if i ∈ ids then t.revoke selectedAt reason else t, ?_, ?_⟩
    · rw [htok, Tokens.getElem?_revokeRows, ht, Option.map_some]
    · split_ifs <;> rfl
  · rintro i ⟨t, ht, hrev⟩
    refine ⟨if i ∈ ids then t.revoke selectedAt reason else t, ?_, ?_⟩
    · rw [htok, Tokens.getElem?_revokeRows, ht, Option.map_some]
    · split_ifs
      · rfl
      · exact hrev
  · intro session hdead u hu hs
    obtain ⟨i, hi⟩ := List.mem_iff_getElem?.mp hu
    obtain ⟨t, ht, hst, ⟨-, rfl⟩ | ⟨-, rfl⟩⟩ := row_of_revoked htok hi
    · rfl
    · exact hdead.revoked ht (hst.symm.trans hs)

theorem dead_of_chainCommit (hall : ∀ (i : TokenId) (u : RefreshToken), s.tokens[i]? = some u →
    u.sessionPublicId = session → u.revoked = false → i ∈ ids) : s'.Dead session := by
  intro u hu hs
  obtain ⟨i, hi⟩ := List.mem_iff_getElem?.mp hu
  obtain ⟨t, ht, hst, ⟨-, rfl⟩ | ⟨hout, rfl⟩⟩ := row_of_revoked htok hi
  · rfl
  · by_contra hrev
    exact hout (hall i u ht hs (by simpa using hrev))

include hids

theorem Kept.chainCommit (h : Kept s) (hk : s.calls[k]? = some c)
    (hrot : s'.rotations = s.rotations) (hcalls : s'.calls = s.calls.set k c')
    (hc : ∀ child, c.pc ≠ .link child) (hc' : Fits s' c')
    (hall : ∀ (i : TokenId) (u : RefreshToken), s.tokens[i]? = some u →
      u.sessionPublicId = session → u.revoked = false → i ∈ ids) : Kept s' := by
  have hext := extends_revokeRows htok
  have hdead : s'.Dead session := dead_of_chainCommit htok hall
  have hat : ∀ i, s'.rotatedAt i = s.rotatedAt i := fun i => by
    simp only [Refreshes.rotatedAt, hrot]
  refine ⟨fun i j a b hi hj hab ha hb => ?_, fun i u hu hrev => ?_,
    fun i r hr => hext.spent (h.rotated i r ((hat i).symm.trans hr)), fun i u hu hrev => ?_,
    fits_set h hext hcalls hc'⟩
  · obtain ⟨a', ha', hsa, ⟨-, rfl⟩ | ⟨-, rfl⟩⟩ := row_of_revoked htok hi
    · cases ha
    obtain ⟨b', hb', hsb, ⟨-, rfl⟩ | ⟨-, rfl⟩⟩ := row_of_revoked htok hj
    · cases hb
    exact h.one i j a b ha' hb' hab ha hb
  · obtain ⟨t, ht, hst, ⟨hin, rfl⟩ | ⟨-, rfl⟩⟩ := row_of_revoked htok hu
    · obtain ⟨t', ht', hs⟩ := hids i hin
      cases ht.symm.trans ht'
      exact .inl (hs ▸ hdead)
    · rcases h.revoked i u ht hrev with hd | ⟨r, hr, hreason, hrevAt, hlink⟩
      · exact .inl (hext.dead hd)
      · refine .inr ⟨r, (hat i).trans hr, hreason, hrevAt, hlink.imp ?_ ?_⟩
        · exact fun hp => ⟨hp.1, hp.2.moved hk hcalls hc⟩
        · exact fun ⟨child, hrep, hlt, hrow⟩ => ⟨child, hrep, hlt, hext.row hrow⟩
  · obtain ⟨t, ht, -, ⟨-, rfl⟩ | ⟨-, rfl⟩⟩ := row_of_revoked htok hu
    · cases hrev
    · exact h.unlinked i u ht hrev

end ChainCommit

/-! ## The first commit of a rotation -/

section Rotate

variable {p : TokenId} (htok : s'.tokens = s.tokens.rotate p t cfg now)
include htok

theorem row_of_rotated (hu : s'.tokens[i]? = some u) :
    (∃ t₁, s.tokens[i]? = some t₁ ∧ (i = p ∧ u = t₁.revoke now .rotated ∨ i ≠ p ∧ u = t₁)) ∨
      i = s.tokens.length ∧ u = t.child p cfg now := by
  rw [htok, Tokens.rotate] at hu
  by_cases hlt : i < s.tokens.length
  · rw [List.getElem?_append_left (by simpa using hlt), List.getElem?_modify] at hu
    obtain ⟨t₁, ht₁, rfl⟩ := Option.map_eq_some_iff.mp hu
    refine .inl ⟨t₁, ht₁, ?_⟩
    by_cases hip : p = i
    · exact .inl ⟨hip.symm, if_pos hip⟩
    · exact .inr ⟨fun h => hip h.symm, if_neg hip⟩
  · have hlen : s.tokens.length ≤ i := Nat.not_lt.mp hlt
    rw [List.getElem?_append_right (by simpa using hlen)] at hu
    obtain ⟨hpos, rfl⟩ := List.getElem?_eq_some_iff.mp hu
    have hlast : i - s.tokens.length < 1 := by simpa using hpos
    have hle : i ≤ s.tokens.length := Nat.sub_eq_zero_iff_le.mp (Nat.lt_one_iff.mp hlast)
    exact .inr ⟨Nat.le_antisymm hle hlen, by simp⟩

theorem row_rotated (ht : s.tokens[i]? = some u) :
    s'.tokens[i]? = some (if p = i then u.revoke now .rotated else u) := by
  have hlt : i < s.tokens.length := (List.getElem?_eq_some_iff.mp ht).1
  rw [htok, Tokens.rotate, List.getElem?_append_left (by simpa using hlt), List.getElem?_modify, ht]
  rfl

theorem row_child : s'.tokens[s.tokens.length]? = some (t.child p cfg now) := by
  simp [htok, Tokens.rotate]

theorem extends_rotate (hp : s.HasRow p t.sessionPublicId)
    (hlive : ∀ u : RefreshToken, s.tokens[p]? = some u → u.revoked = false) : Extends s s' := by
  constructor
  · rintro i session ⟨u, hu, rfl⟩
    refine ⟨_, row_rotated htok hu, ?_⟩
    split_ifs <;> rfl
  · rintro i ⟨u, hu, hrev⟩
    refine ⟨_, row_rotated htok hu, ?_⟩
    split_ifs
    · rfl
    · exact hrev
  · intro session hdead u hu hs
    obtain ⟨i, hi⟩ := List.mem_iff_getElem?.mp hu
    obtain ⟨t₁, ht₁, ⟨-, rfl⟩ | ⟨-, rfl⟩⟩ | ⟨-, rfl⟩ := row_of_rotated htok hi
    · rfl
    · exact hdead.revoked ht₁ hs
    · -- The session has a live token, the one that is rotated.
      obtain ⟨t₀, ht₀, hs₀⟩ := hp
      exact absurd (hdead.revoked ht₀ (hs₀.trans hs)) (by simp [hlive t₀ ht₀])

theorem Kept.rotate (h : Kept s) (hk : s.calls[k]? = some c) (hpres : c.presented = p)
    (hrot : s'.rotations = s.rotations ++ [(p, now)]) (hcalls : s'.calls = s.calls.set k c')
    (hc : ∀ child, c.pc ≠ .link child) (hp : s.HasRow p t.sessionPublicId)
    (hlive : ∀ u : RefreshToken, s.tokens[p]? = some u → u.revoked = false)
    (hc' : c' = ⟨p, .link s.tokens.length, none⟩) : Kept s' := by
  have hext := extends_rotate htok hp hlive
  obtain ⟨t₀, ht₀, hs₀⟩ := hp
  have hplt : p < s.tokens.length := (List.getElem?_eq_some_iff.mp ht₀).1
  have hchild : s'.HasRow s.tokens.length t.sessionPublicId := ⟨_, row_child htok, rfl⟩
  have hat : ∀ i, s'.rotatedAt i = (s.rotatedAt i).or (if p = i then some now else none) := by
    intro i
    simp only [Refreshes.rotatedAt, hrot, List.find?_append, Option.map_or]
    by_cases hpi : p = i <;> simp [hpi]
  have hold : ∀ i r, s.rotatedAt i = some r → s'.rotatedAt i = some r := fun i r hr => by
    rw [hat, hr, Option.some_or]
  have hpending : s'.LinkPending p := by
    have hlt : k < s.calls.length := (List.getElem?_eq_some_iff.mp hk).1
    refine ⟨c', ?_, by rw [hc'], s.tokens.length, by rw [hc']⟩
    rw [hcalls]
    exact List.mem_of_getElem? (List.getElem?_set_self hlt)
  refine ⟨fun i j a b hi hj hab ha hb => ?_, fun i u hu hrev => ?_, fun i r hr => ?_,
    fun i u hu hrev => ?_, fits_set h hext hcalls ?_⟩
  · -- What was live in the session is the token rotated, so the new one is alone.
    have hnone : ∀ (i : TokenId) (a : RefreshToken), s.tokens[i]? = some a → i ≠ p →
        a.revoked = false → a.sessionPublicId ≠ t.sessionPublicId := fun i a hi hip ha hs =>
      hip (h.one i p a t₀ hi ht₀ (hs.trans hs₀.symm) ha (hlive t₀ ht₀))
    obtain ⟨a', ha', ⟨-, rfl⟩ | ⟨hip, rfl⟩⟩ | ⟨rfl, rfl⟩ := row_of_rotated htok hi
    · cases ha
    · obtain ⟨b', hb', ⟨-, rfl⟩ | ⟨-, rfl⟩⟩ | ⟨rfl, rfl⟩ := row_of_rotated htok hj
      · cases hb
      · exact h.one i j a b ha' hb' hab ha hb
      · exact absurd hab (hnone i a ha' hip ha)
    · obtain ⟨b', hb', ⟨-, rfl⟩ | ⟨hjp, rfl⟩⟩ | ⟨rfl, -⟩ := row_of_rotated htok hj
      · cases hb
      · exact absurd hab.symm (hnone j b hb' hjp hb)
      · rfl
  · obtain ⟨t₁, ht₁, ⟨rfl, rfl⟩ | ⟨-, rfl⟩⟩ | ⟨-, rfl⟩ := row_of_rotated htok hu
    · obtain rfl := Option.some.inj (ht₁.symm.trans ht₀)
      refine .inr ⟨now, ?_, rfl, rfl, ?_⟩
      · rw [hat, h.rotatedAt_none ht₀ (hlive t₁ ht₀)]
        simp
      · exact .inl ⟨h.unlinked i t₁ ht₀ (hlive t₁ ht₀), hpending⟩
    · rcases h.revoked i u ht₁ hrev with hd | ⟨r, hr, hreason, hrevAt, hlink⟩
      · exact .inl (hext.dead hd)
      · refine .inr ⟨r, hold i r hr, hreason, hrevAt, hlink.imp ?_ ?_⟩
        · exact fun hp => ⟨hp.1, hp.2.moved hk hcalls hc⟩
        · exact fun ⟨child, hrep, hlt, hrow⟩ => ⟨child, hrep, hlt, hext.row hrow⟩
    · cases hrev
  · rw [hat] at hr
    by_cases hpi : p = i
    · subst hpi
      exact ⟨_, row_rotated htok ht₀, by simp⟩
    · rw [if_neg hpi, Option.or_none] at hr
      exact hext.spent (h.rotated i r hr)
  · obtain ⟨t₁, ht₁, ⟨-, rfl⟩ | ⟨-, rfl⟩⟩ | ⟨-, rfl⟩ := row_of_rotated htok hu
    · cases hrev
    · exact h.unlinked i u ht₁ hrev
    · rfl
  · rw [hc']
    refine ⟨⟨t.sessionPublicId, hext.row ⟨t₀, ht₀, hs₀⟩, hchild⟩, ?_, hplt, rfl⟩
    exact ⟨_, row_rotated htok ht₀, by simp⟩

end Rotate

/-! ## The second commit of a rotation -/

section Link

variable {p child : TokenId} (htok : s'.tokens = s.tokens.link p child)
include htok

theorem row_of_linked (hu : s'.tokens[i]? = some u) : ∃ t₁, s.tokens[i]? = some t₁ ∧
    (i = p ∧ u = { t₁ with replacedByTokenId := some child } ∨ i ≠ p ∧ u = t₁) := by
  rw [htok, Tokens.link, List.getElem?_modify] at hu
  obtain ⟨t₁, ht₁, rfl⟩ := Option.map_eq_some_iff.mp hu
  refine ⟨t₁, ht₁, ?_⟩
  by_cases hip : p = i
  · exact .inl ⟨hip.symm, if_pos hip⟩
  · exact .inr ⟨fun h => hip h.symm, if_neg hip⟩

theorem row_linked (ht : s.tokens[i]? = some u) : s'.tokens[i]? =
    some (if p = i then { u with replacedByTokenId := some child } else u) := by
  rw [htok, Tokens.link, List.getElem?_modify, ht]
  rfl

theorem extends_link : Extends s s' := by
  constructor
  · rintro i session ⟨u, hu, rfl⟩
    refine ⟨_, row_linked htok hu, ?_⟩
    split_ifs <;> rfl
  · rintro i ⟨u, hu, hrev⟩
    refine ⟨_, row_linked htok hu, ?_⟩
    split_ifs <;> exact hrev
  · intro session hdead u hu hs
    obtain ⟨i, hi⟩ := List.mem_iff_getElem?.mp hu
    obtain ⟨t₁, ht₁, ⟨-, rfl⟩ | ⟨-, rfl⟩⟩ := row_of_linked htok hi
    · exact hdead.revoked (t := t₁) ht₁ hs
    · exact hdead.revoked ht₁ hs

theorem Kept.link (h : Kept s) (hk : s.calls[k]? = some c) (hpres : c.presented = p)
    (hc : Fits s c) (hpc : c.pc = .link child) (hrot : s'.rotations = s.rotations)
    (hcalls : s'.calls = s.calls.set k c') (hc' : Fits s' c') : Kept s' := by
  have hext := extends_link htok
  have hat : ∀ i, s'.rotatedAt i = s.rotatedAt i := fun i => by
    simp only [Refreshes.rotatedAt, hrot]
  simp only [Fits, hpc, hpres] at hc
  obtain ⟨⟨session, ⟨t₀, ht₀, hs₀⟩, hchild⟩, ⟨t₀', ht₀', hrev₀⟩, hlt, -⟩ := hc
  cases ht₀.symm.trans ht₀'
  have hpending : ∀ i, i ≠ p → s.LinkPending i → s'.LinkPending i := by
    rintro i hip ⟨d, hd, hdpres, hdpc⟩
    obtain ⟨n, hn⟩ := List.mem_iff_getElem?.mp hd
    have hne : k ≠ n := by
      rintro rfl
      cases hk.symm.trans hn
      exact hip (hdpres.symm.trans hpres)
    refine ⟨d, List.mem_of_getElem? (i := n) ?_, hdpres, hdpc⟩
    rw [hcalls, List.getElem?_set_ne hne, hn]
  refine ⟨fun i j a b hi hj hab ha hb => ?_, fun i u hu hrev => ?_,
    fun i r hr => hext.spent (h.rotated i r ((hat i).symm.trans hr)), fun i u hu hrev => ?_,
    fits_set h hext hcalls hc'⟩
  · obtain ⟨a', ha', ⟨-, rfl⟩ | ⟨-, rfl⟩⟩ := row_of_linked htok hi <;>
      obtain ⟨b', hb', ⟨-, rfl⟩ | ⟨-, rfl⟩⟩ := row_of_linked htok hj <;>
      exact h.one i j _ _ ha' hb' hab ha hb
  · obtain ⟨t₁, ht₁, ⟨rfl, rfl⟩ | ⟨hip, rfl⟩⟩ := row_of_linked htok hu
    · obtain rfl := Option.some.inj (ht₁.symm.trans ht₀)
      rcases h.revoked i t₁ ht₁ hrev₀ with hd | ⟨r, hr, hreason, hrevAt, -⟩
      · exact .inl (hext.dead hd)
      · exact .inr ⟨r, (hat i).trans hr, hreason, hrevAt,
          .inr ⟨child, rfl, hlt, hext.row (hs₀ ▸ hchild)⟩⟩
    · rcases h.revoked i u ht₁ hrev with hd | ⟨r, hr, hreason, hrevAt, hlink⟩
      · exact .inl (hext.dead hd)
      · refine .inr ⟨r, (hat i).trans hr, hreason, hrevAt, hlink.imp ?_ ?_⟩
        · exact fun hp => ⟨hp.1, hpending i hip hp.2⟩
        · exact fun ⟨next, hrep, hlt, hrow⟩ => ⟨next, hrep, hlt, hext.row hrow⟩
  · obtain ⟨t₁, ht₁, ⟨rfl, rfl⟩ | ⟨-, rfl⟩⟩ := row_of_linked htok hu
    · cases ht₁.symm.trans ht₀
      exact absurd hrev₀ (by simpa using hrev)
    · exact h.unlinked i u ht₁ hrev

end Link

/-! ## Every undisturbed move -/

/-- New calls and stopped ones: the table is as it was, and nobody's link is given up. -/
theorem Kept.calls_changed (h : Kept s) (htok : s'.tokens = s.tokens)
    (hrot : s'.rotations = s.rotations) (hpending : ∀ i, s.LinkPending i → s'.LinkPending i)
    (hcalls : ∀ d ∈ s'.calls, Fits s d) : Kept s' := by
  have hext : Extends s s' := .of_tokens htok
  have hat : ∀ i, s'.rotatedAt i = s.rotatedAt i := fun i => by
    simp only [Refreshes.rotatedAt, hrot]
  refine ⟨?_, fun i t ht hrev => ?_, fun i r hr => hext.spent (h.rotated i r ((hat i).symm.trans hr)),
    ?_, fun d hd => (hcalls d hd).extend hext⟩
  · rw [htok]
    exact h.one
  · rw [htok] at ht
    rcases h.revoked i t ht hrev with hdead | ⟨r, hr, hreason, hrevAt, hlink⟩
    · exact .inl (hext.dead hdead)
    · refine .inr ⟨r, (hat i).trans hr, hreason, hrevAt, hlink.imp ?_ ?_⟩
      · exact fun hp => ⟨hp.1, hpending i hp.2⟩
      · exact fun ⟨child, hrep, hlt, hrow⟩ => ⟨child, hrep, hlt, hext.row hrow⟩
  · rw [htok]
    exact h.unlinked

theorem kept_present (h : Kept s) (id : TokenId) : Kept (rotationStep cfg s (.present id)) := by
  refine h.calls_changed rfl rfl ?_ fun d hd => ?_
  · rintro i ⟨d, hd, hp⟩
    exact ⟨d, List.mem_append_left _ hd, hp⟩
  · rcases List.mem_append.mp hd with hd | hd
    · exact h.calls d hd
    · rw [List.mem_singleton.mp hd]
      exact rfl

theorem fits_stop (hc : Fits s c) : Fits s c.stop := by
  unfold Call.stop
  cases hpc : c.pc with
  | done reply => exact hc
  | _ => trivial

theorem kept_stop (h : Kept s) (hm : Undisturbed s (.stop k)) :
    Kept (rotationStep cfg s (.stop k)) := by
  refine h.calls_changed rfl rfl ?_ fun d hd => ?_
  · rintro i ⟨d, hd, hp, child, hpc⟩
    obtain ⟨n, hn⟩ := List.mem_iff_getElem?.mp hd
    have hne : k ≠ n := fun heq => hm d (heq ▸ hn) child hpc
    refine ⟨d, List.mem_of_getElem? (i := n) ?_, hp, child, hpc⟩
    simp [rotationStep, hne, hn]
  · obtain ⟨n, hn⟩ := List.mem_iff_getElem?.mp hd
    simp only [rotationStep, List.getElem?_modify] at hn
    obtain ⟨d', hd', rfl⟩ := Option.map_eq_some_iff.mp hn
    have hfits := h.calls d' (List.mem_of_getElem? hd')
    by_cases hkn : k = n
    · simpa only [hkn, if_true] using fits_stop hfits
    · simpa only [hkn, if_false] using hfits

/-- **Every undisturbed move keeps the invariant.** -/
theorem kept_step (s : Refreshes) (m : Move) (h : Kept s) (hm : Undisturbed s m) :
    Kept (rotationStep cfg s m) := by
  cases m with
  | present id => exact kept_present h id
  | stop k => exact kept_stop h hm
  | run k elapsed user =>
    cases hk : s.calls[k]? with
    | none =>
      simp only [rotationStep, hk]
      exact h.calls_changed rfl rfl (fun i hp => hp) h.calls
    | some c =>
      have hfits := h.calls c (List.mem_of_getElem? hk)
      have hcond := hm c hk
      simp only [rotationStep, hk]
      cases hpc : c.pc with
      | read =>
        refine h.reads hk (by simp [Call.move, hpc]) rfl rfl (by simp [hpc]) ?_
        simp only [Refreshes.after, Call.move, hpc]
        exact fits_read h
      | descend t visited current =>
        simp only [hpc] at hcond
        refine h.reads hk (by simp [Call.move, hpc]) rfl rfl (by simp [hpc]) ?_
        simp only [Refreshes.after, Call.move, hpc]
        exact fits_descend h hfits hpc hcond.1 hcond.2
      | chainSelect t reason e =>
        refine h.reads hk (by simp [Call.move, hpc]) rfl rfl (by simp [hpc]) ?_
        simp only [Refreshes.after, Call.move, hpc]
        exact fits_chainSelect hfits hpc _
      | chainCommit t ids reason e selectedAt =>
        simp only [hpc] at hcond
        have hids := hfits
        simp only [Fits, hpc] at hids
        have htok : (c.move cfg s.tokens user (s.clock + elapsed)).1 =
            s.tokens.revokeRows ids selectedAt reason := by simp only [Call.move, hpc]
        refine Kept.chainCommit hids.2.1 htok h hk rfl rfl (by simp [hpc]) ?_ hcond
        simp only [Refreshes.after, Call.move, hpc]
        exact fun _ _ => by simp
      | rotate t =>
        simp only [hpc] at hcond
        have hrow := hfits
        simp only [Fits, hpc] at hrow
        have htok : (c.move cfg s.tokens user (s.clock + elapsed)).1 =
            s.tokens.rotate c.presented t cfg (s.clock + elapsed) := by simp only [Call.move, hpc]
        refine Kept.rotate htok h hk rfl rfl rfl (by simp [hpc]) hrow.1 hcond ?_
        simp [Refreshes.after, Call.move, hpc, hrow.2]
      | link child =>
        refine Kept.link (by simp [Call.move, hpc]) h hk rfl hfits hpc rfl rfl ?_
        have hseen := hfits
        simp only [Fits, hpc] at hseen
        simp only [Refreshes.after, Call.move, hpc]
        exact fun hin => absurd hin (not_inGrace_of_seen hseen.2.2.2)
      | done reply | stopped =>
        refine h.reads hk (by simp [Call.move, hpc]) rfl rfl (by simp [hpc]) ?_
        simp only [Refreshes.after, Call.move, hpc]
        obtain ⟨presented, pc, seen⟩ := c
        exact hpc ▸ hfits

theorem kept_loggedIn (cfg : Settings) (logins : List Login) (clock : Instant) :
    Kept (loggedIn cfg logins clock) := by
  have hrow : ∀ (i : TokenId) (t : RefreshToken), (loggedIn cfg logins clock).tokens[i]? = some t →
      t.sessionPublicId = i ∧ t.revoked = false ∧ t.replacedByTokenId = none := by
    intro i t ht
    simp only [loggedIn, List.getElem?_mapIdx] at ht
    obtain ⟨l, -, rfl⟩ := Option.map_eq_some_iff.mp ht
    exact ⟨rfl, rfl, rfl⟩
  refine ⟨fun i j t u hi hj hs _ _ => ?_, fun i t ht hrev => ?_, fun i r hr => ?_,
    fun i t ht _ => (hrow i t ht).2.2, fun c hc => absurd hc List.not_mem_nil⟩
  · exact (hrow i t hi).1.symm.trans (hs.trans (hrow j u hj).1)
  · exact absurd hrev (by simp [(hrow i t ht).2.1])
  · cases hr

/-! ## The laws -/

theorem moved_call (hk : s.calls[k]? = some c) {elapsed : Nat}
    (hk' : (rotationStep cfg s (.run k elapsed user)).calls[k]? = some c') :
    c' = s.after c (c.move cfg s.tokens user (s.clock + elapsed)).2 (s.clock + elapsed) := by
  have hlt : k < s.calls.length := (List.getElem?_eq_some_iff.mp hk).1
  simp only [rotationStep, hk, List.getElem?_set_self hlt] at hk'
  exact (Option.some.inj hk').symm

theorem moved_tokens (cfg : Settings) (hk : s.calls[k]? = some c) (elapsed : Nat)
    (user : Account) : (rotationStep cfg s (.run k elapsed user)).tokens =
      (c.move cfg s.tokens user (s.clock + elapsed)).1 := by
  simp only [rotationStep, hk]

theorem after_seen (s : Refreshes) (hpc : c.pc ≠ .read) (pc : Pc) (now : Instant) :
    (s.after c pc now).seen = c.seen := by
  unfold Refreshes.after
  cases h : c.pc with
  | read => exact absurd h hpc
  | _ => rfl

theorem Call.InGrace.congr (h : c'.seen = c.seen) (hin : c.InGrace) : c'.InGrace := by
  obtain ⟨r, a, hseen, hle⟩ := hin
  exact ⟨r, a, h.trans hseen, hle⟩

theorem not_inGrace_of_reuse (h : c.Reuse) : ¬ c.InGrace := by
  obtain ⟨r, a, hseen, hlt⟩ := h
  rintro ⟨r', a', hseen', hle⟩
  obtain ⟨rfl, rfl⟩ := Prod.mk.inj (Option.some.inj (hseen.symm.trans hseen'))
  exact absurd hlt (Nat.not_lt.mpr hle)

/-- A token read after its grace period sends the call on to revoke the session, if that is not
dead already. -/
theorem dead_of_read_done (h : Kept s) {p : TokenId}
    (hcond : ∀ (t : RefreshToken) (r : Instant), s.tokens[p]? = some t → t.revoked = true →
      t.revokedAt = some r → r + REFRESH_REUSE_GRACE < now → ¬ s.LinkPending p) {r : Instant}
    (hr : s.rotatedAt p = some r) (hlate : r + REFRESH_REUSE_GRACE < now)
    (hdone : ∃ reply, readPc s.tokens p user now = .done reply) (ht : s.tokens[p]? = some t) :
    s.Dead t.sessionPublicId := by
  obtain ⟨t', ht', hrev⟩ := h.rotated p r hr
  cases ht.symm.trans ht'
  refine (h.revoked p t ht hrev).resolve_right ?_
  rintro ⟨r', hr', hreason, hat, hlink⟩
  cases hr.symm.trans hr'
  rcases hlink with ⟨-, hp⟩ | ⟨child, hrep, -⟩
  · exact hcond t r ht hrev hat hlate hp
  · have hgrace : t.graceChild now = none := by
      cases hg : t.graceChild now with
      | none => rfl
      | some next =>
        obtain ⟨-, r', hat', hle⟩ := graceChild_eq_some hg
        cases hat.symm.trans hat'
        exact absurd hlate (Nat.not_lt.mpr hle)
    obtain ⟨reply, hreply⟩ := hdone
    simp [readPc, ht, hrev, hgrace, reused, hrep] at hreply

/-- **Reuse is detected**, in every undisturbed move. -/
theorem reuseRevokes_step (s : Refreshes) (m : Move) (h : Kept s) (hm : Undisturbed s m) :
    ReuseRevokes s m (rotationStep cfg s m) := by
  cases m with
  | present | stop => trivial
  | run k elapsed user =>
    intro c c' t hk hk' hnot hdone hreuse ht
    have hfits := h.calls c (List.mem_of_getElem? hk)
    have hcond := hm c hk
    obtain rfl := moved_call hk hk'
    obtain ⟨reply, hreply⟩ := hdone
    have htok := moved_tokens cfg hk elapsed user
    rw [htok] at ht
    simp only [Refreshes.after] at hreply ht
    cases hpc : c.pc with
    | read =>
      simp only [hpc] at hcond
      have hsame : (rotationStep cfg s (.run k elapsed user)).tokens = s.tokens := by
        rw [htok]
        simp only [Call.move, hpc]
      simp only [Call.move, hpc] at hreply ht
      obtain ⟨r, a, hseen, hlate⟩ := hreuse
      simp only [Refreshes.after, hpc, Option.map_eq_some_iff, Prod.mk.injEq] at hseen
      obtain ⟨r', hr, rfl, rfl⟩ := hseen
      exact (Extends.of_tokens hsame).dead (dead_of_read_done h hcond hr hlate ⟨reply, hreply⟩ ht)
    | descend t₀ visited current =>
      have hsame : (rotationStep cfg s (.run k elapsed user)).tokens = s.tokens := by
        rw [htok]
        simp only [Call.move, hpc]
      have hseen := after_seen s (by simp [hpc] : c.pc ≠ .read)
      simp only [Call.move, hpc] at ht
      simp only [Fits, hpc] at hfits
      obtain ⟨⟨t₁, ht₁, hs⟩, hdead | ⟨hin, -⟩⟩ := hfits
      · cases ht.symm.trans ht₁
        exact (Extends.of_tokens hsame).dead (hs ▸ hdead)
      · exact absurd (hin.congr (hseen _ _)) (not_inGrace_of_reuse hreuse)
    | chainSelect | rotate => simp [Call.move, hpc] at hreply
    | chainCommit t₀ ids reason e selectedAt =>
      simp only [hpc] at hcond
      simp only [Fits, hpc] at hfits
      obtain ⟨⟨t₁, ht₁, hs₁⟩, -⟩ := hfits
      have hrows : (rotationStep cfg s (.run k elapsed user)).tokens =
          s.tokens.revokeRows ids selectedAt reason := by
        rw [htok]
        simp only [Call.move, hpc]
      rw [← htok] at ht
      obtain ⟨t₂, ht₂, hs₂, -⟩ := row_of_revoked hrows ht
      cases ht₁.symm.trans ht₂
      exact (hs₂.trans hs₁) ▸ dead_of_chainCommit hrows hcond
    | link child =>
      simp only [Fits, hpc] at hfits
      have hseen := after_seen s (by simp [hpc] : c.pc ≠ .read)
      exact absurd hreuse (not_reuse_of_seen ((hseen _ _).trans hfits.2.2.2))
    | done reply' => exact absurd ⟨reply', hpc⟩ hnot
    | stopped => simp [Call.move, hpc] at hreply

/-- **Duplicates are harmless**, in every undisturbed move. -/
theorem graceSpares_step (s : Refreshes) (m : Move) (h : Kept s) (hm : Undisturbed s m) :
    GraceSpares s m (rotationStep cfg s m) := by
  cases m with
  | present | stop => trivial
  | run k elapsed user =>
    intro c' hk' hin
    refine ⟨?_, fun child hpc' => ?_⟩
    · cases hk : s.calls[k]? with
      | none => simp only [rotationStep, hk]
      | some c =>
        have hfits := h.calls c (List.mem_of_getElem? hk)
        rw [moved_tokens cfg hk elapsed user]
        obtain rfl := moved_call hk hk'
        cases hpc : c.pc with
        | read | descend | chainSelect | done | stopped => simp only [Call.move, hpc]
        | chainCommit t ids reason e selectedAt =>
          simp only [Call.move, hpc]
          simp only [Fits, hpc] at hfits
          have hseen := after_seen s (by simp [hpc] : c.pc ≠ .read)
          rw [(hfits.2.2 (hin.congr (hseen _ _).symm)).2, revokeRows_nil]
        | rotate t =>
          simp only [Fits, hpc] at hfits
          have hseen := after_seen s (by simp [hpc] : c.pc ≠ .read)
          exact absurd hin (not_inGrace_of_seen ((hseen _ _).trans hfits.2))
        | link child =>
          simp only [Fits, hpc] at hfits
          have hseen := after_seen s (by simp [hpc] : c.pc ≠ .read)
          exact absurd hin (not_inGrace_of_seen ((hseen _ _).trans hfits.2.2.2))
    · have hkept : Kept (rotationStep cfg s (.run k elapsed user)) := kept_step s _ h hm
      have hfits := hkept.calls c' (List.mem_of_getElem? hk')
      simp only [Fits, hpc'] at hfits
      exact hfits hin child rfl

/-- **Rotation.** In a run of undisturbed moves a session has at most one live token, a token
presented after its grace period ends the session, and one presented within it changes nothing. -/
theorem rotation_laws (cfg : Settings) (logins : List Login) (clock : Instant) (moves : List Move)
    (h : Meets (rotationStep cfg) Undisturbed (loggedIn cfg logins clock) moves) :
    (exec (rotationStep cfg) (loggedIn cfg logins clock) moves).OneLive ∧
      AllSteps (rotationStep cfg) ReuseRevokes (loggedIn cfg logins clock) moves ∧
      AllSteps (rotationStep cfg) GraceSpares (loggedIn cfg logins clock) moves := by
  have hstart := kept_loggedIn cfg logins clock
  refine ⟨fun _ => (exec_inv kept_step hstart h).one, ?_, ?_⟩
  · exact allSteps_of_inv kept_step reuseRevokes_step hstart h
  · exact allSteps_of_inv kept_step graceSpares_step hstart h

def inOrder : Account := ⟨false, true⟩

def oneSession : Refreshes := loggedIn developmentSettings [⟨1, none, 0⟩] 0

/-- The moves of a rotation by call `k` of the token `id`, up to its first commit. -/
def halfRotation (k : Nat) (id : TokenId) : List Move :=
  [.present id, .run k 0 inOrder, .run k 0 inOrder]

/-- Token 0 is rotated, presented once more within the grace period, and again after it. -/
def duplicateThenReuse : List Move :=
  halfRotation 0 0 ++ [.run 0 0 inOrder, .present 0, .run 1 second inOrder, .run 1 0 inOrder,
    .present 0, .run 2 (30 * second) inOrder, .run 2 0 inOrder, .run 2 0 inOrder]

/-- One call at a time: a rotation, a duplicate and a reuse. -/
theorem rotation_laws_alone :
    (exec (rotationStep developmentSettings) oneSession duplicateThenReuse).OneLive ∧
    AllSteps (rotationStep developmentSettings) ReuseRevokes oneSession duplicateThenReuse ∧
    AllSteps (rotationStep developmentSettings) GraceSpares oneSession duplicateThenReuse := by
  refine rotation_laws developmentSettings [⟨1, none, 0⟩] 0 _ ⟨trivial, ?_, ?_, ?_, trivial, ?_, ?_,
    trivial, ?_, ?_, ?_, trivial⟩ <;> intro c hc <;> obtain rfl := Option.some.inj hc
  · intro t r ht hrev
    obtain rfl := Option.some.inj ht
    exact absurd hrev (by decide)
  · intro t ht
    obtain rfl := Option.some.inj ht
    rfl
  · trivial
  -- The duplicate is read within the grace period, and finds the child of the rotation.
  · intro t r ht _ hat hlate
    obtain rfl := Option.some.inj ht
    obtain rfl := Option.some.inj hat
    exact absurd hlate (by decide)
  · refine ⟨?_, fun t ht _ => ?_⟩
    · rintro ⟨c, hc, hpresented, -⟩
      revert c
      decide
    · obtain rfl := Option.some.inj ht
      exact ⟨by decide, rfl, rfl⟩
  -- Each call has ended before the next one reads.
  · rintro t r - - - - ⟨c, hc, -, child, hpc⟩
    rcases List.mem_cons.mp hc with rfl | hc
    · cases hpc
    rcases List.mem_cons.mp hc with rfl | hc
    · cases hpc
    obtain rfl := List.mem_singleton.mp hc
    cases hpc
  · trivial
  · intro i u hu _ hlive
    match i with
    | 0 =>
      obtain rfl := Option.some.inj hu
      exact absurd hlive (by decide)
    | 1 => decide
    | _ + 2 => cases hu

/-! ## Where the laws fail -/

/-- Two calls read the token before either commits. -/
def twoRotations : List Move :=
  [.present 0, .present 0, .run 0 0 inOrder, .run 1 0 inOrder, .run 0 0 inOrder, .run 1 0 inOrder,
    .run 0 0 inOrder, .run 1 0 inOrder]

/-- A process stops between its commits, and the token is presented again 31 seconds later. -/
def reuseAfterStop : List Move := halfRotation 0 0 ++ [.stop 0, .present 0]

/-- Token 0 is rotated to 1; while 1 is being rotated to 2, token 0 is presented again. -/
def duplicateMeetsRotation : List Move :=
  halfRotation 0 0 ++ [.run 0 0 inOrder] ++ halfRotation 1 1 ++
    [.present 0, .run 2 0 inOrder, .run 2 0 inOrder, .run 2 0 inOrder]

/-- The user, the session and whether it is revoked, of every row. -/
def Refreshes.flags (s : Refreshes) : List (SessionId × Bool) :=
  s.tokens.map fun t => (t.sessionPublicId, t.revoked)

theorem row_of_flags {n : Nat} {b : Bool} (h : s.flags[n]? = some (session, b)) :
    ∃ t, s.tokens[n]? = some t ∧ t.sessionPublicId = session ∧ t.revoked = b := by
  rw [Refreshes.flags, List.getElem?_map] at h
  obtain ⟨t, ht, heq⟩ := Option.map_eq_some_iff.mp h
  obtain ⟨hs, hb⟩ := Prod.mk.inj heq
  exact ⟨t, ht, hs, hb⟩

/-- Each law fails in a run of its own. -/
theorem rotation_laws_fail :
    (¬ ∀ cfg logins clock moves,
      (exec (rotationStep cfg) (loggedIn cfg logins clock) moves).OneLive) ∧
    (¬ ∀ cfg logins clock moves,
      AllSteps (rotationStep cfg) ReuseRevokes (loggedIn cfg logins clock) moves) ∧
    (¬ ∀ cfg logins clock moves,
      AllSteps (rotationStep cfg) GraceSpares (loggedIn cfg logins clock) moves) := by
  refine ⟨fun h => ?_, fun h => ?_, fun h => ?_⟩
  · have hlive := h developmentSettings [⟨1, none, 0⟩] 0 twoRotations
    have hflags : (exec (rotationStep developmentSettings) oneSession twoRotations).flags =
        [(0, true), (0, false), (0, false)] := by decide +kernel
    have hcalls : (exec (rotationStep developmentSettings) oneSession twoRotations).calls =
        [⟨0, .done (.ok (.rotated 1)), none⟩, ⟨0, .done (.ok (.rotated 2)), none⟩] := rfl
    have hquiet : (exec (rotationStep developmentSettings) oneSession twoRotations).Quiet := by
      intro c hc
      rw [hcalls] at hc
      simp only [List.mem_cons, List.not_mem_nil, or_false] at hc
      rcases hc with rfl | rfl <;> exact .inr (.inr ⟨_, rfl⟩)
    obtain ⟨t, ht, hts, htr⟩ := row_of_flags (n := 1) (by rw [hflags]; rfl)
    obtain ⟨u, hu, hus, hur⟩ := row_of_flags (n := 2) (by rw [hflags]; rfl)
    exact absurd (hlive hquiet 1 2 t u ht hu (hts.trans hus.symm) htr hur) (by decide)
  · have hall := (allSteps_iff _ _).mp (h developmentSettings [⟨1, none, 0⟩] 0
      (reuseAfterStop ++ [.run 1 (31 * second) inOrder])) reuseAfterStop _ [] rfl
    have hflags : (exec (rotationStep developmentSettings) oneSession
        (reuseAfterStop ++ [.run 1 (31 * second) inOrder])).flags = [(0, true), (0, false)] := by
      decide +kernel
    rw [exec_append] at hflags
    obtain ⟨t, ht, hts, -⟩ := row_of_flags (n := 0) (by rw [hflags]; rfl)
    obtain ⟨u, hu, hus, hur⟩ := row_of_flags (n := 1) (by rw [hflags]; rfl)
    have hdead := hall ⟨0, .read, none⟩
      ⟨0, .done (raise "Refresh token revoked" 401), some (0, 31 * second)⟩ t rfl rfl
      (by rintro ⟨reply, hreply⟩; cases hreply) ⟨_, rfl⟩ ⟨0, _, rfl, by decide⟩ ht
    exact absurd (hdead.revoked hu (hus.trans hts.symm)) (by simp [hur])
  · have hall := (allSteps_iff _ _).mp (h developmentSettings [⟨1, none, 0⟩] 0
      (duplicateMeetsRotation ++ [.run 2 0 inOrder])) duplicateMeetsRotation _ [] rfl
    have hbefore : (exec (rotationStep developmentSettings) oneSession
        duplicateMeetsRotation).flags = [(0, true), (0, true), (0, false)] := by decide +kernel
    have hafter : (exec (rotationStep developmentSettings) oneSession
        (duplicateMeetsRotation ++ [.run 2 0 inOrder])).flags =
        [(0, true), (0, true), (0, true)] := by decide +kernel
    rw [exec_append] at hafter
    have hsame := (hall ⟨0, .done (.error ⟨"Refresh token revoked", 401⟩), some (0, 0)⟩ rfl
      ⟨0, 0, rfl, by decide⟩).1
    have hflags := congrArg (List.map fun t : RefreshToken => (t.sessionPublicId, t.revoked)) hsame
    exact absurd (hafter.symm.trans (hflags.trans hbefore)) (by decide)

end Deltapreneur.Auth
