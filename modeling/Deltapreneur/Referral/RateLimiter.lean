import Deltapreneur.Referral.Counter

/-!
# The referral rate limiter

Model of `ReferralRateLimiter` (`app/services/referral_rate_limiter.py:20-46`) with a Redis server.

* `check_track` counts the identity and, if that is within its limit, the token; `check_reward` counts
  the referrer. Each count is one transaction of the server, so they come in any order.
* The digest is a parameter; two identities may share one, and then their counter.

Result:

* `passed_within_limit`: no window holds more counts within its limit than the limit says.
-/

namespace Deltapreneur.Referral

open Expiring Run

/-- The limits of `app/core/config.py:330-333`. -/
structure Settings where
  REFERRAL_TRACK_LIMIT_WINDOW_SECONDS : ℤ := 3600
  REFERRAL_TRACK_LIMIT_PER_IDENTITY : ℤ := 30
  REFERRAL_TRACK_LIMIT_PER_TOKEN : ℤ := 10
  REFERRAL_REWARD_LIMIT_PER_REFERRER_DAILY : ℤ := 200

/-- What is counted. -/
inductive Subject
  | identity (identity : String)
  | token (token : String)
  | referrer (referrerId : String)
  deriving Repr, DecidableEq

namespace Subject

variable (settings : Settings) (digest : String → String)

def key : Subject → String
  | .identity i => "referral:track:identity:" ++ digest i
  | .token t => "referral:track:token:" ++ digest t
  | .referrer id => "referral:reward:referrer:" ++ id

def window : Subject → ℤ
  | .identity _ | .token _ => settings.REFERRAL_TRACK_LIMIT_WINDOW_SECONDS
  | .referrer _ => 86400

def limit : Subject → ℤ
  | .identity _ => settings.REFERRAL_TRACK_LIMIT_PER_IDENTITY
  | .token _ => settings.REFERRAL_TRACK_LIMIT_PER_TOKEN
  | .referrer _ => settings.REFERRAL_REWARD_LIMIT_PER_REFERRER_DAILY

/-- One count of a check: whether it is within the limit. -/
def count (a : Subject) (now : ℚ) (s : Store) : Bool × Store :=
  let (used, s) := incrementWindow .redis (a.key digest) (a.window settings) now s
  (used ≤ a.limit settings, s)

end Subject

variable (settings : Settings) (digest : String → String)

/-- The server, and the times at which a key was within its limit. -/
structure Server where
  clock : ℚ
  store : Store
  passed : String → List ℚ

def Server.start : Server := ⟨0, fun _ => none, fun _ => []⟩

def Server.step (w : Server) (call : Subject × ℚ) : Server :=
  let now := max w.clock call.2
  let key := call.1.key digest
  let (pass, store) := call.1.count settings digest now w.store
  { clock := now, store
    passed := Function.update w.passed key (if pass then w.passed key ++ [now] else w.passed key) }

variable {settings digest} {a x : Subject}

/-- How a key begins. -/
def Subject.start : Subject → String
  | .identity _ => "referral:track:i"
  | .token _ => "referral:track:t"
  | .referrer _ => "referral:reward:"

theorem take_key (a : Subject) : (a.key digest).toList.take 16 = a.start.toList := by
  have htake (first start rest : String)
      (h : 16 ≤ first.toList.length ∧ first.toList.take 16 = start.toList) :
      (first ++ rest).toList.take 16 = start.toList := by
    rw [String.toList_append, List.take_append_of_le_length h.1, h.2]
  cases a with
  | identity => exact htake "referral:track:identity:" "referral:track:i" _ (by decide)
  | token => exact htake "referral:track:token:" "referral:track:t" _ (by decide)
  | referrer => exact htake "referral:reward:referrer:" "referral:reward:" _ (by decide)

theorem rule_of_key (h : a.key digest = x.key digest) :
    a.window settings = x.window settings ∧ a.limit settings = x.limit settings := by
  have hstart : a.start = x.start :=
    String.toList_inj.mp (by rw [← take_key a, ← take_key x, h])
  cases a <;> cases x <;> first | exact ⟨rfl, rfl⟩ | simp [Subject.start] at hstart

/-- The calls of a key are within its limit. -/
def Server.Within (settings : Settings) (digest : String → String) (w : Server) (a : Subject) :
    Prop :=
  Keeps (ttl (a.window settings)) (a.limit settings).toNat w.clock (w.passed (a.key digest))
    (w.store (a.key digest))

theorem within_step (w : Server) (call : Subject × ℚ) (h : w.Within settings digest a) :
    (w.step settings digest call).Within settings digest a := by
  obtain ⟨x, time⟩ := call
  have hlater := h.later (le_max_left w.clock time)
  by_cases hkey : a.key digest = x.key digest
  · have ⟨hwindow, hlimit⟩ : a.window settings = x.window settings ∧ _ := rule_of_key hkey
    unfold Server.Within at h ⊢
    rw [hkey, hwindow, hlimit] at hlater ⊢
    have hpass : (x.count settings digest (max w.clock time) w.store).1 = true → _ :=
      fun h => Int.toNat_le_toNat (of_decide_eq_true h)
    have hcount := hlater.count hpass
    simpa [Server.step, Subject.count] using hcount
  · simpa [Server.Within, Server.step, Subject.count, hkey, incrementWindow_other hkey] using hlater

/-- **The limits hold**: in every run, no window holds more calls that were within the limit of their
identity, token or referrer than that limit. -/
theorem passed_within_limit (settings : Settings) (digest : String → String)
    (calls : List (Subject × ℚ)) (a : Subject) (t : ℚ) :
    (RateLimit.inWindow (ttl (a.window settings)) t
      ((exec (Server.step settings digest) .start calls).passed (a.key digest))).length ≤
        (a.limit settings).toNat := by
  have hstart : Server.start.Within settings digest a := keeps_none
  obtain ⟨recent, hlimited, -⟩ := (exec_preserves (P := fun w : Server => w.Within settings digest a)
    (fun w call h => within_step w call h) calls hstart).limited
  exact hlimited.count t

end Deltapreneur.Referral
