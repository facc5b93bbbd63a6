import Deltapreneur.Lib.Expiring
import Deltapreneur.Lib.Run

/-!
# The referral counters, with Redis and without

Model of `increment_window` (`app/services/ai_domain_cache.py:56-79`) and of the limits that the
referral endpoints put on its answer (`app/services/referral_rate_limiter.py:20-46`).

* With a Redis server a call is the transaction `INCR`, `EXPIRE`: a missing key counts from 0, and
  the key vanishes when its time to live runs out. Without one the process keeps the counter
  itself; no entry is ever removed, but one that has run out is replaced.
* Times are rational numbers of seconds; a time before that of the last call is taken as that one.
* The digest of an identity is a parameter.

Results:

* `counters_alike_iff`: in every run, exactly when no call finds a key in Redis that has run out in
  memory, the two answer the same and neither refuses a caller that keeps to a limit in every
  window.
* `quiet_caller_refused`: three calls, 40 seconds apart, under a limit of two a minute.
-/

namespace Deltapreneur.Referral

open Expiring Run

abbrev Store := String → Option (Entry ℚ ℕ)

inductive Backend
  | redis | memory
deriving Repr, DecidableEq

/-- `ttl` of `increment_window`. -/
def ttl (windowSeconds : ℤ) : ℚ := max 60 windowSeconds

/-- `increment_window`: the new count, and the store with it. -/
def incrementWindow (backend : Backend) (key : String) (windowSeconds : ℤ) (now : ℚ) (s : Store) :
    ℕ × Store :=
  let entry := match backend with
    | .redis => countRenewed (ttl windowSeconds) now (s key)
    | .memory => countFixed (ttl windowSeconds) now (s key)
  (entry.value, Function.update s key (some entry))

@[simp] theorem incrementWindow_self {b : Backend} {key : String} {window : ℤ} {now : ℚ}
    {s : Store} : (incrementWindow b key window now s).2 key = some (match b with
      | .redis => countRenewed (ttl window) now (s key)
      | .memory => countFixed (ttl window) now (s key)) := by
  cases b <;> simp [incrementWindow]

theorem incrementWindow_other {b : Backend} {key other : String} {window : ℤ} {now : ℚ} {s : Store}
    (h : other ≠ key) : (incrementWindow b key window now s).2 other = s other := by
  simp [incrementWindow, h]

/-! ## Calls of both -/

structure Call where
  key : String
  time : ℚ
deriving Repr, DecidableEq

/-- The two stores, the times of the calls on each key, and the last answers. -/
structure World where
  clock : ℚ
  memory : Store
  redis : Store
  calls : String → List ℚ
  /-- The key of the last call, with the counts of the two implementations. -/
  counts : Option (String × ℕ × ℕ)

def start : World := ⟨0, fun _ => none, fun _ => none, fun _ => [], none⟩

variable (window : ℤ)

/-- One call of `increment_window`, with and without Redis. -/
def step (w : World) (c : Call) : World :=
  let now := max w.clock c.time
  let (inMemory, memory) := incrementWindow .memory c.key window now w.memory
  let (inRedis, redis) := incrementWindow .redis c.key window now w.redis
  { clock := now, memory := memory, redis := redis,
    calls := Function.update w.calls c.key (w.calls c.key ++ [now])
    counts := some (c.key, inMemory, inRedis) }

/-- The last call was counted alike. -/
def Agree (w : World) : Prop := ∀ key m r, w.counts = some (key, m, r) → m = r

/-- The last call was counted alike, and a limit that its key keeps to in every window lets it
through. -/
def Alike (w : World) : Prop :=
  ∀ key m r, w.counts = some (key, m, r) → m = r ∧
    ∀ limit, (∀ t, (RateLimit.inWindow (window : ℚ) t (w.calls key)).length ≤ limit) →
      m ≤ limit ∧ r ≤ limit

/-- The call does not find its key in Redis when it has run out in memory: it comes within the
window of the call that started the count in memory, or a window after the last call. -/
def InStep (w : World) (c : Call) : Prop :=
  ¬ Outlived (max w.clock c.time) (w.memory c.key) (w.redis c.key)

/-- In memory a count is that of the calls in one window; as long as the answers agree, the two
stores do. -/
structure Follows (w : World) : Prop where
  fits : ∀ key, Fits (ttl window) w.clock (w.calls key) (w.memory key)
  counted : ∀ key m r, w.counts = some (key, m, r) →
    ∃ first, m ≤ (RateLimit.inWindow (ttl window) first (w.calls key)).length
  together : Agree w → ∀ key, Together (w.clock + ttl window) (w.memory key) (w.redis key)

variable {window} {w : World}

theorem follows_start : Follows window start where
  fits _ := fits_none
  counted _ _ _ h := nomatch h
  together _ _ := .empty

theorem ttl_pos : 0 < ttl window := lt_max_of_lt_left (by norm_num)

theorem ttl_eq (hlong : 60 ≤ window) : ttl window = window :=
  max_eq_right (by exact_mod_cast hlong)

theorem alike_iff_agree (hlong : 60 ≤ window) (h : Follows window w) :
    Alike window w ↔ Agree w := by
  constructor
  · intro halike key m r hcounts
    exact (halike key m r hcounts).1
  · intro hagree key m r hcounts
    obtain rfl := hagree key m r hcounts
    obtain ⟨first, hfirst⟩ := h.counted key m m hcounts
    rw [ttl_eq hlong] at hfirst
    exact ⟨rfl, fun limit hlimit => ⟨hfirst.trans (hlimit first), hfirst.trans (hlimit first)⟩⟩

theorem agree_step (h : Follows window w) (hagree : Agree w) (c : Call) :
    Agree (step window w c) ↔ InStep w c := by
  have htogether := (h.together hagree c.key).mono
    (add_le_add_left (le_max_left w.clock c.time) (ttl window))
  have hiff := count_eq_iff (ttl window) (max w.clock c.time) htogether
  constructor
  · intro hstep
    exact hiff.mp (hstep c.key _ _ rfl)
  · rintro hin key m r hcounts
    obtain ⟨-, rfl, rfl⟩ : c.key = key ∧ _ = m ∧ _ = r := by
      simpa only [step, Option.some.injEq, Prod.mk.injEq] using hcounts
    exact hiff.mpr hin

theorem follows_step (h : Follows window w) (hagree : Agree w) (c : Call) :
    Follows window (step window w c) where
  fits key := by
    by_cases hkey : key = c.key
    · subst hkey
      simpa [step] using ((h.fits c.key).later (le_max_left w.clock c.time)).count ttl_pos
    · simpa [step, hkey, incrementWindow_other] using
        (h.fits key).later (le_max_left w.clock c.time)
  counted key m r hcounts := by
    obtain ⟨rfl, rfl, -⟩ : c.key = key ∧ _ = m ∧ _ = r := by
      simpa only [step, Option.some.injEq, Prod.mk.injEq] using hcounts
    have hfits := ((h.fits c.key).later (le_max_left w.clock c.time)).count ttl_pos
    obtain ⟨first, -, -, hcount⟩ := hfits _ rfl
    exact ⟨first, by simpa [step, incrementWindow] using hcount⟩
  together hafter key := by
    have hle := add_le_add_left (le_max_left w.clock c.time) (ttl window)
    have hin := (agree_step h hagree c).mp hafter
    by_cases hkey : key = c.key
    · subst hkey
      simpa [step] using ((h.together hagree c.key).mono hle).count le_rfl hin
    · simpa [step, hkey, incrementWindow_other] using (h.together hagree key).mono hle

/-- **The two implementations count alike**, and then neither refuses a caller that keeps to the
limit in every window, throughout exactly the runs in which no call finds its key in Redis after it
has run out in memory. -/
theorem counters_alike_iff (hlong : 60 ≤ window) (calls : List Call) :
    (∀ pre, pre <+: calls → Alike window (exec (step window) start pre)) ↔
      Meets (step window) InStep start calls := by
  refine throughout_iff (I := Follows window) (fun w c h hP => ?_) follows_start ?_
  · have hagree := (alike_iff_agree hlong h).mp hP
    have hfollows := follows_step h hagree c
    exact ⟨hfollows, (alike_iff_agree hlong hfollows).trans (agree_step h hagree c)⟩
  · intro key m r hcounts
    cases hcounts

/-- Three calls, each 40 seconds after the one before. -/
def threeCalls : List Call := [⟨"k", 0⟩, ⟨"k", 40⟩, ⟨"k", 80⟩]

/-- In memory the third call is the first of a new minute; in Redis it is the third. No minute
holds more than two of them. -/
theorem quiet_caller_refused :
    ¬ ∀ (window : ℤ), 60 ≤ window → ∀ calls : List Call, ∀ pre, pre <+: calls →
      Alike window (exec (step window) start pre) := by
  intro h
  have hcounts : (exec (step 60) start threeCalls).counts = some ("k", 1, 3) := by decide +kernel
  have heq := (h 60 le_rfl threeCalls threeCalls (List.prefix_refl _) "k" 1 3 hcounts).1
  exact absurd heq (by decide)

theorem counters_alike_two_calls :
    (∀ pre, pre <+: [⟨"k", 0⟩, ⟨"k", 40⟩] → Alike 60 (exec (step 60) start pre)) ↔
      Meets (step 60) InStep start [⟨"k", 0⟩, ⟨"k", 40⟩] :=
  counters_alike_iff le_rfl [⟨"k", 0⟩, ⟨"k", 40⟩]

end Deltapreneur.Referral
