import Deltapreneur.Registrar.LoginGuard
import Mathlib.Data.List.Perm.Subperm

/-!
# One login for each invalidated token

The coroutines of the registrar client (`app/integrations/openprovider/client.py:409-521, 591-625`)
together with a registrar that answers them.

* The registrar numbers its tokens as it gives them out. It handles a request some time after it was
  sent and before its response arrives, and rejects it when its token is invalidated by then.
* It accepts every login with a fresh token (`Accepting`). It keeps accepting a fresh token: it
  invalidates none within `FRESH_SECONDS`, which leaves room for the logins below the rate limit,
  and none while a rejected request is being sent again.
* `expired` holds the tokens whose local lifetime ended while they were in the cache.

Results:

* `one_login_per_invalidation`: when an authentication error never finds a token in the cache that
  the registrar still accepts (`Timely`), there is at most one login more than tokens that were
  invalidated or expired, every request that has ended has succeeded after at most one retry, all
  have ended once nothing is due, and the circuit breaker is never tripped.
* A late authentication error for an old token discards the new one that others have fetched
  meanwhile (`late_error_costs_login`).
-/

namespace Deltapreneur.Registrar

open RateLimit Run

/-! ## The registrar -/

/-- How long a fresh token is accepted at least. -/
def FRESH_SECONDS : ℚ := LOGIN_RATE_WINDOW_SECONDS / LOGIN_RATE_LIMIT

/-- The client, the registrar and what is under way between them. -/
structure Exchange where
  sys : System
  /-- When each token was given. -/
  issued : List ℚ
  invalidated : List Token
  expired : List Token
  /-- The response under way to a coroutine. -/
  answer : Nat → Option Response
  /-- The coroutines whose requests the registrar has handled. -/
  served : List Nat

def Exchange.initial : Exchange := ⟨.initial, [], [], [], fun _ => none, []⟩

/-- The tokens that are of no use any more. -/
def Exchange.spent (w : Exchange) : List Token := w.invalidated ++ w.expired

inductive Deed
  | call (use : Use)
  | run (i : Nat)
  /-- The reply to a login arrives, with a fresh token. -/
  | login (i : Nat) (status : Nat) (expiry : ExpiryFields)
  /-- The registrar handles a request. -/
  | serve (i : Nat) (r : Response)
  /-- The response to a request arrives. -/
  | deliver (i : Nat)
  | invalidate (t : Token)

/-- The clock advances, and the token in the cache may expire. -/
def Exchange.tick (w : Exchange) (now : ℚ) : Exchange :=
  { w with
    sys := { w.sys with clock := now }
    expired := w.expired ++ w.sys.client.token.toList.filter fun t =>
      w.sys.client.tokenExpiry ≤ now ∧ t ∉ w.expired }

def Exchange.act (w : Exchange) (now : ℚ) : Deed → Exchange
  | .call use => { w with sys := w.sys.handle now (.call use) }
  | .run i => { w with sys := w.sys.handle now (.run i) }
  | .login i status expiry =>
    match w.sys.tasks[i]? with
    | some ⟨_, .loggingIn⟩ =>
      { w with
        sys := w.sys.handle now
          (.loginReply i (.response status (.object true (some w.issued.length) expiry)))
        issued := w.issued ++ [now] }
    | _ => w
  | .serve i r =>
    match w.sys.tasks[i]? with
    | some ⟨_, .sending _⟩ =>
      if (w.answer i).isSome then w
      else { w with answer := Function.update w.answer i (some r), served := w.served ++ [i] }
    | _ => w
  | .deliver i =>
    match w.answer i with
    | some r =>
      { w with
        sys := w.sys.handle now (.apiReply i (.response r))
        answer := Function.update w.answer i none }
    | none => w
  | .invalidate t =>
    if t < w.issued.length ∧ t ∉ w.invalidated then { w with invalidated := w.invalidated ++ [t] }
    else w

def Exchange.step (w : Exchange) (e : ℚ × Deed) : Exchange :=
  (w.tick (max w.sys.clock e.1)).act (max w.sys.clock e.1) e.2

/-- The token of the request that a coroutine awaits the response to. -/
def Exchange.sentWith (w : Exchange) (i : Nat) : Option Token :=
  match w.sys.tasks[i]? with
  | some ⟨_, .sending t⟩ => some t
  | _ => none

/-- A rejected request that has not ended yet. -/
def Task.retrying : Task → Bool
  | ⟨.retry _, .done _⟩ => false
  | ⟨.retry _, _⟩ => true
  | _ => false

/-- A registrar that accepts logins and fresh tokens, and rejects the tokens it has invalidated. -/
def Accepting (w : Exchange) : ℚ × Deed → Prop
  | (_, .login _ status expiry) => status < 400 ∧ expiry.readable = true
  | (_, .serve i r) => ∀ t ∈ w.sentWith i, responseIsAuthError r = true ↔ t ∈ w.invalidated
  | (now, .invalidate t) =>
    (∀ given ∈ w.issued[t]?, given + FRESH_SECONDS ≤ max w.sys.clock now) ∧
      ∀ task ∈ w.sys.tasks, task.retrying = false
  | _ => True

/-- An authentication error finds no token in the cache that the registrar still accepts. -/
def Timely (w : Exchange) : ℚ × Deed → Prop
  | (now, .deliver i) => ∀ r ∈ w.answer i, responseIsAuthError r = true →
      ∀ t ∈ w.sys.client.cached (max w.sys.clock now), t ∈ w.invalidated
  | _ => True

instance (w : Exchange) : (e : ℚ × Deed) → Decidable (Accepting w e)
  | (_, .login _ status expiry) =>
    inferInstanceAs (Decidable (status < 400 ∧ expiry.readable = true))
  | (_, .serve i _) => inferInstanceAs (Decidable (∀ t ∈ w.sentWith i, _ ↔ _))
  | (now, .invalidate t) =>
    inferInstanceAs (Decidable ((∀ given ∈ w.issued[t]?, _ ≤ max w.sys.clock now) ∧ _))
  | (_, .call _) | (_, .run _) | (_, .deliver _) => inferInstanceAs (Decidable True)

instance (w : Exchange) : (e : ℚ × Deed) → Decidable (Timely w e)
  | (now, .deliver i) =>
    inferInstanceAs (Decidable (∀ r ∈ w.answer i, responseIsAuthError r = true →
      ∀ t ∈ w.sys.client.cached (max w.sys.clock now), t ∈ w.invalidated))
  | (_, .call _) | (_, .run _) | (_, .login ..) | (_, .serve ..) | (_, .invalidate _) =>
    inferInstanceAs (Decidable True)

/-! ## The property -/

def Result.succeeded : Result → Bool
  | .token _ => true
  | .response r => !responseIsAuthError r
  | .raised _ => false

/-- A coroutine can go on, or a message is under way. -/
def Exchange.Due (w : Exchange) : Prop :=
  ∃ (i : Nat) (use : Use) (phase : Phase), w.sys.tasks[i]? = some ⟨use, phase⟩ ∧
    match phase with
    | .ready | .loggingIn | .sending _ => True
    | .waiting => w.sys.lock = none
    | .done _ => False

/-- What the client costs the registrar, and what becomes of its requests. -/
structure Exchange.Served (w : Exchange) : Prop where
  logins : w.sys.logins.length ≤ w.invalidated.length + w.expired.length + 1
  succeeded : ∀ (i : Nat) (use : Use) (r : Result), w.sys.tasks[i]? = some ⟨use, .done r⟩ →
    r.succeeded = true ∧ w.served.count i ≤ 2
  ended : ¬ w.Due → ∀ (i : Nat) (use : Use) (phase : Phase),
    w.sys.tasks[i]? = some ⟨use, phase⟩ → ∃ r, phase = .done r
  untripped : w.sys.client.authCooldownUntil = 0

/-! ## Lifetimes -/

variable {clock now : ℚ} {r : Response}

theorem scanExpiry_absolute {x : ℚ} : ∀ {fs : List Field}, scanExpiry now fs = .absolute x →
    now + 60 ≤ x
  | [], h => by simp [scanExpiry] at h
  | .absent :: fs, h | .unreadable :: fs, h => by
    rw [scanExpiry] at h
    exact scanExpiry_absolute h
  | .tooLarge :: _, h => by simp [scanExpiry] at h
  | .number y :: _, h => by
    rw [scanExpiry] at h
    split_ifs at h
    cases h
    exact le_max_left _ _

theorem expiryOfTtl_ge (now : ℚ) (ttl : Option ℚ) : now + 60 ≤ expiryOfTtl now ttl := by
  dsimp only [expiryOfTtl]
  gcongr
  exact le_max_left _ _

/-- A token is kept for a minute at least. -/
theorem parseTokenExpiry_ge {e : ExpiryFields} {x : ℚ} (h : parseTokenExpiry e now = some x) :
    now + 60 ≤ x := by
  unfold parseTokenExpiry at h
  cases hin : e.get .expiresIn with
  | tooLarge => simp [hin] at h
  | number ttl =>
    simp only [hin, Option.some.injEq] at h
    exact h ▸ expiryOfTtl_ge now _
  | absent | unreadable =>
    simp only [hin] at h
    cases hs : scanExpiry now (absoluteKeys.map e.get) with
    | raised => simp [hs] at h
    | absolute y =>
      simp only [hs, Option.some.injEq] at h
      exact h ▸ scanExpiry_absolute hs
    | ttl ttl =>
      simp only [hs, Option.some.injEq] at h
      exact h ▸ expiryOfTtl_ge now ttl

theorem fresh_pos : 0 ≤ FRESH_SECONDS := by
  norm_num [FRESH_SECONDS, LOGIN_RATE_WINDOW_SECONDS, LOGIN_RATE_LIMIT]

theorem fresh_le : FRESH_SECONDS ≤ 60 := by
  norm_num [FRESH_SECONDS, LOGIN_RATE_WINDOW_SECONDS, LOGIN_RATE_LIMIT]

theorem window_le_fresh : LOGIN_RATE_WINDOW_SECONDS ≤ LOGIN_RATE_LIMIT * FRESH_SECONDS := by
  norm_num [FRESH_SECONDS, LOGIN_RATE_WINDOW_SECONDS, LOGIN_RATE_LIMIT]

/-! ## Logins and tokens -/

variable {c : Client} {lock : Option Nat} {logins issued : List ℚ} {spent spent' : List Token}
  {t : Token} {given : ℚ}

/-- Every login but the one in flight has given a token, and every token but the last is spent. -/
structure Accounts (clock : ℚ) (c : Client) (lock : Option Nat) (logins issued : List ℚ)
    (spent : List Token) : Prop where
  started : 0 ≤ clock
  closed : c.authCooldownUntil = 0
  logins : logins.length = issued.length + lock.toList.length
  replaced : ∀ t, t < issued.length → t ∈ spent ∨ lock = none ∧ c.token = some t
  current : ∀ t, c.token = some t → ∃ given ∈ issued[t]?, given + 60 ≤ c.tokenExpiry
  aged : ∀ t ∈ spent, ∃ given ∈ issued[t]?, given + FRESH_SECONDS ≤ clock
  spaced : Spaced FRESH_SECONDS c.loginAttemptTimes
  past : ∀ x ∈ c.loginAttemptTimes, x ≤ clock
  answered : lock = none → ∀ x ∈ c.loginAttemptTimes, ∃ given ∈ issued.getLast?, x ≤ given

/-- What is in the cache and has expired is spent. -/
def Lapsed (clock : ℚ) (c : Client) (spent : List Token) : Prop :=
  ∀ t, c.token = some t → c.tokenExpiry ≤ clock → t ∈ spent

theorem Accounts.bounded (h : Accounts clock c lock logins issued spent) :
    logins.length ≤ spent.length + 1 := by
  have hsub : List.range issued.length ⊆ spent ++ (if lock = none then c.token.toList else []) := by
    intro t ht
    rcases h.replaced t (List.mem_range.mp ht) with hs | ⟨hlock, htoken⟩
    · exact List.mem_append_left _ hs
    · exact List.mem_append_right _ (by simp [hlock, htoken])
  have hlen := (List.subperm_of_subset List.nodup_range hsub).length_le
  rw [List.length_range, List.length_append] at hlen
  rw [h.logins]
  cases lock with
  | none =>
    have htoken : c.token.toList.length ≤ 1 := by cases c.token <;> simp
    simp only [if_true, Option.toList_none, List.length_nil] at hlen ⊢
    omega
  | some i =>
    simp only [reduceCtorEq, if_false, Option.toList_some, List.length_nil,
      List.length_singleton] at hlen ⊢
    omega

/-- Time passes, and tokens that are old enough are spent. -/
theorem Accounts.later (h : Accounts clock c lock logins issued spent) (hle : clock ≤ now)
    (hsub : spent ⊆ spent')
    (hnew : ∀ t ∈ spent', t ∉ spent → ∃ given ∈ issued[t]?, given + FRESH_SECONDS ≤ now) :
    Accounts now c lock logins issued spent' where
  started := h.started.trans hle
  closed := h.closed
  logins := h.logins
  replaced t ht := (h.replaced t ht).imp_left fun hs => hsub hs
  current := h.current
  aged t ht := by
    by_cases hs : t ∈ spent
    · obtain ⟨given, hgiven, hage⟩ := h.aged t hs
      exact ⟨given, hgiven, hage.trans hle⟩
    · exact hnew t ht hs
  spaced := h.spaced
  past x hx := (h.past x hx).trans hle
  answered := h.answered

theorem Accounts.clear (h : Accounts clock c lock logins issued spent)
    (hspent : ∀ t, c.token = some t → t ∈ spent) :
    Accounts clock c.clearCachedToken lock logins issued spent where
  started := h.started
  closed := h.closed
  logins := h.logins
  replaced t ht := .inl ((h.replaced t ht).elim id fun hc => hspent t hc.2)
  current t ht := absurd ht (by simp [Client.clearCachedToken])
  aged := h.aged
  spaced := h.spaced
  past := h.past
  answered := h.answered

theorem Accounts.allSpent (h : Accounts clock c none logins issued spent)
    (hlapsed : Lapsed clock c spent) (hnone : c.cached clock = none) (ht : t < issued.length) :
    t ∈ spent := by
  rcases h.replaced t ht with hs | ⟨-, htoken⟩
  · exact hs
  · refine hlapsed t htoken (not_lt.mp fun hlt => ?_)
    simp [Client.cached, htoken, hlt] at hnone

theorem Accounts.last_le (h : Accounts clock c none logins issued spent)
    (hlapsed : Lapsed clock c spent) (hnone : c.cached clock = none) {x : ℚ}
    (hx : x ∈ c.loginAttemptTimes) : x + FRESH_SECONDS ≤ clock := by
  obtain ⟨given, hgiven, hle⟩ := h.answered rfl x hx
  rw [List.getLast?_eq_getElem?] at hgiven
  have hlt := (List.getElem?_eq_some_iff.mp hgiven).1
  obtain ⟨given', hgiven', hage⟩ := h.aged _ (h.allSpent hlapsed hnone hlt)
  obtain rfl : given = given' := Option.some.inj (hgiven.symm.trans hgiven')
  linarith

theorem Accounts.room (h : Accounts clock c none logins issued spent)
    (hlapsed : Lapsed clock c spent) (hnone : c.cached clock = none) :
    (c.dropOldAttempts clock).loginAttemptTimes.length < LOGIN_RATE_LIMIT :=
  h.spaced.trim_length_lt fresh_pos
    (fun _ hlast => h.last_le hlapsed hnone (List.mem_of_mem_getLast? hlast)) (by decide)
    window_le_fresh

theorem Accounts.send (h : Accounts clock c none logins issued spent)
    (hlapsed : Lapsed clock c spent) (hnone : c.cached clock = none) (i : Nat) :
    Accounts clock { c.dropOldAttempts clock with
      loginAttemptTimes := (c.dropOldAttempts clock).loginAttemptTimes ++ [clock] } (some i)
      (logins ++ [clock]) issued spent := by
  have hsuffix : (c.dropOldAttempts clock).loginAttemptTimes <:+ c.loginAttemptTimes :=
    List.dropWhile_suffix _
  have hspaced : Spaced FRESH_SECONDS (c.dropOldAttempts clock).loginAttemptTimes :=
    List.IsChain.suffix h.spaced hsuffix
  exact {
    started := h.started
    closed := h.closed
    logins := by
      have hlen := h.logins
      simp only [Option.toList_none, List.length_nil] at hlen
      simp only [List.length_append, List.length_singleton, Option.toList_some]
      omega
    replaced := fun t ht => .inl (h.allSpent hlapsed hnone ht)
    current := h.current
    aged := h.aged
    spaced := hspaced.append fun x hx =>
      h.last_le hlapsed hnone (hsuffix.mem (List.mem_of_mem_getLast? hx))
    past := fun x hx => by
      rcases List.mem_append.mp hx with hx | hx
      · exact h.past x (hsuffix.mem hx)
      · rw [List.mem_singleton.mp hx]
    answered := fun hlock => absurd hlock (by simp) }

theorem given_append (h : given ∈ issued[t]?) : given ∈ (issued ++ [clock])[t]? := by
  rw [List.getElem?_append_left (List.getElem?_eq_some_iff.mp h).1]
  exact h

theorem Accounts.receive {i : Nat} (h : Accounts clock c (some i) logins issued spent) {e : ℚ}
    (he : clock + 60 ≤ e) :
    Accounts clock { c with token := some issued.length, tokenExpiry := e } none logins
      (issued ++ [clock]) spent where
  started := h.started
  closed := h.closed
  logins := by
    have hlen := h.logins
    simp only [Option.toList_some, List.length_singleton] at hlen
    simp only [List.length_append, List.length_singleton, Option.toList_none, List.length_nil]
    omega
  replaced t ht := by
    rcases Nat.lt_succ_iff_lt_or_eq.mp (List.length_append.symm ▸ ht) with hlt | heq
    · exact .inl ((h.replaced t hlt).resolve_right fun hc => absurd hc.1 (by simp))
    · exact .inr ⟨rfl, congrArg some heq.symm⟩
  current t ht := by
    obtain rfl : issued.length = t := Option.some.inj ht
    exact ⟨clock, by simp, he⟩
  aged t ht := by
    obtain ⟨given, hgiven, hage⟩ := h.aged t ht
    exact ⟨given, given_append hgiven, hage⟩
  spaced := h.spaced
  past := h.past
  answered _ x hx := ⟨clock, by simp, h.past x hx⟩

/-! ## Coroutines -/

def Use.tries : Use → Nat
  | .tokenOnly | .request => 0
  | .retry _ => 1

/-- Where a coroutine can be, given the response under way to it and how often its request has been
handled. A request that is sent again carries a token that is accepted. -/
def Fits (invalidated : List Token) (answer : Option Response) (count : Nat) : Task → Prop
  | ⟨use, .ready⟩ | ⟨use, .waiting⟩ | ⟨use, .loggingIn⟩ => answer = none ∧ count ≤ use.tries
  | ⟨use, .sending t⟩ =>
    (∀ r, answer = some r → responseIsAuthError r = true → t ∈ invalidated) ∧
      (use.tries = 1 → t ∉ invalidated) ∧ count ≤ use.tries + answer.toList.length
  | ⟨_, .done r⟩ => answer = none ∧ r.succeeded = true ∧ count ≤ 2

abbrev Exchange.Accounts (w : Exchange) : Prop :=
  Registrar.Accounts w.sys.clock w.sys.client w.sys.lock w.sys.logins w.issued w.spent

abbrev Exchange.Lapsed (w : Exchange) : Prop :=
  Registrar.Lapsed w.sys.clock w.sys.client w.spent

structure Calm (w : Exchange) : Prop where
  accounts : w.Accounts
  lock : ∀ i, w.sys.lock = some i ↔ ∃ use, w.sys.tasks[i]? = some ⟨use, .loggingIn⟩
  retried : ∀ task ∈ w.sys.tasks, task.retrying = true →
    ∀ t, w.sys.client.token = some t → t ∉ w.invalidated
  tasks : ∀ i task, w.sys.tasks[i]? = some task →
    Fits w.invalidated (w.answer i) (w.served.count i) task
  absent : ∀ i, w.sys.tasks[i]? = none → w.answer i = none ∧ w.served.count i = 0

variable {w w' : Exchange} {s s' : System} {i j : Nat} {use : Use} {phase : Phase} {task : Task}
  {tasks : List Task}

theorem retrying_iff :
    (⟨use, phase⟩ : Task).retrying = true ↔ use.tries = 1 ∧ ∀ r, phase ≠ .done r := by
  cases use <;> cases phase <;> simp [Task.retrying, Use.tries]

theorem Calm.move (h : Calm w) (hi : w.sys.tasks[i]? = some task) (hacc : w'.Accounts)
    (htasks : w'.sys.tasks = w.sys.tasks.set i ⟨use, phase⟩)
    (hinvalidated : w'.invalidated = w.invalidated)
    (hother : ∀ j, j ≠ i → w'.answer j = w.answer j ∧ w'.served.count j = w.served.count j)
    (hlock : ∀ j, w'.sys.lock = some j ↔
      if j = i then phase = .loggingIn else w.sys.lock = some j)
    (hretried : ∀ task ∈ w.sys.tasks.set i ⟨use, phase⟩, task.retrying = true →
      ∀ t, w'.sys.client.token = some t → t ∉ w.invalidated)
    (hfits : Fits w.invalidated (w'.answer i) (w'.served.count i) ⟨use, phase⟩) : Calm w' := by
  have hlt := (List.getElem?_eq_some_iff.mp hi).1
  have hself : w'.sys.tasks[i]? = some ⟨use, phase⟩ := by
    rw [htasks, List.getElem?_set_self hlt]
  have hne : ∀ j, j ≠ i → w'.sys.tasks[j]? = w.sys.tasks[j]? := fun j hj => by
    rw [htasks, List.getElem?_set_ne (Ne.symm hj)]
  refine ⟨hacc, fun j => ?_, by rwa [hinvalidated, htasks], fun j task hj => ?_, fun j hj => ?_⟩
  · rw [hlock j]
    by_cases hji : j = i
    · subst hji
      rw [if_pos rfl, hself]
      constructor
      · rintro rfl
        exact ⟨use, rfl⟩
      · rintro ⟨u, hu⟩
        exact congrArg Task.phase (Option.some.inj hu)
    · rw [if_neg hji, hne j hji]
      exact h.lock j
  · rw [hinvalidated]
    by_cases hji : j = i
    · subst hji
      obtain rfl : ⟨use, phase⟩ = task := Option.some.inj (hself.symm.trans hj)
      exact hfits
    · rw [(hother j hji).1, (hother j hji).2]
      exact h.tasks j task (hne j hji ▸ hj)
  · by_cases hji : j = i
    · subst hji
      exact absurd hj (by simp [hself])
    · rw [(hother j hji).1, (hother j hji).2]
      exact h.absent j (hne j hji ▸ hj)

/-! ## Getting a token -/

/-- What a coroutine that asks for a token does when the circuit is closed and there is room for a
login. -/
inductive Gets (s : System) (i : Nat) (use : Use) : System → Prop
  | cached {tok : Token} (h : s.client.cached s.clock = some tok) :
    Gets s i use (s.gotToken i use tok)
  | waits (hlock : s.lock.isSome = true) : Gets s i use (s.setTask i use .waiting)
  | logsIn (h : s.client.cached s.clock = none) (hlock : s.lock = none) :
    Gets s i use
      ({ s with
        client := { s.client.dropOldAttempts s.clock with
          loginAttemptTimes := (s.client.dropOldAttempts s.clock).loginAttemptTimes ++ [s.clock] }
        lock := some i
        logins := s.logins ++ [s.clock] }.setTask i use .loggingIn)

/-- The circuit is closed, and a login that is needed has room. -/
structure Open (s : System) : Prop where
  closed : s.client.authInCooldown s.clock = false
  room : s.lock = none → s.client.cached s.clock = none →
    (s.client.dropOldAttempts s.clock).loginAttemptTimes.length < LOGIN_RATE_LIMIT

theorem Open.locked (h : Open s) (hlock : s.lock = none) : Gets s i use (s.locked i use s.clock) := by
  unfold System.locked Client.getTokenLocked
  rw [if_neg (by simp [h.closed])]
  cases hcached : s.client.cached s.clock with
  | some t => exact .cached hcached
  | none =>
    have hroom := h.room hlock hcached
    simp only [Client.enforceLoginRateLimit]
    rw [if_neg (Nat.not_le.mpr hroom)]
    exact .logsIn hcached hlock

theorem Open.getToken (h : Open s) : Gets s i use (s.getToken i use s.clock) := by
  unfold System.getToken
  rw [if_neg (by simp [h.closed])]
  cases hcached : s.client.cached s.clock with
  | some t => exact .cached hcached
  | none =>
    cases hlock : s.lock with
    | some j => exact .waits (by simp [hlock])
    | none => exact h.locked hlock

theorem Accounts.open (h : Accounts s.clock s.client s.lock logins issued spent)
    (hlapsed : Lapsed s.clock s.client spent) : Open s := by
  refine ⟨by simp [Client.authInCooldown, h.closed, h.started], fun hlock hnone => ?_⟩
  rw [hlock] at h
  exact h.room hlapsed hnone

theorem Calm.lock_same (h : Calm w) (hi : w.sys.tasks[i]? = some task)
    (hold : task.phase ≠ .loggingIn) (hphase : phase ≠ .loggingIn) (j : Nat) :
    w.sys.lock = some j ↔ if j = i then phase = .loggingIn else w.sys.lock = some j := by
  by_cases hji : j = i
  · rw [if_pos hji, hji, h.lock i]
    refine ⟨fun ⟨u, hu⟩ => absurd ?_ hold, fun hp => absurd hp hphase⟩
    rw [Option.some.inj (hi.symm.trans hu)]
  · rw [if_neg hji]

/-- A coroutine asks for a token; `c` is the client after it has taken a rejected one from the
cache. -/
theorem Calm.gets (h : Calm w) (hi : w.sys.tasks[i]? = some task) (hold : task.phase ≠ .loggingIn)
    (hacc : Registrar.Accounts w.sys.clock c w.sys.lock w.sys.logins w.issued w.spent)
    (hlapsed : Registrar.Lapsed w.sys.clock c w.spent)
    (hc : ∀ t, c.token = some t → w.sys.client.token = some t)
    (hretry : use.tries = 1 → ∀ t, c.token = some t → t ∉ w.invalidated)
    (hcount : w.served.count i ≤ use.tries) (hs : Gets { w.sys with client := c } i use s) :
    Calm { w with sys := s, answer := Function.update w.answer i none } := by
  have hother : ∀ j, j ≠ i → Function.update w.answer i none j = w.answer j ∧
      w.served.count j = w.served.count j := fun j hj => ⟨Function.update_of_ne hj _ _, rfl⟩
  have hself : Function.update w.answer i none i = none := Function.update_self i none w.answer
  have hretried : ∀ phase, ∀ task ∈ w.sys.tasks.set i ⟨use, phase⟩, task.retrying = true →
      ∀ t, c.token = some t → t ∉ w.invalidated := by
    intro phase task htask hr t ht
    rcases List.mem_or_eq_of_mem_set htask with hold | rfl
    · exact h.retried task hold hr t (hc t ht)
    · exact hretry (retrying_iff.mp hr).1 t ht
  cases hs with
  | @cached tok hcached =>
    have htok : c.token = some tok := (Option.filter_eq_some_iff.mp hcached).1
    cases use with
    | tokenOnly =>
      refine h.move hi hacc rfl rfl hother (h.lock_same hi hold (by simp)) (hretried _) ?_
      exact ⟨hself, rfl, hcount.trans (by simp [Use.tries])⟩
    | request | retry a =>
      refine h.move hi hacc rfl rfl hother (h.lock_same hi hold (by simp)) (hretried _) ?_
      dsimp only [Fits]
      rw [hself]
      exact ⟨fun r hr => absurd hr (by simp), fun ht => hretry ht tok htok, hcount⟩
  | waits hlock =>
    refine h.move hi hacc rfl rfl hother (h.lock_same hi hold (by simp)) (hretried _) ?_
    exact ⟨hself, hcount⟩
  | logsIn hnone hlock =>
    have hlock : w.sys.lock = none := hlock
    rw [hlock] at hacc
    refine h.move hi (hacc.send hlapsed hnone i) rfl rfl hother (fun j => ?_) (hretried _)
      ⟨hself, hcount⟩
    by_cases hji : j = i
    · rw [if_pos hji, hji]
      exact ⟨fun _ => rfl, fun _ => rfl⟩
    · rw [if_neg hji, hlock]
      refine ⟨fun hj => absurd (Option.some.inj hj).symm hji, fun hj => absurd hj (by simp)⟩

theorem Calm.gets_run (h : Calm w) (hlapsed : w.Lapsed)
    (hi : w.sys.tasks[i]? = some ⟨use, phase⟩) (hphase : phase = .ready ∨ phase = .waiting)
    (hs : Gets w.sys i use s) : Calm { w with sys := s } := by
  have hfits : w.answer i = none ∧ w.served.count i ≤ use.tries := by
    rcases hphase with rfl | rfl <;> exact h.tasks i _ hi
  have hsame : Function.update w.answer i none = w.answer := by
    rw [Function.update_eq_self_iff, hfits.1]
  have hgets := h.gets hi (by rcases hphase with rfl | rfl <;> simp) h.accounts hlapsed
    (fun t ht => ht) (fun htries t ht => ?_) hfits.2 hs
  · rwa [hsame] at hgets
  · refine h.retried _ (List.mem_of_getElem? hi) (retrying_iff.mpr ⟨htries, fun r => ?_⟩) t ht
    rcases hphase with rfl | rfl <;> simp

/-! ## The steps -/

theorem Calm.tick (h : Calm w) (hle : w.sys.clock ≤ now) :
    Calm (w.tick now) ∧ (w.tick now).Lapsed := by
  have hmem : ∀ t, t ∈ (w.tick now).spent ↔
      t ∈ w.spent ∨ w.sys.client.token = some t ∧ w.sys.client.tokenExpiry ≤ now := by
    intro t
    simp only [Exchange.tick, Exchange.spent, List.mem_append, List.mem_filter,
      Option.mem_toList, decide_eq_true_eq]
    tauto
  refine ⟨⟨h.accounts.later hle (fun t ht => (hmem t).mpr (.inl ht)) fun t ht hs => ?_, h.lock,
    h.retried, h.tasks, h.absent⟩, fun t ht hexpiry => (hmem t).mpr (.inr ⟨ht, hexpiry⟩)⟩
  obtain ⟨htoken, hexpiry⟩ := ((hmem t).mp ht).resolve_left hs
  obtain ⟨given, hgiven, hage⟩ := h.accounts.current t htoken
  have hold : given + FRESH_SECONDS ≤ now := by linarith [fresh_le]
  exact ⟨given, hgiven, hold⟩

theorem Calm.call (h : Calm w) (hnew : ∀ t, use ≠ .retry t) :
    Calm { w with sys := { w.sys with tasks := w.sys.tasks ++ [⟨use, .ready⟩] } } := by
  have htasks : ∀ (j : Nat) (task : Task),
      (w.sys.tasks ++ [⟨use, .ready⟩])[j]? = some task →
      w.sys.tasks[j]? = some task ∨ w.sys.tasks[j]? = none ∧ task = ⟨use, .ready⟩ := by
    intro j task hj
    by_cases hlt : j < w.sys.tasks.length
    · exact .inl (List.getElem?_append_left hlt ▸ hj)
    · have hge := Nat.not_lt.mp hlt
      rw [List.getElem?_append_right hge] at hj
      refine .inr ⟨List.getElem?_eq_none hge, ?_⟩
      simpa using List.mem_of_getElem? hj
  refine ⟨h.accounts, fun i => ?_, fun task htask hr => ?_, fun i task hi => ?_,
    fun i hi => h.absent i ?_⟩
  · rw [h.lock i]
    refine ⟨fun ⟨u, hu⟩ => ⟨u, ?_⟩, fun ⟨u, hu⟩ => ⟨u, ?_⟩⟩
    · exact (List.getElem?_append_left (List.getElem?_eq_some_iff.mp hu).1).trans hu
    · exact (htasks i _ hu).resolve_right fun hr => absurd hr.2 (by simp)
  · rcases List.mem_append.mp htask with hold | hready
    · exact h.retried task hold hr
    · cases List.mem_singleton.mp hready
      cases use with
      | tokenOnly | request => cases hr
      | retry t => exact absurd rfl (hnew t)
  · rcases htasks i task hi with hold | ⟨hnone, rfl⟩
    · exact h.tasks i task hold
    · obtain ⟨hanswer, hcount⟩ := h.absent i hnone
      exact ⟨hanswer, hcount ▸ Nat.zero_le _⟩
  · rw [List.getElem?_eq_none_iff] at hi ⊢
    simp at hi
    omega

/-- The reply to a login: a fresh token, which the coroutine goes on with. -/
theorem Calm.login (h : Calm w) (hi : w.sys.tasks[i]? = some ⟨use, .loggingIn⟩) {e : ℚ}
    (he : w.sys.clock + 60 ≤ e) :
    Calm { w with
      sys := { w.sys with
        client := { w.sys.client with token := some w.issued.length, tokenExpiry := e }
        lock := none }.gotToken i use w.issued.length
      issued := w.issued ++ [w.sys.clock] } := by
  have hlock : w.sys.lock = some i := (h.lock i).mpr ⟨use, hi⟩
  have hacc := h.accounts
  rw [Exchange.Accounts, hlock] at hacc
  have hfresh : w.issued.length ∉ w.invalidated := fun hmem => by
    obtain ⟨given, hgiven, -⟩ := hacc.aged _ (List.mem_append_left _ hmem)
    exact absurd (List.getElem?_eq_some_iff.mp hgiven).1 (Nat.lt_irrefl _)
  obtain ⟨hanswer, hcount⟩ := h.tasks i _ hi
  have hfree : ∀ phase : Phase, phase ≠ .loggingIn → ∀ j, (none : Option Nat) = some j ↔
      if j = i then phase = .loggingIn else w.sys.lock = some j := by
    intro phase hphase j
    by_cases hji : j = i
    · simp [hji, hphase]
    · simp [hji, hlock, Ne.symm hji]
  have hretried : ∀ t, some w.issued.length = some t → t ∉ w.invalidated := fun t ht =>
    Option.some.inj ht ▸ hfresh
  cases use with
  | tokenOnly =>
    exact h.move hi (hacc.receive he) rfl rfl (fun j _ => ⟨rfl, rfl⟩) (hfree _ (by simp))
      (fun _ _ _ => hretried) ⟨hanswer, rfl, hcount.trans (by simp [Use.tries])⟩
  | request | retry a =>
    refine h.move hi (hacc.receive he) rfl rfl (fun j _ => ⟨rfl, rfl⟩) (hfree _ (by simp))
      (fun _ _ _ => hretried) ?_
    dsimp only [Fits]
    rw [hanswer]
    exact ⟨fun r hr => absurd hr (by simp), fun _ => hfresh, hcount⟩

theorem Calm.serve (h : Calm w) (hi : w.sys.tasks[i]? = some ⟨use, .sending t⟩)
    (hanswer : w.answer i = none) (hr : responseIsAuthError r = true → t ∈ w.invalidated) :
    Calm { w with answer := Function.update w.answer i (some r), served := w.served ++ [i] } := by
  have hother : ∀ j, j ≠ i → Function.update w.answer i (some r) j = w.answer j ∧
      (w.served ++ [i]).count j = w.served.count j := fun j hj =>
    ⟨Function.update_of_ne hj _ _, by simp [List.count_append, Ne.symm hj]⟩
  have hsame : w.sys.tasks = w.sys.tasks.set i ⟨use, .sending t⟩ := by
    obtain ⟨hlt, heq⟩ := List.getElem?_eq_some_iff.mp hi
    rw [← heq, List.set_getElem_self]
  obtain ⟨-, hretry, hcount⟩ := h.tasks i _ hi
  rw [hanswer] at hcount
  refine h.move hi h.accounts hsame rfl hother (h.lock_same hi (by simp) (by simp))
    (hsame ▸ h.retried) ?_
  refine ⟨fun r' hr' hauth => hr ?_, hretry, ?_⟩
  · dsimp only at hr'
    rw [Function.update_self] at hr'
    rwa [Option.some.inj hr']
  · simpa [List.count_append] using hcount

/-- The response to a request. After a rejection the request is sent again, once. -/
theorem Calm.deliver (h : Calm w) (hlapsed : w.Lapsed)
    (hi : w.sys.tasks[i]? = some ⟨use, .sending t⟩) (hanswer : w.answer i = some r)
    (htimely : responseIsAuthError r = true →
      ∀ t, w.sys.client.cached w.sys.clock = some t → t ∈ w.invalidated) :
    Calm { w with
      sys := w.sys.apiReply i use t w.sys.clock (.response r)
      answer := Function.update w.answer i none } := by
  obtain ⟨hrejected, hretry, hcount⟩ := h.tasks i _ hi
  rw [hanswer, Option.toList_some, List.length_singleton] at hcount
  unfold System.apiReply
  by_cases hauth : responseIsAuthError r = true
  · have ht : t ∈ w.invalidated := hrejected r hanswer hauth
    have hspent : ∀ t, w.sys.client.token = some t → t ∈ w.spent := by
      intro t htoken
      by_cases hlt : w.sys.clock < w.sys.client.tokenExpiry
      · exact List.mem_append_left _ (htimely hauth t (by simp [Client.cached, htoken, hlt]))
      · exact hlapsed t htoken (not_lt.mp hlt)
    have hacc := h.accounts.clear hspent
    have hempty : ∀ {p : Token → Prop}, ∀ t, w.sys.client.clearCachedToken.token = some t → p t :=
      fun t ht => absurd ht (by simp [Client.clearCachedToken])
    have hlapsed' : Registrar.Lapsed w.sys.clock w.sys.client.clearCachedToken w.spent := hempty
    have hopen : Open { w.sys with client := w.sys.client.clearCachedToken } :=
      Accounts.open hacc hlapsed'
    dsimp only
    rw [if_neg (not_not.mpr hauth)]
    cases use with
    | tokenOnly | request =>
      exact h.gets hi (by simp) hacc hlapsed' hempty (fun _ => hempty)
        (hcount.trans (by simp [Use.tries])) hopen.getToken
    | retry a => exact absurd ht (hretry rfl)
  · dsimp only
    rw [if_pos hauth]
    refine h.move hi h.accounts rfl rfl (fun j hj => ⟨Function.update_of_ne hj _ _, rfl⟩)
      (h.lock_same hi (by simp) (by simp)) (fun task htask hr => ?_) ?_
    · rcases List.mem_or_eq_of_mem_set htask with hold | rfl
      · exact h.retried task hold hr
      · exact absurd rfl ((retrying_iff.mp hr).2 _)
    · have htries : use.tries + 1 ≤ 2 := by cases use <;> simp [Use.tries]
      exact ⟨Function.update_self .., by simpa [Result.succeeded] using hauth,
        hcount.trans htries⟩

theorem Calm.invalidate (h : Calm w) (ht : t < w.issued.length)
    (hage : ∀ given ∈ w.issued[t]?, given + FRESH_SECONDS ≤ w.sys.clock)
    (hquiet : ∀ task ∈ w.sys.tasks, task.retrying = false) :
    Calm { w with invalidated := w.invalidated ++ [t] } := by
  have hsub : w.spent ⊆ (w.invalidated ++ [t]) ++ w.expired := by
    intro u hu
    rcases List.mem_append.mp hu with hu | hu
    · exact List.mem_append_left _ (List.mem_append_left _ hu)
    · exact List.mem_append_right _ hu
  refine ⟨h.accounts.later (le_refl _) hsub fun u hu hold => ?_, h.lock, fun task htask hr => ?_,
    fun i task hi => ?_, h.absent⟩
  · have hut : u = t := by
      rcases List.mem_append.mp hu with hu | hu
      · exact (List.mem_append.mp hu).elim
          (fun hu => absurd (List.mem_append_left _ hu) hold) List.mem_singleton.mp
      · exact absurd (List.mem_append_right _ hu) hold
    have hgiven : w.issued[t] ∈ w.issued[t]? := List.getElem?_eq_getElem ht
    rw [hut]
    exact ⟨w.issued[t], hgiven, hage _ hgiven⟩
  · exact absurd hr (by simp [hquiet task htask])
  · obtain ⟨use, phase⟩ := task
    have hfits := h.tasks i _ hi
    cases phase with
    | ready | waiting | loggingIn | done => exact hfits
    | sending a =>
      obtain ⟨hrejected, -, hcount⟩ := hfits
      refine ⟨fun r hr hauth => List.mem_append_left _ (hrejected r hr hauth), fun htries => ?_,
        hcount⟩
      have hr := retrying_iff.mpr ⟨htries, fun r => (by simp : Phase.sending a ≠ .done r)⟩
      exact absurd hr (by simp [hquiet _ (List.mem_of_getElem? hi)])

theorem Calm.sending (h : Calm w) (hanswer : w.answer i = some r) :
    ∃ use t, w.sys.tasks[i]? = some ⟨use, .sending t⟩ := by
  cases hi : w.sys.tasks[i]? with
  | none => exact absurd (h.absent i hi).1 (by simp [hanswer])
  | some task =>
    obtain ⟨use, phase⟩ := task
    have hfits := h.tasks i _ hi
    cases phase with
    | ready | waiting | loggingIn | done => exact absurd hfits.1 (by simp [hanswer])
    | sending t => exact ⟨use, t, rfl⟩

theorem receiveLogin_accepted {status : Nat} {expiry : ExpiryFields} (hstatus : status < 400)
    (hexpiry : expiry.readable = true) (c : Client) (now : ℚ) (t : Token) :
    ∃ e, now + 60 ≤ e ∧ c.receiveLogin now (.response status (.object true (some t) expiry)) =
      ({ c with token := some t, tokenExpiry := e }, .ok t) := by
  have hsome := (parseTokenExpiry_isSome expiry now).trans hexpiry
  obtain ⟨e, he⟩ := Option.isSome_iff_exists.mp hsome
  refine ⟨e, parseTokenExpiry_ge he, ?_⟩
  dsimp only [Client.receiveLogin]
  rw [if_neg (Nat.not_le.mpr hstatus), he]

/-- **Every deed keeps the calm.** -/
theorem Calm.act (h : Calm w) (hlapsed : w.Lapsed) (d : Deed)
    (haccepting : Accepting w (w.sys.clock, d)) (htimely : Timely w (w.sys.clock, d)) :
    Calm (w.act w.sys.clock d) := by
  cases d with
  | call use =>
    cases use with
    | retry t => exact h
    | tokenOnly | request => exact h.call (by simp)
  | run i =>
    have hopen : Open w.sys := h.accounts.open hlapsed
    have hdone := w.sys.handled w.sys.clock (.run i)
    dsimp only [Exchange.act]
    generalize w.sys.handle w.sys.clock (.run i) = s' at hdone ⊢
    cases hdone with
    | nothing => exact h
    | starts hi => exact h.gets_run hlapsed hi (.inl rfl) hopen.getToken
    | acquires hi hlock => exact h.gets_run hlapsed hi (.inr rfl) (hopen.locked hlock)
  | login i status expiry =>
    cases hi : w.sys.tasks[i]? with
    | none => simpa only [Exchange.act, hi] using h
    | some task =>
      obtain ⟨use, phase⟩ := task
      cases phase with
      | ready | waiting | sending | done => simpa only [Exchange.act, hi] using h
      | loggingIn =>
        obtain ⟨e, he, hgot⟩ := receiveLogin_accepted haccepting.1 haccepting.2 w.sys.client
          w.sys.clock w.issued.length
        simp only [Exchange.act, hi, System.handle, System.loginReply, hgot]
        exact h.login hi he
  | serve i r =>
    cases hi : w.sys.tasks[i]? with
    | none => simpa only [Exchange.act, hi] using h
    | some task =>
      obtain ⟨use, phase⟩ := task
      cases phase with
      | ready | waiting | loggingIn | done => simpa only [Exchange.act, hi] using h
      | sending t =>
        simp only [Exchange.act, hi]
        cases hanswer : w.answer i with
        | some r' => exact h
        | none => exact h.serve hi hanswer (haccepting t (by simp [Exchange.sentWith, hi])).mp
  | deliver i =>
    cases hanswer : w.answer i with
    | none => simpa only [Exchange.act, hanswer] using h
    | some r =>
      obtain ⟨use, t, hi⟩ := h.sending hanswer
      simp only [Exchange.act, hanswer, System.handle, hi]
      refine h.deliver hlapsed hi hanswer fun hauth t ht => htimely r hanswer hauth t ?_
      rwa [max_self]
  | invalidate t =>
    dsimp only [Exchange.act]
    by_cases ht : t < w.issued.length ∧ t ∉ w.invalidated
    · rw [if_pos ht]
      obtain ⟨hage, hquiet⟩ := haccepting
      rw [max_self] at hage
      exact h.invalidate ht.1 hage hquiet
    · rw [if_neg ht]
      exact h

theorem calm_step (w : Exchange) (e : ℚ × Deed) (h : Calm w) (he : Accepting w e ∧ Timely w e) :
    Calm (w.step e) := by
  obtain ⟨now, d⟩ := e
  obtain ⟨hcalm, hlapsed⟩ := h.tick (le_max_left w.sys.clock now)
  refine hcalm.act hlapsed d ?_ ?_
  · cases d with
    | call | run | login | serve | deliver => exact he.1
    | invalidate t =>
      refine ⟨fun given hgiven => ?_, he.1.2⟩
      exact (he.1.1 given hgiven).trans (le_max_left _ _)
  · cases d with
    | call | run | login | serve | invalidate => trivial
    | deliver i =>
      intro r hr hauth t ht
      refine he.2 r hr hauth t ?_
      rwa [max_eq_left (le_refl _)] at ht

theorem calm_initial : Calm .initial := by
  refine ⟨?_, fun i => ?_, fun task htask => ?_, fun i task hi => ?_, fun i _ => ⟨rfl, rfl⟩⟩
  · exact {
      started := le_refl _
      closed := rfl
      logins := rfl
      replaced := fun t ht => absurd ht (by simp [Exchange.initial])
      current := fun t ht => absurd ht (by simp [Exchange.initial, System.initial, Client.initial])
      aged := fun t ht => absurd ht (by simp [Exchange.initial, Exchange.spent])
      spaced := List.IsChain.nil
      past := fun x hx => absurd hx List.not_mem_nil
      answered := fun _ x hx => absurd hx List.not_mem_nil }
  · simp [Exchange.initial, System.initial]
  · cases htask
  · simp [Exchange.initial, System.initial] at hi

theorem Calm.outcome (h : Calm w) : w.Served where
  logins := by
    have hbound := h.accounts.bounded
    rwa [Exchange.spent, List.length_append] at hbound
  succeeded i use r hi := (h.tasks i _ hi).2
  ended hdue i use phase hi := by
    cases phase with
    | done r => exact ⟨r, rfl⟩
    | ready | loggingIn | sending => exact absurd ⟨i, use, _, hi, trivial⟩ hdue
    | waiting =>
      cases hlock : w.sys.lock with
      | none => exact absurd ⟨i, use, _, hi, hlock⟩ hdue
      | some j =>
        obtain ⟨u, hj⟩ := (h.lock j).mp hlock
        exact absurd ⟨j, u, _, hj, trivial⟩ hdue
  untripped := h.accounts.closed

/-- **One login for each invalidated token**, when no authentication error finds a token in the
cache that is still accepted. -/
theorem one_login_per_invalidation (events : List (ℚ × Deed))
    (h : Meets Exchange.step (fun w e => Accepting w e ∧ Timely w e) .initial events) :
    (exec Exchange.step .initial events).Served :=
  (exec_inv calm_step calm_initial h).outcome

/-- A request whose token is invalidated before it is handled. -/
theorem one_login_per_invalidation_retry :
    (exec Exchange.step .initial
      [(0, .call .request), (0, .run 0), (1, .login 0 200 ⟨fun _ => .absent, fun _ => .absent⟩),
        (10, .invalidate 0), (10, .serve 0 ⟨401, none⟩), (11, .deliver 0),
        (12, .login 0 200 ⟨fun _ => .absent, fun _ => .absent⟩), (13, .serve 0 ⟨200, none⟩),
        (13, .deliver 0)]).Served :=
  one_login_per_invalidation _ (by decide +kernel)

/-- Two requests are sent with the first token, which is then invalidated. The second rejection
arrives after the first request has got through with a new token, and costs a third login. -/
theorem late_error_costs_login :
    ¬ ∀ events, Meets Exchange.step Accepting .initial events →
      (exec Exchange.step .initial events).Served := by
  intro h
  have hserved := h
    [(0, .call .request), (0, .call .request), (0, .run 0),
      (1, .login 0 200 ⟨fun _ => .absent, fun _ => .absent⟩), (1, .run 1), (10, .invalidate 0),
      (10, .serve 0 ⟨401, none⟩), (10, .serve 1 ⟨401, none⟩), (11, .deliver 0),
      (12, .login 0 200 ⟨fun _ => .absent, fun _ => .absent⟩), (13, .serve 0 ⟨200, none⟩),
      (13, .deliver 0), (14, .deliver 1)] (by decide +kernel)
  exact absurd hserved.logins (by decide +kernel)

end Deltapreneur.Registrar
