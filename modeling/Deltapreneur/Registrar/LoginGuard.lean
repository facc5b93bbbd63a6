import Deltapreneur.Lib.Run
import Deltapreneur.Registrar.Client

/-!
# The registrar is not flooded with logins

Three bounds on the logins of one process, for any interleaving of its coroutines and whatever the
registrar answers:

* no half-open window of `LOGIN_RATE_WINDOW_SECONDS` sees more than `LOGIN_RATE_LIMIT` of them, and
  at most one is in flight: in every run (`logins_limited`);
* none is sent within `AUTH_COOLDOWN_SECONDS` of a login that failed or of a request that failed
  authentication twice: in the runs in which every reply to a login is one the code looks for
  (`logins_guarded`).

The exceptions the code does not look for leave `_get_token` without tripping the circuit breaker,
so the next call logs in at once (`unexpected_body_no_cooldown`): a body that is JSON but no
object, one whose bytes cannot be decoded, a lifetime too large for `float`.
-/

namespace Deltapreneur.Registrar

open RateLimit Run

/-! ## The bounds -/

/-- At most the limit in every half-open window. -/
def System.RateKept (s : System) : Prop :=
  ∀ t, (inWindow LOGIN_RATE_WINDOW_SECONDS t s.logins).length ≤ LOGIN_RATE_LIMIT

/-- At most one login is in flight. -/
def System.OneInFlight (s : System) : Prop :=
  ∀ (i j : Nat) (u v : Use), s.tasks[i]? = some ⟨u, .loggingIn⟩ →
    s.tasks[j]? = some ⟨v, .loggingIn⟩ → i = j

/-- A login that is sent comes after the cooldown of every failure so far. -/
def CooldownKept (s : System) (_ : ℚ × Event) (s' : System) : Prop :=
  ∀ t, s'.logins = s.logins ++ [t] → ∀ f ∈ s.failures, f + AUTH_COOLDOWN_SECONDS ≤ t

/-! ## The condition -/

/-- The field decides the lifetime: `float` reads it or overflows. -/
def Field.decides : Field → Bool
  | .number _ | .tooLarge => true
  | .absent | .unreadable => false

/-- The first field that decides is not too large for `float`. -/
def ExpiryFields.readable (e : ExpiryFields) : Bool :=
  ((.expiresIn :: absoluteKeys).map e.get).find? Field.decides ≠ some .tooLarge

/-- A reply to a login that the code looks for. -/
def LoginReply.expected : LoginReply → Bool
  | .transportError => true
  | .response status body =>
    status ≥ 400 || match body with
      | .undecodable | .notObject => false
      | .object true (some _) expiry => expiry.readable
      | _ => true

/-- A login is answered as expected. -/
def Expected (s : System) : ℚ × Event → Prop
  | (_, .loginReply i reply) => ∀ use, s.tasks[i]? = some ⟨use, .loggingIn⟩ → reply.expected = true
  | _ => True

/-! ## The lifetime -/

variable {now : ℚ} {e : ExpiryFields}

theorem scanExpiry_raised (fs : List Field) :
    scanExpiry now fs = .raised ↔ fs.find? Field.decides = some .tooLarge := by
  induction fs with
  | nil => simp [scanExpiry]
  | cons f fs ih =>
    cases f with
    | absent | unreadable => simpa [scanExpiry, Field.decides] using ih
    | tooLarge => simp [scanExpiry, Field.decides]
    | number x =>
      rw [List.find?_cons_of_pos (by rfl), scanExpiry]
      split_ifs <;> simp

theorem parseTokenExpiry_isSome (e : ExpiryFields) (now : ℚ) :
    (parseTokenExpiry e now).isSome = e.readable := by
  have hscan : scanExpiry now (absoluteKeys.map e.get) = .raised ↔ _ :=
    scanExpiry_raised (absoluteKeys.map e.get)
  unfold parseTokenExpiry ExpiryFields.readable
  cases hin : e.get .expiresIn with
  | tooLarge => simp [hin, Field.decides]
  | number x => simp [hin, Field.decides]
  | absent | unreadable =>
    simp only [List.map_cons, hin, Field.decides, Bool.false_eq_true, not_false_eq_true,
      List.find?_cons_of_neg]
    cases hs : scanExpiry now (absoluteKeys.map e.get) with
    | raised => simp [hscan.mp hs]
    | absolute | ttl =>
      have hne : (absoluteKeys.map e.get).find? Field.decides ≠ some .tooLarge := fun h =>
        absurd (hscan.mpr h) (by simp [hs])
      exact (decide_eq_true hne).symm

/-! ## The client's part -/

variable {s s' : System} {i : Nat} {use : Use} {phase : Phase} {c c' : Client}

/-- The circuit breaker reaches no further than a cooldown ahead, and covers every failure. -/
structure Cooled (clock : ℚ) (failures : List ℚ) (c : Client) : Prop where
  cooldown : c.authCooldownUntil ≤ clock + AUTH_COOLDOWN_SECONDS
  failed : ∀ f ∈ failures, f + AUTH_COOLDOWN_SECONDS ≤ c.authCooldownUntil

variable {clock : ℚ} {logins failures : List ℚ}

theorem Cooled.congr (h : Cooled clock failures c)
    (huntil : c'.authCooldownUntil = c.authCooldownUntil) : Cooled clock failures c' := by
  refine ⟨huntil ▸ h.cooldown, fun f hf => ?_⟩
  rw [huntil]
  exact h.failed f hf

theorem Cooled.trip (h : Cooled clock failures c) :
    Cooled clock (failures ++ [clock]) (c.tripAuthCircuit clock) := by
  refine ⟨le_refl _, fun f hf => ?_⟩
  rcases List.mem_append.mp hf with hf | hf
  · exact (h.failed f hf).trans h.cooldown
  · rw [List.mem_singleton.mp hf]
    exact le_refl _

/-- What `_get_token` does with the lock: a login is within the limit, and after the cooldown. -/
theorem getTokenLocked_limited (h : Limited LOGIN_RATE_WINDOW_SECONDS LOGIN_RATE_LIMIT clock logins
    c.loginAttemptTimes) :
    match c.getTokenLocked clock with
    | (c', .login) => Limited LOGIN_RATE_WINDOW_SECONDS LOGIN_RATE_LIMIT clock (logins ++ [clock])
        c'.loginAttemptTimes ∧ c.authCooldownUntil ≤ clock
    | (c', _) => Limited LOGIN_RATE_WINDOW_SECONDS LOGIN_RATE_LIMIT clock logins
        c'.loginAttemptTimes := by
  unfold Client.getTokenLocked
  by_cases hcool : c.authInCooldown clock = true
  · rw [if_pos hcool]
    exact h
  rw [if_neg hcool]
  cases c.cached clock with
  | some t => exact h
  | none =>
    have hdrop : Limited LOGIN_RATE_WINDOW_SECONDS LOGIN_RATE_LIMIT clock logins
        (c.dropOldAttempts clock).loginAttemptTimes := h.trim
    simp only [Client.enforceLoginRateLimit]
    by_cases hfull : (c.dropOldAttempts clock).loginAttemptTimes.length ≥ LOGIN_RATE_LIMIT
    · rw [if_pos hfull]
      exact hdrop
    · rw [if_neg hfull]
      exact ⟨hdrop.extend (Nat.not_le.mp hfull), by simpa [Client.authInCooldown] using hcool⟩

theorem Cooled.getTokenLocked (h : Cooled clock failures c) :
    Cooled clock failures (c.getTokenLocked clock).1 := by
  unfold Client.getTokenLocked
  by_cases hcool : c.authInCooldown clock = true
  · rw [if_pos hcool]
    exact h
  rw [if_neg hcool]
  cases c.cached clock with
  | some t => exact h
  | none =>
    have hdrop : Cooled clock failures (c.dropOldAttempts clock) := h.congr rfl
    simp only [Client.enforceLoginRateLimit]
    by_cases hfull : (c.dropOldAttempts clock).loginAttemptTimes.length ≥ LOGIN_RATE_LIMIT
    · rw [if_pos hfull]
      exact ⟨hdrop.trip.cooldown, fun f hf => hdrop.trip.failed f (List.mem_append_left _ hf)⟩
    · rw [if_neg hfull]
      exact h.congr rfl

theorem receiveLogin_attempts (c : Client) (now : ℚ) (reply : LoginReply) :
    (c.receiveLogin now reply).1.loginAttemptTimes = c.loginAttemptTimes := by
  cases reply with
  | transportError => rfl
  | response status body =>
    dsimp only [Client.receiveLogin]
    by_cases hstatus : status ≥ 400
    · rw [if_pos hstatus]
      rfl
    rw [if_neg hstatus]
    cases body with
    | notJson | undecodable | notObject => rfl
    | object codeIsZero token expiry =>
      cases codeIsZero with
      | false => rfl
      | true =>
        cases token with
        | none => rfl
        | some t =>
          dsimp only
          cases parseTokenExpiry expiry now <;> rfl

/-- A login that fails as expected trips the circuit breaker. -/
theorem Cooled.receiveLogin (h : Cooled clock failures c) {reply : LoginReply}
    (hreply : reply.expected = true) :
    match c.receiveLogin clock reply with
    | (c', .ok _) => Cooled clock failures c'
    | (c', .error _) => Cooled clock (failures ++ [clock]) c' := by
  have hcleared : Cooled clock failures c.clearCachedToken := h.congr rfl
  have hfailed : Cooled clock (failures ++ [clock]) (c.clearCachedToken.tripAuthCircuit clock) :=
    hcleared.trip
  cases reply with
  | transportError => exact hfailed
  | response status body =>
    dsimp only [Client.receiveLogin]
    by_cases hstatus : status ≥ 400
    · rw [if_pos hstatus]
      exact hfailed
    rw [if_neg hstatus]
    simp only [LoginReply.expected, hstatus, decide_false, Bool.false_or] at hreply
    cases body with
    | notJson => exact hfailed
    | undecodable | notObject => cases hreply
    | object codeIsZero token expiry =>
      cases codeIsZero with
      | false => exact hfailed
      | true =>
        cases token with
        | none => exact hfailed
        | some t =>
          have hsome := (parseTokenExpiry_isSome expiry clock).trans hreply
          obtain ⟨until', huntil⟩ := Option.isSome_iff_exists.mp hsome
          simp only [huntil]
          exact h.congr rfl

/-! ## One step of the system -/

/-- What every event keeps: a coroutine that logs in holds the lock, and the queue of the attempts
is what the limit needs to know. -/
structure Guarded (s : System) : Prop where
  holder : ∀ (i : Nat) (use : Use), s.tasks[i]? = some ⟨use, .loggingIn⟩ → s.lock = some i
  limited : Limited LOGIN_RATE_WINDOW_SECONDS LOGIN_RATE_LIMIT s.clock s.logins
    s.client.loginAttemptTimes

/-- A move that keeps this, and sends a login only when the circuit is closed. -/
structure Guards (s s' : System) : Prop where
  kept : Guarded s'
  sent : s'.logins = s.logins ∨
    s'.logins = s.logins ++ [s.clock] ∧ s.client.authCooldownUntil ≤ s.clock

/-- The circuit breaker covers all failures of the system. -/
abbrev System.Cooled (s : System) : Prop := Registrar.Cooled s.clock s.failures s.client

theorem holder_setTask (h : ∀ (j : Nat) (u : Use), j ≠ i → s.tasks[j]? = some ⟨u, .loggingIn⟩ →
    s.lock = some j) (hphase : phase ≠ .loggingIn) (j : Nat) (u : Use)
    (hj : (s.setTask i use phase).tasks[j]? = some ⟨u, .loggingIn⟩) :
    (s.setTask i use phase).lock = some j := by
  simp only [System.setTask] at hj ⊢
  by_cases hij : i = j
  · subst hij
    rw [List.getElem?_set_self'] at hj
    obtain ⟨_, -, hset⟩ := Option.map_eq_some_iff.mp hj
    exact absurd (congrArg Task.phase hset) hphase
  · rw [List.getElem?_set_ne hij] at hj
    exact h j u (fun h => hij h.symm) hj

theorem Guarded.setTask (h : Guarded s) (hphase : phase ≠ .loggingIn) :
    Guards s (s.setTask i use phase) :=
  ⟨⟨holder_setTask (fun j u _ => h.holder j u) hphase, h.limited⟩, .inl rfl⟩

theorem Guarded.gotToken (h : Guarded s) (t : Token) : Guards s (s.gotToken i use t) := by
  cases use <;> exact h.setTask (by simp)

theorem System.Cooled.gotToken (h : s.Cooled) (t : Token) : (s.gotToken i use t).Cooled := by
  cases use <;> exact h

/-- A coroutine with the lock free: it logs in within the limit, or comes to rest. -/
theorem Guarded.locked (h : Guarded s) (hlock : s.lock = none) :
    Guards s (s.locked i use s.clock) := by
  have hclient := getTokenLocked_limited h.limited
  have hnone : ∀ (j : Nat) (u : Use), s.tasks[j]? ≠ some ⟨u, .loggingIn⟩ := fun j u hj =>
    absurd (h.holder j u hj) (by simp [hlock])
  unfold System.locked
  cases hgot : s.client.getTokenLocked s.clock with
  | mk c got =>
    rw [hgot] at hclient
    cases got with
    | token t =>
      have hs : Guarded { s with client := c } := ⟨h.holder, hclient⟩
      cases use <;> exact ⟨(hs.gotToken t).kept, .inl rfl⟩
    | failed f =>
      have hs : Guarded { s with client := c } := ⟨h.holder, hclient⟩
      exact ⟨(hs.setTask (by simp)).kept, .inl rfl⟩
    | login =>
      refine ⟨⟨fun j u hj => ?_, hclient.1⟩, .inr ⟨rfl, hclient.2⟩⟩
      simp only [System.setTask] at hj ⊢
      by_cases hij : i = j
      · rw [hij]
      · rw [List.getElem?_set_ne hij] at hj
        exact absurd hj (hnone j u)

theorem System.Cooled.locked (h : s.Cooled) : (s.locked i use s.clock).Cooled := by
  have hclient := Registrar.Cooled.getTokenLocked h
  unfold System.locked
  cases hgot : s.client.getTokenLocked s.clock with
  | mk c got =>
    rw [hgot] at hclient
    cases got with
    | token t =>
      have hs : System.Cooled { s with client := c } := hclient
      exact hs.gotToken t
    | failed f | login => exact hclient

theorem Guarded.getToken (h : Guarded s) : Guards s (s.getToken i use s.clock) := by
  unfold System.getToken
  by_cases hcool : s.client.authInCooldown s.clock = true
  · rw [if_pos hcool]
    exact h.setTask (by simp)
  rw [if_neg hcool]
  cases s.client.cached s.clock with
  | some t => exact h.gotToken t
  | none =>
    cases hlock : s.lock with
    | some j => exact h.setTask (by simp)
    | none => exact h.locked hlock

theorem System.Cooled.getToken (h : s.Cooled) : (s.getToken i use s.clock).Cooled := by
  unfold System.getToken
  by_cases hcool : s.client.authInCooldown s.clock = true
  · rw [if_pos hcool]
    exact h
  rw [if_neg hcool]
  cases s.client.cached s.clock with
  | some t => exact h.gotToken t
  | none =>
    cases hlock : s.lock with
    | some j => exact h
    | none => exact h.locked

theorem Guarded.loginReply (h : Guarded s) (hi : s.tasks[i]? = some ⟨use, .loggingIn⟩)
    (reply : LoginReply) : Guards s (s.loginReply i use s.clock reply) := by
  have hattempts := receiveLogin_attempts s.client s.clock reply
  have hother : ∀ (j : Nat) (u : Use), j ≠ i → s.tasks[j]? = some ⟨u, .loggingIn⟩ →
      (none : Option Nat) = some j := fun j u hne hj =>
    absurd (Option.some.inj ((h.holder j u hj).symm.trans (h.holder i use hi))) hne
  unfold System.loginReply
  cases hgot : s.client.receiveLogin s.clock reply with
  | mk c got =>
    rw [hgot] at hattempts
    have hlimited : Limited LOGIN_RATE_WINDOW_SECONDS LOGIN_RATE_LIMIT s.clock s.logins
        c.loginAttemptTimes := hattempts ▸ h.limited
    cases got with
    | ok t => cases use <;> exact ⟨⟨holder_setTask hother (by simp), hlimited⟩, .inl rfl⟩
    | error f => exact ⟨⟨holder_setTask hother (by simp), hlimited⟩, .inl rfl⟩

theorem System.Cooled.loginReply (h : s.Cooled) {reply : LoginReply}
    (hreply : reply.expected = true) : (s.loginReply i use s.clock reply).Cooled := by
  have hclient := Registrar.Cooled.receiveLogin h hreply
  unfold System.loginReply
  cases hgot : s.client.receiveLogin s.clock reply with
  | mk c got =>
    rw [hgot] at hclient
    cases got with
    | ok t => cases use <;> exact hclient
    | error f => exact hclient

theorem Guarded.apiReply (h : Guarded s) (t : Token) (reply : ApiReply) :
    Guards s (s.apiReply i use t s.clock reply) := by
  cases reply with
  | transportError => exact h.setTask (by simp)
  | response r =>
    have hclear : Guarded { s with client := s.client.clearCachedToken } := ⟨h.holder, h.limited⟩
    simp only [System.apiReply]
    by_cases hauth : responseIsAuthError r = true
    · rw [if_neg (not_not.mpr hauth)]
      cases use with
      | tokenOnly | request =>
        exact ⟨hclear.getToken.kept, hclear.getToken.sent⟩
      | retry rejected =>
        exact ⟨⟨holder_setTask (fun j u _ => h.holder j u) (by simp), h.limited⟩, .inl rfl⟩
    · rw [if_pos hauth]
      exact h.setTask (by simp)

theorem System.Cooled.apiReply (h : s.Cooled) (t : Token) (reply : ApiReply) :
    (s.apiReply i use t s.clock reply).Cooled := by
  cases reply with
  | transportError => exact h
  | response r =>
    have hclear : System.Cooled { s with client := s.client.clearCachedToken } :=
      Registrar.Cooled.congr h rfl
    simp only [System.apiReply]
    by_cases hauth : responseIsAuthError r = true
    · rw [if_neg (not_not.mpr hauth)]
      cases use with
      | tokenOnly | request => exact hclear.getToken
      | retry rejected => exact Registrar.Cooled.trip hclear
    · rw [if_pos hauth]
      exact h

/-- **Every event keeps the bounds.** -/
theorem Guarded.handle (h : Guarded s) (e : Event) : Guards s (s.handle s.clock e) := by
  have hdone := s.handled s.clock e
  generalize s.handle s.clock e = s' at hdone ⊢
  cases hdone with
  | nothing => exact ⟨h, .inl rfl⟩
  | created use hnew =>
    refine ⟨⟨fun j u hj => ?_, h.limited⟩, .inl rfl⟩
    by_cases hlt : j < s.tasks.length
    · rw [List.getElem?_append_left hlt] at hj
      exact h.holder j u hj
    · rw [List.getElem?_append_right (Nat.not_lt.mp hlt)] at hj
      exact absurd (List.mem_of_getElem? hj) (by simp)
  | starts hi => exact h.getToken
  | acquires hi hlock => exact h.locked hlock
  | loggedIn reply hi => exact h.loginReply hi reply
  | answered reply hi => exact h.apiReply _ reply

theorem System.Cooled.handle (h : s.Cooled) (e : Event) (he : Expected s (s.clock, e)) :
    (s.handle s.clock e).Cooled := by
  have hdone := s.handled s.clock e
  generalize s.handle s.clock e = s' at hdone ⊢
  cases hdone with
  | nothing | created => exact h
  | starts hi => exact h.getToken
  | acquires hi hlock => exact h.locked
  | loggedIn reply hi => exact h.loginReply (he _ hi)
  | answered reply hi => exact h.apiReply _ reply

/-! ## Runs -/

theorem guarded_initial : Guarded .initial :=
  ⟨fun j u hj => absurd hj (by simp [System.initial]), limited_nil⟩

theorem cooled_initial : System.initial.Cooled :=
  ⟨by simp [System.initial, Client.initial, AUTH_COOLDOWN_SECONDS],
    fun f hf => absurd hf List.not_mem_nil⟩

theorem Guarded.ticked (h : Guarded s) (now : ℚ) : Guarded { s with clock := max s.clock now } :=
  ⟨h.holder, h.limited.later (le_max_left _ _)⟩

theorem System.Cooled.ticked (h : s.Cooled) (now : ℚ) :
    System.Cooled { s with clock := max s.clock now } :=
  ⟨h.cooldown.trans (by simp), h.failed⟩

theorem guarded_step (s : System) (e : ℚ × Event) (h : Guarded s) : Guarded (s.step e) :=
  ((h.ticked e.1).handle e.2).kept

theorem cooled_step (s : System) (e : ℚ × Event) (h : s.Cooled) (he : Expected s e) :
    (s.step e).Cooled := by
  refine (h.ticked e.1).handle e.2 ?_
  obtain ⟨now, ev⟩ := e
  cases ev <;> exact he

theorem cooldownKept_step (s : System) (e : ℚ × Event) (h : Guarded s) (hc : s.Cooled) :
    CooldownKept s e (s.step e) := by
  intro t ht f hf
  rcases ((h.ticked e.1).handle e.2).sent with hsame | ⟨hlogin, hopen⟩
  · have hlen := congrArg List.length (ht.symm.trans hsame)
    simp at hlen
  · have hlast := List.append_cancel_left (ht.symm.trans hlogin)
    rw [(List.cons.inj hlast).1]
    exact (hc.failed f hf).trans hopen

/-- **Rate and single flight**, whatever the registrar answers. -/
theorem logins_limited (events : List (ℚ × Event)) :
    (exec System.step .initial events).RateKept ∧
      (exec System.step .initial events).OneInFlight := by
  have hend := exec_preserves guarded_step events guarded_initial
  refine ⟨hend.limited.count, fun i j u v hi hj => ?_⟩
  exact Option.some.inj ((hend.holder i u hi).symm.trans (hend.holder j v hj))

/-- **The registrar is not flooded.** When every login is answered as expected, no window sees more
logins than the limit, at most one is in flight, and none is sent in a cooldown. -/
theorem logins_guarded (events : List (ℚ × Event))
    (h : Meets System.step Expected .initial events) :
    (exec System.step .initial events).RateKept ∧
      (exec System.step .initial events).OneInFlight ∧
      AllSteps System.step CooldownKept .initial events := by
  obtain ⟨hrate, hflight⟩ := logins_limited events
  have hkeep : ∀ s e, Guarded s ∧ s.Cooled → Expected s e →
      Guarded (s.step e) ∧ (s.step e).Cooled := fun s e hs he =>
    ⟨guarded_step s e hs.1, cooled_step s e hs.2 he⟩
  refine ⟨hrate, hflight, ?_⟩
  exact allSteps_of_inv hkeep (fun s e hs _ => cooldownKept_step s e hs.1 hs.2)
    ⟨guarded_initial, cooled_initial⟩ h

/-- A login is answered by a server error, and calls follow within the cooldown and after it. -/
def callsAfterFailure : List (ℚ × Event) :=
  [(0, .call .tokenOnly), (0, .run 0), (1, .loginReply 0 (.response 500 .notJson)),
    (2, .call .tokenOnly), (2, .run 1), (601, .call .tokenOnly), (601, .run 2)]

/-- The call within the cooldown sends nothing. -/
theorem logins_guarded_once :
    (exec System.step .initial callsAfterFailure).logins = [0, 601] ∧
    (exec System.step .initial callsAfterFailure).RateKept ∧
    (exec System.step .initial callsAfterFailure).OneInFlight ∧
    AllSteps System.step CooldownKept .initial callsAfterFailure :=
  ⟨by decide +kernel, logins_guarded _
    ⟨trivial, trivial, fun _ _ => rfl, trivial, trivial, trivial, trivial, trivial⟩⟩

/-- A login is answered by a JSON list; a second call one second later logs in again. -/
theorem unexpected_body_no_cooldown :
    ¬ ∀ events, AllSteps System.step CooldownKept .initial events := by
  intro h
  have hall := (allSteps_iff _ _).mp (h
    [(0, .call .tokenOnly), (0, .run 0), (0, .loginReply 0 (.response 200 .notObject)),
      (1, .call .tokenOnly), (1, .run 1)])
    [(0, .call .tokenOnly), (0, .run 0), (0, .loginReply 0 (.response 200 .notObject)),
      (1, .call .tokenOnly)] (1, .run 1) [] rfl
  have hcool := hall 1 (by decide +kernel) 0 (by decide +kernel)
  exact absurd hcool (by norm_num [AUTH_COOLDOWN_SECONDS])

end Deltapreneur.Registrar
