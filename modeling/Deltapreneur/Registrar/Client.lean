import Deltapreneur.Lib.RateLimit

/-!
# Authentication of the registrar client

Model of the token cache, the login and the authenticated requests of
`app/integrations/openprovider/client.py:271-521, 591-625`, for any number of coroutines.

* A coroutine runs from one `await` to the next without interruption, and the clock stands still
  meanwhile. It awaits the lock, the reply to a login and the reply to a request; each of these
  awaits ends by an event.
* Times are rational numbers of seconds; `float` arithmetic on them is taken as exact, and a
  lifetime that is not a number or infinite is left out. An integer too large for a `float` is not:
  `float` raises `OverflowError` on it.
* Who gets the lock next is left open: any coroutine that waits, and any that comes by.
* Access tokens are named by numbers, so none is empty. Log lines and the texts of exceptions are
  left out, and so is `_auth_cooldown_logged_open`, which only decides about a log line.
* Coroutines are not cancelled.
-/

namespace Deltapreneur.Registrar

open RateLimit (trim)

def AUTH_COOLDOWN_SECONDS : ℚ := 600
def LOGIN_RATE_LIMIT : Nat := 10
def LOGIN_RATE_WINDOW_SECONDS : ℚ := 60
def TOKEN_REFRESH_MARGIN_SECONDS : ℚ := 60
def TOKEN_FALLBACK_TTL_SECONDS : ℚ := 19 * 60
/-- `_AUTH_FAILURE_CODES`. -/
def AUTH_FAILURE_CODES : List Int := [196]

/-- `_AUTH_DESC_MARKERS`. -/
def AUTH_DESC_MARKERS : List String :=
  ["invalid token", "authentication failed", "authorization failed",
    "authentication/authorization failed", "unauthorized", "token expired"]

/-- An access token of the registrar. -/
abbrev Token := Nat

/-! ## Replies -/

/-- A JSON object as the response of a request carries it. -/
structure ResponseBody where
  /-- `int(body["code"])`, where that is an integer. -/
  code : Option Int
  /-- The first of `desc`, `message`, `error`, stripped and in lower case. -/
  desc : String
  deriving Repr, DecidableEq

structure Response where
  status : Nat
  /-- `_parse_response_json`. -/
  body : Option ResponseBody
  deriving Repr, DecidableEq

/-- `_response_is_auth_error`. -/
def responseIsAuthError (r : Response) : Bool :=
  if r.status = 401 then true
  else if r.status < 400 then false
  else match r.body with
    | none => false
    | some ⟨none, _⟩ => false
    | some ⟨some code, desc⟩ =>
      if code = 10005 then false
      else if code ∈ AUTH_FAILURE_CODES then true
      else
        [400, 401, 403, 500].contains r.status && (AUTH_DESC_MARKERS.contains desc ||
          AUTH_DESC_MARKERS.any fun marker =>
            desc = marker || (marker ++ ".").isPrefixOf desc || (marker ++ " ").isPrefixOf desc)

inductive ApiReply
  | transportError
  | response (r : Response)
  deriving Repr, DecidableEq

/-- A field of the login's body as `float` reads it. -/
inductive Field
  | absent
  /-- `TypeError` or `ValueError`. -/
  | unreadable
  /-- `OverflowError`. -/
  | tooLarge
  | number (x : ℚ)
  deriving Repr, DecidableEq

inductive ExpiryKey
  | expiresIn | expiry | expiresAt | expiration | expire
  deriving Repr, DecidableEq

/-- The fields `_parse_token_expiry` reads, in `data` and in the body itself. -/
structure ExpiryFields where
  data : ExpiryKey → Field
  body : ExpiryKey → Field

inductive LoginBody
  /-- `json.JSONDecodeError`. -/
  | notJson
  /-- Another exception of `resp.json()`, as for bytes that are no text. -/
  | undecodable
  /-- JSON, but a list, a string, a number or `null`. -/
  | notObject
  | object (codeIsZero : Bool) (token : Option Token) (expiry : ExpiryFields)

inductive LoginReply
  | transportError
  | response (status : Nat) (body : LoginBody)

/-! ## The lifetime of a token -/

/-- `data.get(key)`, or else `body.get(key)`. -/
def ExpiryFields.get (e : ExpiryFields) (key : ExpiryKey) : Field :=
  match e.data key with
  | .absent => e.body key
  | f => f

/-- What the loop over the four keys comes to. -/
inductive Scan
  | raised
  | absolute (expiry : ℚ)
  | ttl (ttl : Option ℚ)

def scanExpiry (now : ℚ) : List Field → Scan
  | [] => .ttl none
  | .absent :: fs | .unreadable :: fs => scanExpiry now fs
  | .tooLarge :: _ => .raised
  | .number x :: _ =>
    if x > now then .absolute (max (now + 60) (x - TOKEN_REFRESH_MARGIN_SECONDS)) else .ttl (some x)

/-- The end of `_parse_token_expiry`. -/
def expiryOfTtl (now : ℚ) (ttl : Option ℚ) : ℚ :=
  let ttl := match ttl with
    | none => TOKEN_FALLBACK_TTL_SECONDS
    | some t => if t ≤ 0 then TOKEN_FALLBACK_TTL_SECONDS else t
  now + max 60 (ttl - TOKEN_REFRESH_MARGIN_SECONDS)

/-- The keys the loop tries, in its order. -/
def absoluteKeys : List ExpiryKey := [.expiry, .expiresAt, .expiration, .expire]

/-- `_parse_token_expiry`; `none` when it raises. -/
def parseTokenExpiry (e : ExpiryFields) (now : ℚ) : Option ℚ :=
  match e.get .expiresIn with
  | .tooLarge => none
  | .number ttl => some (expiryOfTtl now (some ttl))
  | .absent | .unreadable =>
    match scanExpiry now (absoluteKeys.map e.get) with
    | .raised => none
    | .absolute expiry => some expiry
    | .ttl ttl => some (expiryOfTtl now ttl)

/-! ## The cache, the circuit breaker and the rate limit -/

/-- The process-local state. -/
structure Client where
  token : Option Token
  tokenExpiry : ℚ
  authCooldownUntil : ℚ
  /-- `_login_attempt_times`, oldest first. -/
  loginAttemptTimes : List ℚ
  deriving Repr, DecidableEq

/-- The state of a process that has just started. -/
def Client.initial : Client := ⟨none, 0, 0, []⟩

/-- `_clear_cached_token`. -/
def Client.clearCachedToken (c : Client) : Client := { c with token := none, tokenExpiry := 0 }

/-- `_auth_in_cooldown`. -/
def Client.authInCooldown (c : Client) (now : ℚ) : Bool := now < c.authCooldownUntil

/-- `_trip_auth_circuit`. -/
def Client.tripAuthCircuit (c : Client) (now : ℚ) : Client :=
  { c with authCooldownUntil := now + AUTH_COOLDOWN_SECONDS }

/-- The `while` loop of `_enforce_login_rate_limit`. -/
def Client.dropOldAttempts (c : Client) (now : ℚ) : Client :=
  { c with loginAttemptTimes := trim LOGIN_RATE_WINDOW_SECONDS now c.loginAttemptTimes }

/-- `_enforce_login_rate_limit`: whether it lets the login through. -/
def Client.enforceLoginRateLimit (c : Client) (now : ℚ) : Client × Bool :=
  let c := c.dropOldAttempts now
  if c.loginAttemptTimes.length ≥ LOGIN_RATE_LIMIT then (c.tripAuthCircuit now, false)
  else ({ c with loginAttemptTimes := c.loginAttemptTimes ++ [now] }, true)

/-- `_token and now < _token_expiry`. -/
def Client.cached (c : Client) (now : ℚ) : Option Token :=
  c.token.filter fun _ => now < c.tokenExpiry

/-- Why a call raises. -/
inductive Failure
  | circuitOpen | rateLimit | loginTransport | loginHttp (status : Nat) | loginNotJson
  | loginRejected | loginNoToken
  /-- An exception the code does not expect. -/
  | unexpected
  | requestTransport
  deriving Repr, DecidableEq

/-- What `_get_token` does once it holds the lock, up to its next `await`. -/
inductive Got
  | token (t : Token)
  | failed (f : Failure)
  /-- A login request is sent. -/
  | login
  deriving Repr, DecidableEq

def Client.getTokenLocked (c : Client) (now : ℚ) : Client × Got :=
  if c.authInCooldown now then (c, .failed .circuitOpen)
  else match c.cached now with
    | some t => (c, .token t)
    | none =>
      match c.enforceLoginRateLimit now with
      | (c, false) => (c, .failed .rateLimit)
      | (c, true) => (c, .login)

/-- A login that has failed in a way the code looks for. -/
def Client.loginFailed (c : Client) (now : ℚ) (f : Failure) : Client × Except Failure Token :=
  (c.clearCachedToken.tripAuthCircuit now, .error f)

/-- What `_get_token` does with the reply to its login. The new token is in the cache before its
lifetime is read. -/
def Client.receiveLogin (c : Client) (now : ℚ) : LoginReply → Client × Except Failure Token
  | .transportError => c.loginFailed now .loginTransport
  | .response status body =>
    if status ≥ 400 then c.loginFailed now (.loginHttp status)
    else match body with
      | .notJson => c.loginFailed now .loginNotJson
      | .undecodable | .notObject => (c, .error .unexpected)
      | .object false _ _ => c.loginFailed now .loginRejected
      | .object true none _ => c.loginFailed now .loginNoToken
      | .object true (some t) expiry =>
        match parseTokenExpiry expiry now with
        | none => ({ c with token := some t }, .error .unexpected)
        | some e => ({ c with token := some t, tokenExpiry := e }, .ok t)

/-! ## Coroutines -/

/-- What a coroutine wants its token for. -/
inductive Use
  /-- A call of `_get_token` alone. -/
  | tokenOnly
  /-- A request. -/
  | request
  /-- The retry of a request whose token, the one here, was rejected. -/
  | retry (rejected : Token)
  deriving Repr, DecidableEq

inductive Result
  | token (t : Token)
  | response (r : Response)
  | raised (f : Failure)
  deriving Repr, DecidableEq

/-- Where a coroutine is. -/
inductive Phase
  /-- Not started yet. -/
  | ready
  /-- It awaits the lock. -/
  | waiting
  /-- It holds the lock and awaits the reply to its login. -/
  | loggingIn
  /-- It awaits the reply to the request it sent with this token. -/
  | sending (t : Token)
  | done (r : Result)
  deriving Repr, DecidableEq

structure Task where
  use : Use
  phase : Phase
  deriving Repr, DecidableEq

structure System where
  client : Client
  lock : Option Nat
  tasks : List Task
  clock : ℚ
  /-- When login requests were sent. -/
  logins : List ℚ
  /-- When a login failed or a request failed authentication twice. -/
  failures : List ℚ

def System.initial : System := ⟨.initial, none, [], 0, [], []⟩

def System.setTask (s : System) (i : Nat) (use : Use) (phase : Phase) : System :=
  { s with tasks := s.tasks.set i ⟨use, phase⟩ }

/-- The coroutine has its token: it returns it, or sends its request with it. -/
def System.gotToken (s : System) (i : Nat) (use : Use) (t : Token) : System :=
  match use with
  | .tokenOnly => s.setTask i use (.done (.token t))
  | .request | .retry _ => s.setTask i use (.sending t)

/-- `_get_token` from the acquisition of the lock on. -/
def System.locked (s : System) (i : Nat) (use : Use) (now : ℚ) : System :=
  match s.client.getTokenLocked now with
  | (c, .token t) => { s with client := c }.gotToken i use t
  | (c, .failed f) => { s with client := c }.setTask i use (.done (.raised f))
  | (c, .login) =>
    { s with client := c, lock := some i, logins := s.logins ++ [now] }.setTask i use .loggingIn

/-- `_get_token` from its first line on. -/
def System.getToken (s : System) (i : Nat) (use : Use) (now : ℚ) : System :=
  if s.client.authInCooldown now then s.setTask i use (.done (.raised .circuitOpen))
  else match s.client.cached now with
    | some t => s.gotToken i use t
    | none => if s.lock.isSome then s.setTask i use .waiting else s.locked i use now

def System.loginReply (s : System) (i : Nat) (use : Use) (now : ℚ) (reply : LoginReply) : System :=
  match s.client.receiveLogin now reply with
  | (c, .ok t) => { s with client := c, lock := none }.gotToken i use t
  | (c, .error f) =>
    { s with client := c, lock := none, failures := s.failures ++ [now] }.setTask i use
      (.done (.raised f))

/-- The reply to a request arrives (`_send_with_auth_retry`). -/
def System.apiReply (s : System) (i : Nat) (use : Use) (t : Token) (now : ℚ) (reply : ApiReply) :
    System :=
  match reply with
  | .transportError => s.setTask i use (.done (.raised .requestTransport))
  | .response r =>
    if ¬ responseIsAuthError r then s.setTask i use (.done (.response r))
    else match use with
      | .retry _ =>
        { s with
          client := s.client.clearCachedToken.tripAuthCircuit now
          failures := s.failures ++ [now] }.setTask i use (.done (.response r))
      | _ => { s with client := s.client.clearCachedToken }.getToken i (.retry t) now

/-- What happens next. -/
inductive Event
  /-- A coroutine is created: `_get_token()`, or a request. -/
  | call (use : Use)
  /-- A coroutine starts, or has been given the lock. -/
  | run (i : Nat)
  | loginReply (i : Nat) (reply : LoginReply)
  | apiReply (i : Nat) (reply : ApiReply)

/-- What happens at time `now`, with the clock there. -/
def System.handle (s : System) (now : ℚ) : Event → System
  | .call (.retry _) => s
  | .call use => { s with tasks := s.tasks ++ [⟨use, .ready⟩] }
  | .run i =>
    match s.tasks[i]? with
    | some ⟨use, .ready⟩ => s.getToken i use now
    | some ⟨use, .waiting⟩ => if s.lock.isSome then s else s.locked i use now
    | _ => s
  | .loginReply i reply =>
    match s.tasks[i]? with
    | some ⟨use, .loggingIn⟩ => s.loginReply i use now reply
    | _ => s
  | .apiReply i reply =>
    match s.tasks[i]? with
    | some ⟨use, .sending t⟩ => s.apiReply i use t now reply
    | _ => s

/-- What an event can do. -/
inductive Handled (s : System) (now : ℚ) : Event → System → Prop
  | nothing (e : Event) : Handled s now e s
  | created (use : Use) (h : ∀ t, use ≠ .retry t) :
      Handled s now (.call use) { s with tasks := s.tasks ++ [⟨use, .ready⟩] }
  | starts {i use} (h : s.tasks[i]? = some ⟨use, .ready⟩) :
      Handled s now (.run i) (s.getToken i use now)
  | acquires {i use} (h : s.tasks[i]? = some ⟨use, .waiting⟩) (hlock : s.lock = none) :
      Handled s now (.run i) (s.locked i use now)
  | loggedIn {i use} (reply : LoginReply) (h : s.tasks[i]? = some ⟨use, .loggingIn⟩) :
      Handled s now (.loginReply i reply) (s.loginReply i use now reply)
  | answered {i use t} (reply : ApiReply) (h : s.tasks[i]? = some ⟨use, .sending t⟩) :
      Handled s now (.apiReply i reply) (s.apiReply i use t now reply)

theorem System.handled (s : System) (now : ℚ) (e : Event) : Handled s now e (s.handle now e) := by
  cases e with
  | call use =>
    cases use with
    | retry t => exact .nothing _
    | tokenOnly | request => exact .created _ (by simp)
  | run i =>
    cases hi : s.tasks[i]? with
    | none => simpa only [System.handle, hi] using .nothing _
    | some task =>
      obtain ⟨use, phase⟩ := task
      cases phase with
      | ready => simpa only [System.handle, hi] using .starts hi
      | waiting =>
        cases hlock : s.lock with
        | some j => simpa only [System.handle, hi, hlock] using .nothing _
        | none => simpa only [System.handle, hi, hlock] using .acquires hi hlock
      | loggingIn | sending | done => simpa only [System.handle, hi] using .nothing _
  | loginReply i reply =>
    cases hi : s.tasks[i]? with
    | none => simpa only [System.handle, hi] using .nothing _
    | some task =>
      obtain ⟨use, phase⟩ := task
      cases phase with
      | loggingIn => simpa only [System.handle, hi] using .loggedIn reply hi
      | ready | waiting | sending | done => simpa only [System.handle, hi] using .nothing _
  | apiReply i reply =>
    cases hi : s.tasks[i]? with
    | none => simpa only [System.handle, hi] using .nothing _
    | some task =>
      obtain ⟨use, phase⟩ := task
      cases phase with
      | sending t => simpa only [System.handle, hi] using .answered reply hi
      | ready | waiting | loggingIn | done => simpa only [System.handle, hi] using .nothing _

/-- An event and its time. A time before the last event's is taken as that one, so the clock never
goes back. -/
def System.step (s : System) (e : ℚ × Event) : System :=
  { s with clock := max s.clock e.1 }.handle (max s.clock e.1) e.2

end Deltapreneur.Registrar
