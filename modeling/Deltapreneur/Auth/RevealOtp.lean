import Deltapreneur.Core
import Deltapreneur.Lib.Expiring
import Deltapreneur.Lib.Run
import Deltapreneur.Lib.Trim

/-!
# The one-time code that reveals an auth code

Model of `app/service/auth/transfer_auth_reveal_otp_service.py:19-59` and of its cache
(`app/service/auth/transfer_auth_reveal_otp_cache.py:15-56`), for any number of transactions and
buyers.

* Redis drops a key when its time to live runs out; the memory of the process drops an entry that
  has run out when it is next read. An entry has no expiry of its own inside.
* A key is the pair that its text `transfer_reveal:{transaction_id}:{buyer_id}` spells.
* Times are rational numbers of seconds; a time before that of the last call is taken as that one.
* `hash_otp_code`, a keyed digest, and the characters that `str.strip` removes are parameters.
* The mail that carries the code is left out; one that fails leaves the entry where it is.

Results:

* `reveal_lawful_iff`: every successful verification in a run obeys the law exactly when the right
  code never comes late to an entry that wrong ones have kept alive.
* `late_code_accepted`: a code is accepted 900 seconds after it was sent.
-/

namespace Deltapreneur.Auth.RevealOtp

open Expiring Run

abbrev Text := List Char

abbrev Key := TxId × UserId

/-- `_OTP_TTL`. -/
def OTP_TTL : ℚ := 600

/-- `_MAX_ATTEMPTS`. -/
def MAX_ATTEMPTS : Nat := 5

/-! ## The cache -/

inductive Backend
  | redis | memory
  deriving Repr, DecidableEq

/-- The JSON object of an entry. -/
structure Pending (δ : Type) where
  otpHash : δ
  attempts : Nat
  deriving Repr, DecidableEq

section Service

variable {δ : Type}

abbrev Cache (δ : Type) := Key → Option (Entry ℚ (Pending δ))

/-- `get_json`. In memory an entry that has run out is dropped. -/
def getJson (b : Backend) (now : ℚ) (key : Key) (cache : Cache δ) :
    Option (Pending δ) × Cache δ :=
  match b, cache key with
  | .memory, some e =>
    if e.expires ≤ now then (none, Function.update cache key none) else (some e.value, cache)
  | .memory, none => (none, cache)
  | .redis, e => ((live now e).map Entry.value, cache)

/-- `set_json`. -/
def setJson (now : ℚ) (key : Key) (value : Pending δ) (ttlSeconds : ℚ) (cache : Cache δ) :
    Cache δ :=
  Function.update cache key (some ⟨now + ttlSeconds, value⟩)

/-- `delete`. -/
def delete (key : Key) (cache : Cache δ) : Cache δ := Function.update cache key none

/-! ## The service -/

/-- The digest, and what counts as a blank. -/
structure Words (δ : Type) where
  hashOtpCode : Text → δ
  isSpace : Char → Bool

variable [DecidableEq δ] (words : Words δ) (b : Backend)

/-- `f"{secrets.randbelow(1_000_000):06d}"`. -/
def sixDigits (n : Fin 1000000) : Text := (Nat.toDigits 10 n).leftpad 6 '0'

/-- `send_otp`, with the number that is drawn. -/
def sendOtp (mailConfigured : Bool) (key : Key) (number : Fin 1000000) (now : ℚ)
    (cache : Cache δ) : Except AppException (Cache δ) :=
  if mailConfigured = false then raise "Email is not configured." 503
  else .ok (setJson now key ⟨words.hashOtpCode (sixDigits number), 0⟩ OTP_TTL cache)

/-- `verify_otp`: the answer, and the cache with it. -/
def verifyOtp (key : Key) (otp : Text) (now : ℚ) (cache : Cache δ) :
    Except AppException Unit × Cache δ :=
  match getJson b now key cache with
  | (none, cache) => (raise "OTP expired or not sent. Request a new code." 400, cache)
  | (some entry, cache) =>
    if entry.attempts ≥ MAX_ATTEMPTS then (raise "Too many attempts. Request a new code." 429, cache)
    else if words.hashOtpCode (Trim.strip words.isSpace otp) ≠ entry.otpHash then
      (raise "Invalid OTP." 400,
        setJson now key { entry with attempts := entry.attempts + 1 } OTP_TTL cache)
    else (.ok (), delete key cache)

variable {words b} {key : Key} {otp : Text} {now : ℚ} {cache : Cache δ}

omit [DecidableEq δ] in
theorem getJson_spec : (getJson b now key cache).1 = (live now (cache key)).map Entry.value ∧
    ∀ k, live now ((getJson b now key cache).2 k) = live now (cache k) := by
  cases b with
  | redis => exact ⟨rfl, fun k => rfl⟩
  | memory =>
    cases hentry : cache key with
    | none => exact ⟨by simp [getJson, hentry], fun k => by simp [getJson, hentry]⟩
    | some e =>
      by_cases hle : e.expires ≤ now
      · refine ⟨by simp [getJson, hentry, hle, live_some_of_le], fun k => ?_⟩
        by_cases hk : k = key
        · subst hk
          simp [getJson, hentry, hle, live_some_of_le]
        · simp [getJson, hentry, hle, hk]
      · refine ⟨by simp [getJson, hentry, hle, live_some_of_lt (not_le.mp hle)], fun k => ?_⟩
        simp [getJson, hentry, hle]

/-- What a verification can do: refuse and leave what is alive as it is, count a wrong code, or
accept the right one and delete the entry. -/
inductive Verified (words : Words δ) (key : Key) (otp : Text) (now : ℚ) (cache : Cache δ) :
    Except AppException Unit × Cache δ → Prop
  | refused {m : String} {n : Nat} {cache' : Cache δ}
    (hno : ∀ e ∈ live now (cache key), MAX_ATTEMPTS ≤ e.value.attempts)
    (hsame : ∀ k, live now (cache' k) = live now (cache k)) :
    Verified words key otp now cache (raise m n, cache')
  | wrong {e : Entry ℚ (Pending δ)} {m : String} {n : Nat} {cache' : Cache δ}
    (he : live now (cache key) = some e) (hlt : e.value.attempts < MAX_ATTEMPTS)
    (hwrong : words.hashOtpCode (Trim.strip words.isSpace otp) ≠ e.value.otpHash)
    (hself : cache' key = some ⟨now + OTP_TTL, ⟨e.value.otpHash, e.value.attempts + 1⟩⟩)
    (hother : ∀ k, k ≠ key → live now (cache' k) = live now (cache k)) :
    Verified words key otp now cache (raise m n, cache')
  | accepted {e : Entry ℚ (Pending δ)} {cache' : Cache δ}
    (he : live now (cache key) = some e) (hlt : e.value.attempts < MAX_ATTEMPTS)
    (hright : words.hashOtpCode (Trim.strip words.isSpace otp) = e.value.otpHash)
    (hself : cache' key = none)
    (hother : ∀ k, k ≠ key → live now (cache' k) = live now (cache k)) :
    Verified words key otp now cache (.ok (), cache')

theorem verifyOtp_cases :
    Verified words key otp now cache (verifyOtp words b key otp now cache) := by
  obtain ⟨hvalue, hsame⟩ : (getJson b now key cache).1 = (live now (cache key)).map Entry.value ∧
      ∀ k, live now ((getJson b now key cache).2 k) = live now (cache k) := getJson_spec
  rcases hget : getJson b now key cache with ⟨found, cache'⟩
  rw [hget] at hvalue hsame
  cases hlive : live now (cache key) with
  | none =>
    obtain rfl : found = none := by simpa [hlive] using hvalue
    simp only [verifyOtp, hget]
    exact .refused (by simp [hlive]) hsame
  | some e =>
    obtain rfl : found = some e.value := by simpa [hlive] using hvalue
    simp only [verifyOtp, hget]
    split_ifs with hmany hwrong
    · exact .refused (by simpa [hlive] using hmany) hsame
    · exact .wrong hlive (not_le.mp hmany) hwrong (by simp [setJson])
        fun k hk => by simpa [setJson, hk] using hsame k
    · exact .accepted hlive (not_le.mp hmany) (not_not.mp hwrong) (by simp [delete])
        fun k hk => by simpa [delete, hk] using hsame k

/-- **When a code is accepted.** -/
theorem verifyOtp_ok_iff : (verifyOtp words b key otp now cache).1 = .ok () ↔
    ∃ e, live now (cache key) = some e ∧ e.value.attempts < MAX_ATTEMPTS ∧
      words.hashOtpCode (Trim.strip words.isSpace otp) = e.value.otpHash := by
  rcases hverify : verifyOtp words b key otp now cache with ⟨answer, cache'⟩
  have hcases : Verified words key otp now cache (verifyOtp words b key otp now cache) :=
    verifyOtp_cases
  rw [hverify] at hcases
  cases hcases with
  | refused hno =>
    simp only [raise_ne_ok, false_iff, not_exists, not_and]
    exact fun e he hlt => absurd (hno e he) (not_le.mpr hlt)
  | wrong he hlt hwrong =>
    simp only [raise_ne_ok, false_iff, not_exists, not_and]
    rintro e' he' -
    cases he.symm.trans he'
    exact hwrong
  | accepted he hlt hright => exact iff_of_true rfl ⟨_, he, hlt, hright⟩

end Service

/-! ## Runs -/

/-- The latest send for a key, with what has been presented since. -/
structure Sent where
  code : Text
  time : ℚ
  wrong : Nat
  accepted : Bool
  deriving Repr, DecidableEq

structure World (δ : Type) where
  clock : ℚ
  cache : Cache δ
  sent : Key → Option Sent

inductive Call
  | send (key : Key) (mailConfigured : Bool) (number : Fin 1000000)
  | verify (key : Key) (otp : Text)
  deriving Repr, DecidableEq

structure Event where
  call : Call
  time : ℚ
  deriving Repr, DecidableEq

section Runs

variable {δ : Type} [DecidableEq δ] (words : Words δ) (b : Backend)

def start : World δ := ⟨0, fun _ => none, fun _ => none⟩

@[simp] theorem isOk_raise {m : String} {n : Nat} :
    (raise m n : Except AppException Unit).isOk = false := rfl

/-- What is known of a send after one more code was presented. -/
def Sent.present (s : Sent) (otp : Text) (answer : Except AppException Unit) : Sent :=
  { s with
    wrong := if Trim.strip words.isSpace otp = s.code then s.wrong else s.wrong + 1
    accepted := s.accepted || answer.isOk }

def step (w : World δ) (ev : Event) : World δ :=
  let now := max w.clock ev.time
  match ev.call with
  | .send key mailConfigured number =>
    match sendOtp words mailConfigured key number now w.cache with
    | .error _ => { w with clock := now }
    | .ok cache =>
      ⟨now, cache, Function.update w.sent key (some ⟨sixDigits number, now, 0, false⟩)⟩
  | .verify key otp =>
    let (answer, cache) := verifyOtp words b key otp now w.cache
    ⟨now, cache, Function.update w.sent key
      ((w.sent key).map fun s => s.present words otp answer)⟩

/-- **The law of a verification.** It succeeds only with the code of the latest send, within its
time to live, for the first time, and after fewer than five wrong codes. -/
def Lawful (w : World δ) (ev : Event) : Prop :=
  ∀ key otp, ev.call = .verify key otp →
    (verifyOtp words b key otp (max w.clock ev.time) w.cache).1 = .ok () →
    ∃ s ∈ w.sent key, Trim.strip words.isSpace otp = s.code ∧
      max w.clock ev.time ≤ s.time + OTP_TTL ∧ s.accepted = false ∧ s.wrong < 5

/-- The right code does not come later than its time to live to an entry that wrong codes have kept
alive. -/
def InTime (w : World δ) (ev : Event) : Prop :=
  ∀ key otp, ev.call = .verify key otp → ∀ e ∈ live (max w.clock ev.time) (w.cache key),
    e.value.attempts < MAX_ATTEMPTS → ∀ s ∈ w.sent key, Trim.strip words.isSpace otp = s.code →
    max w.clock ev.time ≤ s.time + OTP_TTL

/-- The entry belongs to the send, which was not accepted yet; below the bound it counts the wrong
codes presented since, each of which gives it one more time to live. -/
structure Entry.Follows (e : Entry ℚ (Pending δ)) (s : Sent) : Prop where
  hash : e.value.otpHash = words.hashOtpCode s.code
  fresh : s.accepted = false
  count : e.value.attempts < MAX_ATTEMPTS → s.wrong = e.value.attempts
  expires_le : e.expires ≤ s.time + OTP_TTL * (s.wrong + 1)

/-- An entry that is alive follows from the latest send. -/
def Follows (w : World δ) : Prop :=
  ∀ key, ∀ e ∈ live w.clock (w.cache key), ∃ s ∈ w.sent key, Entry.Follows words e s

variable {words b} {w : World δ}

omit [DecidableEq δ] in
theorem Follows.later (h : Follows words w) {now : ℚ} (hle : w.clock ≤ now) :
    Follows words { w with clock := now } := by
  intro key e he
  obtain ⟨hcache, hlt⟩ := live_eq_some.mp he
  exact h key e (live_eq_some.mpr ⟨hcache, hle.trans_lt hlt⟩)

omit [DecidableEq δ] in
theorem follows_start : Follows words (start : World δ) := fun _ _ he => nomatch he

omit [DecidableEq δ] in
theorem Follows.update {now : ℚ} (h : Follows words { w with clock := now }) {key : Key}
    {cache' : Cache δ} {sent' : Option Sent}
    (hself : ∀ e ∈ live now (cache' key), ∃ s ∈ sent', Entry.Follows words e s)
    (hother : ∀ k, k ≠ key → live now (cache' k) = live now (w.cache k)) :
    Follows words ⟨now, cache', Function.update w.sent key sent'⟩ := by
  intro k e he
  by_cases hk : k = key
  · subst hk
    simpa using hself e he
  · simpa [hk] using h k e (hother k hk ▸ he)

omit [DecidableEq δ] in
theorem Sent.wrong_le_present (s : Sent) {otp : Text} {answer : Except AppException Unit} :
    s.wrong ≤ (s.present words otp answer).wrong := by
  unfold Sent.present
  split_ifs <;> simp

theorem follows_step (h : Follows words w) (ev : Event) : Follows words (step words b w ev) := by
  have hlater := h.later (le_max_left w.clock ev.time)
  rcases ev with ⟨⟨key, mailConfigured, number⟩ | ⟨key, otp⟩, time⟩
  · cases mailConfigured with
    | false => exact hlater
    | true =>
      refine hlater.update (fun e he => ?_) fun k hk => by simp [setJson, hk]
      obtain ⟨hcache, -⟩ := live_eq_some.mp he
      obtain rfl : _ = e := by simpa [setJson] using hcache
      exact ⟨_, rfl, rfl, rfl, fun _ => rfl, by simp⟩
  · rcases hverify : verifyOtp words b key otp (max w.clock time) w.cache with ⟨answer, cache'⟩
    have hcases : Verified words key otp (max w.clock time) w.cache
        (verifyOtp words b key otp (max w.clock time) w.cache) := verifyOtp_cases
    simp only [step, hverify]
    rw [hverify] at hcases
    cases hcases with
    | @refused m n _ hno hsame =>
      refine hlater.update (fun e he => ?_) fun k _ => hsame k
      rw [hsame key] at he
      obtain ⟨s, hs, hhash, haccepted, -, hexpires⟩ := hlater key e he
      refine ⟨_, Option.mem_map_of_mem _ hs, hhash, by simp [Sent.present, haccepted],
        fun hlt => absurd (hno e he) (not_le.mpr hlt), hexpires.trans ?_⟩
      have hwrong : (s.wrong : ℚ) ≤ (s.present words otp (raise m n)).wrong :=
        Nat.cast_le.mpr s.wrong_le_present
      simp only [OTP_TTL, Sent.present] at hwrong ⊢
      linarith
    | @wrong e m n cache' he hlt hwrong hself hother =>
      refine hlater.update (fun e' he' => ?_) hother
      obtain ⟨s, hs, hhash, haccepted, hcount, hexpires⟩ := hlater key e he
      obtain rfl : _ = e' := by simpa [hself] using (live_eq_some.mp he').1
      have halive := (live_eq_some.mp he).2
      -- A code with another digest is another code.
      have hne : Trim.strip words.isSpace otp ≠ s.code := fun heq => hwrong (by rw [heq, hhash])
      refine ⟨_, Option.mem_map_of_mem _ hs, hhash, by simp [Sent.present, haccepted],
        fun _ => by simp [Sent.present, hne, hcount hlt], ?_⟩
      simp only [Sent.present, hne, if_false, OTP_TTL] at hexpires ⊢
      push_cast
      linarith
    | accepted _ _ _ hself hother =>
      refine hlater.update (fun e he => ?_) hother
      rw [hself] at he
      cases he

/-- The law of one verification. -/
theorem lawful_iff (hinj : Function.Injective words.hashOtpCode) (h : Follows words w)
    (ev : Event) : Lawful words b w ev ↔ InTime words w ev := by
  have hlater := h.later (le_max_left w.clock ev.time)
  constructor
  · intro hlaw key otp hcall e he hlt s hs hcode
    obtain ⟨s', hs', hfollows⟩ := hlater key e he
    cases hs.symm.trans hs'
    obtain ⟨s', hs', -, htime, -⟩ := hlaw key otp hcall
      (verifyOtp_ok_iff.mpr ⟨e, he, hlt, by rw [hcode, hfollows.hash]⟩)
    cases hs.symm.trans hs'
    exact htime
  · intro hin key otp hcall hok
    obtain ⟨e, he, hlt, hright⟩ := verifyOtp_ok_iff.mp hok
    obtain ⟨s, hs, hfollows⟩ := hlater key e he
    have hcode := hinj (hright.trans hfollows.hash)
    exact ⟨s, hs, hcode, hin key otp hcall e he hlt s hs hcode, hfollows.fresh,
      (hfollows.count hlt).trans_lt hlt⟩

omit [DecidableEq δ] in
/-- An entry that outlives its time to live has had a wrong code since its send. -/
theorem Entry.Follows.mistaken {e : Entry ℚ (Pending δ)} {s : Sent} (h : Entry.Follows words e s)
    (hlate : s.time + OTP_TTL < e.expires) : 0 < s.wrong := by
  have hexpires := h.expires_le
  rcases Nat.eq_zero_or_pos s.wrong with hnone | hwrong
  · rw [hnone, Nat.cast_zero, zero_add, mul_one] at hexpires
    exact absurd hlate (not_lt.mpr hexpires)
  · exact hwrong

/-- **The law of the reveal codes.** In every run, with either backend, each verification obeys the
law exactly when no right code comes late to an entry that wrong codes have kept alive. The digest
is taken to tell codes apart. -/
theorem reveal_lawful_iff (hinj : Function.Injective words.hashOtpCode) (events : List Event) :
    AllSteps (step words b) (fun w ev _ => Lawful words b w ev) start events ↔
      Meets (step words b) (InTime words) start events :=
  allSteps_iff_meets (P := Follows words) (R := fun w ev _ => Lawful words b w ev)
    (fun _ ev h => follows_step h ev) (fun _ ev h => lawful_iff hinj h ev) events follows_start

end Runs

/-- Codes kept as they are. -/
def plainWords : Words Text := ⟨id, Char.isWhitespace⟩

/-- A code is sent, a wrong one comes 500 seconds later, and the right one after another 400. -/
def lateCode : List Event :=
  [⟨.send (1, 2) true 123456, 0⟩, ⟨.verify (1, 2) "000000".toList, 500⟩,
    ⟨.verify (1, 2) "123456".toList, 900⟩]

/-- The right code comes at the end of its time to live, after the wrong one. -/
def wrongThenRight : List Event := lateCode.take 2 ++ [⟨.verify (1, 2) "123456".toList, 600⟩]

theorem reveal_lawful_one_send :
    (exec (step plainWords .redis) start wrongThenRight).sent (1, 2) =
        some ⟨"123456".toList, 0, 1, true⟩ ∧
      (AllSteps (step plainWords .redis) (fun w ev _ => Lawful plainWords .redis w ev) start
          wrongThenRight ↔
        Meets (step plainWords .redis) (InTime plainWords) start wrongThenRight) :=
  ⟨by decide +kernel, reveal_lawful_iff (fun _ _ h => h) _⟩

theorem late_code_accepted :
    ¬ ∀ (words : Words Text) (b : Backend), Function.Injective words.hashOtpCode →
      ∀ events : List Event,
        AllSteps (step words b) (fun w ev _ => Lawful words b w ev) start events := by
  intro h
  have hrun := h plainWords .redis (fun _ _ h => h) lateCode
  have hlaw : Lawful plainWords .redis
      (exec (step plainWords .redis) start (lateCode.take 2))
      ⟨.verify (1, 2) "123456".toList, 900⟩ :=
    (allSteps_iff _ _).mp hrun (lateCode.take 2) _ [] rfl
  have hok : (verifyOtp plainWords .redis (1, 2) "123456".toList 900
      (exec (step plainWords .redis) start (lateCode.take 2)).cache).1 = .ok () := by
    decide +kernel
  have hsent : (exec (step plainWords .redis) start (lateCode.take 2)).sent (1, 2) =
      some ⟨"123456".toList, 0, 1, false⟩ := by decide +kernel
  have hclock : (exec (step plainWords .redis) start (lateCode.take 2)).clock = 500 := by
    decide +kernel
  rw [Lawful, hclock, max_eq_right (by norm_num)] at hlaw
  obtain ⟨s, hs, -, htime, -⟩ := hlaw _ _ rfl hok
  obtain rfl := Option.some.inj (hsent.symm.trans hs)
  exact absurd htime (by norm_num [OTP_TTL])

end Deltapreneur.Auth.RevealOtp
