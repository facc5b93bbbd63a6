import Deltapreneur.Core
import Deltapreneur.Lib.Requests

/-!
# No account without the mailbox

The sign-up and sign-in operations on one e-mail address, performed by the owner of its mailbox and
by an attacker (`app/service/auth/auth_service.py:99-251, 351-391, 967-1120, 1205-1485`).

* A secret (verification token, one-time code, reset token) is a number, drawn in order, and is
  sent to the mailbox and nowhere else. Only the owner can submit one that has arrived
  (`Accounts.submits`); the attacker's guesses match nothing.
* A party knows the passwords it submitted itself. A hash is the password it verifies; a new hash
  differs from every old one.
* Each read, commit, cache access and mail is a move of its own. A commit writes the columns that
  differ from what the request loaded (`column`); on a row that `revoke_all_user_tokens` has
  expired, it writes all that were assigned. A mail may fail, a statement does not.
* Refresh tokens, the profile and the providers are left out.

Results:

* `keptOut_iff`: in every run, exactly when no proof of the mailbox makes an attacker's password
  valid.
* `password_outlives_proof`: the owner opens the link of a registration, and its password is the
  attacker's.
-/

namespace Deltapreneur.Auth.Takeover

open Requests

/-! ## Parties and rows -/

inductive Party
  | owner | attacker
  deriving Repr, DecidableEq

abbrev Secret := Nat

/-- A password; only the party that made it up submits it. -/
structure Password where
  of : Party
  n : Nat
  deriving Repr, DecidableEq

def minute : Instant := 60 * 1000000
def OTP_EXPIRY_MINUTES : Nat := 10
def PASSWORD_RESET_EXPIRY_MINUTES : Nat := 30

/-- A row of `users`. -/
structure AppUser where
  password : Option Password
  isDeleted : Bool
  active : Bool
  emailVerified : Bool
  verificationToken : Option Secret
  verificationTokenExpiry : Option Instant
  otp : Option Secret
  otpExpiry : Option Instant
  deriving Repr, DecidableEq

/-- A pending registration in `signup_otp_cache`, which drops it when it expires. -/
structure Pending where
  otp : Secret
  password : Password
  expiresAt : Instant
  deriving Repr, DecidableEq

structure PasswordResetToken where
  token : Secret
  expiresAt : Instant
  usedAt : Option Instant
  deriving Repr, DecidableEq

/-- What is kept for the address. -/
structure Accounts where
  user : Option AppUser
  pending : Option Pending
  resetTokens : List PasswordResetToken
  /-- The next secret. -/
  issued : Secret
  /-- The secrets that have arrived in the mailbox. -/
  mailbox : List Secret

/-- A secret as a party submits it, if it is one. -/
def Accounts.submits (db : Accounts) : Party → Secret → Option Secret
  | .owner, s => if s ∈ db.mailbox then some s else none
  | .attacker, _ => none

/-- `_assert_user_may_authenticate`. -/
def AppUser.mayAuthenticate (u : AppUser) : Bool := !u.isDeleted && u.active

/-- `_is_eligible_for_password_reset`. -/
def AppUser.isEligibleForPasswordReset (u : AppUser) : Bool :=
  u.active && !u.isDeleted && u.emailVerified

/-- `verify_password` succeeds for a password of the party. -/
def AppUser.knownTo (u : AppUser) (p : Party) : Bool := u.password.any (·.of = p)

/-- `find_by_email`, without the deleted row. -/
def Accounts.findByEmail (db : Accounts) : Option AppUser := db.user.filter (!·.isDeleted)

/-- `find_by_verification_token`. -/
def Accounts.findByVerificationToken (db : Accounts) (submitted : Option Secret) :
    Option AppUser :=
  db.findByEmail.filter fun u => submitted.any fun s => u.verificationToken = some s

/-- The pending registration that the cache still has. -/
def Accounts.cached (db : Accounts) (now : Instant) : Option Pending :=
  db.pending.filter (now < ·.expiresAt)

/-! ## Requests -/

inductive Op
  | register (n : Nat)
  | verifyEmail (token : Secret)
  | login (n : Nat)
  | sendOtpForRegistration (n : Nat)
  | resendOtpForRegistration
  | verifyOtpAndRegister (code : Secret)
  | sendOtpForLogin
  | verifyOtpAndLogin (code : Secret)
  | forgotPassword
  | resetPassword (token : Secret) (n : Nat)
  deriving Repr, DecidableEq

/-- Where a request is. -/
inductive Pc
  | called (op : Op)
  /-- `register` and `verify_otp_and_register`: there was no row, or a deleted one. -/
  | inserting (pw : Password) (verified : Bool)
  | reviving (pw : Password) (verified : Bool)
  /-- `register`: the row was not verified. -/
  | overwriting (pw : Password)
  | mailing (token : Secret)
  /-- `verify_email`: the row has the token. -/
  | verifying (loaded : AppUser)
  /-- The row is verified and is read again. -/
  | admitting
  /-- `_store_and_send_registration_otp`. -/
  | caching (pw : Password)
  | mailingCode (code : Secret)
  /-- `verify_otp_and_register`: the code is right. -/
  | registering (pw : Password)
  | looking (pw : Password)
  | confirming (pw : Password) (loaded : AppUser)
  /-- `send_otp_for_login`. -/
  | mailingOtp
  | storingOtp (code : Secret)
  /-- `verify_otp_and_login`: the code is right. -/
  | loggingIn (loaded : AppUser)
  /-- `forgot_password`. -/
  | requestingReset
  | storingReset (token : Secret) (deleted : List Secret)
  /-- `reset_password`: the token is right. -/
  | resetting (token : Secret) (pw : Password) (now : Instant)
  /-- Ended, with an authenticated session or without. -/
  | done (session : Bool)
  deriving Repr, DecidableEq

structure Request where
  party : Party
  pc : Pc
  deriving Repr, DecidableEq

/-- What the environment decides for a move: the clock, and whether a mail goes out. -/
structure Env where
  now : Instant
  mailed : Bool
  deriving Repr, DecidableEq

/-! ## The first read of each operation -/

/-- `register`. -/
def Accounts.readRegister (db : Accounts) (pw : Password) : Pc :=
  match db.user with
  | none => .inserting pw false
  | some u =>
    if u.isDeleted then .reviving pw false
    else if u.emailVerified then .done false
    else .overwriting pw

/-- `verify_email`. -/
def Accounts.readVerification (db : Accounts) (submitted : Option Secret) (now : Instant) : Pc :=
  match db.findByVerificationToken submitted with
  | none => .done false
  | some u => if u.verificationTokenExpiry.any (· < now) then .done false else .verifying u

/-- `login`. -/
def Accounts.readLogin (db : Accounts) (pw : Password) : Pc :=
  match db.findByEmail with
  | none => .done false
  | some u =>
    if u.password ≠ some pw then .done false
    else if !u.emailVerified then .done false
    else .done u.mayAuthenticate

/-- `send_otp_for_registration`. -/
def Accounts.readRegistration (db : Accounts) (pw : Password) : Pc :=
  if db.user.any fun u => !u.isDeleted && u.emailVerified then .done false else .caching pw

/-- `verify_otp_and_register`, as far as the cache. -/
def Accounts.readCode (db : Accounts) (submitted : Option Secret) (now : Instant) : Pc :=
  match db.cached now with
  | none => .done false
  | some p => if submitted = some p.otp then .registering p.password else .done false

/-- `verify_otp_and_register`, the row. -/
def Accounts.readConfirmation (db : Accounts) (pw : Password) : Pc :=
  match db.user with
  | none => .inserting pw true
  | some u =>
    if u.isDeleted then .reviving pw true
    else if u.emailVerified then .done false
    else .confirming pw u

/-- `verify_otp_and_login`. -/
def Accounts.readOtp (db : Accounts) (submitted : Option Secret) (now : Instant) : Pc :=
  match db.findByEmail with
  | none => .done false
  | some u =>
    match u.otp, u.otpExpiry with
    | some otp, some expiry =>
      if expiry < now then .done false
      else if submitted ≠ some otp then .done false
      else if u.mayAuthenticate then .loggingIn u
      else .done false
    | _, _ => .done false

/-- `reset_password`. -/
def Accounts.readReset (db : Accounts) (submitted : Option Secret) (pw : Password)
    (now : Instant) : Pc :=
  match db.resetTokens.find? fun t => submitted = some t.token with
  | none => .done false
  | some t =>
    if t.usedAt.isSome then .done false
    else if t.expiresAt < now then .done false
    else if db.user.any (·.isEligibleForPasswordReset) then .resetting t.token pw now
    else .done false

def Accounts.read (db : Accounts) (p : Party) (now : Instant) : Op → Pc
  | .register n => db.readRegister ⟨p, n⟩
  | .verifyEmail t => db.readVerification (db.submits p t) now
  | .login n => db.readLogin ⟨p, n⟩
  | .sendOtpForRegistration n => db.readRegistration ⟨p, n⟩
  | .resendOtpForRegistration =>
    match db.cached now with
    | none => .done false
    | some q => .caching q.password
  | .verifyOtpAndRegister code => db.readCode (db.submits p code) now
  | .sendOtpForLogin => if db.findByEmail.any (·.active) then .mailingOtp else .done false
  | .verifyOtpAndLogin code => db.readOtp (db.submits p code) now
  | .forgotPassword =>
    if db.findByEmail.any (·.isEligibleForPasswordReset) then .requestingReset else .done false
  | .resetPassword t n => db.readReset (db.submits p t) ⟨p, n⟩ now

/-! ## The moves -/

/-- A column after a commit: written if its new value is not the one loaded. -/
def column {α : Type} [DecidableEq α] (loaded new current : α) : α :=
  if new = loaded then current else new

/-- The row as a registration writes it whole. -/
def AppUser.registered (pw : Password) (verified : Bool) (token : Secret) (now : Instant) :
    AppUser where
  password := some pw
  isDeleted := false
  active := true
  emailVerified := verified
  verificationToken := if verified then none else some token
  verificationTokenExpiry := if verified then none else some (now + 24 * 60 * minute)
  otp := none
  otpExpiry := none

/-- `register` on a row that it loaded unverified. -/
def AppUser.overwritten (u : AppUser) (pw : Password) (token : Secret) (now : Instant) :
    AppUser :=
  { u with
    password := some pw
    verificationToken := some token
    verificationTokenExpiry := some (now + 24 * 60 * minute) }

/-- `verify_email`. -/
def AppUser.verified (u loaded : AppUser) : AppUser :=
  { u with
    emailVerified := column loaded.emailVerified true u.emailVerified
    verificationToken := column loaded.verificationToken none u.verificationToken
    verificationTokenExpiry :=
      column loaded.verificationTokenExpiry none u.verificationTokenExpiry }

/-- `verify_otp_and_register` on a row that it loaded unverified. -/
def AppUser.confirmed (u loaded : AppUser) (pw : Password) : AppUser :=
  { u with
    password := some pw
    emailVerified := column loaded.emailVerified true u.emailVerified
    verificationToken := column loaded.verificationToken none u.verificationToken
    verificationTokenExpiry :=
      column loaded.verificationTokenExpiry none u.verificationTokenExpiry
    otp := column loaded.otp none u.otp
    otpExpiry := column loaded.otpExpiry none u.otpExpiry }

/-- `verify_otp_and_login`. -/
def AppUser.loggedIn (u loaded : AppUser) : AppUser :=
  { u with
    emailVerified := column loaded.emailVerified true u.emailVerified
    otp := column loaded.otp none u.otp
    otpExpiry := column loaded.otpExpiry none u.otpExpiry }

def Accounts.move (db : Accounts) (p : Party) (e : Env) : Pc → Accounts × Pc
  | .called op => (db, db.read p e.now op)
  | .inserting pw verified =>
    -- the address is unique
    if db.user.isSome then (db, .done false)
    else
      ({ db with
          user := some (.registered pw verified db.issued e.now)
          issued := db.issued + 1 },
        if verified then .done true else .mailing db.issued)
  | .reviving pw verified =>
    ({ db with
        user := db.user.map fun _ => .registered pw verified db.issued e.now
        issued := db.issued + 1 },
      if verified then .admitting else .mailing db.issued)
  | .overwriting pw =>
    ({ db with
        user := db.user.map (·.overwritten pw db.issued e.now)
        issued := db.issued + 1 },
      .mailing db.issued)
  | .mailing token =>
    (if e.mailed then { db with mailbox := token :: db.mailbox } else db, .done false)
  | .verifying loaded => ({ db with user := db.user.map (·.verified loaded) }, .admitting)
  | .admitting => (db, .done (db.user.any (·.mayAuthenticate)))
  | .caching pw =>
    ({ db with
        pending := some ⟨db.issued, pw, e.now + OTP_EXPIRY_MINUTES * minute⟩
        issued := db.issued + 1 },
      .mailingCode db.issued)
  | .mailingCode code =>
    (if e.mailed then { db with mailbox := code :: db.mailbox } else { db with pending := none },
      .done false)
  | .registering pw => ({ db with pending := none }, .looking pw)
  | .looking pw => (db, db.readConfirmation pw)
  | .confirming pw loaded =>
    ({ db with user := db.user.map (·.confirmed loaded pw) }, .admitting)
  | .mailingOtp =>
    if e.mailed then
      ({ db with mailbox := db.issued :: db.mailbox, issued := db.issued + 1 },
        .storingOtp db.issued)
    else (db, .done false)
  | .storingOtp code =>
    ({ db with
        user := db.user.map fun u =>
          { u with
            otp := some code
            otpExpiry := some (e.now + OTP_EXPIRY_MINUTES * minute) } },
      .done false)
  | .loggingIn loaded => ({ db with user := db.user.map (·.loggedIn loaded) }, .done true)
  | .requestingReset =>
    -- the tokens are deleted and the mail is sent before the commit
    if e.mailed then
      ({ db with mailbox := db.issued :: db.mailbox, issued := db.issued + 1 },
        .storingReset db.issued
          ((db.resetTokens.filter (·.usedAt.isNone)).map (·.token)))
    else (db, .done false)
  | .storingReset token deleted =>
    ({ db with
        resetTokens := db.resetTokens.filter (·.token ∉ deleted) ++
          [⟨token, e.now + PASSWORD_RESET_EXPIRY_MINUTES * minute, none⟩] },
      .done false)
  | .resetting token pw now =>
    -- a token that is gone by now fails the commit
    if db.resetTokens.any (·.token = token) then
      ({ db with
          user := db.user.map fun u => { u with password := some pw }
          resetTokens := (db.resetTokens.filter (·.token = token)).map fun t =>
            { t with usedAt := some now } },
        .done false)
    else (db, .done false)
  | .done session => (db, .done session)

def service : Service Accounts Request (Party × Op) Env where
  arrive c := ⟨c.1, .called c.2⟩
  move db r e := ((db.move r.party e r.pc).1, ⟨r.party, (db.move r.party e r.pc).2⟩)

abbrev Step := World.step service

/-! ## The property and the condition -/

/-- The attacker has no session, and none of its passwords opens one. -/
structure KeptOut (w : World Accounts Request) : Prop where
  noLogin : ∀ n, w.store.readLogin ⟨.attacker, n⟩ ≠ .done true
  noSession : ∀ r ∈ w.requests, r.party = .attacker → r.pc ≠ .done true

/-- The row is in use, and its stored password is one of the attacker's. -/
def Accounts.Planted (db : Accounts) : Prop :=
  db.user.any (fun u => u.mayAuthenticate && u.knownTo .attacker) = true

/-- The condition on a move: what marks the address verified finds no password of the attacker
there, brings none along, and no registration of the attacker that read the address unverified
commits when it is verified. -/
def Proper (db : Accounts) (r : Request) (_ : Env) : Prop :=
  match r.pc with
  | .verifying loaded | .loggingIn loaded => loaded.emailVerified = false → ¬ db.Planted
  | .confirming pw _ => pw.of = .attacker → ¬ db.user.any (·.mayAuthenticate)
  | .inserting pw verified => pw.of = .attacker → verified = true → db.user.isSome
  | .reviving pw verified => pw.of = .attacker → verified = true → db.user = none
  | .overwriting pw =>
    pw.of = .attacker → ¬ db.user.any fun u => u.mayAuthenticate && u.emailVerified
  | _ => True

instance (db : Accounts) : Decidable db.Planted := inferInstanceAs (Decidable (_ = _))

instance (db : Accounts) : (r : Request) → (e : Env) → Decidable (Proper db r e)
  | ⟨_, .verifying loaded⟩, _ | ⟨_, .loggingIn loaded⟩, _ =>
    inferInstanceAs (Decidable (loaded.emailVerified = false → ¬ db.Planted))
  | ⟨_, .confirming pw _⟩, _ => inferInstanceAs (Decidable (pw.of = .attacker → ¬ _ = true))
  | ⟨_, .inserting pw verified⟩, _ =>
    inferInstanceAs (Decidable (pw.of = .attacker → verified = true → _ = true))
  | ⟨_, .reviving pw verified⟩, _ =>
    inferInstanceAs (Decidable (pw.of = .attacker → verified = true → db.user = none))
  | ⟨_, .overwriting pw⟩, _ => inferInstanceAs (Decidable (pw.of = .attacker → ¬ _ = true))
  | ⟨_, .called _⟩, _ | ⟨_, .mailing _⟩, _ | ⟨_, .admitting⟩, _ | ⟨_, .caching _⟩, _
  | ⟨_, .mailingCode _⟩, _ | ⟨_, .registering _⟩, _ | ⟨_, .looking _⟩, _ | ⟨_, .mailingOtp⟩, _
  | ⟨_, .storingOtp _⟩, _ | ⟨_, .requestingReset⟩, _ | ⟨_, .storingReset _ _⟩, _
  | ⟨_, .resetting _ _ _⟩, _ | ⟨_, .done _⟩, _ => .isTrue trivial

variable {db db' : Accounts} {r : Request} {u loaded : AppUser} {pw : Password}
  {f : AppUser → AppUser}

/-! ## What the attacker's requests reach -/

/-- What a request has got to with a secret, only the owner's has; a password reset sets the
owner's password. -/
def Powerless (r : Request) : Prop :=
  match r.pc with
  | .verifying _ | .admitting | .registering _ | .looking _ | .loggingIn _ => r.party = .owner
  | .confirming _ loaded => r.party = .owner ∧ loaded.emailVerified = false
  | .resetting _ pw _ => pw.of = .owner
  | .inserting _ verified | .reviving _ verified => verified = true → r.party = .owner
  | _ => True

/-- The first read of a request, if a secret of the attacker is none. -/
theorem powerless_read (db : Accounts) (p : Party) (now : Instant) (op : Op) :
    Powerless ⟨p, db.read p now op⟩ := by
  cases op with
  | register n =>
    simp only [Accounts.read, Accounts.readRegister]
    split
    · exact fun h => absurd h (by simp)
    · split_ifs
      · exact fun h => absurd h (by simp)
      · trivial
      · trivial
  | verifyEmail t =>
    simp only [Accounts.read, Accounts.readVerification]
    cases p with
    | owner => split <;> [trivial; split_ifs <;> trivial]
    | attacker => simp [Accounts.findByVerificationToken, Accounts.submits, Powerless]
  | login n =>
    simp only [Accounts.read, Accounts.readLogin]
    split <;> [trivial; split_ifs <;> trivial]
  | sendOtpForRegistration n =>
    simp only [Accounts.read, Accounts.readRegistration]
    split_ifs <;> trivial
  | resendOtpForRegistration =>
    simp only [Accounts.read]
    split <;> trivial
  | verifyOtpAndRegister code =>
    simp only [Accounts.read, Accounts.readCode]
    cases p with
    | owner => split <;> [trivial; split_ifs <;> trivial]
    | attacker => split <;> simp [Accounts.submits, Powerless]
  | sendOtpForLogin =>
    simp only [Accounts.read]
    split_ifs <;> trivial
  | verifyOtpAndLogin code =>
    simp only [Accounts.read, Accounts.readOtp]
    cases p with
    | owner =>
      split
      · trivial
      · split <;> [split_ifs <;> trivial; trivial]
    | attacker =>
      split
      · trivial
      · split <;> simp [Accounts.submits, Powerless]
  | forgotPassword =>
    simp only [Accounts.read]
    split_ifs <;> trivial
  | resetPassword t n =>
    simp only [Accounts.read, Accounts.readReset]
    cases p with
    | owner => split <;> [trivial; split_ifs <;> trivial]
    | attacker =>
      split
      · trivial
      · next u hu => cases List.find?_some hu

theorem powerless_move (db : Accounts) (r : Request) (e : Env) (h : Powerless r) :
    Powerless (service.move db r e).2 := by
  obtain ⟨p, pc⟩ := r
  simp only [service]
  cases pc with
  | called op => exact powerless_read db p e.now op
  | inserting pw verified =>
    simp only [Accounts.move]
    split_ifs <;> trivial
  | reviving pw verified =>
    simp only [Accounts.move]
    split_ifs with hv
    · exact h hv
    · trivial
  | looking pw =>
    simp only [Accounts.move, Accounts.readConfirmation]
    split
    · exact fun _ => h
    · split_ifs with hdel hver
      · exact fun _ => h
      · trivial
      · exact ⟨h, by simpa using hver⟩
  | verifying loaded => exact h
  | confirming pw loaded => exact h.1
  | registering pw => exact h
  | mailingOtp | requestingReset | resetting =>
    simp only [Accounts.move]
    split_ifs <;> trivial
  | overwriting | mailing | admitting | caching | mailingCode | storingOtp | loggingIn
  | storingReset | done => trivial

/-! ## What a login finds -/

/-- A login of the attacker would succeed. -/
def Accounts.Exposed (db : Accounts) : Prop :=
  db.user.any (fun u => u.mayAuthenticate && u.emailVerified && u.knownTo .attacker) = true

theorem readLogin_eq : db.readLogin pw = .done true ↔ ∃ u, db.user = some u ∧
    u.mayAuthenticate = true ∧ u.emailVerified = true ∧ u.password = some pw := by
  unfold Accounts.readLogin Accounts.findByEmail AppUser.mayAuthenticate
  cases db.user with
  | none => simp
  | some u => cases hdel : u.isDeleted <;> simp [Option.filter, hdel]; grind

theorem noLogin_iff : (∀ n, db.readLogin ⟨.attacker, n⟩ ≠ .done true) ↔ ¬ db.Exposed := by
  simp only [ne_eq, readLogin_eq, Accounts.Exposed, AppUser.knownTo, Option.any_eq_true,
    Bool.and_eq_true, decide_eq_true_eq]
  constructor
  · rintro h ⟨u, hu, ⟨hmay, hver⟩, ⟨of, n⟩, hpw, rfl⟩
    exact h n ⟨u, hu, hmay, hver, hpw⟩
  · rintro h n ⟨u, hu, hmay, hver, hpw⟩
    exact h ⟨u, hu, ⟨hmay, hver⟩, _, hpw, rfl⟩

/-- Only a login may end in a session at its first read. -/
theorem exposed_of_read {now : Instant} {op : Op}
    (h : db.read .attacker now op = .done true) : db.Exposed := by
  cases op with
  | login n =>
    by_contra hno
    exact noLogin_iff.mpr hno n h
  | register n =>
    simp only [Accounts.read, Accounts.readRegister] at h
    split at h <;> grind
  | verifyEmail t =>
    simp only [Accounts.read, Accounts.readVerification] at h
    split at h <;> grind
  | sendOtpForRegistration n =>
    simp only [Accounts.read, Accounts.readRegistration] at h
    grind
  | resendOtpForRegistration =>
    simp only [Accounts.read] at h
    split at h <;> grind
  | verifyOtpAndRegister code =>
    simp only [Accounts.read, Accounts.readCode] at h
    split at h <;> grind
  | sendOtpForLogin =>
    simp only [Accounts.read] at h
    grind
  | verifyOtpAndLogin code =>
    simp only [Accounts.read, Accounts.readOtp] at h
    split at h
    · cases h
    · split at h <;> grind
  | forgotPassword =>
    simp only [Accounts.read] at h
    grind
  | resetPassword t n =>
    simp only [Accounts.read, Accounts.readReset] at h
    split at h <;> grind

/-! ## The exact condition -/

theorem exposed_iff : db.Exposed ↔ ∃ u, db.user = some u ∧ u.mayAuthenticate = true ∧
    u.emailVerified = true ∧ u.knownTo .attacker = true := by
  simp only [Accounts.Exposed, Option.any_eq_true, Bool.and_eq_true, and_assoc]

theorem exposed_map (h : db'.user = db.user.map f) :
    db'.Exposed ↔ ∃ u, db.user = some u ∧ (f u).mayAuthenticate = true ∧
      (f u).emailVerified = true ∧ (f u).knownTo .attacker = true := by
  simp only [Accounts.Exposed, h, Option.any_map, Option.any_eq_true, Bool.and_eq_true,
    and_assoc]

theorem planted_iff : db.Planted ↔ ∃ u, db.user = some u ∧ u.mayAuthenticate = true ∧
    u.knownTo .attacker = true := by
  simp only [Accounts.Planted, Option.any_eq_true, Bool.and_eq_true]

theorem verifies_iff (h : db'.user = db.user.map f)
    (hmay : ∀ u, (f u).mayAuthenticate = u.mayAuthenticate) (hpw : ∀ u, (f u).password = u.password)
    (hver : ∀ u, (f u).emailVerified = column loaded.emailVerified true u.emailVerified)
    (hno : ¬ db.Exposed) : ¬ db'.Exposed ↔ (loaded.emailVerified = false → ¬ db.Planted) := by
  rw [exposed_map h, planted_iff]
  simp only [hmay, hver, AppUser.knownTo, hpw]
  cases hl : loaded.emailVerified with
  | false => simp [column]
  | true =>
    have hcol : ∀ u : AppUser, column true true u.emailVerified = u.emailVerified :=
      fun _ => if_pos rfl
    simp only [hcol, reduceCtorEq, false_implies, iff_true]
    rwa [exposed_iff] at hno

theorem exposed_registered {verified : Bool} {token : Secret} {now : Instant}
    (h : db'.user = some (.registered pw verified token now)) :
    ¬ db'.Exposed ↔ (pw.of = .attacker → verified = true → False) := by
  simp only [Accounts.Exposed, h, AppUser.registered, AppUser.mayAuthenticate, AppUser.knownTo,
    Option.any_some]
  cases verified <;> simp

theorem ne_attacker {p : Party} (h : p = .owner) : p ≠ .attacker := by
  rw [h]
  decide

/-- **One move** leaves the attacker without a session, and without a password that opens one,
exactly when it is proper. -/
theorem move_iff (db : Accounts) (r : Request) (e : Env) (hr : Powerless r) (hno : ¬ db.Exposed)
    (hses : r.party = .attacker → r.pc ≠ .done true) :
    ¬ (service.move db r e).1.Exposed ∧
      ((service.move db r e).2.party = .attacker → (service.move db r e).2.pc ≠ .done true) ↔
      Proper db r e := by
  obtain ⟨p, pc⟩ := r
  simp only [service]
  cases pc with
  | called op =>
    refine ⟨fun _ => trivial, fun _ => ⟨hno, ?_⟩⟩
    rintro rfl hdone
    exact hno (exposed_of_read hdone)
  | inserting pw verified =>
    simp only [Accounts.move, Proper]
    split_ifs with hsome hver
    · simp [hno, hsome]
    · rw [and_iff_left (fun h => absurd h (ne_attacker (hr hver))), exposed_registered rfl]
      simp [hsome]
    · rw [and_iff_left (fun _ => by simp), exposed_registered rfl]
      simp [hver]
  | reviving pw verified =>
    simp only [Accounts.move, Proper]
    rw [and_iff_left (by intro _; split_ifs <;> simp)]
    cases hu : db.user with
    | none => simp [Accounts.Exposed]
    | some u =>
      rw [exposed_registered rfl]
      simp
  | overwriting pw =>
    simp only [Accounts.move, Proper]
    rw [and_iff_left (by simp), exposed_map rfl]
    cases db.user with
    | none => simp
    | some u =>
      simp only [AppUser.overwritten, AppUser.mayAuthenticate, AppUser.knownTo, Option.any_some]
      grind
  | verifying loaded =>
    simp only [Accounts.move, Proper]
    rw [and_iff_left (by simp)]
    exact verifies_iff rfl (fun _ => rfl) (fun _ => rfl) (fun _ => rfl) hno
  | loggingIn loaded =>
    simp only [Accounts.move, Proper]
    rw [and_iff_left (fun h => absurd h (ne_attacker hr))]
    exact verifies_iff rfl (fun _ => rfl) (fun _ => rfl) (fun _ => rfl) hno
  | confirming pw loaded =>
    simp only [Accounts.move, Proper]
    rw [and_iff_left (by simp), exposed_map rfl]
    obtain ⟨-, hl⟩ := hr
    cases db.user with
    | none => simp
    | some u =>
      simp only [AppUser.confirmed, AppUser.mayAuthenticate, AppUser.knownTo, hl, column,
        Option.any_some]
      grind
  | resetting token pw now =>
    simp only [Accounts.move, Proper, iff_true]
    split_ifs
    · refine ⟨?_, fun _ => by simp⟩
      rw [exposed_map rfl]
      rintro ⟨u, -, -, -, hknown⟩
      have hof : pw.of = .owner := hr
      simp [AppUser.knownTo, hof] at hknown
    · exact ⟨hno, fun _ => by simp⟩
  | storingOtp code =>
    simp only [Accounts.move, Proper, iff_true]
    refine ⟨?_, fun _ => by simp⟩
    rw [exposed_map rfl]
    rwa [exposed_iff] at hno
  | admitting | looking pw =>
    exact ⟨fun _ => trivial, fun _ => ⟨hno, fun h => absurd h (ne_attacker hr)⟩⟩
  | mailing token | mailingCode code =>
    refine ⟨fun _ => trivial, fun _ => ⟨?_, fun _ => by simp [Accounts.move]⟩⟩
    simp only [Accounts.move]
    split_ifs <;> exact hno
  | mailingOtp | requestingReset =>
    simp only [Accounts.move, Proper, iff_true]
    split_ifs <;> exact ⟨hno, fun _ => by simp⟩
  | caching pw | registering pw | storingReset token deleted =>
    exact ⟨fun _ => trivial, fun _ => ⟨hno, fun _ => by simp [Accounts.move]⟩⟩
  | done session => exact ⟨fun _ => trivial, fun _ => ⟨hno, hses⟩⟩

theorem keptOut_iff_inOrder (w : World Accounts Request) : KeptOut w ↔
    InOrder (fun db => ¬ db.Exposed) (fun _ r => r.party = .attacker → r.pc ≠ .done true) w := by
  constructor
  · exact fun h => ⟨noLogin_iff.mp h.noLogin, h.noSession⟩
  · exact fun h => ⟨noLogin_iff.mpr h.store, h.each⟩

/-- **Kept out throughout.** From any account, in every run of both parties' requests, the attacker
has no session and no password that opens one, in every state reached, exactly when it had none at
first and every move is proper. -/
theorem keptOut_iff (db : Accounts) (ls : List (Label (Party × Op) Env)) :
    (∀ pre, pre <+: ls → KeptOut (Run.exec Step (.start db) pre)) ↔
      KeptOut (.start db) ∧ Run.Meets Step (Allowed Proper) (.start db) ls := by
  by_cases hstart : KeptOut (.start db)
  · rw [and_iff_right hstart]
    simp only [keptOut_iff_inOrder]
    exact throughout_iff (S := service) (G := Powerless) (fun _ _ h => by cases h)
      (fun _ => trivial) powerless_move move_iff (fun _ hr => absurd hr List.not_mem_nil)
      ((keptOut_iff_inOrder _).mp hstart) ls
  · exact ⟨fun h => absurd (h [] List.nil_prefix) hstart, fun h => absurd h.1 hstart⟩

/-- A request that is called and makes its moves, up to three, at once. -/
def inOneGo (i : Nat) (p : Party) (op : Op) : List (Label (Party × Op) Env) :=
  [.call (p, op), .go i ⟨0, true⟩, .go i ⟨0, true⟩, .go i ⟨0, true⟩]

/-- Nobody has an account; the attacker registers one, the owner opens the link that arrives, and
the attacker logs in with its password. -/
theorem password_outlives_proof : ¬ ∀ (db : Accounts) (ls : List (Label (Party × Op) Env)),
    KeptOut (.start db) → ∀ r ∈ (Run.exec Step (.start db) ls).requests,
      r.party = .attacker → r.pc ≠ .done true := by
  intro h
  refine h ⟨none, none, [], 0, []⟩
    (inOneGo 0 .attacker (.register 7) ++ inOneGo 1 .owner (.verifyEmail 0) ++
      inOneGo 2 .attacker (.login 7)) ⟨fun n => by simp [World.start, Accounts.readLogin,
        Accounts.findByEmail], fun _ hr => absurd hr List.not_mem_nil⟩
    ⟨.attacker, .done true⟩ (by decide) rfl rfl

end Deltapreneur.Auth.Takeover
