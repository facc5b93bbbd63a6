import Deltapreneur.Core
import Deltapreneur.Lib.Trim

/-!
# Sellers' payout profiles

`SellerPayoutProfileService` (`seller_payout_profile_service.py`): the one profile a seller keeps, with
a bank account or a UPI id.

* `Profile.isComplete`: what a payout asks of the profile.
* `Form.check`, `Form.fill`: the two halves of `upsert_profile`. A bank account whose number is not
  entered again keeps its number, or gets the one that an older release stored encrypted
  (`keptNumber`); a UPI id clears the bank account and the other way round.
* `Platform` has what is outside: the character tables of the language, the secrets' cipher, whose
  `encrypt` takes a nonce, and one setting. No law of the cipher is assumed here.
* Audit rows and the masked response are left out.

Results:

* `account_fill`: the account that a filled form stands for, field by field.
-/

namespace Deltapreneur.Payout

abbrev Text := List Char

abbrev ProfileId := Nat

structure Platform where
  /-- `str.isspace` of one character. -/
  isSpace : Char → Bool
  /-- `str.upper`. -/
  upper : Text → Text
  /-- `encrypt_secret`, with the token's nonce. -/
  encrypt : Nat → Text → Text
  /-- `decrypt_secret`; `none` is a `ValueError`. -/
  decrypt : Text → Option Text
  /-- `REQUIRE_TECHNOLOGY_VERIFICATION_BEFORE_PURCHASE`. -/
  requireVerification : Bool

inductive PayoutMethod
  | bankAccount | upi
  deriving Repr, DecidableEq

inductive SellerKycStatus
  | pending | submitted | verified | rejected
  deriving Repr, DecidableEq

/-- The columns of `SellerPayoutProfile`. -/
structure Profile where
  id : ProfileId
  userId : UserId
  payoutMethod : PayoutMethod
  accountHolderName : Option Text
  bankName : Option Text
  accountNumber : Option Text
  accountNumberLast4 : Option Text
  bankAccountNumberEncrypted : Option Text
  bankIfsc : Option Text
  upiIdEncrypted : Option Text
  kycStatus : SellerKycStatus
  kycDocumentStorageKey : Option Text
  beneficiaryValidatedAt : Option Time
  beneficiaryValidationRef : Option UserId
  isComplete : Bool
  deriving Repr, DecidableEq

/-- What a seller sends. -/
structure Form where
  payoutMethod : Text
  accountHolderName : Option Text
  bankName : Option Text
  bankAccountNumber : Option Text
  confirmBankAccountNumber : Option Text
  bankIfsc : Option Text
  upiId : Option Text
  deriving Repr, DecidableEq

/-! ## Patterns -/

def isUpper (c : Char) : Bool := 'A' ≤ c && c ≤ 'Z'

def isLetter (c : Char) : Bool := isUpper c || ('a' ≤ c && c ≤ 'z')

def isDigit (c : Char) : Bool := '0' ≤ c && c ≤ '9'

/-- `UPI_RE`. -/
def matchesUpi (t : Text) : Bool :=
  let name := t.takeWhile (· ≠ '@')
  let rest := t.dropWhile (· ≠ '@')
  let provider := rest.tail
  2 ≤ name.length && name.length ≤ 256 &&
    name.all (fun c => isLetter c || isDigit c || c ∈ ['.', '_', '-']) &&
    rest ≠ [] && 2 ≤ provider.length && provider.length ≤ 64 && provider.all isLetter

/-- `IFSC_RE`. -/
def matchesIfsc (t : Text) : Bool :=
  t.length = 11 && (t.take 4).all isUpper && t[4]? = some '0' &&
    (t.drop 5).all fun c => isUpper c || isDigit c

/-- `MASKED_VALUE_RE`: the longest run of masks leaves the shortest rest. -/
def matchesMasked (t : Text) : Bool :=
  let masks := t.takeWhile (· ∈ ['*', 'X', 'x'])
  let rest := t.dropWhile (· ∈ ['*', 'X', 'x'])
  masks ≠ [] && rest.length ≤ 6 && rest.all fun c => isLetter c || isDigit c

namespace Platform

variable (P : Platform)

/-! ## Reading a profile -/

/-- `t.strip()`. -/
def strip (t : Text) : Text := Trim.strip P.isSpace t

/-- `(value or "").strip()`. -/
def stripped (value : Option Text) : Text := P.strip (value.getD [])

/-- `text or None`. -/
def orNone (t : Text) : Option Text := if t = [] then none else some t

/-- `_decrypt_legacy_account_number`. -/
def decryptLegacyAccountNumber (profile : Profile) : Text :=
  let secret := profile.bankAccountNumberEncrypted.getD []
  if secret = [] then [] else (P.decrypt secret).elim [] P.strip

/-- `existing_account_number`: the number a seller need not enter again. -/
def existingAccountNumber : Option Profile → Text
  | none => []
  | some profile =>
    let number := P.stripped profile.accountNumber
    if number = [] then P.decryptLegacyAccountNumber profile else number

/-- `is_complete`. -/
def isComplete : Option Profile → Bool
  | none => false
  | some profile =>
    match profile.payoutMethod with
    | .upi => profile.upiIdEncrypted.getD [] ≠ []
    | .bankAccount =>
      P.stripped profile.accountHolderName ≠ [] && P.stripped profile.bankName ≠ [] &&
        P.stripped profile.accountNumber ≠ [] && P.stripped profile.bankIfsc ≠ []

/-! ## Writing one -/

/-- `_parse_payout_method`. -/
def parsePayoutMethod (value : Text) : Except AppException PayoutMethod :=
  let normalized := (P.upper (P.strip value)).map fun c => if c = '-' then '_' else c
  if normalized = "BANK_ACCOUNT".toList then .ok .bankAccount
  else if normalized = "UPI".toList then .ok .upi
  else raise "Invalid payout method." 400

/-- The checks of `upsert_profile`, for a seller whose account number is on file as `existing`. -/
def check (form : Form) (method : PayoutMethod) (existing : Text) : Except AppException Unit :=
  let incoming := P.stripped form.bankAccountNumber
  let confirm := P.stripped form.confirmBankAccountNumber
  match method with
  | .bankAccount =>
    if P.stripped form.accountHolderName = [] then raise "Account holder name is required." 400
    else if P.stripped form.bankName = [] then raise "Bank name is required." 400
    else if incoming = [] ∧ existing = [] then raise "Account number is required." 400
    else if incoming ≠ [] ∧ matchesMasked incoming = true then
      raise "Enter the full account number, not a masked value." 400
    else if incoming ≠ [] ∧ confirm = [] then raise "Confirm account number is required." 400
    else if incoming ≠ [] ∧ incoming ≠ confirm then raise "Account numbers do not match." 400
    else if P.stripped form.bankIfsc = [] then raise "IFSC code is required." 400
    else if matchesIfsc (P.upper (P.stripped form.bankIfsc)) = false then
      raise "Enter a valid IFSC code." 400
    else .ok ()
  | .upi =>
    if P.stripped form.upiId = [] then raise "UPI ID is required." 400
    else if matchesUpi (P.stripped form.upiId) = false then raise "Enter a valid UPI ID." 400
    else .ok ()

/-- The seller's profile, or a new one without bank account or UPI id. -/
def base (id : ProfileId) (user : UserId) (form : Form) (method : PayoutMethod) :
    Option Profile → Profile
  | some profile => { profile with payoutMethod := method, kycStatus := .submitted }
  | none =>
    { id, userId := user, payoutMethod := method
      accountHolderName := orNone (P.stripped form.accountHolderName)
      bankName := none, accountNumber := none, accountNumberLast4 := none
      bankAccountNumberEncrypted := none, bankIfsc := none, upiIdEncrypted := none
      kycStatus := .submitted, kycDocumentStorageKey := none, beneficiaryValidatedAt := none
      beneficiaryValidationRef := none, isComplete := false }

/-- `t[-4:]`. -/
def last4 (t : Text) : Text := t.drop (t.length - 4)

/-- The columns of the account number. -/
def number (incoming existing : Text) (nonce : Nat) (profile : Profile) : Profile :=
  if incoming ≠ [] then
    { profile with
      accountNumber := some incoming
      accountNumberLast4 := some (last4 incoming)
      bankAccountNumberEncrypted := some (P.encrypt nonce incoming) }
  else if existing ≠ [] ∧ profile.accountNumber.getD [] = [] then
    { profile with
      accountNumber := some existing
      accountNumberLast4 := some (last4 existing) }
  else profile

/-- The columns that `upsert_profile` sets, up to `is_complete`. -/
def fill (form : Form) (method : PayoutMethod) (existing : Text) (nonce : Nat)
    (profile : Profile) : Profile :=
  match method with
  | .bankAccount =>
    { P.number (P.stripped form.bankAccountNumber) existing nonce profile with
      accountHolderName := some (P.stripped form.accountHolderName)
      bankName := some (P.stripped form.bankName)
      bankIfsc := some (P.upper (P.stripped form.bankIfsc))
      upiIdEncrypted := none }
  | .upi =>
    { profile with
      accountHolderName := orNone (P.stripped form.accountHolderName)
      bankName := none
      accountNumber := none
      accountNumberLast4 := none
      upiIdEncrypted := some (P.encrypt nonce (P.stripped form.upiId))
      bankAccountNumberEncrypted := none
      bankIfsc := none }

/-- `upsert_profile` on the seller's profile. `id` is for a new row, and `upload` the answer of the
upload of a document, if the form has one. -/
def upsertProfile (user : UserId) (form : Form) (id : ProfileId) (nonce : Nat)
    (upload : Option (Except AppException Text)) (found : Option Profile) :
    Except AppException Profile :=
  match P.parsePayoutMethod form.payoutMethod with
  | .error e => .error e
  | .ok method =>
    let existing := P.existingAccountNumber found
    match P.check form method existing with
    | .error e => .error e
    | .ok () =>
      let filled := P.fill form method existing nonce (P.base id user form method found)
      let profile := { filled with isComplete := P.isComplete (some filled) }
      match upload with
      | none => .ok profile
      | some (.error e) => .error e
      | some (.ok url) => .ok { profile with kycDocumentStorageKey := some url }

/-- `admin_verify` on the seller's profile. -/
def adminVerify (admin : UserId) (now : Time) : Option Profile → Except AppException Profile
  | none => raise "Payout profile not found." 404
  | some profile => .ok
      { profile with
        kycStatus := .verified
        beneficiaryValidatedAt := some now
        beneficiaryValidationRef := some admin }

end Platform

/-! ## The account behind a profile -/

/-- Where money goes: what a payout snapshot records of the profile, apart from names. -/
structure Account where
  method : PayoutMethod
  accountNumber : Option Text
  ifsc : Option Text
  upiId : Option Text
  deriving Repr, DecidableEq

namespace Platform

variable (P : Platform)

/-- `decrypt_secret(upi_id_encrypted)`, or nothing. -/
def decryptUpi (profile : Profile) : Option Text :=
  if profile.upiIdEncrypted.getD [] = [] then none
  else P.decrypt (profile.upiIdEncrypted.getD [])

def account (profile : Profile) : Account where
  method := profile.payoutMethod
  accountNumber := orNone (P.stripped profile.accountNumber)
  ifsc := profile.bankIfsc
  upiId := P.decryptUpi profile

/-- The number that stays when none is entered: the one on file, else the legacy one. -/
def keptNumber : Option Profile → Text
  | none => []
  | some profile =>
    if profile.accountNumber.getD [] = [] then P.decryptLegacyAccountNumber profile
    else P.stripped profile.accountNumber

/-- The account that a form stands for, given the profile on file. -/
def submitted (form : Form) (nonce : Nat) (found : Option Profile) : PayoutMethod → Account
  | .bankAccount =>
    { method := .bankAccount
      accountNumber := orNone
        (if P.stripped form.bankAccountNumber ≠ [] then P.stripped form.bankAccountNumber
          else P.keptNumber found)
      ifsc := some (P.upper (P.stripped form.bankIfsc))
      upiId := none }
  | .upi =>
    { method := .upi
      accountNumber := none
      ifsc := none
      upiId :=
        let secret := P.encrypt nonce (P.stripped form.upiId)
        if secret = [] then none else P.decrypt secret }

variable {P} {user : UserId} {form : Form} {id : ProfileId} {method : PayoutMethod} {nonce : Nat}
  {upload : Option (Except AppException Text)} {found : Option Profile} {profile : Profile}

theorem strip_stripped (value : Option Text) : P.strip (P.stripped value) = P.stripped value :=
  Trim.strip_strip _

theorem strip_decryptLegacyAccountNumber (profile : Profile) :
    P.strip (P.decryptLegacyAccountNumber profile) = P.decryptLegacyAccountNumber profile := by
  simp only [decryptLegacyAccountNumber]
  split_ifs
  · exact Trim.strip_nil
  · cases P.decrypt (profile.bankAccountNumberEncrypted.getD []) with
    | none => exact Trim.strip_nil
    | some t => exact Trim.strip_strip t

@[simp] theorem number_payoutMethod (incoming existing : Text) :
    (P.number incoming existing nonce profile).payoutMethod = profile.payoutMethod := by
  unfold number
  split_ifs
  · rfl
  · rfl
  · rfl

/-- The cases are those of the number: entered, taken over from the encrypted column, or left as it
is on file. -/
theorem stripped_number (profile : Profile) (nonce : Nat) {incoming : Text}
    (hincoming : P.strip incoming = incoming) :
    P.stripped (P.number incoming (P.existingAccountNumber (some profile)) nonce
        profile).accountNumber =
      if incoming ≠ [] then incoming else P.keptNumber (some profile) := by
  unfold number
  split_ifs with hentered hlegacy
  · exact hincoming
  · -- no number is on file, so that the existing one is the legacy one
    have hempty : P.stripped profile.accountNumber = [] := by
      rw [stripped, hlegacy.2]
      exact Trim.strip_nil
    rw [keptNumber, if_pos hlegacy.2, existingAccountNumber, if_pos hempty]
    exact strip_decryptLegacyAccountNumber profile
  · by_cases hraw : profile.accountNumber.getD [] = []
    · have hempty : P.stripped profile.accountNumber = [] := by
        rw [stripped, hraw]
        exact Trim.strip_nil
      have hnone : P.decryptLegacyAccountNumber profile = [] := by
        by_contra hne
        refine hlegacy ⟨?_, hraw⟩
        rwa [existingAccountNumber, if_pos hempty]
      rw [keptNumber, if_pos hraw, hnone, hempty]
    · rw [keptNumber, if_neg hraw]

/-- What `upsert_profile` makes of the account is what the form stands for. -/
theorem account_fill (user : UserId) (id : ProfileId) :
    P.account (P.fill form method (P.existingAccountNumber found) nonce
      (P.base id user form method found)) = P.submitted form nonce found method := by
  have hexisting : P.existingAccountNumber found =
      P.existingAccountNumber (some (P.base id user form method found)) := by
    cases found <;> rfl
  have hkept : P.keptNumber found = P.keptNumber (some (P.base id user form method found)) := by
    cases found <;> rfl
  have hmethod : (P.base id user form method found).payoutMethod = method := by
    cases found <;> rfl
  cases method with
  | upi =>
    simp only [account, fill, submitted, decryptUpi, hmethod]
    rfl
  | bankAccount =>
    have hnumber := stripped_number (P.base id user form .bankAccount found) nonce
      (strip_stripped (P := P) form.bankAccountNumber)
    simp only [account, fill, submitted, hexisting, hkept, hnumber, number_payoutMethod, hmethod]
    rfl

theorem upsertProfile_ok (h : P.upsertProfile user form id nonce upload found = .ok profile) :
    ∃ method, P.parsePayoutMethod form.payoutMethod = .ok method ∧
      P.account profile = P.submitted form nonce found method := by
  unfold upsertProfile at h
  cases hmethod : P.parsePayoutMethod form.payoutMethod with
  | error e =>
    rw [hmethod] at h
    cases h
  | ok method =>
    refine ⟨method, rfl, ?_⟩
    rw [hmethod] at h
    cases hcheck : P.check form method (P.existingAccountNumber found) with
    | error e => simp only [hcheck, reduceCtorEq] at h
    | ok _ =>
      -- the columns set after the account are no part of it
      simp only [hcheck] at h
      rw [← account_fill user id]
      cases upload with
      | none =>
        cases h
        rfl
      | some answer =>
        cases answer with
        | error e => cases h
        | ok url =>
          cases h
          rfl

theorem adminVerify_ok {admin : UserId} {now : Time} {verified : Profile}
    (h : adminVerify admin now found = .ok verified) :
    ∃ profile, found = some profile ∧ P.account verified = P.account profile := by
  cases found with
  | none => cases h
  | some profile =>
    cases h
    exact ⟨profile, rfl, rfl⟩

end Platform

end Deltapreneur.Payout
