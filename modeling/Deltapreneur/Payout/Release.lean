import Deltapreneur.Payout.Profile
import Deltapreneur.Technology.SharedRefunds

/-!
# Approving and releasing payouts

`DomainTransferPayoutService` and `TechnologyTransferPayoutService` on the sellers' transactions,
software purchases and profiles. The checks on the transaction and on the purchase are those of
`Transfer.approvePayout`, `Transfer.releasePayout`, `SoftwareRefunds.approvePayout` and
`SoftwareRefunds.releasePayout`; here they find the profile in its table, and the snapshot and the
`SellerPayout` row are written.

* Both services look the seller's profile up at every call.
* Only the approval of a transaction keeps a snapshot of the profile.
* A call that raises leaves the tables as they are. Events of the transaction and notifications are
  left out; the unique index of `seller_payouts` on the purchase cannot be hit, since a purchase
  with a row is paid (`SoftwareRefunds.sound_step`).

Results:

* `approveDomain_ok`, `releaseDomain_iff`, `approveTechnology_ok`, `releaseTechnology_iff`:
  what each call asks and leaves.
-/

namespace Deltapreneur.Payout

open SoftwareRefunds (Purchase PurchaseId assertPayoutEligible)
open Technology (SoftwareListing)
open Transfer (Transaction incompleteProfile)

/-! ## Rows -/

/-- The `payout_snapshot_…` columns. -/
structure Snapshot where
  method : PayoutMethod
  accountHolder : Option Text
  bankName : Option Text
  ifsc : Option Text
  accountNumber : Option Text
  accountLast4 : Option Text
  upiId : Option Text
  capturedAt : Time
  source : String
  deriving Repr, DecidableEq

def Snapshot.account (s : Snapshot) : Account := ⟨s.method, s.accountNumber, s.ifsc, s.upiId⟩

structure DomainSale extends Transaction where
  sellerPayoutInr : ℚ
  payoutProfileId : Option ProfileId
  payoutApprovedBy : Option UserId
  sellerPaidAt : Option Time
  snapshot : Option Snapshot
  deriving DecidableEq

structure TechnologySale extends Purchase where
  software : Option SoftwareListing
  sellerPayoutInr : ℚ
  payoutApprovedBy : Option UserId
  deriving DecidableEq

inductive Payee
  | transaction (i : TxId)
  | purchase (i : PurchaseId)
  deriving Repr, DecidableEq

structure SellerPayout where
  payee : Payee
  payoutProfileId : ProfileId
  sellerId : UserId
  amountInr : ℚ
  methodUsed : Text
  /-- `none` stands for `manual-<id>`. -/
  referenceNumber : Option Text
  notes : Option Text
  releasedBy : UserId
  releasedAt : Time
  deriving DecidableEq

/-- What the admin enters, and the clock. -/
structure Order where
  admin : UserId
  payoutMethodUsed : Text
  transactionReferenceNumber : Option Text
  notes : Option Text
  now : Time
  deriving Repr, DecidableEq

/-! ## The services on their rows -/

namespace Platform

variable (P : Platform)

def capture (profile : Profile) (now : Time) : Snapshot where
  method := profile.payoutMethod
  accountHolder := profile.accountHolderName
  bankName := profile.bankName
  ifsc := profile.bankIfsc
  accountNumber := orNone (P.stripped profile.accountNumber)
  accountLast4 := profile.accountNumberLast4
  upiId := P.decryptUpi profile
  capturedAt := now
  source := "PAYOUT_APPROVAL"

/-- The row that both services add. -/
def payout (payee : Payee) (profile : Profile) (seller : UserId) (amount : ℚ) (order : Order) :
    SellerPayout where
  payee := payee
  payoutProfileId := profile.id
  sellerId := seller
  amountInr := amount
  methodUsed := order.payoutMethodUsed
  referenceNumber := orNone (P.stripped order.transactionReferenceNumber)
  notes := orNone (P.stripped order.notes)
  releasedBy := order.admin
  releasedAt := order.now

/-- `DomainTransferPayoutService.approve_payout`; `found` is the seller's profile. -/
def approveDomain (tx : DomainSale) (found : Option Profile) (admin : UserId) (now : Time) :
    Except AppException DomainSale :=
  match Transfer.approvePayout tx.toTransaction (P.isComplete found) now, found with
  | .error e, _ => .error e
  | .ok _, none => .error incompleteProfile
  | .ok approved, some profile => .ok
      { tx with
        toTransaction := approved
        payoutProfileId := some profile.id
        payoutApprovedBy := some admin
        snapshot := some (P.capture profile now) }

/-- `DomainTransferPayoutService.release_payout`. -/
def releaseDomain (i : TxId) (tx : DomainSale) (found : Option Profile) (order : Order) :
    Except AppException (DomainSale × SellerPayout) :=
  match Transfer.releasePayout tx.toTransaction (P.isComplete found), found with
  | .error e, _ => .error e
  | .ok _, none => .error incompleteProfile
  | .ok released, some profile => .ok
      ({ tx with
          toTransaction := released
          payoutProfileId := some profile.id
          sellerPaidAt := some order.now },
        P.payout (.transaction i) profile tx.sellerId tx.sellerPayoutInr order)

/-- The seller of a purchase, and what the service reads besides the row. -/
def context (sale : TechnologySale) (profiles : UserId → Option Profile) :
    SoftwareRefunds.PayoutContext where
  software := sale.software
  requireVerification := P.requireVerification
  profileComplete := P.isComplete ((sale.software.bind (·.listedByUserId)).bind profiles)

/-- `TechnologyTransferPayoutService.approve_payout`. -/
def approveTechnology (sale : TechnologySale) (profiles : UserId → Option Profile)
    (admin : UserId) : Except AppException TechnologySale :=
  match SoftwareRefunds.approvePayout sale.toPurchase (P.context sale profiles) with
  | .error e => .error e
  | .ok approved => .ok { sale with toPurchase := approved, payoutApprovedBy := some admin }

/-- `TechnologyTransferPayoutService.release_payout`. -/
def releaseTechnology (i : PurchaseId) (sale : TechnologySale)
    (profiles : UserId → Option Profile) (order : Order) :
    Except AppException (TechnologySale × SellerPayout) :=
  let seller := sale.software.bind (·.listedByUserId)
  match SoftwareRefunds.releasePayout sale.toPurchase (P.context sale profiles), seller,
      seller.bind profiles with
  | .ok released, some seller, some profile => .ok
      ({ sale with toPurchase := released },
        P.payout (.purchase i) profile seller sale.sellerPayoutInr order)
  | .error e, _, _ => .error e
  | .ok _, _, _ => .error incompleteProfile

variable {P} {tx tx' : DomainSale} {sale sale' : TechnologySale} {found : Option Profile}
  {profiles : UserId → Option Profile} {admin : UserId} {now : Time} {order : Order}
  {payout : SellerPayout}

theorem account_capture (profile : Profile) :
    (P.capture profile now).account = P.account profile := rfl

theorem exists_of_isComplete (h : P.isComplete found = true) : ∃ profile, found = some profile := by
  cases found with
  | none => cases h
  | some profile => exact ⟨profile, rfl⟩

theorem approveDomain_ok (h : P.approveDomain tx found admin now = .ok tx') :
    ∃ profile, found = some profile ∧ tx'.snapshot = some (P.capture profile now) ∧
      tx'.sellerId = tx.sellerId := by
  unfold approveDomain at h
  split at h
  · cases h
  · cases h
  · next approved profile happroved =>
    cases h
    obtain ⟨-, -, rfl⟩ := Transfer.approvePayout_ok happroved
    exact ⟨profile, rfl, rfl, rfl⟩

theorem releaseDomain_ok {i : TxId} (h : P.releaseDomain i tx found order = .ok (tx', payout)) :
    ∃ profile, found = some profile ∧ tx.transferStatus = .payoutApproved ∧
      tx'.transferStatus = .completed ∧ tx'.snapshot = tx.snapshot ∧ tx'.sellerId = tx.sellerId ∧
      payout = P.payout (.transaction i) profile tx.sellerId tx.sellerPayoutInr order := by
  unfold releaseDomain at h
  split at h
  · cases h
  · cases h
  · next released profile hreleased =>
    cases h
    obtain ⟨-, hstatus, rfl⟩ := Transfer.releasePayout_ok hreleased
    exact ⟨profile, rfl, hstatus, rfl, rfl, rfl, rfl⟩

theorem releaseDomain_iff (i : TxId) (order : Order) : (∃ r, P.releaseDomain i tx found order = .ok r) ↔
    tx.transferStatus = .payoutApproved ∧ tx.payoutApprovedAt ≠ none ∧ tx.escrowStatus = .held ∧
      P.isComplete found = true := by
  rw [← Transfer.releasePayout_iff]
  unfold releaseDomain
  constructor
  · rintro ⟨r, h⟩
    split at h
    · cases h
    · cases h
    · next released profile hreleased => exact ⟨released, hreleased⟩
  · rintro ⟨released, hreleased⟩
    obtain ⟨profile, rfl⟩ := exists_of_isComplete (Transfer.releasePayout_iff.mp ⟨_, hreleased⟩).2.2.2
    rw [hreleased]
    exact ⟨_, rfl⟩

theorem approveTechnology_ok (h : P.approveTechnology sale profiles admin = .ok sale') :
    sale'.software = sale.software := by
  unfold approveTechnology at h
  split at h
  · cases h
  · cases h
    rfl

theorem releaseTechnology_ok {i : PurchaseId}
    (h : P.releaseTechnology i sale profiles order = .ok (sale', payout)) :
    ∃ seller profile, sale.software.bind (·.listedByUserId) = some seller ∧
      profiles seller = some profile ∧ sale.payoutApproved = true ∧ sale.sellerPaid = false ∧
      sale'.sellerPaid = true ∧ sale'.software = sale.software ∧
      payout = P.payout (.purchase i) profile seller sale.sellerPayoutInr order := by
  simp only [releaseTechnology] at h
  split at h
  · next released seller profile hreleased hseller hprofile =>
    cases h
    have happroved := (SoftwareRefunds.releasePayout_iff.mp ⟨_, hreleased⟩).2.1
    obtain ⟨⟨hunpaid, -⟩, rfl⟩ := SoftwareRefunds.releasePayout_ok hreleased
    rw [hseller] at hprofile
    exact ⟨seller, profile, hseller, hprofile, happroved, hunpaid, rfl, rfl, rfl⟩
  · cases h
  · cases h

theorem releaseTechnology_iff (i : PurchaseId) (order : Order) :
    (∃ r, P.releaseTechnology i sale profiles order = .ok r) ↔
      assertPayoutEligible sale.toPurchase sale.software P.requireVerification = .ok () ∧
        sale.payoutApproved = true ∧ ∃ seller, sale.software.bind (·.listedByUserId) = some seller ∧
          P.isComplete (profiles seller) = true := by
  constructor
  · rintro ⟨r, h⟩
    simp only [releaseTechnology] at h
    split at h
    · next released seller profile hreleased hseller hprofile =>
      obtain ⟨heligible, happroved, -, hcomplete⟩ :=
        SoftwareRefunds.releasePayout_iff.mp ⟨_, hreleased⟩
      rw [context, hseller] at hcomplete
      exact ⟨heligible, happroved, seller, hseller, hcomplete⟩
    · cases h
    · cases h
  · rintro ⟨heligible, happroved, seller, hseller, hcomplete⟩
    have hcontext : (P.context sale profiles).profileComplete = true := by
      rw [context, hseller]
      exact hcomplete
    obtain ⟨released, hreleased⟩ := SoftwareRefunds.releasePayout_iff.mpr
      ⟨heligible, happroved, by rw [context, hseller]; rfl, hcontext⟩
    obtain ⟨profile, hprofile⟩ := exists_of_isComplete hcomplete
    simp only [releaseTechnology, hreleased, hseller, Option.bind_some, hprofile]
    exact ⟨_, rfl⟩

end Platform

/-! ## The tables -/

structure Desk where
  profiles : UserId → Option Profile
  nextProfile : ProfileId
  transactions : TxId → Option DomainSale
  purchases : PurchaseId → Option TechnologySale
  payouts : List SellerPayout

/-- The calls of admins and sellers. -/
inductive Event
  | approve (payee : Payee) (admin : UserId) (now : Time)
  | release (payee : Payee) (order : Order)
  | upsertProfile (user : UserId) (form : Form) (nonce : Nat)
      (upload : Option (Except AppException Text))
  | adminVerify (user admin : UserId) (now : Time)

namespace Desk

variable (d : Desk) (P : Platform)

def saveTransaction (i : TxId) (tx : DomainSale) : Desk :=
  { d with transactions := Function.update d.transactions i (some tx) }

def savePurchase (i : PurchaseId) (sale : TechnologySale) : Desk :=
  { d with purchases := Function.update d.purchases i (some sale) }

def saveProfile (user : UserId) (profile : Profile) : Desk :=
  { d with
    profiles := Function.update d.profiles user (some profile)
    nextProfile := d.nextProfile + 1 }

/-- `approve_payout` of either service. -/
def approve (admin : UserId) (now : Time) : Payee → Except AppException Desk
  | .transaction i =>
    match d.transactions i with
    | none => raise "Transfer transaction not found." 404
    | some tx => (P.approveDomain tx (d.profiles tx.sellerId) admin now).map (d.saveTransaction i)
  | .purchase i =>
    match d.purchases i with
    | none => raise "Software purchase transaction not found." 404
    | some sale => (P.approveTechnology sale d.profiles admin).map (d.savePurchase i)

/-- `release_payout` of either service, and the `SellerPayout` row it commits. -/
def release (order : Order) : Payee → Except AppException (Desk × SellerPayout)
  | .transaction i =>
    match d.transactions i with
    | none => raise "Transfer transaction not found." 404
    | some tx => (P.releaseDomain i tx (d.profiles tx.sellerId) order).map fun r =>
        ({ d.saveTransaction i r.1 with payouts := r.2 :: d.payouts }, r.2)
  | .purchase i =>
    match d.purchases i with
    | none => raise "Software purchase transaction not found." 404
    | some sale => (P.releaseTechnology i sale d.profiles order).map fun r =>
        ({ d.savePurchase i r.1 with payouts := r.2 :: d.payouts }, r.2)

/-- `upsert_profile`. -/
def upsertProfile (user : UserId) (form : Form) (nonce : Nat)
    (upload : Option (Except AppException Text)) : Except AppException Desk :=
  (P.upsertProfile user form d.nextProfile nonce upload (d.profiles user)).map (d.saveProfile user)

/-- `admin_verify`. -/
def adminVerify (user admin : UserId) (now : Time) : Except AppException Desk :=
  (Platform.adminVerify admin now (d.profiles user)).map (d.saveProfile user)

/-- The tables after a call; one that raises leaves them. -/
def committed (result : Except AppException Desk) : Desk :=
  match result with
  | .ok d' => d'
  | .error _ => d

end Desk

def Desk.step (P : Platform) (d : Desk) : Event → Desk
  | .approve payee admin now => d.committed (d.approve P admin now payee)
  | .release payee order => d.committed ((d.release P order payee).map Prod.fst)
  | .upsertProfile user form nonce upload =>
    d.committed (d.upsertProfile P user form nonce upload)
  | .adminVerify user admin now => d.committed (d.adminVerify user admin now)

end Deltapreneur.Payout
