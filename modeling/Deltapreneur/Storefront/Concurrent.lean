import Deltapreneur.Lib.Interleave
import Deltapreneur.Storefront.TransferIn

/-!
# The paths that provision an order, statement by statement

`provision_order`, the cart's verify (`cart_checkout_service.py:2409-2507`),
`verify_and_provision` and `complete_payment_from_webhook`
(`domain_registration_service.py:1720-1805, 2275-2684, 2899-3190`) as programs of database
sessions, with the positions of every `UPDATE`, reload and commit. The functions of `Provision`
and `Desk` say what such a call comes to when it is alone (`Alone`).

* The database is the row of the order. Neither path locks it before it writes; an `UPDATE` locks it
  until the transaction ends.
* A session holds its object and the row as it last read it. `save` is `flush` and `refresh`: it
  writes the columns that differ from what was read, and reads the row back. A reload drops what was
  not flushed.
* Names of other orders that hold an id, and the answers of the registrar, come with the call.
* The mail flags, the track record and the invoice numbers are columns and tables of their own.
* Every statement goes through: an exception is one of `provision_order` for a transfer, or one for
  a signature that is not valid.
-/

namespace Deltapreneur.Storefront.Concurrent

open Session Session.Prog
open Registration (RegistrationOrderStatus)

/-! ## The row -/

/-- The columns that an `UPDATE` sets. -/
structure Patch where
  status : Option RegistrationOrderStatus
  transferStatus : Option TransferStatus
  razorpayPaymentId : Option (Option PaymentId)
  openProviderHandle : Option (Option Handle)
  openProviderDomainId : Option (Option ProviderDomainId)
  provisionAttempts : Option Nat
  deriving Repr, DecidableEq

def Patch.empty : Patch := ⟨none, none, none, none, none, none⟩

def Patch.apply (p : Patch) (o : Order) : Order :=
  { o with
    status := p.status.getD o.status
    transferStatus := p.transferStatus.getD o.transferStatus
    razorpayPaymentId := p.razorpayPaymentId.getD o.razorpayPaymentId
    openProviderHandle := p.openProviderHandle.getD o.openProviderHandle
    openProviderDomainId := p.openProviderDomainId.getD o.openProviderDomainId
    provisionAttempts := p.provisionAttempts.getD o.provisionAttempts }

/-- One row, which every write locks. -/
def engine : Engine Order Patch Unit where
  apply := Patch.apply
  accepts _ _ := true
  locks _ := [()]

/-- A column is in the `UPDATE` if its value is not the one that was read. -/
def changed {α : Type} [DecidableEq α] (old new : α) : Option α :=
  if new = old then none else some new

/-- What `flush` writes. -/
def changes (h : Held) : Patch where
  status := changed h.row.status h.obj.status
  transferStatus := changed h.row.transferStatus h.obj.transferStatus
  razorpayPaymentId := changed h.row.razorpayPaymentId h.obj.razorpayPaymentId
  openProviderHandle := changed h.row.openProviderHandle h.obj.openProviderHandle
  openProviderDomainId := changed h.row.openProviderDomainId h.obj.openProviderDomainId
  provisionAttempts := changed h.row.provisionAttempts h.obj.provisionAttempts

/-! ## Statements -/

inductive Failure
  | statement (fault : Fault)
  /-- `provision_order` is called for a transfer. -/
  | runtimeError
  /-- The signature of a payment is not valid. -/
  | rejected
  deriving Repr, DecidableEq

abbrev Program := Prog Order Patch Unit Failure

/-- The object, and what was done outside the database. -/
abbrev Outcome := Held × List Event

/-- The row is read into the object: a first `SELECT`, or `refresh`. -/
def reload : Program Held := do
  let row ← query .statement
  return ⟨row, row⟩

def flush (h : Held) : Program Unit :=
  if changes h = .empty then pure () else exec .statement (changes h)

/-- `DomainRegistrationOrderRepository.save`. -/
def save (h : Held) : Program Held := do
  flush h
  reload

def commit : Program Unit := commitTx .statement

/-! ## `provision_order` -/

/-- `sync_from_registrar`. -/
def syncFromRegistrar (answer : Option Bool) (h : Held) : Program (Bool × Held) :=
  match h.obj.openProviderDomainId, answer with
  | some _, some true => do return (true, ← save (h.set Order.confirm))
  | some _, some false => do return (false, ← save h)
  | _, _ => pure (false, h)

/-- The handler of an exception. Between the reload and the `UPDATE` other sessions may commit. -/
def exceptionHandler (a : Answers) (h : Held) : Program Held := do
  let (confirmed, h) ← syncFromRegistrar a.syncFailed h
  if confirmed then save h
  else
    let h ← reload
    save (h.set (·.unlessInFlight .provisionFailed))

/-- `_maybe_reconcile_existing_provider_domain`. -/
def maybeReconcileExistingProviderDomain (others : Holders) (l : Lookup) (d : ProviderDomainId)
    (h : Held) : Option (Program Outcome) :=
  match (verifyProviderDomainBelongsToOrder h.obj d (others d) l.evidence).action with
  | .reconcile => some do
    let (_, h) ← syncFromRegistrar l.sync (h.set (·.submitted (some d)))
    return (← save h, [.link h.obj.id d])
  | .attention => some do return (← save (h.set Order.provisionFailed), [])
  | .skip => none

def lookUp (others : Holders) (a : Answers) (l : Lookup) (h : Held)
    (skipped absent : Held → Program Outcome) : Program Outcome :=
  match l.found with
  | .error _ => do return (← exceptionHandler a h, [])
  | .ok none => absent h
  | .ok (some d) =>
    match maybeReconcileExistingProviderDomain others l d h with
    | some result => result
    | none => skipped h

/-- The poll when the answer to `register_domain` reports success. -/
def syncRegistered (a : Answers) (h : Held) : Program (Bool × Held) :=
  if a.registered then syncFromRegistrar a.syncRegistered h else pure (false, h)

/-- The registrar has answered `register_domain`. -/
def applyRegistration (a : Answers) (h : Held) : Program Held := do
  let (confirmed, h) ← syncRegistered a
    (h.set fun o => o.submitted (a.register.told.or o.openProviderDomainId))
  if confirmed then save h
  else
    let (_, h) ← syncFromRegistrar a.syncSubmitted h
    save h

/-- The call of `register_domain`. -/
def registerDomain (a : Answers) (h : Held) : Program Outcome :=
  match a.register with
  | .accepted _ _ => do return (← applyRegistration a h, [.register h.obj a.register])
  | .lost _ _ => do return (← exceptionHandler a h, [.register h.obj a.register])
  | .rejected _ => do return (← exceptionHandler a h, [.register h.obj a.register])

def lookUpBeforeRegister (others : Holders) (a : Answers) (h : Held) : Program Outcome :=
  lookUp others a a.beforeRegister h
    (fun h => do return (← save (h.set Order.provisionFailed), [])) (registerDomain a)

def createCustomer (others : Holders) (a : Answers) (h : Held) : Program Outcome :=
  if h.obj.phoneValid = false then do return (← exceptionHandler a h, [])
  else match h.obj.openProviderHandle, a.customer with
    | some _, _ => lookUpBeforeRegister others a h
    | none, .ok (some handle) =>
      lookUpBeforeRegister others a (h.set fun o => { o with openProviderHandle := some handle })
    | none, _ => do return (← exceptionHandler a h, [])

/-- The domain is not free, and no record of it could be linked. -/
def unresolved (_ : Held) : Program Outcome := do
  let h ← reload
  return (← save (h.set (·.unlessInFlight .registrationPending)), [])

def notFree (others : Holders) (a : Answers) (h : Held) : Program Outcome :=
  if h.obj.paid then lookUp others a a.afterNotFree h unresolved unresolved
  else do return (← save (h.set Order.provisionFailed), [])

def checkDomain (others : Holders) (a : Answers) (h : Held) : Program Outcome :=
  match a.free with
  | .error _ => do return (← exceptionHandler a h, [])
  | .ok false => notFree others a h
  | .ok true => createCustomer others a h

def reconcileExisting (others : Holders) (a : Answers) (h : Held) : Program Outcome := do
  let (confirmed, h) ← syncFromRegistrar a.sync h
  if confirmed then return (← save h, [])
  else if h.obj.openProviderDomainId.isSome ∧ h.obj.status = .registrationPending then
    return (← save h, [])
  else lookUp others a a.beforeCheck h (checkDomain others a) (checkDomain others a)

/-- `provision_order`. -/
def provisionOrder (others : Holders) (a : Answers) (h : Held) : Program Outcome :=
  if h.obj.isTransfer then throw .runtimeError
  else if h.obj.status = .active then pure (h, [])
  else reconcileExisting others a
    (h.set fun o => { o with provisionAttempts := o.provisionAttempts + 1 })

/-! ## The paths -/

/-- `provision_order` with the `save` and the commit that the browser's paths append. -/
def provisionAndSave (others : Holders) (a : Answers) (h : Held) : Program (List Event) := do
  let (h, events) ← provisionOrder others a h
  let _ ← save h
  commit
  return events

/-- `_complete_domain_registration` on an order that exists. -/
def completeDomainRegistration (others : Holders) (a : Answers) (payment : PaymentId) :
    Program (List Event) := do
  let h ← reload
  let h ← save (h.set fun o => { o.paidBy payment with
    status := if o.status = .created ∨ o.status = .expired then .paymentCompleted else o.status })
  commit
  if h.obj.status = .active then return []
  else
    tryCatch (provisionAndSave others a h) fun _ => do
      reset
      let fresh ← reload
      if fresh.obj.alreadySucceeded then return []
      else
        let _ ← save (fresh.set Order.provisionFailed)
        commit
        return []

/-- The end of `verify_and_provision`. After the rollback the status is set without a reload. -/
def provisionAndCommit (others : Holders) (a : Answers) (h : Held) : Program (List Event) :=
  tryCatch (provisionAndSave others a h) fun _ => do
    reset
    exec .statement { Patch.empty with status := some .provisionFailed }
    let _ ← reload
    commit
    return []

/-- `verify_and_provision`: `valid` says whether the payload's signature is. -/
def verifyAndProvision (others : Holders) (a : Answers) (payment : PaymentId) (valid : Bool)
    (answer : Option Bool) : Program (List Event) := do
  let h ← reload
  if h.obj.status = .active then
    commit
    return []
  else if h.obj.status = .registrationPending then
    let (_, h) ← syncFromRegistrar answer h
    let _ ← save h
    commit
    return []
  else if h.obj.razorpayPaymentId = some payment then provisionAndCommit others a h
  else if valid = false then
    let _ ← save (h.set fun o => { o with status := .failed })
    commit
    throw .rejected
  else
    let h ← save (h.set fun o => { o.paidBy payment with status := .paymentCompleted })
    commit
    provisionAndCommit others a h

/-- What `complete_payment_from_webhook` does with an order that it has read. -/
def fulfil (others : Holders) (a : Answers) (payment : PaymentId) (answer : Option Bool)
    (h : Held) : Program (List Event) :=
  if h.obj.status = .active ∨ h.obj.status = .refunded then return []
  else if h.obj.razorpayPaymentId.isSome ∧ h.obj.razorpayPaymentId ≠ some payment then return []
  else if h.obj.transferStatus = .pending ∨
      (h.obj.status = .registrationPending ∧ h.obj.openProviderDomainId.isSome) then do
    let (_, h) ← syncFromRegistrar answer (h.set (·.paidBy payment))
    let _ ← save h
    return []
  else do
    let h ← save (h.set fun o => (o.paidBy payment).recovered)
    if h.obj.status = .paymentCompleted ∨ h.obj.status = .registrationPending then
      let (_, events) ← provisionOrder others a h
      return events
    else return []

/-- `complete_payment_from_webhook` for a payment that is not a transfer's. -/
def completePaymentFromWebhook (others : Holders) (a : Answers) (payment : PaymentId)
    (answer : Option Bool) : Program (List Event) := do
  let h ← reload
  let events ← fulfil others a payment answer h
  commit
  return events

/-- A run of one of the paths, with what the environment answers. -/
inductive Path
  | cartVerify (others : Holders) (a : Answers) (payment : PaymentId)
  | verify (others : Holders) (a : Answers) (payment : PaymentId) (valid : Bool)
    (answer : Option Bool)
  | webhook (others : Holders) (a : Answers) (payment : PaymentId) (answer : Option Bool)

def Path.program : Path → Program (List Event)
  | .cartVerify others a payment => completeDomainRegistration others a payment
  | .verify others a payment valid answer => verifyAndProvision others a payment valid answer
  | .webhook others a payment answer => completePaymentFromWebhook others a payment answer

/-- The names of other orders that hold an id. -/
def Path.others : Path → Holders
  | .cartVerify others _ _ => others
  | .verify others _ _ _ _ => others
  | .webhook others _ _ _ => others

/-- The registrar's answers during the run. -/
def Path.answers : Path → Answers
  | .cartVerify _ a _ => a
  | .verify _ a _ _ _ => a
  | .webhook _ a _ _ => a

end Deltapreneur.Storefront.Concurrent
