import Deltapreneur.Storefront.Orders

/-!
# `provision_order`

Model of `DomainRegistrationService.provision_order`
(`app/service/domain/domain_registration_service.py:2275-2684`) with a configured registrar, one
definition for each stage of the function; a stage that returns early does not call the next one.

* `Answers` holds every answer of the registrar during one call, in the order of the calls.
* The object is flushed by `save` only. An exception before a flush takes the assignments back
  (`_refresh_order_row`), so `provision_attempts` and the customer's handle may be lost.
* Nothing here asks whether the order is paid before `register_domain` is called: `paid` decides
  about linking an existing domain, and about the status of an order whose domain is not free.

Results:

* `provisionOrder_does`: what a call does to the row and which calls it makes. The row that
  reaches `register_domain` has the status, the payment and the Razorpay order of the row given.
-/

namespace Deltapreneur.Storefront

open Registration (RegistrationOrderStatus RegistrationId)

/-! ## Definitions -/

/-- One lookup of the name, the evidence about the id it finds, and the poll after a link. -/
structure Lookup where
  found : Except Text (Option ProviderDomainId)
  evidence : Evidence
  sync : Option Bool

/-- The registrar's answers during one call. -/
structure Answers where
  /-- The poll of the id in the row. -/
  sync : Option Bool
  beforeCheck : Lookup
  /-- `check_domain`, read by `is_free`. -/
  free : Except Text Bool
  afterNotFree : Lookup
  /-- `create_customer`; a handle may be empty. -/
  customer : Except Text (Option Handle)
  beforeRegister : Lookup
  register : CallReply
  /-- The answer to `register_domain` reports success. -/
  registered : Bool
  syncRegistered : Option Bool
  syncSubmitted : Option Bool
  /-- The poll after an exception. -/
  syncFailed : Option Bool

/-- The name is unknown to the registrar. -/
def Lookup.absent : Lookup := ⟨.ok none, ⟨none, none⟩, none⟩

/-- The name is free, and the registrar registers it under the id; `confirmed` is what it says
when polled. -/
def Answers.registers (d : ProviderDomainId) (confirmed : Bool) : Answers where
  sync := none
  beforeCheck := .absent
  free := .ok true
  afterNotFree := .absent
  customer := .ok (some 0)
  beforeRegister := .absent
  register := .accepted d true
  registered := true
  syncRegistered := some confirmed
  syncSubmitted := some confirmed
  syncFailed := none

/-- The orders that hold an id. -/
abbrev Holders := ProviderDomainId → List RegistrationId

/-- What a call leaves: the row, and what it did outside. -/
abbrev Result := Order × List Event

/-- Submitted, unless it is active already. -/
def Order.submitted (o : Order) (d : Option ProviderDomainId) : Order :=
  { o with
    openProviderDomainId := d
    status := if o.status = .active then .active else .registrationPending }

def Order.provisionFailed (o : Order) : Order := { o with status := .provisionFailed }

/-- The reloaded row keeps a success that is in flight; otherwise it gets the status. -/
def Order.unlessInFlight (o : Order) (status : RegistrationOrderStatus) : Order :=
  if o.alreadySucceeded then o else { o with status }

/-- The handler of an exception in `provision_order` (2629-2668). -/
def exceptionHandler (a : Answers) (h : Held) : Order :=
  let (confirmed, h) := syncFromRegistrar a.syncFailed h
  if confirmed then h.obj else h.refresh.obj.unlessInFlight .provisionFailed

/-- `_maybe_reconcile_existing_provider_domain`. -/
def maybeReconcileExistingProviderDomain (others : Holders) (l : Lookup) (d : ProviderDomainId)
    (o : Order) : Option Result :=
  match (verifyProviderDomainBelongsToOrder o d (others d) l.evidence).action with
  | .reconcile => some ((o.submitted (some d)).sync l.sync, [.link o.id d])
  | .attention => some (o.provisionFailed, [])
  | .skip => none

/-- A lookup of the name: `skipped` continues with a domain that is not linked, `absent` with
none. -/
def lookUp (others : Holders) (a : Answers) (l : Lookup) (h : Held)
    (skipped absent : Held → Result) : Result :=
  match l.found with
  | .error _ => (exceptionHandler a h, [])
  | .ok none => absent h
  | .ok (some d) =>
    match maybeReconcileExistingProviderDomain others l d h.obj with
    | some result => result
    | none => skipped h

/-- The registrar has answered `register_domain`: the id is noted and the domain polled, at once
if the answer reports success, and once more unless that confirms it. -/
def applyRegistration (a : Answers) (h : Held) : Order :=
  let h := h.set fun o => o.submitted (a.register.told.or o.openProviderDomainId)
  let (confirmed, h) := if a.registered then syncFromRegistrar a.syncRegistered h else (false, h)
  if confirmed then h.obj else h.obj.sync a.syncSubmitted

/-- The call of `register_domain`. -/
def registerDomain (a : Answers) (h : Held) : Result :=
  match a.register with
  | .accepted _ _ => (applyRegistration a h, [.register h.obj a.register])
  | .lost _ _ => (exceptionHandler a h, [.register h.obj a.register])
  | .rejected _ => (exceptionHandler a h, [.register h.obj a.register])

/-- The lookup just before the registration. -/
def lookUpBeforeRegister (others : Holders) (a : Answers) (h : Held) : Result :=
  lookUp others a a.beforeRegister h (fun h => (h.obj.provisionFailed, [])) (registerDomain a)

/-- The customer's contact at the registrar. Without a handle the function takes the registrar for
unconfigured and raises. -/
def createCustomer (others : Holders) (a : Answers) (h : Held) : Result :=
  if h.obj.phoneValid = false then (exceptionHandler a h, [])
  else match h.obj.openProviderHandle, a.customer with
    | some _, _ => lookUpBeforeRegister others a h
    | none, .ok (some handle) =>
      lookUpBeforeRegister others a (h.set fun o => { o with openProviderHandle := some handle })
    | none, _ => (exceptionHandler a h, [])

def notFree (others : Holders) (a : Answers) (h : Held) : Result :=
  let unresolved (h : Held) : Result :=
    (h.refresh.obj.unlessInFlight .registrationPending, [])
  if h.obj.paid then lookUp others a a.afterNotFree h unresolved unresolved
  else (h.obj.provisionFailed, [])

/-- `check_domain`. -/
def checkDomain (others : Holders) (a : Answers) (h : Held) : Result :=
  match a.free with
  | .error _ => (exceptionHandler a h, [])
  | .ok false => notFree others a h
  | .ok true => createCustomer others a h

/-- An order that has an id is polled first. -/
def reconcileExisting (others : Holders) (a : Answers) (h : Held) : Result :=
  let (confirmed, h) := syncFromRegistrar a.sync h
  if confirmed then (h.obj, [])
  else if h.obj.openProviderDomainId.isSome ∧ h.obj.status = .registrationPending then (h.obj, [])
  else lookUp others a a.beforeCheck h (checkDomain others a) (checkDomain others a)

/-- `provision_order`: `none` is the `RuntimeError` for a transfer. -/
def provisionOrder (others : Holders) (a : Answers) (o : Order) : Option Result :=
  if o.isTransfer then none
  else if o.status = .active then some (o, [])
  else
    let counted := { o with provisionAttempts := o.provisionAttempts + 1 }
    some (reconcileExisting others a ⟨o, counted⟩)

/-! ## What a call does -/

/-- The row is the same except for the four columns a call may write. -/
def Alike (o o' : Order) : Prop :=
  o' = { o with
    status := o'.status
    openProviderHandle := o'.openProviderHandle
    openProviderDomainId := o'.openProviderDomainId
    provisionAttempts := o'.provisionAttempts }

/-- The object before anything is decided: the status and the id are those of the row. -/
def Undecided (o o' : Order) : Prop :=
  o' = { o with
    openProviderHandle := o'.openProviderHandle, provisionAttempts := o'.provisionAttempts }

/-- The three statuses a call leaves. -/
def Settled (s : RegistrationOrderStatus) : Prop :=
  s = .active ∨ s = .registrationPending ∨ s = .provisionFailed

/-- How the id comes about, with the calls made. -/
inductive Outcome (others : Holders) (a : Answers) (o o' : Order) : List Event → Prop
  /-- No call; the id stays. -/
  | kept (hid : o'.openProviderDomainId = o.openProviderDomainId) : Outcome others a o o' []
  /-- An existing domain is linked, which no other order holds. -/
  | linked (d : ProviderDomainId) (hpaid : o.paid = true) (hothers : others d = [])
      (hid : o'.openProviderDomainId = some d) : Outcome others a o o' [.link o.id d]
  /-- `register_domain` is called. -/
  | registered (called : Order) (hcalled : Undecided o called)
      (hid : o'.openProviderDomainId = a.register.told.or o.openProviderDomainId) :
      Outcome others a o o' [.register called a.register]

/-- What a call that is not skipped does. -/
structure Does (others : Holders) (a : Answers) (o : Order) (r : Result) : Prop where
  alike : Alike o r.1
  settled : Settled r.1.status
  outcome : Outcome others a o r.1 r.2

/-- The session's object and the flushed row, before anything is decided. -/
structure Held.Undecided (o : Order) (h : Held) : Prop where
  obj : Storefront.Undecided o h.obj
  row : Storefront.Undecided o h.row

variable {others : Holders} {a : Answers} {o o' x : Order} {h : Held} {d : ProviderDomainId}
  {l : Lookup} {answer : Option Bool} {s : RegistrationOrderStatus}

theorem Undecided.refl (o : Order) : Undecided o o := rfl

theorem Undecided.id (hx : Undecided o x) : x.id = o.id := by rw [hx]
theorem Undecided.paid (hx : Undecided o x) : x.paid = o.paid := by rw [hx]; rfl
theorem Undecided.isTransfer (hx : Undecided o x) : x.isTransfer = o.isTransfer := by rw [hx]; rfl
theorem Undecided.openProviderDomainId (hx : Undecided o x) :
    x.openProviderDomainId = o.openProviderDomainId := by rw [hx]

theorem Undecided.alike (hx : Undecided o x) : Alike o x := by
  unfold Alike Undecided at *
  rw [hx]

theorem Alike.write (hx : Alike o x) (hx' : Alike x o') : Alike o o' := by
  unfold Alike at *
  rw [hx', hx]

theorem alike_confirm (ht : x.isTransfer = false) : Alike x x.confirm := by
  have hnone : x.transferStatus = .none := by simpa [Order.isTransfer] using ht
  unfold Alike Order.confirm
  simp [ht, hnone]

theorem alike_submitted (d : Option ProviderDomainId) : Alike x (x.submitted d) := rfl

theorem alike_provisionFailed : Alike x x.provisionFailed := rfl

theorem settled_submitted (d : Option ProviderDomainId) : Settled (x.submitted d).status := by
  unfold Order.submitted Settled
  by_cases hs : x.status = .active <;> simp [hs]

theorem alike_unlessInFlight : Alike x (x.unlessInFlight s) := by
  unfold Order.unlessInFlight
  split_ifs <;> rfl

@[simp] theorem openProviderDomainId_unlessInFlight :
    (x.unlessInFlight s).openProviderDomainId = x.openProviderDomainId := by
  unfold Order.unlessInFlight
  split_ifs <;> rfl

theorem settled_unlessInFlight (hs : Settled s) : Settled (x.unlessInFlight s).status := by
  unfold Order.unlessInFlight
  split_ifs with hx
  · unfold Order.alreadySucceeded at hx
    rcases of_decide_eq_true hx with hx | hx
    · exact .inl hx
    · exact .inr (.inl hx)
  · exact hs

theorem Held.Undecided.set_handle (hh : h.Undecided o) (handle : Option Handle) :
    (h.set fun o => { o with openProviderHandle := handle }).Undecided o := by
  refine ⟨?_, hh.row⟩
  have hobj := hh.obj
  unfold Storefront.Undecided Held.set at *
  rw [hobj]

theorem Held.Undecided.sync (hh : h.Undecided o) (hc : (syncFromRegistrar answer h).1 = false) :
    ((syncFromRegistrar answer h).2).Undecided o := by
  rcases sync_cases answer h with ⟨-, -, heq⟩ | ⟨-, hobj, hrow⟩
  · rw [heq] at hc
    cases hc
  · refine ⟨by rw [hobj]; exact hh.obj, ?_⟩
    rcases hrow with hrow | hrow
    · rw [hrow]
      exact hh.row
    · rw [hrow]
      exact hh.obj

section stages

variable (ht : o.isTransfer = false)

include ht

theorem alike_sync (hx : Alike o x) : Alike o (x.sync answer) := by
  have hxt : x.isTransfer = false := by rw [hx]; exact ht
  rcases sync_cases_row x answer with heq | ⟨-, -, heq⟩
  · rw [heq]
    exact hx
  · rw [heq]
    exact hx.write (alike_confirm hxt)

omit ht in
theorem settled_sync (hx : Settled x.status) : Settled (x.sync answer).status := by
  rcases sync_cases_row x answer with heq | ⟨-, -, heq⟩
  · rwa [heq]
  · rw [heq]
    exact .inl rfl

omit ht in
@[simp] theorem openProviderDomainId_sync :
    (x.sync answer).openProviderDomainId = x.openProviderDomainId := by
  rcases sync_cases_row x answer with heq | ⟨-, -, heq⟩
  · rw [heq]
  · rw [heq]
    rfl

theorem exceptionHandler_does (hh : h.Undecided o) :
    Alike o (exceptionHandler a h) ∧ Settled (exceptionHandler a h).status ∧
      (exceptionHandler a h).openProviderDomainId = o.openProviderDomainId := by
  unfold exceptionHandler
  rcases sync_cases a.syncFailed h with ⟨-, -, heq⟩ | ⟨hc, -, -⟩
  · rw [heq]
    have hobjt : h.obj.isTransfer = false := by rw [hh.obj.isTransfer, ht]
    exact ⟨hh.obj.alike.write (alike_confirm hobjt), .inl rfl, hh.obj.openProviderDomainId⟩
  · have hrow := (hh.sync hc).row
    simp only [hc, Bool.false_eq_true, if_false]
    exact ⟨hrow.alike.write alike_unlessInFlight, settled_unlessInFlight (.inr (.inr rfl)),
      openProviderDomainId_unlessInFlight.trans hrow.openProviderDomainId⟩

theorem exceptionHandler_kept (hh : h.Undecided o) :
    Does others a o (exceptionHandler a h, []) := by
  obtain ⟨halike, hsettled, hid⟩ := exceptionHandler_does (a := a) ht hh
  exact ⟨halike, hsettled, .kept hid⟩

omit ht in
theorem provisionFailed_kept (hx : Undecided o x) : Does others a o (x.provisionFailed, []) :=
  ⟨hx.alike.write alike_provisionFailed, .inr (.inr rfl), .kept hx.openProviderDomainId⟩

theorem maybeReconcile_does {r : Result} (hx : Undecided o x)
    (h : maybeReconcileExistingProviderDomain others l d x = some r) : Does others a o r := by
  unfold maybeReconcileExistingProviderDomain at h
  split at h
  · next hdecision =>
    cases h
    obtain ⟨hpaid, hothers, -⟩ := belongs_reconcile hdecision
    have halike : Alike o (x.submitted (some d)) := hx.alike.write (alike_submitted _)
    refine ⟨alike_sync ht halike, settled_sync (settled_submitted _), ?_⟩
    rw [hx.id]
    exact .linked d (by rw [← hx.paid, hpaid]) hothers openProviderDomainId_sync
  · cases h
    exact provisionFailed_kept hx
  · cases h

theorem lookUp_does {skipped absent : Held → Result} (hh : h.Undecided o)
    (hskipped : Does others a o (skipped h)) (habsent : Does others a o (absent h)) :
    Does others a o (lookUp others a l h skipped absent) := by
  unfold lookUp
  split
  · exact exceptionHandler_kept ht hh
  · exact habsent
  · split
    · next result heq => exact maybeReconcile_does ht hh.obj heq
    · exact hskipped

omit ht in
theorem applyRegistration_eq (a : Answers) (h : Held) : ∃ first second,
    applyRegistration a h =
      ((h.obj.submitted (a.register.told.or h.obj.openProviderDomainId)).sync first).sync second := by
  unfold applyRegistration
  generalize hsub : (h.set fun o => o.submitted (a.register.told.or o.openProviderDomainId)) = g
  have hobj : g.obj = h.obj.submitted (a.register.told.or h.obj.openProviderDomainId) := by
    rw [← hsub]
    rfl
  have hnone : ∀ o : Order, o.sync none = o := fun o => if_neg (by simp)
  cases a.registered with
  | false => exact ⟨none, a.syncSubmitted, by simp [hobj, hnone]⟩
  | true =>
    by_cases hc : (syncFromRegistrar a.syncRegistered g).1 = true
    · exact ⟨a.syncRegistered, none, by simp [hc, hobj, hnone]⟩
    · exact ⟨a.syncRegistered, a.syncSubmitted, by simp [hc, hobj]⟩

theorem registerDomain_does (hh : h.Undecided o) : Does others a o (registerDomain a h) := by
  obtain ⟨halike, hsettled, hid⟩ := exceptionHandler_does (a := a) ht hh
  unfold registerDomain
  split
  · next id named hreply =>
    obtain ⟨first, second, heq⟩ := applyRegistration_eq a h
    have hsub : Alike o (h.obj.submitted (a.register.told.or h.obj.openProviderDomainId)) :=
      hh.obj.alike.write (alike_submitted _)
    rw [heq]
    refine ⟨alike_sync ht (alike_sync ht hsub), settled_sync (settled_sync (settled_submitted _)),
      .registered h.obj hh.obj ?_⟩
    rw [openProviderDomainId_sync, openProviderDomainId_sync, ← hh.obj.openProviderDomainId]
    rfl
  · next id err hreply =>
    exact ⟨halike, hsettled, .registered h.obj hh.obj (by rw [hid, hreply]; rfl)⟩
  · next err hreply =>
    exact ⟨halike, hsettled, .registered h.obj hh.obj (by rw [hid, hreply]; rfl)⟩

theorem lookUpBeforeRegister_does (hh : h.Undecided o) :
    Does others a o (lookUpBeforeRegister others a h) :=
  lookUp_does ht hh (provisionFailed_kept hh.obj) (registerDomain_does ht hh)

theorem createCustomer_does (hh : h.Undecided o) : Does others a o (createCustomer others a h) := by
  unfold createCustomer
  split_ifs
  · exact exceptionHandler_kept ht hh
  · split
    · exact lookUpBeforeRegister_does ht hh
    · exact lookUpBeforeRegister_does ht (hh.set_handle _)
    · exact exceptionHandler_kept ht hh

theorem notFree_does (hh : h.Undecided o) : Does others a o (notFree others a h) := by
  unfold notFree
  split_ifs with hpaid
  · have hunresolved : Does others a o (h.refresh.obj.unlessInFlight .registrationPending, []) :=
      ⟨hh.row.alike.write alike_unlessInFlight, settled_unlessInFlight (.inr (.inl rfl)),
        .kept (openProviderDomainId_unlessInFlight.trans hh.row.openProviderDomainId)⟩
    exact lookUp_does ht hh hunresolved hunresolved
  · exact provisionFailed_kept hh.obj

theorem checkDomain_does (hh : h.Undecided o) : Does others a o (checkDomain others a h) := by
  unfold checkDomain
  split
  · exact exceptionHandler_kept ht hh
  · exact notFree_does ht hh
  · exact createCustomer_does ht hh

theorem reconcileExisting_does (hh : h.Undecided o) :
    Does others a o (reconcileExisting others a h) := by
  unfold reconcileExisting
  rcases sync_cases a.sync h with ⟨-, -, heq⟩ | ⟨hc, -, -⟩
  · rw [heq]
    have hobjt : h.obj.isTransfer = false := by rw [hh.obj.isTransfer, ht]
    exact ⟨hh.obj.alike.write (alike_confirm hobjt), .inl rfl, .kept hh.obj.openProviderDomainId⟩
  · have hnext := hh.sync hc
    simp only [hc, Bool.false_eq_true, if_false]
    split_ifs with hpending
    · exact ⟨hnext.obj.alike, .inr (.inl hpending.2), .kept hnext.obj.openProviderDomainId⟩
    · exact lookUp_does ht hnext (checkDomain_does ht hnext) (checkDomain_does ht hnext)

end stages

/-- **What `provision_order` does.** It refuses transfers, leaves an active order alone, and
otherwise settles the order with one of the three outcomes. -/
theorem provisionOrder_does {r : Result} (h : provisionOrder others a o = some r) :
    o.isTransfer = false ∧
      ((o.status = .active ∧ r = (o, [])) ∨ (o.status ≠ .active ∧ Does others a o r)) := by
  unfold provisionOrder at h
  split_ifs at h with ht hs
  · exact ⟨by simpa using ht, .inl ⟨hs, (Option.some.inj h).symm⟩⟩
  · have ht' : o.isTransfer = false := by simpa using ht
    refine ⟨ht', .inr ⟨hs, ?_⟩⟩
    cases h
    exact reconcileExisting_does ht' ⟨rfl, Undecided.refl o⟩

end Deltapreneur.Storefront
