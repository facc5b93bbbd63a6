import Deltapreneur.Lib.Copies
import Deltapreneur.Storefront.Addons

/-!
# The add-on record of an order: lost updates

`dns_records_json` of a domain order holds the pending payment of an add-on, the records of all
add-ons and the DNSSEC flag. Every operation reads the whole JSON, waits for a provider, changes
its own keys in its copy and writes the whole JSON back
(`domain_registration_service.py:4303-6060`, `domain_registration_followup.py:356-527, 868-890`).

* `AddonsJson` is the JSON, `Key` its keys; `AddonsJson.get` reads one.
* Each change is an `Edit`, with the keys that it is about. The functions are programs on the copy
  of one session (`Copies`): `read` is `get_order`, `write` is `save`, and a second `get_order` in a
  session gives the copy back.
* The answers of the provider, the signatures and the checks of the input come with the operation.
  `sync_from_registrar` writes `last_registrar_sync_at`, so it locks the row before `sync_ssl_addon`
  reads the answer for the certificate; so do the lifecycle mails.
* Every statement goes through. Other columns, and what a response shows, are left out.

Results:

* `noLostUpdate_iff`: in every run, exactly when no commit reverts another operation's key.
* `toggle_reverts_payment`: DNSSEC is switched on while an add-on is paid, and the payment is gone.
-/

namespace Deltapreneur.Storefront.AddonRecord

open Copies

/-! ## The JSON -/

inductive Key
  | pendingAddon | mailboxes | mailboxPasswords | ssl | sslActive | sslExpiry | restore | easydmarc
  | spamexperts | dnssecEnabled
  deriving Repr, DecidableEq

/-- The status of a certificate, in upper case. -/
inductive SslStatus
  | act | exp | rej | fai
  | other (name : Nat)
  deriving Repr, DecidableEq

/-- The values of the record `ssl` that the provider's answer may replace. -/
structure SslFields where
  expiresAt : Option Nat
  productName : Option Nat
  commonName : Option Nat
  certificate : Option Nat
  intermediateCertificate : Option Nat
  rootCertificate : Option Nat
  additionalData : Option Nat
  approverEmail : Option Nat
  deriving Repr, DecidableEq

/-- The rest of the record `ssl`. -/
structure SslState where
  status : Option SslStatus
  active : Bool
  fields : SslFields
  lastSyncedAt : Instant
  deriving Repr, DecidableEq

/-- `dns_records_json`. -/
structure AddonsJson extends Addons where
  /-- The column is NULL, which reads as the empty JSON. -/
  null : Bool
  sslState : SslState
  /-- `ssl_active` and `ssl_expiry`, for older readers. -/
  sslActive : Option Bool
  sslExpiry : Option (Option Nat)
  /-- The key `mailbox_passwords` is there. -/
  mailboxPasswords : Bool
  /-- The record `easydmarc` has an `ssoUrl`. -/
  ssoUrl : Bool
  /-- The record `spamexperts` has `mxRecords`. -/
  mxRecords : Bool
  /-- `dnssec_enabled`. -/
  dnssecEnabled : Option Bool
  deriving Repr, DecidableEq

def Key.Value : Key → Type
  | .pendingAddon => Option PendingAddon
  | .mailboxes => List MailboxItem
  | .mailboxPasswords => Bool
  | .ssl => Option (Option Nat) × SslState
  | .sslActive => Option Bool
  | .sslExpiry => Option (Option Nat)
  | .restore => Option (Option ProviderDomainId)
  | .easydmarc => Option (Option Nat) × Bool
  | .spamexperts => Option SpamExpertsRecord × Bool
  | .dnssecEnabled => Option Bool

/-- `addons.get(key)`. -/
def AddonsJson.get : (k : Key) → AddonsJson → k.Value
  | .pendingAddon, d => d.pending
  | .mailboxes, d => d.mailboxes
  | .mailboxPasswords, d => d.mailboxPasswords
  | .ssl, d => (d.ssl, d.sslState)
  | .sslActive, d => d.sslActive
  | .sslExpiry, d => d.sslExpiry
  | .restore, d => d.restore
  | .easydmarc, d => (d.easydmarc, d.ssoUrl)
  | .spamexperts, d => (d.spamexperts, d.mxRecords)
  | .dnssecEnabled, d => d.dnssecEnabled

abbrev JsonEdit := Edit AddonsJson.get
abbrev JsonProg := Prog AddonsJson.get

/-! ## The changes -/

/-- What `_set_pending_addon_payment` writes. -/
def setPending (x : Addon) (r : OrderId) (amountInr : Paise) : JsonEdit where
  keys k := k = .pendingAddon
  change d := { d with null := false, pending := some ⟨x, r, amountInr, none⟩ }
  confined _ k hk := by cases k <;> first | rfl | exact absurd rfl hk

/-- `_mark_pending_addon_paid`. -/
def markPendingAddonPaid (payment : Option PaymentId) : JsonEdit where
  keys k := k = .pendingAddon
  change d := { d with
    null := false
    pending := d.pending.map fun q => { q with razorpayPaymentId := payment } }
  confined _ k hk := by cases k <;> first | rfl | exact absurd rfl hk

/-- `_finalize_pending_addon_after_success`. -/
def finalizePendingAddon (t : AddonType) : JsonEdit where
  keys k := k = .pendingAddon
  change d :=
    if d.pending.any (·.addon.type = t) then { d with null := false, pending := none } else d
  confined _ k hk := by split_ifs <;> cases k <;> first | rfl | exact absurd rfl hk

/-- The mailbox of `add_email_addon`. -/
def recordEmail (m : Mailbox) (opOrderId : Option Nat) : JsonEdit where
  keys k := k = .mailboxes ∨ k = .mailboxPasswords
  change d := { d with
    null := false
    mailboxes := recordMailbox m opOrderId d.mailboxes
    mailboxPasswords := false }
  confined _ k hk := by cases k <;> first | rfl | exact absurd (by simp) hk

/-- The certificate of `add_ssl_addon`. -/
def recordSsl (opOrderId : Option Nat) (state : SslState) : JsonEdit where
  keys k := k = .ssl ∨ k = .sslActive ∨ k = .sslExpiry
  change d := { d with
    null := false
    ssl := some opOrderId
    sslState := state
    sslActive := none
    sslExpiry := none }
  confined _ k hk := by cases k <;> first | rfl | exact absurd (by simp) hk

/-- What `get_ssl_order` answers. A field is there if the code takes it over. -/
structure SslAnswer where
  status : Option SslStatus
  fields : SslFields
  now : Instant
  deriving Repr, DecidableEq

/-- The fields of the answer, and the old ones where it has none. -/
def SslFields.update (new old : SslFields) : SslFields where
  expiresAt := new.expiresAt.or old.expiresAt
  productName := new.productName.or old.productName
  commonName := new.commonName.or old.commonName
  certificate := new.certificate.or old.certificate
  intermediateCertificate := new.intermediateCertificate.or old.intermediateCertificate
  rootCertificate := new.rootCertificate.or old.rootCertificate
  additionalData := new.additionalData.or old.additionalData
  approverEmail := new.approverEmail.or old.approverEmail

/-- The record `ssl` after `sync_ssl_addon`. -/
def SslAnswer.state (a : SslAnswer) (old : SslState) : SslState where
  status := a.status.or old.status
  active := a.status.or old.status = some .act
  fields := a.fields.update old.fields
  lastSyncedAt := a.now

/-- What `sync_ssl_addon` writes. -/
def refreshSsl (a : SslAnswer) : JsonEdit where
  keys k := k = .ssl ∨ k = .sslActive ∨ k = .sslExpiry
  change d := { d with
    null := false
    sslState := a.state d.sslState
    sslActive := some (a.state d.sslState).active
    sslExpiry := if (a.state d.sslState).active then some (a.state d.sslState).fields.expiresAt
      else d.sslExpiry }
  confined _ k hk := by cases k <;> first | rfl | exact absurd (by simp) hk

/-- The record of `add_restore_addon`. -/
def recordRestore (id : ProviderDomainId) : JsonEdit where
  keys k := k = .restore
  change d := { d with null := false, restore := some (some id) }
  confined _ k hk := by cases k <;> first | rfl | exact absurd rfl hk

/-- The record of `add_easydmarc_addon`. -/
def recordEasydmarc (opOrderId : Option Nat) (ssoUrl : Bool) : JsonEdit where
  keys k := k = .easydmarc
  change d := { d with null := false, easydmarc := some opOrderId, ssoUrl := ssoUrl }
  confined _ k hk := by cases k <;> first | rfl | exact absurd rfl hk

/-- The `ssoUrl` that a later `add_easydmarc_addon` fills in. -/
def fillSsoUrl : JsonEdit where
  keys k := k = .easydmarc
  change d := { d with null := false, ssoUrl := true }
  confined _ k hk := by cases k <;> first | rfl | exact absurd rfl hk

/-- The record of `add_spamexperts_addon`. -/
def recordSpamexperts (loginUrl providerData : Bool) : JsonEdit where
  keys k := k = .spamexperts
  change d := { d with
    null := false
    spamexperts := some ⟨loginUrl, providerData, true⟩
    mxRecords := true }
  confined _ k hk := by cases k <;> first | rfl | exact absurd rfl hk

/-- The `mxRecords` that a later `add_spamexperts_addon` fills in. -/
def fillMxRecords : JsonEdit where
  keys k := k = .spamexperts
  change d := { d with null := false, mxRecords := true }
  confined _ k hk := by cases k <;> first | rfl | exact absurd rfl hk

/-- What `toggle_dnssec` writes. -/
def setDnssec (enabled : Bool) : JsonEdit where
  keys k := k = .dnssecEnabled
  change d := { d with null := false, dnssecEnabled := some enabled }
  confined _ k hk := by cases k <;> first | rfl | exact absurd rfl hk

/-- What `update_mailbox_password` writes. -/
def dropMailboxPasswords : JsonEdit where
  keys k := k = .mailboxPasswords
  change d := { d with null := false, mailboxPasswords := false }
  confined _ k hk := by cases k <;> first | rfl | exact absurd rfl hk

/-! ## Payments -/

/-- One of `create_…_addon_payment_order`. `accepted` says that the order and the input pass, a
price is quoted and the gateway opens the order `r`. -/
def createAddonPaymentOrder (x : Addon) (accepted : Bool) (r : OrderId) (amountInr : Paise) :
    JsonProg Unit := do
  let order ← Prog.read
  if accepted = false ∨ setPendingAddonPayment x r amountInr order.toAddons = none then Prog.raise
  else do
    let _ ← Prog.write false (setPending x r amountInr)
    Prog.commitTx

/-- `_consume_verified_pending_addon`; `valid` is the signature. -/
def consumeVerifiedPendingAddon (t : AddonType) (payload : AddonPayload) (valid : Bool)
    (order : AddonsJson) : JsonProg (PendingAddon × AddonsJson) :=
  match order.pending with
  | none => Prog.raise
  | some q =>
    if q.razorpayOrderId ≠ payload.razorpayOrderId then Prog.raise
    else if q.addon.type ≠ t then Prog.raise
    else if q.razorpayPaymentId.isSome ∧
        (payload.razorpayPaymentId = none ∨ q.razorpayPaymentId = payload.razorpayPaymentId) then
      pure (q, order)
    else if valid = false then Prog.raise
    else do
      let order ← Prog.write false (markPendingAddonPaid payload.razorpayPaymentId)
      Prog.commitTx
      pure ({ q with razorpayPaymentId := payload.razorpayPaymentId }, order)

/-! ## Provisioning -/

/-- What the provider says during one provisioning, and whether the response is made. -/
structure ProvisionAnswers where
  addon : AddonAnswers
  /-- The rest of the new record `ssl`, and the answer of the synchronization after it. -/
  sslState : SslState
  sslAnswer : Option SslAnswer
  /-- `easydmarc_sso_url`. -/
  ssoUrl : Bool
  deriving Repr, DecidableEq

/-- Write, commit, and what comes after it. -/
def recorded (e : JsonEdit) (a : ProvisionAnswers) : JsonProg AddonsJson := do
  let order ← Prog.write false e
  Prog.commitTx
  if a.addon.detailed then pure order else Prog.raise

/-- An add-on that is there already: `missing` is what the record lacks. -/
def alreadyThere (missing : Option JsonEdit) (a : ProvisionAnswers) (order : AddonsJson) :
    JsonProg AddonsJson :=
  match missing with
  | some e => recorded e a
  | none => if a.addon.detailed then pure order else Prog.raise

/-- `add_email_addon`. -/
def addEmailAddon (c : AddonOrder) (mailbox : Option Mailbox) (a : ProvisionAnswers)
    (order : AddonsJson) : JsonProg AddonsJson :=
  match c.handle, mailbox with
  | true, some m =>
    if mailboxFound m order.mailboxes then alreadyThere none a order
    else if (mailcowCalls a.addon).2 then recorded (recordEmail m a.addon.created.join) a
    else Prog.raise
  | _, _ => Prog.raise

/-- `sync_ssl_addon`. -/
def syncSslAddon (answer : Option SslAnswer) (order : AddonsJson) : JsonProg AddonsJson :=
  if order.ssl.join = none then pure order
  else if order.sslState.status = some .exp ∨ order.sslState.status = some .rej ∨
      order.sslState.status = some .fai then pure order
  else if order.sslState.status = some .act ∧ order.sslState.fields.certificate.isSome then
    pure order
  else match answer with
    | none => pure order
    | some answer => Prog.write false (refreshSsl answer)

/-- `add_ssl_addon`. -/
def addSslAddon (c : AddonOrder) (a : ProvisionAnswers) : JsonProg AddonsJson :=
  if c.handle = false ∨ a.addon.prepared = false ∨ a.addon.created = none then Prog.raise
  else do
    let order ← Prog.write false (recordSsl a.addon.created.join a.sslState)
    Prog.commitTx
    let order ← syncSslAddon a.sslAnswer order
    Prog.commitTx
    if a.addon.detailed then pure order else Prog.raise

/-- `add_restore_addon`. -/
def addRestoreAddon (c : AddonOrder) (a : ProvisionAnswers) (order : AddonsJson) :
    JsonProg AddonsJson :=
  match c.openProviderDomainId with
  | none => Prog.raise
  | some id =>
    if order.restore.join.isSome then alreadyThere none a order
    else if a.addon.created.isSome then recorded (recordRestore id) a
    else Prog.raise

/-- `add_easydmarc_addon`. -/
def addEasydmarcAddon (c : AddonOrder) (a : ProvisionAnswers) (order : AddonsJson) :
    JsonProg AddonsJson :=
  if c.handle = false then Prog.raise
  else if order.easydmarc.join.isSome then
    alreadyThere (if order.ssoUrl = false ∧ a.ssoUrl then some fillSsoUrl else none) a order
  else if a.addon.created.isSome then recorded (recordEasydmarc a.addon.created.join a.ssoUrl) a
  else Prog.raise

/-- `add_spamexperts_addon`. -/
def addSpamexpertsAddon (a : ProvisionAnswers) (order : AddonsJson) : JsonProg AddonsJson :=
  if order.spamexperts.any (·.found) then
    alreadyThere (if order.mxRecords = false then some fillMxRecords else none) a order
  else if (spamExpertCalls a.addon).2 then
    recorded (recordSpamexperts (a.addon.loginUrl.getD false) a.addon.created.join.isSome) a
  else Prog.raise

/-- The `add_…_addon` of a type. -/
def addAddon (c : AddonOrder) (a : ProvisionAnswers) (order : AddonsJson) :
    Addon → JsonProg AddonsJson
  | .email mailbox => addEmailAddon c mailbox a order
  | .ssl => addSslAddon c a
  | .restore => addRestoreAddon c a order
  | .easydmarc => addEasydmarcAddon c a order
  | .spamexperts => addSpamexpertsAddon a order

/-- One of `verify_…_addon_payment`. -/
def verifyAddonPayment (c : AddonOrder) (t : AddonType) (payload : AddonPayload) (valid : Bool)
    (a : ProvisionAnswers) : JsonProg Unit := do
  let order ← Prog.read
  let (q, order) ← consumeVerifiedPendingAddon t payload valid order
  let _ ← addAddon c a order q.addon
  let _ ← Prog.write false (finalizePendingAddon t)
  Prog.commitTx

/-! ## Synchronization and DNSSEC -/

/-- `save` after another column was changed. -/
def touch : JsonProg AddonsJson := Prog.write true (Edit.nothing _)

/-- Other columns are saved, `n` times: the lifecycle mails, or a recovery's notes. -/
def touches : Nat → JsonProg Unit
  | 0 => pure ()
  | n + 1 => do
    let _ ← touch
    touches n

/-- `sync_from_registrar`: `reached` says that the registrar answers for the domain. -/
def syncFromRegistrar (reached : Bool) (ssl : Option SslAnswer) (order : AddonsJson) :
    JsonProg AddonsJson :=
  if reached then do
    let order ← touch
    syncSslAddon ssl order
  else pure order

/-- A page view (`get_enriched_order`) or a job that comes to the order: `run_pending_reconcile_batch`
and the recovery of stale ones. -/
def syncOrder (before after : Nat) (reached : Bool) (ssl : Option SslAnswer) : JsonProg Unit := do
  let order ← Prog.read
  touches before
  let _ ← syncFromRegistrar reached ssl order
  touches after
  Prog.commitTx

/-- `toggle_dnssec`. `stale` is the synchronization that precedes it where the nameservers of the
order are in doubt; `accepted` says that the checks and `update_dnssec` go through. -/
def toggleDnssec (stale : Option (Bool × Option SslAnswer)) (accepted enabled : Bool) :
    JsonProg Unit := do
  let order ← Prog.read
  match stale with
  | some (reached, ssl) => do
    let _ ← syncFromRegistrar reached ssl order
    Prog.commitTx
  | none => pure ()
  if accepted then do
    let _ ← Prog.write false (setDnssec enabled)
    Prog.commitTx
  else Prog.raise

/-- `update_mailbox_password`. -/
def updateMailboxPassword (accepted : Bool) : JsonProg Unit := do
  let _ ← Prog.read
  if accepted then do
    let _ ← Prog.write false dropMailboxPasswords
    Prog.commitTx
  else Prog.raise

/-! ## The property -/

/-- A request or a job, with what the outside says to it. -/
inductive Operation
  | create (x : Addon) (accepted : Bool) (r : OrderId) (amountInr : Paise)
  | verify (c : AddonOrder) (t : AddonType) (payload : AddonPayload) (valid : Bool)
      (a : ProvisionAnswers)
  | sync (before after : Nat) (reached : Bool) (ssl : Option SslAnswer)
  | toggleDnssec (stale : Option (Bool × Option SslAnswer)) (accepted enabled : Bool)
  | updateMailboxPassword (accepted : Bool)

def Operation.prog : Operation → JsonProg Unit
  | .create x accepted r amountInr => createAddonPaymentOrder x accepted r amountInr
  | .verify c t payload valid a => verifyAddonPayment c t payload valid a
  | .sync before after reached ssl => syncOrder before after reached ssl
  | .toggleDnssec stale accepted enabled => AddonRecord.toggleDnssec stale accepted enabled
  | .updateMailboxPassword accepted => AddonRecord.updateMailboxPassword accepted

/-- A page view or a job. -/
def Operation.IsSync : Operation → Prop
  | .sync _ _ _ _ => True
  | _ => False

theorem touches_sighted : ∀ n, (touches n).Sighted false
  | 0 => trivial
  | n + 1 => Prog.sighted_bind (fun _ => touches_sighted n)
      ⟨.inr fun _ => rfl, fun _ => trivial⟩

theorem syncSslAddon_sighted (answer : Option SslAnswer) (order : AddonsJson) :
    (syncSslAddon answer order).Sighted true := by
  unfold syncSslAddon
  split_ifs
  · trivial
  · trivial
  · trivial
  · cases answer with
    | none => trivial
    | some a => exact ⟨.inl rfl, fun _ => trivial⟩

theorem syncFromRegistrar_sighted (reached : Bool) (ssl : Option SslAnswer) (order : AddonsJson) :
    (syncFromRegistrar reached ssl order).Sighted false := by
  unfold syncFromRegistrar
  split_ifs
  · exact ⟨.inr fun _ => rfl, fun d => syncSslAddon_sighted ssl d⟩
  · trivial

/-- **A page view or a job** holds the row when it reads what it changes. -/
theorem sync_sighted (before after : Nat) (reached : Bool) (ssl : Option SslAnswer) :
    (syncOrder before after reached ssl).Sighted false := by
  refine Prog.sighted_bind (fun order => ?_) fun _ => trivial
  refine Prog.sighted_bind (fun _ => ?_) (touches_sighted before)
  refine Prog.sighted_bind (fun _ => ?_) (syncFromRegistrar_sighted reached ssl order)
  exact Prog.sighted_bind (fun _ => show Prog.commitTx.Sighted false from trivial)
    (touches_sighted after)

variable {ι : Type} [DecidableEq ι]

/-- The order before any of the operations begins. -/
def start (doc : AddonsJson) (ops : ι → Operation) : State AddonsJson.get ι Unit :=
  State.start doc fun i => (ops i).prog

/-- **No lost update in the add-on record.** In every run of any operations on one order, each
commit changes only the keys that its operation is about exactly if each commit of a payment, a
provisioning, a change of DNSSEC or of a mailbox password is made from a copy that still agrees
with the row on the other keys, or that was read while the row was held. -/
theorem noLostUpdate_iff (doc : AddonsJson) (ops : ι → Operation) (ls : List ι) :
    Run.AllSteps State.step State.Kept (start doc ops) ls ↔
      Run.Meets State.step (fun s i => ¬ (ops i).IsSync → s.Fresh i) (start doc ops) ls := by
  refine State.allSteps_kept_iff doc _ (fun i hi => ?_) ls
  cases hop : ops i with
  | sync before after reached ssl => exact sync_sighted before after reached ssl
  | create | verify | toggleDnssec | updateMailboxPassword =>
    rw [hop] at hi
    exact absurd hi id

/-! ## A run -/

section Run

/-- A certificate that waits for its payment. -/
def waiting : AddonsJson where
  null := false
  pending := some ⟨.ssl, 7, 100, none⟩
  mailboxes := []
  ssl := none
  restore := none
  easydmarc := none
  spamexperts := none
  sslState := ⟨none, false, ⟨none, none, none, none, none, none, none, none⟩, 0⟩
  sslActive := none
  sslExpiry := none
  mailboxPasswords := false
  ssoUrl := false
  mxRecords := false
  dnssecEnabled := none

/-- Session 0 switches DNSSEC on, session 1 verifies the payment 9. -/
def toggleAndVerify : Fin 2 → Operation
  | 0 => .toggleDnssec none true true
  | 1 => .verify ⟨true, none⟩ .ssl ⟨7, some 9⟩ true
    ⟨⟨true, true, true, some (some 5), none, true, true, true⟩, waiting.sslState, none, false⟩

/-- **A payment is lost.** The toggle reads the record, the payment is marked and committed, and the
toggle writes back what it had read. -/
theorem toggle_reverts_payment : ¬ Run.AllSteps State.step State.Kept
    (start waiting toggleAndVerify) [0, 1, 1, 1, 0, 0] := by
  intro h
  have hkept := (Run.allSteps_iff _ _).mp h [0, 1, 1, 1, 0] 0 [] rfl
  have hlost : AddonsJson.get .pendingAddon
        (State.step (Run.exec State.step (start waiting toggleAndVerify) [0, 1, 1, 1, 0]) 0).doc ≠
      AddonsJson.get .pendingAddon
        (Run.exec State.step (start waiting toggleAndVerify) [0, 1, 1, 1, 0]).doc := by
    intro heq
    exact absurd (congrArg (Option.map PendingAddon.razorpayPaymentId) heq) (by decide)
  obtain ⟨p, hp, hkey⟩ := hkept .pendingAddon hlost
  obtain rfl := Option.some.inj hp
  exact absurd hkey nofun

end Run

end Deltapreneur.Storefront.AddonRecord
