import Deltapreneur.Storefront.Orders
import Mathlib.Data.List.Count

/-!
# Add-ons: one provisioning for each payment

The add-ons of an active domain, `app/service/domain/domain_registration_service.py:4304-5082,
5513-6045`: a mailbox, a certificate, a restore, EasyDMARC and SpamExperts. All five share the
record `_pendingAddon` in the order's JSON; each has its own idempotency test on what an earlier
call of the provider left there, and the certificate has none.

* `Addons` is the JSON, as far as a test reads it. An `Addon` is what is bought, with its payload.
* `AddonAnswers` says for one verify which steps go through; the first one that does not raises, and
  the request falls back to its last commit.
* `provision` is the common body: the test, the provider's calls, the commit of the record.
* The log has the provider's calls that succeeded, with the payment they were made for. A mailbox
  takes two, `mailcow_create_order` and `mailcow_assign_mailbox`.
* Passwords, quotas, DNS values and prices are left out: no test reads them.

Results:

* `provisioned_once`: in every run whose requests are `Careful`, each captured payment leads to at
  most one successful call of each kind, and to exactly one once its record is gone.
* `provisioned_twice_or_never`: otherwise two certificates are ordered for one payment, and a second
  restore is paid for and never asked for.
-/

namespace Deltapreneur.Storefront

open Razorpay (Gateway)
open Run

/-! ## The JSON of the order -/

inductive AddonType
  | email | ssl | restore | easydmarc | spamexperts
  deriving Repr, DecidableEq

/-- The address of a mailbox in the order's domain. -/
abbrev Mailbox := Nat

/-- What is bought. The mailbox is missing if nothing stands before the `@`. -/
inductive Addon
  | email (mailbox : Option Mailbox)
  | ssl
  | restore
  | easydmarc
  | spamexperts
  deriving Repr, DecidableEq

def Addon.type : Addon → AddonType
  | .email _ => .email
  | .ssl => .ssl
  | .restore => .restore
  | .easydmarc => .easydmarc
  | .spamexperts => .spamexperts

/-- The record `_pendingAddon`. It has a payment id exactly if `paymentVerified` is set. -/
structure PendingAddon where
  addon : Addon
  razorpayOrderId : OrderId
  amountInr : Paise
  razorpayPaymentId : Option PaymentId
  deriving Repr, DecidableEq

/-- An item of `mailboxes`; older ones are plain strings. -/
structure MailboxItem where
  address : Mailbox
  opOrderId : Option Nat
  isText : Bool
  deriving Repr, DecidableEq

/-- The record `spamexperts`: which of the values that its test reads are there. -/
structure SpamExpertsRecord where
  loginUrl : Bool
  providerData : Bool
  active : Bool
  deriving Repr, DecidableEq

/-- `dns_records_json`. -/
structure Addons where
  pending : Option PendingAddon
  mailboxes : List MailboxItem
  /-- The `opOrderId` of the record `ssl`. -/
  ssl : Option (Option Nat)
  /-- The `opDomainId` of the record `restore`. -/
  restore : Option (Option ProviderDomainId)
  /-- The `opOrderId` of the record `easydmarc`. -/
  easydmarc : Option (Option Nat)
  spamexperts : Option SpamExpertsRecord
  deriving Repr, DecidableEq

/-- The columns of the order that the add-ons read: a contact at the registrar, and the domain's
id there. -/
structure AddonOrder where
  handle : Bool
  openProviderDomainId : Option ProviderDomainId
  deriving Repr, DecidableEq

/-! ## The provider -/

/-- A call of the provider that sets an add-on up. -/
inductive ProviderCall
  | mailcowCreateOrder | mailcowAssignMailbox | createSslOrder | restoreDomain | easydmarcCreate
  | spamExpertCreateDomain
  deriving Repr, DecidableEq

/-- The calls that make up one provisioning. -/
def AddonType.provisioning : AddonType → List ProviderCall
  | .email => [.mailcowCreateOrder, .mailcowAssignMailbox]
  | .ssl => [.createSslOrder]
  | .restore => [.restoreDomain]
  | .easydmarc => [.easydmarcCreate]
  | .spamexperts => [.spamExpertCreateDomain]

/-- Which steps of one verify go through. -/
structure AddonAnswers where
  /-- The commit of `paymentVerified`. -/
  marked : Bool
  /-- What comes before the provisioning: `mailcow_list_domains` and `mailcow_add_domain`, or
  `generate_ssl_csr`. -/
  prepared : Bool
  /-- `mailcow_create_order`. -/
  ordered : Bool
  /-- The last provisioning call, with the id in its answer. -/
  created : Option (Option Nat)
  /-- `spam_expert_generate_login_url`; the text may be empty. -/
  loginUrl : Option Bool
  /-- The commit of the add-on's record. -/
  recorded : Bool
  /-- What comes after it, `get_order_detail` at the end. -/
  detailed : Bool
  /-- The commit that clears the pending record. -/
  finalized : Bool
  deriving Repr, DecidableEq

/-- What a call of `add_…_addon` leaves, the provider's calls that succeeded, and whether it
returns. -/
structure Added where
  addons : Addons
  calls : List ProviderCall
  returns : Bool
  deriving Repr, DecidableEq

/-- The body that the five have in common: `calls` are the provider's calls that succeed, and
whether all of them do. -/
def provision (found : Bool) (calls : List ProviderCall × Bool) (record : Addons → Addons)
    (a : AddonAnswers) (j : Addons) : Added :=
  if found then ⟨j, [], a.detailed⟩
  else if calls.2 = false ∨ a.recorded = false then ⟨j, calls.1, false⟩
  else ⟨record j, calls.1, a.detailed⟩

/-- A call that is refused before anything is done. -/
def Added.refused (j : Addons) : Added := ⟨j, [], false⟩

def oneCall (call : ProviderCall) (created : Option (Option Nat)) : List ProviderCall × Bool :=
  if created.isSome then ([call], true) else ([], false)

/-! ## A mailbox -/

/-- The first item that is not a string and has the address; without an order id it is not taken
for a hit. -/
def mailboxFound (m : Mailbox) (items : List MailboxItem) : Bool :=
  match items.find? fun item => !item.isText && item.address == m with
  | some item => item.opOrderId.isSome
  | none => false

/-- The items with strings turned into records, the first of each address. -/
def normalizeMailboxes (seen : List Mailbox) : List MailboxItem → List MailboxItem
  | [] => []
  | item :: items =>
    if item.address ∈ seen then normalizeMailboxes seen items
    else { item with isText := false } :: normalizeMailboxes (item.address :: seen) items

/-- An address that is there already keeps its item. -/
def recordMailbox (m : Mailbox) (opOrderId : Option Nat) (items : List MailboxItem) :
    List MailboxItem :=
  let normalized := normalizeMailboxes [] items
  if m ∈ normalized.map (·.address) then normalized else normalized ++ [⟨m, opOrderId, false⟩]

def mailcowCalls (a : AddonAnswers) : List ProviderCall × Bool :=
  if a.prepared = false ∨ a.ordered = false then ([], false)
  else if a.created.isSome then ([.mailcowCreateOrder, .mailcowAssignMailbox], true)
  else ([.mailcowCreateOrder], false)

/-- `add_email_addon`. -/
def addEmailAddon (c : AddonOrder) (mailbox : Option Mailbox) (a : AddonAnswers) (j : Addons) :
    Added :=
  match c.handle, mailbox with
  | true, some m => provision (mailboxFound m j.mailboxes) (mailcowCalls a)
    (fun j => { j with mailboxes := recordMailbox m a.created.join j.mailboxes }) a j
  | _, _ => .refused j

/-! ## The other add-ons -/

/-- `add_ssl_addon`: there is no test. -/
def addSslAddon (c : AddonOrder) (a : AddonAnswers) (j : Addons) : Added :=
  if c.handle = false ∨ a.prepared = false then .refused j
  else provision false (oneCall .createSslOrder a.created)
    (fun j => { j with ssl := some a.created.join }) a j

/-- `add_restore_addon`. -/
def addRestoreAddon (c : AddonOrder) (a : AddonAnswers) (j : Addons) : Added :=
  match c.openProviderDomainId with
  | none => .refused j
  | some id => provision j.restore.join.isSome (oneCall .restoreDomain a.created)
    (fun j => { j with restore := some (some id) }) a j

/-- `add_easydmarc_addon`. -/
def addEasydmarcAddon (c : AddonOrder) (a : AddonAnswers) (j : Addons) : Added :=
  if c.handle = false then .refused j
  else provision j.easydmarc.join.isSome (oneCall .easydmarcCreate a.created)
    (fun j => { j with easydmarc := some a.created.join }) a j

/-- The test of `add_spamexperts_addon`. -/
def SpamExpertsRecord.found (r : SpamExpertsRecord) : Bool :=
  r.loginUrl || r.providerData || r.active

def spamExpertCalls (a : AddonAnswers) : List ProviderCall × Bool :=
  if a.created.isSome then ([.spamExpertCreateDomain], a.loginUrl.isSome) else ([], false)

/-- `add_spamexperts_addon`. -/
def addSpamexpertsAddon (a : AddonAnswers) (j : Addons) : Added :=
  provision (j.spamexperts.any (·.found)) (spamExpertCalls a)
    (fun j => { j with spamexperts := some ⟨a.loginUrl.getD false, a.created.join.isSome, true⟩ }) a j

/-! ## Paying -/

/-- The body of a verify. -/
structure AddonPayload where
  razorpayOrderId : OrderId
  razorpayPaymentId : Option PaymentId
  deriving Repr, DecidableEq

/-- `_set_pending_addon_payment`: a paid add-on is not replaced. -/
def setPendingAddonPayment (x : Addon) (r : OrderId) (amountInr : Paise) (j : Addons) :
    Option Addons :=
  if j.pending.any (·.razorpayPaymentId.isSome) then none
  else some { j with pending := some ⟨x, r, amountInr, none⟩ }

/-- `_consume_verified_pending_addon`; `valid` is the signature. -/
def consumeVerifiedPendingAddon (t : AddonType) (payload : AddonPayload) (valid : Bool)
    (a : AddonAnswers) (j : Addons) : Option (PendingAddon × Addons) :=
  match j.pending with
  | none => none
  | some q =>
    if q.razorpayOrderId ≠ payload.razorpayOrderId then none
    else if q.addon.type ≠ t then none
    else if q.razorpayPaymentId.isSome ∧
        (payload.razorpayPaymentId = none ∨ q.razorpayPaymentId = payload.razorpayPaymentId) then
      some (q, j)
    else if valid = false ∨ a.marked = false then none
    else
      let q := { q with razorpayPaymentId := payload.razorpayPaymentId }
      some (q, { j with pending := some q })

/-- `_finalize_pending_addon_after_success`. -/
def finalizePendingAddonAfterSuccess (t : AddonType) (j : Addons) : Addons :=
  if j.pending.any (·.addon.type = t) then { j with pending := none } else j

/-- What the five verifies have in common. -/
def verifyAddonPayment (t : AddonType) (add : Addon → Addons → Added) (payload : AddonPayload)
    (valid : Bool) (a : AddonAnswers) (j : Addons) :
    Addons × List (Option PaymentId × ProviderCall) :=
  match consumeVerifiedPendingAddon t payload valid a j with
  | none => (j, [])
  | some (q, j) =>
    let added := add q.addon j
    let calls := added.calls.map (q.razorpayPaymentId, ·)
    if added.returns ∧ a.finalized then (finalizePendingAddonAfterSuccess t added.addons, calls)
    else (added.addons, calls)

def Addon.mailbox : Addon → Option Mailbox
  | .email mailbox => mailbox
  | _ => none

def verifyEmailAddonPayment (c : AddonOrder) (payload : AddonPayload) (valid : Bool)
    (a : AddonAnswers) : Addons → Addons × List (Option PaymentId × ProviderCall) :=
  verifyAddonPayment .email (fun x => addEmailAddon c x.mailbox a) payload valid a

def verifySslAddonPayment (c : AddonOrder) (payload : AddonPayload) (valid : Bool)
    (a : AddonAnswers) : Addons → Addons × List (Option PaymentId × ProviderCall) :=
  verifyAddonPayment .ssl (fun _ => addSslAddon c a) payload valid a

def verifyRestoreAddonPayment (c : AddonOrder) (payload : AddonPayload) (valid : Bool)
    (a : AddonAnswers) : Addons → Addons × List (Option PaymentId × ProviderCall) :=
  verifyAddonPayment .restore (fun _ => addRestoreAddon c a) payload valid a

def verifyEasydmarcAddonPayment (c : AddonOrder) (payload : AddonPayload) (valid : Bool)
    (a : AddonAnswers) : Addons → Addons × List (Option PaymentId × ProviderCall) :=
  verifyAddonPayment .easydmarc (fun _ => addEasydmarcAddon c a) payload valid a

def verifySpamexpertsAddonPayment (payload : AddonPayload) (valid : Bool) (a : AddonAnswers) :
    Addons → Addons × List (Option PaymentId × ProviderCall) :=
  verifyAddonPayment .spamexperts (fun _ => addSpamexpertsAddon a) payload valid a

/-! ## Runs -/

/-- An order with its add-ons, the gateway, and the provider's calls that succeeded. The notes of a
Razorpay order name the add-on. -/
structure AddonDesk where
  order : AddonOrder
  addons : Addons
  gateway : Gateway AddonType
  log : List (Option PaymentId × ProviderCall)

inductive AddonOp
  /-- One of `create_…_addon_payment_order`: `accepted` says that the input passes and a price is
  quoted, `commits` that the last commit goes through. -/
  | create (x : Addon) (amountInr : Paise) (accepted commits : Bool)
  /-- The customer pays a Razorpay order. -/
  | pay (order : OrderId)
  | verify (t : AddonType) (payload : AddonPayload) (genuine : Bool) (a : AddonAnswers)

namespace AddonDesk

/-- What the five creates have in common; `eligible` is their check of the order. -/
def createAddonPaymentOrder (x : Addon) (eligible : Bool) (amountInr : Paise)
    (accepted commits : Bool) (w : AddonDesk) : AddonDesk :=
  if eligible = false ∨ accepted = false then w
  else match w.gateway.createOrder amountInr x.type with
    | none => w
    | some (r, gateway) =>
      match setPendingAddonPayment x r amountInr w.addons with
      | none => { w with gateway }
      | some addons => if commits then { w with gateway, addons } else { w with gateway }

def createEmailAddonPaymentOrder (mailbox : Option Mailbox) :=
  createAddonPaymentOrder (.email mailbox) true

def createSslAddonPaymentOrder (c : AddonOrder) := createAddonPaymentOrder .ssl c.handle

def createRestoreAddonPaymentOrder (c : AddonOrder) :=
  createAddonPaymentOrder .restore c.openProviderDomainId.isSome

def createEasydmarcAddonPaymentOrder := createAddonPaymentOrder .easydmarc true

def createSpamexpertsAddonPaymentOrder := createAddonPaymentOrder .spamexperts true

def create (w : AddonDesk) (amountInr : Paise) (accepted commits : Bool) : Addon → AddonDesk
  | .email mailbox => createEmailAddonPaymentOrder mailbox amountInr accepted commits w
  | .ssl => createSslAddonPaymentOrder w.order amountInr accepted commits w
  | .restore => createRestoreAddonPaymentOrder w.order amountInr accepted commits w
  | .easydmarc => createEasydmarcAddonPaymentOrder amountInr accepted commits w
  | .spamexperts => createSpamexpertsAddonPaymentOrder amountInr accepted commits w

/-- The signature of a payload. -/
def valid (w : AddonDesk) (payload : AddonPayload) (genuine : Bool) : Bool :=
  payload.razorpayPaymentId.any fun payment =>
    w.gateway.verifyPaymentSignature payload.razorpayOrderId payment genuine

def verify (w : AddonDesk) (payload : AddonPayload) (genuine : Bool) (a : AddonAnswers) :
    AddonType → Addons × List (Option PaymentId × ProviderCall)
  | .email => verifyEmailAddonPayment w.order payload (w.valid payload genuine) a w.addons
  | .ssl => verifySslAddonPayment w.order payload (w.valid payload genuine) a w.addons
  | .restore => verifyRestoreAddonPayment w.order payload (w.valid payload genuine) a w.addons
  | .easydmarc => verifyEasydmarcAddonPayment w.order payload (w.valid payload genuine) a w.addons
  | .spamexperts => verifySpamexpertsAddonPayment payload (w.valid payload genuine) a w.addons

def step (w : AddonDesk) : AddonOp → AddonDesk
  | .create x amountInr accepted commits => w.create amountInr accepted commits x
  | .pay order => { w with gateway := w.gateway.capture order }
  | .verify t payload genuine a =>
    { w with
      addons := (w.verify payload genuine a t).1
      log := w.log ++ (w.verify payload genuine a t).2 }

/-- No add-on was paid for through this flow; the JSON may hold records. -/
def Starts (w : AddonDesk) : Prop :=
  w.addons.pending = none ∧ w.gateway = .empty ∧ w.log = []

/-- **Each captured payment leads to at most one successful provisioning call, and to exactly one
once its record is gone.** For a mailbox that is so for either of the two calls. -/
def ExactlyOnce (w : AddonDesk) : Prop :=
  ∀ o ∈ w.gateway.orders, ∀ payment, (o.id, payment) ∈ w.gateway.captured →
    ∀ call ∈ o.notes.provisioning, w.log.count (some payment, call) ≤ 1 ∧
      ((∀ q ∈ w.addons.pending, q.razorpayOrderId ≠ o.id) → w.log.count (some payment, call) = 1)

end AddonDesk

/-! ## The condition -/

/-- The add-on's test takes a record of the JSON for this purchase. -/
def Addon.found (j : Addons) : Addon → Bool
  | .email mailbox => mailbox.any fun m => mailboxFound m j.mailboxes
  | .ssl => false
  | .restore => j.restore.join.isSome
  | .easydmarc => j.easydmarc.join.isSome
  | .spamexperts => j.spamexperts.any (·.found)

/-- The provider's calls of one provisioning that go through, and whether all do. -/
def Addon.calls (a : AddonAnswers) : Addon → List ProviderCall × Bool
  | .email _ => mailcowCalls a
  | .ssl => if a.prepared then oneCall .createSslOrder a.created else ([], false)
  | .restore => oneCall .restoreDomain a.created
  | .easydmarc => oneCall .easydmarcCreate a.created
  | .spamexperts => spamExpertCalls a

/-- The test will take the record that is made from this answer: the answer has an id, where the
test reads it, and for a mailbox no other item has the address. -/
def Addon.recognized (j : Addons) (created : Option (Option Nat)) : Addon → Bool
  | .email mailbox => created.join.isSome ∧ ∀ m ∈ mailbox, m ∉ j.mailboxes.map (·.address)
  | .ssl => false
  | .restore => true
  | .easydmarc => created.join.isSome
  | .spamexperts => true

/-- A verify that starts to provision either gets no call through, or all of them, and then it
leaves a record that the test will take, or it clears the pending record. -/
def AddonAnswers.Resumable (a : AddonAnswers) (j : Addons) (x : Addon) : Prop :=
  x.found j = true ∨ (x.calls a).1 = [] ∨
    ((x.calls a).2 = true ∧ a.recorded = true ∧
      (x.recognized j a.created = true ∨ (a.detailed = true ∧ a.finalized = true)))

/-- Nobody buys an add-on for which the JSON has a record or while the one before is paid; nobody
pays another Razorpay order than the pending one, or that one twice; and every verify is
resumable. -/
def AddonDesk.Careful (w : AddonDesk) : AddonOp → Prop
  | .create x _ _ _ => w.addons.pending.any (·.razorpayPaymentId.isSome) = false →
    x.found w.addons = false ∧
      ∀ q ∈ w.addons.pending, ∀ c ∈ w.gateway.captured, c.1 ≠ q.razorpayOrderId
  | .pay order => (∃ q ∈ w.addons.pending, q.razorpayOrderId = order) ∧
    ∀ c ∈ w.gateway.captured, c.1 ≠ order
  | .verify _ _ _ a => ∀ q ∈ w.addons.pending, a.Resumable w.addons q.addon

instance (a : AddonAnswers) (j : Addons) (x : Addon) : Decidable (a.Resumable j x) :=
  inferInstanceAs (Decidable (_ ∨ _ ∨ _))

instance (w : AddonDesk) : (op : AddonOp) → Decidable (w.Careful op)
  | .create _ _ _ _ => inferInstanceAs (Decidable (_ → _))
  | .pay _ => inferInstanceAs (Decidable (_ ∧ _))
  | .verify _ _ _ _ => inferInstanceAs (Decidable (∀ q ∈ _, _))

/-! ## What a verify does -/

variable {c : AddonOrder} {a : AddonAnswers} {j : Addons} {x : Addon} {t : AddonType}
  {payload : AddonPayload} {valid genuine : Bool} {w : AddonDesk}

/-- The call of the add-on that is bought. -/
def Addon.add (c : AddonOrder) (a : AddonAnswers) (j : Addons) : Addon → Added
  | .email mailbox => addEmailAddon c mailbox a j
  | .ssl => addSslAddon c a j
  | .restore => addRestoreAddon c a j
  | .easydmarc => addEasydmarcAddon c a j
  | .spamexperts => addSpamexpertsAddon a j

@[simp] theorem found_pending (q : Option PendingAddon) :
    x.found { j with pending := q } = x.found j := by
  cases x <;> rfl

@[simp] theorem recognized_pending (q : Option PendingAddon) :
    x.recognized { j with pending := q } a.created = x.recognized j a.created := by
  cases x <;> rfl

theorem oneCall_provisioning {call : ProviderCall} {created : Option (Option Nat)}
    (h : (oneCall call created).2 = true) : (oneCall call created).1 = [call] := by
  unfold oneCall at *
  split_ifs at h ⊢
  rfl

theorem calls_eq_provisioning (h : (x.calls a).2 = true) : (x.calls a).1 = x.type.provisioning := by
  cases x with
  | email mailbox =>
    simp only [Addon.calls, mailcowCalls] at h ⊢
    split_ifs at h ⊢
    rfl
  | ssl =>
    simp only [Addon.calls] at h ⊢
    split_ifs at h ⊢
    exact oneCall_provisioning h
  | restore => exact oneCall_provisioning h
  | easydmarc => exact oneCall_provisioning h
  | spamexperts =>
    simp only [Addon.calls, spamExpertCalls] at h ⊢
    split_ifs at h ⊢
    rfl

/-! ### The items of a mailbox -/

theorem address_mem_normalize {m : Mailbox} : ∀ {items : List MailboxItem} {seen : List Mailbox},
    m ∈ (normalizeMailboxes seen items).map (·.address) → m ∈ items.map (·.address)
  | [], _, h => h
  | item :: items, seen, h => by
    unfold normalizeMailboxes at h
    split_ifs at h
    · exact List.mem_cons_of_mem _ (address_mem_normalize h)
    · rcases List.mem_cons.mp h with rfl | h
      · exact List.mem_cons_self
      · exact List.mem_cons_of_mem _ (address_mem_normalize h)

theorem mailboxFound_record {m : Mailbox} {items : List MailboxItem} {id : Option Nat}
    (hm : m ∉ items.map (·.address)) (hid : id.isSome = true) :
    mailboxFound m (recordMailbox m id items) = true := by
  have hnew : m ∉ (normalizeMailboxes [] items).map (·.address) := fun h =>
    hm (address_mem_normalize h)
  have hnone : (normalizeMailboxes [] items).find?
      (fun item => !item.isText && item.address == m) = none := by
    rw [List.find?_eq_none]
    intro item hitem hfound
    simp only [Bool.and_eq_true, beq_iff_eq] at hfound
    exact hnew (List.mem_map.mpr ⟨item, hitem, hfound.2⟩)
  unfold mailboxFound recordMailbox
  rw [if_neg hnew, List.find?_append, hnone]
  simpa using hid

/-! ### One call of an add-on -/

/-- What a call of an add-on does. -/
inductive Adds (a : AddonAnswers) (j : Addons) (x : Addon) : Added → Prop
  /-- Nothing; if it returns, the purchase is found. -/
  | nothing (returns : Bool) (hhit : returns = true → x.found j = true) :
      Adds a j x ⟨j, [], returns⟩
  /-- It fails, with some calls made and no record. -/
  | failed (hmiss : x.found j = false) (hfails : (x.calls a).2 = false ∨ a.recorded = false) :
      Adds a j x ⟨j, (x.calls a).1, false⟩
  /-- All calls are made, and a record. -/
  | recorded (j' : Addons) (hmiss : x.found j = false) (hall : (x.calls a).2 = true)
      (hpending : j'.pending = j.pending)
      (hfound : x.recognized j a.created = true → x.found j' = true) :
      Adds a j x ⟨j', (x.calls a).1, a.detailed⟩

theorem adds_refused : Adds a j x (.refused j) := .nothing false fun h => absurd h (by simp)

theorem adds_provision (record : Addons → Addons) (hpending : (record j).pending = j.pending)
    (hfound : x.recognized j a.created = true → x.found (record j) = true) :
    Adds a j x (provision (x.found j) (x.calls a) record a j) := by
  unfold provision
  split_ifs with hhit hfails
  · exact .nothing a.detailed fun _ => hhit
  · exact .failed (by simpa using hhit) hfails
  · exact .recorded (record j) (by simpa using hhit) (by simpa using (not_or.mp hfails).1) hpending
      hfound

/-- **Each of the five.** -/
theorem add_adds (c : AddonOrder) (a : AddonAnswers) (j : Addons) (x : Addon) :
    Adds a j x (x.add c a j) := by
  cases x with
  | email mailbox =>
    simp only [Addon.add, addEmailAddon]
    split
    · next m hhandle =>
      refine adds_provision (x := .email (some m)) _ rfl fun hrec => ?_
      simp only [Addon.recognized, decide_eq_true_eq] at hrec
      exact mailboxFound_record (hrec.2 m rfl) hrec.1
    · exact adds_refused
  | ssl =>
    simp only [Addon.add, addSslAddon]
    split_ifs with hready
    · exact adds_refused
    · have hcalls : oneCall .createSslOrder a.created = Addon.calls a .ssl := by
        have hprepared : a.prepared = true := by simpa using (not_or.mp hready).2
        simp [Addon.calls, hprepared]
      rw [hcalls]
      exact adds_provision (x := .ssl) _ rfl fun hrec => absurd hrec (by simp [Addon.recognized])
  | restore =>
    simp only [Addon.add, addRestoreAddon]
    split
    · exact adds_refused
    · next id hid =>
      exact adds_provision (x := .restore) (fun j => { j with restore := some (some id) }) rfl
        fun _ => rfl
  | easydmarc =>
    simp only [Addon.add, addEasydmarcAddon]
    split_ifs
    · exact adds_refused
    · exact adds_provision (x := .easydmarc)
        (fun j => { j with easydmarc := some a.created.join }) rfl id
  | spamexperts =>
    refine adds_provision (x := .spamexperts)
      (fun j => { j with
        spamexperts := some ⟨a.loginUrl.getD false, a.created.join.isSome, true⟩ }) rfl fun _ => ?_
    simp [Addon.found, SpamExpertsRecord.found]

/-! ### One verify -/

/-- What a verify does. -/
inductive Verifies (payload : AddonPayload) (valid : Bool) (a : AddonAnswers) (j : Addons) :
    Addons × List (Option PaymentId × ProviderCall) → Prop
  /-- It is refused. -/
  | refused : Verifies payload valid a j (j, [])
  /-- The payment is recorded, and the add-on called. -/
  | paid (q : PendingAddon) (payment : PaymentId) (hq : j.pending = some q)
      (horder : q.razorpayOrderId = payload.razorpayOrderId)
      (hpaid : q.razorpayPaymentId = some payment ∨
        (valid = true ∧ payload.razorpayPaymentId = some payment))
      (added : Added)
      (hadded : Adds a { j with pending := some { q with razorpayPaymentId := some payment } } q.addon
        added)
      (j' : Addons)
      (hj' : (added.returns = true ∧ a.finalized = true ∧
          j' = { added.addons with pending := none }) ∨
        (¬ (added.returns = true ∧ a.finalized = true) ∧ j' = added.addons)) :
      Verifies payload valid a j (j', added.calls.map (some payment, ·))

theorem Adds.pending {added : Added} (h : Adds a j x added) : added.addons.pending = j.pending := by
  cases h with
  | nothing => rfl
  | failed => rfl
  | recorded j' _ _ hpending => exact hpending

/-- The purchase that is verified is the pending one; afterwards its payment is known. -/
theorem consume_cases {q : PendingAddon} {j' : Addons}
    (hvalid : valid = true → payload.razorpayPaymentId.isSome = true)
    (h : consumeVerifiedPendingAddon t payload valid a j = some (q, j')) :
    ∃ q₀ payment, j.pending = some q₀ ∧ q₀.razorpayOrderId = payload.razorpayOrderId ∧
      q₀.addon.type = t ∧ (q₀.razorpayPaymentId = some payment ∨
        (valid = true ∧ payload.razorpayPaymentId = some payment)) ∧
      q = { q₀ with razorpayPaymentId := some payment } ∧ j' = { j with pending := some q } := by
  unfold consumeVerifiedPendingAddon at h
  split at h
  · cases h
  · next q₀ hq₀ =>
    split_ifs at h with horder htype hpaid hbad
    · -- paid already
      obtain ⟨rfl, rfl⟩ := Prod.mk.inj (Option.some.inj h)
      obtain ⟨payment, hpayment⟩ := Option.isSome_iff_exists.mp hpaid.1
      refine ⟨q₀, payment, hq₀, by simpa using horder, by simpa using htype, .inl hpayment, ?_, ?_⟩
      · rw [← hpayment]
      · rw [← hq₀]
    · -- paid now
      obtain ⟨rfl, rfl⟩ := Prod.mk.inj (Option.some.inj h)
      have hv : valid = true := by simpa using (not_or.mp hbad).1
      obtain ⟨payment, hpayment⟩ := Option.isSome_iff_exists.mp (hvalid hv)
      exact ⟨q₀, payment, hq₀, by simpa using horder, by simpa using htype, .inr ⟨hv, hpayment⟩,
        by rw [hpayment], rfl⟩

theorem verifyAddonPayment_verifies (add : Addon → Addons → Added)
    (hadd : ∀ x j, x.type = t → add x j = x.add c a j)
    (hvalid : valid = true → payload.razorpayPaymentId.isSome = true) :
    Verifies payload valid a j (verifyAddonPayment t add payload valid a j) := by
  unfold verifyAddonPayment
  split
  · exact .refused
  · next q j' hconsume =>
    obtain ⟨q₀, payment, hq₀, horder, htype, hpaid, rfl, rfl⟩ := consume_cases hvalid hconsume
    generalize hadded : add _ _ = added
    rw [hadd q₀.addon _ htype] at hadded
    have hadds := add_adds c a { j with pending := some { q₀ with razorpayPaymentId := some payment } }
      q₀.addon
    rw [hadded] at hadds
    dsimp only
    split_ifs with hends
    · refine .paid q₀ payment hq₀ horder hpaid added hadds _ (.inl ⟨hends.1, hends.2, ?_⟩)
      unfold finalizePendingAddonAfterSuccess
      rw [hadds.pending, if_pos (by simpa using htype)]
    · exact .paid q₀ payment hq₀ horder hpaid added hadds _ (.inr ⟨hends, rfl⟩)

theorem valid_isSome (h : w.valid payload genuine = true) :
    payload.razorpayPaymentId.isSome = true := by
  unfold AddonDesk.valid at h
  cases hpayment : payload.razorpayPaymentId with
  | none => simp [hpayment] at h
  | some payment => rfl

/-- **Each of the five verifies.** -/
theorem verify_verifies (w : AddonDesk) (payload : AddonPayload) (genuine : Bool)
    (a : AddonAnswers) (t : AddonType) :
    Verifies payload (w.valid payload genuine) a w.addons (w.verify payload genuine a t) := by
  -- a purchase of the type is the one that the verify expects
  cases t with
  | email =>
    refine verifyAddonPayment_verifies (c := w.order) (fun x => addEmailAddon w.order x.mailbox a)
      (fun x j hx => ?_) valid_isSome
    cases x <;> first | rfl | cases hx
  | ssl =>
    refine verifyAddonPayment_verifies (c := w.order) (fun _ => addSslAddon w.order a)
      (fun x j hx => ?_) valid_isSome
    cases x <;> first | rfl | cases hx
  | restore =>
    refine verifyAddonPayment_verifies (c := w.order) (fun _ => addRestoreAddon w.order a)
      (fun x j hx => ?_) valid_isSome
    cases x <;> first | rfl | cases hx
  | easydmarc =>
    refine verifyAddonPayment_verifies (c := w.order) (fun _ => addEasydmarcAddon w.order a)
      (fun x j hx => ?_) valid_isSome
    cases x <;> first | rfl | cases hx
  | spamexperts =>
    refine verifyAddonPayment_verifies (c := w.order) (fun _ => addSpamexpertsAddon a)
      (fun x j hx => ?_) valid_isSome
    cases x <;> first | rfl | cases hx

/-! ## Once for each payment -/

/-- The calls of one provisioning were made for the payment, each once, and no other. -/
def ProvisionedOnce (log : List (Option PaymentId × ProviderCall)) (payment : PaymentId)
    (t : AddonType) : Prop :=
  ∀ call, log.count (some payment, call) = t.provisioning.count call

/-- What the record that is pending says about the gateway and the log. -/
structure AddonDesk.Waiting (w : AddonDesk) (q : PendingAddon) : Prop where
  order : ∀ o ∈ w.gateway.orders, o.id = q.razorpayOrderId → o.notes = q.addon.type
  issued : ∃ o ∈ w.gateway.orders, o.id = q.razorpayOrderId
  paid : ∀ payment ∈ q.razorpayPaymentId, (q.razorpayOrderId, payment) ∈ w.gateway.captured
  unpaid : (∀ c ∈ w.gateway.captured, c.1 ≠ q.razorpayOrderId) → q.addon.found w.addons = false
  /-- Nothing was done for its payment while the test finds nothing. -/
  missed : q.addon.found w.addons = false → ∀ payment,
    (q.razorpayOrderId, payment) ∈ w.gateway.captured → ∀ call, (some payment, call) ∉ w.log
  hit : q.addon.found w.addons = true → ∀ payment,
    (q.razorpayOrderId, payment) ∈ w.gateway.captured → ProvisionedOnce w.log payment q.addon.type

/-- What the gateway, the log and the JSON say about each other. -/
structure AddonDesk.Booked (w : AddonDesk) : Prop where
  wellFormed : w.gateway.WellFormed
  genuine : w.gateway.Genuine
  single : ∀ r p p', (r, p) ∈ w.gateway.captured → (r, p') ∈ w.gateway.captured → p = p'
  calls : ∀ payment call, (some payment, call) ∈ w.log → ∃ r, (r, payment) ∈ w.gateway.captured
  pending : ∀ q ∈ w.addons.pending, w.Waiting q
  settled : ∀ o ∈ w.gateway.orders, ∀ payment, (o.id, payment) ∈ w.gateway.captured →
    (∀ q ∈ w.addons.pending, q.razorpayOrderId ≠ o.id) → ProvisionedOnce w.log payment o.notes

theorem provisioning_nodup (t : AddonType) : t.provisioning.Nodup := by
  cases t <;> decide

/-- **The invariant gives the property.** -/
theorem AddonDesk.Booked.exactlyOnce (h : w.Booked) : w.ExactlyOnce := by
  intro o ho payment hcap call hcall
  have hone : o.notes.provisioning.count call = 1 :=
    List.count_eq_one_of_mem (provisioning_nodup _) hcall
  by_cases hpending : ∃ q ∈ w.addons.pending, q.razorpayOrderId = o.id
  · obtain ⟨q, hq, hqo⟩ := hpending
    have hwait := h.pending q hq
    refine ⟨?_, fun hnot => absurd hqo (hnot q hq)⟩
    rw [hqo.symm] at hcap
    cases hfound : q.addon.found w.addons with
    | false =>
      rw [List.count_eq_zero.mpr (hwait.missed hfound payment hcap call)]
      exact Nat.zero_le 1
    | true =>
      have hcount := hwait.hit hfound payment hcap call
      rw [← hwait.order o ho hqo.symm, hone] at hcount
      omega
  · have hnot : ∀ q ∈ w.addons.pending, q.razorpayOrderId ≠ o.id := fun q hq hqo =>
      hpending ⟨q, hq, hqo⟩
    have hcount := h.settled o ho payment hcap hnot call
    rw [hone] at hcount
    exact ⟨by omega, fun _ => hcount⟩

theorem AddonDesk.Starts.booked (h : w.Starts) : w.Booked := by
  obtain ⟨hpending, hgateway, hlog⟩ := h
  have hnone : ∀ c, c ∉ w.gateway.captured := fun c hc => by
    rw [hgateway] at hc
    cases hc
  refine ⟨Gateway.wellFormed_of_nil (by rw [hgateway]; rfl), by rw [hgateway]; exact .empty, ?_, ?_,
    ?_, ?_⟩
  · exact fun r p p' hp => absurd hp (hnone _)
  · intro payment call hmem
    rw [hlog] at hmem
    cases hmem
  · intro q hq
    rw [hpending] at hq
    cases hq
  · exact fun o _ payment hcap => absurd hcap (hnone _)

/-- A new Razorpay order. -/
theorem AddonDesk.Booked.issue {r : OrderId} {amount : Paise} {gateway : Gateway AddonType}
    (h : w.Booked) (heq : w.gateway.createOrder amount t = some (r, gateway)) :
    AddonDesk.Booked { w with gateway } := by
  obtain ⟨rfl, horders⟩ := Gateway.createOrder_eq_some heq
  have hcaptured := Gateway.createOrder_captured heq
  have hfresh : ∀ payment, (w.gateway.nextId, payment) ∉ w.gateway.captured := fun _ =>
    h.genuine.next_not_mem h.wellFormed
  refine ⟨h.wellFormed.cons horders, h.genuine.create heq, ?_, ?_, ?_, ?_⟩
  · rw [hcaptured]
    exact h.single
  · rw [hcaptured]
    exact h.calls
  · intro q hq
    have hwait := h.pending q hq
    obtain ⟨o, ho, hoq⟩ := hwait.issued
    refine ⟨?_, ⟨o, by rw [horders]; exact List.mem_cons_of_mem _ ho, hoq⟩, ?_, ?_, ?_, ?_⟩
    · intro o' ho' hid
      rw [horders] at ho'
      rcases List.mem_cons.mp ho' with rfl | ho'
      · -- the new id is not that of the order pending
        exact absurd (h.wellFormed o ho) (by rw [hoq, ← hid]; exact Nat.lt_irrefl _)
      · exact hwait.order o' ho' hid
    · rw [hcaptured]
      exact hwait.paid
    · rw [hcaptured]
      exact hwait.unpaid
    · rw [hcaptured]
      exact hwait.missed
    · rw [hcaptured]
      exact hwait.hit
  · intro o ho payment hcap hnot
    rw [hcaptured] at hcap
    rw [horders] at ho
    rcases List.mem_cons.mp ho with rfl | ho
    · exact absurd hcap (hfresh payment)
    · exact h.settled o ho payment hcap hnot

/-- A purchase for which the JSON has no record, the one before being unpaid. -/
theorem AddonDesk.Booked.create {eligible : Bool} {amount : Paise} {accepted commits : Bool}
    (h : w.Booked)
    (hok : w.Careful (.create x amount accepted commits)) :
    (AddonDesk.createAddonPaymentOrder x eligible amount accepted commits w).Booked := by
  unfold AddonDesk.createAddonPaymentOrder
  split
  · exact h
  split
  · exact h
  · next r gateway heq =>
    have hissued := h.issue heq
    split
    · exact hissued
    · next addons hset =>
      split
      · unfold setPendingAddonPayment at hset
        split_ifs at hset with hblocked
        cases hset
        obtain ⟨hmiss, hunpaid⟩ := hok (by simpa using hblocked)
        obtain ⟨rfl, horders⟩ := Gateway.createOrder_eq_some heq
        have hcaptured := Gateway.createOrder_captured heq
        have hfresh : ∀ payment, (w.gateway.nextId, payment) ∉ gateway.captured := fun _ => by
          rw [hcaptured]
          exact h.genuine.next_not_mem h.wellFormed
        refine ⟨hissued.wellFormed, hissued.genuine, hissued.single, hissued.calls, ?_, ?_⟩
        · intro q hq
          cases hq
          refine ⟨?_, ⟨_, by rw [horders]; exact List.mem_cons_self, rfl⟩, fun _ hp => ?_,
            fun _ => ?_, fun _ payment hcap => ?_, fun _ payment hcap => ?_⟩
          · intro o ho hid
            rw [horders] at ho
            rcases List.mem_cons.mp ho with rfl | ho
            · rfl
            · exact absurd (h.wellFormed o ho) (by rw [hid]; exact Nat.lt_irrefl _)
          · cases hp
          · exact (found_pending _).trans hmiss
          · exact absurd hcap (hfresh payment)
          · exact absurd hcap (hfresh payment)
        · intro o ho payment hcap hnot
          refine hissued.settled o ho payment hcap fun q hq => ?_
          have hcap' : (o.id, payment) ∈ w.gateway.captured := hcaptured ▸ hcap
          exact (hunpaid q hq _ hcap').symm
      · exact hissued

/-- The pending Razorpay order is paid, for the first time. -/
theorem AddonDesk.Booked.pay {r : OrderId} (h : w.Booked) (hok : w.Careful (.pay r)) :
    AddonDesk.Booked { w with gateway := w.gateway.capture r } := by
  obtain ⟨⟨q, hq, rfl⟩, hunpaid⟩ := hok
  have hsub := Gateway.capture_captured_subset (g := w.gateway) q.razorpayOrderId
  have hwait := h.pending q hq
  have hmiss := hwait.unpaid hunpaid
  -- a payment of this order is the new one, for which nothing was done
  have hnew : ∀ payment,
      (q.razorpayOrderId, payment) ∈ (w.gateway.capture q.razorpayOrderId).captured →
      ∀ call, (some payment, call) ∉ w.log := by
    intro payment hcap call hmem
    rcases Gateway.mem_capture hcap with hcap | heq
    · exact hunpaid _ hcap rfl
    · obtain ⟨-, rfl⟩ := Prod.mk.inj heq
      obtain ⟨r, hcap⟩ := h.calls _ call hmem
      exact absurd (h.genuine.below _ hcap) (Nat.lt_irrefl _)
  refine ⟨?_, h.genuine.capture _, ?_, ?_, ?_, ?_⟩
  · intro o ho
    have hsame : (w.gateway.capture q.razorpayOrderId).nextId = w.gateway.nextId := by
      unfold Gateway.nextId
      rw [Gateway.capture_orders]
    rw [hsame]
    exact h.wellFormed o (by simpa using ho)
  · intro r p p' hp hp'
    rcases Gateway.mem_capture hp with hp | hp
    · rcases Gateway.mem_capture hp' with hp' | hp'
      · exact h.single r p p' hp hp'
      · obtain ⟨rfl, -⟩ := Prod.mk.inj hp'
        exact absurd rfl (hunpaid _ hp)
    · obtain ⟨rfl, rfl⟩ := Prod.mk.inj hp
      rcases Gateway.mem_capture hp' with hp' | hp'
      · exact absurd rfl (hunpaid _ hp')
      · exact (Prod.mk.inj hp').2.symm
  · intro payment call hmem
    obtain ⟨r, hcap⟩ := h.calls payment call hmem
    exact ⟨r, hsub hcap⟩
  · intro q' hq'
    obtain rfl : q = q' := Option.some.inj (hq.symm.trans hq')
    refine ⟨by simpa using hwait.order, by simpa using hwait.issued,
      fun payment hp => hsub (hwait.paid payment hp), fun _ => hmiss, fun _ => hnew,
      fun hhit => absurd (hmiss.symm.trans hhit) (by simp)⟩
  · intro o ho payment hcap hnot
    rcases Gateway.mem_capture hcap with hcap | heq
    · exact h.settled o (by simpa using ho) payment hcap hnot
    · exact absurd (Prod.mk.inj heq).1.symm (hnot q hq)

/-- A request that has to do with the payment of the pending order only: it clears the record, the
payment being provisioned; or it keeps it, with what the test says. -/
theorem AddonDesk.Booked.verified (h : w.Booked) {q : PendingAddon} {payment : PaymentId}
    (hq : w.addons.pending = some q) (hcap : (q.razorpayOrderId, payment) ∈ w.gateway.captured)
    {addons : Addons} {log : List (Option PaymentId × ProviderCall)}
    (hothers : ∀ p, p ≠ payment → ∀ call, log.count (some p, call) = w.log.count (some p, call))
    (hstate : (addons.pending = none ∧ ProvisionedOnce log payment q.addon.type) ∨
      (addons.pending = some { q with razorpayPaymentId := some payment } ∧
        (q.addon.found addons = false → ∀ call, (some payment, call) ∉ log) ∧
        (q.addon.found addons = true → ProvisionedOnce log payment q.addon.type))) :
    AddonDesk.Booked { w with addons, log } := by
  have hwait := h.pending q hq
  refine ⟨h.wellFormed, h.genuine, h.single, ?_, ?_, ?_⟩
  · intro p call hmem
    by_cases hp : p = payment
    · exact ⟨_, hp ▸ hcap⟩
    · have hpos := List.count_pos_iff.mpr hmem
      rw [hothers p hp] at hpos
      exact h.calls p call (List.count_pos_iff.mp hpos)
  · intro q' hq'
    rcases hstate with ⟨hnone, -⟩ | ⟨hsome, hmiss, hhit⟩
    · cases hnone.symm.trans hq'
    · cases hsome.symm.trans hq'
      refine ⟨hwait.order, hwait.issued, fun p hp => ?_, fun hunpaid => ?_,
        fun hfound p hp => ?_, fun hfound p hp => ?_⟩
      · cases hp
        exact hcap
      · exact absurd rfl (hunpaid _ hcap)
      · exact h.single _ p payment hp hcap ▸ hmiss hfound
      · exact h.single _ p payment hp hcap ▸ hhit hfound
  · intro o ho p hp hnot
    by_cases hsame : o.id = q.razorpayOrderId
    · obtain rfl : p = payment := h.single _ p payment (hsame ▸ hp) hcap
      rcases hstate with ⟨-, honce⟩ | ⟨hsome, -, -⟩
      · rw [hwait.order o ho hsame]
        exact honce
      · exact absurd hsame.symm (hnot { q with razorpayPaymentId := some p } hsome)
    · have hne : p ≠ payment := fun heq =>
        hsame (h.genuine.order_unique hp (heq ▸ hcap))
      intro call
      show log.count (some p, call) = o.notes.provisioning.count call
      rw [hothers p hne]
      refine h.settled o ho p hp (fun q' hq' => ?_) call
      obtain rfl : q = q' := Option.some.inj (hq.symm.trans hq')
      exact Ne.symm hsame

theorem count_provisioning (log : List (Option PaymentId × ProviderCall)) (payment p : PaymentId)
    (calls : List ProviderCall) (call : ProviderCall) :
    (log ++ calls.map (some payment, ·)).count (some p, call) =
      log.count (some p, call) + if p = payment then calls.count call else 0 := by
  rw [List.count_append]
  congr 1
  split_ifs with hp
  · subst hp
    exact List.count_map_of_injective calls (some p, ·)
      (fun _ _ heq => (Prod.mk.inj heq).2) call
  · refine List.count_eq_zero.mpr fun hmem => ?_
    obtain ⟨_, -, heq⟩ := List.mem_map.mp hmem
    exact hp (Option.some.inj (Prod.mk.inj heq).1).symm

/-- **A resumable verify.** -/
theorem AddonDesk.Booked.verify (h : w.Booked) (hok : w.Careful (.verify t payload genuine a)) :
    (w.step (.verify t payload genuine a)).Booked := by
  have hverifies := verify_verifies w payload genuine a t
  simp only [AddonDesk.step]
  generalize w.verify payload genuine a t = r at hverifies ⊢
  cases hverifies with
  | refused => simpa using h
  | paid q payment hq horder hpaid added hadded j' hj' =>
    have hwait := h.pending q hq
    have hcap : (q.razorpayOrderId, payment) ∈ w.gateway.captured := by
      rcases hpaid with hpaid | ⟨hvalid, hpayment⟩
      · exact hwait.paid payment hpaid
      · unfold AddonDesk.valid at hvalid
        rw [hpayment, Option.any_some] at hvalid
        rw [horder]
        exact Gateway.mem_captured_of_verify hvalid
    have hresume : a.Resumable w.addons q.addon := hok q hq
    refine h.verified hq hcap (fun p hp call => ?_) ?_
    · rw [count_provisioning, if_neg hp, Nat.add_zero]
    cases hadded with
    | nothing returns hhit =>
      rw [found_pending] at hhit
      rw [List.map_nil, List.append_nil]
      rcases hj' with ⟨hreturns, -, rfl⟩ | ⟨-, rfl⟩
      · exact .inl ⟨rfl, hwait.hit (hhit hreturns) payment hcap⟩
      · refine .inr ⟨rfl, fun hmiss => ?_, fun hfound => ?_⟩
        · exact hwait.missed ((found_pending _).symm.trans hmiss) payment hcap
        · exact hwait.hit ((found_pending _).symm.trans hfound) payment hcap
    | failed hmiss hfails =>
      rw [found_pending] at hmiss
      -- a resumable verify that fails has made no call
      have hcalls : (q.addon.calls a).1 = [] := by
        rcases hresume with hfound | hcalls | ⟨hall, hrecorded, -⟩
        · cases hmiss.symm.trans hfound
        · exact hcalls
        · rcases hfails with hfails | hfails
          · cases hall.symm.trans hfails
          · cases hrecorded.symm.trans hfails
      rw [hcalls, List.map_nil, List.append_nil]
      rcases hj' with ⟨hreturns, -, -⟩ | ⟨-, rfl⟩
      · cases hreturns
      · refine .inr ⟨rfl, fun _ => hwait.missed hmiss payment hcap, fun hfound => ?_⟩
        exact absurd (hmiss.symm.trans ((found_pending _).symm.trans hfound)) (by simp)
    | recorded record hmiss hall hpending hfound =>
      rw [found_pending] at hmiss
      rw [recognized_pending] at hfound
      have hcalls := calls_eq_provisioning hall
      have honce : ProvisionedOnce (w.log ++ (q.addon.calls a).1.map (some payment, ·)) payment
          q.addon.type := by
        intro call
        rw [count_provisioning, if_pos rfl, hcalls,
          List.count_eq_zero.mpr (hwait.missed hmiss payment hcap call), Nat.zero_add]
      rcases hj' with ⟨-, -, rfl⟩ | ⟨hstays, rfl⟩
      · exact .inl ⟨rfl, honce⟩
      · refine .inr ⟨hpending, fun hlost => ?_, fun _ => honce⟩
        rcases hresume with hbefore | hnone | ⟨-, -, hrec | hends⟩
        · cases hmiss.symm.trans hbefore
        · exact absurd (hcalls.symm.trans hnone)
            (by cases q.addon <;> simp [Addon.type, AddonType.provisioning])
        · cases (hfound hrec).symm.trans hlost
        · exact absurd hends hstays

/-- **One request.** -/
theorem exactlyOnce_step {op : AddonOp} (h : w.Booked) (hok : w.Careful op) :
    (w.step op).Booked := by
  cases op with
  | create x amount accepted commits =>
    cases x with
    | email mailbox => exact h.create hok
    | ssl => exact h.create hok
    | restore => exact h.create hok
    | easydmarc => exact h.create hok
    | spamexperts => exact h.create hok
  | pay r => exact h.pay hok
  | verify t payload genuine a => exact h.verify hok

/-- **Each captured payment is provisioned once**, in every run of careful requests. -/
theorem provisioned_once {w : AddonDesk} (hstart : w.Starts) (ops : List AddonOp)
    (hok : Meets AddonDesk.step AddonDesk.Careful w ops) :
    (exec AddonDesk.step w ops).ExactlyOnce :=
  (exec_inv (P := AddonDesk.Booked) (fun _ _ h hl => exactlyOnce_step h hl) hstart.booked
    hok).exactlyOnce

/-! ## Runs that are not careful -/

/-- Everything goes through. -/
def AddonAnswers.all : AddonAnswers :=
  ⟨true, true, true, some (some 1), some true, true, true, true⟩

/-- An order with a contact and a domain, and nothing bought yet. -/
def AddonDesk.fresh : AddonDesk where
  order := ⟨true, some 5⟩
  addons := ⟨none, [], none, none, none, none⟩
  gateway := .empty
  log := []

/-- A purchase with one verify for each of the answers. -/
def purchase (x : Addon) (r : OrderId) (payment : PaymentId) (as : List AddonAnswers) :
    List AddonOp :=
  [.create x 50000 true true, .pay r] ++ as.map (.verify x.type ⟨r, some payment⟩ true ·)

/-- A mailbox whose record is committed before the verify fails, and then a restore. -/
theorem provisioned_once_retry :
    (exec AddonDesk.step .fresh
      (purchase (.email (some 3)) 0 0 [{ AddonAnswers.all with detailed := false }, .all] ++
      purchase .restore 1 1 [.all])).ExactlyOnce :=
  provisioned_once ⟨rfl, rfl, rfl⟩ _ (by decide)

/-- A certificate is ordered, and the verify fails after that; the next one has no test. -/
def certificateRetried : List AddonOp :=
  purchase .ssl 0 0 [{ AddonAnswers.all with finalized := false }, .all]

/-- A domain is restored, lapses, and is to be restored once more. -/
def restoredAgain : List AddonOp := purchase .restore 0 0 [.all] ++ purchase .restore 1 1 [.all]

/-- **Twice, or never.** Two certificates are ordered for one payment. The second restore is paid
for and its record cleared, and no call is made for it. -/
theorem provisioned_twice_or_never :
    ((exec AddonDesk.step .fresh certificateRetried).log =
        [(some 0, .createSslOrder), (some 0, .createSslOrder)] ∧
      ¬ (exec AddonDesk.step .fresh certificateRetried).ExactlyOnce) ∧
    ((exec AddonDesk.step .fresh restoredAgain).log = [(some 0, .restoreDomain)] ∧
      (exec AddonDesk.step .fresh restoredAgain).gateway.captured = [(1, 1), (0, 0)] ∧
      (exec AddonDesk.step .fresh restoredAgain).addons.pending = none ∧
      ¬ (exec AddonDesk.step .fresh restoredAgain).ExactlyOnce) := by
  refine ⟨⟨by decide, fun h => ?_⟩, by decide, by decide, by decide, fun h => ?_⟩
  · have htwice := (h ⟨0, 50000, .ssl⟩ (by decide) 0 (by decide) .createSslOrder (by decide)).1
    exact absurd htwice (by decide)
  · have hnever := (h ⟨1, 50000, .restore⟩ (by decide) 1 (by decide) .restoreDomain (by decide)).2
    exact absurd (hnever (by decide)) (by decide)

end Deltapreneur.Storefront
