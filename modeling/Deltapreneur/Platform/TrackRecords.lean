import Deltapreneur.Storefront.TransferOut

/-!
# Track records of registration and transfer orders

What `app/service/platform/track_record_service.py` makes of a row of `domain_registration_orders`:
the writer `record_paid_attempt`, the live path (`record_from_registration_order`) and the first
section of `sync_historical_purchases`.

* The three classifiers test the text of a status for tokens. The live path reads `str(order.status)`,
  which is `statusText`; the sync reads the column, which holds `statusName`.
* Blank texts and missing ones are `none`, names and ids are stripped, `priceSource` is in lower and
  `openProviderStatus` in upper case.
* `createdAt = none` in a record is the time of its insert. A select without an order takes the
  first row.
* An `InternalId` other than `TRK-REG-…` is a number. The column is unique, so a second insert fails.
* The columns that are copied and not read again (quantity, amounts, buyer, notes) are left out,
  and so are the sections of the sync that read other tables.

Results:

* `statusForRegistrationOrder_case`, `live_success_iff`, `sync_success_iff`: what the classifiers
  return, in terms of the status itself.
* `automaticOverall_success_iff`, `automaticOverall_refunded_iff`: when the writer's own rule
  says Success or Refunded.
-/

namespace Deltapreneur.TrackRecords

open Registration (RegistrationOrderStatus RegistrationId)
open Storefront (TransferStatus statusText)
open Razorpay (RefundId)

/-! ## Data -/

inductive TrackRecordCategory
  | domainRegistrationOpenprovider | domainRegistrationReseller | domainMarketplace
  | technologyPurchase | technologyServices | ventureDealPayment | domainAddonEmail | domainAddonSsl
  | domainRenewal | domainTransfer | openproviderManagedAcquisition | operations | other
  deriving Repr, DecidableEq

inductive OverallStatus
  | success | failed | pending | partly | refunded | expired | cancelled
  deriving Repr, DecidableEq

inductive PaymentStatus
  | authorized | captured | failed | refunded | pending
  deriving Repr, DecidableEq

inductive FulfillmentStatus
  | notStarted | inProgress | provisioned | failed | partly | expired | cancelled
  deriving Repr, DecidableEq

/-- The text in upper case. -/
def OverallStatus.upper : OverallStatus → String
  | .success => "SUCCESS"
  | .failed => "FAILED"
  | .pending => "PENDING"
  | .partly => "PARTIAL"
  | .refunded => "REFUNDED"
  | .expired => "EXPIRED"
  | .cancelled => "CANCELLED"

def PaymentStatus.upper : PaymentStatus → String
  | .authorized => "AUTHORIZED"
  | .captured => "CAPTURED"
  | .failed => "FAILED"
  | .refunded => "REFUNDED"
  | .pending => "PENDING"

def FulfillmentStatus.upper : FulfillmentStatus → String
  | .notStarted => "NOT_STARTED"
  | .inProgress => "IN_PROGRESS"
  | .provisioned => "PROVISIONED"
  | .failed => "FAILED"
  | .partly => "PARTIAL"
  | .expired => "EXPIRED"
  | .cancelled => "CANCELLED"

/-- `TRK-REG-<order id>`, or the id of another record. -/
inductive InternalId
  | registration (order : RegistrationId)
  | other (id : Nat)
  deriving Repr, DecidableEq

/-- A row of `track_records`. -/
structure TrackRecord where
  internalOrderId : InternalId
  category : TrackRecordCategory
  providerSubcategory : String
  itemName : String
  buyerPhone : Option Nat
  createdAt : Option Time
  paymentStatus : PaymentStatus
  razorpayOrderId : Option OrderId
  razorpayPaymentId : Option PaymentId
  razorpayRefundId : Option RefundId
  fulfillmentStatus : FulfillmentStatus
  overallStatus : OverallStatus
  openproviderDomainId : Option String
  errorCode : Option String
  errorMessage : Option String
  errorSource : Option String
  deriving DecidableEq

/-- A row of `domain_registration_orders`. -/
structure Order where
  id : RegistrationId
  createdAt : Option Time
  /-- Name and extension. -/
  domainName : String
  buyerPhone : Option Nat
  razorpayOrderId : Option OrderId
  razorpayPaymentId : Option PaymentId
  razorpayRefundId : Option RefundId
  status : RegistrationOrderStatus
  /-- `resellerclub_order_id` is set. -/
  atReseller : Bool
  priceSource : String
  openProviderDomainId : Option String
  openProviderStatus : String
  provisionMessage : Option String
  transferStatus : TransferStatus
  deriving DecidableEq

abbrev Table := List TrackRecord

/-! ## Tokens -/

/-- `token in text`. -/
def hasToken (text token : String) : Bool := Storefront.Text.contains text.toList token.toList

/-- The status as the column holds it. -/
def statusName : RegistrationOrderStatus → String
  | .created => "CREATED"
  | .paymentCompleted => "PAYMENT_COMPLETED"
  | .registrationPending => "REGISTRATION_PENDING"
  | .active => "ACTIVE"
  | .paymentFailed => "PAYMENT_FAILED"
  | .expired => "EXPIRED"
  | .failed => "FAILED"
  | .provisionFailed => "PROVISION_FAILED"
  | .refunded => "REFUNDED"

/-- `id.upper().startswith("DEMO-")`. -/
def isDemo (id : String) : Bool := "DEMO-".toList.isPrefixOf (id.toList.map Char.toUpper)

def Order.hasDemoId (o : Order) : Bool := o.openProviderDomainId.any isDemo

def Order.hasRealId (o : Order) : Bool := o.openProviderDomainId.any fun id => !isDemo id

def Order.isTransfer (o : Order) : Bool := o.transferStatus ≠ .none

/-- The tokens of `open_provider_status` that make a transfer fail. -/
def Order.providerFailed (o : Order) : Bool :=
  ["FAIL", "REJECT", "CANCEL"].any (hasToken o.openProviderStatus)

/-! ## `record_paid_attempt` -/

/-- The arguments. -/
structure Attempt where
  internalOrderId : Option InternalId
  category : TrackRecordCategory
  providerSubcategory : String
  itemName : String
  buyerPhone : Option Nat
  paymentStatus : PaymentStatus
  razorpayOrderId : Option OrderId
  razorpayPaymentId : Option PaymentId
  razorpayRefundId : Option RefundId
  fulfillmentStatus : FulfillmentStatus
  overallStatus : OverallStatus
  openproviderDomainId : Option String
  errorCode : Option String
  errorMessage : Option String
  errorSource : Option String
  createdAt : Option Time
  clearErrors : Bool

/-- A name that stands for no item. -/
def isGeneric (name : String) : Bool :=
  "Payment #".toList.isPrefixOf name.toList || "Unprovisioned".toList.isPrefixOf name.toList ||
    name = "Item" || name = "Domain listing"

def Attempt.newRecord (a : Attempt) (id : InternalId) : TrackRecord where
  internalOrderId := id
  category := a.category
  providerSubcategory := a.providerSubcategory
  itemName := a.itemName
  buyerPhone := a.buyerPhone
  createdAt := a.createdAt
  paymentStatus := a.paymentStatus
  razorpayOrderId := a.razorpayOrderId
  razorpayPaymentId := a.razorpayPaymentId
  razorpayRefundId := a.razorpayRefundId
  fulfillmentStatus := a.fulfillmentStatus
  overallStatus := a.overallStatus
  openproviderDomainId := a.openproviderDomainId
  errorCode := a.errorCode
  errorMessage := a.errorMessage
  errorSource := a.errorSource

/-- `_prev_success`. -/
def TrackRecord.isSuccess (r : TrackRecord) : Bool :=
  ["PROVISIONED", "ACTIVE", "COMPLETED"].any (hasToken r.fulfillmentStatus.upper) &&
    hasToken r.overallStatus.upper "SUCCESS"

/-- The attempt says that the order is under way: `_new_intermediate`, no error and no token of a
reversed state. -/
def Attempt.isIntermediate (a : Attempt) : Bool :=
  ["IN_PROGRESS", "NOT_STARTED", "PENDING"].contains a.fulfillmentStatus.upper &&
    a.errorCode.isNone &&
    !(["REFUND", "CANCEL", "EXPIRED", "FAIL"].any (hasToken a.overallStatus.upper))

/-- `_keep_success`. -/
def TrackRecord.keepsSuccess (r : TrackRecord) (a : Attempt) : Bool :=
  r.isSuccess && a.isIntermediate

/-- The name after an attempt. -/
def TrackRecord.renamed (r : TrackRecord) (a : Attempt) : String :=
  if a.itemName = "" then r.itemName
  else if (r.itemName = "" ∨ isGeneric r.itemName) ∨ ¬ isGeneric a.itemName then a.itemName
  else r.itemName

/-- The error fields after an attempt. -/
def TrackRecord.errors (r : TrackRecord) (a : Attempt) :
    Option String × Option String × Option String :=
  if hasToken a.fulfillmentStatus.upper "PROVISIONED" ∧ a.errorCode = none then (none, none, none)
  else if a.clearErrors then (a.errorCode, a.errorMessage, a.errorSource)
  else (a.errorCode.or r.errorCode, a.errorMessage.or r.errorMessage, a.errorSource.or r.errorSource)

def TrackRecord.update (r : TrackRecord) (a : Attempt) : TrackRecord :=
  let (code, message, source) := r.errors a
  { r with
    createdAt := a.createdAt.or r.createdAt
    category := a.category
    providerSubcategory := a.providerSubcategory
    itemName := r.renamed a
    buyerPhone := a.buyerPhone.or r.buyerPhone
    paymentStatus := a.paymentStatus
    razorpayOrderId := a.razorpayOrderId.or r.razorpayOrderId
    razorpayPaymentId := a.razorpayPaymentId.or r.razorpayPaymentId
    razorpayRefundId := a.razorpayRefundId.or r.razorpayRefundId
    fulfillmentStatus := if r.keepsSuccess a then r.fulfillmentStatus else a.fulfillmentStatus
    overallStatus := if r.keepsSuccess a then r.overallStatus else a.overallStatus
    openproviderDomainId := a.openproviderDomainId.or r.openproviderDomainId
    errorCode := code
    errorMessage := message
    errorSource := source }

/-- "Automatic overall status determination". -/
def automaticOverall (passed : OverallStatus) (r : TrackRecord) : OverallStatus :=
  let pay := r.paymentStatus.upper
  let ful := r.fulfillmentStatus.upper
  if ["EXPIRED", "CANCELLED", "REFUND"].any (hasToken passed.upper) then passed
  else if r.razorpayRefundId ≠ none ∨ hasToken pay "REFUND" then .refunded
  else if hasToken pay "FAIL" ∨ hasToken ful "FAIL" ∨ r.errorCode ≠ none then .failed
  else if ["CAPTURED", "PAID", "SUCCESS"].any (hasToken pay) then
    if ["PROVISIONED", "COMPLETED", "SUCCESS", "ACTIVE"].any (hasToken ful) then .success
    else if hasToken ful "PARTIAL" then .partly
    else if hasToken ful "FAIL" then .failed
    else .pending
  else .pending

def TrackRecord.settled (r : TrackRecord) (passed : OverallStatus) : TrackRecord :=
  { r with overallStatus := automaticOverall passed r }

def insert (t : Table) (r : TrackRecord) : Table :=
  if t.any (·.internalOrderId = r.internalOrderId) then t else t ++ [r]

def findByInternalOrderId (t : Table) (id : InternalId) : Option TrackRecord :=
  Table.lookup (·.internalOrderId) id t

def findByRazorpayPaymentId (t : Table) (payment : PaymentId) : Option TrackRecord :=
  t.find? (·.razorpayPaymentId = some payment)

def findByRazorpayOrderId (t : Table) (order : OrderId) : Option TrackRecord :=
  t.find? (·.razorpayOrderId = some order)

/-- The record that `record_paid_attempt` updates. -/
def Attempt.record (a : Attempt) (t : Table) : Option TrackRecord :=
  match a.internalOrderId with
  | some id => findByInternalOrderId t id
  | none => a.razorpayPaymentId.bind (findByRazorpayPaymentId t)

/-- `record_paid_attempt`; `fresh` is what `generate_internal_order_id` returns. -/
def recordPaidAttempt (fresh : Nat) (t : Table) (a : Attempt) : Table :=
  match a.record t with
  | some r =>
    Table.update (·.internalOrderId) r.internalOrderId
      (fun r => (r.update a).settled a.overallStatus) t
  | none =>
    insert t ((a.newRecord (a.internalOrderId.getD (.other fresh))).settled a.overallStatus)

/-! ## The live path -/

/-- What a classifier returns. -/
structure Reading where
  fulfillmentStatus : FulfillmentStatus
  overallStatus : OverallStatus
  errorCode : Option String
  errorMessage : Option String
  deriving Repr, DecidableEq

def Reading.statuses (x : Reading) : FulfillmentStatus × OverallStatus :=
  (x.fulfillmentStatus, x.overallStatus)

def TrackRecord.statuses (r : TrackRecord) : FulfillmentStatus × OverallStatus :=
  (r.fulfillmentStatus, r.overallStatus)

/-- A reading without an error. -/
def clean (f : FulfillmentStatus) (o : OverallStatus) : Reading := ⟨f, o, none, none⟩

/-- `_category_for_registration_order`; the sync has it inline. -/
def categoryForRegistrationOrder (o : Order) : TrackRecordCategory × String :=
  if o.isTransfer then (.domainTransfer, "OpenProvider")
  else if o.atReseller ∨ hasToken o.priceSource "reseller" then
    (.domainRegistrationReseller, "Reseller")
  else if hasToken o.priceSource "marketplace" ∨ hasToken o.priceSource "market" then
    (.domainMarketplace, "Razorpay")
  else (.domainRegistrationOpenprovider, "OpenProvider")

/-- `_status_for_registration_order`. -/
def statusForRegistrationOrder (o : Order) : Reading :=
  let st := statusText o.status
  let failed (code default : String) (overall : OverallStatus) : Reading :=
    ⟨.failed, overall, some code, some (o.provisionMessage.getD default)⟩
  if (hasToken st "ACTIVE" ∨ hasToken st "REGISTERED") ∧ o.hasRealId then
    clean .provisioned .success
  else if o.isTransfer ∧ (hasToken st "EXPIRED" ∨ hasToken st "CANCELLED") then
    if o.razorpayPaymentId = none ∧ o.openProviderDomainId = none then
      if hasToken st "CANCELLED" then clean .cancelled .cancelled else clean .expired .expired
    else clean .inProgress .pending
  else if o.isTransfer ∧ hasToken st "REFUND" then
    if o.transferStatus = .failed ∨ o.openProviderDomainId = none then
      failed "TRANSFER_FAILED" "Domain transfer failed." .refunded
    else clean .inProgress .refunded
  else if o.transferStatus = .failed ∨
      o.isTransfer ∧ (hasToken st "PROVISION_FAILED" ∨ hasToken st "FAIL") then
    failed "TRANSFER_FAILED" "Domain transfer failed." .failed
  else if hasToken st "REFUND" then clean .provisioned .refunded
  else if hasToken st "PROVISION_FAILED" ∨ hasToken st "EXPIRED" ∨
      hasToken st "FAIL" ∧ ¬ hasToken st "PAYMENT_COMPLETED" then
    failed "PROVISIONING_ERROR" "Domain registration failed or expired." .failed
  else if hasToken st "PAYMENT_COMPLETED" ∨ hasToken st "REGISTRATION_PENDING" ∨
      hasToken st "CREATED" then
    clean .inProgress .pending
  else if hasToken st "CANCEL" then failed "PROVISIONING_ERROR" "Order cancelled." .failed
  else if (hasToken st "ACTIVE" ∨ hasToken st "REGISTERED") ∧ o.openProviderDomainId = none then
    ⟨.failed, .failed, some "NO_OPENPROVIDER_DOMAIN_ID",
      some "Order marked ACTIVE/registered but open_provider_domain_id is missing."⟩
  else clean .inProgress .pending

/-- What `record_from_registration_order` passes on. -/
def fromRegistrationOrder (o : Order) : Attempt :=
  let reading := statusForRegistrationOrder o
  { internalOrderId := some (.registration o.id)
    category := (categoryForRegistrationOrder o).1
    providerSubcategory := (categoryForRegistrationOrder o).2
    itemName := if o.domainName = "" then toString o.id else o.domainName
    buyerPhone := o.buyerPhone
    paymentStatus := if hasToken (statusText o.status) "REFUND" then .refunded else .captured
    razorpayOrderId := o.razorpayOrderId
    razorpayPaymentId := o.razorpayPaymentId
    razorpayRefundId := o.razorpayRefundId
    fulfillmentStatus := reading.fulfillmentStatus
    overallStatus := reading.overallStatus
    openproviderDomainId := o.openProviderDomainId
    errorCode := reading.errorCode
    errorMessage := reading.errorMessage
    errorSource := if reading.errorCode.isSome then some "OPENPROVIDER_OR_BACKEND" else none
    createdAt := none
    clearErrors := false }

@[simp] theorem fromRegistrationOrder_fulfillmentStatus (o : Order) :
    (fromRegistrationOrder o).fulfillmentStatus =
      (statusForRegistrationOrder o).fulfillmentStatus := rfl

@[simp] theorem fromRegistrationOrder_overallStatus (o : Order) :
    (fromRegistrationOrder o).overallStatus = (statusForRegistrationOrder o).overallStatus := rfl

/-- `record_from_registration_order`. -/
def recordFromRegistrationOrder (t : Table) (o : Order) : Table :=
  recordPaidAttempt 0 t (fromRegistrationOrder o)

/-- The orders that `backfill_from_registration_orders` selects. -/
def backfillOrders (orders : List Order) (razorpayOrder : Option OrderId)
    (razorpayPayment : Option PaymentId) : List Order :=
  let byOrder := match razorpayOrder with
    | some order => orders.filter (·.razorpayOrderId = some order)
    | none => []
  match byOrder, razorpayPayment with
  | [], some payment => orders.filter (·.razorpayPaymentId = some payment)
  | found, _ => found

/-- `backfill_from_registration_orders`. -/
def backfillFromRegistrationOrders (orders : List Order) (t : Table)
    (razorpayOrder : Option OrderId) (razorpayPayment : Option PaymentId) : Table :=
  ((backfillOrders orders razorpayOrder razorpayPayment).filter
    (·.razorpayPaymentId.isSome)).foldl recordFromRegistrationOrder t

/-! ## The sync -/

/-- What `_status_for_sync_order` returns, in its order. -/
structure SyncReading where
  fulfillmentStatus : FulfillmentStatus
  overallStatus : OverallStatus
  errorSource : Option String
  errorCode : Option String
  errorMessage : Option String
  deriving Repr, DecidableEq

def SyncReading.statuses (x : SyncReading) : FulfillmentStatus × OverallStatus :=
  (x.fulfillmentStatus, x.overallStatus)

/-- A reading without an error. -/
def syncClean (f : FulfillmentStatus) (o : OverallStatus) : SyncReading := ⟨f, o, none, none, none⟩

/-- `is_success` of the sync. -/
def syncSuccess (st : String) : Bool :=
  ["SUCCESS", "COMPLETED", "REGISTERED", "ACTIVE"].any (hasToken st)

/-- `_status_for_sync_order`. -/
def statusForSyncOrder (o : Order) (targetProvider : String) : SyncReading :=
  let st := statusName o.status
  let upper := String.ofList (targetProvider.toList.map Char.toUpper)
  if syncSuccess st ∧ o.hasRealId then syncClean .provisioned .success
  else if o.isTransfer then
    if (hasToken st "EXPIRED" ∨ hasToken st "CANCELLED") ∧ o.transferStatus = .paymentPending ∧
        o.razorpayPaymentId = none ∧ o.openProviderDomainId = none then
      if hasToken st "CANCELLED" then syncClean .cancelled .cancelled
      else syncClean .expired .expired
    else if o.hasDemoId ∨ o.transferStatus = .failed ∨ o.providerFailed then
      ⟨.failed, if hasToken st "REFUND" then .refunded else .failed,
        some (upper ++ "_TRANSFER_FAILED"), some "TRANSFER_FAILED",
        some (o.provisionMessage.getD (targetProvider ++ " domain transfer failed."))⟩
    else if hasToken st "REFUND" then syncClean .inProgress .refunded
    else syncClean .inProgress .pending
  else if hasToken st "REFUND" then syncClean .provisioned .refunded
  else if hasToken st "FAIL" ∨ hasToken st "CANCEL" ∨ o.hasDemoId then
    ⟨.failed, .failed, some (upper ++ "_REGISTRATION_FAILED"), some "REGISTRATION_FAILED",
      some (o.provisionMessage.getD (targetProvider ++ " domain registration failed."))⟩
  else syncClean .inProgress .pending

/-- The attempt for an order that has no record. -/
def firstSync (o : Order) : Attempt where
  internalOrderId := some (.registration o.id)
  category := (categoryForRegistrationOrder o).1
  providerSubcategory := (categoryForRegistrationOrder o).2
  itemName := o.domainName
  buyerPhone := o.buyerPhone
  paymentStatus := if syncSuccess (statusName o.status) then .captured else .pending
  razorpayOrderId := o.razorpayOrderId
  razorpayPaymentId := o.razorpayPaymentId
  razorpayRefundId := o.razorpayRefundId
  fulfillmentStatus := if syncSuccess (statusName o.status) then .provisioned else .inProgress
  overallStatus := if syncSuccess (statusName o.status) then .success else .pending
  openproviderDomainId := none
  errorCode := none
  errorMessage := none
  errorSource := none
  createdAt := o.createdAt
  clearErrors := false

/-- The statuses of a transfer's record, re-evaluated. The call takes the last two parts of the
reading the wrong way round, so that the code becomes the message. -/
def TrackRecord.reevaluated (r : TrackRecord) (x : SyncReading) : TrackRecord :=
  if r.fulfillmentStatus ≠ x.fulfillmentStatus ∨ r.overallStatus ≠ x.overallStatus ∨
      r.errorCode ≠ x.errorMessage then
    { r with
      fulfillmentStatus := x.fulfillmentStatus
      overallStatus := x.overallStatus
      errorCode := x.errorMessage
      errorMessage := x.errorCode
      errorSource := x.errorSource }
  else r

/-- What a row of the sync writes to every record it finds. -/
def TrackRecord.relabelled (r : TrackRecord) (o : Order) : TrackRecord :=
  { r with
    itemName := if o.domainName ≠ "" ∧ isGeneric r.itemName then o.domainName else r.itemName
    category := (categoryForRegistrationOrder o).1
    providerSubcategory := (categoryForRegistrationOrder o).2
    createdAt := o.createdAt.or r.createdAt
    buyerPhone := r.buyerPhone.or o.buyerPhone }

/-- What a row of the sync makes of the record it has found. "Normal registrations keep their
existing update contract." -/
def TrackRecord.refreshed (r : TrackRecord) (o : Order) : TrackRecord :=
  if o.isTransfer then (r.relabelled o).reevaluated (statusForSyncOrder o "OpenProvider")
  else r.relabelled o

/-- The record of the order: by internal id, else by payment, else by Razorpay order. -/
def existing (t : Table) (o : Order) : Option TrackRecord :=
  (findByInternalOrderId t (.registration o.id)).or
    ((o.razorpayPaymentId.bind (findByRazorpayPaymentId t)).or
      (o.razorpayOrderId.bind (findByRazorpayOrderId t)))

/-- One row of the first section of `_sync_historical_purchases_unlocked`. -/
def syncRow (t : Table) (o : Order) : Table :=
  match existing t o with
  | some r => Table.update (·.internalOrderId) r.internalOrderId (·.refreshed o) t
  | none => recordPaidAttempt 0 t (firstSync o)

/-- `sync_historical_purchases` on the rows, in the order of the select. -/
def syncHistoricalPurchases (t : Table) (rows : List Order) : Table := Run.exec syncRow t rows

/-! ## What the tokens say

One status name may contain another, so every test is resolved once. -/

theorem hasToken_statusText (s : RegistrationOrderStatus) :
    (hasToken (statusText s) "ACTIVE" = true ↔ s = .active) ∧
    hasToken (statusText s) "REGISTERED" = false ∧
    (hasToken (statusText s) "EXPIRED" = true ↔ s = .expired) ∧
    hasToken (statusText s) "CANCELLED" = false ∧
    hasToken (statusText s) "CANCEL" = false ∧
    (hasToken (statusText s) "REFUND" = true ↔ s = .refunded) ∧
    (hasToken (statusText s) "PROVISION_FAILED" = true ↔ s = .provisionFailed) ∧
    (hasToken (statusText s) "FAIL" = true ↔
      s = .paymentFailed ∨ s = .failed ∨ s = .provisionFailed) ∧
    (hasToken (statusText s) "PAYMENT_COMPLETED" = true ↔ s = .paymentCompleted) ∧
    (hasToken (statusText s) "REGISTRATION_PENDING" = true ↔ s = .registrationPending) ∧
    (hasToken (statusText s) "CREATED" = true ↔ s = .created) := by
  cases s <;> decide +kernel

theorem hasToken_statusName (s : RegistrationOrderStatus) :
    (hasToken (statusName s) "EXPIRED" = true ↔ s = .expired) ∧
    hasToken (statusName s) "CANCELLED" = false ∧
    hasToken (statusName s) "CANCEL" = false ∧
    (hasToken (statusName s) "REFUND" = true ↔ s = .refunded) ∧
    (hasToken (statusName s) "FAIL" = true ↔
      s = .paymentFailed ∨ s = .failed ∨ s = .provisionFailed) ∧
    (syncSuccess (statusName s) = true ↔ s = .active ∨ s = .paymentCompleted) := by
  cases s <;> decide +kernel

theorem hasToken_overall (s : OverallStatus) :
    (["EXPIRED", "CANCELLED", "REFUND"].any (hasToken s.upper) = true ↔
      s = .expired ∨ s = .cancelled ∨ s = .refunded) ∧
    (["REFUND", "CANCEL", "EXPIRED", "FAIL"].any (hasToken s.upper) = true ↔
      s = .refunded ∨ s = .cancelled ∨ s = .expired ∨ s = .failed) ∧
    (hasToken s.upper "SUCCESS" = true ↔ s = .success) := by
  cases s <;> decide +kernel

theorem hasToken_payment (s : PaymentStatus) :
    (hasToken s.upper "REFUND" = true ↔ s = .refunded) ∧
    (hasToken s.upper "FAIL" = true ↔ s = .failed) ∧
    (["CAPTURED", "PAID", "SUCCESS"].any (hasToken s.upper) = true ↔ s = .captured) := by
  cases s <;> decide +kernel

theorem hasToken_fulfillment (s : FulfillmentStatus) :
    (hasToken s.upper "FAIL" = true ↔ s = .failed) ∧
    (hasToken s.upper "PROVISIONED" = true ↔ s = .provisioned) ∧
    (hasToken s.upper "PARTIAL" = true ↔ s = .partly) ∧
    (["PROVISIONED", "COMPLETED", "SUCCESS", "ACTIVE"].any (hasToken s.upper) = true ↔
      s = .provisioned) ∧
    (["PROVISIONED", "ACTIVE", "COMPLETED"].any (hasToken s.upper) = true ↔ s = .provisioned) ∧
    (["IN_PROGRESS", "NOT_STARTED", "PENDING"].contains s.upper = true ↔
      s = .inProgress ∨ s = .notStarted) := by
  cases s <;> decide +kernel

/-! ## The writer -/

section Writer

variable {passed : OverallStatus} {r : TrackRecord} {a : Attempt} {t : Table} {id : InternalId}

theorem automaticOverall_success_iff : automaticOverall passed r = .success ↔
    (passed ≠ .expired ∧ passed ≠ .cancelled ∧ passed ≠ .refunded) ∧ r.razorpayRefundId = none ∧
      r.paymentStatus = .captured ∧ r.errorCode = none ∧ r.fulfillmentStatus = .provisioned := by
  simp only [automaticOverall, hasToken_overall, hasToken_payment, hasToken_fulfillment]
  split_ifs <;> grind

theorem automaticOverall_refunded_iff : automaticOverall passed r = .refunded ↔
    passed = .refunded ∨ (passed ≠ .expired ∧ passed ≠ .cancelled) ∧
      (r.razorpayRefundId ≠ none ∨ r.paymentStatus = .refunded) := by
  simp only [automaticOverall, hasToken_overall, hasToken_payment, hasToken_fulfillment]
  split_ifs <;> grind

theorem TrackRecord.isSuccess_iff :
    r.isSuccess = true ↔ r.statuses = (.provisioned, .success) := by
  simp only [TrackRecord.isSuccess, Bool.and_eq_true, hasToken_fulfillment, hasToken_overall,
    TrackRecord.statuses, Prod.mk.injEq]

theorem Attempt.isIntermediate_iff : a.isIntermediate = true ↔
    (a.fulfillmentStatus = .inProgress ∨ a.fulfillmentStatus = .notStarted) ∧
      a.errorCode = none ∧ a.overallStatus ≠ .refunded ∧ a.overallStatus ≠ .cancelled ∧
        a.overallStatus ≠ .expired ∧ a.overallStatus ≠ .failed := by
  simp only [Attempt.isIntermediate, Bool.and_eq_true, Bool.not_eq_true', ← Bool.not_eq_true,
    hasToken_fulfillment, hasToken_overall, Option.isNone_iff_eq_none, not_or, and_assoc]

theorem settled_success_iff : (r.settled passed).overallStatus = .success ↔
    (passed ≠ .expired ∧ passed ≠ .cancelled ∧ passed ≠ .refunded) ∧ r.razorpayRefundId = none ∧
      r.paymentStatus = .captured ∧ r.errorCode = none ∧ r.fulfillmentStatus = .provisioned :=
  automaticOverall_success_iff

theorem settled_refunded_iff : (r.settled passed).overallStatus = .refunded ↔
    passed = .refunded ∨ (passed ≠ .expired ∧ passed ≠ .cancelled) ∧
      (r.razorpayRefundId ≠ none ∨ r.paymentStatus = .refunded) :=
  automaticOverall_refunded_iff

/-- The record under `id` as an attempt for it writes it. -/
def Attempt.written (a : Attempt) (id : InternalId) : Option TrackRecord → TrackRecord
  | some r => r.update a
  | none => a.newRecord id

@[simp] theorem written_paymentStatus (a : Attempt) (id : InternalId) (prev : Option TrackRecord) :
    (a.written id prev).paymentStatus = a.paymentStatus := by
  cases prev <;> rfl

@[simp] theorem written_none_fulfillmentStatus (a : Attempt) (id : InternalId) :
    (a.written id none).fulfillmentStatus = a.fulfillmentStatus := rfl

@[simp] theorem written_some_fulfillmentStatus (a : Attempt) (id : InternalId) (r : TrackRecord) :
    (a.written id (some r)).fulfillmentStatus =
      if r.keepsSuccess a then r.fulfillmentStatus else a.fulfillmentStatus := rfl

/-- The record under `id` after the attempt. -/
def Attempt.outcome (a : Attempt) (id : InternalId) (prev : Option TrackRecord) : TrackRecord :=
  (a.written id prev).settled a.overallStatus

theorem written_some_razorpayRefundId (a : Attempt) (id : InternalId) (p : TrackRecord) :
    (a.written id (some p)).razorpayRefundId = a.razorpayRefundId.or p.razorpayRefundId := rfl

@[simp] theorem outcome_razorpayRefundId (a : Attempt) (id : InternalId)
    (prev : Option TrackRecord) :
    (a.outcome id prev).razorpayRefundId = (a.written id prev).razorpayRefundId := rfl

theorem insert_of_none (h : findByInternalOrderId t r.internalOrderId = none) :
    insert t r = t ++ [r] := by
  have hnone : ∀ x ∈ t, x.internalOrderId ≠ r.internalOrderId := Table.lookup_eq_none.mp h
  simpa [insert] using hnone

theorem find_append (t : Table) (r : TrackRecord) (id : InternalId) :
    findByInternalOrderId (t ++ [r]) id =
      (findByInternalOrderId t id).or (if r.internalOrderId = id then some r else none) := by
  simp only [findByInternalOrderId, Table.lookup, List.find?_append]
  by_cases h : r.internalOrderId = id <;> simp [h]

theorem recordPaidAttempt_none (fresh : Nat) (ha : a.internalOrderId = some id)
    (h : findByInternalOrderId t id = none) :
    recordPaidAttempt fresh t a = t ++ [a.outcome id none] := by
  have hrecord : a.record t = none := by simp [Attempt.record, ha, h]
  simp only [recordPaidAttempt, hrecord, ha, Option.getD_some]
  exact insert_of_none h

theorem recordPaidAttempt_some (fresh : Nat) (ha : a.internalOrderId = some id)
    (h : findByInternalOrderId t id = some r) : recordPaidAttempt fresh t a =
      Table.update (·.internalOrderId) id (fun r => a.outcome id (some r)) t := by
  have hrecord : a.record t = some r := by simp [Attempt.record, ha, h]
  obtain ⟨-, hid⟩ := Table.lookup_eq_some h
  simp only [recordPaidAttempt, hrecord, hid]
  rfl

theorem find_recordPaidAttempt (fresh : Nat) (t : Table) (ha : a.internalOrderId = some id) :
    findByInternalOrderId (recordPaidAttempt fresh t a) id =
      some (a.outcome id (findByInternalOrderId t id)) := by
  cases h : findByInternalOrderId t id with
  | none =>
    have hid : (a.outcome id none).internalOrderId = id := rfl
    rw [recordPaidAttempt_none fresh ha h, find_append, h, hid]
    simp
  | some r =>
    rw [recordPaidAttempt_some fresh ha h, findByInternalOrderId,
      Table.lookup_update_self (f := fun r => a.outcome id (some r)) fun _ => rfl]
    exact congrArg (Option.map _) h

end Writer

/-! ## The classifiers -/

section Classifiers

variable {o : Order} {x : Reading} (provider : String)

theorem Order.isTransfer_of_failed (h : o.transferStatus = .failed) : o.isTransfer = true := by
  simp [Order.isTransfer, h]

theorem Order.hasDemoId_iff :
    o.hasDemoId = true ↔ o.openProviderDomainId ≠ none ∧ o.hasRealId = false := by
  unfold Order.hasRealId Order.hasDemoId
  cases o.openProviderDomainId <;> simp

/-- What the live path reads, in terms of the status. -/
inductive LiveCase (o : Order) : Reading → Prop
  | success : o.status = .active → o.hasRealId = true → LiveCase o (clean .provisioned .success)
  | expired : o.status = .expired → LiveCase o (clean .expired .expired)
  | pending : o.status ≠ .refunded → LiveCase o (clean .inProgress .pending)
  | refunded {x : Reading} : o.status = .refunded → x.overallStatus = .refunded → LiveCase o x
  | failed (code : String) (message : Option String) : o.status ≠ .refunded →
      LiveCase o ⟨.failed, .failed, some code, message⟩

theorem statusForRegistrationOrder_case (o : Order) :
    LiveCase o (statusForRegistrationOrder o) := by
  simp only [statusForRegistrationOrder, hasToken_statusText, Bool.false_eq_true, or_false,
    if_false]
  split_ifs with hsuccess hexpired hunpaid hrefunded hfailed htransfer hreversed hbroken hpending
    hmissing
  · exact .success hsuccess.1 hsuccess.2
  · exact .expired hexpired.2
  · exact .pending (by simp [hexpired.2])
  · exact .refunded hrefunded.2 rfl
  · exact .refunded hrefunded.2 rfl
  · refine .failed _ _ fun h => hrefunded ⟨?_, h⟩
    exact htransfer.elim Order.isTransfer_of_failed And.left
  · exact .refunded hreversed rfl
  · exact .failed _ _ hreversed
  · exact .pending hreversed
  · exact .failed _ _ hreversed
  · exact .pending hreversed

theorem live_success_iff : (statusForRegistrationOrder o).statuses = (.provisioned, .success) ↔
    o.status = .active ∧ o.hasRealId = true := by
  constructor
  · intro h
    have hcase := statusForRegistrationOrder_case o
    generalize statusForRegistrationOrder o = x at h hcase
    cases hcase with
    | success hactive hreal => exact ⟨hactive, hreal⟩
    | refunded _ hx => simp [Reading.statuses, hx] at h
    | _ => simp [Reading.statuses, clean] at h
  · intro h
    simp [statusForRegistrationOrder, hasToken_statusText, h, clean, Reading.statuses]

theorem live_pending_iff : (statusForRegistrationOrder o).statuses = (.inProgress, .pending) ↔
    (o.isTransfer = true ∧ o.status = .expired ∧
      (o.razorpayPaymentId ≠ none ∨ o.openProviderDomainId ≠ none)) ∨
    o.transferStatus ≠ .failed ∧
      ((o.status = .paymentCompleted ∨ o.status = .registrationPending ∨ o.status = .created) ∨
        o.status = .active ∧ o.hasDemoId = true) := by
  have hfailed := Order.isTransfer_of_failed (o := o)
  have hdemo := Order.hasDemoId_iff (o := o)
  simp only [statusForRegistrationOrder, hasToken_statusText, Bool.false_eq_true, or_false,
    if_false]
  cases hs : o.status
  all_goals simp only [reduceCtorEq, false_and, and_false, if_false, false_or, or_false, true_and,
    if_true, or_true, not_false_iff, and_true, not_true]
  all_goals split_ifs <;> grind [clean, Reading.statuses]

theorem sync_success_iff : (statusForSyncOrder o provider).statuses = (.provisioned, .success) ↔
    (o.status = .active ∨ o.status = .paymentCompleted) ∧ o.hasRealId = true := by
  simp only [statusForSyncOrder, hasToken_statusName]
  split_ifs <;> grind [syncClean, SyncReading.statuses]

theorem sync_pending_iff (h : ¬ (o.status = .active ∨ o.status = .paymentCompleted)) :
    (statusForSyncOrder o provider).statuses = (.inProgress, .pending) ↔
      o.hasDemoId = false ∧ o.status ≠ .refunded ∧
        if o.isTransfer then
          o.transferStatus ≠ .failed ∧ o.providerFailed = false ∧
            (o.status = .expired → o.transferStatus = .paymentPending →
              o.razorpayPaymentId ≠ none ∨ o.openProviderDomainId ≠ none)
        else o.status ≠ .paymentFailed ∧ o.status ≠ .failed ∧ o.status ≠ .provisionFailed := by
  simp only [statusForSyncOrder, hasToken_statusName, h]
  split_ifs <;> grind [syncClean, SyncReading.statuses]

theorem sync_refunded (h : (statusForSyncOrder o provider).overallStatus = .refunded) :
    o.status = .refunded := by
  simp only [statusForSyncOrder, hasToken_statusName] at h
  split_ifs at h <;> grind [syncClean]

theorem sync_overall_success (h : (statusForSyncOrder o provider).overallStatus = .success) :
    (o.status = .active ∨ o.status = .paymentCompleted) ∧ o.hasRealId = true := by
  simp only [statusForSyncOrder, hasToken_statusName] at h
  split_ifs at h <;> grind [syncClean]

end Classifiers

/-! ## The rows of the sync -/

section Rows

variable {r : TrackRecord} {o : Order} {t : Table} {f : TrackRecord → TrackRecord}

@[simp] theorem refreshed_internalOrderId (r : TrackRecord) (o : Order) :
    (r.refreshed o).internalOrderId = r.internalOrderId := by
  unfold TrackRecord.refreshed TrackRecord.reevaluated
  split_ifs <;> rfl

@[simp] theorem refreshed_razorpayPaymentId (r : TrackRecord) (o : Order) :
    (r.refreshed o).razorpayPaymentId = r.razorpayPaymentId := by
  unfold TrackRecord.refreshed TrackRecord.reevaluated
  split_ifs <;> rfl

@[simp] theorem refreshed_razorpayOrderId (r : TrackRecord) (o : Order) :
    (r.refreshed o).razorpayOrderId = r.razorpayOrderId := by
  unfold TrackRecord.refreshed TrackRecord.reevaluated
  split_ifs <;> rfl

theorem reevaluated_statuses (r : TrackRecord) (x : SyncReading) :
    (r.reevaluated x).statuses = x.statuses := by
  unfold TrackRecord.reevaluated
  split_ifs with h
  · rfl
  · push Not at h
    simp [TrackRecord.statuses, SyncReading.statuses, h.1, h.2.1]

theorem reevaluated_again (r : TrackRecord) (x : SyncReading) :
    (r.reevaluated x).reevaluated x = r.reevaluated x := by
  by_cases h : r.fulfillmentStatus ≠ x.fulfillmentStatus ∨ r.overallStatus ≠ x.overallStatus ∨
      r.errorCode ≠ x.errorMessage
  · simp [TrackRecord.reevaluated, h]
  · simp [TrackRecord.reevaluated, h]

theorem relabelled_again (r : TrackRecord) (o : Order) :
    (r.relabelled o).relabelled o = r.relabelled o := by
  have hdate : o.createdAt.or (o.createdAt.or r.createdAt) = o.createdAt.or r.createdAt := by
    cases o.createdAt <;> rfl
  have hphone : (r.buyerPhone.or o.buyerPhone).or o.buyerPhone = r.buyerPhone.or o.buyerPhone := by
    cases r.buyerPhone <;> cases o.buyerPhone <;> rfl
  unfold TrackRecord.relabelled
  dsimp only
  rw [hdate, hphone]
  by_cases hgeneric : o.domainName ≠ "" ∧ isGeneric r.itemName = true
  · simp only [if_pos hgeneric, ite_self]
  · simp only [if_neg hgeneric]

theorem relabelled_reevaluated (r : TrackRecord) (o : Order) (x : SyncReading) :
    (r.reevaluated x).relabelled o = (r.relabelled o).reevaluated x := by
  unfold TrackRecord.reevaluated TrackRecord.relabelled
  dsimp only
  split_ifs <;> rfl

theorem refreshed_again (r : TrackRecord) (o : Order) :
    (r.refreshed o).refreshed o = r.refreshed o := by
  by_cases h : o.isTransfer = true
  · simp only [TrackRecord.refreshed, h, if_true, relabelled_reevaluated, relabelled_again,
      reevaluated_again]
  · simp only [TrackRecord.refreshed, h, if_false, relabelled_again, Bool.false_eq_true]

/-- A lookup after a change of the records that keeps their ids. -/
theorem existing_map (hid : ∀ r, (f r).internalOrderId = r.internalOrderId)
    (hpayment : ∀ r, (f r).razorpayPaymentId = r.razorpayPaymentId)
    (horder : ∀ r, (f r).razorpayOrderId = r.razorpayOrderId) (t : Table) (o : Order) :
    existing (t.map f) o = (existing t o).map f := by
  have hfind {p : TrackRecord → Bool} (hp : ∀ r, p (f r) = p r) :
      (t.map f).find? p = (t.find? p).map f := by
    rw [List.find?_map, show p ∘ f = p from funext hp]
  have hinternal : findByInternalOrderId (t.map f) (.registration o.id) =
      (findByInternalOrderId t (.registration o.id)).map f :=
    hfind fun r => by simp only [hid]
  have hpaid (payment : PaymentId) :
      findByRazorpayPaymentId (t.map f) payment = (findByRazorpayPaymentId t payment).map f :=
    hfind fun r => by simp only [hpayment]
  have hordered (order : OrderId) :
      findByRazorpayOrderId (t.map f) order = (findByRazorpayOrderId t order).map f :=
    hfind fun r => by simp only [horder]
  unfold existing
  rw [hinternal]
  cases o.razorpayPaymentId <;> cases o.razorpayOrderId <;>
    simp [hpaid, hordered, Option.map_or]

end Rows

end Deltapreneur.TrackRecords
