import RomaBridge.Model.Records
import RomaBridge.Model.PyValues
import RomaBridge.Foundation.System

/-! `cloudpayments_webhook` of `routers/webhooks.py` and the statements of `db_pg_sync.py` it
runs: the tenants' subscriptions and the processed invoices.
-/

namespace RomaBridge.Model.Webhooks

open RomaBridge.Foundation RomaBridge.Model

/-- The columns of `tenants` that the webhook reads or writes. -/
structure Tenant where
  id : String
  plan : PyValue := .str "free"
  stripeCustomerId : PyValue := .none
  stripeSubscriptionId : String := ""
  subscriptionStatus : String := "inactive"
  subscriptionEndDate : Option ℚ := none
  deriving DecidableEq, Repr

/-- A row of `processed_invoices`. -/
structure ProcessedInvoice where
  invoiceId : PyValue
  eventType : PyValue
  tenantId : String
  deriving DecidableEq, Repr

structure WebhookDb where
  tenants : Table String Tenant Tenant.id
  processed : Table PyValue ProcessedInvoice ProcessedInvoice.invoiceId

/-- A statement of the webhook that commits. -/
inductive DbWrite where
  | updateTenantSubscription (tenantId : String) (stripeCustomerId : PyValue)
    (stripeSubscriptionId subscriptionStatus : String) (plan : PyValue)
  | setTenantInactive (tenantId : String)
  | markInvoiceProcessed (invoiceId eventType : PyValue) (tenantId : String)
  deriving DecidableEq, Repr

/-- The effect of a committed statement. -/
def WebhookDb.apply (db : WebhookDb) : DbWrite → WebhookDb
  | .updateTenantSubscription tenantId stripeCustomerId stripeSubscriptionId status plan =>
      { db with
        tenants := db.tenants.update (fun tenant => tenant.id = tenantId)
          (fun tenant => { tenant with
            stripeCustomerId, stripeSubscriptionId, subscriptionStatus := status, plan
            subscriptionEndDate := none }) (fun _ => rfl) }
  | .setTenantInactive tenantId =>
      { db with
        tenants := db.tenants.update (fun tenant => tenant.id = tenantId)
          (fun tenant => { tenant with subscriptionStatus := "inactive" }) (fun _ => rfl) }
  | .markInvoiceProcessed invoiceId eventType tenantId =>
      { db with
        processed := (db.processed.insert? ⟨invoiceId, eventType, tenantId⟩).getD db.processed }

/-- `is_invoice_processed`; an empty tenant matches every row. -/
def WebhookDb.isInvoiceProcessed (db : WebhookDb) (invoiceId : PyValue) (tenantId : String)
    : Bool :=
  match db.processed.find? invoiceId with
  | some row => tenantId = "" || row.tenantId = tenantId
  | none => false

/-- `CLOUDPAYMENTS_PLANS`: amount and currency. -/
def cloudpaymentsPlans : List (String × ℚ × String) :=
  [("pro", 4900, "RUB"), ("enterprise", 29900, "RUB")]

def expectedPlanMoney (plan : PyValue) : Option (ℚ × String) :=
  match plan with
  | .str name => cloudpaymentsPlans.lookup name
  | _ => none

/-- `Decimal(str(raw))` of the `Amount` field, when it is a finite number and no boolean. -/
def amountOf : PyValue → Option ℚ
  | .int value => some value
  | .float value => some value
  | .str text => decimalOfText text
  | _ => none

def amountMatchesPlan (payload : PyDict) (plan : PyValue) : Bool :=
  match expectedPlanMoney plan with
  | none => false
  | some (expectedAmount, expectedCurrency) =>
      match payload.get "Currency" with
      | .str currency =>
          pyStrip currency ≠ "" && (pyStrip currency).toUpper = expectedCurrency
            && amountOf (payload.get "Amount") = some expectedAmount
      | _ => false

/-- What `json.loads` makes of a text: a dictionary, of which only `plan` is read, or not. -/
inductive DataValue where
  | dict (plan : Option PyValue)
  | notDict

/-- The `Data` field: absent or empty, a text with what `json.loads` makes of it (`none` when it
raises), or a value.
-/
inductive RawData where
  | empty
  | text (loaded : Option DataValue)
  | value (data : DataValue)

structure Payload where
  fields : PyDict
  data : RawData := .empty

/-- The body of a request: no JSON, JSON that is no object, or an object. -/
inductive Body where
  | invalid
  | notObject
  | object (payload : Payload)

/-- How the database calls of one request end. -/
structure DbFaults where
  reads : Option Exn := none
  firstWrite : Fault := .none
  secondWrite : Fault := .none

/-- A request to the webhook: the configuration it meets, its signature and its body. -/
structure Delivery where
  enabled : Bool := true
  secretConfigured : Bool := true
  signatureValid : Bool := true
  body : Body
  faults : DbFaults := {}

/-- The answer to a request. `crashed` is an exception that no handler turns into a reply. -/
inductive Answer where
  | code0
  | http (status : ℕ)
  | crashed
  deriving DecidableEq, Repr

def refusedStatuses : List PyValue := [.str "Declined", .str "Cancelled"]

/-- `payload.get("OperationType") or payload.get("Status") or ""`. -/
def Payload.eventType (payload : Payload) : PyValue :=
  ((payload.fields.get "OperationType").orElse (payload.fields.get "Status")).orElse (.str "")

/-- `payload.get("Status", "")`. -/
def Payload.status (payload : Payload) : PyValue := payload.fields.getOr "Status" (.str "")

/-- `status in _REFUSED_STATUSES`. -/
def Payload.refused (payload : Payload) : Bool := refusedStatuses.contains payload.status

/-- `payload.get("InvoiceId", "")`. -/
def Payload.invoiceId (payload : Payload) : PyValue := payload.fields.getOr "InvoiceId" (.str "")

/-- `(payload.get("AccountId") or "").strip()`; `none` is a value without `strip`. -/
def Payload.tenantId (payload : Payload) : Option String :=
  match (payload.fields.get "AccountId").orElse (.str "") with
  | .str text => some (pyStrip text)
  | _ => none

/-- `data.get("plan", "")`; `none` is a value without `get`. -/
def Payload.plan (payload : Payload) : Option PyValue :=
  let data :=
    match payload.data with
    | .empty => DataValue.dict none
    | .text loaded => loaded.getD (.dict none)
    | .value data => data
  match data with
  | .dict plan => some (plan.getD (.str ""))
  | .notDict => none

/-- The writes of the branch a payload takes, in order; `none` is the amount mismatch, which
leaves the invoice open.
-/
def branchWrites (payload : Payload) (tenantId : String) (plan : PyValue)
    : Option (List DbWrite) :=
  let eventType := payload.eventType
  let status := payload.status
  let invoiceId := payload.invoiceId
  let mark (text : String) : DbWrite :=
    .markInvoiceProcessed invoiceId (eventType.orElse (.str text)) tenantId
  let activate : List DbWrite :=
    [.updateTenantSubscription tenantId invoiceId "" "active" plan, mark ""]
  if ! payload.refused
      && ([PyValue.str "Payment", .str "Pay", .str "Completed"].contains eventType
        || [PyValue.str "Completed", .str "Authorized"].contains status) then
    if [PyValue.str "pro", .str "enterprise"].contains plan then
      if ! amountMatchesPlan payload.fields plan then none else some activate
    else some [mark "payment_no_plan"]
  else if eventType = .str "Recurrent" && status = .str "Completed" then
    if plan.truthy then
      if ! amountMatchesPlan payload.fields plan then none else some activate
    else some [mark "recurrent_no_plan"]
  else if [PyValue.str "Fail", .str "Declined"].contains eventType || payload.refused then
    some [.setTenantInactive tenantId, mark ""]
  else if [PyValue.str "Cancel", .str "Unsubscribe"].contains eventType then
    some [.updateTenantSubscription tenantId (.str "") "" "canceled" (.str "free"), mark ""]
  else some [mark "ignored"]

/-- The writes that commit, and whether all of them returned: a fault ends the branch, after its
write or before it.
-/
def commitWrites : List DbWrite → List Fault → List DbWrite × Bool
  | [], _ => ([], true)
  | write :: rest, faults =>
      match faults.headD .none with
      | .none =>
          let (committed, finished) := commitWrites rest faults.tail
          (write :: committed, finished)
      | .before _ => ([], false)
      | .after _ => ([write], false)

/-- What the handler answers to an object that was signed, and the writes it commits. -/
def handlePayload (faults : DbFaults) (payload : Payload) (db : WebhookDb)
    : Answer × List DbWrite :=
  match payload.tenantId, payload.plan with
  | some tenantId, some plan =>
      let invoiceId := payload.invoiceId
      if ! invoiceId.truthy then (.code0, [])
      else if tenantId = "" then (.http 422, [])
      else
        match faults.reads with
        | some _ => (.crashed, [])
        | none =>
            if (db.tenants.find? tenantId).isNone then (.http 422, [])
            else if db.isInvoiceProcessed invoiceId tenantId then (.code0, [])
            else if db.isInvoiceProcessed invoiceId "" then (.http 409, [])
            else
              match branchWrites payload tenantId plan with
              | none => (.code0, [])
              | some writes =>
                  let (committed, finished) :=
                    commitWrites writes [faults.firstWrite, faults.secondWrite]
                  (if finished then .code0 else .http 500, committed)
  | _, _ => (.crashed, [])

/-- `cloudpayments_webhook`: the answer, the writes it committed and the tables it leaves. -/
def cloudpaymentsWebhook (db : WebhookDb) (delivery : Delivery)
    : (Answer × List DbWrite) × WebhookDb :=
  let (answer, writes) :=
    if ! delivery.enabled || ! delivery.secretConfigured then (Answer.http 503, [])
    else if ! delivery.signatureValid then (.http 400, [])
    else
      match delivery.body with
      | .invalid => (.http 400, [])
      | .notObject => (.crashed, [])
      | .object payload => handlePayload delivery.faults payload db
  ((answer, writes), writes.foldl WebhookDb.apply db)

end RomaBridge.Model.Webhooks
