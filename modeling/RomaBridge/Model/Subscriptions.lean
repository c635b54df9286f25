import RomaBridge.Foundation.Table

/-! The subscription columns of `tenants` and `processed_invoices`, as `db.py` writes and reads them
in SQLite and `db_pg_sync.py` in PostgreSQL. `db_adapter.py` hands the arguments through. Texts have
no NUL character.
-/

namespace RomaBridge.Model.Subscriptions

open RomaBridge.Foundation

/-- The five columns, which are also the arguments of `update_tenant_subscription`; `none` is `NULL`
and `None`.
-/
structure Subscription where
  stripeCustomerId : Option String
  stripeSubscriptionId : Option String
  subscriptionStatus : Option String
  plan : Option String
  subscriptionEndDate : Option String
  deriving DecidableEq, Repr

/-- A row of `tenants`. -/
structure TenantRow where
  id : String
  subscription : Subscription
  deriving DecidableEq, Repr

/-- A row of `processed_invoices`. -/
structure InvoiceRow where
  invoiceId : Option String
  eventType : Option String
  tenantId : Option String
  deriving DecidableEq, Repr

/-- The two tables. `invoice_id` is unique where it is not `NULL`. -/
structure SubscriptionDb where
  tenants : Table String TenantRow TenantRow.id
  invoices : List InvoiceRow

/-- The functions of `db_adapter.py` with their arguments. -/
inductive SubscriptionCall where
  | updateTenantSubscription (tenantId : Option String) (arguments : Subscription)
  | setTenantInactive (tenantId : Option String)
  | markInvoiceProcessed (invoiceId eventType tenantId : Option String)
  | isInvoiceProcessed (invoiceId tenantId : Option String)
  deriving DecidableEq, Repr

/-- What a call returns, or that it raises. -/
inductive Answer where
  | none
  | bool (value : Bool)
  | attributeError
  deriving DecidableEq, Repr

/-- `bool(text)`. -/
def truthy (text : Option String) : Bool :=
  match text with
  | some text => text ≠ ""
  | .none => false

/-- `UPDATE tenants SET ... WHERE id = ?`; nothing is equal to `NULL`. -/
def SubscriptionDb.updateTenant (db : SubscriptionDb) (tenantId : Option String)
    (write : Subscription → Subscription)
    : SubscriptionDb :=
  { db with
    tenants := db.tenants.update (fun row => some row.id = tenantId)
      (fun row => { row with subscription := write row.subscription }) (fun _ => rfl) }

/-- The row that the unique index holds under a text. -/
def SubscriptionDb.invoice? (db : SubscriptionDb) (invoiceId : String) : Option InvoiceRow :=
  db.invoices.find? (fun row => row.invoiceId = some invoiceId)

/-- An insert that a conflict on `invoice_id` turns into nothing. A `NULL` conflicts with none. -/
def SubscriptionDb.insertInvoice (db : SubscriptionDb) (row : InvoiceRow) : SubscriptionDb :=
  if (row.invoiceId.bind db.invoice?).isSome then
    db
  else
    { db with invoices := db.invoices ++ [row] }

/-- A column that SQLite sets to a truthy argument only. -/
def kept (argument stored : Option String) : Option String :=
  if truthy argument then argument else stored

/-- The columns after the partial update of `db.py`. -/
def keptColumns (arguments stored : Subscription) : Subscription where
  stripeCustomerId := kept arguments.stripeCustomerId stored.stripeCustomerId
  stripeSubscriptionId := kept arguments.stripeSubscriptionId stored.stripeSubscriptionId
  subscriptionStatus := kept arguments.subscriptionStatus stored.subscriptionStatus
  plan := kept arguments.plan stored.plan
  subscriptionEndDate := kept arguments.subscriptionEndDate stored.subscriptionEndDate

/-- `subscription_status='inactive'`. -/
def inactive (stored : Subscription) : Subscription :=
  { stored with subscriptionStatus := some "inactive" }

/-- The functions of `db.py`. `is_invoice_processed` asks the connection for the row, which has no
`fetchone`.
-/
def sqlite (db : SubscriptionDb) : SubscriptionCall → Answer × SubscriptionDb
  | .updateTenantSubscription tenantId arguments =>
      (.none, db.updateTenant tenantId (keptColumns arguments))
  | .setTenantInactive tenantId => (.none, db.updateTenant tenantId inactive)
  | .markInvoiceProcessed invoiceId eventType tenantId =>
      if truthy invoiceId then
        (.none, db.insertInvoice ⟨invoiceId, eventType, tenantId⟩)
      else
        (.none, db)
  | .isInvoiceProcessed invoiceId _ =>
      if truthy invoiceId then (.attributeError, db) else (.bool false, db)

/-- The row matches the invoice and the tenant, an empty text being every tenant; what is compared
with a `NULL` does not match.
-/
def matchesInvoice (invoiceId tenantId : Option String) (row : InvoiceRow) : Bool :=
  invoiceId.isSome && row.invoiceId = invoiceId
  && (tenantId = some "" || (tenantId.isSome && row.tenantId = tenantId))

/-- The functions of `db_pg_sync.py`. -/
def postgres (db : SubscriptionDb) : SubscriptionCall → Answer × SubscriptionDb
  | .updateTenantSubscription tenantId arguments =>
      (.none, db.updateTenant tenantId (fun _ => arguments))
  | .setTenantInactive tenantId => (.none, db.updateTenant tenantId inactive)
  | .markInvoiceProcessed invoiceId eventType tenantId =>
      (.none, db.insertInvoice ⟨invoiceId, eventType, tenantId⟩)
  | .isInvoiceProcessed invoiceId tenantId =>
      (.bool (db.invoices.any (matchesInvoice invoiceId tenantId)), db)

end RomaBridge.Model.Subscriptions
