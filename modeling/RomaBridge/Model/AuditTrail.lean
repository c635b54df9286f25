import RomaBridge.Foundation.Trace

/-! `audit/event_store.py`, `audit_events.py` and the writer of `audit_events` in `db_adapter.py`,
with the actions that are audited. A call is given the uuid that it draws.
-/

namespace RomaBridge.Model.Audit

open RomaBridge.Foundation

/-- A row of `audit_events`; `data` is the JSON text. -/
structure AuditEvent where
  id : String
  tenantId : String
  eventType : String
  entityType : String
  entityId : Option String
  data : String
  deriving DecidableEq, Repr

/-- The predicate of `audit_events_dedupe_uidx`. -/
def AuditEvent.indexed (event : AuditEvent) : Bool :=
  event.entityId.isSome && event.entityId != some "unknown"

/-- Two rows with one key of `audit_events_dedupe_uidx`. -/
def AuditEvent.sameKey (event other : AuditEvent) : Bool :=
  event.tenantId == other.tenantId && event.eventType == other.eventType
    && event.entityId == other.entityId

/-- What a writer returns; `raised` is the violation of the primary key. -/
inductive AuditReply where
  | written (id : String)
  | skipped
  | raised
  deriving DecidableEq, Repr

/-- `insert_audit_event`: a conflict in the index does nothing. -/
def insertAuditEvent (events : List AuditEvent) (event : AuditEvent)
    : AuditReply × List AuditEvent :=
  if event.indexed && events.any (fun row => row.sameKey event) then (.skipped, events)
  else if events.any (fun row => row.id == event.id) then (.raised, events)
  else (.written event.id, events ++ [event])

/-- `audit_event_exists`; SQL finds no row for NULL. -/
def auditEventExists (events : List AuditEvent) (tenantId eventType : String)
    (entityId : Option String) : Bool :=
  entityId.isSome && events.any (fun row =>
    row.tenantId == tenantId && row.eventType == eventType && row.entityId == entityId)

/-- `write_event`, and `write_audit_event`, which passes it on. -/
def writeEvent (events : List AuditEvent) (event : AuditEvent) : AuditReply × List AuditEvent :=
  insertAuditEvent events event

def writeEventOnce (events : List AuditEvent) (event : AuditEvent) (dedupe : Bool)
    : AuditReply × List AuditEvent :=
  if !dedupe then writeEvent events event
  else if auditEventExists events event.tenantId event.eventType event.entityId then
    (.skipped, events)
  else writeEvent events event

/-- A call of one of the writers. -/
inductive AuditCall where
  | writeEvent (event : AuditEvent)
  | writeEventOnce (event : AuditEvent) (dedupe : Bool)
  deriving DecidableEq, Repr

def AuditCall.event : AuditCall → AuditEvent
  | .writeEvent event => event
  | .writeEventOnce event _ => event

def auditStep (events : List AuditEvent) : AuditCall → AuditReply × List AuditEvent
  | .writeEvent event => writeEvent events event
  | .writeEventOnce event dedupe => writeEventOnce events event dedupe

/-- The actions with what they pass to the writers: the tenant, the entity and the data. -/
inductive AuditedAction where
  | topUp (adminTenantId targetTenantId data : String)
  | jobRetry (tenantId jobId data : String)
  | jobCancel (tenantId jobId data : String)
  | publicCancel (tenantId jobId : String)
  | workerAck (tenantId jobId action data : String)
  | transitionDenied (tenantId jobId data : String)
  | retryDenied (tenantId jobId data : String)
  | decisionDenied (tenantId entityId data : String)
  | decision (tenantId decisionId data : String) (allowed : Bool)
  | jobCreated (tenantId jobId data : String)
  | userConfirmation (tenantId jobId : Option String) (data : String)

def AuditedAction.call (uuid : String) : AuditedAction → AuditCall
  | .topUp adminTenantId targetTenantId data =>
      .writeEvent ⟨uuid, adminTenantId, "billing.topup", "tenant", some targetTenantId, data⟩
  | .jobRetry tenantId jobId data =>
      .writeEvent ⟨uuid, tenantId, "job.retry", "job", some jobId, data⟩
  | .jobCancel tenantId jobId data =>
      .writeEvent ⟨uuid, tenantId, "job.cancel", "job", some jobId, data⟩
  | .publicCancel tenantId jobId =>
      .writeEvent ⟨uuid, tenantId, "job.cancelled", "job", some jobId, "{}"⟩
  | .workerAck tenantId jobId action data =>
      .writeEvent ⟨uuid, tenantId, "job." ++ action, "job", some jobId, data⟩
  | .transitionDenied tenantId jobId data =>
      .writeEvent ⟨uuid, tenantId, "transition.denied", "job", some jobId, data⟩
  | .retryDenied tenantId jobId data =>
      .writeEvent ⟨uuid, tenantId, "policy.denied", "job", some jobId, data⟩
  | .decisionDenied tenantId entityId data =>
      .writeEvent ⟨uuid, tenantId, "policy.denied", "decision", some entityId, data⟩
  | .decision tenantId decisionId data allowed =>
      .writeEvent ⟨uuid, tenantId, if allowed then "decision.allowed" else "decision.denied",
        "decision", some decisionId, data⟩
  | .jobCreated tenantId jobId data =>
      .writeEvent ⟨uuid, tenantId, "job.created", "job", some jobId, data⟩
  | .userConfirmation tenantId jobId data =>
      -- An empty text counts as missing, as `or` and `bool` take it.
      .writeEventOnce ⟨uuid, ((tenantId.filter (· ≠ "")).getD "unknown"), "job.user_confirmed",
        "job", some ((jobId.filter (· ≠ "")).getD "unknown"), data⟩ ((jobId.filter (· ≠ "")).isSome)

end RomaBridge.Model.Audit
