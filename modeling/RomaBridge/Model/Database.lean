import RomaBridge.Model.Records
import RomaBridge.Foundation.Program
import Mathlib.Data.List.Sort

/-! The shared PostgreSQL state and the transactions the bridge runs on it.
Every `Query` is one committed transaction of the source. The statements of `db_adapter` are
kept as selections and rewrites of rows, so a guard in a `WHERE` clause is visible here.
-/

namespace RomaBridge.Model

open RomaBridge.Foundation

/-- The committed state of the database. -/
structure Db where
  ledger : Table LedgerId LedgerEntry LedgerEntry.ledgerId
  usage : List UsageRow
  totals : Table String TotalsRow TotalsRow.tenantId
  jobs : Table JobId JobRow JobRow.id
  submitKeys : Table (String × String) SubmitKeyRow (fun row => (row.tenantId, row.idempotencyKey))
  clock : ℚ

namespace Db

def empty : Db where
  ledger := .empty
  usage := []
  totals := .empty
  jobs := .empty
  submitKeys := .empty
  clock := 0

/-- `SUM(CASE WHEN entry_type = 'CREDIT' THEN amount ELSE -amount END)` over a tenant. -/
def balance (db : Db) (tenantId : String) : ℚ :=
  ((db.ledger.rows.filter (fun entry => entry.tenantId = tenantId)).map
    LedgerEntry.signed).sum

/-- `SELECT * FROM execution_jobs WHERE id = %s`. -/
def job? (db : Db) (id : JobId) : Option JobRow := db.jobs.find? id

def status? (db : Db) (id : JobId) : Option JobStatus := (db.job? id).map JobRow.status

end Db

/-- The arguments of `update_execution_job`; `none` and the empty list stand for `None`. -/
structure JobUpdate where
  jobId : JobId
  status : Option JobStatus := none
  backend : Option String := none
  backendJobId : Option String := none
  completedAt : Option ℚ := none
  error : Option String := none
  costUsd : Option ℚ := none
  durationSeconds : Option ℚ := none
  tenantId : Option String := none
  ifStatusNotIn : List JobStatus := []

namespace JobUpdate

/-- The `WHERE` clause: the id, the tenant if given, and the excluded statuses. -/
def selects (update : JobUpdate) (row : JobRow) : Bool :=
  row.id = update.jobId
  && (update.tenantId.all (fun tenantId => row.tenantId = tenantId))
  && !update.ifStatusNotIn.contains row.status

/-- No column to set: the statement is not sent at all. -/
def isEmpty (update : JobUpdate) : Bool :=
  update.status.isNone && update.backend.isNone && update.backendJobId.isNone
  && update.completedAt.isNone && update.error.isNone && update.costUsd.isNone
  && update.durationSeconds.isNone

/-- The `SET` clause; `status = 'running'` also restarts `started_at`. -/
def write (update : JobUpdate) (now : ℚ) (row : JobRow) : JobRow :=
  { row with
    status := update.status.getD row.status
    startedAt := if update.status = some .running then some now else row.startedAt
    completedAt := update.completedAt.or row.completedAt
    error := update.error.or row.error
    backend := update.backend.or row.backend
    backendJobId := update.backendJobId.or row.backendJobId
    costUsd := update.costUsd.getD row.costUsd
    durationSeconds := update.durationSeconds.or row.durationSeconds }

end JobUpdate

/-- `ORDER BY column ASC` with nulls last, as PostgreSQL sorts. -/
def nullsLast : Option ℚ → Option ℚ → Prop
  | some left, some right => left ≤ right
  | none, some _ => False
  | _, none => True

instance : DecidableRel nullsLast := fun left right =>
  match left, right with
  | some left, some right => inferInstanceAs (Decidable (left ≤ right))
  | none, some _ => .isFalse (fun impossible => impossible)
  | some _, none => .isTrue trivial
  | none, none => .isTrue trivial

/-- A prefix match of `LIKE`, where `_` matches any one character. -/
def likePrefix : List Char → List Char → Bool
  | [], _ => true
  | _ :: _, [] => false
  | '_' :: pattern, _ :: text => likePrefix pattern text
  | p :: pattern, c :: text => p == c && likePrefix pattern text

/-- `refund_pending:debit_exists:`, the text in front of a pending refund's amount. -/
def refundMarkerPrefix : String := "refund_pending:debit_exists:"

/-- Queued rows in claim order, without those locked by other transactions. -/
def queuedRows (db : Db) (limit : ℕ) (locked : List JobId) : List JobRow :=
  ((db.jobs.rows.filter (fun row => row.status = .queued && !locked.contains row.id)).insertionSort
    (fun left right => left.createdAt ≤ right.createdAt)).take limit

/-- `UPDATE ... SET status='running', started_at=now(), updated_at=now()`. -/
def claimRow (now : ℚ) (row : JobRow) : JobRow :=
  { row with status := .running, startedAt := some now, updatedAt := now }

/-- `UPDATE ... SET status = 'timeout'` of the orphan sweep. -/
def orphanRow (now : ℚ) (row : JobRow) : JobRow :=
  { row with
    status := .timeout
    error := some "orphaned: worker restart"
    completedAt := some now }

/-- `running` since before the timeout; `updated_at` stands in for a missing `started_at`. -/
def isOrphan (db : Db) (timeoutSeconds : ℚ) (row : JobRow) : Bool :=
  row.status = .running && row.startedAt.getD row.updatedAt < db.clock - timeoutSeconds

/-- Rows of `get_billing_pending_jobs`. -/
def billingPendingRows (db : Db) (limit : ℕ) (excludeIds : List JobId) : List JobRow :=
  ((db.jobs.rows.filter (fun row =>
      row.status = .billingPending && !excludeIds.contains row.id)).insertionSort
    (fun left right => nullsLast left.completedAt right.completedAt)).take limit

/-- Rows of `get_refund_pending_jobs`. -/
def refundPendingRows (db : Db) (limit : ℕ) : List JobRow :=
  ((db.jobs.rows.filter (fun row =>
      row.status = .cancelled
      && row.error.any (fun text => likePrefix refundMarkerPrefix.toList text.toList))).insertionSort
    (fun left right => nullsLast left.completedAt right.completedAt)).take limit

/-- One transaction. `claimQueuedExecutionJobs` also carries the rows locked elsewhere and
the world each claimed job will meet.
-/
inductive Query where
  | debitInsert (entry : LedgerEntry)
  | creditInsert (entry : LedgerEntry)
  | ledgerSelect (ledgerId : LedgerId) (tenantId : String)
  | usageInsert (row : UsageRow) (gpuSeconds cpuSeconds gbSeconds : ℚ)
  | getExecutionJob (id : JobId)
  | updateExecutionJob (update : JobUpdate)
  | insertExecutionJob (id : JobId) (tenantId : String) (status : JobStatus)
    (gpuRequired : Bool)
  | claimQueuedExecutionJobs (limit : ℕ) (locked : List JobId) (world : JobId → WorkerWorld)
  | sweepOrphanRunningJobs (timeoutSeconds : ℚ)
  | getBillingPendingJobs (limit : ℕ) (excludeIds : List JobId)
  | getRefundPendingJobs (limit : ℕ)
  | findJobByIdempotency (tenantId idempotencyKey : String)
  | createJobIdempotency (tenantId idempotencyKey : String) (jobId : JobId)
  | advanceClock (seconds : ℚ≥0)

/-- What a transaction returns to its caller. -/
@[reducible]
def Query.Reply : Query → Type
  | .debitInsert _ => Option LedgerId
  | .creditInsert _ => Option LedgerId
  | .ledgerSelect _ _ => Option LedgerEntry
  | .usageInsert _ _ _ _ => Bool
  | .getExecutionJob _ => Option JobRow
  | .updateExecutionJob _ => ℕ
  | .insertExecutionJob _ _ _ _ => Bool
  | .claimQueuedExecutionJobs _ _ _ => List JobRow
  | .sweepOrphanRunningJobs _ => ℕ
  | .getBillingPendingJobs _ _ => List JobRow
  | .getRefundPendingJobs _ => List JobRow
  | .findJobByIdempotency _ _ => Option JobId
  | .createJobIdempotency _ _ _ => Bool
  | .advanceClock _ => Unit

namespace Db

/-- `INSERT ... ON CONFLICT (ledger_id) DO NOTHING RETURNING ledger_id`. -/
def insertEntry (db : Db) (entry : LedgerEntry) : Option LedgerId × Db :=
  match db.ledger.insert? entry with
  | some ledger => (some entry.ledgerId, { db with ledger })
  | none => (none, db)

/-- `_DEBIT_IF_FUNDS_INSERT_SQL` under the tenant's advisory lock. -/
def debitInsert (db : Db) (entry : LedgerEntry) : Option LedgerId × Db :=
  if db.balance entry.tenantId ≥ entry.amount then db.insertEntry entry else (none, db)

/-- `uq_usage_events_tenant_job_type` applies to real job ids only. -/
def usageConflict (db : Db) (row : UsageRow) : Bool :=
  !(["manual", "auto", ""].contains row.jobId)
  && db.usage.any (fun stored =>
      stored.tenantId = row.tenantId && stored.jobId = row.jobId
      && stored.eventType = row.eventType)

/-- The upsert of `tenant_usage_totals`. -/
def addTotals (totals : Table String TotalsRow TotalsRow.tenantId) (row : TotalsRow)
    : Table String TotalsRow TotalsRow.tenantId :=
  match totals.insert? row with
  | some next => next
  | none =>
      totals.update (fun stored => stored.tenantId = row.tenantId)
        (fun stored =>
          { stored with
            gpuSeconds := stored.gpuSeconds + row.gpuSeconds
            cpuSeconds := stored.cpuSeconds + row.cpuSeconds
            gbSeconds := stored.gbSeconds + row.gbSeconds
            totalCost := stored.totalCost + row.totalCost })
        (fun _ => rfl)

def usageInsert (db : Db) (row : UsageRow) (gpuSeconds cpuSeconds gbSeconds : ℚ) : Bool × Db :=
  if db.usageConflict row then
    (false, db)
  else
    (true,
      { db with
        usage := db.usage ++ [row]
        totals := addTotals db.totals {
          tenantId := row.tenantId
          gpuSeconds := if row.eventType = .gpuUsage then gpuSeconds else 0
          cpuSeconds := if row.eventType = .cpuUsage then cpuSeconds else 0
          gbSeconds := if row.eventType = .storageUsage then gbSeconds else 0
          totalCost := row.costUsd
        } })

/-- One `UPDATE execution_jobs`, returning `cur.rowcount`. -/
def updateJob (db : Db) (update : JobUpdate) : ℕ × Db :=
  if update.isEmpty then
    (0, db)
  else
    (db.jobs.count update.selects,
      { db with jobs := db.jobs.update update.selects (update.write db.clock) (fun _ => rfl) })

/-- The row of an `INSERT INTO execution_jobs`, with the column defaults. -/
def newJob (db : Db) (id : JobId) (tenantId : String) (status : JobStatus) (gpuRequired : Bool)
    : JobRow where
  id := id
  tenantId := tenantId
  status := status
  gpuRequired := gpuRequired
  backend := none
  backendJobId := none
  costUsd := 0
  durationSeconds := some 0
  createdAt := db.clock
  updatedAt := db.clock
  startedAt := none
  completedAt := none
  error := none

/-- One `INSERT INTO execution_jobs`; `false` stands for the key violation. -/
def insertJob (db : Db) (row : JobRow) : Bool × Db :=
  match db.jobs.insert? row with
  | some jobs => (true, { db with jobs })
  | none => (false, db)

/-- `claim_queued_execution_jobs`: the rows returned are the rows moved to `running`. -/
def claim (db : Db) (limit : ℕ) (locked : List JobId) : List JobRow × Db :=
  let picked := queuedRows db limit locked
  (picked.map (claimRow db.clock),
    { db with
      jobs := db.jobs.update (fun row => (picked.map JobRow.id).contains row.id)
        (claimRow db.clock) (fun _ => rfl) })

/-- `sweep_orphan_running_jobs`. -/
def sweepOrphans (db : Db) (timeoutSeconds : ℚ) : ℕ × Db :=
  (db.jobs.count (isOrphan db timeoutSeconds),
    { db with
      jobs := db.jobs.update (isOrphan db timeoutSeconds) (orphanRow db.clock)
        (fun _ => rfl) })

/-- `INSERT ... ON CONFLICT (tenant_id, idempotency_key) DO NOTHING`. -/
def reserveKey (db : Db) (row : SubmitKeyRow) : Bool × Db :=
  match db.submitKeys.insert? row with
  | some submitKeys => (true, { db with submitKeys })
  | none => (false, db)

/-- The reply and the effect of each transaction. -/
def apply (db : Db) : (query : Query) → query.Reply × Db
  | .debitInsert entry => db.debitInsert entry
  | .creditInsert entry => db.insertEntry entry
  | .ledgerSelect ledgerId tenantId =>
      ((db.ledger.find? ledgerId).filter (fun entry => entry.tenantId = tenantId), db)
  | .usageInsert row gpuSeconds cpuSeconds gbSeconds =>
      db.usageInsert row gpuSeconds cpuSeconds gbSeconds
  | .getExecutionJob id => (db.job? id, db)
  | .updateExecutionJob update => db.updateJob update
  | .insertExecutionJob id tenantId status gpuRequired =>
      db.insertJob (db.newJob id tenantId status gpuRequired)
  | .claimQueuedExecutionJobs limit locked _ => db.claim limit locked
  | .sweepOrphanRunningJobs timeoutSeconds => db.sweepOrphans timeoutSeconds
  | .getBillingPendingJobs limit excludeIds => (billingPendingRows db limit excludeIds, db)
  | .getRefundPendingJobs limit => (refundPendingRows db limit, db)
  | .findJobByIdempotency tenantId idempotencyKey =>
      ((db.submitKeys.find? (tenantId, idempotencyKey)).map SubmitKeyRow.jobId, db)
  | .createJobIdempotency tenantId idempotencyKey jobId =>
      db.reserveKey { tenantId, idempotencyKey, jobId }
  | .advanceClock seconds => ((), { db with clock := db.clock + seconds })

end Db
end RomaBridge.Model
