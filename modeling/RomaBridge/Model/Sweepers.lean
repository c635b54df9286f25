import RomaBridge.Model.Worker

/-! The background sweepers of `billing/execution_worker.py` and one tick of the claim loop.
`_no_funds_next_try`, the back-off memory of a process, is an argument and a result of the
billing sweeper.
-/

namespace RomaBridge.Model

open RomaBridge.Foundation

def billingPendingBatch : ℕ := 50

/-- `BILLING_PENDING_NO_FUNDS_RETRY_S`. -/
def noFundsRetrySeconds : ℚ := 3600

/-- `_no_funds_next_try`: when a job without funds is tried again. -/
abbrev NoFundsMemory := List (JobId × ℚ)

/-- `_no_funds_next_try[job_id] = time`. -/
def NoFundsMemory.set (memory : NoFundsMemory) (jobId : JobId) (time : ℚ) : NoFundsMemory :=
  memory.filter (fun entry => entry.1 ≠ jobId) ++ [(jobId, time)]

/-- `_no_funds_next_try.pop(job_id, None)`. -/
def NoFundsMemory.pop (memory : NoFundsMemory) (jobId : JobId) : NoFundsMemory :=
  memory.filter (fun entry => entry.1 ≠ jobId)

/-- What a sweep of the billing queue is told from outside: the clock, the memory of its
process and the plan of each tenant.
-/
structure SweepInput where
  now : ℚ
  memory : NoFundsMemory
  plan : String → String

/-- Outcome of one row and the memory after it. -/
structure SweepStep where
  outcome : BillingStatus
  memory : NoFundsMemory

/-- The compare-and-set with which a sweep moves a row out of `billing_pending`. -/
def sweepUpdate (job : JobRow) (status : String) (error : String) (costUsd : Option ℚ)
    : JobUpdate where
  jobId := job.id
  status := some (JobStatus.ofText status)
  costUsd := costUsd
  error := some error
  tenantId := some job.tenantId
  ifStatusNotIn := terminalStatuses

/-- The sweepers' writes of the `error` column alone: no status condition. -/
def errorUpdate (job : JobRow) (error : String) : JobUpdate where
  jobId := job.id
  error := some error
  tenantId := some job.tenantId

/-- `ok`: restore the status of the execution; a failed write is an outcome of its own. -/
def sweepBilled (job : JobRow) (memory : NoFundsMemory) : Action SweepStep := do
  let update := sweepUpdate job ((billingExecStatus job.error).getD "completed") ""
    (some (jobCostUsd job.durationSeconds))
  match ← (ask .sweepBilled (.updateExecutionJob update)).attempt with
  | .ok _ => return { outcome := .ok, memory := memory.pop job.id }
  | .error (.pgUnavailable _) => return { outcome := .pgError, memory := memory.pop job.id }
  | .error exn =>
      if exn.isException then
        return { outcome := .error, memory := memory.pop job.id }
      else
        throw exn

/-- `no_funds`: back off and keep the marker up to date; this write may raise. -/
def sweepNoFunds (job : JobRow) (now : ℚ) (memory : NoFundsMemory) : Action SweepStep := do
  let marker := billingPendingError .noFunds (billingExecStatus job.error)
  if job.error ≠ some marker then
    let _ ← ask .sweepNoFunds (.updateExecutionJob (errorUpdate job marker))
  return { outcome := .noFunds, memory := memory.set job.id (now + noFundsRetrySeconds) }

/-- `mismatch`: close the row, a retry cannot resolve the conflict. -/
def sweepMismatch (job : JobRow) (memory : NoFundsMemory) : Action SweepStep := do
  suppress (do
    let _ ← ask .sweepMismatch (.updateExecutionJob
      (sweepUpdate job ((billingExecStatus job.error).getD "error") "billing:mismatch" none)))
  return { outcome := .mismatch, memory }

/-- `skip`: there is nothing to bill, leave `billing_pending`. -/
def sweepSkip (job : JobRow) (memory : NoFundsMemory) : Action SweepStep := do
  suppress (do
    let _ ← ask .sweepSkip (.updateExecutionJob
      (sweepUpdate job ((billingExecStatus job.error).getD "completed") "" none)))
  return { outcome := .skip, memory }

def sweepRow (input : SweepInput) (job : JobRow) (memory : NoFundsMemory)
    : Action SweepStep := do
  match ← tryFinalize job.tenantId job.id (job.durationSeconds.getD 0)
      (input.plan job.tenantId) job.backend with
  | .ok => sweepBilled job memory
  | .noFunds => sweepNoFunds job input.now memory
  | .mismatch => sweepMismatch job memory
  | .skip => sweepSkip job memory
  | .pgError => return { outcome := .pgError, memory }
  | .error => return { outcome := .error, memory }

/-- The batch; an unavailable database ends it early. -/
def sweepRows (input : SweepInput)
    : List JobRow → NoFundsMemory → Action (List BillingStatus × NoFundsMemory)
  | [], memory => return ([], memory)
  | job :: rest, memory => do
      let step ← sweepRow input job memory
      if step.outcome = .pgError then
        return ([.pgError], step.memory)
      let (outcomes, last) ← sweepRows input rest step.memory
      return (step.outcome :: outcomes, last)

/-- `sweep_billing_pending_once`: the outcomes in order, the number of deferred jobs and the
memory left behind.
-/
def sweepBillingPendingOnce (input : SweepInput)
    : Action (List BillingStatus × ℕ × NoFundsMemory) := do
  let paused := (input.memory.filter (fun entry => entry.2 > input.now)).map Prod.fst
  let jobs ← ask .sweepList (.getBillingPendingJobs billingPendingBatch paused)
  let (outcomes, memory) ← sweepRows input jobs input.memory
  if jobs.length < billingPendingBatch then
    return (outcomes, paused.length,
      memory.filter (fun entry => (jobs.map JobRow.id).contains entry.1))
  else
    return (outcomes, paused.length, memory)

/-- The outcomes the refund sweeper counts. -/
inductive RefundOutcome where
  | ok
  | error
  | pgError
  | listError
  deriving DecidableEq, Repr

/-- One row of the refund batch: pay back what the marker says, then clear the marker. -/
def refundRow (job : JobRow) : Action RefundOutcome :=
  match parseRefundAmount (job.error.getD "") with
  | none => return .error
  | some amount => do
      let body : Action Unit := do
        let _ ← refundJob job.tenantId amount job.id "cancelled_after_debit"
        let _ ← ask .refundClear (.updateExecutionJob (errorUpdate job ""))
      match ← body.attempt with
      | .ok _ => return .ok
      | .error (.pgUnavailable _) => return .pgError
      | .error exn => if exn.isException then return .error else throw exn

/-- The refund batch; an unavailable database ends it early. -/
def refundRows : List JobRow → Action (List RefundOutcome)
  | [] => return []
  | job :: rest => do
      let outcome ← refundRow job
      if outcome = .pgError then
        return [.pgError]
      return outcome :: (← refundRows rest)

def sweepRefundPendingOnce : Action (List RefundOutcome) := do
  match ← (ask .refundList (.getRefundPendingJobs 50)).attempt with
  | .ok jobs => refundRows jobs
  | .error exn => if exn.isException then return [.listError] else throw exn

/-- `sweep_orphans_once`; the timeout is configurable and must be positive. -/
def sweepOrphansOnce (timeoutSeconds : ℚ) : Action ℕ :=
  if timeoutSeconds ≤ 0 then
    throw (.valueError "timeout_seconds must be > 0")
  else
    ask .orphanSweep (.sweepOrphanRunningJobs timeoutSeconds)

/-- The claim of one tick of `poll_and_execute`; every returned row starts an executor. -/
def claimTick (limit : ℕ) (locked : List JobId) (world : JobId → WorkerWorld)
    : Action (List JobRow) :=
  ask .claim (.claimQueuedExecutionJobs limit locked world)

end RomaBridge.Model

/-! `sweep_billing_pending_once` as far as `_no_funds_next_try` sees it. The memory of the process
outlives an exception that ends a sweep, so it is a state of its own here; what the database, the
finalisations and the status writes answer is told from outside.
-/

namespace RomaBridge.Model

open RomaBridge.Foundation

/-- `BILLING_PENDING_BATCH` and `BILLING_PENDING_NO_FUNDS_RETRY_S`, from the environment. -/
structure PauseConfig where
  batch : ℕ
  retry : ℚ

/-- What the calls for one row of a batch come to: the finalisation, and the status write if one is
made.
-/
structure RowEnd where
  finalized : Except Exn BillingStatus
  writeFails : Option Exn

/-- One call of the sweep: its time, the database that its list reads, unless the list raises, and
what becomes of each job.
-/
structure PauseSweep where
  now : ℚ
  listed : Except Exn Db
  ends : JobId → RowEnd

/-- `status` after the `except` branches of the finalisation. -/
def caughtStatus : Except Exn BillingStatus → Except Exn BillingStatus
  | .ok status => .ok status
  | .error (.pgUnavailable _) => .ok .pgError
  | .error exn => if exn.isException then .ok .error else .error exn

/-- A status write in a `try` whose `except Exception` only logs. -/
def loggedWrite (outcome : BillingStatus) (writeFails : Option Exn) : Except Exn BillingStatus :=
  match writeFails with
  | none => .ok outcome
  | some exn => if exn.isException then .ok outcome else .error exn

def noteStatus (config : PauseConfig) (now : ℚ) (job : JobRow) (writeFails : Option Exn)
    (memory : NoFundsMemory)
    : BillingStatus → Except Exn BillingStatus × NoFundsMemory
  | .ok =>
      (match writeFails with
        | none => .ok .ok
        | some (.pgUnavailable _) => .ok .pgError
        | some exn => if exn.isException then .ok .error else .error exn,
      memory.pop job.id)
  | .noFunds =>
      -- the memory is set before the write, which nothing catches
      (if job.error ≠ some (billingPendingError .noFunds (billingExecStatus job.error)) then
        match writeFails with
        | none => .ok .noFunds
        | some exn => .error exn
      else
        .ok .noFunds,
      memory.set job.id (now + config.retry))
  | .mismatch => (loggedWrite .mismatch writeFails, memory)
  | .skip => (loggedWrite .skip writeFails, memory)
  | .pgError => (.ok .pgError, memory)
  | .error => (.ok .error, memory)

def noteRow (config : PauseConfig) (now : ℚ) (job : JobRow) (ends : RowEnd)
    (memory : NoFundsMemory)
    : Except Exn BillingStatus × NoFundsMemory :=
  match caughtStatus ends.finalized with
  | .ok status => noteStatus config now job ends.writeFails memory status
  | .error exn => (.error exn, memory)

/-- What a batch did: the finalisations it called, with their results, and the exception that ended
it.
-/
structure BatchLog where
  finalized : List (JobId × Except Exn BillingStatus)
  raised : Option Exn

/-- The batch; an unavailable database ends it early. -/
def noteRows (config : PauseConfig) (now : ℚ) (ends : JobId → RowEnd)
    : List JobRow → NoFundsMemory → BatchLog × NoFundsMemory
  | [], memory => (⟨[], none⟩, memory)
  | job :: rest, memory =>
      let call := (job.id, (ends job.id).finalized)
      match noteRow config now job (ends job.id) memory with
      | (.error exn, after) => (⟨[call], some exn⟩, after)
      | (.ok .pgError, after) => (⟨[call], none⟩, after)
      | (.ok _, after) =>
          let (log, last) := noteRows config now ends rest after
          (⟨call :: log.finalized, log.raised⟩, last)

def pausedIds (memory : NoFundsMemory) (now : ℚ) : List JobId :=
  (memory.filter (fun entry => entry.2 > now)).map Prod.fst

def listedRows (config : PauseConfig) (memory : NoFundsMemory) (now : ℚ) (db : Db) : List JobRow :=
  billingPendingRows db config.batch (pausedIds memory now)

/-- `sweep_billing_pending_once`: the finalisations it called. -/
def sweepOnce (config : PauseConfig) (memory : NoFundsMemory) (sweep : PauseSweep)
    : List (JobId × Except Exn BillingStatus) × NoFundsMemory :=
  match sweep.listed with
  | .error _ => ([], memory)
  | .ok db =>
      let jobs := listedRows config memory sweep.now db
      let (log, after) := noteRows config sweep.now sweep.ends jobs memory
      if log.raised.isNone ∧ jobs.length < config.batch then
        -- "all pending jobs were seen": drop the pauses of the others
        (log.finalized, after.filter (fun entry => (jobs.map JobRow.id).contains entry.1))
      else
        (log.finalized, after)

end RomaBridge.Model

/-! The two retry queues under their sweeps while the database is available. What the finalisation of
a job comes to, or whether its refund goes through, is fixed for each job; the sweeps list, write and
remember as `sweep_billing_pending_once` and `sweep_refund_pending_once` do.
-/

namespace RomaBridge.Model

open RomaBridge.Foundation

/-- `WHERE status='billing_pending'`. -/
def isParked (row : JobRow) : Bool := row.status = .billingPending

/-- `WHERE status='cancelled' AND error LIKE 'refund_pending:debit_exists:%'`. -/
def isMarked (row : JobRow) : Bool :=
  row.status = .cancelled
  && row.error.any (fun text => likePrefix refundMarkerPrefix.toList text.toList)

/-- The ids of the selected rows in `ORDER BY completed_at ASC`. -/
def queueIds (selected : JobRow → Bool) (rows : List JobRow) : List JobId :=
  ((rows.filter selected).insertionSort
    (fun left right => nullsLast left.completedAt right.completedAt)).map JobRow.id

/-- The jobs whose billing is pending, the oldest first. -/
def parkedIds (db : Db) : List JobId := queueIds isParked db.jobs.rows

/-- The jobs whose refund is pending, the oldest first. -/
def markedIds (db : Db) : List JobId := queueIds isMarked db.jobs.rows

-- sweep_billing_pending_once

/-- The `update_execution_job` of a row whose finalisation came to a status. -/
def rowUpdate (job : JobRow) : BillingStatus → Option JobUpdate
  | .ok =>
      some (sweepUpdate job ((billingExecStatus job.error).getD "completed") ""
        (some (jobCostUsd job.durationSeconds)))
  | .noFunds =>
      let marker := billingPendingError .noFunds (billingExecStatus job.error)
      if job.error ≠ some marker then some (errorUpdate job marker) else none
  | .mismatch =>
      some (sweepUpdate job ((billingExecStatus job.error).getD "error") "billing:mismatch" none)
  | .skip => some (sweepUpdate job ((billingExecStatus job.error).getD "completed") "" none)
  | .pgError | .error => none

def writeRow (db : Db) (job : JobRow) (status : BillingStatus) : Db :=
  match rowUpdate job status with
  | some update => (db.updateJob update).2
  | none => db

/-- The database after a batch; an unavailable database ends it early. -/
def writeRows (outcome : JobId → BillingStatus) : List JobRow → Db → Db
  | [], db => db
  | job :: rest, db =>
      let after := writeRow db job (outcome job.id)
      if outcome job.id = .pgError then after else writeRows outcome rest after

/-- The database and `_no_funds_next_try`. -/
structure PendingBilling where
  db : Db
  memory : NoFundsMemory

def sweepPending (config : PauseConfig) (outcome : JobId → BillingStatus) (state : PendingBilling)
    (now : ℚ)
    : PendingBilling where
  db := writeRows outcome (listedRows config state.memory now state.db) state.db
  memory := (sweepOnce config state.memory
    ⟨now, .ok state.db, fun jobId => ⟨.ok (outcome jobId), none⟩⟩).2

-- sweep_refund_pending_once

def refundBatch (refunds : JobId → Bool) : List JobRow → Db → Db
  | [], db => db
  | job :: rest, db =>
      match parseRefundAmount (job.error.getD "") with
      | none => refundBatch refunds rest db
      | some _ =>
          if refunds job.id then
            refundBatch refunds rest (db.updateJob (errorUpdate job "")).2
          else
            refundBatch refunds rest db

/-- `sweep_refund_pending_once`. -/
def sweepRefunds (refunds : JobId → Bool) (db : Db) : Db :=
  refundBatch refunds (refundPendingRows db 50) db

end RomaBridge.Model
