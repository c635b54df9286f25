import RomaBridge.Foundation.Table
import RomaBridge.Foundation.Decimal

/-! Rows of the bridge's tables and the exceptions its functions raise.
Money columns and seconds are exact rationals. Timestamps are seconds on the database clock.
-/

namespace RomaBridge.Model

open RomaBridge.Foundation

/-- Characters of `str(uuid.uuid4())`. -/
def isUuidChar (c : Char) : Bool := c.isDigit || ('a' ≤ c && c ≤ 'f') || c == '-'

/-- Job ids are uuid4 texts: every insert into `execution_jobs` draws one. -/
structure JobId where
  text : String
  wellFormed : text ≠ "" ∧ text.toList.all isUuidChar = true
  deriving DecidableEq, Repr

/-- The `status` column. `other` is any text the code never compares with. -/
inductive JobStatus where
  | queued
  | running
  | completed
  | failed
  | cancelled
  | timeout
  | error
  | stopped
  | destroyed
  | billingPending
  | other (text : String)
  deriving DecidableEq, Repr

def JobStatus.text : JobStatus → String
  | .queued => "queued"
  | .running => "running"
  | .completed => "completed"
  | .failed => "failed"
  | .cancelled => "cancelled"
  | .timeout => "timeout"
  | .error => "error"
  | .stopped => "stopped"
  | .destroyed => "destroyed"
  | .billingPending => "billing_pending"
  | .other text => text

def JobStatus.ofText (text : String) : JobStatus :=
  match [JobStatus.queued, .running, .completed, .failed, .cancelled, .timeout, .error,
    .stopped, .destroyed, .billingPending].find? (fun status => status.text == text) with
  | some status => status
  | none => .other text

/-- One row of `execution_jobs`. Of `payload` only `gpu_required` is read back. -/
structure JobRow where
  id : JobId
  tenantId : String
  status : JobStatus
  gpuRequired : Bool
  backend : Option String
  backendJobId : Option String
  costUsd : ℚ
  durationSeconds : Option ℚ
  createdAt : ℚ
  updatedAt : ℚ
  startedAt : Option ℚ
  completedAt : Option ℚ
  error : Option String
  deriving DecidableEq

/-- `led-<sha256(text)[:24]>` for keyed entries, with the digest prefix taken as injective on
the hashed text, and a never repeating `led-<ms>-<uuid4>` otherwise.
-/
inductive LedgerId where
  | keyed (hashed : String)
  | fresh (nonce : String)
  deriving DecidableEq, Repr

/-- `CHECK (entry_type IN ('CREDIT', 'DEBIT'))`. -/
inductive EntryType where
  | credit
  | debit
  deriving DecidableEq, Repr

/-- The `metadata` object of a ledger entry: the keys the billing code writes. -/
structure Metadata where
  idempotencyKey : Option String := none
  jobId : Option String := none
  gpuSec : Option ℚ := none
  inputTokens : Option ℤ := none
  outputTokens : Option ℤ := none
  plan : Option String := none
  refundFor : Option String := none
  reason : Option String := none
  note : Option String := none
  deriving DecidableEq

/-- One row of `ledger_entries`. -/
structure LedgerEntry where
  ledgerId : LedgerId
  tenantId : String
  entryType : EntryType
  amount : ℚ
  currency : String
  metadata : Metadata
  deriving DecidableEq

/-- What an entry adds to its tenant's balance. -/
def LedgerEntry.signed (entry : LedgerEntry) : ℚ :=
  match entry.entryType with
  | .credit => entry.amount
  | .debit => -entry.amount

/-- The `event_type` values the metering code distinguishes. -/
inductive EventType where
  | gpuExecution
  | cpuExecution
  | tokenUsage
  | gpuUsage
  | cpuUsage
  | storageUsage
  | pluginExec
  deriving DecidableEq, Repr

/-- One row of `usage_events`. -/
structure UsageRow where
  tenantId : String
  eventType : EventType
  value : ℚ
  costUsd : ℚ
  jobId : String
  billed : Bool
  deriving DecidableEq

/-- One row of `tenant_usage_totals`. -/
structure TotalsRow where
  tenantId : String
  gpuSeconds : ℚ
  cpuSeconds : ℚ
  gbSeconds : ℚ
  totalCost : ℚ
  deriving DecidableEq

/-- One row of `submit_idempotency_keys`. -/
structure SubmitKeyRow where
  tenantId : String
  idempotencyKey : String
  jobId : JobId

/-- Exceptions that cross a function boundary. `jobNotCancellable` is the 409 of `/cancel`,
`database` any driver error of `db_adapter`, `external` any failure of a backend call and
`killed` the end of the process.
-/
inductive Exn where
  | pgUnavailable (message : String)
  | ledgerIdemMismatch (ledgerId : LedgerId) (tenantId : String) (expectedAmount : ℚ)
    (currency : String) (jobId : Option String)
  | valueError (message : String)
  | http (code : ℕ) (detail : String)
  | jobNotCancellable (jobId : JobId) (status : JobStatus)
  | database (message : String)
  | external (message : String)
  | cancelledError
  | killed
  deriving DecidableEq, Repr

/-- `str(exc)`; of a mismatch, which no caller prints, only the fixed part. -/
def Exn.message : Exn → String
  | .pgUnavailable message => message
  | .ledgerIdemMismatch _ tenantId _ currency _ =>
      "ledger_idem_mismatch tenant=" ++ tenantId ++ " currency=" ++ currency
  | .valueError message => message
  | .http _ detail => detail
  | .jobNotCancellable _ _ => "job_not_cancellable"
  | .database message => message
  | .external message => message
  | .cancelledError => ""
  | .killed => ""

/-- Caught by `except Exception`; `asyncio.CancelledError` is a `BaseException`. -/
def Exn.isException : Exn → Bool
  | .cancelledError => false
  | .killed => false
  | _ => true

/-- The dictionary returned by `dispatch_job`. -/
structure DispatchResult where
  backend : Option String := none
  status : Option String := none
  message : Option String := none
  contractId : Option String := none
  backendJobId : Option String := none

/-- The dictionary returned by `get_job_status`. -/
structure StatusInfo where
  status : Option String := none
  sshHost : Option String := none
  host : Option String := none

/-- Everything one round of the worker's poll loop may be told: the backend status, the
status of the executed command, and whether the sleep is interrupted.
-/
structure PollAnswer where
  status : Except Exn StatusInfo
  command : Except Exn (Option String)
  sleep : Except Exn Unit

/-- The world seen by one `execute_and_bill`: the backend's answers, its clocks, the tenant's
plan, and where `drain_inflight` interrupts it.
-/
structure WorkerWorld where
  dispatch : Except Exn DispatchResult
  poll : ℕ → PollAnswer
  elapsed : ℚ≥0
  plan : String
  dispatchedAt : ℚ
  finishedAt : ℚ
  refundSleep : ℕ → Except Exn Unit
  cleanup : Except Exn Unit

end RomaBridge.Model
