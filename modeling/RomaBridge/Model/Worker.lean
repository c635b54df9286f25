import RomaBridge.Model.Finalize

/-! `execute_and_bill` of `billing/execution_worker.py`: dispatch, poll, bill, final write.
The backend, the clocks and the interruptions of `drain_inflight` come from a `WorkerWorld`;
everything else is translated. Log lines, metrics and alerts are left out.
-/

namespace RomaBridge.Model

open RomaBridge.Foundation

def terminalStatuses : List JobStatus := [.completed, .timeout, .failed, .cancelled]

def finalWriteBlockedStatuses : List JobStatus :=
  terminalStatuses ++ [.error, .stopped, .destroyed, .billingPending]

/-- The statuses at which the poll loop stops. -/
def pollEnds : List String :=
  ["completed", "failed", "error", "stopped", "cancelled", "destroyed"]

def jobCostUsd (durationSeconds : Option ℚ) : ℚ :=
  roundTo 8 (max (durationSeconds.getD 0) 0 * gpuRate)

def billingPendingError (billingStatus : BillingStatus) (execStatus : Option String) : String :=
  match execStatus.filter (fun status => ["timeout", "failed"].contains status) with
  | some status => "billing:" ++ billingStatus.text ++ ":exec=" ++ status
  | none => "billing:" ++ billingStatus.text

/-- `text[text.rfind(needle) + len(needle):]`, the text after the last occurrence. -/
def afterLast (needle : List Char) : List Char → Option (List Char)
  | [] => none
  | c :: text =>
      match afterLast needle text with
      | some rest => some rest
      | none =>
          if needle.isPrefixOf (c :: text) then some ((c :: text).drop needle.length) else none

def billingExecStatus (error : Option String) : Option String :=
  ((error.bind (fun text => afterLast ":exec=".toList text.toList)).filter
    (fun rest => !rest.isEmpty)).map String.ofList

/-- `f"refund_pending:debit_exists:{cost_usd:.8f}"`. -/
def refundMarker (costUsd : ℚ) : String := refundMarkerPrefix ++ fixedText 8 costUsd

/-- `_parse_refund_amount`. `float` also reads `inf` and `nan`, which `refund` then rejects;
both ways end in the same branch of the sweeper.
-/
def parseRefundAmount (marker : String) : Option ℚ :=
  if refundMarkerPrefix.toList.isPrefixOf marker.toList then
    parseDecimal (marker.toList.drop refundMarkerPrefix.toList.length)
  else
    none

/-- What `execute_and_bill` returns. -/
inductive WorkerResult where
  | notExecuted (error : String)
  | executed (status : String) (costUsd durationSeconds : ℚ) (backend : String)

/-- A job that a backend accepted. -/
structure Dispatched where
  backendName : String
  backendJobId : Option String
  contractId : Option String

def dispatchIsReady (backendName : String) (status : Option String) : Bool :=
  status = some "running" || status = some "provisioning"
  || (backendName = "local" && status = some "queued")

/-- `text[:500]`. -/
def truncate500 (text : String) : String := String.ofList (text.toList.take 500)

/-- The body of the `try` around dispatch. -/
def dispatchBody (jobId : JobId) (tenantId : String) (world : WorkerWorld)
    : Action (Except WorkerResult Dispatched) := do
  let result ← Program.ofExcept world.dispatch
  let backendName := result.backend.getD ""
  if result.status = some "failed" || result.status = some "error" || backendName = "" then
    let _ ← ask .workerDispatchFailed (.updateExecutionJob {
      jobId
      status := some .failed
      backend := result.backend
      completedAt := some world.dispatchedAt
      error := some (truncate500 (result.message.getD "dispatch failed"))
      tenantId := some tenantId
    })
    return .error (.notExecuted (result.message.getD ""))
  else if !dispatchIsReady backendName result.status then
    let text := "dispatch not ready (status=" ++ result.status.getD "None" ++ ")"
    let _ ← ask .workerNotReady (.updateExecutionJob {
      jobId
      status := some .failed
      backend := result.backend
      completedAt := some world.dispatchedAt
      error := some text
      tenantId := some tenantId
    })
    return .error (.notExecuted text)
  else
    let backendJobId := result.backendJobId.or result.contractId
    let _ ← ask .workerRunning (.updateExecutionJob {
      jobId
      status := some .running
      backend := result.backend
      backendJobId
      tenantId := some tenantId
    })
    return .ok { backendName, backendJobId, contractId := result.contractId }

def dispatchPhase (jobId : JobId) (tenantId : String) (world : WorkerWorld)
    : Action (Except WorkerResult Dispatched) :=
  catchException (dispatchBody jobId tenantId world) (fun exn => do
    let _ ← ask .workerDispatchError (.updateExecutionJob {
      jobId
      status := some .failed
      completedAt := some world.dispatchedAt
      error := some (truncate500 exn.message)
      tenantId := some tenantId
    })
    return .error (.notExecuted exn.message))

def pollRound (answer : PollAnswer) : Except Exn (Option String) :=
  match answer.status with
  | .error exn => if exn.isException then .ok none else .error exn
  | .ok info =>
      let status := info.status.getD "unknown"
      if pollEnds.contains status then
        .ok (some status)
      else if status = "running" && (info.sshHost.or info.host).any (fun host => host ≠ "") then
        match answer.command with
        | .ok result => .ok (some (if result = some "completed" then "completed" else "failed"))
        | .error exn => if exn.isException then .ok (some "failed") else .error exn
      else
        .ok none

/-- The poll loop with `rounds` rounds left; the clock runs out with status `timeout`. -/
def pollLoop (poll : ℕ → PollAnswer) : (rounds round : ℕ) → Except Exn String
  | 0, _ => .ok "timeout"
  | rounds + 1, round => do
      match ← pollRound (poll round) with
      | some status => return status
      | none =>
          let _ ← (poll round).sleep
          pollLoop poll rounds (round + 1)

/-- `max_wait / poll_interval`. -/
def pollRounds (backendName : String) : ℕ := if backendName = "vastai" then 40 else 24

/-- `elapsed`, the billable seconds of a run. -/
def WorkerWorld.billable (world : WorkerWorld) : ℚ := roundTo 2 world.elapsed

/-- `cost_usd` of a run. -/
def WorkerWorld.costUsd (world : WorkerWorld) : ℚ := roundTo 8 (world.billable * gpuRate)

/-- `finalize_job_billing` with the worker's `except` branches, which the sweeper shares. -/
def tryFinalize (tenantId : String) (jobId : JobId) (gpuSec : ℚ) (planName : String)
    (backend : Option String)
    : Action BillingStatus :=
  (finalizeJobBilling tenantId jobId gpuSec planName backend).handle (fun exn =>
    match exn with
    | .pgUnavailable _ => .done .pgError
    | _ => if exn.isException then .done .error else .raised exn)

def writeStatus (status : String) (billingStatus : BillingStatus) : String :=
  if billingStatus = .mismatch then
    if ["timeout", "failed"].contains status then status else "error"
  else if [BillingStatus.pgError, .error, .noFunds].contains billingStatus
      && ["completed", "timeout", "failed"].contains status then
    "billing_pending"
  else
    status

/-- The `error` text of the final write. -/
def finalError (status : String) (billingStatus : BillingStatus) : String :=
  if billingStatus = .ok || billingStatus = .skip then ""
  else if billingStatus = .mismatch then "billing:mismatch"
  else billingPendingError billingStatus (some status)

def finalUpdate (jobId : JobId) (tenantId : String) (world : WorkerWorld) (status : String)
    (billingStatus : BillingStatus)
    : JobUpdate where
  jobId := jobId
  status := some (JobStatus.ofText (writeStatus status billingStatus))
  completedAt := some world.finishedAt
  costUsd := some (if billingStatus = .ok then world.costUsd else 0)
  durationSeconds := some world.billable
  error := some (finalError status billingStatus)
  tenantId := some tenantId
  ifStatusNotIn := finalWriteBlockedStatuses

/-- The write of the refund marker: only the `error` column. -/
def markerUpdate (jobId : JobId) (tenantId : String) (costUsd : ℚ) : JobUpdate where
  jobId := jobId
  error := some (refundMarker costUsd)
  tenantId := some tenantId

/-- `_mark_refund_pending`: the amount is kept in the marker. -/
def markRefundPending (jobId : JobId) (tenantId : String) (costUsd : ℚ) : Action Unit :=
  suppress (do
    let _ ← ask .workerRefundMarker
      (.updateExecutionJob (markerUpdate jobId tenantId costUsd)))

/-- The refund attempts; `false` when all of them failed. -/
def refundAttempts (jobId : JobId) (tenantId : String) (costUsd : ℚ)
    (sleep : ℕ → Except Exn Unit)
    : (left attempt : ℕ) → Action Bool
  | 0, _ => return false
  | left + 1, attempt => do
      match ← (refundJob tenantId costUsd jobId "cancelled_after_debit").attempt with
      | .ok _ => return true
      | .error exn =>
          if exn.isException then
            let _ ← Program.ofExcept (sleep attempt)
            refundAttempts jobId tenantId costUsd sleep left (attempt + 1)
          else
            throw exn

def refundCancelled (jobId : JobId) (tenantId : String) (world : WorkerWorld) : Action Unit :=
  catchException
    (do
      if !(← refundAttempts jobId tenantId world.costUsd world.refundSleep 3 0) then
        markRefundPending jobId tenantId world.costUsd)
    (fun _ => markRefundPending jobId tenantId world.costUsd)

/-- The final compare-and-set and, when it missed a billed job, the refund of a cancelled one. -/
def finalWrite (jobId : JobId) (tenantId : String) (world : WorkerWorld) (status : String)
    (billingStatus : BillingStatus)
    : Action Unit := do
  let n ← ask .workerFinal
    (.updateExecutionJob (finalUpdate jobId tenantId world status billingStatus))
  if n = 0 && billingStatus = .ok then
    match ← ask .workerReread (.getExecutionJob jobId) with
    | none => return ()
    | some current =>
        if current.tenantId = tenantId && current.status = .cancelled then
          refundCancelled jobId tenantId world

/-- Destroy the instance of a vastai job; a failed cleanup is only logged. -/
def cleanup (dispatched : Dispatched) (world : WorkerWorld) : Action Unit :=
  if dispatched.backendName = "vastai" && dispatched.contractId.any (fun id => id ≠ "") then
    suppress (Program.ofExcept world.cleanup)
  else
    return ()

/-- The part of `_execute_and_bill_impl` after the backend accepted the job. -/
def pollAndBill (jobId : JobId) (tenantId : String) (world : WorkerWorld)
    (dispatched : Dispatched)
    : Action WorkerResult := do
  let status ← Program.ofExcept (pollLoop world.poll (pollRounds dispatched.backendName) 0)
  let billingStatus ← tryFinalize tenantId jobId world.billable world.plan
    (some dispatched.backendName)
  finalWrite jobId tenantId world status billingStatus
  cleanup dispatched world
  return .executed status world.costUsd world.billable dispatched.backendName

def executeAndBillImpl (jobId : JobId) (tenantId : String) (world : WorkerWorld)
    : Action WorkerResult := do
  match ← dispatchPhase jobId tenantId world with
  | .error result => return result
  | .ok dispatched => pollAndBill jobId tenantId world dispatched

/-- The compare-and-set of the wrapper after `drain_inflight` cancelled the task. -/
def drainUpdate (jobId : JobId) (tenantId : String) (world : WorkerWorld) : JobUpdate where
  jobId := jobId
  status := some .cancelled
  completedAt := some world.finishedAt
  error := some "cancelled by drain_inflight"
  tenantId := some tenantId
  ifStatusNotIn := finalWriteBlockedStatuses

/-- `execute_and_bill`: an interrupted run writes `cancelled` if nothing else closed the job. -/
def executeAndBill (jobId : JobId) (tenantId : String) (world : WorkerWorld)
    : Action WorkerResult :=
  (executeAndBillImpl jobId tenantId world).handle (fun exn => do
    if exn = .cancelledError then
      suppress (do
        let _ ← ask .workerDrain (.updateExecutionJob (drainUpdate jobId tenantId world)))
    throw exn)

end RomaBridge.Model
