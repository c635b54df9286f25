import RomaBridge.Model.Ledger

/-! `billing/finalize.py`: one conditional DEBIT per job and its usage rows.
Prometheus counters, burn-rate alerts and the balance gauge change no stored row and are left
out.
-/

namespace RomaBridge.Model

open RomaBridge.Foundation

/-- `gpu_rate`, dollars per second. -/
def gpuRate : ℚ := 1 / 100000

/-- `in_rate`, dollars per input token. -/
def inRate : ℚ := 1 / 1000000

/-- `out_rate`, dollars per output token. -/
def outRate : ℚ := 2 / 1000000

/-- `vastai→gpu_execution, local→cpu_execution`, and so is every other backend. -/
def eventTypeOf (backend : Option String) : EventType :=
  if backend = some "vastai" then .gpuExecution else .cpuExecution

/-- `gpu_cost` of `_increment_usage`. -/
def gpuCost (gpuSec : ℚ) : ℚ := if gpuSec > 0 then roundTo 8 (gpuSec * gpuRate) else 0

/-- `token_cost` of `_increment_usage`. -/
def tokenCost (inputTokens outputTokens : ℤ) : ℚ :=
  if inputTokens > 0 || outputTokens > 0 then
    roundTo 8 (inputTokens * inRate + outputTokens * outRate)
  else
    0

/-- `total_cost`: what one job is debited. -/
def totalCost (gpuSec : ℚ) (inputTokens outputTokens : ℤ) : ℚ :=
  roundTo 8 (gpuCost gpuSec + tokenCost inputTokens outputTokens)

/-- The keyword arguments `_increment_usage` stores with a DEBIT. -/
def usageMetadata (gpuSec : ℚ) (inputTokens outputTokens : ℤ) (planName : String)
    (jobId : JobId)
    : Metadata where
  jobId := some jobId.text
  gpuSec := some gpuSec
  inputTokens := some inputTokens
  outputTokens := some outputTokens
  plan := some planName

/-- `_increment_usage`: the cost and whether the DEBIT is durable. -/
def incrementUsage (tenantId : String) (gpuSec : ℚ) (inputTokens outputTokens : ℤ)
    (planName : String) (jobId : JobId) (backend : Option String)
    : Action (ℚ × Bool) := do
  if tenantId = "" then
    return (0, false)
  let total := totalCost gpuSec inputTokens outputTokens
  if total ≤ 0 then
    return (0, false)
  let (ledgerId, _) ← debitIfFunds tenantId total "USD" (some (jobKey jobId))
    (usageMetadata gpuSec inputTokens outputTokens planName jobId)
  if ledgerId.isNone then
    return (total, false)
  if gpuSec > 0 then
    let _ ← record (eventTypeOf backend) tenantId jobId.text gpuSec gpuSec (gpuCost gpuSec)
  if inputTokens > 0 || outputTokens > 0 then
    let _ ← record .tokenUsage tenantId jobId.text 0 (inputTokens + outputTokens)
      (tokenCost inputTokens outputTokens)
  return (total, true)

/-- `resolve_billable_seconds`: the confirmed duration if it is valid, else the wall clock. -/
def resolveBillableSeconds (confirmed startedAt : Option ℚ) (now : ℚ) : Option ℚ :=
  match confirmed.filter (fun value => 0 ≤ value) with
  | some value => some value
  | none => (startedAt.map (fun started => now - started)).filter (fun elapsed => 0 ≤ elapsed)

/-- What the callers of `finalize_job_billing` distinguish; `pgError` and `error` are their own
names for an exception of the call.
-/
inductive BillingStatus where
  | ok
  | noFunds
  | mismatch
  | skip
  | pgError
  | error
  deriving DecidableEq, Repr

/-- The status as the code spells it. -/
def BillingStatus.text : BillingStatus → String
  | .ok => "ok"
  | .noFunds => "no_funds"
  | .mismatch => "mismatch"
  | .skip => "skip"
  | .pgError => "pg_error"
  | .error => "error"

/-- `if job.get("status") in ("completed", "cancelled", "failed", "timeout")`. -/
def finalizeSkips : List JobStatus := [.completed, .cancelled, .failed, .timeout]

def finalizeJobBilling (tenantId : String) (jobId : JobId) (gpuSec : ℚ) (planName : String)
    (backend : Option String)
    : Action BillingStatus := do
  match ← ask .finalizeRead (.getExecutionJob jobId) with
  | none => return .skip
  | some job =>
      if job.tenantId ≠ tenantId then
        return .skip
      if finalizeSkips.contains job.status then
        return .skip
      match ← (incrementUsage tenantId gpuSec 0 0 planName jobId backend).attempt with
      | .error (.ledgerIdemMismatch ..) => return .mismatch
      | .error exn => throw exn
      | .ok (total, debited) =>
          if debited then
            return .ok
          else if total ≤ 0 then
            return .skip
          else
            return .noFunds

def refundJob (tenantId : String) (amount : ℚ) (jobId : JobId) (reason : String)
    : Action LedgerId :=
  refund tenantId amount jobId reason

end RomaBridge.Model
