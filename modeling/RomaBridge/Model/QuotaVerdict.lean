import RomaBridge.Model.Backpressure
import RomaBridge.Model.PlanSource

/-! `free_quota_verdict` of `plan_source.py`, with the reasons and the basis that it answers with.
Quotients are exact numbers instead of the nearest floats.
-/

namespace RomaBridge.Model.Plans

open RomaBridge.Foundation

/-- What `free_quota_verdict` can raise: `ZeroDivisionError`, `OverflowError`, and the `ValueError`
of an integer with too many digits for a text.
-/
inductive QuotaError where
  | zeroDivision
  | overflow
  | tooManyDigits
  deriving DecidableEq, Repr

def unlimitedLimit : ℤ := -1

def approvedDecision : String := "APPROVED"

def rejectedDecision : String := "REJECTED"

def unlimited (limit : ℤ) : Bool := limit < 0

def printed (value : ℤ) : Except QuotaError PyStr :=
  match intText value with
  | some text => .ok text
  | none => .error .tooManyDigits

def printedLimit (limit : ℤ) : Except QuotaError PyStr :=
  if unlimited limit then .ok (PyStr.of "∞") else printed limit

/-- `a / b`. -/
def divided (a b : ℤ) : Except QuotaError ℚ :=
  if b = 0 then .error .zeroDivision
  else
    match Admission.trueDiv a b with
    | some quotient => .ok quotient
    | none => .error .overflow

/-- `round(ratio * 100, 2)`; a product beyond the floats is infinite and stays so. -/
def percentage (ratio : ℚ) : PyFloat :=
  if 2 ^ 1024 - 2 ^ 970 ≤ ratio * 100 then .inf false
  else if ratio * 100 ≤ -(2 ^ 1024 - 2 ^ 970) then .inf true
  else .finite (roundTo 2 (ratio * 100))

/-- `max(ratios)` as a percentage, and 0 without ratios. -/
def proximity : List ℚ → PyFloat
  | [] => .finite 0
  | ratio :: ratios => percentage (ratios.foldl max ratio)

structure VerdictBasis where
  tier : String
  jobsUsed : ℕ
  jobsLimit : ℤ
  estimateGpuS : ℤ
  gpuSPerJob : ℤ
  monthlyUsedGpuS : ℤ
  monthlyLimitGpuS : ℤ
  distance : List (String × ℤ)
  projectedMonthlyGpuS : Option ℤ := none
  proximityPct : PyFloat
  deriving DecidableEq

/-- What `free_quota_verdict` returns. -/
structure QuotaVerdict where
  decision : String
  category : Option String
  reason : PyStr
  basis : VerdictBasis
  deriving DecidableEq

section Verdict

variable (limits : PlanLimits) (consumption : Consumption) (estimate : ℤ)

/-- The basis with the fields that depend on the branch. -/
def verdictBasis (distance : List (String × ℤ)) (projected : Option ℤ) (proximityPct : PyFloat)
    : VerdictBasis where
  tier := limits.plan
  jobsUsed := consumption.jobsUsed
  jobsLimit := limits.jobsPerMonth
  estimateGpuS := estimate
  gpuSPerJob := limits.gpuSPerJob
  monthlyUsedGpuS := consumption.gpuSecondsUsed
  monthlyLimitGpuS := limits.gpuSPerMonth
  distance := distance
  projectedMonthlyGpuS := projected
  proximityPct := proximityPct

def jobsExhaustedVerdict : Except QuotaError QuotaVerdict := do
  let left := limits.jobsPerMonth - consumption.jobsUsed
  let used ← printed consumption.jobsUsed
  let limit ← printed limits.jobsPerMonth
  let distance ← printed left
  return {
    decision := rejectedDecision
    category := some "QUOTA_JOBS_EXHAUSTED"
    reason := PyStr.of "квота джобов исчерпана: " ++ used ++ PyStr.of "/" ++ limit
      ++ PyStr.of " джобов за месяц (до предела: " ++ distance ++ PyStr.of ")"
    basis := verdictBasis limits consumption estimate [("jobs_to_limit", left)] none (.finite 100) }

def perJobExceededVerdict : Except QuotaError QuotaVerdict := do
  let excess := estimate - limits.gpuSPerJob
  let asked ← printed estimate
  let cap ← printed limits.gpuSPerJob
  let distance ← printed excess
  let ratio ← divided estimate limits.gpuSPerJob
  return {
    decision := rejectedDecision
    category := some "QUOTA_JOB_ESTIMATE_EXCEEDS_PER_JOB"
    reason := PyStr.of "смета джоба превышает лимит тира: " ++ asked ++ PyStr.of " > " ++ cap
      ++ PyStr.of " GPU-s (превышение: " ++ distance ++ PyStr.of ")"
    basis := verdictBasis limits consumption estimate [("per_job_over_by_gpu_s", excess)] none
      (percentage ratio) }

def monthlyExhaustedVerdict : Except QuotaError QuotaVerdict := do
  let projected := consumption.gpuSecondsUsed + estimate
  let excess := projected - limits.gpuSPerMonth
  let used ← printed consumption.gpuSecondsUsed
  let asked ← printed estimate
  let limit ← printed limits.gpuSPerMonth
  let distance ← printed excess
  let ratio ← divided projected limits.gpuSPerMonth
  return {
    decision := rejectedDecision
    category := some "QUOTA_MONTHLY_GPU_EXHAUSTED"
    reason := PyStr.of "месячный ресурс GPU исчерпан: потребление " ++ used ++ PyStr.of " + смета "
      ++ asked ++ PyStr.of " > " ++ limit ++ PyStr.of " GPU-s (превышение: " ++ distance
      ++ PyStr.of ")"
    basis := verdictBasis limits consumption estimate [("monthly_over_by_gpu_s", excess)]
      (some projected) (percentage ratio) }

/-- The ratio to a limit that is neither zero nor unlimited, as a list of at most one. -/
def ratioTo (value limit : ℤ) : Except QuotaError (List ℚ) :=
  if !unlimited limit && limit ≠ 0 then (divided value limit).map (fun ratio => [ratio]) else .ok []

def withinQuotaVerdict : Except QuotaError QuotaVerdict := do
  let projected := consumption.gpuSecondsUsed + estimate
  let ofJobs ← ratioTo (consumption.jobsUsed + 1) limits.jobsPerMonth
  let ofMonth ← ratioTo projected limits.gpuSPerMonth
  let used ← printed consumption.jobsUsed
  let jobsLimit ← printedLimit limits.jobsPerMonth
  let asked ← printed estimate
  let cap ← printedLimit limits.gpuSPerJob
  let month ← printed projected
  let monthLimit ← printedLimit limits.gpuSPerMonth
  return {
    decision := approvedDecision
    category := none
    reason := PyStr.of "квота в пределах тира " ++ PyStr.of limits.plan ++ PyStr.of ": джобы "
      ++ used ++ PyStr.of "/" ++ jobsLimit ++ PyStr.of ", смета " ++ asked ++ PyStr.of "/" ++ cap
      ++ PyStr.of " GPU-s, месяц " ++ month ++ PyStr.of "/" ++ monthLimit ++ PyStr.of " GPU-s"
    basis := verdictBasis limits consumption estimate
      [("jobs_remaining",
          if unlimited limits.jobsPerMonth then unlimitedLimit
          else limits.jobsPerMonth - consumption.jobsUsed),
        ("monthly_gpu_s_remaining",
          if unlimited limits.gpuSPerMonth then unlimitedLimit
          else limits.gpuSPerMonth - projected)]
      (some projected) (proximity (ofJobs ++ ofMonth)) }

end Verdict

def freeQuotaVerdict (limits : PlanLimits) (consumption : Consumption) (estimateGpuS : ℚ)
    : Except QuotaError QuotaVerdict :=
  let estimate := truncated estimateGpuS
  if !unlimited limits.jobsPerMonth && limits.jobsPerMonth ≤ consumption.jobsUsed then
    jobsExhaustedVerdict limits consumption estimate
  else if !unlimited limits.gpuSPerJob && limits.gpuSPerJob < estimate then
    perJobExceededVerdict limits consumption estimate
  else if !unlimited limits.gpuSPerMonth
      && limits.gpuSPerMonth < consumption.gpuSecondsUsed + estimate then
    monthlyExhaustedVerdict limits consumption estimate
  else
    withinQuotaVerdict limits consumption estimate

end RomaBridge.Model.Plans
