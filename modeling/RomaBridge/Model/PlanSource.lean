import RomaBridge.Model.Decisions
import RomaBridge.Model.PyValues
import RomaBridge.Model.Records

/-! `plan_source.py`, the readers of its tiers, and the checks an admission makes with them: the
gate of `cost/gate.py`, `_check_limits` and `_check_spend_cap` of `main.py`, and the quota step of
`decision_store.py`. The table behind `str.lower` is a parameter.
-/

namespace RomaBridge.Model.Plans

open RomaBridge.Foundation

/-- What reading `config/plans.json` gives. -/
inductive PlansFile where
  | missing
  | unreadable
  | json (raw : JsonValue)

/-- An object of `config/plans.json`: the fields that are read. -/
def tierObject (jobsPerMonth gpuSPerJob : ℤ) : JsonValue :=
  .dict [("jobs_per_month", .int jobsPerMonth), ("gpu_s_per_job", .int gpuSPerJob)]

def shippedPlans : PlansFile :=
  .json (.dict [("free", tierObject 50 3600), ("start", tierObject 50 3600),
    ("pro", tierObject 1000 3600), ("enterprise", tierObject (-1) (-1))])

/-- The `PlanSourceError`s, by what they report. -/
inductive PlanSourceError where
  | missing
  | unreadable
  | notAnObject
  | emptyName
  | unknownTier (plan : Option String)
  | incomplete (tier : String) (fields : List String)
  | notIntegers (tier : String)
  deriving DecidableEq, Repr

/-- `PlanLimits`: the two declared fields of a tier. -/
structure PlanLimits where
  plan : String
  jobsPerMonth : ℤ
  gpuSPerJob : ℤ
  deriving DecidableEq, Repr

/-- `PlanLimits.gpu_s_per_month`. -/
def PlanLimits.gpuSPerMonth (limits : PlanLimits) : ℤ :=
  if limits.jobsPerMonth < 0 ∨ limits.gpuSPerJob < 0 then
    -1
  else
    limits.jobsPerMonth * limits.gpuSPerJob

def PlanLimits.gpuHoursPerMonth (limits : PlanLimits) : ℤ :=
  if limits.gpuSPerMonth < 0 then -1 else limits.gpuSPerMonth / 3600

/-- `int(value)` of a float: the fraction is cut off. -/
def truncated (value : ℚ) : ℤ := value.num.tdiv value.den

/-- `int(text)` of a text in ASCII digits. -/
def intOfText (text : String) : Option ℤ :=
  let (negative, digits) := splitSign (pyStrip text).toList
  (digitRun digits).map (fun run =>
    if negative then -(Nat.ofDigitChars 10 run 0 : ℤ) else (Nat.ofDigitChars 10 run 0 : ℤ))

/-- `int(value)` of a value of the file; `none` is the `TypeError` or the `ValueError`. -/
def pyInt : JsonValue → Option ℤ
  | .bool value => some (if value then 1 else 0)
  | .int value => some value
  | .float value => some (truncated value)
  | .str text => intOfText text
  | .null | .list _ | .dict _ => none

def loadPlans : PlansFile → Except PlanSourceError JsonDict
  | .missing => .error .missing
  | .unreadable => .error .unreadable
  | .json (.dict entries) =>
      if entries = [] then .error .notAnObject else .ok (JsonDict.ofList entries)
  | .json _ => .error .notAnObject

/-- The tier that the file describes under a key, for the name it was asked for. -/
def tierLimits (plans : JsonDict) (plan : Option String) (tier : String)
    : Except PlanSourceError PlanLimits :=
  match plans.get? tier with
  | some (.dict fields) =>
      let cfg := JsonDict.ofList fields
      let missing := ["jobs_per_month", "gpu_s_per_job"].filter (fun field =>
        (cfg.get? field).isNone)
      if missing ≠ [] then
        .error (.incomplete tier missing)
      else
        match pyInt (cfg.getOr "jobs_per_month" .null), pyInt (cfg.getOr "gpu_s_per_job" .null) with
        | some jobsPerMonth, some gpuSPerJob => .ok ⟨tier, jobsPerMonth, gpuSPerJob⟩
        | _, _ => .error (.notIntegers tier)
  | _ => .error (.unknownTier plan)

section Lowering

variable (lower : String → String)

/-- `(plan or "").strip().lower()`. -/
def planKey (plan : Option String) : String := lower (pyStrip (plan.getD ""))

def planLimits (file : PlansFile) (plan : Option String) : Except PlanSourceError PlanLimits :=
  if planKey lower plan = "" then
    .error .emptyName
  else
    (loadPlans file).bind (fun plans => tierLimits plans plan (planKey lower plan))

/-- The `max_jobs` of the entry that `_load_plans` keeps under a name: an object of the file whose
tier has limits.
-/
def keptLimit (file : PlansFile) (name : String) (cfg : JsonValue) : Option ℤ :=
  match cfg with
  | .dict _ =>
      match planLimits lower file (some name) with
      | .ok limits => some limits.jobsPerMonth
      | .error _ => none
  | _ => none

/-- `db_adapter._load_plans`, as far as the gate reads it: the `max_jobs` of each name. -/
def loadedPlans (file : PlansFile) (name : String) : Option ℤ :=
  match loadPlans file with
  | .ok loaded => (loaded.get? name).bind (keptLimit lower file name)
  | .error _ => none

/-- `plans.get("free", {"max_jobs": 10})["max_jobs"]`. -/
def fallbackLimit (file : PlansFile) : ℤ := (loadedPlans lower file "free").getD 10

/-- The `max_jobs` that the gate reads for a plan. -/
def gateLimit (file : PlansFile) (plan : Option String) : ℤ :=
  (plan.bind (loadedPlans lower file)).getD (fallbackLimit lower file)

/-- The columns of a row of `tenants` that these checks read. -/
structure TenantRecord where
  id : String
  plan : Option String
  deriving DecidableEq, Repr

/-- `GateDecision` of `cost/gate.py`. -/
structure GateDecision where
  allowed : Bool
  reason : String
  tenantId : String
  jobLimit : ℤ := 0
  costEstimated : ℚ := 0
  deriving DecidableEq, Repr

def deniedBy (limit : ℤ) (jobs : ℕ) : Bool := 0 ≤ limit && limit ≤ jobs

def evaluate (file : PlansFile) (tenantId : String) (tenant : Option TenantRecord) (jobCount : ℕ)
    (gpuRequired : Bool)
    : GateDecision :=
  match tenant with
  | none => ⟨false, "tenant not found", tenantId, 0, 0⟩
  | some record =>
      let maxJobs := gateLimit lower file record.plan
      if deniedBy maxJobs jobCount then
        ⟨false, "quota exceeded: " ++ toString jobCount ++ "/" ++ toString maxJobs ++ " jobs",
          tenantId, maxJobs, 0⟩
      else
        ⟨true, "quota ok", tenantId, maxJobs, Decisions.estimateCost gpuRequired⟩

/-- Why `_check_limits` or the quota step of `decision_store.py` refuses. -/
inductive QuotaRefusal where
  | tenantNotFound (tenantId : String)
  | gateUnavailable (error : PlanSourceError)
  | limitReached (used : ℕ) (limit : ℤ)
  deriving DecidableEq, Repr

/-- `_check_limits` of `main.py`; without a row the plan's name is `None`. -/
def checkLimits (file : PlansFile) (tenant : Option TenantRecord) (used : ℕ)
    : Except QuotaRefusal Unit :=
  match planLimits lower file (tenant.bind TenantRecord.plan) with
  | .error error => .error (.gateUnavailable error)
  | .ok limits =>
      if limits.jobsPerMonth < 0 then
        .ok ()
      else if limits.jobsPerMonth ≤ used then
        .error (.limitReached used limits.jobsPerMonth)
      else
        .ok ()

/-- Steps 3 and 4 of `submit_job_through_gate`: the tenant, then the quota with its test
`max_jobs != -1`.
-/
def quotaStep (file : PlansFile) (tenantId : String) (tenant : Option TenantRecord) (jobCount : ℕ)
    : Except QuotaRefusal Unit :=
  match tenant with
  | none => .error (.tenantNotFound tenantId)
  | some record =>
      match planLimits lower file record.plan with
      | .error error => .error (.gateUnavailable error)
      | .ok limits =>
          if limits.jobsPerMonth ≠ -1 ∧ limits.jobsPerMonth ≤ jobCount then
            .error (.limitReached jobCount limits.jobsPerMonth)
          else
            .ok ()

end Lowering

structure Consumption where
  tenantId : String
  jobsUsed : ℕ
  gpuSecondsUsed : ℤ
  deriving DecidableEq, Repr

/-- The rows of a tenant in `usage_events`. -/
def usageOf (tenantId : String) (usage : List UsageRow) : List UsageRow :=
  usage.filter (fun row => row.tenantId = tenantId)

/-- `ledger_consumption` over `db.get_tenant_usage_db`: `COUNT(*)` and `int(SUM(value))` of all the
rows of the tenant.
-/
def ledgerConsumption (usage : List UsageRow) (tenantId : String) : Consumption where
  tenantId := tenantId
  jobsUsed := (usageOf tenantId usage).length
  gpuSecondsUsed := truncated ((usageOf tenantId usage).map UsageRow.value).sum

/-- A stored row with the calendar month of its `created_at`. -/
structure Dated (ρ : Type) where
  month : ℕ
  row : ρ

/-- What the counters read: the tenants of the rows of `execution_jobs`, and `usage_events`. -/
structure History where
  jobs : List (Dated String)
  usage : List (Dated UsageRow)

def countJobsForTenantTotal (history : History) (tenantId : String) : ℕ :=
  history.jobs.countP (fun job => job.row = tenantId)

end RomaBridge.Model.Plans
