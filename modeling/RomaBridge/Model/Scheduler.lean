import RomaBridge.Model.Records
import RomaBridge.Model.PyValues

/-! `scheduler/roma_scheduler.py` with the verdict vocabulary of `plan_source.py` and the audit
ledger of `audit/event_store.py`.
The predictor, the gate, the GPU connector and the processes a job starts are arguments: the
scheduler is modelled for every behaviour of them.
-/

namespace RomaBridge.Model.Scheduling

open RomaBridge.Model

-- Job dictionaries

abbrev JobDict := PyDict

-- plan_source.py

def gateUnavailable : String := "GATE_UNAVAILABLE"

def requiresConfirmation : String := "REQUIRES_CONFIRMATION"

def confirmationRequired : String := "CONFIRMATION_REQUIRED"

def confirmationFlag : String := "confirmed"

def allowedVerdicts : List String := ["APPROVED", requiresConfirmation, "allowed"]

def rejectionDecisions : List String :=
  ["UNKNOWN_TENANT", gateUnavailable, "REJECTED", "QUOTA_JOBS_EXHAUSTED",
    "QUOTA_JOB_ESTIMATE_EXCEEDS_PER_JOB", "QUOTA_MONTHLY_GPU_EXHAUSTED"]

def isRejection (decision category : Option String) : Bool :=
  [decision, category].any (fun code =>
    match code with
    | some text => text ≠ "" && rejectionDecisions.contains text
    | none => false)
  || ! allowedVerdicts.contains (decision.getD "")

-- audit/event_store.py

/-- A row of `audit_events`; of its data, the part `_record_user_confirmation` writes. -/
structure AuditEvent where
  id : String
  tenantId : PyValue
  eventType : String
  entityType : String
  entityId : PyValue
  userConfirmed : Bool
  decision : String
  decisionReason : String
  estimatedCost : PyValue
  deriving DecidableEq, Repr

/-- The committed rows of `audit_events`. -/
abbrev AuditLedger := List AuditEvent

def AuditLedger.eventExists (ledger : AuditLedger) (tenantId : PyValue) (eventType : String)
    (entityId : PyValue)
    : Bool :=
  ledger.any (fun event =>
    event.tenantId = tenantId && event.eventType = eventType && event.entityId = entityId)

/-- `insert_audit_event`: the partial unique index leaves out the entity `unknown`. -/
def AuditLedger.insert (ledger : AuditLedger) (event : AuditEvent) : AuditLedger :=
  if event.entityId ≠ .str "unknown"
      && ledger.eventExists event.tenantId event.eventType event.entityId then ledger
  else ledger ++ [event]

/-- How the ledger behaves during one `write_event_once`: whether the lookup raises, what other
processes commit between the lookup and the insert, and whether the insert raises before or after
its commit.
-/
structure LedgerBehaviour where
  existsFails : Option Exn := none
  meanwhile : List AuditEvent := []
  insertFails : Option Exn := none
  insertCommits : Bool := true
  eventId : String := ""
  /-- `type(exc).__name__` of what the ledger raises. -/
  typeName : Exn → String := fun _ => "Exception"

/-- `write_event_once`: what it returns or raises, and the ledger it leaves. -/
def writeEventOnce (behaviour : LedgerBehaviour) (event : AuditEvent) (dedupe : Bool)
    (ledger : AuditLedger)
    : Except Exn Bool × AuditLedger :=
  let write : Except Exn Bool × AuditLedger :=
    let current := ledger ++ behaviour.meanwhile
    let stored := current.insert event
    match behaviour.insertFails with
    | none => (.ok (decide (stored ≠ current)), stored)
    | some exn => (.error exn, if behaviour.insertCommits then stored else current)
  if ! dedupe then write
  else
    match behaviour.existsFails with
    | some exn => (.error exn, ledger)
    | none =>
        if ledger.eventExists event.tenantId event.eventType event.entityId then
          (.ok false, ledger)
        else write

-- roma_scheduler.py: routing

/-- `GateResult` of `cost/gate.py`. -/
inductive GateResult where
  | allowed
  | denied
  deriving DecidableEq, Repr

def GateResult.value : GateResult → String
  | .allowed => "allowed"
  | .denied => "denied"

/-- `GateDecision`, as far as the scheduler reads it. -/
structure GateDecision where
  result : GateResult
  reason : String
  deriving DecidableEq, Repr

/-- The dictionary `CostPredictor.predict` returns, as far as the scheduler reads it. -/
structure Prediction where
  decision : Option String
  decisionCategory : Option String
  decisionReason : String := ""
  estimatedCost : PyValue := .int 0
  deriving DecidableEq, Repr

/-- The keyword arguments of `predict`. -/
structure PredictArguments where
  task : PyValue
  gpuRequired : PyValue
  pluginType : PyValue
  tenantId : PyValue

/-- The payload the gate is given. -/
structure GatePayload where
  task : PyValue
  gpuRequired : PyValue
  pluginType : PyValue

/-- `ROMAGPUScheduler`: its gate, its predictor and its connector. -/
structure Scheduler where
  gateUnavailableReason : Option String
  costGate : Option (PyValue → GatePayload → Except Exn GateDecision)
  predict : PredictArguments → Except Exn Prediction
  connectorAvailable : Except Exn Bool

inductive ExecutionTarget where
  | gpuWorker
  | localProcess
  deriving DecidableEq, Repr

/-- The dictionary `route_job` returns. -/
inductive Route where
  | rejected (reason : Option String) (detail : Option String) (hint : Bool)
    (estimatedCost : PyValue)
  | queued (target : ExecutionTarget) (jobId : PyValue) (estimatedCost : PyValue)
    (gateDecision : String) (userConfirmed : Bool)
  deriving DecidableEq, Repr

/-- `route["status"] == "queued"`. -/
def Route.isQueued : Route → Bool
  | .rejected .. => false
  | .queued .. => true

/-- The event `_record_user_confirmation` writes. -/
def confirmationEvent (eventId : String) (job : JobDict) (prediction : Prediction) : AuditEvent where
  id := eventId
  tenantId := (job.get "tenant_id").orElse (.str "unknown")
  eventType := "job.user_confirmed"
  entityType := "job"
  entityId := (job.get "job_id").orElse (.str "unknown")
  userConfirmed := true
  decision := requiresConfirmation
  decisionReason := prediction.decisionReason
  estimatedCost := prediction.estimatedCost

def recordUserConfirmation (behaviour : LedgerBehaviour) (job : JobDict) (prediction : Prediction)
    (ledger : AuditLedger)
    : Except Exn Bool × AuditLedger :=
  writeEventOnce behaviour (confirmationEvent behaviour.eventId job prediction)
    (job.get "job_id").truthy ledger

/-- The arguments `route_job` gives the predictor. -/
def predictArguments (job : JobDict) : PredictArguments where
  task := job.getOr "task_type" (.str "default")
  gpuRequired := job.getOr "gpu_required" (.bool true)
  pluginType := job.getOr "plugin_type" (.str "default")
  tenantId := job.get "tenant_id"

/-- The payload `route_job` gives the gate. -/
def gatePayload (job : JobDict) : GatePayload where
  task := job.getOr "task_type" (.str "default")
  gpuRequired := job.getOr "gpu_required" (.bool true)
  pluginType := job.getOr "plan_tier" (.str "PRO")

/-- The end of `route_job`: the gate's decision, then the execution target. -/
def routeThroughGate (scheduler : Scheduler) (job : JobDict) (prediction : Prediction)
    (userConfirmed : Bool)
    : Except Exn Route := do
  let (gateDecision, gateAllowed, gateReason) ←
    match scheduler.costGate with
    | none =>
        pure (gateUnavailable, false,
          scheduler.gateUnavailableReason.getD "decision gate unavailable")
    | some evaluate =>
        let decision ← evaluate (job.getOr "tenant_id" (.str "default")) (gatePayload job)
        pure (decision.result.value, ! isRejection (some decision.result.value) none,
          decision.reason)
  if ! gateAllowed then
    return .rejected (some gateReason) none false prediction.estimatedCost
  let available ←
    if (job.getOr "gpu_required" (.bool true)).truthy then scheduler.connectorAvailable
    else pure false
  return .queued (if available then .gpuWorker else .localProcess) (job.get "job_id")
    prediction.estimatedCost gateDecision userConfirmed

/-- `route_job`: the route or the exception that leaves it, and the ledger it leaves. -/
def routeJob (scheduler : Scheduler) (behaviour : LedgerBehaviour) (job : JobDict)
    (ledger : AuditLedger)
    : Except Exn Route × AuditLedger :=
  match scheduler.gateUnavailableReason with
  | some reason => (.ok (.rejected (some gateUnavailable) (some reason) false .none), ledger)
  | none =>
      match scheduler.predict (predictArguments job) with
      | .error exn => (.error exn, ledger)
      | .ok prediction =>
          if isRejection prediction.decision prediction.decisionCategory then
            -- verdict_category or verdict
            let category := prediction.decisionCategory.filter (fun text => text ≠ "")
            (.ok (.rejected (category.or prediction.decision) (some prediction.decisionReason)
              false .none), ledger)
          else if prediction.decision = some requiresConfirmation then
            if job.get confirmationFlag ≠ .bool true then
              (.ok (.rejected (some confirmationRequired) (some prediction.decisionReason) true
                prediction.estimatedCost), ledger)
            else
              match recordUserConfirmation behaviour job prediction ledger with
              | (.error exn, written) =>
                  if exn.isException then
                    (.ok (.rejected (some gateUnavailable)
                      (some ("confirmation ledger unavailable: " ++ behaviour.typeName exn)) false
                      prediction.estimatedCost), written)
                  else (.error exn, written)
              | (.ok _, written) => (routeThroughGate scheduler job prediction true, written)
          else (routeThroughGate scheduler job prediction false, ledger)

-- roma_scheduler.py: execution

def allowedBinaries : List String := ["python", "python3"]

/-- `os.path.basename`. -/
def basename (path : String) : String :=
  String.ofList ((path.toList.reverse.takeWhile (fun c => c ≠ '/')).reverse)

/-- What runs outside the scheduler: the connector's worker, `shlex.split` and the subprocess. -/
structure Outside where
  connectorExecute : JobDict → Except Exn String
  shlexSplit : PyValue → Except Exn (List String)
  subprocessRun : List String → Except Exn (ℤ × String × String)

/-- What `execute_job` started. -/
inductive Started where
  | gpuWorker
  | process (argv : List String)
  deriving DecidableEq, Repr

/-- The dictionary `execute_job` returns. -/
inductive ExecReply where
  | refused (route : Route)
  | gpuResult (result : String)
  | notAllowed
  | failed (error : String)
  | finished (returncode : ℤ) (stdout stderr : String)
  deriving DecidableEq, Repr

/-- `_execute_local`: its reply and the process it started. -/
def executeLocal (outside : Outside) (job : JobDict)
    : Except Exn ExecReply × Option Started :=
  let command := job.getOr "command" (.str "")
  let split := if command.truthy then outside.shlexSplit command else .ok []
  match split with
  | .error exn => (if exn.isException then .ok (.failed exn.message) else .error exn, none)
  | .ok argv =>
      match argv with
      | [] => (.ok .notAllowed, none)
      | binary :: _ =>
          if ! allowedBinaries.contains (basename binary) then (.ok .notAllowed, none)
          else
            match outside.subprocessRun argv with
            | .ok (returncode, stdout, stderr) =>
                (.ok (.finished returncode stdout stderr), some (.process argv))
            | .error exn =>
                (if exn.isException then .ok (.failed exn.message) else .error exn,
                  some (.process argv))

/-- `execute_job`: its reply, what it started and the ledger it leaves. -/
def executeJob (scheduler : Scheduler) (outside : Outside) (behaviour : LedgerBehaviour)
    (job : JobDict) (ledger : AuditLedger)
    : Except Exn ExecReply × Option Started × AuditLedger :=
  match routeJob scheduler behaviour job ledger with
  | (.error exn, written) => (.error exn, none, written)
  | (.ok (.rejected reason detail hint cost), written) =>
      (.ok (.refused (.rejected reason detail hint cost)), none, written)
  | (.ok (.queued .gpuWorker _ _ _ _), written) =>
      ((outside.connectorExecute job).map .gpuResult, some .gpuWorker, written)
  | (.ok (.queued .localProcess _ _ _ _), written) =>
      let (reply, started) := executeLocal outside job
      (reply, started, written)

-- ROMAJobExecutor

/-- The key under which a dictionary stores a value: equal numbers are one key. `none` of the
option is a value that cannot be hashed.
-/
def hashKey : PyValue → Option PyValue
  | .bool value => some (.int (if value then 1 else 0))
  | .float value => some (if value.den = 1 then .int value.num else .float value)
  | .other _ => none
  | value => some value

/-- `ROMAJobExecutor`: `results` and `_job_ownership`, by key. -/
structure Executor where
  results : PyValue → Option ExecReply
  ownership : PyValue → Option PyValue

def Executor.fresh : Executor := ⟨fun _ => none, fun _ => none⟩

/-- `dictionary[key] = value`. -/
def assign {α : Type} (dictionary : PyValue → Option α) (key : PyValue) (value : α)
    : PyValue → Option α :=
  fun other => if other = key then some value else dictionary other

/-- What a submit is given: the job, the id drawn when it names none, and how scheduler, outside
and ledger behave while it is routed and while it is executed.
-/
structure Submission where
  job : JobDict
  drawnId : String
  scheduler : Scheduler
  outside : Outside
  routeLedger : LedgerBehaviour := {}
  executeLedger : LedgerBehaviour := {}
  ledger : AuditLedger := []

/-- `job["job_id"]` once `submit` has assigned it. -/
def Submission.jobId (submission : Submission) : PyValue :=
  (submission.job.get "job_id").orElse (.str submission.drawnId)

/-- `job.get("tenant_id", "unknown")`. -/
def Submission.tenantId (submission : Submission) : PyValue :=
  submission.job.getOr "tenant_id" (.str "unknown")

/-- The job dictionary once `submit` has assigned its id. -/
def Submission.assigned (submission : Submission) : JobDict :=
  fun key => if key = "job_id" then some submission.jobId else submission.job key

/-- What `route_job`, and then `execute_job` on a job that was not rejected, come to. `none` is a
rejected route.
-/
def Submission.outcome (submission : Submission) : Except Exn (Option ExecReply) :=
  match routeJob submission.scheduler submission.routeLedger submission.assigned
    submission.ledger with
  | (.error exn, _) => .error exn
  | (.ok (.rejected ..), _) => .ok none
  | (.ok (.queued ..), written) =>
      (executeJob submission.scheduler submission.outside submission.executeLedger
        submission.assigned written).1.map some

/-- `ROMAJobExecutor.submit`: what it returns or raises, and the executor it leaves. The owner is
assigned before the job is routed, the result after it was executed.
-/
def Executor.submit (executor : Executor) (submission : Submission)
    : Except Exn (Option ExecReply) × Executor :=
  match hashKey submission.jobId with
  | none => (.error (.valueError "unhashable type"), executor)
  | some key =>
      let owned := { executor with
        ownership := assign executor.ownership key submission.tenantId }
      match submission.outcome with
      | .ok (some result) =>
          (.ok (some result), { owned with results := assign owned.results key result })
      | other => (other, owned)

/-- `ROMAJobExecutor.get_result`. -/
def Executor.getResult (executor : Executor) (jobId tenantId : String) : Option ExecReply :=
  let denied :=
    tenantId ≠ "" && (match executor.ownership (.str jobId) with
      | some owner => owner.truthy && owner ≠ .str tenantId
      | none => false)
  if denied then none else executor.results (.str jobId)

end RomaBridge.Model.Scheduling
