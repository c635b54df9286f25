import RomaBridge.Model.Sweepers

/-! HTTP endpoints that write `execution_jobs` or the ledger.
Authentication, audit events and the backend are answers from outside; a handler is its reads,
checks and writes in the order of the source.
-/

namespace RomaBridge.Model

open RomaBridge.Foundation

/-- `db_adapter.CANCEL_BLOCKED_STATUSES`. -/
def cancelBlockedStatuses : List JobStatus :=
  [.completed, .timeout, .failed, .cancelled, .error, .stopped, .destroyed, .billingPending]

/-- `TRANSITION_GRAPH`; `none` for a status that is not a key. -/
def transitionGraph : JobStatus → Option (List JobStatus)
  | .queued => some [.running, .cancelled]
  | .running => some [.completed, .failed, .cancelled]
  | .completed => some []
  | .failed => some [.queued]
  | .cancelled => some []
  | _ => none

/-- `validate_transition`, with the reason of a denial. -/
def validateTransition (current new : JobStatus) : Except String Unit :=
  match transitionGraph current with
  | none => .error ("unknown status: " ++ current.text)
  | some targets =>
      if targets.contains new then
        .ok ()
      else
        .error ("transition_denied: " ++ current.text ++ " → " ++ new.text ++ " invalid")

/-- The actions of `evaluate_policies` that the job routes ask about. -/
inductive PolicyAction where
  | jobRetry
  | jobCancel

/-- `evaluate_policies` for the job routes, with the reason of a denial. -/
def evaluatePolicies (tenantFound : Bool) (action : PolicyAction) (jobStatus : JobStatus)
    : Except String Unit :=
  if !tenantFound then
    .error "tenant_not_found"
  else
    match action with
    | .jobRetry =>
        if jobStatus ≠ .failed then
          .error "transition_denied: retry only from failed"
        else
          .ok ()
    | .jobCancel =>
        if [JobStatus.completed, .failed, .cancelled].contains jobStatus then
          .error ("transition_denied: cannot cancel " ++ jobStatus.text)
        else
          .ok ()

/-- `raise HTTPException(code, reason)` on a denial. -/
def guardHttp (code : ℕ) (outcome : Except String Unit) : Action Unit :=
  match outcome with
  | .ok _ => return ()
  | .error reason => throw (.http code reason)

/-- What a request brings along: the tenant of its key, what the tenant table says, the
backend's answers and the clock of the handler.
-/
structure Request where
  tenant : Except Exn String
  tenantFound : Bool := true
  plan : Except Exn String := .ok "free"
  confirmed : Option ℚ := none
  backendCancel : Except Exn Unit := .ok ()
  now : ℚ := 0

/-- Body of a successful job response. -/
structure JobResponse where
  jobId : JobId
  status : JobStatus
  billing : Option String := none

def ownedJob (site : Site) (tenantId : String) (jobId : JobId) : Action JobRow := do
  match ← ask site (.getExecutionJob jobId) with
  | none => throw (.http 404 "Job not found")
  | some job => if job.tenantId ≠ tenantId then throw (.http 404 "Job not found") else return job

/-- `finalize_job_billing` inside the complete handlers: unknown seconds and refused debits are
HTTP errors; `false` stands for `skip`.
-/
def billForRoute (request : Request) (tenantId : String) (jobId : JobId) (job : JobRow)
    : Action Bool := do
  match resolveBillableSeconds request.confirmed job.startedAt request.now with
  | none =>
      throw (.http 409
        "billing_duration_unknown: no confirmed duration and no valid started_at")
  | some gpuSec => do
      let planName ← Program.ofExcept request.plan
      match ← (finalizeJobBilling tenantId jobId gpuSec planName job.backend).attempt with
      | .error (.pgUnavailable _) => throw (.http 503 "Billing unavailable, retry later")
      | .error exn => throw exn
      | .ok .noFunds => throw (.http 402 "Insufficient funds")
      | .ok .mismatch => throw (.http 409 "billing_idempotency_mismatch")
      | .ok .skip => return false
      | .ok _ => return true

/-- The compare-and-set shared by both cancel endpoints. -/
def cancelUpdate (jobId : JobId) (tenantId : String) (now : ℚ) : JobUpdate where
  jobId := jobId
  status := some .cancelled
  completedAt := some now
  tenantId := some tenantId
  ifStatusNotIn := cancelBlockedStatuses

/-- `POST /cancel/{job_id}`. -/
def cancelJob (request : Request) (jobId : JobId) : Action JobResponse := do
  let tenantId ← Program.ofExcept request.tenant
  let job ← ownedJob .cancelRead tenantId jobId
  let n ← ask .cancelWrite (.updateExecutionJob (cancelUpdate jobId tenantId request.now))
  if n = 0 then
    let current ← ask .cancelReread (.getExecutionJob jobId)
    throw (.jobNotCancellable jobId (current.getD job).status)
  suppress (Program.ofExcept request.backendCancel)
  return { jobId, status := .cancelled }

/-- The compare-and-set of `/complete`. -/
def completeUpdate (jobId : JobId) (tenantId : String) (now : ℚ) : JobUpdate where
  jobId := jobId
  status := some .completed
  completedAt := some now
  tenantId := some tenantId
  ifStatusNotIn := [.completed, .timeout, .failed, .cancelled]

/-- `POST /complete/{job_id}`. -/
def completeJob (request : Request) (jobId : JobId) : Action JobResponse := do
  let tenantId ← Program.ofExcept request.tenant
  let job ← ownedJob .completeRead tenantId jobId
  if ← billForRoute request tenantId jobId job then
    suppress (Program.ofExcept request.backendCancel)
    let n ← ask .completeWrite
      (.updateExecutionJob (completeUpdate jobId tenantId request.now))
    if n = 0 then
      let current ← ask .completeReread (.getExecutionJob jobId)
      return { jobId, status := (current.getD job).status }
    return { jobId, status := .completed }
  else
    return { jobId, status := job.status, billing := some "skip" }

/-- The write of a retry: no status condition. -/
def retryUpdate (jobId : JobId) (tenantId : String) : JobUpdate where
  jobId := jobId
  status := some .queued
  tenantId := some tenantId

/-- `POST /v1/jobs/{job_id}/retry`: the status is checked in one read and written later. -/
def retryJob (request : Request) (jobId : JobId) : Action JobResponse := do
  let tenantId ← Program.ofExcept request.tenant
  let job ← ownedJob .retryRead tenantId jobId
  guardHttp 403 (evaluatePolicies request.tenantFound .jobRetry job.status)
  guardHttp 409 (validateTransition job.status .queued)
  let _ ← ask .retryWrite (.updateExecutionJob (retryUpdate jobId tenantId))
  return { jobId, status := .queued }

/-- `POST /v1/jobs/{job_id}/cancel`. -/
def cancelJobV1 (request : Request) (jobId : JobId) : Action JobResponse := do
  let tenantId ← Program.ofExcept request.tenant
  let job ← ownedJob .jobsCancelRead tenantId jobId
  guardHttp 403 (evaluatePolicies request.tenantFound .jobCancel job.status)
  guardHttp 409 (validateTransition job.status .cancelled)
  let n ← ask .jobsCancelWrite (.updateExecutionJob (cancelUpdate jobId tenantId request.now))
  if n = 0 then
    let current ← ask .jobsCancelReread (.getExecutionJob jobId)
    let latest := (current.getD job).status
    throw (.http 409 ("transition_denied: " ++ latest.text ++ " → cancelled invalid"))
  return { jobId, status := .cancelled }

/-- The write of `/v1` complete: no status condition. -/
def completeV1Update (jobId : JobId) (tenantId : String) (now : ℚ) : JobUpdate where
  jobId := jobId
  status := some .completed
  completedAt := some now
  tenantId := some tenantId

/-- `POST /v1/jobs/{job_id}/complete`. -/
def completeJobV1 (request : Request) (jobId : JobId) : Action JobResponse := do
  let tenantId ← Program.ofExcept request.tenant
  let job ← ownedJob .jobsCompleteRead tenantId jobId
  guardHttp 409 (validateTransition job.status .completed)
  if ← billForRoute request tenantId jobId job then
    let _ ← ask .jobsCompleteWrite
      (.updateExecutionJob (completeV1Update jobId tenantId request.now))
    return { jobId, status := .completed }
  else
    return { jobId, status := job.status, billing := some "skip" }

/-- The `action` of a worker acknowledgement; any other text is refused. -/
inductive AckAction where
  | start
  | complete
  | fail
  | unknown
  deriving DecidableEq, Repr

/-- `status_map`. -/
def AckAction.status : AckAction → JobStatus
  | .start => .running
  | .complete => .completed
  | .fail => .failed
  | .unknown => .other ""

/-- The job an acknowledgement is about and the tenant it is written under: the worker token
reaches every job, an API key its own jobs and never `fail`.
-/
def ackJob (request : Request) (tokenValid : Bool) (action : AckAction) (jobId : JobId)
    : Action (JobRow × String) := do
  if tokenValid then
    match ← ask .ackRead (.getExecutionJob jobId) with
    | none => throw (.http 404 "Job not found")
    | some job => return (job, job.tenantId)
  else
    let tenantId ← Program.ofExcept request.tenant
    let job ← ownedJob .ackRead tenantId jobId
    if action = .fail then
      throw (.http 403 "action=fail requires the worker token (X-Roma-Worker-Token)")
    return (job, tenantId)

/-- `complete` bills before it writes; the other actions write at once. -/
def ackBills (request : Request) (tenantId : String) (jobId : JobId) (job : JobRow)
    (action : AckAction)
    : Action Bool :=
  if action = .complete then billForRoute request tenantId jobId job else return true

/-- The write of an acknowledgement: no status condition. -/
def ackUpdate (jobId : JobId) (tenantId : String) (action : AckAction) (error : Option String)
    (now : ℚ)
    : JobUpdate where
  jobId := jobId
  status := some action.status
  completedAt := if action = .start then none else some now
  error := if action = .fail then error else none
  tenantId := some tenantId

/-- `POST /v1/jobs/{job_id}/worker-ack`. -/
def workerAck (request : Request) (tokenValid : Bool) (action : AckAction)
    (error : Option String) (jobId : JobId)
    : Action JobResponse :=
  if action = .unknown then
    throw (.http 400 "action must be start|complete|fail")
  else do
    let (job, tenantId) ← ackJob request tokenValid action jobId
    guardHttp 409 (validateTransition job.status action.status)
    if ← ackBills request tenantId jobId job action then
      let _ ← ask .ackWrite
        (.updateExecutionJob (ackUpdate jobId tenantId action error request.now))
      return { jobId, status := action.status }
    else
      return { jobId, status := job.status, billing := some "skip" }

/-- Whitespace as `str.strip` removes it. -/
def isSpace (c : Char) : Bool :=
  (9 ≤ c.toNat && c.toNat ≤ 13) || (28 ≤ c.toNat && c.toNat ≤ 32) || c.toNat = 0x85
  || c.toNat = 0xa0 || c.toNat = 0x1680 || (0x2000 ≤ c.toNat && c.toNat ≤ 0x200a)
  || c.toNat = 0x2028 || c.toNat = 0x2029 || c.toNat = 0x202f || c.toNat = 0x205f
  || c.toNat = 0x3000

/-- `text.strip()`. -/
def strip (text : String) : String :=
  String.ofList ((text.toList.dropWhile isSpace).reverse.dropWhile isSpace).reverse

def parseIdempotencyKey : Option String → Except Exn (Option String)
  | none => .ok none
  | some raw =>
      let key := strip raw
      if key = "" then
        .error (.http 400 "Idempotency-Key must not be empty")
      else if key.length > 256 then
        .error (.http 400 "Idempotency-Key too long (max 256)")
      else
        .ok (some key)

/-- One `POST /submit`: the header, the parts of the payload that are stored, the decision of
the gate and the uuid the handler will draw.
-/
structure SubmitRequest where
  tenantId : String
  header : Option String
  gpuRequired : Bool
  backend : Option String
  decision : Except String Unit
  newId : JobId

/-- The parts of `RomaTaskResponse` that depend on the request. -/
structure SubmitResponse where
  jobId : JobId
  tenantId : String
  gpuRequired : Bool

/-- Look the row of a reserved key up; only a row of the same tenant answers the request. -/
def answerFrom (site : Site) (tenantId : String) (jobId : JobId)
    : Action (Option SubmitResponse) := do
  match ← ask site (.getExecutionJob jobId) with
  | none => return none
  | some existing =>
      if existing.tenantId = tenantId then
        return some { jobId, tenantId, gpuRequired := existing.gpuRequired }
      else
        return none

def submitReplay (tenantId key : String) : Action (Option SubmitResponse) := do
  match ← ask .submitReplayFind (.findJobByIdempotency tenantId key) with
  | none => return none
  | some jobId => answerFrom .submitReplayRead tenantId jobId

/-- Reserve the key before the job exists; the loser of the race answers with the winner's job
if that row is there, and goes on to insert its own job otherwise.
-/
def submitReserve (tenantId key : String) (newId : JobId) : Action (Option SubmitResponse) := do
  if ← ask .submitReserve (.createJobIdempotency tenantId key newId) then
    return none
  match ← ask .submitWinnerFind (.findJobByIdempotency tenantId key) with
  | none => return none
  | some winner => answerFrom .submitWinnerRead tenantId winner

def submitInsert (request : SubmitRequest) : Action SubmitResponse := do
  let inserted ← ask .submitInsert
    (.insertExecutionJob request.newId request.tenantId .queued request.gpuRequired)
  if !inserted then
    throw (.database "duplicate key value violates unique constraint")
  let _ ← ask .submitBackend (.updateExecutionJob {
    jobId := request.newId
    backend := request.backend
    tenantId := some request.tenantId
  })
  return {
    jobId := request.newId
    tenantId := request.tenantId
    gpuRequired := request.gpuRequired
  }

/-- `POST /submit`. -/
def submitTask (request : SubmitRequest) : Action SubmitResponse := do
  match ← Program.ofExcept (parseIdempotencyKey request.header) with
  | none => do
      guardHttp 402 request.decision
      submitInsert request
  | some key => do
      match ← submitReplay request.tenantId key with
      | some response => return response
      | none =>
          guardHttp 402 request.decision
          match ← submitReserve request.tenantId key request.newId with
          | some response => return response
          | none => submitInsert request

/-- The job of an allowed `job_submit` decision in `router_decisions.py`. -/
def createDecisionJob (tenantId : String) (gpuRequired : Bool) (newId : JobId)
    : Action JobId := do
  let inserted ← ask .decisionInsert
    (.insertExecutionJob newId tenantId .queued gpuRequired)
  if !inserted then
    throw (.database "duplicate key value violates unique constraint")
  return newId

/-- The admin top-up of `routers/billing.py`. -/
def topUp (tenantId : String) (amount : ℚ) (idempotencyKey : Option String)
    (nonce note : String)
    : Action LedgerId :=
  if strip tenantId = "" then
    throw (.http 400 "tenant_id is required for admin top-up")
  else if amount ≤ 0 then
    throw (.http 400 "Amount must be positive")
  else
    (credit (strip tenantId) amount "USD" idempotencyKey nonce { note := some note }).handle
      (fun exn =>
        match exn with
        | .pgUnavailable _ => .raised (.http 503 "Billing unavailable, retry later")
        | _ => .raised exn)

end RomaBridge.Model
