import Mathlib.Data.Rat.Defs
import RomaBridge.Foundation.Trace

/-! `POST /v1/decisions` in `router_decisions.py`: the lookup of the key, the gate and the three
inserts are separate transactions. A request is numbered, and the number stands for each uuid that
it draws.
-/

namespace RomaBridge.Model.Decisions

open RomaBridge.Foundation

/-- The payload of a request and the answer that `shadow_policy` has for it. -/
structure DecisionPost where
  tenantId : String
  requestType : String
  idempotencyKey : Option String
  gpuRequired : Bool
  policy : Except String Unit

/-- A row of `decision_requests`. -/
structure DecisionRequest where
  id : ℕ
  tenantId : String
  requestType : String
  idempotencyKey : Option String

inductive GateResult where
  | allowed
  | denied
  deriving DecidableEq, Repr

/-- A row of `decision_records`, in the order of `decided_at`. -/
structure DecisionRecord where
  id : ℕ
  requestId : ℕ
  tenantId : String
  gateResult : GateResult
  gateReason : String
  quotaRemaining : ℤ
  estimatedCost : ℚ
  policyProfile : String

/-- A row of `execution_jobs`. -/
structure ExecutionJob where
  id : ℕ
  decisionId : ℕ
  tenantId : String
  status : String

structure GateDecision where
  result : GateResult
  reason : String
  jobLimit : ℤ
  costEstimated : ℚ

structure DecisionResponse where
  decisionId : ℕ
  result : GateResult
  reason : String
  estimatedCost : ℚ
  quotaRemaining : ℤ
  jobId : Option ℕ
  idempotent : Bool

/-- How far a request has come. A failed one was answered with an error. -/
inductive DecisionPhase where
  | begun (post : DecisionPost)
  | looked (post : DecisionPost)
  | evaluated (post : DecisionPost) (decision : GateDecision)
  | requested (post : DecisionPost) (decision : GateDecision)
  | counted (post : DecisionPost) (decision : GateDecision) (quotaRemaining : ℤ)
  | recorded (post : DecisionPost) (decision : GateDecision)
  | jobCreated (post : DecisionPost) (decision : GateDecision)
  | answered (post : DecisionPost) (response : DecisionResponse)
  | failed (statusCode : ℕ) (detail : String)

/-- The tables, the job limit of each tenant's plan, and the requests. No migration creates
`decision_requests`; whether it has the unique index of the design document is left open.
-/
structure DecisionStore where
  maxJobs : String → Option ℤ
  uniqueKeys : Bool
  requests : List DecisionRequest
  records : List DecisionRecord
  jobs : List ExecutionJob
  processes : ℕ → Option DecisionPhase

def DecisionStore.hasKey (store : DecisionStore) (tenantId key : String) (record : DecisionRecord)
    : Bool :=
  store.requests.any (fun request => request.id == record.requestId
    && request.tenantId == tenantId && request.idempotencyKey == some key)

def DecisionStore.decisionsOf (store : DecisionStore) (tenantId key : String)
    : List DecisionRecord :=
  store.records.filter (store.hasKey tenantId key)

/-- `find_decision_by_idempotency`: the record that was decided last. -/
def findDecisionByIdempotency (store : DecisionStore) (tenantId key : String)
    : Option DecisionRecord :=
  (store.decisionsOf tenantId key).getLast?

def countJobsForTenantTotal (store : DecisionStore) (tenantId : String) : ℕ :=
  store.jobs.countP (fun job => job.tenantId == tenantId)

def estimateCost (gpuRequired : Bool) : ℚ := if gpuRequired then 2 / 1000 else 1 / 10000

def evaluate (store : DecisionStore) (post : DecisionPost) : GateDecision :=
  match store.maxJobs post.tenantId with
  | none => ⟨.denied, "tenant not found", 0, 0⟩
  | some maxJobs =>
      let jobCount := countJobsForTenantTotal store post.tenantId
      if 0 ≤ maxJobs && maxJobs ≤ jobCount then
        ⟨.denied, "quota exceeded: " ++ toString jobCount ++ "/" ++ toString maxJobs ++ " jobs",
          maxJobs, 0⟩
      else ⟨.allowed, "quota ok", maxJobs, estimateCost post.gpuRequired⟩

/-- The answer of a repeated key. -/
def replay (record : DecisionRecord) : DecisionResponse :=
  { decisionId := record.id
    result := record.gateResult
    reason := record.gateReason
    estimatedCost := record.estimatedCost
    quotaRemaining := record.quotaRemaining
    jobId := none
    idempotent := true }

def firstAnswer (process : ℕ) (decision : GateDecision) (jobId : Option ℕ) : DecisionResponse :=
  { decisionId := process
    result := decision.result
    reason := decision.reason
    estimatedCost := decision.costEstimated
    quotaRemaining := decision.jobLimit
    jobId := jobId
    idempotent := false }

def lookupKey (store : DecisionStore) (post : DecisionPost) : Option DecisionRecord :=
  match post.idempotencyKey with
  | none => none
  | some key => if key = "" then none else findDecisionByIdempotency store post.tenantId key

def requestRow (process : ℕ) (post : DecisionPost) : DecisionRequest :=
  ⟨process, post.tenantId, post.requestType, post.idempotencyKey⟩

def refusesRequest (store : DecisionStore) (post : DecisionPost) : Bool :=
  store.uniqueKeys && post.idempotencyKey.isSome && store.requests.any (fun request =>
    request.tenantId == post.tenantId && request.idempotencyKey == post.idempotencyKey)

def recordRow (process : ℕ) (post : DecisionPost) (decision : GateDecision) (quotaRemaining : ℤ)
    : DecisionRecord :=
  ⟨process, process, post.tenantId, decision.result, decision.reason, quotaRemaining,
    decision.costEstimated, "default"⟩

def jobRow (process : ℕ) (post : DecisionPost) : ExecutionJob :=
  ⟨process, process, post.tenantId, "queued"⟩

def getsJob (post : DecisionPost) (decision : GateDecision) : Bool :=
  decision.result == .allowed && post.requestType == "job_submit"

def DecisionStore.moveTo (store : DecisionStore) (process : ℕ) (phase : DecisionPhase)
    : DecisionStore :=
  { store with processes := Function.update store.processes process (some phase) }

/-- The next transaction of a request. -/
def advance (store : DecisionStore) (process : ℕ) : DecisionPhase → DecisionStore
  | .begun post =>
      match post.policy with
      | .error reason => store.moveTo process (.failed 402 reason)
      | .ok () =>
          match lookupKey store post with
          | some record => store.moveTo process (.answered post (replay record))
          | none => store.moveTo process (.looked post)
  | .looked post => store.moveTo process (.evaluated post (evaluate store post))
  | .evaluated post decision =>
      if refusesRequest store post then store.moveTo process (.failed 500 "Internal Server Error")
      else { store.moveTo process (.requested post decision) with
        requests := store.requests ++ [requestRow process post] }
  | .requested post decision =>
      store.moveTo process (.counted post decision
        (decision.jobLimit - countJobsForTenantTotal store post.tenantId))
  | .counted post decision quotaRemaining =>
      { store.moveTo process (.recorded post decision) with
        records := store.records ++ [recordRow process post decision quotaRemaining] }
  | .recorded post decision =>
      if getsJob post decision then
        { store.moveTo process (.jobCreated post decision) with
          jobs := store.jobs ++ [jobRow process post] }
      else store.moveTo process (.answered post (firstAnswer process decision none))
  | .jobCreated post decision =>
      store.moveTo process (.answered post (firstAnswer process decision (some process)))
  | .answered _ _ => store
  | .failed _ _ => store

/-- A request arrives, or does its next transaction. One that is not heard of again crashed. -/
inductive DecisionCall where
  | arrive (process : ℕ) (post : DecisionPost)
  | advance (process : ℕ)

/-- One step. A number is used once. -/
def decisionStep (store : DecisionStore) : DecisionCall → Unit × DecisionStore
  | .arrive process post =>
      match store.processes process with
      | none => ((), store.moveTo process (.begun post))
      | some _ => ((), store)
  | .advance process =>
      match store.processes process with
      | none => ((), store)
      | some phase => ((), advance store process phase)

end RomaBridge.Model.Decisions
