import RomaBridge.Foundation.Trace
import RomaBridge.Model.PyValues

/-! `EnterpriseDecisionGate` of `cost/enterprise_gate.py` on the tables of
`migrations/001_decisionos_schema.sql`. The gate writes two of them; what it reads of the others is
an argument of the call, since they change in between.
-/

namespace RomaBridge.Model.EnterpriseGate

open RomaBridge.Foundation

-- The tables

/-- `DecisionRequest`, as a caller passes it. A uuid is a number, a date is in seconds. -/
structure DecisionRequest where
  id : ℕ
  tenantId : String
  payload : PyDict
  idempotencyKey : Option String

inductive GateResult where
  | allowed
  | denied
  | held
  deriving DecidableEq, Repr

/-- `DecisionRecord`, also as a row of `decisionos_records`. -/
structure DecisionRecord where
  id : ℕ
  requestId : ℕ
  tenantId : String
  gateResult : GateResult
  gateReason : String
  quotaRemaining : Option ℤ
  estimatedCost : Option ℚ
  decidedAt : ℚ
  deriving DecidableEq, Repr

/-- A row of `decisionos_requests`. -/
structure RequestRow where
  id : ℕ
  tenantId : String
  requestType : String
  payload : String
  idempotencyKey : Option String
  createdAt : ℚ
  deriving DecidableEq, Repr

/-- The two tables, and the next uuid that is drawn. -/
structure GateDb where
  requests : List RequestRow
  records : List DecisionRecord
  next : ℕ

/-- A row of `decisionos_tenants`. -/
structure TenantRow where
  id : String
  name : String
  tier : String
  active : Bool
  deriving DecidableEq, Repr

/-- A row of `decisionos_tenant_quotas`; a column without `NOT NULL` may be empty. -/
structure QuotaRow where
  maxJobsMonth : Option ℤ
  maxGpuSecondsMonth : Option ℤ
  maxConcurrent : Option ℤ
  budgetLimit : Option ℚ
  resetDay : Option ℤ
  deriving DecidableEq, Repr

/-- What a call reads of the tables that the gate does not write, and the clock. -/
structure GateReads where
  tenant : Option TenantRow
  quota : Option QuotaRow
  monthCount : ℕ
  activeCount : ℕ
  now : ℚ
  deriving DecidableEq, Repr

/-- What a call raises: `GateDeniedError`, or the `TypeError` of a comparison with `None`. -/
inductive GateError where
  | denied (reasonCode detail : String)
  | typeError
  deriving DecidableEq, Repr

-- The pipeline

def joins (tenantId key : String) (record : DecisionRecord) (request : RequestRow) : Bool :=
  record.requestId = request.id && request.tenantId = tenantId && request.idempotencyKey = some key

/-- `_check_idempotent`. The query has no order; the rows are read as they were inserted. -/
def checkIdempotent (db : GateDb) (request : DecisionRequest) (key : String)
    : Option DecisionRecord :=
  (db.records.find? (fun record => db.requests.any (joins request.tenantId key record))).map
    (fun row =>
      { id := row.id
        requestId := row.requestId
        tenantId := request.tenantId
        gateResult := row.gateResult
        gateReason := row.gateReason
        quotaRemaining := row.quotaRemaining
        estimatedCost := row.estimatedCost.filter (fun cost => cost ≠ 0)
        decidedAt := row.decidedAt })

/-- The first step of `evaluate`: a missing or empty key is not looked up. -/
def cachedRecord (db : GateDb) (request : DecisionRequest) : Option DecisionRecord :=
  match request.idempotencyKey with
  | none => none
  | some key => if key = "" then none else checkIdempotent db request key

def getTenant (reads : GateReads) (tenantId : String) : Except GateError TenantRow :=
  match reads.tenant with
  | none => .error (.denied "unknown_tenant" ("Tenant '" ++ tenantId ++ "' not found"))
  | some row =>
      if row.active then .ok row
      else .error (.denied "tenant_disabled" ("Tenant '" ++ tenantId ++ "' is disabled"))

structure TenantQuota where
  tenantId : String
  maxJobsMonth : Option ℤ
  maxGpuSecondsMonth : Option ℤ
  maxConcurrent : Option ℤ
  budgetLimit : Option ℚ
  resetDay : ℤ
  deriving DecidableEq, Repr

/-- `_get_quota`: the defaults of `TenantQuota` without a row. -/
def getQuota (reads : GateReads) (tenantId : String) : TenantQuota :=
  match reads.quota with
  | none => ⟨tenantId, some 50, some 36000, some 5, none, 1⟩
  | some row =>
      { tenantId
        maxJobsMonth := row.maxJobsMonth
        maxGpuSecondsMonth := row.maxGpuSecondsMonth
        maxConcurrent := row.maxConcurrent
        budgetLimit := row.budgetLimit.filter (fun limit => limit ≠ 0)
        resetDay := (row.resetDay.filter (fun day => day ≠ 0)).getD 1 }

/-- One comparison of `_check_quota`. -/
def checkLimit (limit : Option ℤ) (count : ℕ) (reasonCode what : String) : Except GateError Unit :=
  match limit with
  | none => .error .typeError
  | some max =>
      if 0 < max ∧ max ≤ count then
        .error (.denied reasonCode
          (what ++ " job limit reached: " ++ toString count ++ "/" ++ toString max))
      else
        .ok ()

def checkQuota (reads : GateReads) (quota : TenantQuota) : Except GateError Unit := do
  checkLimit quota.maxJobsMonth reads.monthCount "quota_exceeded" "Monthly"
  checkLimit quota.maxConcurrent reads.activeCount "concurrency_exceeded" "Concurrent"

def estimateCost (request : DecisionRequest) : ℚ :=
  1 / 100 + if (request.payload.getOr "gpu_required" (.bool false)).truthy then 10 / 100 else 0

/-- `_check_policy`, which refuses nothing. -/
def checkPolicy (_tenant : TenantRow) (_request : DecisionRequest) : Except GateError Unit := .ok ()

/-- The steps of `evaluate` between the lookup and the record. -/
def admitRequest (reads : GateReads) (request : DecisionRequest)
    : Except GateError TenantQuota := do
  let tenant ← getTenant reads request.tenantId
  let quota := getQuota reads request.tenantId
  checkQuota reads quota
  checkPolicy tenant request
  return quota

def newRecord (db : GateDb) (reads : GateReads) (request : DecisionRequest) (quota : TenantQuota)
    : DecisionRecord :=
  { id := db.next
    requestId := request.id
    tenantId := request.tenantId
    gateResult := .allowed
    gateReason := "ok"
    quotaRemaining := quota.maxJobsMonth
    estimatedCost := some (estimateCost request)
    decidedAt := reads.now }

/-- The request row that `_persist_record` inserts: the key of the request is not passed to it. -/
def requestRow (record : DecisionRecord) (now : ℚ) : RequestRow :=
  ⟨record.requestId, record.tenantId, "job_submit", "\x7b\x7d", none, now⟩

/-- `_persist_record`. The row of the request conflicts with one of its id only, since its key is
`NULL`.
-/
def persistRecord (db : GateDb) (record : DecisionRecord) (now : ℚ) : GateDb :=
  { requests :=
      if db.requests.any (fun row => row.id = record.requestId) then db.requests
      else db.requests ++ [requestRow record now]
    records := db.records ++ [record]
    next := db.next + 1 }

/-- `evaluate`, and whether it wrote a record. -/
def evaluate (db : GateDb) (reads : GateReads) (request : DecisionRequest)
    : Except GateError (DecisionRecord × Bool) × GateDb :=
  match cachedRecord db request with
  | some cached => (.ok (cached, false), db)
  | none =>
      match admitRequest reads request with
      | .error error => (.error error, db)
      | .ok quota =>
          let record := newRecord db reads request quota
          (.ok (record, true), persistRecord db record reads.now)

-- Sequences of calls

/-- The tables with what the calls have returned and written so far, for their requests. -/
structure GateHistory where
  db : GateDb
  returned : List (DecisionRequest × DecisionRecord)
  written : List (DecisionRequest × DecisionRecord)

def newGate : GateHistory := ⟨⟨[], [], 0⟩, [], []⟩

structure GateCall where
  request : DecisionRequest
  reads : GateReads

def gateStep (history : GateHistory) (call : GateCall)
    : Except GateError DecisionRecord × GateHistory :=
  match evaluate history.db call.reads call.request with
  | (.error error, db) => (.error error, { history with db })
  | (.ok (record, wrote), db) =>
      (.ok record,
        { db
          returned := history.returned ++ [(call.request, record)]
          written :=
            if wrote then history.written ++ [(call.request, record)] else history.written })

end RomaBridge.Model.EnterpriseGate
