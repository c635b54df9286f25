import RomaBridge.Model.Routes
import RomaBridge.Foundation.RelyGuarantee

/-! The whole bridge as one system: any number of replicas, requests and sweeps over one
database. A claim starts one executor for each row it returned; everything else arrives from
outside at any time.
-/

namespace RomaBridge.Model

open RomaBridge.Foundation

/-- What a thread of the service runs. -/
inductive Kind where
  | executeAndBill (jobId : JobId) (tenantId : String) (world : WorkerWorld)
  | sweepBillingPending (input : SweepInput)
  | sweepRefundPending
  | sweepOrphans (timeoutSeconds : ℚ)
  | claimTick (limit : ℕ) (locked : List JobId) (world : JobId → WorkerWorld)
  | cancelJob (request : Request) (jobId : JobId)
  | completeJob (request : Request) (jobId : JobId)
  | retryJob (request : Request) (jobId : JobId)
  | cancelJobV1 (request : Request) (jobId : JobId)
  | completeJobV1 (request : Request) (jobId : JobId)
  | workerAck (request : Request) (tokenValid : Bool) (action : AckAction)
    (error : Option String) (jobId : JobId)
  | submitTask (request : SubmitRequest)
  | createDecisionJob (tenantId : String) (gpuRequired : Bool) (newId : JobId)
  | topUp (tenantId : String) (amount : ℚ) (idempotencyKey : Option String)
    (nonce note : String)
  | clock (seconds : ℚ≥0)

/-- What a thread of the service returns. -/
inductive Answer where
  | worker (result : WorkerResult)
  | swept (outcomes : List BillingStatus) (deferred : ℕ) (memory : NoFundsMemory)
  | refunded (outcomes : List RefundOutcome)
  | orphans (count : ℕ)
  | claimed (rows : List JobRow)
  | job (response : JobResponse)
  | submitted (response : SubmitResponse)
  | created (jobId : JobId)
  | credited (ledgerId : LedgerId)
  | elapsed

/-- The program of each kind of thread. -/
def bodyOf : Kind → Action Answer
  | .executeAndBill jobId tenantId world =>
      (executeAndBill jobId tenantId world).bind (fun result => .done (.worker result))
  | .sweepBillingPending input =>
      (sweepBillingPendingOnce input).bind (fun (outcomes, deferred, memory) =>
        .done (.swept outcomes deferred memory))
  | .sweepRefundPending => sweepRefundPendingOnce.bind (fun outcomes => .done (.refunded outcomes))
  | .sweepOrphans timeoutSeconds =>
      (sweepOrphansOnce timeoutSeconds).bind (fun count => .done (.orphans count))
  | .claimTick limit locked world =>
      (claimTick limit locked world).bind (fun rows => .done (.claimed rows))
  | .cancelJob request jobId =>
      (cancelJob request jobId).bind (fun response => .done (.job response))
  | .completeJob request jobId =>
      (completeJob request jobId).bind (fun response => .done (.job response))
  | .retryJob request jobId =>
      (retryJob request jobId).bind (fun response => .done (.job response))
  | .cancelJobV1 request jobId =>
      (cancelJobV1 request jobId).bind (fun response => .done (.job response))
  | .completeJobV1 request jobId =>
      (completeJobV1 request jobId).bind (fun response => .done (.job response))
  | .workerAck request tokenValid action error jobId =>
      (workerAck request tokenValid action error jobId).bind
        (fun response => .done (.job response))
  | .submitTask request =>
      (submitTask request).bind (fun response => .done (.submitted response))
  | .createDecisionJob tenantId gpuRequired newId =>
      (createDecisionJob tenantId gpuRequired newId).bind (fun jobId => .done (.created jobId))
  | .topUp tenantId amount idempotencyKey nonce note =>
      (topUp tenantId amount idempotencyKey nonce note).bind
        (fun ledgerId => .done (.credited ledgerId))
  | .clock seconds => (ask .databaseClock (.advanceClock seconds)).bind (fun _ => .done .elapsed)

/-- `for job in jobs: ensure_future(execute_and_bill(...))` after a claim. -/
def executorsOf : (query : Query) → query.Reply → List Kind
  | .claimQueuedExecutionJobs _ _ world, rows =>
      rows.map (fun row => .executeAndBill row.id row.tenantId (world row.id))
  | _, _ => []

/-- Any set of thread kinds over the bridge's database. -/
@[reducible]
def bridgeMachine {τ ρ : Type} (body : τ → Action ρ)
    (starts : (query : Query) → query.Reply → List τ)
    : Machine bridge Db τ ρ where
  apply := fun call db => db.apply call.query
  raise := Call.failure
  killed := .killed
  body := body
  starts := fun call reply => starts call.query reply

@[reducible]
def service : Machine bridge Db Kind Answer := bridgeMachine bodyOf executorsOf

def idle (db : Db) : Config bridge Db Kind Answer := { store := db, threads := [] }

theorem reaches_check {check : Config bridge Db Kind Answer → Bool} (labels : List (Label Kind))
    (ran : (service.run (fun _ _ => true) (idle Db.empty) labels).any check = true)
    : ∃ config,
        service.Reaches (fun _ _ => True) (idle Db.empty) config ∧ check config = true :=
  Machine.Reaches.of_check (fun _ _ _ => trivial) labels ran

theorem reaches_checks {ok : Config bridge Db Kind Answer → Label Kind → Prop}
    {permits : Config bridge Db Kind Answer → Label Kind → Bool}
    {check : Config bridge Db Kind Answer → Config bridge Db Kind Answer → Bool}
    (sound : ∀ config label, permits config label = true → ok config label)
    (labels labels' : List (Label Kind))
    (ran
      : (service.run (fun _ _ => true) (idle Db.empty) labels).any (fun config =>
          (service.run permits config labels').any (check config))
        = true)
    : ∃ config last,
        service.Reaches (fun _ _ => True) (idle Db.empty) config
        ∧ service.Reaches ok config last
        ∧ check config last = true :=
  Machine.Reaches.of_checks (fun _ _ _ => trivial) sound labels labels' ran

def jobA : JobId := ⟨"a1", by decide⟩

def quickRun (elapsed : ℚ≥0) (status : String) : WorkerWorld where
  dispatch := .ok { backend := some "local", status := some "running" }
  poll _ := { status := .ok { status := some status }, command := .ok none, sleep := .ok () }
  elapsed := elapsed
  plan := "free"
  dispatchedAt := 0
  finishedAt := 0
  refundSleep _ := .ok ()
  cleanup := .ok ()

/-- A tenant with money, one queued job and a claim that starts its executor as thread 3. -/
def claimedJob (elapsed : ℚ≥0) (status : String) : List (Label Kind) :=
  [.arrive (.topUp "t" 1 none "n" ""), .exec 0 .none,
    .arrive (.createDecisionJob "t" false jobA), .exec 1 .none,
    .arrive (.claimTick 5 [] (fun _ => quickRun elapsed status)), .exec 2 .none]

end RomaBridge.Model
