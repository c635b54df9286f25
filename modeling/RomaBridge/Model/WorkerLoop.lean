import RomaBridge.Model.GpuLocks
import RomaBridge.Model.RetrySystem

/-! `gpu_worker/production_worker.py` and the part of `gpu_worker/worker_registry.py` it calls: one
iteration of the worker loop, with the retry manager, the main queue, the registry and the lock
manager it works on. What the observability layer records is read by none of them.
-/

namespace RomaBridge.Model.WorkerLoop

open RomaBridge.Foundation RomaBridge.Model.Retries RomaBridge.Model.GpuLocks
open RomaBridge.Model (PyDict PyValue)

/-- `WorkerStatus`, without its utilisation and its heartbeat. -/
structure WorkerStatus where
  workerId : String
  vramUsedGb : ℚ
  vramTotalGb : ℚ
  status : String
  jobsCompleted : ℕ
  jobsFailed : ℕ
  currentJob : Option String
  deriving DecidableEq, Repr

abbrev WorkerRegistry := Table String WorkerStatus WorkerStatus.workerId

/-- A number that a float compares with; `none` is a `TypeError`. -/
def asNumber : PyValue → Option ℚ
  | .int value => some value
  | .float value => some value
  | .bool value => some (if value then 1 else 0)
  | _ => none

namespace WorkerRegistry

/-- `get_available_workers`; `none` is the `TypeError` of a healthy worker's comparison. -/
def getAvailableWorkers (registry : WorkerRegistry) (minVramGb : PyValue)
    : Option (List WorkerStatus) :=
  match asNumber minVramGb with
  | some number => some (registry.rows.filter (fun w =>
      w.status = "healthy" && number ≤ w.vramTotalGb - w.vramUsedGb && w.currentJob.isNone))
  | none => if registry.rows.any (fun w => w.status = "healthy") then none else some []

def change (registry : WorkerRegistry) (workerId : String) (write : WorkerStatus → WorkerStatus)
    (keeps : ∀ w, (write w).workerId = w.workerId)
    : WorkerRegistry :=
  registry.update (fun w => w.workerId = workerId) write keeps

def acquireGpuLock (registry : WorkerRegistry) (workerId jobId : String) : WorkerRegistry :=
  registry.change workerId
    (fun w => if w.currentJob.isSome then w else { w with currentJob := some jobId })
    (fun w => by split <;> rfl)

def releaseGpuLock (registry : WorkerRegistry) (workerId : String) : WorkerRegistry :=
  registry.change workerId (fun w => { w with currentJob := none }) (fun _ => rfl)

def jobCompleted (registry : WorkerRegistry) (workerId : String) (success : Bool)
    : WorkerRegistry :=
  registry.change workerId
    (fun w =>
      if success then { w with jobsCompleted := w.jobsCompleted + 1, currentJob := none }
      else { w with jobsFailed := w.jobsFailed + 1, currentJob := none })
    (fun w => by split <;> rfl)

end WorkerRegistry

/-- A Python value as a key of the jobs, which are all kept under texts. -/
inductive PyKey where
  | text (value : String)
  | hashable (truthy : Bool)
  | unhashable (truthy : Bool)
  deriving DecidableEq, Repr

/-- `bool(key)`. -/
def PyKey.truthy : PyKey → Bool
  | .text value => value ≠ ""
  | .hashable truthy => truthy
  | .unhashable truthy => truthy

/-- An item of the main queue: a dictionary, with what it holds under `id`, or another value. -/
inductive QueueItem where
  | key (value : PyKey)
  | dict (id : Option PyKey)
  deriving DecidableEq, Repr

/-- The worker loop with what it works on. -/
structure ROMAWorkerLoop where
  jobQueue : List QueueItem
  lockMgr : GPULockManager
  retryMgr : JobRetryManager
  registry : WorkerRegistry

/-- What `get_job` gives; `raised` is a `TypeError`. -/
inductive Lookup where
  | raised
  | missing
  | found (job : Job)

/-- `self.retry_mgr.get_job(key)`. -/
def lookupKey (manager : JobRetryManager) : PyKey → Lookup
  | .text jobId =>
      match manager.getJob jobId with
      | some job => .found job
      | none => .missing
  | .hashable _ => .missing
  | .unhashable _ => .raised

/-- What the iteration has after it looked for a job: the answer, the items it took off the queues,
and the loop without them.
-/
structure Dequeued where
  lookup : Lookup
  taken : List QueueItem
  loop : ROMAWorkerLoop

namespace ROMAWorkerLoop

/-- The second look, at the main queue only, when the first id has no job. -/
def dequeueRaw (loop : ROMAWorkerLoop) (first : QueueItem) : Dequeued :=
  match loop.jobQueue with
  | [] => ⟨.missing, [first], loop⟩
  | raw :: rest =>
      match raw with
      | .dict (some key) =>
          ⟨if key.truthy then lookupKey loop.retryMgr key else .missing, [first, raw],
            { loop with jobQueue := rest }⟩
      | .dict none => ⟨.missing, [first, raw], { loop with jobQueue := rest }⟩
      | .key _ => ⟨.missing, [first, raw], { loop with jobQueue := rest }⟩

/-- The lookup of the first id, which is `first` itself. -/
def dequeueFirst (loop : ROMAWorkerLoop) (first : QueueItem) : Dequeued :=
  match first with
  | .dict _ => ⟨.raised, [first], loop⟩
  | .key key =>
      match lookupKey loop.retryMgr key with
      | .missing => loop.dequeueRaw first
      | answer => ⟨answer, [first], loop⟩

def dequeueMain (loop : ROMAWorkerLoop) : Dequeued :=
  match loop.jobQueue with
  | [] => ⟨.missing, [], loop⟩
  | item :: rest => { loop with jobQueue := rest }.dequeueFirst item

/-- The first part of `run_iteration`: the retry queue, then the main queue. -/
def dequeue (loop : ROMAWorkerLoop) : Dequeued :=
  match loop.retryMgr.getNextRetry with
  | (some jobId, popped) =>
      -- An empty id counts as no id, and is lost.
      if jobId = "" then
        { { loop with retryMgr := popped }.dequeueMain with
          taken := .key (.text "") :: { loop with retryMgr := popped }.dequeueMain.taken }
      else { loop with retryMgr := popped }.dequeueFirst (.key (.text jobId))
  | (none, _) => loop.dequeueMain

/-- `execute_docker`: what the executor returns is an output, whatever it says. `none` is an
executor that raises.
-/
def executeDocker (executor : PyDict → Option PyValue) (payload : PyDict) : Option PyValue :=
  executor payload

/-- The `finally` block. -/
def finish (loop : ROMAWorkerLoop) (workerId jobId : String) : ROMAWorkerLoop :=
  { loop with
    lockMgr := (lockStep loop.lockMgr (.release workerId)).2
    registry := (loop.registry.releaseGpuLock workerId).jobCompleted workerId
      (((loop.retryMgr.getJob jobId).map Job.state) = some JobState.completed) }

/-- `job.payload["error"] = str(e)` of the `TypeError` that `job["id"]` raises. -/
def noteError (loop : ROMAWorkerLoop) (job : Job) : ROMAWorkerLoop :=
  { loop with retryMgr :=
      match loop.retryMgr.getJob job.jobId with
      | some current => loop.retryMgr.putJob { current with
          payload := fun key =>
            if key = "error" then some (.str "'Job' object is not subscriptable")
            else current.payload key }
      | none => loop.retryMgr }

/-- The start of the `try` block: the job is marked running and the worker is given to it. -/
def begin (loop : ROMAWorkerLoop) (job : Job) (workerId : String) : ROMAWorkerLoop :=
  { loop with
    retryMgr := (loop.retryMgr.markRunning job.jobId).2
    registry := loop.registry.acquireGpuLock workerId job.jobId }

/-- The branch of a successful execution. -/
def commit (loop : ROMAWorkerLoop) (job : Job) (output : PyValue) : ROMAWorkerLoop :=
  { loop with retryMgr :=
      ((loop.retryMgr.markCompleted job.jobId output).2.markCommitted job.jobId).2 }

/-- What an iteration ends with. -/
inductive IterationEnd where
  | returned (processed : Bool)
  | raised
  deriving DecidableEq, Repr

/-- The execution of a job on a worker whose lock was acquired. After a failed execution
`handle_failure` raises, as `job` is no dictionary, and raises again in the handler.
-/
def execute (executor : PyDict → Option PyValue) (loop : ROMAWorkerLoop) (job : Job)
    (workerId : String)
    : IterationEnd × ROMAWorkerLoop :=
  match executeDocker executor job.payload with
  | some output =>
      (.returned true, (((loop.begin job workerId).commit job output).finish workerId job.jobId))
  | none => (.raised, (((loop.begin job workerId).noteError job).finish workerId job.jobId))

/-- The choice of a worker and its lock; `checked` and `stored` are the clock of `acquire`. -/
def process (executor : PyDict → Option PyValue) (checked stored : ℤ) (loop : ROMAWorkerLoop)
    (job : Job)
    : IterationEnd × ROMAWorkerLoop :=
  if loop.registry.rows = [] then (.returned false, loop)
  else
    match loop.registry.getAvailableWorkers (job.payload.getOr "gpu_memory_gb" (.float 4)) with
    | none => (.raised, loop)
    | some [] => (.returned false, loop)
    | some (worker :: _) =>
        match lockStep loop.lockMgr (.acquire worker.workerId job.jobId none checked stored) with
        | (.acquired true, lockMgr) =>
            execute executor { loop with lockMgr := lockMgr } job worker.workerId
        | (_, lockMgr) => (.returned false, { loop with lockMgr := lockMgr })

def runIteration (executor : PyDict → Option PyValue) (checked stored : ℤ)
    (loop : ROMAWorkerLoop)
    : IterationEnd × ROMAWorkerLoop :=
  match loop.dequeue.lookup with
  | .raised => (.raised, loop.dequeue.loop)
  | .missing => (.returned false, loop.dequeue.loop)
  | .found job => process executor checked stored loop.dequeue.loop job

end ROMAWorkerLoop
end RomaBridge.Model.WorkerLoop
