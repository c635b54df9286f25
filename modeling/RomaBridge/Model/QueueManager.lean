import RomaBridge.Foundation.StableSort
import RomaBridge.Foundation.Trace
import RomaBridge.Model.PyValues

/-! `queue_manager/queue_manager.py`: the queue in memory. Its three containers hold the same `Job`
objects, which are named by their place in the order of their enqueuing.
-/

namespace RomaBridge.Model.Queueing

open RomaBridge.Foundation
open RomaBridge.Model (JsonDict)

inductive JobStatus where
  | pending
  | queued
  | running
  | completed
  | failed
  | cancelled
  deriving DecidableEq, Repr

/-- The fields of a `Job` that the manager reads or writes. -/
structure Job where
  jobId : String
  status : JobStatus
  priority : ℤ
  startedAt : Option String
  completedAt : Option String
  result : Option JsonDict
  error : Option String

/-- `QueueManager` with the objects that it was given. -/
structure QueueManager where
  objects : List Job
  queue : List ℕ
  completed : List ℕ
  running : Table String (String × ℕ) Prod.fst

namespace QueueManager

def new : QueueManager := ⟨[], [], [], Table.empty⟩

def priority (manager : QueueManager) (job : ℕ) : ℤ :=
  match manager.objects[job]? with
  | none => 0
  | some object => object.priority

/-- `job.job_id == job_id`. -/
def named (manager : QueueManager) (jobId : String) (job : ℕ) : Bool :=
  (manager.objects[job]?).any (fun object => object.jobId = jobId)

def change (manager : QueueManager) (job : ℕ) (write : Job → Job) : QueueManager :=
  { manager with objects := manager.objects.modify job write }

/-- `job.job_id or str(uuid.uuid4())`. -/
def idOf (job : Job) (uuid : String) : String := if job.jobId = "" then uuid else job.jobId

/-- `queue.sort(key=lambda j: j.priority, reverse=True)`, which keeps the order of equal ones. -/
def sorted (manager : QueueManager) : QueueManager :=
  { manager with
    queue := manager.queue.insertionSort
      (fun left right => manager.priority right ≤ manager.priority left) }

def enqueue (manager : QueueManager) (job : Job) (uuid : String) : String × QueueManager :=
  (idOf job uuid,
    sorted { manager with
      objects := manager.objects ++ [{ job with jobId := idOf job uuid }]
      queue := manager.queue ++ [manager.objects.length] })

def dequeue (manager : QueueManager) : Option ℕ × QueueManager :=
  match manager.queue with
  | [] => (none, manager)
  | job :: rest =>
      (some job, { manager with queue := rest }.change job (fun object =>
        { object with status := .queued }))

def start (manager : QueueManager) (jobId now : String) : Bool × QueueManager :=
  match manager.queue.find? (manager.named jobId) with
  | none => (false, manager)
  | some job =>
      (true, { manager with running := manager.running.put (jobId, job) }.change job (fun object =>
        { object with status := .running, startedAt := some now }))

def finish (manager : QueueManager) (jobId : String) (write : Job → Job) : Bool × QueueManager :=
  match manager.running.find? jobId with
  | none => (false, manager)
  | some (_, job) =>
      (true, { manager with
        running := manager.running.keep (fun entry => entry.1 ≠ jobId)
        completed := manager.completed ++ [job] }.change job write)

def complete (manager : QueueManager) (jobId : String) (result : JsonDict) (now : String)
    : Bool × QueueManager :=
  manager.finish jobId (fun object =>
    { object with status := .completed, completedAt := some now, result := some result })

def fail (manager : QueueManager) (jobId error now : String) : Bool × QueueManager :=
  manager.finish jobId (fun object =>
    { object with status := .failed, completedAt := some now, error := some error })

def statusOf (manager : QueueManager) (job : ℕ) : Option JobStatus :=
  (manager.objects[job]?).map Job.status

def getStatus (manager : QueueManager) (jobId : String) : Option JobStatus :=
  match manager.queue.find? (manager.named jobId) with
  | some job => manager.statusOf job
  | none =>
      if (manager.running.find? jobId).isSome then some .running
      else (manager.completed.find? (manager.named jobId)).bind manager.statusOf

/-- `get_metrics()['total']`. -/
def total (manager : QueueManager) : ℕ :=
  manager.queue.length + manager.running.rows.length + manager.completed.length

end QueueManager

/-- The calls; a `uuid` or a time is what the call draws. -/
inductive QueueCall where
  | enqueue (job : Job) (uuid : String)
  | dequeue
  | start (jobId now : String)
  | complete (jobId : String) (result : JsonDict) (now : String)
  | fail (jobId error now : String)

inductive QueueReply where
  | enqueued (jobId : String)
  | dequeued (job : Option ℕ)
  | returned (done : Bool)
  deriving DecidableEq, Repr

/-- A manager, the jobs that `dequeue` handed out, and those that were started. -/
structure QueueRun where
  manager : QueueManager
  handedOut : List ℕ
  started : List ℕ

def newRun : QueueRun := ⟨.new, [], []⟩

def queueStep (run : QueueRun) : QueueCall → QueueReply × QueueRun
  | .enqueue job uuid =>
      let (jobId, next) := run.manager.enqueue job uuid
      (.enqueued jobId, { run with manager := next })
  | .dequeue =>
      let (job, next) := run.manager.dequeue
      (.dequeued job, { run with manager := next, handedOut := run.handedOut ++ job.toList })
  | .start jobId now =>
      let (done, next) := run.manager.start jobId now
      (.returned done, { run with
        manager := next
        started := run.started ++ (run.manager.queue.find? (run.manager.named jobId)).toList })
  | .complete jobId result now =>
      let (done, next) := run.manager.complete jobId result now
      (.returned done, { run with manager := next })
  | .fail jobId error now =>
      let (done, next) := run.manager.fail jobId error now
      (.returned done, { run with manager := next })

end RomaBridge.Model.Queueing
