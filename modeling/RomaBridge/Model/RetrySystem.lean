import RomaBridge.Foundation.Trace
import RomaBridge.Model.PyValues

/-! `gpu_worker/retry_system.py`: the jobs of a `JobRetryManager` and the queue of the ids that wait
to be run. Every method is one section of `_mu`.
-/

namespace RomaBridge.Model.Retries

open RomaBridge.Foundation
open RomaBridge.Model (PyDict PyValue)

inductive JobState where
  | queued
  | retrying
  | running
  | completed
  | failed
  | committed
  deriving DecidableEq, Repr

/-- `Job`, without its two dates. -/
structure Job where
  jobId : String
  pluginType : String
  payload : PyDict
  state : JobState
  retries : ℕ
  maxRetries : ℤ
  error : Option PyValue
  result : Option PyValue

/-- `JobRetryManager` without callbacks. `power` is `self.base_backoff ** retries`, `none` when the
power is out of the range of a float.
-/
structure JobRetryManager where
  maxRetries : ℤ
  power : ℕ → Option ℚ
  jobs : Table String Job Job.jobId
  retryQueue : List String

/-- `JobRetryManager(max_retries, base_backoff)`. -/
def newRetryManager (maxRetries : ℤ) (power : ℕ → Option ℚ) : JobRetryManager :=
  ⟨maxRetries, power, Table.empty, []⟩

/-- What a method returns; `overflow` is an `OverflowError`. -/
inductive RetryReply where
  | created
  | marked (success : Bool)
  | retry
  | fail
  | unknownJob
  | next (jobId : Option String)
  | overflow
  deriving DecidableEq, Repr

namespace JobRetryManager

/-- `self._jobs.get(job_id)`. -/
def getJob (manager : JobRetryManager) (jobId : String) : Option Job := manager.jobs.find? jobId

/-- `self._jobs[job_id] = job`, or a write to that object. -/
def putJob (manager : JobRetryManager) (job : Job) : JobRetryManager :=
  { manager with jobs := manager.jobs.put job }

/-- `self._retry_queue.append(job_id)`. -/
def pushRetry (manager : JobRetryManager) (jobId : String) : JobRetryManager :=
  { manager with retryQueue := manager.retryQueue ++ [jobId] }

/-- `job_id or f"job-{uuid.uuid4().hex[:12]}"`. -/
def enqueuedId (jobId : Option String) (drawn : String) : String :=
  match jobId with
  | none => drawn
  | some text => if text = "" then drawn else text

/-- `enqueue`; `drawn` is the id that is made up when none is given. -/
def enqueue (manager : JobRetryManager) (pluginType : String) (payload : PyDict)
    (jobId : Option String) (maxRetries : Option ℤ) (drawn : String)
    : JobRetryManager :=
  (manager.putJob
    { jobId := enqueuedId jobId drawn
      pluginType := pluginType
      payload := payload
      state := JobState.queued
      retries := 0
      maxRetries := maxRetries.getD manager.maxRetries
      error := none
      result := none }).pushRetry (enqueuedId jobId drawn)

def markRunning (manager : JobRetryManager) (jobId : String) : Bool × JobRetryManager :=
  match manager.getJob jobId with
  | none => (false, manager)
  | some job =>
      if job.state = JobState.completed ∨ job.state = JobState.failed
          ∨ job.state = JobState.committed then
        (false, manager)
      else (true, manager.putJob { job with state := JobState.running })

/-- `mark_completed`, which does not look at the state. -/
def markCompleted (manager : JobRetryManager) (jobId : String) (result : PyValue)
    : Bool × JobRetryManager :=
  match manager.getJob jobId with
  | none => (false, manager)
  | some job =>
      (true, manager.putJob { job with state := JobState.completed, result := some result })

def markCommitted (manager : JobRetryManager) (jobId : String) : Bool × JobRetryManager :=
  match manager.getJob jobId with
  | none => (false, manager)
  | some job =>
      if job.state ≠ JobState.completed then (false, manager)
      else (true, manager.putJob { job with state := JobState.committed })

/-- `handle_failure`, which does not look at the state. The backoff is computed between the count of
the retry and the return to the queue.
-/
def handleFailure (manager : JobRetryManager) (jobId : String) (error : PyValue)
    : RetryReply × JobRetryManager :=
  match manager.getJob jobId with
  | none => (.unknownJob, manager)
  | some job =>
      if (job.retries : ℤ) < job.maxRetries then
        match manager.power (job.retries + 1) with
        | none =>
            (.overflow, manager.putJob
              { job with
                error := some error, state := JobState.retrying, retries := job.retries + 1 })
        | some _ =>
            (.retry, (manager.putJob
              { job with
                error := some error
                state := JobState.retrying
                retries := job.retries + 1 }).pushRetry jobId)
      else (.fail, manager.putJob { job with error := some error, state := JobState.failed })

def getNextRetry (manager : JobRetryManager) : Option String × JobRetryManager :=
  (manager.retryQueue.head?, { manager with retryQueue := manager.retryQueue.tail })

end JobRetryManager

inductive RetryCall where
  | enqueue (pluginType : String) (payload : PyDict) (jobId : Option String)
      (maxRetries : Option ℤ) (drawn : String)
  | markRunning (jobId : String)
  | markCompleted (jobId : String) (result : PyValue)
  | markCommitted (jobId : String)
  | handleFailure (jobId : String) (error : PyValue)
  | getNextRetry

def retryStep (manager : JobRetryManager) : RetryCall → RetryReply × JobRetryManager
  | .enqueue pluginType payload jobId maxRetries drawn =>
      (.created, manager.enqueue pluginType payload jobId maxRetries drawn)
  | .markRunning jobId => (.marked (manager.markRunning jobId).1, (manager.markRunning jobId).2)
  | .markCompleted jobId result =>
      (.marked (manager.markCompleted jobId result).1, (manager.markCompleted jobId result).2)
  | .markCommitted jobId =>
      (.marked (manager.markCommitted jobId).1, (manager.markCommitted jobId).2)
  | .handleFailure jobId error => manager.handleFailure jobId error
  | .getNextRetry => (.next manager.getNextRetry.1, manager.getNextRetry.2)

end RomaBridge.Model.Retries

/-! `gpu_worker/retry_system_fast.py`: the retry service with its cleanup thread. -/

namespace RomaBridge.Model.FastRetries

open RomaBridge.Foundation

def retryDelays : List ℚ := [10, 30, 60, 120, 300]

/-- An entry of `failed_queue`. The cleanup reads the key `expires_at`, which `/retry/add` writes to
none.
-/
structure FailedJob where
  jobId : String
  error : String
  attempt : ℕ
  nextRetry : ℚ
  createdAt : ℚ
  expiresAt : Option ℚ := none
  deriving DecidableEq, Repr

/-- `failed_queue`, and whether `cleanup_loop` is running. -/
structure RetryService where
  failedQueue : Table String FailedJob FailedJob.jobId
  cleaning : Bool

inductive RetryRequest where
  | add (jobId error : String) (created : ℚ)
  | pending
  | remove (jobId : String)
  | cleanup
  deriving DecidableEq, Repr

inductive RetryAnswer where
  | queued (jobId : String) (attempt : ℕ)
  | jobs (pending : ℕ) (jobs : List FailedJob)
  | removed (jobId : Option String)
  | cleaned
  | keyError (key : String)
  | notRunning
  deriving DecidableEq, Repr

namespace RetryService

/-- `add_retry`; the second reading of the clock is the time of creation. -/
def addRetry (service : RetryService) (now : ℚ) (jobId error : String) (created : ℚ)
    : RetryAnswer × RetryService :=
  match service.failedQueue.find? jobId with
  | none =>
      let nextRetry := now + retryDelays.getD 0 0
      (.queued jobId 1, { service with
        failedQueue := service.failedQueue.put
          { jobId, error, attempt := 1, nextRetry, createdAt := created } })
  | some f =>
      let attempt := f.attempt + 1
      let nextRetry :=
        if attempt ≤ retryDelays.length then now + retryDelays.getD (attempt - 1) 0 else f.nextRetry
      (.queued jobId attempt, { service with
        failedQueue := service.failedQueue.put { f with attempt, nextRetry } })

def getPending (service : RetryService) (now : ℚ) : RetryAnswer :=
  .jobs service.failedQueue.rows.length
    (service.failedQueue.rows.filter (fun f => f.nextRetry ≤ now))

def remove (service : RetryService) (jobId : String) : RetryAnswer × RetryService :=
  if (service.failedQueue.find? jobId).isSome then
    (.removed (some jobId),
      { service with failedQueue := service.failedQueue.keep (fun f => f.jobId ≠ jobId) })
  else (.removed none, service)

/-- A round of `cleanup_loop`. The thread ends with an exception that it raises. -/
def cleanup (service : RetryService) (now : ℚ) : RetryAnswer × RetryService :=
  if !service.cleaning then (.notRunning, service)
  else if service.failedQueue.rows.any (fun f => f.expiresAt.isNone) then
    (.keyError "expires_at", { service with cleaning := false })
  else
    (.cleaned, { service with
      failedQueue := service.failedQueue.keep (fun f => f.expiresAt.all (fun at_ => now ≤ at_)) })

def serve (service : RetryService) (now : ℚ) : RetryRequest → RetryAnswer × RetryService
  | .add jobId error created => service.addRetry now jobId error created
  | .pending => (service.getPending now, service)
  | .remove jobId => service.remove jobId
  | .cleanup => service.cleanup now

end RetryService

end RomaBridge.Model.FastRetries
