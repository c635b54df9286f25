import RomaBridge.Foundation.Table
import RomaBridge.Foundation.Decimal

/-! The in-process control plane: `control_plane/core_models.py`, `job_store.py`, `leases.py`,
`registry.py` and one tick of `reconciler.py`.
Dictionaries are tables with a key, times and allocations are exact rationals, and the objects
of a dictionary are its rows: a write through a reference is a write to the row.
-/

namespace RomaBridge.Model.ControlPlane

open RomaBridge.Foundation

inductive WorkerStatus where
  | healthy
  | degraded
  | dead
  | unknown
  deriving DecidableEq, Repr

/-- `JobStatus` of the control plane. -/
inductive JobStatus where
  | submitted
  | scheduled
  | running
  | completed
  | committed
  | failed
  | dead
  | pendingRetry
  deriving DecidableEq, Repr

/-- `Worker`, without the fields that only the listing endpoints print. -/
structure Worker where
  id : String
  status : WorkerStatus := .unknown
  gpuTotal : ℚ := 1
  gpuUsed : ℚ := 0
  lastHeartbeat : ℚ
  activeJobs : ℤ := 0
  deriving DecidableEq, Repr

def Worker.isHealthy (worker : Worker) : Bool := worker.status == .healthy

structure GPULease where
  gpuId : String
  jobId : String
  workerId : String
  ttl : ℚ := 30
  createdAt : ℚ
  renewed : ℕ := 0
  deriving DecidableEq, Repr

/-- The instant up to which a lease is valid. -/
def GPULease.deadline (lease : GPULease) : ℚ := lease.createdAt + lease.ttl * (1 + lease.renewed)

/-- `GPULease.is_expired` at the time `now`. -/
def GPULease.isExpired (lease : GPULease) (now : ℚ) : Bool := now > lease.deadline

/-- `Job`. The payload and the tags are carried and never read. -/
structure Job where
  id : String
  plugin : String
  status : JobStatus := .submitted
  workerId : Option String := none
  gpuAllocated : ℚ := 0
  scheduledAt : Option ℚ := none
  startedAt : Option ℚ := none
  completedAt : Option ℚ := none
  error : Option String := none
  retryCount : ℤ := 0
  maxRetries : ℤ := 3
  ttlSeconds : ℚ := 3600
  deriving DecidableEq, Repr

def Job.isTerminal (job : Job) : Bool :=
  job.status == .completed || job.status == .committed || job.status == .dead
    || job.status == .failed

def Job.isRetryable (job : Job) : Bool :=
  job.retryCount < job.maxRetries && (job.status == .failed || job.status == .dead)

/-- The id `submit` builds: `f"job-{seq:05d}-{uuid4().hex[:8]}"`. -/
def jobIdOf (seq : ℕ) (suffix : String) : String :=
  String.ofList ("job-".toList ++ paddedDigits 5 seq ++ '-' :: suffix.toList)

/-- `JobStore`: the jobs and the sequence number. A stored id was built from a number that the
sequence has passed, in this process or in the one that wrote the file it was loaded from.
-/
structure JobStore where
  jobs : Table String Job Job.id
  seq : ℕ
  numbered : ∀ job ∈ jobs.rows, ∃ number ≤ seq, ∃ suffix, job.id = jobIdOf number suffix

namespace JobStore

def fresh : JobStore := ⟨.empty, 0, by simp [Table.empty]⟩

def get (store : JobStore) (jobId : String) : Option Job := store.jobs.find? jobId

/-- An assignment to fields of the job stored under `jobId`. -/
def write (store : JobStore) (jobId : String) (change : Job → Job)
    (keeps : ∀ job, (change job).id = job.id)
    : JobStore where
  jobs := store.jobs.update (fun job => job.id = jobId) change keeps
  seq := store.seq
  numbered := by
    intro job member
    obtain ⟨old, stored, rfl⟩ := List.mem_map.mp member
    obtain ⟨number, passed, suffix, built⟩ := store.numbered old stored
    refine ⟨number, passed, suffix, ?_⟩
    split
    · rw [keeps, built]
    · exact built

theorem numbered_put (store : JobStore) {job : Job} {suffix : String}
    (built : job.id = jobIdOf (store.seq + 1) suffix)
    : ∀ stored ∈ (store.jobs.put job).rows,
        ∃ number ≤ store.seq + 1, ∃ suffix, stored.id = jobIdOf number suffix := by
  intro stored member
  have found := Table.find?_of_mem member
  rw [Table.find?_put] at found
  split at found
  · obtain rfl := Option.some.inj found
    exact ⟨store.seq + 1, le_refl _, suffix, built⟩
  · obtain ⟨number, passed, old, built⟩ := store.numbered stored (Table.find?_some found).1
    exact ⟨number, by omega, old, built⟩

/-- `JobStore.submit`; `suffix` is the random part of the id. -/
def submit (store : JobStore) (suffix plugin : String) (gpu ttl : ℚ) (maxRetries : ℤ)
    : Job × JobStore :=
  let seq := store.seq + 1
  let job : Job :=
    { id := jobIdOf seq suffix, plugin, gpuAllocated := gpu, ttlSeconds := ttl, maxRetries }
  (job, { jobs := store.jobs.put job, seq, numbered := store.numbered_put rfl })

def schedule (store : JobStore) (jobId workerId : String) (now : ℚ) : Bool × JobStore :=
  match store.get jobId with
  | none => (false, store)
  | some job =>
      if job.status ≠ .submitted then (false, store)
      else
        (true, store.write jobId
          (fun job => { job with
            status := .scheduled, workerId := some workerId, scheduledAt := some now })
          (fun _ => rfl))

def start (store : JobStore) (jobId : String) (now : ℚ) : Bool × JobStore :=
  match store.get jobId with
  | none => (false, store)
  | some job =>
      if job.status ≠ .scheduled then (false, store)
      else
        (true, store.write jobId
          (fun job => { job with status := .running, startedAt := some now }) (fun _ => rfl))

def complete (store : JobStore) (jobId : String) (now : ℚ) : Bool × JobStore :=
  match store.get jobId with
  | none => (false, store)
  | some job =>
      if job.status ≠ .running then (false, store)
      else
        (true, store.write jobId
          (fun job => { job with status := .completed, completedAt := some now })
          (fun _ => rfl))

def commit (store : JobStore) (jobId : String) : Bool × JobStore :=
  match store.get jobId with
  | none => (false, store)
  | some job =>
      if job.status ≠ .completed then (false, store)
      else (true, store.write jobId (fun job => { job with status := .committed }) (fun _ => rfl))

def fail (store : JobStore) (jobId error : String) (now : ℚ) : Bool × JobStore :=
  match store.get jobId with
  | none => (false, store)
  | some job =>
      if job.status ≠ .running ∧ job.status ≠ .scheduled then (false, store)
      else
        (true, store.write jobId
          (fun job => { job with
            status := .failed, error := some error, completedAt := some now })
          (fun _ => rfl))

def requeue (store : JobStore) (jobId : String) : Bool × JobStore :=
  match store.get jobId with
  | none => (false, store)
  | some job =>
      if ¬ job.isRetryable then
        (false, store.write jobId (fun job => { job with status := .dead }) (fun _ => rfl))
      else
        (true, store.write jobId
          (fun job => { job with
            status := .pendingRetry, workerId := none, retryCount := job.retryCount + 1 })
          (fun _ => rfl))

/-- `JobStore.advance_pending`: the jobs it returns and the store it leaves. -/
def advancePending (store : JobStore) : List Job × JobStore :=
  (store.jobs.rows.filter (fun job => job.status = .pendingRetry),
    { jobs := store.jobs.update (fun job => job.status = .pendingRetry)
        (fun job => { job with status := .submitted }) (fun _ => rfl)
      seq := store.seq
      numbered := by
        intro job member
        obtain ⟨old, stored, rfl⟩ := List.mem_map.mp member
        obtain ⟨number, passed, suffix, built⟩ := store.numbered old stored
        refine ⟨number, passed, suffix, ?_⟩
        split <;> exact built })

def listByWorker (store : JobStore) (workerId : String) : List Job :=
  store.jobs.rows.filter (fun job => job.workerId = some workerId)

end JobStore

/-- `GPULeaseManager._leases`. -/
abbrev LeaseTable := Table String GPULease GPULease.gpuId

namespace LeaseTable

/-- `GPULeaseManager.acquire` at the time `now`. -/
def acquire (leases : LeaseTable) (gpuId jobId workerId : String) (ttl now : ℚ)
    : Bool × LeaseTable :=
  let lease : GPULease := { gpuId, jobId, workerId, ttl, createdAt := now }
  match leases.find? gpuId with
  | none => (true, leases.put lease)
  | some held => if held.isExpired now then (true, leases.put lease) else (false, leases)

/-- `GPULeaseManager.release`. -/
def release (leases : LeaseTable) (gpuId jobId : String) : Bool × LeaseTable :=
  match leases.find? gpuId with
  | none => (false, leases)
  | some held =>
      if held.jobId = jobId then (true, leases.keep (fun lease => lease.gpuId ≠ gpuId))
      else (false, leases)

/-- `GPULeaseManager.renew`: the clock is not read. -/
def renew (leases : LeaseTable) (gpuId jobId : String) : Bool × LeaseTable :=
  match leases.find? gpuId with
  | none => (false, leases)
  | some held =>
      if held.jobId = jobId then
        (true, leases.update (fun lease => lease.gpuId = gpuId)
          (fun lease => { lease with renewed := lease.renewed + 1 }) (fun _ => rfl))
      else (false, leases)

/-- `GPULeaseManager.get_holder` at the time `now`. -/
def getHolder (leases : LeaseTable) (gpuId : String) (now : ℚ) : Option String :=
  match leases.find? gpuId with
  | none => none
  | some held => if held.isExpired now then none else some held.jobId

/-- `GPULeaseManager.cleanup_expired` at the time `now`. -/
def cleanupExpired (leases : LeaseTable) (now : ℚ) : ℕ × LeaseTable :=
  let live := leases.keep (fun lease => ! lease.isExpired now)
  (leases.rows.length - live.rows.length, live)

end LeaseTable

/-- `WorkerRegistry._w`. -/
abbrev Registry := Table String Worker Worker.id

def Registry.markDead (registry : Registry) (workerId : String) : Registry :=
  registry.update (fun worker => worker.id = workerId)
    (fun worker => { worker with status := .dead }) (fun _ => rfl)

/-- What a reconciler works on. -/
structure Plane where
  registry : Registry
  jobs : JobStore
  leases : LeaseTable

/-- `f"{w.id}-gpu-{i}"`. -/
def gpuName (workerId : String) (index : ℕ) : String :=
  workerId ++ "-gpu-" ++ String.ofList (Nat.toDigits 10 index)

/-- `range(int(gpu_allocated))`: a fraction is cut off, a negative number gives no index. -/
def allocatedIndices (gpuAllocated : ℚ) : List ℕ := List.range ⌊gpuAllocated⌋.toNat

/-- The clock a tick reads: at each worker, at each `fail`, and at the clean-up. -/
structure TickClock where
  atWorker : String → ℚ
  atFail : String → ℚ
  atCleanup : ℚ

/-- `time.time() - w.last_heartbeat > self._ht and w.is_healthy()`. -/
def declaresDead (clock : TickClock) (timeout : ℚ) (worker : Worker) : Bool :=
  clock.atWorker worker.id - worker.lastHeartbeat > timeout && worker.isHealthy

/-- The body of the loop over the jobs of a dead worker. The status is read again after `fail`,
through the same reference.
-/
def recoverJob (clock : TickClock) (workerId : String) (plane : Plane) (jobId : String) : Plane :=
  let failed : JobStore :=
    match plane.jobs.get jobId with
    | some job =>
        if job.status = .running then
          (plane.jobs.fail jobId ("Worker " ++ workerId ++ " died") (clock.atFail jobId)).2
        else plane.jobs
    | none => plane.jobs
  match failed.get jobId with
  | none => { plane with jobs := failed }
  | some job =>
      if job.status = .scheduled ∨ job.status = .failed then
        let (requeued, jobs) := failed.requeue jobId
        let leases :=
          if requeued then
            (allocatedIndices job.gpuAllocated).foldl
              (fun leases index => (leases.release (gpuName workerId index) jobId).2) plane.leases
          else plane.leases
        { plane with jobs, leases }
      else { plane with jobs := failed }

/-- The body of the loop over the workers. -/
def inspectWorker (clock : TickClock) (timeout : ℚ) (plane : Plane) (worker : Worker) : Plane :=
  if declaresDead clock timeout worker then
    let marked := { plane with registry := plane.registry.markDead worker.id }
    ((marked.jobs.listByWorker worker.id).map Job.id).foldl (recoverJob clock worker.id) marked
  else plane

/-- `Reconciler._tick`. The workers are those listed when the tick begins. -/
def tick (clock : TickClock) (timeout : ℚ) (plane : Plane) : Plane :=
  let scanned := plane.registry.rows.foldl (inspectWorker clock timeout) plane
  { scanned with
    leases := (scanned.leases.cleanupExpired clock.atCleanup).2
    jobs := scanned.jobs.advancePending.2 }

end RomaBridge.Model.ControlPlane
