import Mathlib.Algebra.Order.Field.Rat
import RomaBridge.Foundation.Table
import RomaBridge.Foundation.Trace

/-! `WorkerRegistry` of `gpu_worker/worker_registry.py` with its heartbeats. Every method holds the
mutex, so that each is one step of any number of threads.
-/

namespace RomaBridge.Model.GpuRegistry

open RomaBridge.Foundation

/-- `WorkerStatus`. A date is in seconds. -/
structure WorkerStatus where
  workerId : String
  gpuUtil : ℚ
  vramUsedGb : ℚ
  vramTotalGb : ℚ
  status : String
  lastHeartbeat : ℚ
  jobsCompleted : ℕ
  jobsFailed : ℕ
  currentJob : Option String
  deriving DecidableEq, Repr

/-- `_workers`. -/
abbrev WorkerRegistry := Table String WorkerStatus WorkerStatus.workerId

def heartbeatTimeout : ℚ := 30

namespace WorkerRegistry

def registerWorker (registry : WorkerRegistry) (workerId : String) (vramTotalGb now : ℚ)
    : Bool × WorkerRegistry :=
  let worker : WorkerStatus := ⟨workerId, 0, 0, vramTotalGb, "healthy", now, 0, 0, none⟩
  match registry.insert? worker with
  | none => (false, registry)
  | some registered => (true, registered)

def change (registry : WorkerRegistry) (workerId : String) (write : WorkerStatus → WorkerStatus)
    (keeps : ∀ w, (write w).workerId = w.workerId)
    : WorkerRegistry :=
  registry.update (fun w => w.workerId = workerId) write keeps

def heartbeat (registry : WorkerRegistry) (workerId : String) (gpuUtil vramUsedGb : ℚ)
    (status : String) (currentJob : Option String) (now : ℚ)
    : Bool × WorkerRegistry :=
  ((registry.find? workerId).isSome,
    registry.change workerId
      (fun w => { w with
        gpuUtil := gpuUtil
        vramUsedGb := vramUsedGb
        status := status
        lastHeartbeat := now
        currentJob := currentJob })
      (fun _ => rfl))

def getAvailableWorkers (registry : WorkerRegistry) (minVramGb : ℚ) : List WorkerStatus :=
  registry.rows.filter (fun w =>
    w.status = "healthy" && minVramGb ≤ w.vramTotalGb - w.vramUsedGb && w.currentJob.isNone)

def markWorkerDead (registry : WorkerRegistry) (workerId : String) : WorkerRegistry :=
  registry.change workerId (fun w => { w with status := "dead" }) (fun _ => rfl)

def silent (now : ℚ) (worker : WorkerStatus) : Bool :=
  heartbeatTimeout < now - worker.lastHeartbeat

def heartbeatTimeoutCheck (registry : WorkerRegistry) (now : ℚ) : List String × WorkerRegistry :=
  ((registry.rows.filter (silent now)).map WorkerStatus.workerId,
    registry.update (silent now) (fun w => { w with status := "dead" }) (fun _ => rfl))

def cleanupDeadWorkers (registry : WorkerRegistry) : WorkerRegistry :=
  registry.keep (fun w => w.status ≠ "dead")

def acquireGpuLock (registry : WorkerRegistry) (workerId jobId : String) : Bool × WorkerRegistry :=
  match registry.find? workerId with
  | none => (false, registry)
  | some worker =>
      if worker.currentJob.isSome then
        (false, registry)
      else
        (true, registry.change workerId (fun w => { w with currentJob := some jobId })
          (fun _ => rfl))

theorem acquireGpuLock_cases (registry : WorkerRegistry) (workerId jobId : String)
    : (∀ worker, registry.find? workerId = some worker → worker.currentJob.isSome)
        ∧ registry.acquireGpuLock workerId jobId = (false, registry)
      ∨ (∃ worker, registry.find? workerId = some worker ∧ worker.currentJob = none)
        ∧ registry.acquireGpuLock workerId jobId
          = (true, registry.change workerId (fun w => { w with currentJob := some jobId })
            (fun _ => rfl)) := by
  cases found : registry.find? workerId with
  | none => simp [acquireGpuLock, found]
  | some worker => cases held : worker.currentJob <;> simp [acquireGpuLock, found, held]

def releaseGpuLock (registry : WorkerRegistry) (workerId : String) : WorkerRegistry :=
  registry.change workerId (fun w => { w with currentJob := none }) (fun _ => rfl)

def jobCompleted (registry : WorkerRegistry) (workerId : String) (success : Bool)
    : WorkerRegistry :=
  registry.change workerId
    (fun w =>
      if success then { w with jobsCompleted := w.jobsCompleted + 1, currentJob := none }
      else { w with jobsFailed := w.jobsFailed + 1, currentJob := none })
    (fun w => by split <;> rfl)

end WorkerRegistry

-- Calls

/-- The calls of the registry. A heartbeat without a job passes the default `current_job`. -/
inductive RegistryCall where
  | registerWorker (workerId : String) (vramTotalGb now : ℚ)
  | heartbeat (workerId : String) (gpuUtil vramUsedGb : ℚ) (status : String)
      (currentJob : Option String) (now : ℚ)
  | getAvailableWorkers (minVramGb : ℚ)
  | markWorkerDead (workerId : String)
  | heartbeatTimeoutCheck (now : ℚ)
  | cleanupDeadWorkers
  | acquireGpuLock (workerId jobId : String)
  | releaseGpuLock (workerId : String)
  | jobCompleted (workerId : String) (success : Bool)

inductive RegistryReply where
  | none
  | flag (value : Bool)
  | workers (available : List WorkerStatus)
  | ids (dead : List String)

def registryStep (registry : WorkerRegistry) : RegistryCall → RegistryReply × WorkerRegistry
  | .registerWorker workerId vramTotalGb now =>
      let (flag, after) := registry.registerWorker workerId vramTotalGb now
      (.flag flag, after)
  | .heartbeat workerId gpuUtil vramUsedGb status currentJob now =>
      let (flag, after) := registry.heartbeat workerId gpuUtil vramUsedGb status currentJob now
      (.flag flag, after)
  | .getAvailableWorkers minVramGb => (.workers (registry.getAvailableWorkers minVramGb), registry)
  | .markWorkerDead workerId => (.none, registry.markWorkerDead workerId)
  | .heartbeatTimeoutCheck now =>
      let (dead, after) := registry.heartbeatTimeoutCheck now
      (.ids dead, after)
  | .cleanupDeadWorkers => (.none, registry.cleanupDeadWorkers)
  | .acquireGpuLock workerId jobId =>
      let (flag, after) := registry.acquireGpuLock workerId jobId
      (.flag flag, after)
  | .releaseGpuLock workerId => (.none, registry.releaseGpuLock workerId)
  | .jobCompleted workerId success => (.none, registry.jobCompleted workerId success)

end RomaBridge.Model.GpuRegistry
