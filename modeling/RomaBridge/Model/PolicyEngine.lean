import RomaBridge.Foundation.Table
import RomaBridge.Foundation.Trace
import Mathlib.Data.List.Sort
import Mathlib.Data.Rat.Floor

/-! `scheduler/gpu_policy_engine_v2.py`: GPU nodes with one job each, and the policy that places
jobs on them, queues them or rejects them. Arithmetic is exact.
-/

namespace RomaBridge.Model.Policy

open RomaBridge.Foundation

/-- `RTX3060Config.VRAM_SAFE_LIMIT_GB`. -/
def vramSafeLimitGb : ℚ := 9

/-- `RTX3060Config.MAX_CONCURRENT_JOBS`. -/
def maxConcurrentJobs : ℕ := 1

/-- `VRAMAllocation`, without its timestamp. -/
structure VRAMAllocation where
  jobId : String
  allocatedGb : ℚ
  deriving DecidableEq, Repr

structure GPUNode where
  name : String
  vramTotalGb : ℚ
  vramUsedGb : ℚ
  allocations : Table String VRAMAllocation VRAMAllocation.jobId
  activeJobIds : List String

/-- `GPUNode(name, vram_total_gb)`. -/
def newNode (name : String) (vramTotalGb : ℚ) : GPUNode := ⟨name, vramTotalGb, 0, Table.empty, []⟩

namespace GPUNode

def vramFreeGb (node : GPUNode) : ℚ := node.vramTotalGb - node.vramUsedGb

def canAllocate (node : GPUNode) : Bool :=
  node.activeJobIds.length < maxConcurrentJobs && 2 ≤ node.vramFreeGb

def utilizationRatio (node : GPUNode) : ℚ :=
  if node.vramTotalGb = 0 then 0 else node.vramUsedGb / node.vramTotalGb

/-- The writes of `allocate`. -/
def occupy (node : GPUNode) (jobId : String) (vramGb : ℚ) : GPUNode :=
  { node with
    allocations := node.allocations.put ⟨jobId, vramGb⟩
    activeJobIds := node.activeJobIds ++ [jobId]
    vramUsedGb := node.vramUsedGb + vramGb }

def allocate (node : GPUNode) (jobId : String) (vramGb : ℚ) : Bool × GPUNode :=
  if jobId ∈ node.activeJobIds then (true, node)
  else if node.canAllocate = false then (false, node)
  else if node.vramFreeGb < vramGb then (false, node)
  else (true, node.occupy jobId vramGb)

def release (node : GPUNode) (jobId : String) : GPUNode :=
  if jobId ∈ node.activeJobIds then
    { node with
      allocations := node.allocations.keep (fun allocation => allocation.jobId ≠ jobId)
      vramUsedGb := match node.allocations.find? jobId with
        | some allocation => node.vramUsedGb - allocation.allocatedGb
        | none => node.vramUsedGb
      activeJobIds := node.activeJobIds.erase jobId }
  else node

end GPUNode

/-- `SchedulingDecision`, the decisions that are made. -/
inductive SchedulingDecision where
  | scheduleNow
  | queuePriority
  | rejectBackpressure
  deriving DecidableEq, Repr

structure GPUPolicyResult where
  decision : SchedulingDecision
  assignedNode : Option String
  assignedVramGb : Option ℚ
  autoBatchSize : Option ℤ
  queuePosition : Option ℕ
  rejectionReason : Option String
  waitEstimateSeconds : Option ℚ
  deriving DecidableEq, Repr

structure JobMetrics where
  jobId : String
  priority : ℚ
  vramRequestedGb : ℚ
  ageSeconds : ℚ
  waitTimeSeconds : ℚ
  backpressureRatio : ℚ
  estimatedRunTimeSeconds : ℚ
  deriving DecidableEq, Repr

structure GPUPolicyEngineV2 where
  nodes : Table String GPUNode GPUNode.name
  pendingJobs : List JobMetrics

/-- `GPUPolicyEngineV2()`. -/
def newEngine : GPUPolicyEngineV2 := ⟨Table.empty, []⟩

/-- `self.backpressure_threshold`. -/
def backpressureThreshold : ℚ := 85 / 100

/-- `self.max_queue_depth`. -/
def maxQueueDepth : ℕ := 50

/-- `min(candidates, key=key)`: the first of the smallest. -/
def firstMin (key : GPUNode → ℚ) : List GPUNode → Option GPUNode
  | [] => none
  | first :: rest =>
      match firstMin key rest with
      | none => some first
      | some best => if key first ≤ key best then some first else some best

/-- `f'{ratio:.2f}'` of a ratio in hundredths. -/
def twoDecimals (hundredths : ℕ) : String :=
  toString (hundredths / 100) ++ "." ++ toString (hundredths / 10 % 10)
    ++ toString (hundredths % 10)

namespace GPUPolicyEngineV2

def registerNode (engine : GPUPolicyEngineV2) (name : String) (vramGb : ℚ) : GPUPolicyEngineV2 :=
  { engine with nodes := engine.nodes.put (newNode name vramGb) }

def unregisterNode (engine : GPUPolicyEngineV2) (name : String) : GPUPolicyEngineV2 :=
  { engine with nodes := engine.nodes.keep (fun node => node.name ≠ name) }

theorem name_release (jobId : String) (node : GPUNode) : (node.release jobId).name = node.name := by
  unfold GPUNode.release
  split <;> rfl

def releaseJob (engine : GPUPolicyEngineV2) (jobId : String) (nodeName : Option String)
    : GPUPolicyEngineV2 :=
  { engine with nodes :=
      match nodeName with
      | none => engine.nodes.update (fun _ => true) (GPUNode.release · jobId) (name_release jobId)
      | some name =>
          if name ≠ "" ∧ (engine.nodes.find? name).isSome then
            engine.nodes.update (fun node => node.name = name) (GPUNode.release · jobId)
              (name_release jobId)
          else
            engine.nodes.update (fun _ => true) (GPUNode.release · jobId) (name_release jobId) }

def computeBatchSize (vramRequestedGb : ℚ) (node : GPUNode) : ℤ :=
  if node.vramFreeGb < vramRequestedGb then 1
  else max 1 (min (min (node.vramFreeGb - vramRequestedGb) vramSafeLimitGb * 4).floor 32)

def computeWaitEstimate (engine : GPUPolicyEngineV2) (job : JobMetrics) : ℚ :=
  (engine.pendingJobs.countP (fun other => job.priority < other.priority) : ℚ)
    * if job.estimatedRunTimeSeconds = 0 then 300 else job.estimatedRunTimeSeconds

/-- `len(self.pending_jobs) / self.max_queue_depth`. -/
def queueSaturation (engine : GPUPolicyEngineV2) : ℚ :=
  (engine.pendingJobs.length : ℚ) / (maxQueueDepth : ℚ)

def nodeUtilization (engine : GPUPolicyEngineV2) : ℚ :=
  (engine.nodes.rows.map GPUNode.utilizationRatio).sum / (max 1 engine.nodes.rows.length : ℕ)

def applyBackpressure (engine : GPUPolicyEngineV2) : Bool :=
  backpressureThreshold ≤ engine.queueSaturation || 9 / 10 ≤ engine.nodeUtilization

def selectBestNode (engine : GPUPolicyEngineV2) (vramGb : ℚ) : Option GPUNode :=
  firstMin GPUNode.utilizationRatio
    (engine.nodes.rows.filter (fun node => node.canAllocate && vramGb ≤ node.vramFreeGb))

def jobMetrics (engine : GPUPolicyEngineV2) (jobId : String) (priority : ℤ)
    (vramRequestedGb estimatedRunTime : ℚ)
    : JobMetrics where
  jobId := jobId
  priority := priority
  vramRequestedGb := vramRequestedGb
  ageSeconds := 0
  waitTimeSeconds := 0
  backpressureRatio := engine.queueSaturation
  estimatedRunTimeSeconds := estimatedRunTime

/-- The sort key `(-j.priority, j.age_seconds)`. -/
def queuedBefore (left right : JobMetrics) : Prop :=
  right.priority < left.priority
    ∨ right.priority = left.priority ∧ left.ageSeconds ≤ right.ageSeconds

instance : DecidableRel queuedBefore := fun left right => by
  unfold queuedBefore
  infer_instance

def pend (engine : GPUPolicyEngineV2) (job : JobMetrics) : GPUPolicyEngineV2 :=
  { engine with pendingJobs := (engine.pendingJobs ++ [job]).insertionSort queuedBefore }

/-- `node.allocate(job_id, vram_gb)` on a node of the engine. -/
def place (engine : GPUPolicyEngineV2) (node : GPUNode) (jobId : String) (vramGb : ℚ)
    : GPUPolicyEngineV2 :=
  { engine with nodes := engine.nodes.put (node.allocate jobId vramGb).2 }

/-- `schedule`. The age of a new job is zero, so that it is not boosted. -/
def schedule (engine : GPUPolicyEngineV2) (jobId : String) (priority : ℤ)
    (vramRequestedGb estimatedRunTime : ℚ)
    : GPUPolicyResult × GPUPolicyEngineV2 :=
  if engine.applyBackpressure then
    ({ decision := SchedulingDecision.rejectBackpressure
       assignedNode := none
       assignedVramGb := none
       autoBatchSize := none
       queuePosition := none
       rejectionReason := some ("Queue saturation " ++ twoDecimals (2 * engine.pendingJobs.length)
         ++ " >= 0.85")
       waitEstimateSeconds := none }, engine)
  else
    match engine.selectBestNode vramRequestedGb with
    | some node =>
        ({ decision := SchedulingDecision.scheduleNow
           assignedNode := some node.name
           assignedVramGb := some vramRequestedGb
           autoBatchSize := some (computeBatchSize vramRequestedGb node)
           queuePosition := none
           rejectionReason := none
           waitEstimateSeconds := some 0 }, engine.place node jobId vramRequestedGb)
    | none =>
        ({ decision := SchedulingDecision.queuePriority
           assignedNode := none
           assignedVramGb := none
           autoBatchSize := none
           queuePosition := some (engine.pendingJobs.length + 1)
           rejectionReason := none
           waitEstimateSeconds := some (engine.computeWaitEstimate
             (engine.jobMetrics jobId priority vramRequestedGb estimatedRunTime)) },
          engine.pend (engine.jobMetrics jobId priority vramRequestedGb estimatedRunTime))

end GPUPolicyEngineV2

inductive PolicyCall where
  | registerNode (name : String) (vramGb : ℚ)
  | unregisterNode (name : String)
  | schedule (jobId : String) (priority : ℤ) (vramRequestedGb estimatedRunTime : ℚ)
  | releaseJob (jobId : String) (nodeName : Option String)

/-- One call; only `schedule` returns something. -/
def policyStep (engine : GPUPolicyEngineV2) : PolicyCall → Option GPUPolicyResult × GPUPolicyEngineV2
  | .registerNode name vramGb => (none, engine.registerNode name vramGb)
  | .unregisterNode name => (none, engine.unregisterNode name)
  | .schedule jobId priority vramRequestedGb estimatedRunTime =>
      (some (engine.schedule jobId priority vramRequestedGb estimatedRunTime).1,
        (engine.schedule jobId priority vramRequestedGb estimatedRunTime).2)
  | .releaseJob jobId nodeName => (none, engine.releaseJob jobId nodeName)

/-- `getattr(job, 'enqueued_at', now)`. No job has the attribute. -/
def JobMetrics.enqueuedAt (_ : JobMetrics) (now : ℚ) : ℚ := now

def GPUPolicyEngineV2.ageJobs (engine : GPUPolicyEngineV2) (now : ℚ) : GPUPolicyEngineV2 :=
  { engine with pendingJobs := engine.pendingJobs.map (fun job =>
      { job with
        ageSeconds := now - job.enqueuedAt now
        waitTimeSeconds := now - job.enqueuedAt now }) }

/-- The calls of an engine, with `age_jobs` at a time. -/
inductive AgingCall where
  | policy (call : PolicyCall)
  | ageJobs (now : ℚ)

def agingStep (engine : GPUPolicyEngineV2) : AgingCall → Option GPUPolicyResult × GPUPolicyEngineV2
  | .policy call => policyStep engine call
  | .ageJobs now => (none, engine.ageJobs now)

end RomaBridge.Model.Policy
