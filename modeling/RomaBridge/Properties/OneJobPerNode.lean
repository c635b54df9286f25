import Mathlib.Data.List.Induction
import RomaBridge.Foundation.Separated
import RomaBridge.Foundation.StableSort
import RomaBridge.Model.PolicyEngine

/-! One job per GPU node, what an idle cluster accepts, and the place of a pending job. A node is idle or
holds one allocation. A job is on one node only, and stays there, except for two calls that look at no
job: `schedule` of an active job, and `register_node` over a node that has one. A request that is
queued once is pending for ever; no age is ever set, so the queue is sorted by priority and arrival.
-/

namespace RomaBridge.Properties

open RomaBridge.Foundation RomaBridge.Model.Policy
open GPUPolicyEngineV2 (queuedBefore)

variable {node : GPUNode} {engine : GPUPolicyEngineV2} {jobId name : String} {vramGb : ℚ}

-- One node

/-- A node is idle, or runs one job within its memory. -/
inductive NodeState (node : GPUNode) : Prop where
  | idle (inactive : node.activeJobIds = []) (free : node.allocations.rows = [])
      (unused : node.vramUsedGb = 0)
  | busy (jobId : String) (vramGb : ℚ) (active : node.activeJobIds = [jobId])
      (allocated : node.allocations.rows = [⟨jobId, vramGb⟩]) (used : node.vramUsedGb = vramGb)
      (within : vramGb ≤ node.vramTotalGb)

theorem nodeState_new (name : String) (vramGb : ℚ) : NodeState (newNode name vramGb) :=
  .idle rfl rfl rfl

theorem inactive_of_canAllocate (can : node.canAllocate = true) : node.activeJobIds = [] := by
  simp only [GPUNode.canAllocate, maxConcurrentJobs, Bool.and_eq_true, decide_eq_true_eq,
    Nat.lt_one_iff] at can
  exact List.eq_nil_of_length_eq_zero can.1

theorem allocate_of_canAllocate (can : node.canAllocate = true) (fits : vramGb ≤ node.vramFreeGb)
    : node.allocate jobId vramGb = (true, node.occupy jobId vramGb) := by
  have inactive := inactive_of_canAllocate can
  simp [GPUNode.allocate, inactive, can, not_lt.mpr fits]

theorem nodeState_occupy (state : NodeState node) (inactive : node.activeJobIds = [])
    (fits : vramGb ≤ node.vramFreeGb)
    : NodeState (node.occupy jobId vramGb) := by
  cases state with
  | idle _ free unused =>
      refine .busy jobId vramGb ?_ (Table.rows_put_of_nil free _) ?_ ?_
      · simp [GPUNode.occupy, inactive]
      · simp [GPUNode.occupy, unused]
      · simpa [GPUNode.vramFreeGb, unused, GPUNode.occupy] using fits
  | busy other _ active => cases inactive.symm.trans active

theorem release_eq (state : NodeState node) (jobId : String)
    : (node.release jobId).activeJobIds = node.activeJobIds.filter (· ≠ jobId)
      ∧ NodeState (node.release jobId) := by
  cases state with
  | idle inactive free unused =>
      have same : node.release jobId = node := by simp [GPUNode.release, inactive]
      rw [same]
      exact ⟨by simp [inactive], .idle inactive free unused⟩
  | busy job gb active allocated used within =>
      by_cases here : job = jobId
      · subst here
        have found : node.allocations.find? job = some ⟨job, gb⟩ := by
          simp [Table.find?, allocated]
        refine ⟨by simp [GPUNode.release, active], .idle ?_ ?_ ?_⟩
        · simp [GPUNode.release, active]
        · simp [GPUNode.release, active, Table.keep, allocated]
        · simp [GPUNode.release, active, found, used]
      · have same : node.release jobId = node := by
          simp [GPUNode.release, active, Ne.symm here]
        rw [same]
        exact ⟨by simp [active, here], .busy job gb active allocated used within⟩

theorem total_release (jobId : String) (node : GPUNode)
    : (node.release jobId).vramTotalGb = node.vramTotalGb := by
  unfold GPUNode.release
  split <;> rfl

theorem allocations_release (jobId : String) (node : GPUNode)
    : ∀ allocation ∈ (node.release jobId).allocations.rows,
      allocation ∈ node.allocations.rows := by
  intro allocation member
  unfold GPUNode.release at member
  split at member
  · exact List.mem_of_mem_filter member
  · exact member

-- Where the nodes come from

theorem firstMin_mem {key : GPUNode → ℚ} {candidates : List GPUNode}
    (chosen : firstMin key candidates = some node)
    : node ∈ candidates := by
  induction candidates generalizing node with
  | nil => cases chosen
  | cons first rest ih =>
      unfold firstMin at chosen
      cases best : firstMin key rest with
      | none =>
          simp only [best, Option.some.injEq] at chosen
          exact chosen ▸ List.mem_cons_self
      | some other =>
          simp only [best] at chosen
          split at chosen
          · cases chosen
            exact List.mem_cons_self
          · cases chosen
            exact List.mem_cons_of_mem _ (ih best)

theorem firstMin_eq_none {key : GPUNode → ℚ} {candidates : List GPUNode}
    (none_ : firstMin key candidates = none)
    : candidates = [] := by
  cases candidates with
  | nil => rfl
  | cons first rest =>
      unfold firstMin at none_
      cases best : firstMin key rest with
      | none => simp [best] at none_
      | some other =>
          simp only [best] at none_
          split at none_ <;> cases none_

theorem selectBestNode_some (chosen : engine.selectBestNode vramGb = some node)
    : node ∈ engine.nodes.rows ∧ node.canAllocate = true ∧ vramGb ≤ node.vramFreeGb := by
  have candidate := firstMin_mem chosen
  simp only [List.mem_filter, Bool.and_eq_true, decide_eq_true_eq] at candidate
  exact ⟨candidate.1, candidate.2.1, candidate.2.2⟩

/-- The nodes that a `release_job` releases the job on. -/
def releaseTargets (engine : GPUPolicyEngineV2) (nodeName : Option String) (node : GPUNode)
    : Bool :=
  match nodeName with
  | none => true
  | some given =>
      if given ≠ "" ∧ (engine.nodes.find? given).isSome then node.name = given else true

theorem mem_releaseJob {nodeName : Option String} {after : GPUNode}
    : after ∈ (engine.releaseJob jobId nodeName).nodes.rows
      ↔ ∃ before ∈ engine.nodes.rows,
        (if releaseTargets engine nodeName before then before.release jobId else before)
          = after := by
  unfold GPUPolicyEngineV2.releaseJob releaseTargets
  cases nodeName with
  | none => exact List.mem_map
  | some given =>
      simp only
      split
      · exact List.mem_map
      · exact List.mem_map

/-- What `schedule` does: it places the job on the chosen node, or leaves the nodes alone. -/
theorem schedule_cases (engine : GPUPolicyEngineV2) (jobId : String) (priority : ℤ)
    (vramGb runTime : ℚ)
    : (∃ node, engine.applyBackpressure = false ∧ engine.selectBestNode vramGb = some node
        ∧ (engine.schedule jobId priority vramGb runTime).1.decision = .scheduleNow
        ∧ (engine.schedule jobId priority vramGb runTime).1.assignedNode = some node.name
        ∧ (engine.schedule jobId priority vramGb runTime).2 = engine.place node jobId vramGb)
      ∨ (engine.applyBackpressure = true
        ∧ (engine.schedule jobId priority vramGb runTime).1.decision = .rejectBackpressure
        ∧ (engine.schedule jobId priority vramGb runTime).2 = engine)
      ∨ (engine.applyBackpressure = false ∧ engine.selectBestNode vramGb = none
        ∧ (engine.schedule jobId priority vramGb runTime).1.decision = .queuePriority
        ∧ (engine.schedule jobId priority vramGb runTime).2
          = engine.pend (engine.jobMetrics jobId priority vramGb runTime)) := by
  unfold GPUPolicyEngineV2.schedule
  cases pressed : engine.applyBackpressure with
  | true => exact .inr (.inl ⟨rfl, rfl, rfl⟩)
  | false =>
      cases chosen : engine.selectBestNode vramGb with
      | none => exact .inr (.inr ⟨rfl, rfl, rfl, rfl⟩)
      | some node => exact .inl ⟨node, rfl, rfl, rfl, rfl, rfl⟩

def NonnegRequest : PolicyCall → Prop
  | .schedule _ _ vramGb _ => 0 ≤ vramGb
  | _ => True

/-- Where a node after a call comes from. -/
inductive NodeOrigin (engine : GPUPolicyEngineV2) (call : PolicyCall) (after : GPUNode) : Prop where
  | kept (stored : after ∈ engine.nodes.rows)
  | registered (name : String) (vramGb : ℚ) (called : call = .registerNode name vramGb)
      (new : after = newNode name vramGb)
  | released (jobId : String) (before : GPUNode) (stored : before ∈ engine.nodes.rows)
      (same : after = before.release jobId)
  | occupied (jobId : String) (priority : ℤ) (vramGb runTime : ℚ) (before : GPUNode)
      (called : call = .schedule jobId priority vramGb runTime)
      (chosen : engine.selectBestNode vramGb = some before)
      (same : after = before.occupy jobId vramGb)

theorem mem_place {after : GPUNode} (chosen : engine.selectBestNode vramGb = some node)
    : after ∈ (engine.place node jobId vramGb).nodes.rows
      ↔ after = node.occupy jobId vramGb
        ∨ after ∈ engine.nodes.rows ∧ after.name ≠ node.name := by
  obtain ⟨_, can, fits⟩ := selectBestNode_some chosen
  unfold GPUPolicyEngineV2.place
  rw [allocate_of_canAllocate can fits]
  exact Table.mem_put

theorem nodeOrigin (call : PolicyCall) {after : GPUNode}
    (member : after ∈ (policyStep engine call).2.nodes.rows)
    : NodeOrigin engine call after := by
  cases call with
  | registerNode name vramGb =>
      rcases Table.mem_put.mp member with rfl | ⟨old, _⟩
      · exact .registered name vramGb rfl rfl
      · exact .kept old
  | unregisterNode name => exact .kept (List.mem_of_mem_filter member)
  | schedule jobId priority vramGb runTime =>
      simp only [policyStep] at member
      rcases schedule_cases engine jobId priority vramGb runTime with
        ⟨node, _, chosen, _, _, result⟩ | ⟨_, _, result⟩ | ⟨_, _, _, result⟩
      · rw [result] at member
        rcases (mem_place chosen).mp member with same | ⟨old, _⟩
        · exact .occupied jobId priority vramGb runTime node rfl chosen same
        · exact .kept old
      · rw [result] at member
        exact .kept member
      · rw [result] at member
        exact .kept member
  | releaseJob jobId nodeName =>
      obtain ⟨before, stored, same⟩ := mem_releaseJob.mp member
      split at same
      · exact .released jobId before stored same.symm
      · exact .kept (same ▸ stored)

/-- Every node is idle or runs one job. -/
def NodesInOrder (engine : GPUPolicyEngineV2) : Prop := ∀ node ∈ engine.nodes.rows, NodeState node

def NonnegAllocations (engine : GPUPolicyEngineV2) : Prop :=
  ∀ node ∈ engine.nodes.rows, ∀ allocation ∈ node.allocations.rows, 0 ≤ allocation.allocatedGb

theorem NodesInOrder.step (order : NodesInOrder engine) (call : PolicyCall)
    : NodesInOrder (policyStep engine call).2 := by
  intro after member
  cases nodeOrigin call member with
  | kept stored => exact order after stored
  | registered name vramGb _ new => exact new ▸ nodeState_new name vramGb
  | released jobId before stored same =>
      exact same ▸ (release_eq (order before stored) jobId).2
  | occupied jobId _ vramGb _ before _ chosen same =>
      obtain ⟨stored, can, fits⟩ := selectBestNode_some chosen
      exact same ▸ nodeState_occupy (order before stored) (inactive_of_canAllocate can) fits

theorem NonnegAllocations.step (nonneg : NonnegAllocations engine) (call : PolicyCall)
    (request : NonnegRequest call)
    : NonnegAllocations (policyStep engine call).2 := by
  intro after member allocation allocated
  cases nodeOrigin call member with
  | kept stored => exact nonneg after stored allocation allocated
  | registered name vramGb _ new =>
      subst new
      cases allocated
  | released jobId before stored same =>
      subst same
      exact nonneg before stored allocation (allocations_release jobId before _ allocated)
  | occupied jobId _ vramGb _ before called chosen same =>
      subst same called
      rcases Table.mem_put.mp allocated with rfl | ⟨earlier, _⟩
      · exact request
      · exact nonneg before (selectBestNode_some chosen).1 allocation earlier

-- What is asked of the engine

/-- A node has at most one active job, and counts as used what it allocated, within its memory. -/
structure NodeExact (node : GPUNode) : Prop where
  one : node.activeJobIds.length ≤ 1
  sum : node.vramUsedGb = (node.allocations.rows.map VRAMAllocation.allocatedGb).sum
  nonneg : 0 ≤ node.vramUsedGb
  within : node.vramUsedGb ≤ node.vramTotalGb

/-- Every node is exact and no job is active on two of them. -/
structure EngineExact (engine : GPUPolicyEngineV2) : Prop where
  nodes : ∀ node ∈ engine.nodes.rows, NodeExact node
  unique : ∀ left ∈ engine.nodes.rows, ∀ right ∈ engine.nodes.rows, ∀ jobId,
    jobId ∈ left.activeJobIds → jobId ∈ right.activeJobIds → left = right

def ActiveOn (engine : GPUPolicyEngineV2) (jobId name : String) : Prop :=
  ∃ node ∈ engine.nodes.rows, node.name = name ∧ jobId ∈ node.activeJobIds

def RemovesFrom (engine : GPUPolicyEngineV2) (jobId name : String) : PolicyCall → Prop
  | .unregisterNode left => left = name
  | .releaseJob released nodeName =>
      released = jobId ∧ ∀ given, nodeName = some given →
        given = name ∨ given = "" ∨ engine.nodes.find? given = none
  | _ => False

/-- A job that is reported as scheduled is active on its node, and an active job stays active on its
node unless the call removes it.
-/
structure StaysScheduled
    (visit : Visit GPUPolicyEngineV2 PolicyCall (Option GPUPolicyResult))
    : Prop where
  reported : ∀ jobId priority vramGb runTime result,
    visit.call = .schedule jobId priority vramGb runTime → visit.reply = some result →
    result.decision = .scheduleNow →
      ∃ name, result.assignedNode = some name ∧ ActiveOn visit.after jobId name
  stays : ∀ jobId name, ActiveOn visit.before jobId name →
    ¬ RemovesFrom visit.before jobId name visit.call → ActiveOn visit.after jobId name

/-- A node is registered with a total that is not negative and not over one that has a job; a job
that is active on some node is not placed once more.
-/
def NoSecondPlace (engine : GPUPolicyEngineV2) : PolicyCall → Prop
  | .registerNode name vramGb =>
      0 ≤ vramGb ∧ ∀ node, engine.nodes.find? name = some node → node.activeJobIds = []
  | .schedule jobId _ vramGb _ =>
      (∃ node ∈ engine.nodes.rows, jobId ∈ node.activeJobIds) →
        engine.applyBackpressure = true ∨ engine.selectBestNode vramGb = none
  | _ => True

-- One call

theorem nodeExact_iff (state : NodeState node)
    (nonneg : ∀ allocation ∈ node.allocations.rows, 0 ≤ allocation.allocatedGb)
    : NodeExact node ↔ 0 ≤ node.vramTotalGb := by
  constructor
  · intro exact_
    exact exact_.nonneg.trans exact_.within
  · intro total
    cases state with
    | idle inactive free unused =>
        refine ⟨by simp [inactive], by simp [free, unused], unused.ge, ?_⟩
        rw [unused]
        exact total
    | busy jobId vramGb active allocated used within =>
        refine ⟨by simp [active], by simp [allocated, used], ?_, used ▸ within⟩
        rw [used]
        exact nonneg ⟨jobId, vramGb⟩ (by simp [allocated])

/-- The invariants that hold whatever is called. -/
def AccountingInv (engine : GPUPolicyEngineV2) : Prop :=
  NodesInOrder engine ∧ NonnegAllocations engine

theorem accountingInv_step (engine : GPUPolicyEngineV2) (call : PolicyCall)
    (request : NonnegRequest call) (inv : AccountingInv engine)
    : AccountingInv (policyStep engine call).2 :=
  ⟨inv.1.step call, inv.2.step call request⟩

theorem EngineExact.of_totals (inv : AccountingInv engine)
    (totals : ∀ node ∈ engine.nodes.rows, 0 ≤ node.vramTotalGb)
    (unique : ∀ left ∈ engine.nodes.rows, ∀ right ∈ engine.nodes.rows, ∀ jobId,
      jobId ∈ left.activeJobIds → jobId ∈ right.activeJobIds → left = right)
    : EngineExact engine := by
  refine ⟨?_, unique⟩
  intro node stored
  exact (nodeExact_iff (inv.1 node stored) (inv.2 node stored)).mpr (totals node stored)

theorem EngineExact.total_nonneg (exact_ : EngineExact engine) (stored : node ∈ engine.nodes.rows)
    : 0 ≤ node.vramTotalGb :=
  (exact_.nodes node stored).nonneg.trans (exact_.nodes node stored).within

def visitOf (engine : GPUPolicyEngineV2) (call : PolicyCall)
    : Visit GPUPolicyEngineV2 PolicyCall (Option GPUPolicyResult) :=
  ⟨engine, call, (policyStep engine call).1, (policyStep engine call).2⟩

theorem register_right_iff (inv : AccountingInv engine) (exact_ : EngineExact engine)
    : (EngineExact (policyStep engine (.registerNode name vramGb)).2
        ∧ StaysScheduled (visitOf engine (.registerNode name vramGb)))
      ↔ NoSecondPlace engine (.registerNode name vramGb) := by
  have after : ∀ node, node ∈ (policyStep engine (.registerNode name vramGb)).2.nodes.rows
      ↔ node = newNode name vramGb ∨ node ∈ engine.nodes.rows ∧ node.name ≠ name :=
    fun node => Table.mem_put
  constructor
  · intro ⟨exactAfter, right⟩
    refine ⟨exactAfter.total_nonneg ((after _).mpr (.inl rfl)), ?_⟩
    intro node found
    obtain ⟨stored, sameName⟩ := Table.find?_some found
    by_contra active
    obtain ⟨jobId, member⟩ := List.exists_mem_of_ne_nil _ active
    obtain ⟨kept, keptStored, keptName, keptActive⟩ :=
      right.stays jobId name ⟨node, stored, sameName, member⟩ (fun removes => removes)
    rcases (after kept).mp keptStored with rfl | ⟨_, different⟩
    · cases keptActive
    · exact different keptName
  · intro ⟨total, replaced⟩
    refine ⟨EngineExact.of_totals (accountingInv_step engine _ trivial inv) ?_ ?_, ?_, ?_⟩
    · intro node stored
      rcases (after node).mp stored with rfl | ⟨old, _⟩
      · exact total
      · exact exact_.total_nonneg old
    · intro left leftStored right rightStored jobId leftActive rightActive
      rcases (after left).mp leftStored with rfl | ⟨leftOld, _⟩
      · cases leftActive
      · rcases (after right).mp rightStored with rfl | ⟨rightOld, _⟩
        · cases rightActive
        · exact exact_.unique left leftOld right rightOld jobId leftActive rightActive
    · intro jobId priority gb runTime result called
      cases called
    · intro jobId place ⟨node, stored, sameName, active⟩ _
      refine ⟨node, (after node).mpr (.inr ⟨stored, ?_⟩), sameName, active⟩
      intro replacedName
      rw [replaced node (Table.find?_of_key stored replacedName)] at active
      cases active

theorem unregister_right (inv : AccountingInv engine) (exact_ : EngineExact engine)
    : EngineExact (policyStep engine (.unregisterNode name)).2
      ∧ StaysScheduled (visitOf engine (.unregisterNode name)) := by
  have after : ∀ node, node ∈ (policyStep engine (.unregisterNode name)).2.nodes.rows
      ↔ node ∈ engine.nodes.rows ∧ node.name ≠ name := by
    intro node
    simp [policyStep, GPUPolicyEngineV2.unregisterNode, Table.keep, List.mem_filter]
  refine ⟨EngineExact.of_totals (accountingInv_step engine _ trivial inv) ?_ ?_, ?_, ?_⟩
  · intro node stored
    exact exact_.total_nonneg ((after node).mp stored).1
  · intro left leftStored right rightStored
    exact exact_.unique left ((after left).mp leftStored).1 right ((after right).mp rightStored).1
  · intro jobId priority gb runTime result called
    cases called
  · intro jobId place ⟨node, stored, sameName, active⟩ stays
    refine ⟨node, (after node).mpr ⟨stored, ?_⟩, sameName, active⟩
    intro left
    exact stays (left.symm.trans sameName)

theorem active_of_release {selected : Bool} {other : String} (state : NodeState node)
    (active : other ∈ (if selected then node.release jobId else node).activeJobIds)
    : other ∈ node.activeJobIds := by
  split at active
  · rw [(release_eq state jobId).1] at active
    exact List.mem_of_mem_filter active
  · exact active

theorem release_right (inv : AccountingInv engine) (exact_ : EngineExact engine)
    (nodeName : Option String)
    : EngineExact (policyStep engine (.releaseJob jobId nodeName)).2
      ∧ StaysScheduled (visitOf engine (.releaseJob jobId nodeName)) := by
  refine ⟨EngineExact.of_totals (accountingInv_step engine _ trivial inv) ?_ ?_, ?_, ?_⟩
  · intro node stored
    obtain ⟨before, old, rfl⟩ := mem_releaseJob.mp stored
    split
    · rw [total_release]
      exact exact_.total_nonneg old
    · exact exact_.total_nonneg old
  · intro left leftStored right rightStored other leftActive rightActive
    obtain ⟨leftBefore, leftOld, rfl⟩ := mem_releaseJob.mp leftStored
    obtain ⟨rightBefore, rightOld, rfl⟩ := mem_releaseJob.mp rightStored
    have same := exact_.unique leftBefore leftOld rightBefore rightOld other
      (active_of_release (inv.1 leftBefore leftOld) leftActive)
      (active_of_release (inv.1 rightBefore rightOld) rightActive)
    rw [same]
  · intro other priority gb runTime result called
    cases called
  · intro other place ⟨node, stored, sameName, active⟩ stays
    refine ⟨_, mem_releaseJob.mpr ⟨node, stored, rfl⟩, ?_, ?_⟩
    · split
      · exact (GPUPolicyEngineV2.name_release jobId node).trans sameName
      · exact sameName
    · split
      · rename_i targeted
        rw [(release_eq (inv.1 node stored) jobId).1]
        refine List.mem_filter.mpr ⟨active, ?_⟩
        -- A target that loses its own job is one the call removes it from.
        by_contra released
        refine stays ⟨by simpa using Eq.symm (by simpa using released), ?_⟩
        intro given named
        simp only [releaseTargets, named] at targeted
        split at targeted
        · exact .inl ((by simpa using targeted : node.name = given).symm.trans sameName)
        · rename_i unknown
          rw [not_and_or, not_not] at unknown
          rcases unknown with empty | absent
          · exact .inr (.inl empty)
          · exact .inr (.inr (by simpa [visitOf] using absent))
      · exact active

/-- A job that `schedule` places is active nowhere else. -/
theorem schedule_right_iff (inv : AccountingInv engine) (exact_ : EngineExact engine)
    (priority : ℤ) (runTime : ℚ) (request : 0 ≤ vramGb)
    : (EngineExact (policyStep engine (.schedule jobId priority vramGb runTime)).2
        ∧ StaysScheduled (visitOf engine (.schedule jobId priority vramGb runTime)))
      ↔ NoSecondPlace engine (.schedule jobId priority vramGb runTime) := by
  have invAfter := accountingInv_step engine (.schedule jobId priority vramGb runTime) request inv
  have nothing : ∀ (next : GPUPolicyEngineV2), next.nodes = engine.nodes →
      (policyStep engine (.schedule jobId priority vramGb runTime)).2 = next →
      (engine.schedule jobId priority vramGb runTime).1.decision ≠ .scheduleNow →
      EngineExact (policyStep engine (.schedule jobId priority vramGb runTime)).2
        ∧ StaysScheduled (visitOf engine (.schedule jobId priority vramGb runTime)) := by
    intro next nodes result refused
    refine ⟨⟨?_, ?_⟩, ?_, ?_⟩
    · rw [result, nodes]
      exact exact_.nodes
    · rw [result, nodes]
      exact exact_.unique
    · intro other otherPriority gb time answer called reply scheduled
      cases called
      cases reply
      exact absurd scheduled refused
    · intro other place active _
      unfold ActiveOn visitOf
      simp only
      rw [result, nodes]
      exact active
  rcases schedule_cases engine jobId priority vramGb runTime with
    ⟨node, open_, chosen, scheduled, assigned, result⟩ | ⟨pressed, rejected, result⟩
    | ⟨_, full, queued, result⟩
  · have after : ∀ other,
        other ∈ (policyStep engine (.schedule jobId priority vramGb runTime)).2.nodes.rows
          ↔ other = node.occupy jobId vramGb ∨ other ∈ engine.nodes.rows ∧ other.name ≠ node.name :=
      fun other => (by simp only [policyStep, result]; exact mem_place chosen)
    obtain ⟨stored, can, fits⟩ := selectBestNode_some chosen
    have inactive := inactive_of_canAllocate can
    have occupied : (node.occupy jobId vramGb).activeJobIds = [jobId] := by
      simp [GPUNode.occupy, inactive]
    constructor
    · intro ⟨exactAfter, _⟩ ⟨other, otherStored, active⟩
      -- The other node keeps the job, so it would be the chosen one, which was idle.
      have different : other.name ≠ node.name := by
        intro same
        have equal := Table.eq_of_key otherStored stored same
        rw [equal, inactive] at active
        cases active
      have same := exactAfter.unique other ((after other).mpr (.inr ⟨otherStored, different⟩))
        (node.occupy jobId vramGb) ((after _).mpr (.inl rfl)) jobId active (by simp [occupied])
      exact absurd (congrArg GPUNode.name same) different
    · intro allowed
      have nowhere : ∀ other ∈ engine.nodes.rows, jobId ∉ other.activeJobIds := by
        intro other otherStored active
        rcases allowed ⟨other, otherStored, active⟩ with pressed | full
        · cases open_.symm.trans pressed
        · cases chosen.symm.trans full
      refine ⟨EngineExact.of_totals invAfter ?_ ?_, ?_, ?_⟩
      · intro other otherStored
        rcases (after other).mp otherStored with same | ⟨old, _⟩
        · have total : 0 ≤ node.vramTotalGb := exact_.total_nonneg stored
          rw [same]
          exact total
        · exact exact_.total_nonneg old
      · intro left leftStored right rightStored other leftActive rightActive
        rcases (after left).mp leftStored with rfl | ⟨leftOld, _⟩
        · rw [occupied, List.mem_singleton] at leftActive
          subst leftActive
          rcases (after right).mp rightStored with rfl | ⟨rightOld, _⟩
          · rfl
          · exact absurd rightActive (nowhere right rightOld)
        · rcases (after right).mp rightStored with rfl | ⟨rightOld, _⟩
          · rw [occupied, List.mem_singleton] at rightActive
            subst rightActive
            exact absurd leftActive (nowhere left leftOld)
          · exact exact_.unique left leftOld right rightOld other leftActive rightActive
      · intro other otherPriority gb time answer called reply _
        cases called
        cases reply
        exact ⟨node.name, assigned, node.occupy jobId vramGb, (after _).mpr (.inl rfl), rfl,
          by simp [occupied]⟩
      · intro other place ⟨before, beforeStored, sameName, active⟩ _
        refine ⟨before, (after before).mpr (.inr ⟨beforeStored, ?_⟩), sameName, active⟩
        intro same
        have equal := Table.eq_of_key beforeStored stored same
        rw [equal, inactive] at active
        cases active
  · refine iff_of_true (nothing engine rfl result ?_) (fun _ => .inl pressed)
    rw [rejected]
    intro scheduled
    cases scheduled
  · refine iff_of_true
      (nothing (engine.pend (engine.jobMetrics jobId priority vramGb runTime)) rfl result ?_)
      (fun _ => .inr full)
    rw [queued]
    intro scheduled
    cases scheduled

theorem policyStep_right_iff (engine : GPUPolicyEngineV2) (call : PolicyCall)
    (request : NonnegRequest call) (inv : AccountingInv engine) (exact_ : EngineExact engine)
    : (EngineExact (policyStep engine call).2 ∧ StaysScheduled (visitOf engine call))
      ↔ NoSecondPlace engine call := by
  cases call with
  | registerNode name vramGb => exact register_right_iff inv exact_
  | unregisterNode name => exact iff_of_true (unregister_right inv exact_) trivial
  | schedule jobId priority vramGb runTime =>
      exact schedule_right_iff inv exact_ priority runTime request
  | releaseJob jobId nodeName => exact iff_of_true (release_right inv exact_ nodeName) trivial

-- Any calls

theorem accountingInv_new : AccountingInv newEngine := by
  refine ⟨?_, ?_⟩
  · intro node stored
    cases stored
  · intro node stored
    cases stored

theorem engineExact_new : EngineExact newEngine := by
  refine ⟨?_, ?_⟩
  · intro node stored
    cases stored
  · intro left stored
    cases stored

/-- Along any calls with requests that are not negative, every node holds one job, accounts exactly
for it, and keeps it to itself until it is removed, exactly when no call places a job a second time
or registers over one.
-/
theorem one_job_per_node_iff (calls : List PolicyCall)
    (requests : ∀ call ∈ calls, NonnegRequest call)
    : (∀ visit ∈ visits policyStep newEngine calls,
        EngineExact visit.after ∧ StaysScheduled visit)
      ↔ ∀ visit ∈ visits policyStep newEngine calls, NoSecondPlace visit.before visit.call :=
  right_throughout_iff accountingInv_step policyStep_right_iff requests accountingInv_new
    engineExact_new

def scheduledOnce : List PolicyCall :=
  [.registerNode "gpu-node-1" (21 / 2), .registerNode "gpu-node-2" (21 / 2),
    .schedule "job-001" 5 4 300]

/-- Calls that place no job twice are right throughout. -/
theorem one_job_per_node_scheduledOnce
    : (∀ call ∈ scheduledOnce, NonnegRequest call)
      ∧ ∀ visit ∈ visits policyStep newEngine scheduledOnce,
        EngineExact visit.after ∧ StaysScheduled visit := by
  have requests : ∀ call ∈ scheduledOnce, NonnegRequest call := by
    intro call member
    simp only [scheduledOnce, List.mem_cons, List.not_mem_nil, or_false] at member
    rcases member with rfl | rfl | rfl
    · trivial
    · trivial
    · exact (by norm_num : (0 : ℚ) ≤ 4)
  refine ⟨requests, (one_job_per_node_iff scheduledOnce requests).mpr ?_⟩
  · intro visit member
    simp only [scheduledOnce, visits, List.mem_cons, List.not_mem_nil, or_false] at member
    rcases member with rfl | rfl | rfl
    · refine ⟨by norm_num, ?_⟩
      intro node found
      cases found
    · refine ⟨by norm_num, ?_⟩
      intro node found
      cases found
    · rintro ⟨node, stored, active⟩
      exact absurd active
        ((by decide +kernel : ∀ node ∈ _, "job-001" ∉ GPUNode.activeJobIds node) node stored)

def scheduledTwice : GPUPolicyEngineV2 :=
  finalState policyStep newEngine (scheduledOnce ++ [.schedule "job-001" 5 4 300])

/-- The job is active on both nodes. -/
theorem scheduledTwice_not_exact : ¬ EngineExact scheduledTwice := by
  intro exact_
  have both : ∃ left ∈ scheduledTwice.nodes.rows, ∃ right ∈ scheduledTwice.nodes.rows,
      left.name ≠ right.name ∧ "job-001" ∈ left.activeJobIds
        ∧ "job-001" ∈ right.activeJobIds := by
    decide +kernel
  obtain ⟨left, leftStored, right, rightStored, different, leftActive, rightActive⟩ := both
  have same := exact_.unique left leftStored right rightStored "job-001" leftActive rightActive
  exact different (congrArg GPUNode.name same)

variable {engine : GPUPolicyEngineV2} {jobId : String} {vramGb : ℚ}

def Idle (engine : GPUPolicyEngineV2) : Prop :=
  ∀ node ∈ engine.nodes.rows, node.activeJobIds = []

/-- Some node of at least two gigabytes has the memory in total. -/
def FitsSomeNode (engine : GPUPolicyEngineV2) (vramGb : ℚ) : Prop :=
  ∃ node ∈ engine.nodes.rows, 2 ≤ node.vramTotalGb ∧ vramGb ≤ node.vramTotalGb

def isQueued (reply : Option GPUPolicyResult) : Bool :=
  reply.map GPUPolicyResult.decision = some SchedulingDecision.queuePriority

theorem pending_step (engine : GPUPolicyEngineV2) (call : PolicyCall)
    : (policyStep engine call).2.pendingJobs.length
      = engine.pendingJobs.length + if isQueued (policyStep engine call).1 then 1 else 0 := by
  cases call with
  | registerNode name vramGb => rfl
  | unregisterNode name => rfl
  | schedule jobId priority vramGb runTime =>
      rcases schedule_cases engine jobId priority vramGb runTime with
        ⟨node, _, _, decision, _, result⟩ | ⟨_, decision, result⟩ | ⟨_, _, decision, result⟩
      · simp [policyStep, isQueued, decision, result, GPUPolicyEngineV2.place]
      · simp [policyStep, isQueued, decision, result]
      · simp [policyStep, isQueued, decision, result, GPUPolicyEngineV2.pend,
          List.length_insertionSort]
  | releaseJob jobId nodeName => rfl

/-- The pending jobs are the requests that were ever queued, by induction on the calls. -/
theorem pending_eq_queued (engine : GPUPolicyEngineV2) (calls : List PolicyCall)
    : (finalState policyStep engine calls).pendingJobs.length
      = engine.pendingJobs.length
        + (visits policyStep engine calls).countP (fun visit => isQueued visit.reply) := by
  induction calls generalizing engine with
  | nil => simp [finalState, visits]
  | cons call rest ih =>
      have next := ih (policyStep engine call).2
      rw [pending_step] at next
      simp only [visits, List.countP_cons]
      have same : finalState policyStep engine (call :: rest)
          = finalState policyStep (policyStep engine call).2 rest := rfl
      rw [same, next]
      omega

theorem used_of_inactive {node : GPUNode} (state : NodeState node)
    (inactive : node.activeJobIds = [])
    : node.vramUsedGb = 0 := by
  cases state with
  | idle _ _ unused => exact unused
  | busy jobId vramGb active => cases inactive.symm.trans active

theorem nodeUtilization_of_idle (order : NodesInOrder engine) (idle : Idle engine)
    : engine.nodeUtilization = 0 := by
  have none_ : engine.nodes.rows.map GPUNode.utilizationRatio
      = engine.nodes.rows.map (fun _ => (0 : ℚ)) := by
    apply List.map_congr_left
    intro node stored
    simp [GPUNode.utilizationRatio, used_of_inactive (order node stored) (idle node stored)]
  unfold GPUPolicyEngineV2.nodeUtilization
  rw [none_]
  simp

theorem saturated_iff (engine : GPUPolicyEngineV2)
    : backpressureThreshold ≤ engine.queueSaturation ↔ 43 ≤ engine.pendingJobs.length := by
  unfold GPUPolicyEngineV2.queueSaturation backpressureThreshold maxQueueDepth
  rw [le_div_iff₀ (by norm_num)]
  constructor
  · intro saturated
    by_contra below
    have bound : (engine.pendingJobs.length : ℚ) ≤ 42 := by
      exact_mod_cast Nat.le_of_lt_succ (not_le.mp below)
    norm_num at saturated
    linarith
  · intro many
    have bound : (43 : ℚ) ≤ engine.pendingJobs.length := by exact_mod_cast many
    norm_num
    linarith

theorem applyBackpressure_of_idle (order : NodesInOrder engine) (idle : Idle engine)
    : engine.applyBackpressure = true ↔ 43 ≤ engine.pendingJobs.length := by
  unfold GPUPolicyEngineV2.applyBackpressure
  rw [nodeUtilization_of_idle order idle, Bool.or_eq_true, decide_eq_true_eq, saturated_iff]
  norm_num

theorem selectBestNode_of_idle (order : NodesInOrder engine) (idle : Idle engine)
    (fits : FitsSomeNode engine vramGb)
    : engine.selectBestNode vramGb ≠ none := by
  intro unchosen
  obtain ⟨node, stored, large, within⟩ := fits
  have unused := used_of_inactive (order node stored) (idle node stored)
  have candidate : node ∈ engine.nodes.rows.filter
      (fun node => node.canAllocate && vramGb ≤ node.vramFreeGb) := by
    refine List.mem_filter.mpr ⟨stored, ?_⟩
    simp [GPUNode.canAllocate, GPUNode.vramFreeGb, maxConcurrentJobs, idle node stored, unused,
      large, within]
  rw [firstMin_eq_none unchosen] at candidate
  cases candidate

theorem nodesInOrder_reached (calls : List PolicyCall)
    : NodesInOrder (finalState policyStep newEngine calls) := by
  have start : NodesInOrder newEngine := accountingInv_new.1
  exact (invariant_of_allowed NodesInOrder (fun _ _ => True)
    (fun _ call order _ => order.step call) start (fun _ _ => trivial)).2

/-- An idle cluster that any calls led to schedules a request that fits some node exactly when fewer
than forty-three jobs are pending, and the pending jobs are all the requests ever queued.
-/
theorem idle_cluster_schedules_iff (calls : List PolicyCall)
    (idle : Idle (finalState policyStep newEngine calls)) (jobId : String) (priority : ℤ)
    (vramGb runTime : ℚ) (fits : FitsSomeNode (finalState policyStep newEngine calls) vramGb)
    : (((finalState policyStep newEngine calls).schedule jobId priority vramGb runTime).1.decision
          = .scheduleNow
        ↔ (finalState policyStep newEngine calls).pendingJobs.length < 43)
      ∧ (finalState policyStep newEngine calls).pendingJobs.length
        = (visits policyStep newEngine calls).countP (fun visit => isQueued visit.reply) := by
  have order := nodesInOrder_reached calls
  have pressed := applyBackpressure_of_idle order idle
  have chosen := selectBestNode_of_idle order idle fits
  refine ⟨?_, by simpa [newEngine] using pending_eq_queued newEngine calls⟩
  rcases schedule_cases (finalState policyStep newEngine calls) jobId priority vramGb runTime with
    ⟨node, open_, _, decision, _, _⟩ | ⟨full, decision, _⟩ | ⟨_, none_, _, _⟩
  · rw [decision, ← not_le, ← pressed, open_]
    simp
  · rw [decision, ← not_le, ← pressed, full]
    simp
  · exact absurd none_ chosen

def waitedInVain (waiting : ℕ) : List PolicyCall :=
  [.registerNode "gpu-node-1" (21 / 2), .schedule "job-0" 5 4 300]
    ++ List.replicate waiting (.schedule "job-1" 5 4 300)
    ++ [.releaseJob "job-0" (some "gpu-node-1")]

/-- With one request that was queued, the idle node takes the next job. -/
theorem idle_cluster_schedules_next
    : ((finalState policyStep newEngine (waitedInVain 1)).schedule "job-2" 5 4 300).1.decision
      = .scheduleNow := by
  refine (idle_cluster_schedules_iff (waitedInVain 1) ?_ "job-2" 5 4 300 ?_).1.mpr ?_
  · unfold Idle
    decide +kernel
  · unfold FitsSomeNode
    decide +kernel
  · decide +kernel

/-- After forty-three requests that were queued, an idle node that is large enough gets no job. -/
theorem idle_cluster_rejects
    : Idle (finalState policyStep newEngine (waitedInVain 43))
      ∧ FitsSomeNode (finalState policyStep newEngine (waitedInVain 43)) 4
      ∧ ((finalState policyStep newEngine (waitedInVain 43)).schedule "job-2" 5 4 300).1.decision
        ≠ .scheduleNow := by
  refine ⟨?_, ?_, ?_⟩
  · unfold Idle
    decide +kernel
  · unfold FitsSomeNode
    decide +kernel
  · decide +kernel

variable {engine : GPUPolicyEngineV2} {job : JobMetrics}

abbrev PolicyVisit := Visit GPUPolicyEngineV2 AgingCall (Option GPUPolicyResult)

/-- The job that a call answered with `QUEUE_PRIORITY`. -/
def queuedBy (visit : PolicyVisit) : Option JobMetrics :=
  match visit.call, visit.reply with
  | .policy (.schedule jobId priority vramRequestedGb estimatedRunTime), some result =>
      if result.decision = .queuePriority then
        some (visit.before.jobMetrics jobId priority vramRequestedGb estimatedRunTime)
      else none
  | _, _ => none

/-- `job.estimated_run_time_seconds or 300.0`. -/
def averageRunTime (job : JobMetrics) : ℚ :=
  if job.estimatedRunTimeSeconds = 0 then 300 else job.estimatedRunTimeSeconds

/-- The position and the wait of a queued job are those of its place. Of jobs that are equal in all,
the one that came last is the last.
-/
def PlaceTold (visit : PolicyVisit) : Prop :=
  ∀ job, queuedBy visit = some job → ∃ result front back, visit.reply = some result
    ∧ visit.after.pendingJobs = front ++ job :: back ∧ job ∉ back
    ∧ result.queuePosition = some (front.length + 1)
    ∧ result.waitEstimateSeconds = some (front.length * averageRunTime job)

/-- Sorted by priority, and by arrival among equal priorities. -/
structure QueueInOrder (arrivals pending : List JobMetrics) : Prop where
  sorted : pending.Pairwise (fun earlier later => later.priority ≤ earlier.priority)
  stable : ∀ priority, pending.filter (fun job => job.priority = priority)
    = arrivals.filter (fun job => job.priority = priority)

/-- A job that is queued comes behind jobs of higher priorities only. -/
def ComesLast (engine : GPUPolicyEngineV2) (call : AgingCall) : Prop :=
  ∀ jobId priority vramRequestedGb estimatedRunTime,
    call = .policy (.schedule jobId priority vramRequestedGb estimatedRunTime) →
    engine.applyBackpressure = false → engine.selectBestNode vramRequestedGb = none →
    ∀ waiting ∈ engine.pendingJobs, (priority : ℚ) < waiting.priority

/-- The queue is sorted, and without ages. -/
structure Lined (engine : GPUPolicyEngineV2) : Prop where
  sorted : engine.pendingJobs.Pairwise (fun earlier later => later.priority ≤ earlier.priority)
  ageless : ∀ job ∈ engine.pendingJobs, job.ageSeconds = 0 ∧ job.waitTimeSeconds = 0

instance : IsTrans JobMetrics queuedBefore where
  trans := by
    intro first second third before after
    unfold queuedBefore at *
    rcases before with higher | ⟨same, younger⟩
    · rcases after with higher' | ⟨same', -⟩
      · exact .inl (higher'.trans higher)
      · exact .inl (same' ▸ higher)
    · rcases after with higher' | ⟨same', younger'⟩
      · exact .inl (same ▸ higher')
      · exact .inr ⟨same'.trans same, younger.trans younger'⟩

theorem queuedBefore_iff {left right : JobMetrics} (ageless : left.ageSeconds = 0)
    (ageless' : right.ageSeconds = 0)
    : queuedBefore left right ↔ right.priority ≤ left.priority := by
  simp [queuedBefore, ageless, ageless', le_iff_lt_or_eq]

theorem pendingJobs_pend (lined : Lined engine) (ageless : job.ageSeconds = 0)
    : (engine.pend job).pendingJobs
      = engine.pendingJobs.filter (fun other => job.priority ≤ other.priority)
        ++ job :: engine.pendingJobs.filter (fun other => other.priority < job.priority) := by
  have sorted : engine.pendingJobs.Pairwise queuedBefore :=
    lined.sorted.imp_of_mem fun left right order =>
      (queuedBefore_iff (lined.ageless _ left).1 (lined.ageless _ right).1).mpr order
  have compared : ∀ other ∈ engine.pendingJobs,
      (queuedBefore other job ↔ job.priority ≤ other.priority) :=
    fun other member => queuedBefore_iff (lined.ageless other member).1 ageless
  refine (insertionSort_concat sorted).trans ?_
  congr 1
  · exact List.filter_congr fun other member => by simp [compared other member]
  · congr 1
    exact List.filter_congr fun other member => by simp [compared other member, ← not_le]

theorem schedule_queues (engine : GPUPolicyEngineV2) (jobId : String) (priority : ℤ)
    (vramRequestedGb estimatedRunTime : ℚ)
    : let scheduled := engine.schedule jobId priority vramRequestedGb estimatedRunTime
      let job := engine.jobMetrics jobId priority vramRequestedGb estimatedRunTime
      (engine.applyBackpressure = false ∧ engine.selectBestNode vramRequestedGb = none
          ∧ scheduled.1.decision = .queuePriority ∧ scheduled.2 = engine.pend job
          ∧ scheduled.1.queuePosition = some (engine.pendingJobs.length + 1)
          ∧ scheduled.1.waitEstimateSeconds = some (engine.computeWaitEstimate job))
        ∨ ((engine.applyBackpressure = false → engine.selectBestNode vramRequestedGb ≠ none)
          ∧ scheduled.1.decision ≠ .queuePriority
          ∧ scheduled.2.pendingJobs = engine.pendingJobs) := by
  unfold GPUPolicyEngineV2.schedule
  cases pressed : engine.applyBackpressure with
  | true => exact .inr ⟨by simp, by simp, rfl⟩
  | false =>
      cases chosen : engine.selectBestNode vramRequestedGb with
      | some node => exact .inr ⟨by simp, by simp, rfl⟩
      | none => exact .inl ⟨rfl, rfl, rfl, rfl, rfl, rfl⟩

theorem queuedBy_schedule {before after : GPUPolicyEngineV2} {result : GPUPolicyResult}
    (jobId : String) (priority : ℤ) (vramRequestedGb estimatedRunTime : ℚ)
    : queuedBy ⟨before, .policy (.schedule jobId priority vramRequestedGb estimatedRunTime),
        some result, after⟩
      = if result.decision = .queuePriority then
          some (before.jobMetrics jobId priority vramRequestedGb estimatedRunTime) else none := rfl

/-- A call adds the job that it queues, and no other. -/
theorem agingStep_cases (engine : GPUPolicyEngineV2) (call : AgingCall) (lined : Lined engine)
    : let visit : PolicyVisit := ⟨engine, call, (agingStep engine call).1, (agingStep engine call).2⟩
      (∃ job, queuedBy visit = some job ∧ job.ageSeconds = 0 ∧ job.waitTimeSeconds = 0
          ∧ visit.after = engine.pend job)
        ∨ (queuedBy visit = none ∧ visit.after.pendingJobs = engine.pendingJobs) := by
  cases call with
  | ageJobs now =>
      refine .inr ⟨rfl, ?_⟩
      have same : ∀ job ∈ engine.pendingJobs, ({ job with
          ageSeconds := now - job.enqueuedAt now
          waitTimeSeconds := now - job.enqueuedAt now } : JobMetrics) = job := by
        intro job member
        obtain ⟨age, wait⟩ := lined.ageless job member
        cases job
        simp_all [JobMetrics.enqueuedAt]
      exact (List.map_congr_left same).trans (List.map_id' _)
  | policy call =>
      cases call with
      | schedule jobId priority vramRequestedGb estimatedRunTime =>
          rcases schedule_queues engine jobId priority vramRequestedGb estimatedRunTime with
            ⟨-, -, queued, after, -⟩ | ⟨-, other, after⟩
          · exact .inl ⟨_, if_pos queued, rfl, rfl, after⟩
          · exact .inr ⟨if_neg other, after⟩
      | registerNode => exact .inr ⟨rfl, rfl⟩
      | unregisterNode => exact .inr ⟨rfl, rfl⟩
      | releaseJob => exact .inr ⟨rfl, rfl⟩

theorem Lined.step (lined : Lined engine) (call : AgingCall) : Lined (agingStep engine call).2 := by
  rcases agingStep_cases engine call lined with ⟨job, -, age, wait, after⟩ | ⟨-, same⟩
  · simp only at after
    rw [after]
    constructor
    · rw [pendingJobs_pend lined age, List.pairwise_append, List.pairwise_cons]
      refine ⟨lined.sorted.filter _, ⟨?_, lined.sorted.filter _⟩, ?_⟩
      · intro other member
        have below := (List.mem_filter.mp member).2
        exact (of_decide_eq_true below).le
      · intro front member back behind
        have above := of_decide_eq_true (List.mem_filter.mp member).2
        rcases List.mem_cons.mp behind with rfl | lower
        · exact above
        · exact (of_decide_eq_true (List.mem_filter.mp lower).2).le.trans above
    · intro other member
      rw [pendingJobs_pend lined age] at member
      simp only [List.mem_append, List.mem_cons, List.mem_filter] at member
      rcases member with ⟨old, -⟩ | rfl | ⟨old, -⟩
      · exact lined.ageless other old
      · exact ⟨age, wait⟩
      · exact lined.ageless other old
  · simp only at same
    exact ⟨same ▸ lined.sorted, same ▸ lined.ageless⟩

theorem lined_new : Lined newEngine := ⟨.nil, by simp [newEngine]⟩

/-- Among equal priorities a queued job comes after those that wait. -/
theorem filter_pend (lined : Lined engine) (ageless : job.ageSeconds = 0) (priority : ℚ)
    : (engine.pend job).pendingJobs.filter (fun other => other.priority = priority)
      = engine.pendingJobs.filter (fun other => other.priority = priority)
        ++ [job].filter (fun other => other.priority = priority) := by
  have above : (engine.pendingJobs.filter (fun other => job.priority ≤ other.priority)).filter
      (fun other => other.priority = priority)
      = if job.priority ≤ priority then
          engine.pendingJobs.filter (fun other => other.priority = priority) else [] := by
    rw [List.filter_filter]
    split
    · exact List.filter_congr fun other _ => by grind
    · exact List.filter_eq_nil_iff.mpr fun other _ => by grind
  have below : (engine.pendingJobs.filter (fun other => other.priority < job.priority)).filter
      (fun other => other.priority = priority)
      = if priority < job.priority then
          engine.pendingJobs.filter (fun other => other.priority = priority) else [] := by
    rw [List.filter_filter]
    split
    · exact List.filter_congr fun other _ => by grind
    · exact List.filter_eq_nil_iff.mpr fun other _ => by grind
  rw [pendingJobs_pend lined ageless, List.filter_append, List.filter_cons, above, below,
    List.filter_singleton]
  rcases lt_trichotomy job.priority priority with less | rfl | greater
  · simp [less.le, less.not_gt, less.ne]
  · simp
  · simp [greater, greater.not_ge, greater.ne']

/-- After any calls the queue is in order. Induction on the calls. -/
theorem queueInOrder (calls : List AgingCall)
    : QueueInOrder ((visits agingStep newEngine calls).filterMap queuedBy)
      (finalState agingStep newEngine calls).pendingJobs := by
  induction calls using List.reverseRecOn with
  | nil => exact ⟨.nil, fun _ => rfl⟩
  | append_singleton calls call ih =>
      have every : ∀ visit ∈ visits agingStep newEngine calls, True := fun _ _ => trivial
      have lined := (invariant_of_allowed Lined (fun _ _ => True)
        (fun _ call lined _ => lined.step call) lined_new every).2
      rw [visits_append, List.filterMap_append, finalState_append]
      refine ⟨(lined.step call).sorted, fun priority => ?_⟩
      rw [List.filter_append, ← ih.stable priority]
      rcases agingStep_cases _ call lined with ⟨job, queued, age, -, after⟩ | ⟨none_, same⟩
      · have alone : (visits agingStep (finalState agingStep newEngine calls) [call]).filterMap queuedBy
            = [job] := List.filterMap_cons_some queued
        rw [alone, ← filter_pend lined age priority]
        exact congrArg _ (congrArg _ after)
      · have alone : (visits agingStep (finalState agingStep newEngine calls) [call]).filterMap queuedBy
            = [] := List.filterMap_cons_none none_
        rw [alone, List.filter_nil, List.append_nil]
        exact congrArg _ same

theorem place_iff (lined : Lined engine) (ageless : job.ageSeconds = 0) {P : ℕ → Prop}
    : (∃ front back, (engine.pend job).pendingJobs = front ++ job :: back ∧ job ∉ back
        ∧ P front.length)
      ↔ P (engine.pendingJobs.countP (fun other => job.priority ≤ other.priority)) := by
  have lower : job ∉ engine.pendingJobs.filter (fun other => other.priority < job.priority) :=
    fun member => lt_irrefl _ (of_decide_eq_true (List.mem_filter.mp member).2)
  rw [List.countP_eq_length_filter, pendingJobs_pend lined ageless]
  constructor
  · intro ⟨front, back, split, last, holds⟩
    rwa [((append_sep_inj_right lower last).mp split).1]
  · exact fun holds => ⟨_, _, rfl, lower, holds⟩

theorem counts_iff (engine : GPUPolicyEngineV2) (job : JobMetrics)
    : (engine.pendingJobs.length + 1
          = engine.pendingJobs.countP (fun other => job.priority ≤ other.priority) + 1
        ∧ engine.computeWaitEstimate job
          = engine.pendingJobs.countP (fun other => job.priority ≤ other.priority)
            * averageRunTime job)
      ↔ ∀ waiting ∈ engine.pendingJobs, job.priority < waiting.priority := by
  have runs : averageRunTime job ≠ 0 := by
    unfold averageRunTime
    split
    · norm_num
    · assumption
  have estimate : engine.computeWaitEstimate job
      = engine.pendingJobs.countP (fun other => job.priority < other.priority)
        * averageRunTime job := rfl
  rw [estimate, mul_left_inj' runs, Nat.cast_inj, Nat.add_right_cancel_iff]
  constructor
  · intro ⟨all, same⟩
    have higher := List.countP_eq_length.mp (same.trans all.symm)
    exact fun waiting member => of_decide_eq_true (higher waiting member)
  · intro higher
    have strictly : engine.pendingJobs.countP (fun other => job.priority < other.priority)
        = engine.pendingJobs.length :=
      List.countP_eq_length.mpr fun waiting member => decide_eq_true (higher waiting member)
    have all : engine.pendingJobs.countP (fun other => job.priority ≤ other.priority)
        = engine.pendingJobs.length :=
      List.countP_eq_length.mpr fun waiting member => decide_eq_true (higher waiting member).le
    exact ⟨all.symm, strictly.trans all.symm⟩

theorem placeTold_of_queued {visit : PolicyVisit} {result : GPUPolicyResult}
    (lined : Lined visit.before) (queued : queuedBy visit = some job) (ageless : job.ageSeconds = 0)
    (reply : visit.reply = some result) (after : visit.after = visit.before.pend job)
    (position : result.queuePosition = some (visit.before.pendingJobs.length + 1))
    (wait : result.waitEstimateSeconds = some (visit.before.computeWaitEstimate job))
    : PlaceTold visit ↔ ∀ waiting ∈ visit.before.pendingJobs, job.priority < waiting.priority := by
  rw [← counts_iff]
  refine Iff.trans ?_ (place_iff lined ageless (P := fun place =>
    visit.before.pendingJobs.length + 1 = place + 1
    ∧ visit.before.computeWaitEstimate job = place * averageRunTime job))
  constructor
  · intro told
    obtain ⟨_, front, back, reply', split, last, position', wait'⟩ := told job queued
    obtain rfl := Option.some.inj (reply.symm.trans reply')
    exact ⟨front, back, after ▸ split, last, Option.some.inj (position.symm.trans position'),
      Option.some.inj (wait.symm.trans wait')⟩
  · intro ⟨front, back, split, last, position', wait'⟩ other isOther
    obtain rfl := Option.some.inj (queued.symm.trans isOther)
    exact ⟨result, front, back, reply, after ▸ split, last, position.trans (congrArg some position'),
      wait.trans (congrArg some wait')⟩

theorem placeTold_iff (lined : Lined engine) (call : AgingCall)
    : PlaceTold ⟨engine, call, (agingStep engine call).1, (agingStep engine call).2⟩
      ↔ ComesLast engine call := by
  cases call with
  | ageJobs now => exact iff_of_true (fun _ queued => by cases queued) (fun _ _ _ _ same => by cases same)
  | policy call =>
      cases call with
      | schedule jobId priority vramRequestedGb estimatedRunTime =>
          rcases schedule_queues engine jobId priority vramRequestedGb estimatedRunTime with
            ⟨relaxed, noNode, queued, after, position, wait⟩ | ⟨placed, other, -⟩
          · refine (placeTold_of_queued lined ((queuedBy_schedule ..).trans (if_pos queued)) rfl rfl
              after position wait).trans ?_
            constructor
            · rintro higher _ _ _ _ same - -
              cases same
              exact higher
            · exact fun comesLast => comesLast _ _ _ _ rfl relaxed noNode
          · refine iff_of_true (fun _ queued => ?_) ?_
            · cases ((queuedBy_schedule ..).trans (if_neg other)).symm.trans queued
            · rintro _ _ _ _ same relaxed noNode
              cases same
              exact absurd noNode (placed relaxed)
      | _ => exact iff_of_true (fun _ queued => by cases queued) (fun _ _ _ _ same => by cases same)

theorem queue_places_iff (calls : List AgingCall)
    : ((∀ visit ∈ visits agingStep newEngine calls, PlaceTold visit)
        ∧ ∀ past, past <+: calls → QueueInOrder ((visits agingStep newEngine past).filterMap queuedBy)
          (finalState agingStep newEngine past).pendingJobs)
      ↔ ∀ visit ∈ visits agingStep newEngine calls, ComesLast visit.before visit.call := by
  rw [and_iff_left fun past _ => queueInOrder past]
  refine forall₂_congr fun visit member => ?_
  have lined := (invariant_of_mem_visits Lined lined_new (fun _ call _ lined => lined.step call)
    member).1
  rw [← placeTold_iff lined, step_of_mem_visits member]

/-- Two jobs on an engine without nodes, the second of a higher priority. -/
def lowThenHigh : List AgingCall :=
  [.policy (.schedule "job-low" 3 4 300), .policy (.schedule "job-high" 8 4 300)]

/-- The second job is told that it is the second, and it is the first. -/
theorem first_job_told_second
    : ¬ ((∀ visit ∈ visits agingStep newEngine lowThenHigh, PlaceTold visit)
      ∧ ∀ past, past <+: lowThenHigh →
        QueueInOrder ((visits agingStep newEngine past).filterMap queuedBy)
          (finalState agingStep newEngine past).pendingJobs) := by
  intro ⟨told, _⟩
  have second := told _ (List.mem_cons_of_mem _ List.mem_cons_self)
  have comesLast := (placeTold_iff (lined_new.step _) _).mp second "job-high" 8 4 300 rfl
    (by decide +kernel) (by decide +kernel)
  exact absurd comesLast (by decide +kernel)

end RomaBridge.Properties
