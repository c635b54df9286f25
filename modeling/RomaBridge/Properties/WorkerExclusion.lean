import RomaBridge.Model.GpuRegistry

/-! A worker runs one job at a time. The lock is `current_job`, which every heartbeat writes, and
writes `None` to by default.
-/

namespace RomaBridge.Properties

open RomaBridge.Foundation RomaBridge.Model.GpuRegistry

variable {registry : WorkerRegistry} {workerId : String} {worker : WorkerStatus}
  {write : WorkerStatus → WorkerStatus}

/-- A registry with the job whose `acquire_gpu_lock` returned `True` last for each worker that was
not released, completed or removed since.
-/
structure Watched where
  registry : WorkerRegistry
  holder : String → Option String

def unwatched : Watched := ⟨Table.empty, fun _ => none⟩

def holderAfter (watched : Watched) : RegistryCall → String → Option String
  | .acquireGpuLock workerId jobId =>
      if (watched.registry.acquireGpuLock workerId jobId).1 then
        Function.update watched.holder workerId (some jobId)
      else
        watched.holder
  | .releaseGpuLock workerId | .jobCompleted workerId _ =>
      Function.update watched.holder workerId none
  | .cleanupDeadWorkers => fun workerId =>
      if (watched.registry.cleanupDeadWorkers.find? workerId).isSome then watched.holder workerId
      else none
  | _ => watched.holder

def watchStep (watched : Watched) (call : RegistryCall) : RegistryReply × Watched :=
  ((registryStep watched.registry call).1,
    ⟨(registryStep watched.registry call).2, holderAfter watched call⟩)

/-- No `acquire_gpu_lock` of a held worker would succeed and no listing would show it. -/
def HeldAlone (watched : Watched) : Prop :=
  ∀ workerId jobId, watched.holder workerId = some jobId →
    (∀ other, (watched.registry.acquireGpuLock workerId other).1 = false)
    ∧ ∀ minVramGb, ∀ worker ∈ watched.registry.getAvailableWorkers minVramGb,
      worker.workerId ≠ workerId

def KeepsJob (watched : Watched) (call : RegistryCall) : Prop :=
  ∀ workerId gpuUtil vramUsedGb status now,
    call = .heartbeat workerId gpuUtil vramUsedGb status none now →
    (watched.registry.find? workerId).isSome → watched.holder workerId = none

def LocksHeld (watched : Watched) : Prop :=
  ∀ workerId, (watched.holder workerId).isSome →
    ∃ worker, watched.registry.find? workerId = some worker ∧ worker.currentJob.isSome

theorem acquireGpuLock_free {jobId : String} (found : registry.find? workerId = some worker)
    (idle : worker.currentJob = none)
    : (registry.acquireGpuLock workerId jobId).1 = true := by
  simp [WorkerRegistry.acquireGpuLock, found, idle]

theorem currentJob_of_available {minVramGb : ℚ}
    (available : worker ∈ registry.getAvailableWorkers minVramGb)
    : registry.find? worker.workerId = some worker ∧ worker.currentJob = none := by
  obtain ⟨member, passes⟩ := List.mem_filter.mp available
  simp only [Bool.and_eq_true, Option.isNone_iff_eq_none] at passes
  exact ⟨Table.find?_of_mem member, passes.2⟩

theorem LocksHeld.exclusive {watched : Watched} (locks : LocksHeld watched)
    : HeldAlone watched := by
  intro workerId jobId holder
  obtain ⟨worker, found, busy⟩ := locks workerId (by rw [holder]; rfl)
  refine ⟨fun other => ?_, ?_⟩
  · rcases watched.registry.acquireGpuLock_cases workerId other with ⟨-, refused⟩ | ⟨free, -⟩
    · rw [refused]
    · obtain ⟨same, found', idle⟩ := free
      rw [found, Option.some.injEq] at found'
      rw [found', idle] at busy
      cases busy
  · rintro minVramGb shown available rfl
    obtain ⟨found', idle⟩ := currentJob_of_available available
    rw [found, Option.some.injEq] at found'
    rw [found', idle] at busy
    cases busy

theorem LocksHeld.of_kept {watched : Watched} (locks : LocksHeld watched)
    {holder : String → Option String}
    (fewer : ∀ workerId, (holder workerId).isSome → (watched.holder workerId).isSome)
    (kept : ∀ workerId worker, (holder workerId).isSome →
      watched.registry.find? workerId = some worker → worker.currentJob.isSome →
      ∃ after, registry.find? workerId = some after ∧ after.currentJob.isSome)
    : LocksHeld ⟨registry, holder⟩ := by
  intro workerId held
  obtain ⟨worker, found, busy⟩ := locks workerId (fewer workerId held)
  exact kept workerId worker held found busy

theorem find?_change {other : String} {keeps : ∀ w, (write w).workerId = w.workerId}
    (found : registry.find? other = some worker)
    : (registry.change workerId write keeps).find? other
      = some (if other = workerId then write worker else worker) := by
  have named : worker.workerId = other := (Table.find?_some found).2
  simp [WorkerRegistry.change, Table.find?_update, found, named]

theorem LocksHeld.rewrite {watched : Watched} (locks : LocksHeld watched)
    {selected : WorkerStatus → Bool} (keeps : ∀ w, (write w).workerId = w.workerId)
    (jobs : ∀ worker, selected worker → (watched.holder worker.workerId).isSome →
      worker.currentJob.isSome → (write worker).currentJob.isSome)
    : LocksHeld ⟨watched.registry.update selected write keeps, watched.holder⟩ := by
  refine locks.of_kept (fun _ held => held) ?_
  intro workerId worker held found busy
  refine ⟨if selected worker then write worker else worker, ?_, ?_⟩
  · rw [Table.find?_update, found, Option.map_some]
  · have named : worker.workerId = workerId := (Table.find?_some found).2
    split
    · rename_i chosen
      exact jobs worker chosen (by rwa [named]) busy
    · exact busy

theorem LocksHeld.give_up {watched : Watched} (locks : LocksHeld watched) (workerId : String)
    (write : WorkerStatus → WorkerStatus) (keeps : ∀ w, (write w).workerId = w.workerId)
    : LocksHeld ⟨watched.registry.change workerId write keeps,
        Function.update watched.holder workerId none⟩ := by
  refine locks.of_kept ?_ ?_
  · intro other held
    by_cases own : other = workerId
    · simp [own] at held
    · rwa [Function.update_of_ne own] at held
  · intro other worker held found busy
    by_cases own : other = workerId
    · simp [own] at held
    · exact ⟨worker, by rw [find?_change found, if_neg own], busy⟩

theorem LocksHeld.take {watched : Watched} (locks : LocksHeld watched)
    (found : watched.registry.find? workerId = some worker)
    (keeps : ∀ w, (write w).workerId = w.workerId) (busy : (write worker).currentJob.isSome)
    (jobId : String)
    : LocksHeld ⟨watched.registry.change workerId write keeps,
        Function.update watched.holder workerId (some jobId)⟩ := by
  intro other held
  by_cases own : other = workerId
  · subst own
    exact ⟨write worker, by rw [find?_change found, if_pos rfl], busy⟩
  · dsimp only at held
    rw [Function.update_of_ne own] at held
    obtain ⟨stored, stays, kept⟩ := locks other held
    exact ⟨stored, by rw [find?_change stays, if_neg own], kept⟩

theorem LocksHeld.keep {watched : Watched} (locks : LocksHeld watched)
    (kept : WorkerStatus → Bool)
    : LocksHeld ⟨watched.registry.keep kept, fun workerId =>
        if ((watched.registry.keep kept).find? workerId).isSome then watched.holder workerId
        else none⟩ := by
  intro workerId held
  by_cases there : ((watched.registry.keep kept).find? workerId).isSome
  · dsimp only at held
    rw [if_pos there] at held
    obtain ⟨worker, found, busy⟩ := locks workerId held
    obtain ⟨after, left⟩ := Option.isSome_iff_exists.mp there
    refine ⟨after, left, ?_⟩
    rw [Table.find?_keep, found] at left
    have same : worker = after := Option.some.inj (Option.filter_eq_some_iff.mp left).1
    rw [← same]
    exact busy
  · dsimp only at held
    rw [if_neg there] at held
    cases held

theorem LocksHeld.step {watched : Watched} (locks : LocksHeld watched) {call : RegistryCall}
    (keeps : KeepsJob watched call)
    : LocksHeld (watchStep watched call).2 := by
  cases call with
  | registerWorker workerId vramTotalGb now =>
      simp only [watchStep, registryStep, WorkerRegistry.registerWorker, holderAfter]
      cases inserted : watched.registry.insert?
          ⟨workerId, 0, 0, vramTotalGb, "healthy", now, 0, 0, none⟩ with
      | none => exact locks
      | some registered =>
          refine locks.of_kept (fun _ held => held) ?_
          intro other worker _ found busy
          exact ⟨worker, Table.find?_insert?_of_some inserted found, busy⟩
  | heartbeat workerId gpuUtil vramUsedGb status currentJob now =>
      refine locks.rewrite (fun _ => by rfl) ?_
      intro worker chosen held _
      have own : worker.workerId = workerId := of_decide_eq_true chosen
      obtain ⟨_, found, _⟩ := locks worker.workerId held
      cases currentJob with
      | some jobId => rfl
      | none =>
          have free := keeps workerId gpuUtil vramUsedGb status now rfl (by rw [← own, found]; rfl)
          rw [own, free] at held
          cases held
  | getAvailableWorkers minVramGb => exact locks
  | markWorkerDead workerId => exact locks.rewrite (fun _ => by rfl) (fun _ _ _ busy => busy)
  | heartbeatTimeoutCheck now => exact locks.rewrite (fun _ => by rfl) (fun _ _ _ busy => busy)
  | cleanupDeadWorkers => exact locks.keep _
  | acquireGpuLock workerId jobId =>
      simp only [watchStep, registryStep, holderAfter]
      rcases watched.registry.acquireGpuLock_cases workerId jobId with
        ⟨-, refused⟩ | ⟨⟨worker, found, -⟩, taken⟩
      · rw [refused]
        exact locks
      · rw [taken]
        exact locks.take found (fun _ => by rfl) rfl jobId
  | releaseGpuLock workerId => exact locks.give_up workerId _ (fun _ => by rfl)
  | jobCompleted workerId success =>
      exact locks.give_up workerId _ (fun w => by cases success <;> rfl)

theorem exclusive_step_iff {watched : Watched} (locks : LocksHeld watched) (call : RegistryCall)
    : HeldAlone (watchStep watched call).2 ↔ KeepsJob watched call := by
  refine ⟨?_, fun keeps => (locks.step keeps).exclusive⟩
  rintro exclusive workerId gpuUtil vramUsedGb status now rfl registered
  by_contra held
  obtain ⟨jobId, holder⟩ := Option.ne_none_iff_exists'.mp held
  obtain ⟨worker, found⟩ := Option.isSome_iff_exists.mp registered
  have refused := (exclusive workerId jobId holder).1 jobId
  simp only [watchStep, registryStep, WorkerRegistry.heartbeat] at refused
  rw [acquireGpuLock_free (find?_change found) (by simp)] at refused
  cases refused

/-- In every sequence of calls, locked workers are exclusive in every state exactly when each
heartbeat of a locked worker names a job.
-/
theorem workerExclusion_iff (calls : List RegistryCall)
    : (∀ visit ∈ visits watchStep unwatched calls, HeldAlone visit.after)
      ↔ ∀ visit ∈ visits watchStep unwatched calls, KeepsJob visit.before visit.call := by
  have start : LocksHeld unwatched := by
    intro _ absent
    cases absent
  have exact_ : ∀ watched call, LocksHeld watched → True →
      (HeldAlone (watchStep watched call).2 ↔ KeepsJob watched call) :=
    fun _ call locks _ => exclusive_step_iff locks call
  have preserved : ∀ watched call, LocksHeld watched → True → KeepsJob watched call →
      LocksHeld (watchStep watched call).2 :=
    fun _ _ locks _ keeps => locks.step keeps
  exact throughout_iff exact_ preserved start (fun _ _ => trivial)

/-- A heartbeat with the default `current_job` arrives while the worker runs its job. -/
theorem heartbeat_frees_worker
    : ∃ calls, ¬ ∀ visit ∈ visits watchStep unwatched calls, HeldAlone visit.after := by
  refine ⟨[.registerWorker "gpu-node-1" 8 0, .acquireGpuLock "gpu-node-1" "job-001",
    .heartbeat "gpu-node-1" 0 0 "healthy" none 1], ?_⟩
  intro exclusive
  have refused := (exclusive _ (List.mem_of_getLast? rfl) "gpu-node-1" "job-001" (by decide)).1
  exact absurd (refused "job-002") (by decide)

end RomaBridge.Properties
