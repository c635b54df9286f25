import RomaBridge.Behaviour.JobStoreLookups

/-! One tick of the reconciler over every registry, job store and lease table.
A RUNNING job of a dead worker is failed and requeued; a SCHEDULED one is requeued without being
failed first, which the store answers by writing it DEAD. Leases are released only for the jobs
that were requeued, and only below the whole part of the allocation.
-/

namespace RomaBridge.Properties

open RomaBridge.Foundation RomaBridge.Model.ControlPlane RomaBridge.Behaviour

variable {clock : TickClock} {timeout : ℚ}
variable {job : Job} {plane : Plane} {jobId gpuId : String} {lease : GPULease} {worker : Worker}

-- Statements

def AssignedTo (plane : Plane) (worker : Worker) (jobId : String) (job : Job) : Prop :=
  plane.jobs.get jobId = some job ∧ job.workerId = some worker.id
    ∧ (job.status = .scheduled ∨ job.status = .running)

/-- What a tick owes the jobs when it declares a worker dead. -/
structure Recovers (clock : TickClock) (timeout : ℚ) (plane : Plane) (worker : Worker) : Prop where
  /-- A job with retries left is SUBMITTED again, without a worker and one retry later. -/
  retried : ∀ jobId job, AssignedTo plane worker jobId job → job.retryCount < job.maxRetries →
    ∃ after, (tick clock timeout plane).jobs.get jobId = some after
      ∧ after.status = .submitted ∧ after.workerId = none
      ∧ after.retryCount = job.retryCount + 1
  /-- A job without retries left is DEAD. -/
  buried : ∀ jobId job, AssignedTo plane worker jobId job → job.maxRetries ≤ job.retryCount →
    ∃ after, (tick clock timeout plane).jobs.get jobId = some after ∧ after.status = .dead
  /-- The jobs of workers that are not declared dead keep their status, unless they were
  PENDING_RETRY. -/
  others : ∀ jobId job, plane.jobs.get jobId = some job →
    (∀ dead ∈ plane.registry.rows, declaresDead clock timeout dead = true →
      job.workerId ≠ some dead.id) →
    job.status ≠ .pendingRetry →
      ∃ after, (tick clock timeout plane).jobs.get jobId = some after
        ∧ after.status = job.status
  /-- No unexpired lease on a GPU of the worker is held by one of its jobs. -/
  unleased : ∀ jobId job, AssignedTo plane worker jobId job →
    ∀ index : ℕ, (index : ℚ) < job.gpuAllocated →
    ∀ lease, (tick clock timeout plane).leases.find? (gpuName worker.id index) = some lease →
      lease.jobId = jobId → lease.isExpired clock.atCleanup = true

/-- The condition on the plane before the tick: no job with retries left is SCHEDULED on the
worker, and a lease of one of its jobs that is still valid at the clean-up belongs to a RUNNING
job with retries left and lies below the whole part of the job's allocation.
-/
structure Recoverable (clock : TickClock) (plane : Plane) (worker : Worker) : Prop where
  scheduled : ∀ jobId job, AssignedTo plane worker jobId job → job.status = .scheduled →
    job.maxRetries ≤ job.retryCount
  leases : ∀ jobId job, AssignedTo plane worker jobId job →
    ∀ index : ℕ, (index : ℚ) < job.gpuAllocated →
    ∀ lease, plane.leases.find? (gpuName worker.id index) = some lease →
      lease.jobId = jobId → lease.isExpired clock.atCleanup = false →
        job.status = .running ∧ job.retryCount < job.maxRetries
          ∧ (index : ℤ) < ⌊job.gpuAllocated⌋

-- The turn of one job

def afterTurn (clock : TickClock) (workerId : String) (job : Job) : Job :=
  let failed :=
    if job.status = .running then
      { job with
        status := .failed, error := some ("Worker " ++ workerId ++ " died")
        completedAt := some (clock.atFail job.id) }
    else job
  if failed.status = .scheduled ∨ failed.status = .failed then
    if failed.isRetryable then
      { failed with
        status := .pendingRetry, workerId := none, retryCount := failed.retryCount + 1 }
    else { failed with status := .dead }
  else failed

/-- The jobs whose turn ends in a requeue that returns True. -/
def Job.requeues (job : Job) : Bool :=
  decide (job.retryCount < job.maxRetries)
    && (decide (job.status = .running) || decide (job.status = .failed))

theorem afterTurn_requeues (clock : TickClock) (workerId : String)
    (requeues : Job.requeues job = true)
    : (afterTurn clock workerId job).status = .pendingRetry
      ∧ (afterTurn clock workerId job).workerId = none
      ∧ (afterTurn clock workerId job).retryCount = job.retryCount + 1 := by
  simp only [Job.requeues, Bool.and_eq_true, Bool.or_eq_true, decide_eq_true_eq] at requeues
  obtain ⟨room, running | failed⟩ := requeues
  · simp [afterTurn, running, Job.isRetryable, room]
  · simp [afterTurn, failed, Job.isRetryable, room]

theorem afterTurn_dead (clock : TickClock) (workerId : String)
    (unfinished : job.status = .scheduled ∨ job.status = .running)
    (stays : Job.requeues job = false)
    : (afterTurn clock workerId job).status = .dead := by
  rcases unfinished with scheduled | running
  · simp [afterTurn, scheduled, Job.isRetryable]
  · have spent : ¬ job.retryCount < job.maxRetries := by
      simpa [Job.requeues, running] using stays
    simp [afterTurn, running, Job.isRetryable, spent]

theorem afterTurn_worker (clock : TickClock) (workerId : String) (job : Job)
    : (afterTurn clock workerId job).workerId = none
      ∨ (afterTurn clock workerId job).workerId = job.workerId := by
  unfold afterTurn
  by_cases running : job.status = .running
  · simp only [running, if_true, or_true]
    split
    · exact Or.inl rfl
    · exact Or.inr rfl
  · simp only [running, if_false]
    split
    · split
      · exact Or.inl rfl
      · exact Or.inr rfl
    · exact Or.inr rfl

theorem recoverJob_jobs (workerId : String) (plane : Plane) (jobId other : String)
    : (recoverJob clock workerId plane jobId).jobs.get other
      = if other = jobId then (plane.jobs.get other).map (afterTurn clock workerId)
        else plane.jobs.get other := by
  unfold recoverJob
  cases found : plane.jobs.get jobId with
  | none =>
      simp only [found]
      by_cases own : other = jobId
      · simp [own, found]
      · simp [own]
  | some job =>
      have named : job.id = jobId := (Table.find?_some found).2
      by_cases running : job.status = .running
      · simp only [running, if_true, get_fail _ _ found running jobId, or_true]
        have left := get_fail ("Worker " ++ workerId ++ " died") (clock.atFail jobId) found running
          jobId
        rw [if_pos rfl] at left
        obtain ⟨_, requeued⟩ := get_requeue left
        by_cases own : other = jobId
        · subst own
          rw [if_pos rfl, requeued, found]
          simp [afterTurn, running, named]
        · rw [if_neg own, get_requeue_of_ne own, get_fail _ _ found running, if_neg own]
      · simp only [running, if_false, found]
        by_cases waits : job.status = .scheduled ∨ job.status = .failed
        · simp only [waits, if_true]
          obtain ⟨_, requeued⟩ := get_requeue found
          by_cases own : other = jobId
          · subst own
            rw [if_pos rfl, requeued, found]
            simp [afterTurn, running, waits]
          · rw [if_neg own, get_requeue_of_ne own]
        · simp only [waits, if_false]
          by_cases own : other = jobId
          · subst own
            rw [if_pos rfl, found]
            simp [afterTurn, running, waits]
          · rw [if_neg own]

def releasedNames (workerId : String) (job : Job) : List String :=
  (allocatedIndices job.gpuAllocated).map (gpuName workerId)

theorem recoverJob_leases (clock : TickClock) (workerId : String)
    (found : plane.jobs.get jobId = some job) (gpuId : String)
    : (recoverJob clock workerId plane jobId).leases.find? gpuId
      = (plane.leases.find? gpuId).filter (fun lease =>
          ! (Job.requeues job && decide (gpuId ∈ releasedNames workerId job)
            && decide (lease.jobId = jobId))) := by
  have untouched : ∀ {keep : GPULease → Bool}, (∀ lease, keep lease = true) →
      plane.leases.find? gpuId = (plane.leases.find? gpuId).filter keep := by
    intro keep all
    cases plane.leases.find? gpuId with
    | none => rfl
    | some lease => simp [Option.filter, all lease]
  have released := find?_releases plane.leases (releasedNames workerId job) jobId gpuId
  simp only [releasedNames, List.foldl_map] at released
  unfold recoverJob
  by_cases running : job.status = .running
  · have left := get_fail ("Worker " ++ workerId ++ " died") (clock.atFail jobId) found running
      jobId
    rw [if_pos rfl] at left
    obtain ⟨answer, _⟩ := get_requeue left
    simp only [found, running, if_true, left, or_true, answer]
    by_cases room : job.retryCount < job.maxRetries
    · simp only [Job.isRetryable, room, decide_true, beq_self_eq_true, Bool.true_or,
        Bool.and_self, if_true, Job.requeues, running, Bool.true_and, releasedNames]
      exact released
    · simp only [Job.isRetryable, room, decide_false, Bool.false_and, Bool.false_eq_true,
        if_false, Job.requeues, Bool.not_false]
      exact untouched (fun _ => rfl)
  · simp only [found, running, if_false]
    by_cases waits : job.status = .scheduled ∨ job.status = .failed
    · simp only [waits, if_true, (get_requeue found).1]
      rcases waits with scheduled | failed
      · have kept : job.isRetryable = false := by simp [Job.isRetryable, scheduled]
        have stays : Job.requeues job = false := by simp [Job.requeues, scheduled]
        simp only [kept, Bool.false_eq_true, if_false]
        exact untouched (by simp [stays])
      · by_cases room : job.retryCount < job.maxRetries
        · simp only [Job.isRetryable, room, decide_true, failed, beq_self_eq_true, Bool.true_or,
            Bool.and_self, if_true, Job.requeues, Bool.or_true, Bool.true_and, releasedNames]
          exact released
        · simp only [Job.isRetryable, room, decide_false, Bool.false_and, Bool.false_eq_true,
            if_false, Job.requeues, Bool.not_false]
          exact untouched (fun _ => rfl)
    · simp only [waits, if_false]
      have stays : Job.requeues job = false := by
        simp only [not_or] at waits
        simp [Job.requeues, running, waits.2]
      exact untouched (by simp [stays])

-- The turn of one worker

/-- The loop over the jobs gives each listed job one turn, by induction on the list. -/
theorem recoverJobs_jobs (workerId : String) {ids : List String} (distinct : ids.Nodup)
    (plane : Plane) (jobId : String)
    : (ids.foldl (recoverJob clock workerId) plane).jobs.get jobId
      = if jobId ∈ ids then (plane.jobs.get jobId).map (afterTurn clock workerId)
        else plane.jobs.get jobId := by
  induction ids generalizing plane with
  | nil => simp
  | cons first rest ih =>
      obtain ⟨fresh, restDistinct⟩ := List.nodup_cons.mp distinct
      rw [List.foldl_cons, ih restDistinct, recoverJob_jobs]
      by_cases own : jobId = first
      · subst own
        simp [fresh]
      · simp [own]

theorem recoverJob_leases_shrink {workerId : String}
    (left : (recoverJob clock workerId plane jobId).leases.find? gpuId = some lease)
    : plane.leases.find? gpuId = some lease := by
  cases found : plane.jobs.get jobId with
  | none =>
      simp only [recoverJob, found] at left
      exact left
  | some job =>
      rw [recoverJob_leases clock workerId found, Option.filter_eq_some_iff] at left
      exact left.1

/-- The loop over the jobs writes no lease, by induction on the list. -/
theorem recoverJobs_leases_shrink (workerId : String) (ids : List String) {plane : Plane}
    {gpuId : String} {lease : GPULease}
    (left : (ids.foldl (recoverJob clock workerId) plane).leases.find? gpuId = some lease)
    : plane.leases.find? gpuId = some lease := by
  induction ids generalizing plane with
  | nil => exact left
  | cons first rest ih => exact recoverJob_leases_shrink (ih left)

theorem recoverJob_keeps_lease {workerId : String} (held : plane.leases.find? gpuId = some lease)
    (other : lease.jobId ≠ jobId)
    : (recoverJob clock workerId plane jobId).leases.find? gpuId = some lease := by
  cases found : plane.jobs.get jobId with
  | none =>
      simp only [recoverJob, found]
      exact held
  | some job =>
      rw [recoverJob_leases clock workerId found, held]
      simp [Option.filter, other]

/-- The loop keeps the leases of jobs it does not list, by induction on the list. -/
theorem recoverJobs_keep_lease (workerId : String) {ids : List String}
    (held : plane.leases.find? gpuId = some lease) (unlisted : lease.jobId ∉ ids)
    : (ids.foldl (recoverJob clock workerId) plane).leases.find? gpuId = some lease := by
  induction ids generalizing plane with
  | nil => exact held
  | cons first rest ih =>
      obtain ⟨other, restUnlisted⟩ := List.mem_cons.not.mp unlisted |> not_or.mp
      exact ih (recoverJob_keeps_lease held other) restUnlisted

/-- The loop over the jobs releases leases of requeued jobs only, by induction on the list: a job
is unchanged until its own turn.
-/
theorem recoverJobs_leases (workerId : String) {ids : List String} (distinct : ids.Nodup)
    {plane : Plane} {gpuId : String} {lease : GPULease} {job : Job}
    (found : plane.jobs.get lease.jobId = some job)
    (held : plane.leases.find? gpuId = some lease)
    : (ids.foldl (recoverJob clock workerId) plane).leases.find? gpuId
      = if lease.jobId ∈ ids ∧ Job.requeues job = true ∧ gpuId ∈ releasedNames workerId job then none
        else some lease := by
  induction ids generalizing plane with
  | nil => simp [held]
  | cons first rest ih =>
      obtain ⟨fresh, restDistinct⟩ := List.nodup_cons.mp distinct
      rw [List.foldl_cons]
      by_cases own : lease.jobId = first
      · subst own
        have turn := recoverJob_leases clock workerId found gpuId
        rw [held] at turn
        by_cases freed : Job.requeues job = true ∧ gpuId ∈ releasedNames workerId job
        · rw [if_pos ⟨by simp, freed⟩]
          have gone : (recoverJob clock workerId plane lease.jobId).leases.find? gpuId = none := by
            simpa [Option.filter, freed.1, freed.2] using turn
          refine Option.eq_none_iff_forall_ne_some.mpr ?_
          intro other left
          rw [recoverJobs_leases_shrink workerId rest left] at gone
          cases gone
        · rw [if_neg (fun released => freed released.2)]
          have kept : (recoverJob clock workerId plane lease.jobId).leases.find? gpuId
              = some lease := by
            rw [turn]
            simpa [Option.filter] using fun requeues named => freed ⟨requeues, named⟩
          exact recoverJobs_keep_lease workerId kept fresh
      · have same : (recoverJob clock workerId plane first).jobs.get lease.jobId = some job := by
          rw [recoverJob_jobs, if_neg own, found]
        have kept : (recoverJob clock workerId plane first).leases.find? gpuId = some lease :=
          recoverJob_keeps_lease held own
        rw [ih restDistinct same kept]
        simp [own]

theorem listed_ids (store : JobStore) (workerId : String)
    : ((store.listByWorker workerId).map Job.id).Nodup
      ∧ ∀ jobId, jobId ∈ (store.listByWorker workerId).map Job.id
          ↔ ∃ job, store.get jobId = some job ∧ job.workerId = some workerId := by
  refine ⟨store.jobs.unique.sublist (List.filter_sublist.map Job.id), ?_⟩
  intro jobId
  constructor
  · intro listed
    obtain ⟨job, member, rfl⟩ := List.mem_map.mp listed
    obtain ⟨stored, assigned⟩ := List.mem_filter.mp member
    exact ⟨job, Table.find?_of_mem stored, by simpa using assigned⟩
  · intro assigned
    obtain ⟨job, found, worker⟩ := assigned
    obtain ⟨member, rfl⟩ := Table.find?_some found
    exact List.mem_map.mpr ⟨job, List.mem_filter.mpr ⟨member, by simpa using worker⟩, rfl⟩

theorem inspectWorker_jobs (found : plane.jobs.get jobId = some job)
    : (inspectWorker clock timeout plane worker).jobs.get jobId
      = some (if declaresDead clock timeout worker = true ∧ job.workerId = some worker.id then
          afterTurn clock worker.id job else job) := by
  unfold inspectWorker
  by_cases dead : declaresDead clock timeout worker = true
  · obtain ⟨distinct, listed⟩ := listed_ids plane.jobs worker.id
    simp only [dead, if_true, true_and]
    rw [recoverJobs_jobs worker.id distinct]
    by_cases assigned : job.workerId = some worker.id
    · rw [if_pos ((listed jobId).mpr ⟨job, found, assigned⟩), if_pos assigned]
      simp [found]
    · have unlisted : jobId ∉ (plane.jobs.listByWorker worker.id).map Job.id := by
        intro member
        obtain ⟨same, sameFound, worker⟩ := (listed jobId).mp member
        obtain rfl := Option.some.inj (found.symm.trans sameFound)
        exact assigned worker
      rw [if_neg unlisted, if_neg assigned]
      exact found
  · simp [dead, found]

theorem inspectWorker_leases {plane : Plane} (worker : Worker) {gpuId : String}
    {lease : GPULease} {job : Job} (found : plane.jobs.get lease.jobId = some job)
    (held : plane.leases.find? gpuId = some lease)
    : (inspectWorker clock timeout plane worker).leases.find? gpuId
      = if declaresDead clock timeout worker = true ∧ job.workerId = some worker.id
          ∧ Job.requeues job = true ∧ gpuId ∈ releasedNames worker.id job then none
        else some lease := by
  unfold inspectWorker
  by_cases dead : declaresDead clock timeout worker = true
  · obtain ⟨distinct, listed⟩ := listed_ids plane.jobs worker.id
    have turned := @recoverJobs_leases clock worker.id _ distinct
      { plane with registry := plane.registry.markDead worker.id } _ _ _ found held
    simp only [dead, if_true, true_and]
    rw [turned]
    have assigned : lease.jobId ∈ (plane.jobs.listByWorker worker.id).map Job.id
        ↔ job.workerId = some worker.id := by
      rw [listed lease.jobId, found]
      simp
    simp only [assigned]
  · simp [dead, held]

/-- The loop over the workers writes no lease, by induction on the workers. -/
theorem inspectWorkers_leases_shrink (workers : List Worker)
    (left : (workers.foldl (inspectWorker clock timeout) plane).leases.find? gpuId = some lease)
    : plane.leases.find? gpuId = some lease := by
  induction workers generalizing plane with
  | nil => exact left
  | cons worker rest ih =>
      have turned := ih left
      unfold inspectWorker at turned
      split at turned
      · have shrunk := @recoverJobs_leases_shrink clock worker.id _
          { plane with registry := plane.registry.markDead worker.id } _ _ turned
        exact shrunk
      · exact turned

-- The scan of the registry

theorem scan_untouched {workers : List Worker} (found : plane.jobs.get jobId = some job)
    (alive : ∀ worker ∈ workers, declaresDead clock timeout worker = true →
      job.workerId ≠ some worker.id)
    : (workers.foldl (inspectWorker clock timeout) plane).jobs.get jobId = some job
      ∧ ∀ gpuId lease, plane.leases.find? gpuId = some lease → lease.jobId = jobId →
          (workers.foldl (inspectWorker clock timeout) plane).leases.find? gpuId
            = some lease := by
  induction workers generalizing plane with
  | nil => exact ⟨found, fun _ _ held _ => held⟩
  | cons worker rest ih =>
      have skipped : ¬ (declaresDead clock timeout worker = true
          ∧ job.workerId = some worker.id) :=
        fun reached => alive worker (by simp) reached.1 reached.2
      have same : (inspectWorker clock timeout plane worker).jobs.get jobId = some job := by
        rw [inspectWorker_jobs found, if_neg skipped]
      obtain ⟨jobKept, leasesKept⟩ :=
        ih same (fun later member => alive later (List.mem_cons_of_mem _ member))
      refine ⟨jobKept, ?_⟩
      intro gpuId lease held own
      refine leasesKept gpuId lease ?_ own
      subst own
      rw [inspectWorker_leases _ found held, if_neg]
      intro reached
      exact skipped ⟨reached.1, reached.2.1⟩

/-- The scan gives a job of a dead worker one turn. Witness: induction on the workers, whose ids
are distinct; before its worker's turn the job is not reached, and after it its worker field names
no later worker.
-/
theorem scan_reached {workers : List Worker} (distinct : (workers.map Worker.id).Nodup)
    (member : worker ∈ workers) (dead : declaresDead clock timeout worker = true)
    (found : plane.jobs.get jobId = some job) (assigned : job.workerId = some worker.id)
    : (workers.foldl (inspectWorker clock timeout) plane).jobs.get jobId
        = some (afterTurn clock worker.id job)
      ∧ ∀ gpuId lease, plane.leases.find? gpuId = some lease → lease.jobId = jobId →
          (workers.foldl (inspectWorker clock timeout) plane).leases.find? gpuId
            = if Job.requeues job = true ∧ gpuId ∈ releasedNames worker.id job then none
              else some lease := by
  induction workers generalizing plane with
  | nil => simp at member
  | cons first rest ih =>
      rw [List.map_cons, List.nodup_cons] at distinct
      obtain ⟨fresh, restDistinct⟩ := distinct
      rw [List.foldl_cons]
      by_cases own : first.id = worker.id
      · obtain rfl : worker = first := by
          rcases List.mem_cons.mp member with same | later
          · exact same
          · exact absurd (List.mem_map.mpr ⟨worker, later, own.symm⟩) fresh
        have turned : (inspectWorker clock timeout plane worker).jobs.get jobId
            = some (afterTurn clock worker.id job) := by
          rw [inspectWorker_jobs found, if_pos ⟨dead, assigned⟩]
        have alive : ∀ later ∈ rest, declaresDead clock timeout later = true →
            (afterTurn clock worker.id job).workerId ≠ some later.id := by
          intro later laterMember _ same
          rcases afterTurn_worker clock worker.id job with none | kept
          · rw [none] at same
            cases same
          · rw [kept, assigned, Option.some.injEq] at same
            exact fresh (List.mem_map.mpr ⟨later, laterMember, same.symm⟩)
        obtain ⟨jobKept, leasesKept⟩ := scan_untouched turned alive
        refine ⟨jobKept, ?_⟩
        intro gpuId lease held ownLease
        subst ownLease
        have turn := @inspectWorker_leases clock timeout _ worker _ _ _ found held
        simp only [dead, assigned, true_and] at turn
        by_cases freed : Job.requeues job = true ∧ gpuId ∈ releasedNames worker.id job
        · rw [if_pos freed] at turn ⊢
          refine Option.eq_none_iff_forall_ne_some.mpr ?_
          intro other left
          rw [inspectWorkers_leases_shrink rest left] at turn
          cases turn
        · rw [if_neg freed] at turn ⊢
          exact leasesKept gpuId lease turn rfl
      · have later : worker ∈ rest := by
          rcases List.mem_cons.mp member with rfl | later
          · exact absurd rfl own
          · exact later
        have skipped : ¬ job.workerId = some first.id := by
          rw [assigned, Option.some.injEq]
          exact fun same => own same.symm
        have same : (inspectWorker clock timeout plane first).jobs.get jobId = some job := by
          rw [inspectWorker_jobs found, if_neg (fun reached => skipped reached.2)]
        obtain ⟨jobTurned, leasesTurned⟩ := ih restDistinct later same
        refine ⟨jobTurned, ?_⟩
        intro gpuId lease held ownLease
        refine leasesTurned gpuId lease ?_ ownLease
        subst ownLease
        rw [inspectWorker_leases _ found held, if_neg (fun reached => skipped reached.2.1)]

theorem tick_reached (member : worker ∈ plane.registry.rows)
    (dead : declaresDead clock timeout worker = true) (assigned : AssignedTo plane worker jobId job)
    : ∃ after, (tick clock timeout plane).jobs.get jobId = some after
      ∧ (Job.requeues job = true → after.status = .submitted ∧ after.workerId = none
          ∧ after.retryCount = job.retryCount + 1)
      ∧ (Job.requeues job = false → after.status = .dead) := by
  obtain ⟨found, worked, unfinished⟩ := assigned
  obtain ⟨turned, _⟩ := scan_reached plane.registry.unique member dead found worked
  refine ⟨_, by simp only [tick]; rw [get_advancePending, turned, Option.map_some], ?_, ?_⟩
  · intro requeues
    obtain ⟨waiting, free, counted⟩ :=
      afterTurn_requeues clock worker.id requeues
    simp [waiting, free, counted]
  · intro stays
    have buried := afterTurn_dead clock worker.id unfinished stays
    simp [buried]

theorem tick_leases (member : worker ∈ plane.registry.rows)
    (dead : declaresDead clock timeout worker = true) (assigned : AssignedTo plane worker jobId job)
    (held : plane.leases.find? gpuId = some lease) (own : lease.jobId = jobId)
    (live : lease.isExpired clock.atCleanup = false)
    : (tick clock timeout plane).leases.find? gpuId
      = if Job.requeues job = true ∧ gpuId ∈ releasedNames worker.id job then none
        else some lease := by
  obtain ⟨_, leases⟩ :=
    scan_reached plane.registry.unique member dead assigned.1 assigned.2.1
  simp only [tick, LeaseTable.cleanupExpired, Table.find?_keep, leases gpuId lease held own]
  split
  · rfl
  · simp [Option.filter, live]

theorem lease_of_tick (left : (tick clock timeout plane).leases.find? gpuId = some lease)
    : plane.leases.find? gpuId = some lease := by
  simp only [tick, LeaseTable.cleanupExpired, Table.find?_keep, Option.filter_eq_some_iff] at left
  exact inspectWorkers_leases_shrink _ left.1

-- Every tick

/-- For every plane and every worker that a tick declares dead, the tick recovers the worker's
jobs and leases if and only if the plane is recoverable: SCHEDULED jobs have no retries left, and
valid leases belong to RUNNING jobs with retries left, below the whole part of the allocation.
-/
theorem dead_worker_recovery_iff (clock : TickClock) (timeout : ℚ) (plane : Plane)
    (worker : Worker) (member : worker ∈ plane.registry.rows)
    (dead : declaresDead clock timeout worker = true)
    : Recovers clock timeout plane worker ↔ Recoverable clock plane worker := by
  constructor
  · intro recovers
    refine ⟨?_, ?_⟩
    · intro jobId job assigned scheduled
      by_contra room
      rw [not_le] at room
      obtain ⟨after, left, submitted, _⟩ := recovers.retried jobId job assigned room
      obtain ⟨same, sameLeft, _, buried⟩ := tick_reached member dead assigned
      obtain rfl := Option.some.inj (left.symm.trans sameLeft)
      rw [buried (by simp [Job.requeues, scheduled])] at submitted
      cases submitted
    · intro jobId job assigned index below lease held own live
      have released : Job.requeues job = true
          ∧ gpuName worker.id index ∈ releasedNames worker.id job := by
        by_contra kept
        have left := tick_leases member dead assigned held own live
        rw [if_neg kept] at left
        have lapsed := recovers.unleased jobId job assigned index below lease left own
        rw [live] at lapsed
        cases lapsed
      obtain ⟨requeues, named⟩ := released
      obtain ⟨other, listed, same⟩ := List.mem_map.mp named
      obtain rfl := gpuName_index same
      simp only [allocatedIndices, List.mem_range] at listed
      simp only [Job.requeues, Bool.and_eq_true, Bool.or_eq_true, decide_eq_true_eq] at requeues
      obtain ⟨room, running | failed⟩ := requeues
      · exact ⟨running, room, by omega⟩
      · rcases assigned.2.2 with scheduled | running
        · rw [scheduled] at failed
          cases failed
        · rw [running] at failed
          cases failed
  · intro recoverable
    refine ⟨?_, ?_, ?_, ?_⟩
    · intro jobId job assigned room
      obtain ⟨after, left, requeued, _⟩ := tick_reached member dead assigned
      refine ⟨after, left, requeued ?_⟩
      rcases assigned.2.2 with scheduled | running
      · have spent := recoverable.scheduled jobId job assigned scheduled
        omega
      · simp [Job.requeues, running, room]
    · intro jobId job assigned spent
      obtain ⟨after, left, _, buried⟩ := tick_reached member dead assigned
      exact ⟨after, left, buried (by simp [Job.requeues, not_lt.mpr spent])⟩
    · intro jobId job found alive settled
      obtain ⟨kept, _⟩ := scan_untouched found alive
      refine ⟨job, ?_, rfl⟩
      simp only [tick]
      rw [get_advancePending, kept, Option.map_some, if_neg settled]
    · intro jobId job assigned index below lease left own
      by_contra live
      rw [Bool.not_eq_true] at live
      have held := lease_of_tick left
      obtain ⟨running, room, whole⟩ :=
        recoverable.leases jobId job assigned index below lease held own live
      have gone := tick_leases member dead assigned held own live
      have named : gpuName worker.id index ∈ releasedNames worker.id job := by
        refine List.mem_map.mpr ⟨index, ?_, rfl⟩
        simp only [allocatedIndices, List.mem_range]
        omega
      rw [if_pos ⟨by simp [Job.requeues, running, room], named⟩, left] at gone
      cases gone

/-- A worker that was last heard of at time zero. -/
def silentWorker : Worker := { id := "w", status := .healthy, lastHeartbeat := 0 }

/-- A tick after a hundred seconds. -/
def lateTick : TickClock := { atWorker := fun _ => 100, atFail := fun _ => 100, atCleanup := 100 }

/-- One job of the silent worker, scheduled and not started. -/
def scheduledStore : JobStore :=
  ((JobStore.fresh.submit "ab12cd34" "inference" 1 3600 3).2.schedule
    "job-00001-ab12cd34" "w" 0).2

def silentPlane (jobs : JobStore) : Plane :=
  { registry := ⟨[silentWorker], by simp⟩, jobs, leases := Table.empty }

/-- The started job is recovered. -/
theorem running_job_recovered
    : silentWorker ∈ (silentPlane (scheduledStore.start "job-00001-ab12cd34" 1).2).registry.rows
      ∧ declaresDead lateTick 15 silentWorker = true
      ∧ Recovers lateTick 15 (silentPlane (scheduledStore.start "job-00001-ab12cd34" 1).2)
          silentWorker := by
  have member : silentWorker
      ∈ (silentPlane (scheduledStore.start "job-00001-ab12cd34" 1).2).registry.rows := by
    simp [silentPlane]
  have dead : declaresDead lateTick 15 silentWorker = true := by decide +kernel
  refine ⟨member, dead, (dead_worker_recovery_iff _ _ _ _ member dead).mpr ⟨?_, ?_⟩⟩
  · intro jobId job assigned scheduled
    have rows : (scheduledStore.start "job-00001-ab12cd34" 1).2.jobs.rows
        = [{ id := "job-00001-ab12cd34", plugin := "inference", status := .running,
             workerId := some "w", gpuAllocated := 1, scheduledAt := some 0,
             startedAt := some 1 }] := by
      decide +kernel
    have stored := (Table.find?_some assigned.1).1
    simp only [silentPlane, rows, List.mem_singleton] at stored
    rw [stored] at scheduled
    cases scheduled
  · intro jobId job assigned index below lease held
    simp [silentPlane] at held

/-- The job that was scheduled and had three retries left is DEAD after the tick. -/
theorem scheduled_job_lost
    : silentWorker ∈ (silentPlane scheduledStore).registry.rows
      ∧ declaresDead lateTick 15 silentWorker = true
      ∧ ¬ Recovers lateTick 15 (silentPlane scheduledStore) silentWorker := by
  refine ⟨by simp [silentPlane], by decide +kernel, ?_⟩
  intro recovers
  obtain ⟨after, left, submitted, _⟩ := recovers.retried "job-00001-ab12cd34"
    { id := "job-00001-ab12cd34", plugin := "inference", status := .scheduled,
      workerId := some "w", gpuAllocated := 1, scheduledAt := some 0 }
    ⟨by decide +kernel, rfl, Or.inl rfl⟩ (by decide)
  have lost : (tick lateTick 15 (silentPlane scheduledStore)).jobs.get "job-00001-ab12cd34"
      = some { id := "job-00001-ab12cd34", plugin := "inference", status := .dead,
               workerId := some "w", gpuAllocated := 1, scheduledAt := some 0 } := by
    decide +kernel
  obtain rfl := Option.some.inj (left.symm.trans lost)
  cases submitted

end RomaBridge.Properties
