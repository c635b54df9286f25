import RomaBridge.Model.WorkerLoop
import RomaBridge.Properties.LockExclusion
import RomaBridge.Properties.RetryFinality

/-! Conservation of jobs by the worker loop. An iteration takes an id off a queue before it looks
for a worker, so a job that finds none is gone from that queue, and it reports a failed execution
with an argument that `handle_failure` cannot read, so every raising executor ends it with an
exception.
-/

namespace RomaBridge.Properties

open RomaBridge.Foundation RomaBridge.Model.Retries RomaBridge.Model.GpuLocks
open RomaBridge.Model.WorkerLoop
open RomaBridge.Model (PyValue PyDict)

variable {executor : PyDict → Option PyValue} {checked stored : ℤ} {loop : ROMAWorkerLoop}
  {job : Job}

-- Where a job can be

def namedId : QueueItem → Option String
  | .key (.text jobId) => some jobId
  | .dict (some (.text jobId)) => some jobId
  | _ => none

def StillNamed (loop : ROMAWorkerLoop) (jobId : String) : Prop :=
  jobId ∈ loop.retryMgr.retryQueue ∨ ∃ item ∈ loop.jobQueue, namedId item = some jobId

/-- The workers that have the VRAM that the job asks for; `none` is a `TypeError`. -/
def workersFor (loop : ROMAWorkerLoop) (job : Job) : Option (List WorkerStatus) :=
  loop.registry.getAvailableWorkers (job.payload.getOr "gpu_memory_gb" (.float 4))

/-- The first such worker, when its lock can be acquired. -/
def Available (checked : ℤ) (loop : ROMAWorkerLoop) (job : Job) : Prop :=
  ∃ worker others, workersFor loop job = some (worker :: others)
    ∧ ∀ lock, loop.lockMgr.locks.find? worker.workerId = some lock →
      lock.youngerThan loop.lockMgr.defaultTtl checked = false

/-- The situations a dequeued job may be in after an iteration. -/
inductive Situation where
  | committed
  | retrying
  | failed
  | queued

def Situation.Holds (executor : PyDict → Option PyValue) (checked : ℤ)
    (before : ROMAWorkerLoop) (job : Job) (after : ROMAWorkerLoop)
    : Situation → Prop
  | .committed =>
      ∃ kept, after.retryMgr.getJob job.jobId = some kept ∧ kept.state = .committed
        ∧ ∃ output, executor job.payload = some output ∧ kept.result = some output
  | .retrying =>
      ∃ kept, after.retryMgr.getJob job.jobId = some kept ∧ kept.state = .retrying
        ∧ kept.retries = job.retries + 1 ∧ job.jobId ∈ after.retryMgr.retryQueue
  | .failed =>
      ∃ kept, after.retryMgr.getJob job.jobId = some kept ∧ kept.state = .failed
        ∧ kept.maxRetries ≤ kept.retries
  | .queued =>
      ¬ Available checked before job ∧ StillNamed after job.jobId
        ∧ ∃ kept, after.retryMgr.getJob job.jobId = some kept ∧ kept.retries = job.retries
          ∧ kept.state ≠ .committed ∧ kept.state ≠ .failed

def LosesNoJob (executor : PyDict → Option PyValue) (checked stored : ℤ) (loop : ROMAWorkerLoop)
    : Prop :=
  (∃ processed, (loop.runIteration executor checked stored).1 = .returned processed)
  ∧ ∀ item ∈ loop.dequeue.taken, ∀ jobId, namedId item = some jobId →
      ∀ job, loop.retryMgr.getJob jobId = some job →
        ∃! situation : Situation,
          situation.Holds executor checked loop job (loop.runIteration executor checked stored).2

-- When none is lost

/-- A job that is not executed is not lost: it is committed with the executor's output or failed for
good already, or it found no worker and another entry of the queues names it.
-/
def SparedJob (executor : PyDict → Option PyValue) (checked : ℤ) (loop : ROMAWorkerLoop) (job : Job)
    : Prop :=
  (job.state = .committed ∧ ∃ output, executor job.payload = some output
    ∧ job.result = some output)
  ∨ (job.state = .failed ∧ job.maxRetries ≤ job.retries)
  ∨ (job.state ≠ .committed ∧ job.state ≠ .failed ∧ ¬ Available checked loop job
    ∧ StillNamed loop.dequeue.loop job.jobId)

/-- The iteration looks for a job under hashable keys only, the VRAM that the job asks for compares
with that of the workers, the executor does not raise if there is a worker, and every other job
that is taken off a queue is spared.
-/
structure Workable (executor : PyDict → Option PyValue) (checked : ℤ) (loop : ROMAWorkerLoop)
    : Prop where
  hashable : loop.dequeue.lookup ≠ .raised
  comparable : ∀ job, loop.dequeue.lookup = .found job → workersFor loop job ≠ none
  executes : ∀ job, loop.dequeue.lookup = .found job → Available checked loop job →
    executor job.payload ≠ none
  spared : ∀ item ∈ loop.dequeue.taken, ∀ jobId, namedId item = some jobId →
    ∀ job, loop.retryMgr.getJob jobId = some job →
      (loop.dequeue.lookup = .found job ∧ Available checked loop job)
      ∨ SparedJob executor checked loop job

-- The search for a job

/-- The search takes entries off the queues and changes nothing else. -/
structure SearchKeeps (loop found : ROMAWorkerLoop) : Prop where
  jobs : found.retryMgr.jobs = loop.retryMgr.jobs
  registry : found.registry = loop.registry
  lockMgr : found.lockMgr = loop.lockMgr

theorem lookupKey_found {manager : JobRetryManager} {key : PyKey}
    (found : lookupKey manager key = .found job)
    : manager.getJob job.jobId = some job := by
  cases key with
  | text jobId =>
      unfold lookupKey at found
      cases known : manager.getJob jobId with
      | none => simp [known] at found
      | some stored =>
          simp only [known, Lookup.found.injEq] at found
          subst found
          rw [(Table.find?_some known).2]
          exact known
  | hashable truthy => cases found
  | unhashable truthy => cases found

/-- What a search may leave and find. -/
def SearchSpec (loop : ROMAWorkerLoop) (result : Dequeued) : Prop :=
  SearchKeeps loop result.loop
  ∧ ∀ job, result.lookup = .found job → loop.retryMgr.getJob job.jobId = some job

theorem dequeueRaw_spec (loop : ROMAWorkerLoop) (first : QueueItem)
    : SearchSpec loop (loop.dequeueRaw first) := by
  unfold ROMAWorkerLoop.dequeueRaw
  cases loop.jobQueue with
  | nil => exact ⟨⟨rfl, rfl, rfl⟩, fun job found => by cases found⟩
  | cons raw rest =>
      cases raw with
      | key value => exact ⟨⟨rfl, rfl, rfl⟩, fun job found => by cases found⟩
      | dict id =>
          cases id with
          | none => exact ⟨⟨rfl, rfl, rfl⟩, fun job found => by cases found⟩
          | some key =>
              refine ⟨⟨rfl, rfl, rfl⟩, ?_⟩
              intro job found
              simp only at found
              split at found
              · exact lookupKey_found found
              · cases found

theorem dequeueFirst_spec (loop : ROMAWorkerLoop) (first : QueueItem)
    : SearchSpec loop (loop.dequeueFirst first) := by
  unfold ROMAWorkerLoop.dequeueFirst
  cases first with
  | dict id => exact ⟨⟨rfl, rfl, rfl⟩, fun job found => by cases found⟩
  | key key =>
      simp only
      split
      · exact dequeueRaw_spec loop _
      · exact ⟨⟨rfl, rfl, rfl⟩, fun job found => lookupKey_found found⟩

theorem dequeueMain_spec (loop : ROMAWorkerLoop) : SearchSpec loop loop.dequeueMain := by
  unfold ROMAWorkerLoop.dequeueMain
  cases loop.jobQueue with
  | nil => exact ⟨⟨rfl, rfl, rfl⟩, fun job found => by cases found⟩
  | cons item rest =>
      obtain ⟨⟨jobs, registry, lockMgr⟩, known⟩ :=
        dequeueFirst_spec { loop with jobQueue := rest } item
      exact ⟨⟨jobs, registry, lockMgr⟩, known⟩

theorem dequeue_spec (loop : ROMAWorkerLoop) : SearchSpec loop loop.dequeue := by
  unfold ROMAWorkerLoop.dequeue JobRetryManager.getNextRetry
  cases loop.retryMgr.retryQueue with
  | nil => exact dequeueMain_spec loop
  | cons jobId rest =>
      simp only [List.head?_cons, List.tail_cons]
      split
      · obtain ⟨⟨jobs, registry, lockMgr⟩, known⟩ := dequeueMain_spec
          { loop with retryMgr := { loop.retryMgr with retryQueue := rest } }
        exact ⟨⟨jobs, registry, lockMgr⟩, known⟩
      · obtain ⟨⟨jobs, registry, lockMgr⟩, known⟩ := dequeueFirst_spec
          { loop with retryMgr := { loop.retryMgr with retryQueue := rest } } (.key (.text jobId))
        exact ⟨⟨jobs, registry, lockMgr⟩, known⟩

theorem SearchKeeps.workersFor {found : ROMAWorkerLoop} (keeps : SearchKeeps loop found)
    (job : Job)
    : workersFor found job = RomaBridge.Properties.workersFor loop job := by
  unfold RomaBridge.Properties.workersFor
  rw [keeps.registry]

theorem SearchKeeps.available {found : ROMAWorkerLoop} (keeps : SearchKeeps loop found)
    (job : Job)
    : Available checked found job ↔ Available checked loop job := by
  unfold Available
  rw [keeps.workersFor job, keeps.lockMgr]

theorem SearchKeeps.getJob {found : ROMAWorkerLoop} (keeps : SearchKeeps loop found)
    (jobId : String)
    : found.retryMgr.getJob jobId = loop.retryMgr.getJob jobId := by
  unfold JobRetryManager.getJob
  rw [keeps.jobs]

-- The work on a job

theorem workersFor_nil (none_ : loop.registry.rows = []) : workersFor loop job = some [] := by
  unfold workersFor WorkerRegistry.getAvailableWorkers
  cases asNumber (job.payload.getOr "gpu_memory_gb" (.float 4)) <;> simp [none_]

theorem acquire_reply_iff (manager : GPULockManager) (gpuId jobId : String)
    (checked stored : ℤ)
    : (lockStep manager (.acquire gpuId jobId none checked stored)).1 = .acquired true
      ↔ ∀ lock, manager.locks.find? gpuId = some lock →
        lock.youngerThan manager.defaultTtl checked = false := by
  rw [lockStep_acquire_reply]
  cases manager.locks.find? gpuId with
  | none => simp
  | some lock => simp [GPULockManager.ttlOrDefault]

theorem process_cases (executor : PyDict → Option PyValue) (checked stored : ℤ)
    (loop : ROMAWorkerLoop) (job : Job)
    : (workersFor loop job = none ∧ (loop.process executor checked stored job).1 = .raised)
      ∨ (workersFor loop job ≠ none ∧ ¬ Available checked loop job
        ∧ ∃ lockMgr, loop.process executor checked stored job
          = (.returned false, { loop with lockMgr := lockMgr }))
      ∨ (workersFor loop job ≠ none ∧ Available checked loop job
        ∧ ∃ lockMgr workerId, loop.process executor checked stored job
          = ROMAWorkerLoop.execute executor { loop with lockMgr := lockMgr } job workerId) := by
  unfold ROMAWorkerLoop.process
  split
  · rename_i nobody
    refine .inr (.inl ⟨by simp [workersFor_nil nobody], ?_, loop.lockMgr, rfl⟩)
    intro ⟨worker, others, chosen, _⟩
    rw [workersFor_nil nobody] at chosen
    cases chosen
  · cases workers : workersFor loop job with
    | none =>
        unfold workersFor at workers
        rw [workers]
        exact .inl ⟨rfl, rfl⟩
    | some list =>
        cases list with
        | nil =>
            have same := workers
            unfold workersFor at same
            rw [same]
            refine .inr (.inl ⟨by simp, ?_, loop.lockMgr, rfl⟩)
            intro ⟨worker, others, chosen, _⟩
            rw [workers] at chosen
            cases chosen
        | cons worker others =>
            have same := workers
            unfold workersFor at same
            rw [same]
            have reply := acquire_reply_iff loop.lockMgr worker.workerId job.jobId checked stored
            simp only
            cases acquired : lockStep loop.lockMgr
                (.acquire worker.workerId job.jobId none checked stored) with
            | mk answer lockMgr =>
                rw [acquired] at reply
                by_cases success : answer = .acquired true
                · subst success
                  exact .inr (.inr ⟨by simp, ⟨worker, others, workers, reply.mp rfl⟩, lockMgr,
                    worker.workerId, rfl⟩)
                · refine .inr (.inl ⟨by simp, ?_, lockMgr, ?_⟩)
                  · intro ⟨first, rest, chosen, free⟩
                    obtain ⟨rfl, rfl⟩ := List.cons.inj (Option.some.inj (workers.symm.trans chosen))
                    exact success (reply.mpr free)
                  · split
                    · rename_i same
                      cases same
                      exact absurd rfl success
                    · rename_i same
                      cases same
                      rfl

theorem execute_raises (workerId : String) (raises : executor job.payload = none)
    : (loop.execute executor job workerId).1 = .raised := by
  simp [ROMAWorkerLoop.execute, ROMAWorkerLoop.executeDocker, raises]

theorem markRunning_getJob {manager : JobRetryManager}
    (known : manager.getJob job.jobId = some job)
    : ∃ running, (manager.markRunning job.jobId).2.getJob job.jobId = some running
      ∧ running.jobId = job.jobId := by
  unfold JobRetryManager.markRunning
  rw [known]
  simp only
  split
  · exact ⟨job, known, rfl⟩
  · exact ⟨{ job with state := .running }, by simp, rfl⟩

theorem markRunning_keeps (manager : JobRetryManager) (jobId : String)
    : (manager.markRunning jobId).2.retryQueue = manager.retryQueue
      ∧ ∀ other, other ≠ jobId →
        (manager.markRunning jobId).2.getJob other = manager.getJob other := by
  unfold JobRetryManager.markRunning
  cases known : manager.getJob jobId with
  | none => exact ⟨rfl, fun _ _ => rfl⟩
  | some job =>
      have sameId := jobId_of_getJob known
      simp only
      split
      · exact ⟨rfl, fun _ _ => rfl⟩
      · refine ⟨rfl, ?_⟩
        intro other different
        rw [getJob_putJob, if_neg]
        exact fun same => different (same.symm.trans sameId)

theorem execute_commits (loop : ROMAWorkerLoop) {output : PyValue} (workerId : String)
    (known : loop.retryMgr.getJob job.jobId = some job)
    (returns : executor job.payload = some output)
    : (loop.execute executor job workerId).1 = .returned true
      ∧ (loop.execute executor job workerId).2.jobQueue = loop.jobQueue
      ∧ (loop.execute executor job workerId).2.retryMgr.retryQueue = loop.retryMgr.retryQueue
      ∧ (∃ kept, (loop.execute executor job workerId).2.retryMgr.getJob job.jobId = some kept
        ∧ kept.state = .committed ∧ kept.result = some output)
      ∧ ∀ other, other ≠ job.jobId →
        (loop.execute executor job workerId).2.retryMgr.getJob other
          = loop.retryMgr.getJob other := by
  obtain ⟨running, marked, sameId⟩ := markRunning_getJob known
  obtain ⟨queue, others⟩ := markRunning_keeps loop.retryMgr job.jobId
  have completed : ((loop.retryMgr.markRunning job.jobId).2.markCompleted job.jobId output).2
      = (loop.retryMgr.markRunning job.jobId).2.putJob
          { running with state := .completed, result := some output } := by
    simp [JobRetryManager.markCompleted, marked]
  have committed : (((loop.retryMgr.markRunning job.jobId).2.markCompleted job.jobId output).2
        |>.markCommitted job.jobId).2
      = ((loop.retryMgr.markRunning job.jobId).2.putJob
          { running with state := .completed, result := some output }).putJob
          { running with state := .committed, result := some output } := by
    rw [completed]
    simp [JobRetryManager.markCommitted, sameId]
  have manager : (loop.execute executor job workerId).2.retryMgr
      = ((loop.retryMgr.markRunning job.jobId).2.putJob
          { running with state := .completed, result := some output }).putJob
          { running with state := .committed, result := some output } := by
    rw [← committed]
    simp [ROMAWorkerLoop.execute, ROMAWorkerLoop.executeDocker, returns, ROMAWorkerLoop.finish,
      ROMAWorkerLoop.commit, ROMAWorkerLoop.begin]
  refine ⟨?_, ?_, ?_, ?_, ?_⟩
  · simp [ROMAWorkerLoop.execute, ROMAWorkerLoop.executeDocker, returns]
  · simp [ROMAWorkerLoop.execute, ROMAWorkerLoop.executeDocker, returns, ROMAWorkerLoop.finish,
      ROMAWorkerLoop.commit, ROMAWorkerLoop.begin]
  · rw [manager]
    exact queue
  · rw [manager]
    exact ⟨_, by rw [getJob_putJob, if_pos sameId], rfl, rfl⟩
  · intro other different
    rw [manager, getJob_putJob, if_neg, getJob_putJob, if_neg]
    · exact others other different
    · exact fun same => different (same.symm.trans sameId)
    · exact fun same => different (same.symm.trans sameId)

-- One iteration

/-- What an iteration does with the job it looked for: it raises, leaves everything but the queues
and the locks, or commits an available job with its output.
-/
theorem runIteration_cases (executor : PyDict → Option PyValue) (checked stored : ℤ)
    (loop : ROMAWorkerLoop)
    : ((loop.runIteration executor checked stored).1 = .raised
        ∧ (loop.dequeue.lookup = .raised
          ∨ ∃ job, loop.dequeue.lookup = .found job
            ∧ (workersFor loop job = none
              ∨ Available checked loop job ∧ executor job.payload = none)))
      ∨ ((loop.runIteration executor checked stored).1 = .returned false
        ∧ (loop.runIteration executor checked stored).2.retryMgr = loop.dequeue.loop.retryMgr
        ∧ (loop.runIteration executor checked stored).2.jobQueue = loop.dequeue.loop.jobQueue
        ∧ (loop.dequeue.lookup = .missing
          ∨ ∃ job, loop.dequeue.lookup = .found job ∧ workersFor loop job ≠ none
            ∧ ¬ Available checked loop job))
      ∨ ∃ job output workerId lockMgr, loop.dequeue.lookup = .found job
        ∧ Available checked loop job ∧ executor job.payload = some output
        ∧ workersFor loop job ≠ none
        ∧ loop.runIteration executor checked stored
          = ROMAWorkerLoop.execute executor { loop.dequeue.loop with lockMgr := lockMgr } job
            workerId := by
  obtain ⟨keeps, _⟩ := dequeue_spec loop
  unfold ROMAWorkerLoop.runIteration
  cases answer : loop.dequeue.lookup with
  | raised => exact .inl ⟨rfl, .inl rfl⟩
  | missing => exact .inr (.inl ⟨rfl, rfl, rfl, .inl rfl⟩)
  | found job =>
      simp only
      rcases process_cases executor checked stored loop.dequeue.loop job with
        ⟨vain, raised⟩ | ⟨compared, nobody, lockMgr, result⟩
        | ⟨compared, somebody, lockMgr, workerId, result⟩
      · rw [keeps.workersFor] at vain
        exact .inl ⟨raised, .inr ⟨job, rfl, .inl vain⟩⟩
      · rw [keeps.workersFor] at compared
        rw [keeps.available] at nobody
        rw [result]
        exact .inr (.inl ⟨rfl, rfl, rfl, .inr ⟨job, rfl, compared, nobody⟩⟩)
      · rw [keeps.workersFor] at compared
        rw [keeps.available] at somebody
        cases outcome : executor job.payload with
        | none =>
            refine .inl ⟨?_, .inr ⟨job, rfl, .inr ⟨somebody, outcome⟩⟩⟩
            rw [result]
            exact execute_raises workerId outcome
        | some output =>
            exact .inr (.inr ⟨job, output, workerId, lockMgr, rfl, somebody, outcome, compared,
              result⟩)

theorem situation_of_unchanged {after : ROMAWorkerLoop}
    (unchanged : after.retryMgr.getJob job.jobId = some job)
    (named : StillNamed after job.jobId ↔ StillNamed loop.dequeue.loop job.jobId)
    : (∃! situation : Situation, situation.Holds executor checked loop job after)
      ↔ SparedJob executor checked loop job := by
  have committed : Situation.Holds executor checked loop job after .committed
      ↔ job.state = .committed ∧ ∃ output, executor job.payload = some output
        ∧ job.result = some output := by
    simp [Situation.Holds, unchanged]
  have retrying : ¬ Situation.Holds executor checked loop job after .retrying := by
    simp [Situation.Holds, unchanged]
  have failed : Situation.Holds executor checked loop job after .failed
      ↔ job.state = .failed ∧ job.maxRetries ≤ job.retries := by
    simp [Situation.Holds, unchanged]
  have queued : Situation.Holds executor checked loop job after .queued
      ↔ job.state ≠ .committed ∧ job.state ≠ .failed ∧ ¬ Available checked loop job
        ∧ StillNamed loop.dequeue.loop job.jobId := by
    simp only [Situation.Holds, unchanged, Option.some.injEq, exists_eq_left', named, true_and]
    tauto
  constructor
  · intro ⟨situation, holds, _⟩
    cases situation with
    | committed => exact .inl (committed.mp holds)
    | retrying => exact absurd holds retrying
    | failed => exact .inr (.inl (failed.mp holds))
    | queued => exact .inr (.inr (queued.mp holds))
  · intro spared
    rcases spared with already | forGood | waits
    · refine ⟨.committed, committed.mpr already, ?_⟩
      intro other holds
      cases other with
      | committed => rfl
      | retrying => exact absurd holds retrying
      | failed => cases already.1.symm.trans (failed.mp holds).1
      | queued => exact absurd already.1 (queued.mp holds).1
    · refine ⟨.failed, failed.mpr forGood, ?_⟩
      intro other holds
      cases other with
      | committed => cases forGood.1.symm.trans (committed.mp holds).1
      | retrying => exact absurd holds retrying
      | failed => rfl
      | queued => exact absurd forGood.1 (queued.mp holds).2.1
    · refine ⟨.queued, queued.mpr waits, ?_⟩
      intro other holds
      cases other with
      | committed => exact absurd (committed.mp holds).1 waits.1
      | retrying => exact absurd holds retrying
      | failed => exact absurd (failed.mp holds).1 waits.2.1
      | queued => rfl

theorem situation_of_committed {after : ROMAWorkerLoop} {kept : Job} {output : PyValue}
    (found : after.retryMgr.getJob job.jobId = some kept) (state : kept.state = .committed)
    (returns : executor job.payload = some output) (result : kept.result = some output)
    : ∃! situation : Situation, situation.Holds executor checked loop job after := by
  refine ⟨.committed, ⟨kept, found, state, output, returns, result⟩, ?_⟩
  intro other holds
  cases other with
  | committed => rfl
  | retrying =>
      obtain ⟨stored, storedFound, retrying, _⟩ := holds
      cases found.symm.trans storedFound
      cases state.symm.trans retrying
  | failed =>
      obtain ⟨stored, storedFound, failed, _⟩ := holds
      cases found.symm.trans storedFound
      cases state.symm.trans failed
  | queued =>
      obtain ⟨_, _, stored, storedFound, _, uncommitted, _⟩ := holds
      cases found.symm.trans storedFound
      exact absurd state uncommitted

/-- An iteration loses no job exactly when its queues, workers, locks and executor let it work. -/
theorem losesNoJob_iff (executor : PyDict → Option PyValue) (checked stored : ℤ)
    (loop : ROMAWorkerLoop)
    : LosesNoJob executor checked stored loop ↔ Workable executor checked loop := by
  obtain ⟨keeps, foundKnown⟩ := dequeue_spec loop
  rcases runIteration_cases executor checked stored loop with
    ⟨raised, cause⟩ | ⟨returned, manager, queue, cause⟩
    | ⟨job, output, workerId, lockMgr, answer, somebody, outcome, compared, result⟩
  · -- An exception, which the condition excludes.
    constructor
    · intro ⟨⟨processed, returned⟩, _⟩
      cases raised.symm.trans returned
    · intro workable
      rcases cause with unhashable | ⟨job, answer, vain | ⟨somebody, raises⟩⟩
      · exact absurd unhashable workable.hashable
      · exact absurd vain (workable.comparable job answer)
      · exact absurd raises (workable.executes job answer somebody)
  · -- No job is executed, so every one that was taken is as it was.
    have named : ∀ jobId, StillNamed (loop.runIteration executor checked stored).2 jobId
        ↔ StillNamed loop.dequeue.loop jobId := by
      intro jobId
      unfold StillNamed
      rw [manager, queue]
    have unchanged : ∀ jobId job, loop.retryMgr.getJob jobId = some job →
        (loop.runIteration executor checked stored).2.retryMgr.getJob job.jobId = some job := by
      intro jobId job known
      rw [manager, keeps.getJob, jobId_of_getJob known]
      exact known
    have nobody : ∀ job, loop.dequeue.lookup = .found job →
        workersFor loop job ≠ none ∧ ¬ Available checked loop job := by
      intro job answer
      rcases cause with missing | ⟨found, found_, rest⟩
      · cases missing.symm.trans answer
      · cases found_.symm.trans answer
        exact rest
    constructor
    · intro ⟨_, situated⟩
      refine ⟨?_, fun job answer => (nobody job answer).1, ?_, ?_⟩
      · intro unhashable
        rcases cause with missing | ⟨found, answer, _⟩
        · cases missing.symm.trans unhashable
        · cases answer.symm.trans unhashable
      · intro job answer somebody
        exact absurd somebody (nobody job answer).2
      · intro item member jobId names job known
        exact .inr ((situation_of_unchanged (unchanged jobId job known) (named _)).mp
          (situated item member jobId names job known))
    · intro workable
      refine ⟨⟨false, returned⟩, ?_⟩
      intro item member jobId names job known
      rcases workable.spared item member jobId names job known with ⟨answer, somebody⟩ | spared
      · exact absurd somebody (nobody job answer).2
      · exact (situation_of_unchanged (unchanged jobId job known) (named _)).mpr spared
  · -- One job is committed; any other that was taken is as it was.
    have stored_ := foundKnown job answer
    obtain ⟨returned, queue, retries, ⟨kept, keptFound, committed, stored_⟩, others⟩ :=
      execute_commits { loop.dequeue.loop with lockMgr := lockMgr } workerId
        ((keeps.getJob job.jobId).trans stored_) outcome
    rw [← result] at returned queue retries keptFound others
    have named : ∀ jobId, StillNamed (loop.runIteration executor checked stored).2 jobId
        ↔ StillNamed loop.dequeue.loop jobId := by
      intro jobId
      unfold StillNamed
      rw [retries, queue]
    have situated_iff : ∀ jobId other, loop.retryMgr.getJob jobId = some other →
        ((∃! situation : Situation, situation.Holds executor checked loop other
            (loop.runIteration executor checked stored).2)
          ↔ (loop.dequeue.lookup = .found other ∧ Available checked loop other)
            ∨ SparedJob executor checked loop other) := by
      intro jobId other known
      have ownId := jobId_of_getJob known
      by_cases same : jobId = job.jobId
      · subst same
        cases (foundKnown job answer).symm.trans known
        constructor
        · exact fun _ => .inl ⟨answer, somebody⟩
        · exact fun _ => situation_of_committed keptFound committed outcome stored_
      · have unchanged : (loop.runIteration executor checked stored).2.retryMgr.getJob
            other.jobId = some other := by
          rw [others other.jobId (fun equal => same (ownId.symm.trans equal)), ownId]
          exact (keeps.getJob jobId).trans known
        rw [situation_of_unchanged unchanged (named _)]
        constructor
        · exact .inr
        · intro spared
          rcases spared with ⟨executed, _⟩ | spared
          · cases answer.symm.trans executed
            exact absurd ownId.symm same
          · exact spared
    constructor
    · intro ⟨_, situated⟩
      refine ⟨by simp [answer], ?_, ?_, ?_⟩
      · intro found answered
        cases answer.symm.trans answered
        exact compared
      · intro found answered _ raises
        cases answer.symm.trans answered
        cases outcome.symm.trans raises
      · intro item member jobId names other known
        exact (situated_iff jobId other known).mp (situated item member jobId names other known)
    · intro workable
      refine ⟨⟨true, returned⟩, ?_⟩
      intro item member jobId names other known
      exact (situated_iff jobId other known).mpr
        (workable.spared item member jobId names other known)

-- A job that is lost

def oneJobLoop (registry : WorkerRegistry) : ROMAWorkerLoop where
  jobQueue := []
  lockMgr := newLockManager 3600
  retryMgr := (newRetryManager 3 (fun retries => some (2 ^ retries))).enqueue "inference"
    (fun _ => none) (some "job-1") none ""
  registry := registry

def oneWorker : WorkerRegistry :=
  Table.put Table.empty ⟨"worker-1", 0, 8, "healthy", 0, 0, none⟩

/-- A raising executor ends the iteration with an exception, and without any worker the job is in no
queue afterwards.
-/
theorem worker_loop_loses_jobs
    : ¬ LosesNoJob (fun _ => none) 0 0 (oneJobLoop oneWorker)
      ∧ ¬ LosesNoJob (fun _ => some .none) 0 0 (oneJobLoop Table.empty) := by
  refine ⟨?_, ?_⟩
  · intro ⟨⟨processed, returned⟩, _⟩
    have raised : ((oneJobLoop oneWorker).runIteration (fun _ => none) 0 0).1 = .raised := by
      decide +kernel
    cases raised.symm.trans returned
  · rw [losesNoJob_iff]
    intro workable
    rcases workable.spared (.key (.text "job-1")) List.mem_cons_self "job-1" rfl _ rfl with
      ⟨_, worker, others, chosen, _⟩ | ⟨committed, _⟩ | ⟨failed, _⟩ | ⟨_, _, _, queued⟩
    · cases chosen
    · cases committed
    · cases failed
    · rcases queued with again | ⟨item, again, _⟩
      · cases again
      · cases again

end RomaBridge.Properties
