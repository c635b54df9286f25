import RomaBridge.Model.RetrySystem

/-! Retried jobs. Only `mark_running` and `mark_committed` look at the state of a job, so that jobs are
final as long as the other calls are made in time. In the fast service a job is due a delay after its
latest failure, up to the last delay; a failure after that leaves the old time. Its cleanup reads a
key that no entry has.
-/

namespace RomaBridge.Properties

open RomaBridge.Foundation RomaBridge.Model.Retries
open RomaBridge.Model (PyValue PyDict)

-- What is asked of the manager

def JobState.isFinal (state : JobState) : Prop := state = .committed ∨ state = .failed

def JobState.isDone (state : JobState) : Prop := state = .completed ∨ JobState.isFinal state

def FinalKept (earlier later : JobRetryManager) : Prop :=
  ∀ jobId job, earlier.getJob jobId = some job → JobState.isFinal job.state →
    ∃ kept, later.getJob jobId = some kept ∧ kept.state = job.state

def RetriesBounded (manager : JobRetryManager) : Prop :=
  ∀ jobId job, manager.getJob jobId = some job → (job.retries : ℤ) ≤ job.maxRetries

def YieldsWaiting (visit : Visit JobRetryManager RetryCall RetryReply) : Prop :=
  visit.call = .getNextRetry →
    ∀ jobId, visit.reply = .next (some jobId) →
      ∀ job, visit.after.getJob jobId = some job → ¬ JobState.isDone job.state

/-- The call comes in time: no negative bound is given to a job, a job is not completed when it is
final or still queued, and its failure is not reported when it is committed or still queued, unless
the backoff overflows, which keeps it out of the queue.
-/
def CalledInTime (manager : JobRetryManager) : RetryCall → Prop
  | .enqueue _ _ _ maxRetries _ => 0 ≤ maxRetries.getD manager.maxRetries
  | .markCompleted jobId _ =>
      ∀ job, manager.getJob jobId = some job →
        ¬ JobState.isFinal job.state ∧ jobId ∉ manager.retryQueue
  | .handleFailure jobId _ =>
      ∀ job, manager.getJob jobId = some job →
        job.state ≠ .committed
        ∧ (jobId ∈ manager.retryQueue →
            (job.retries : ℤ) < job.maxRetries ∧ manager.power (job.retries + 1) = none)
  | _ => True

def enqueuedIds : RetryCall → List String
  | .enqueue _ _ jobId _ drawn => [JobRetryManager.enqueuedId jobId drawn]
  | _ => []

-- Reading back

variable {manager : JobRetryManager} {jobId : String} {job new : Job}

@[simp]
theorem getJob_putJob (manager : JobRetryManager) (job : Job) (jobId : String)
    : (manager.putJob job).getJob jobId
      = if job.jobId = jobId then some job else manager.getJob jobId := by
  simp [JobRetryManager.getJob, JobRetryManager.putJob]

@[simp]
theorem getJob_pushRetry (manager : JobRetryManager) (pushed jobId : String)
    : (manager.pushRetry pushed).getJob jobId = manager.getJob jobId := rfl

@[simp]
theorem retryQueue_pushRetry (manager : JobRetryManager) (pushed : String)
    : (manager.pushRetry pushed).retryQueue = manager.retryQueue ++ [pushed] := rfl

theorem jobId_of_getJob (found : manager.getJob jobId = some job) : job.jobId = jobId :=
  (Table.find?_some found).2

-- The invariant

/-- Every queued id is that of one job that is not done, no job was retried too often, and a failed
job has no retry left.
-/
structure RetryInv (manager : JobRetryManager) : Prop where
  nodup : manager.retryQueue.Nodup
  waiting : ∀ jobId ∈ manager.retryQueue,
    ∃ job, manager.getJob jobId = some job ∧ ¬ JobState.isDone job.state
  bounded : RetriesBounded manager
  exhausted : ∀ jobId job, manager.getJob jobId = some job → job.state = .failed →
    job.maxRetries ≤ job.retries

theorem retryInv_new (maxRetries : ℤ) (power : ℕ → Option ℚ)
    : RetryInv (newRetryManager maxRetries power) := by
  refine ⟨List.nodup_nil, ?_, ?_, ?_⟩
  · intro jobId member
    cases member
  · intro jobId job found
    cases found
  · intro jobId job found
    cases found

theorem RetryInv.putJob (inv : RetryInv manager) (within : (new.retries : ℤ) ≤ new.maxRetries)
    (spent : new.state = .failed → new.maxRetries ≤ new.retries)
    (undone : new.jobId ∈ manager.retryQueue → ¬ JobState.isDone new.state)
    : RetryInv (manager.putJob new) := by
  refine ⟨inv.nodup, ?_, ?_, ?_⟩
  · intro jobId member
    rw [getJob_putJob]
    by_cases same : new.jobId = jobId
    · subst same
      exact ⟨new, by simp, undone member⟩
    · obtain ⟨job, found, notDone⟩ := inv.waiting jobId member
      exact ⟨job, by simp [same, found], notDone⟩
  · intro jobId job found
    rw [getJob_putJob] at found
    split at found
    · cases found
      exact within
    · exact inv.bounded jobId job found
  · intro jobId job found failed
    rw [getJob_putJob] at found
    split at found
    · cases found
      exact spent failed
    · exact inv.exhausted jobId job found failed

theorem RetryInv.putUndone (inv : RetryInv manager) (within : (new.retries : ℤ) ≤ new.maxRetries)
    (undone : ¬ JobState.isDone new.state)
    : RetryInv (manager.putJob new) :=
  inv.putJob within (fun failed => absurd (Or.inr (Or.inr failed)) undone) (fun _ => undone)

theorem RetryInv.pushRetry (inv : RetryInv manager) (fresh : jobId ∉ manager.retryQueue)
    (found : manager.getJob jobId = some job) (notDone : ¬ JobState.isDone job.state)
    : RetryInv (manager.pushRetry jobId) := by
  refine ⟨?_, ?_, inv.bounded, inv.exhausted⟩
  · rw [retryQueue_pushRetry, List.nodup_append]
    refine ⟨inv.nodup, by simp, ?_⟩
    intro queued member pushed single same
    obtain rfl := List.mem_singleton.mp single
    exact fresh (same ▸ member)
  · intro queued member
    rcases List.mem_append.mp member with member | single
    · exact inv.waiting queued member
    · obtain rfl := List.mem_singleton.mp single
      exact ⟨job, found, notDone⟩

theorem RetryInv.pop (inv : RetryInv manager) : RetryInv manager.getNextRetry.2 := by
  refine ⟨inv.nodup.sublist (List.tail_sublist _), ?_, inv.bounded, inv.exhausted⟩
  intro jobId member
  exact inv.waiting jobId (List.mem_of_mem_tail member)

theorem FinalKept.refl (manager : JobRetryManager) : FinalKept manager manager := by
  intro jobId job found final
  exact ⟨job, found, rfl⟩

theorem FinalKept.trans {first second third : JobRetryManager} (left : FinalKept first second)
    (right : FinalKept second third)
    : FinalKept first third := by
  intro jobId job found final
  obtain ⟨middle, middleFound, middleSame⟩ := left jobId job found final
  obtain ⟨last, lastFound, lastSame⟩ := right jobId middle middleFound (by rwa [middleSame])
  exact ⟨last, lastFound, lastSame.trans middleSame⟩

theorem finalKept_putJob
    (same : ∀ job, manager.getJob new.jobId = some job → JobState.isFinal job.state →
      new.state = job.state)
    : FinalKept manager (manager.putJob new) := by
  intro jobId job found final
  rw [getJob_putJob]
  by_cases written : new.jobId = jobId
  · subst written
    exact ⟨new, by simp, same job found final⟩
  · exact ⟨job, by simp [written, found], rfl⟩

theorem finalKept_putJob_of_found (found : manager.getJob new.jobId = some job)
    (same : JobState.isFinal job.state → new.state = job.state)
    : FinalKept manager (manager.putJob new) := by
  refine finalKept_putJob ?_
  intro stored storedFound final
  rw [found] at storedFound
  cases storedFound
  exact same final

theorem not_isDone_of_open {state : JobState} (open_ : state = .running ∨ state = .retrying)
    : ¬ JobState.isDone state := by
  rcases open_ with rfl | rfl
  · simp [JobState.isDone, JobState.isFinal]
  · simp [JobState.isDone, JobState.isFinal]

-- One call

theorem retryStep_spec (inv : RetryInv manager) (call : RetryCall) (timely : CalledInTime manager call)
    (fresh : ∀ jobId ∈ enqueuedIds call, manager.getJob jobId = none)
    : RetryInv (retryStep manager call).2 ∧ FinalKept manager (retryStep manager call).2 := by
  cases call with
  | enqueue pluginType payload jobId maxRetries drawn =>
      have absent := fresh _ (List.mem_singleton_self _)
      have unqueued : JobRetryManager.enqueuedId jobId drawn ∉ manager.retryQueue := by
        intro member
        obtain ⟨job, found, _⟩ := inv.waiting _ member
        cases absent.symm.trans found
      refine ⟨?_, ?_⟩
      · refine RetryInv.pushRetry (inv.putJob (by simpa [CalledInTime] using timely) ?_ ?_) unqueued
          (by rw [getJob_putJob, if_pos rfl]) (by simp [JobState.isDone, JobState.isFinal])
        · intro failed
          cases failed
        · intro member
          exact absurd member unqueued
      · refine finalKept_putJob ?_
        intro job found
        cases absent.symm.trans found
  | markRunning jobId =>
      simp only [retryStep, JobRetryManager.markRunning]
      cases found : manager.getJob jobId with
      | none => exact ⟨inv, .refl manager⟩
      | some job =>
          have known : manager.getJob job.jobId = some job := (jobId_of_getJob found).symm ▸ found
          simp only
          split
          · exact ⟨inv, .refl manager⟩
          · rename_i notDone
            refine ⟨inv.putUndone (inv.bounded jobId job found) (not_isDone_of_open (.inl rfl)),
              finalKept_putJob_of_found known ?_⟩
            intro final
            rcases final with committed | failed
            · exact absurd (Or.inr (Or.inr committed)) notDone
            · exact absurd (Or.inr (Or.inl failed)) notDone
  | markCompleted jobId result =>
      simp only [retryStep, JobRetryManager.markCompleted]
      cases found : manager.getJob jobId with
      | none => exact ⟨inv, .refl manager⟩
      | some job =>
          have same := jobId_of_getJob found
          obtain ⟨notFinal, unqueued⟩ := timely job found
          refine ⟨inv.putJob (inv.bounded jobId job found) ?_ ?_,
            finalKept_putJob_of_found (same.symm ▸ found) (fun final => absurd final notFinal)⟩
          · intro failed
            cases failed
          · intro member
            exact absurd (same ▸ member) unqueued
  | markCommitted jobId =>
      simp only [retryStep, JobRetryManager.markCommitted]
      cases found : manager.getJob jobId with
      | none => exact ⟨inv, .refl manager⟩
      | some job =>
          have known : manager.getJob job.jobId = some job := (jobId_of_getJob found).symm ▸ found
          simp only
          split
          · exact ⟨inv, .refl manager⟩
          · rename_i completed
            rw [ne_eq, not_not] at completed
            refine ⟨inv.putJob (inv.bounded jobId job found) ?_ ?_,
              finalKept_putJob_of_found known ?_⟩
            · intro failed
              cases failed
            · -- A completed job is not queued.
              intro member
              obtain ⟨queued, queuedFound, notDone⟩ := inv.waiting _ member
              rw [known] at queuedFound
              cases queuedFound
              exact absurd (Or.inl completed) notDone
            · intro final
              rw [completed] at final
              rcases final with final | final <;> cases final
  | handleFailure jobId error =>
      simp only [retryStep, JobRetryManager.handleFailure]
      cases found : manager.getJob jobId with
      | none => exact ⟨inv, .refl manager⟩
      | some job =>
          have same := jobId_of_getJob found
          have known : manager.getJob job.jobId = some job := same.symm ▸ found
          obtain ⟨notCommitted, whenQueued⟩ := timely job found
          -- A failed job has no retry left, so it only fails again.
          have onlyFailed : JobState.isFinal job.state →
              job.state = .failed ∧ ¬ (job.retries : ℤ) < job.maxRetries := by
            intro final
            rcases final with committed | failed
            · exact absurd committed notCommitted
            · exact ⟨failed, not_lt.mpr (inv.exhausted jobId job found failed)⟩
          simp only
          split
          · rename_i left
            have retrying := not_isDone_of_open (.inr rfl : JobState.retrying = .running ∨ _)
            have counted : RetryInv (manager.putJob
                { job with
                  error := some error, state := .retrying, retries := job.retries + 1 }) := by
              refine inv.putUndone ?_ retrying
              simp only [Nat.cast_add, Nat.cast_one]
              omega
            have kept : FinalKept manager (manager.putJob
                { job with
                  error := some error, state := .retrying, retries := job.retries + 1 }) :=
              finalKept_putJob_of_found known (fun final => absurd left (onlyFailed final).2)
            cases backoff : manager.power (job.retries + 1) with
            | none => exact ⟨counted, kept⟩
            | some seconds =>
                have unqueued : jobId ∉ manager.retryQueue := by
                  intro member
                  cases (whenQueued member).2.symm.trans backoff
                exact ⟨counted.pushRetry unqueued (by rw [getJob_putJob, if_pos same]) retrying,
                  kept⟩
          · rename_i spent
            refine ⟨inv.putJob (inv.bounded jobId job found) ?_ ?_,
              finalKept_putJob_of_found known (fun final => (onlyFailed final).1.symm)⟩
            · intro _
              exact not_lt.mp spent
            · intro member
              exact absurd (whenQueued (same ▸ member)).1 spent
  | getNextRetry => exact ⟨inv.pop, .refl manager⟩

-- Any calls

theorem getJob_retryStep (call : RetryCall)
    (found : (retryStep manager call).2.getJob jobId = some job)
    : jobId ∈ enqueuedIds call ∨ ∃ earlier, manager.getJob jobId = some earlier := by
  have rewritten : ∀ stored, manager.getJob stored.jobId ≠ none →
      (manager.putJob stored).getJob jobId = some job →
        ∃ earlier, manager.getJob jobId = some earlier := by
    intro stored known written
    rw [getJob_putJob] at written
    split at written
    · rename_i same
      exact Option.ne_none_iff_exists'.mp (same ▸ known)
    · exact ⟨job, written⟩
  cases call with
  | enqueue pluginType payload given maxRetries drawn =>
      simp only [retryStep, JobRetryManager.enqueue, getJob_pushRetry, getJob_putJob] at found
      split at found
      · rename_i same
        exact .inl (by simp [enqueuedIds, same])
      · exact .inr ⟨job, found⟩
  | markRunning id =>
      simp only [retryStep, JobRetryManager.markRunning] at found
      cases known : manager.getJob id with
      | none => exact .inr ⟨job, by simpa [known] using found⟩
      | some stored =>
          have same := jobId_of_getJob known
          simp only [known] at found
          split at found
          · exact .inr ⟨job, found⟩
          · exact .inr (rewritten _ (by simp [same, known]) found)
  | markCompleted id result =>
      simp only [retryStep, JobRetryManager.markCompleted] at found
      cases known : manager.getJob id with
      | none => exact .inr ⟨job, by simpa [known] using found⟩
      | some stored =>
          have same := jobId_of_getJob known
          simp only [known] at found
          exact .inr (rewritten _ (by simp [same, known]) found)
  | markCommitted id =>
      simp only [retryStep, JobRetryManager.markCommitted] at found
      cases known : manager.getJob id with
      | none => exact .inr ⟨job, by simpa [known] using found⟩
      | some stored =>
          have same := jobId_of_getJob known
          simp only [known] at found
          split at found
          · exact .inr ⟨job, found⟩
          · exact .inr (rewritten _ (by simp [same, known]) found)
  | handleFailure id error =>
      simp only [retryStep, JobRetryManager.handleFailure] at found
      cases known : manager.getJob id with
      | none => exact .inr ⟨job, by simpa [known] using found⟩
      | some stored =>
          have same := jobId_of_getJob known
          simp only [known] at found
          split at found
          · split at found
            · exact .inr (rewritten _ (by simp [same, known]) found)
            · exact .inr (rewritten _ (by simp [same, known]) found)
          · exact .inr (rewritten _ (by simp [same, known]) found)
  | getNextRetry => exact .inr ⟨job, found⟩

variable {maxRetries : ℤ} {power : ℕ → Option ℚ} {calls : List RetryCall}

/-- Every job of a run was enqueued in it, by induction on the calls from the last one. -/
theorem enqueued_of_getJob
    (found : (finalState retryStep (newRetryManager maxRetries power) calls).getJob jobId = some job)
    : jobId ∈ calls.flatMap enqueuedIds := by
  induction calls using List.reverseRecOn generalizing job with
  | nil => cases found
  | append_singleton past call ih =>
      rw [finalState_append] at found
      rw [List.flatMap_append, List.mem_append]
      rcases getJob_retryStep call found with here | ⟨earlier, known⟩
      · exact .inr (by simpa using here)
      · exact .inl (ih known)

theorem fresh_of_distinct (distinct : (calls.flatMap enqueuedIds).Nodup)
    {visit : Visit JobRetryManager RetryCall RetryReply}
    (member : visit ∈ visits retryStep (newRetryManager maxRetries power) calls)
    : ∀ jobId ∈ enqueuedIds visit.call, visit.before.getJob jobId = none := by
  obtain ⟨earlier, later, split⟩ := List.append_of_mem member
  obtain ⟨past, future, rfl, _, before⟩ := visits_split split
  intro jobId here
  rw [List.flatMap_append, List.flatMap_cons, List.nodup_append] at distinct
  cases known : visit.before.getJob jobId with
  | none => rfl
  | some job =>
      rw [before] at known
      have there := enqueued_of_getJob known
      exact absurd rfl (distinct.2.2 jobId there jobId (List.mem_append_left _ here))

def AdmittedCall (manager : JobRetryManager) (call : RetryCall) : Prop :=
  CalledInTime manager call ∧ ∀ jobId ∈ enqueuedIds call, manager.getJob jobId = none

theorem retryRun (inv : RetryInv manager)
    (admitted : ∀ visit ∈ visits retryStep manager calls, AdmittedCall visit.before visit.call)
    : (∀ visit ∈ visits retryStep manager calls, RetryInv visit.before ∧ RetryInv visit.after)
      ∧ RetryInv (finalState retryStep manager calls)
      ∧ FinalKept manager (finalState retryStep manager calls) := by
  have onwards := invariant_of_allowed
    (fun current => RetryInv current ∧ FinalKept manager current) AdmittedCall
    (fun current call holds ok =>
      have next := retryStep_spec holds.1 call ok.1 ok.2
      ⟨next.1, holds.2.trans next.2⟩)
    ⟨inv, .refl manager⟩ admitted
  exact ⟨fun visit member => ⟨(onwards.1 visit member).1.1, (onwards.1 visit member).2.1⟩,
    onwards.2⟩

theorem yieldsWaiting {visit : Visit JobRetryManager RetryCall RetryReply}
    (step : retryStep visit.before visit.call = (visit.reply, visit.after))
    (inv : RetryInv visit.before)
    : YieldsWaiting visit := by
  intro isNext jobId yielded job found
  rw [isNext] at step
  obtain ⟨reply, after⟩ := Prod.mk.inj step
  rw [← reply] at yielded
  have head : visit.before.retryQueue.head? = some jobId := by
    simpa [JobRetryManager.getNextRetry] using yielded
  obtain ⟨queued, queuedFound, notDone⟩ := inv.waiting jobId (List.mem_of_head? head)
  rw [← after] at found
  cases queuedFound.symm.trans found
  exact notDone

/-- Along calls that come in time and enqueue distinct ids, a final job keeps its state, no job is
retried too often, no id is queued twice, and the queue yields only jobs that are not done.
-/
theorem retry_finality (distinct : (calls.flatMap enqueuedIds).Nodup)
    (timely : ∀ visit ∈ visits retryStep (newRetryManager maxRetries power) calls,
      CalledInTime visit.before visit.call)
    : (∀ past future, calls = past ++ future →
        FinalKept (finalState retryStep (newRetryManager maxRetries power) past)
          (finalState retryStep (newRetryManager maxRetries power) calls))
      ∧ ∀ visit ∈ visits retryStep (newRetryManager maxRetries power) calls,
        RetriesBounded visit.after ∧ visit.after.retryQueue.Nodup ∧ YieldsWaiting visit := by
  have admitted : ∀ visit ∈ visits retryStep (newRetryManager maxRetries power) calls,
      AdmittedCall visit.before visit.call :=
    fun visit member => ⟨timely visit member, fresh_of_distinct distinct member⟩
  have start := retryInv_new maxRetries power
  refine ⟨?_, ?_⟩
  · intro past future split
    subst split
    rw [visits_append] at admitted
    have reached := retryRun start
      (fun visit member => admitted visit (List.mem_append_left _ member))
    have onwards := retryRun reached.2.1
      (fun visit member => admitted visit (List.mem_append_right _ member))
    rw [finalState_append]
    exact onwards.2.2
  · intro visit member
    obtain ⟨before, after⟩ := (retryRun start admitted).1 visit member
    exact ⟨after.bounded, after.nodup, yieldsWaiting (step_of_mem_visits member) before⟩

def committedJob : List RetryCall :=
  [.enqueue "inference" (fun _ => none) (some "job-1") none "", .getNextRetry,
    .markRunning "job-1", .markCompleted "job-1" .none, .markCommitted "job-1"]

def threeRetries : JobRetryManager := newRetryManager 3 (fun retries => some (2 ^ retries))

/-- The committed job stays committed. -/
theorem retry_finality_committed
    : FinalKept (finalState retryStep threeRetries committedJob)
        (finalState retryStep threeRetries (committedJob ++ [.getNextRetry])) := by
  have kept := (@retry_finality 3 (fun retries => some (2 ^ retries))
    (committedJob ++ [.getNextRetry]) (by decide) ?_).1
  · exact kept committedJob [.getNextRetry] rfl
  · intro visit member
    simp only [committedJob, List.cons_append, List.nil_append, visits, List.mem_cons,
      List.not_mem_nil, or_false] at member
    rcases member with rfl | rfl | rfl | rfl | rfl | rfl
    · exact (by decide : (0 : ℤ) ≤ 3)
    · trivial
    · trivial
    · intro job found
      cases found
      refine ⟨?_, List.not_mem_nil⟩
      intro final
      rcases final with final | final <;> cases final
    · trivial
    · trivial

/-- A failure that is reported after the commit puts the job back into the queue. -/
theorem late_failure_reopens
    : ¬ FinalKept (finalState retryStep threeRetries committedJob)
        (finalState retryStep threeRetries
          (committedJob ++ [.handleFailure "job-1" (.str "timeout")])) := by
  intro kept
  obtain ⟨job, found, same⟩ := kept "job-1" _ rfl (.inl rfl)
  cases found
  cases same

section RetryBackoff

open RomaBridge.Model.FastRetries

/-- The service with the last time it was used, and the times of the failures of each job since it
was last removed, the latest first.
-/
structure WatchedRetries where
  service : RetryService
  clock : ℚ
  failures : String → List ℚ

def failuresAfter (failures : String → List ℚ) (now : ℚ) : RetryRequest → String → List ℚ
  | .add jobId _ _ => Function.update failures jobId (now :: failures jobId)
  | .remove jobId => Function.update failures jobId []
  | .pending | .cleanup => failures

/-- A request, or a round of the cleanup, that comes some time after the last one. -/
def retryServiceStep (watched : WatchedRetries) (timed : ℚ≥0 × RetryRequest)
    : RetryAnswer × WatchedRetries :=
  let now := watched.clock + timed.1
  let (answer, service) := watched.service.serve now timed.2
  (answer, ⟨service, now, failuresAfter watched.failures now timed.2⟩)

def newRetryService (clock : ℚ) : WatchedRetries := ⟨⟨Table.empty, true⟩, clock, fun _ => []⟩

/-- The job has an attempt left, whose delay has passed since its latest failure. -/
structure OfferDue (failures : List ℚ) (now : ℚ) (f : FailedJob) : Prop where
  attempt_le : f.attempt ≤ retryDelays.length
  failed_le : failures.length ≤ retryDelays.length
  waited : ∀ latest ∈ failures.head?, retryDelays.getD (f.attempt - 1) 0 ≤ now - latest

def RetriesRight (failures : String → List ℚ) (now : ℚ) : RetryRequest → RetryAnswer → Prop
  | .cleanup, answer => ∀ key, answer ≠ .keyError key
  | .pending, .jobs _ offered => ∀ f ∈ offered, OfferDue (failures f.jobId) now f
  | _, _ => True

/-- The cleanup finds no job, and no job without an attempt left has waited for its last delay. -/
def RetriesAllowed (service : RetryService) (now : ℚ) : RetryRequest → Prop
  | .cleanup => service.cleaning → service.failedQueue.rows = []
  | .pending => ∀ f ∈ service.failedQueue.rows, retryDelays.length < f.attempt → now < f.nextRetry
  | _ => True

/-- What an entry says of the failures of its job. -/
structure EntryKept (failures : List ℚ) (f : FailedJob) : Prop where
  unexpiring : f.expiresAt = none
  counted : f.attempt = failures.length
  failed : failures ≠ []
  due : f.attempt ≤ retryDelays.length → ∀ latest ∈ failures.head?,
    f.nextRetry = latest + retryDelays.getD (f.attempt - 1) 0

def RetriesKept (queue : Table String FailedJob FailedJob.jobId) (failures : String → List ℚ)
    : Prop :=
  ∀ jobId, match queue.find? jobId with
    | none => failures jobId = []
    | some f => EntryKept (failures jobId) f

section Steps

variable {service : RetryService} {failures : String → List ℚ}

theorem RetriesKept.put (kept : RetriesKept service.failedQueue failures) {jobId : String}
    {reported : List ℚ} {row : FailedJob} (own : row.jobId = jobId)
    (entry : EntryKept reported row)
    : RetriesKept (service.failedQueue.put row) (Function.update failures jobId reported) := by
  intro job
  rw [Table.find?_put, own]
  by_cases same : job = jobId
  · subst same
    simpa using entry
  · simpa [same, Ne.symm same] using kept job

theorem RetriesKept.add (kept : RetriesKept service.failedQueue failures) (now : ℚ)
    (jobId error : String) (created : ℚ)
    : RetriesKept (service.addRetry now jobId error created).2.failedQueue
        (failuresAfter failures now (.add jobId error created)) := by
  have before := kept jobId
  rw [RetryService.addRetry]
  cases found : service.failedQueue.find? jobId with
  | none =>
      rw [found] at before
      exact kept.put rfl ⟨rfl, by simp [before], by simp, by simp⟩
  | some f =>
      rw [found] at before
      refine kept.put (Table.find?_some found).2
        ⟨before.unexpiring, by simp [before.counted], by simp, fun within => ?_⟩
      simp only [if_pos within, List.head?_cons, Option.mem_def, Option.some.injEq, forall_eq']

theorem RetriesKept.remove (kept : RetriesKept service.failedQueue failures) (now : ℚ)
    (jobId : String)
    : RetriesKept (service.remove jobId).2.failedQueue
        (failuresAfter failures now (.remove jobId)) := by
  have gone : RetriesKept (service.failedQueue.keep (fun f => f.jobId ≠ jobId))
      (Function.update failures jobId []) := by
    intro job
    have before := kept job
    rw [Table.find?_keep]
    cases found : service.failedQueue.find? job with
    | none =>
        rw [found] at before
        by_cases same : job = jobId <;> simp [same, before]
    | some f =>
        rw [found] at before
        have own := (Table.find?_some found).2
        by_cases same : job = jobId
        · rw [Option.filter_some_neg (by simpa using own.trans same), ← same]
          exact Function.update_self ..
        · simpa [same, own, Option.filter_some] using before
  rw [RetryService.remove]
  split
  · exact gone
  · rename_i missing
    intro job
    have before := kept job
    by_cases same : job = jobId
    · subst same
      simp_all [failuresAfter]
    · simpa [failuresAfter, same] using before

theorem RetriesKept.entry (kept : RetriesKept service.failedQueue failures) {f : FailedJob}
    (within : f ∈ service.failedQueue.rows)
    : EntryKept (failures f.jobId) f := by
  have entry := kept f.jobId
  rwa [Table.find?_of_mem within] at entry

theorem RetriesKept.cleanup (kept : RetriesKept service.failedQueue failures) (now : ℚ)
    : (service.cleanup now).2.failedQueue = service.failedQueue
      ∧ ((∀ key, (service.cleanup now).1 ≠ .keyError key)
        ↔ (service.cleaning → service.failedQueue.rows = [])) := by
  rw [RetryService.cleanup]
  cases service.cleaning with
  | false => simp
  | true =>
      cases rows : service.failedQueue.rows with
      | nil =>
          obtain ⟨⟨stored, unique⟩, cleaning⟩ := service
          obtain rfl : stored = [] := rows
          exact ⟨rfl, by simp⟩
      | cons f rest =>
          have missing := (kept.entry (rows ▸ List.mem_cons_self)).unexpiring
          simp [missing]

theorem RetriesKept.right_iff (kept : RetriesKept service.failedQueue failures)
    (now : ℚ) (request : RetryRequest)
    : RetriesRight failures now request (service.serve now request).1
      ↔ RetriesAllowed service now request := by
  cases request with
  | add jobId error created => exact iff_of_true trivial trivial
  | remove jobId => exact iff_of_true trivial trivial
  | cleanup => exact (kept.cleanup now).2
  | pending =>
      simp only [RetryService.serve, RetryService.getPending, RetriesRight, RetriesAllowed,
        List.mem_filter, decide_eq_true_eq, and_imp]
      refine forall₂_congr fun f within => ⟨fun due exhausted => ?_, fun waiting ready => ?_⟩
      · by_contra ready
        exact absurd (due (not_lt.mp ready)).attempt_le exhausted.not_ge
      · have entry := kept.entry within
        have left : f.attempt ≤ retryDelays.length := by
          by_contra exhausted
          exact absurd ready (waiting (not_le.mp exhausted)).not_ge
        refine ⟨left, entry.counted ▸ left, fun latest head => ?_⟩
        rw [le_sub_iff_add_le']
        exact (entry.due left latest head).symm.trans_le ready

end Steps

theorem RetriesKept.step {watched : WatchedRetries}
    (kept : RetriesKept watched.service.failedQueue watched.failures) (timed : ℚ≥0 × RetryRequest)
    : RetriesKept (retryServiceStep watched timed).2.service.failedQueue
        (retryServiceStep watched timed).2.failures := by
  obtain ⟨wait, request⟩ := timed
  cases request with
  | add jobId error created => exact kept.add (watched.clock + wait) jobId error created
  | remove jobId => exact kept.remove (watched.clock + wait) jobId
  | pending => exact kept
  | cleanup =>
      have same := (kept.cleanup (watched.clock + wait)).1
      exact same.symm ▸ kept

/-- The cleanup never raises and each job that is offered is due, in a run of the service, exactly
when no round of the cleanup finds a job, and no list is asked for when a job without an attempt
left has waited for its last delay.
-/
theorem retries_back_off_iff (clock : ℚ) (requests : List (ℚ≥0 × RetryRequest))
    : (∀ visit ∈ visits retryServiceStep (newRetryService clock) requests,
        RetriesRight visit.before.failures visit.after.clock visit.call.2 visit.reply)
      ↔ ∀ visit ∈ visits retryServiceStep (newRetryService clock) requests,
        RetriesAllowed visit.before.service visit.after.clock visit.call.2 := by
  refine forall₂_congr fun visit member => ?_
  have kept := invariant_of_mem_visits
    (fun watched => RetriesKept watched.service.failedQueue watched.failures)
    (fun _ => rfl) (fun _ timed _ holds => holds.step timed) member
  have step := step_of_mem_visits member
  have reply : (retryServiceStep visit.before visit.call).1 = visit.reply := congrArg Prod.fst step
  have after : (retryServiceStep visit.before visit.call).2 = visit.after := congrArg Prod.snd step
  rw [← reply, ← after]
  exact kept.1.right_iff _ visit.call.2

/-- The cleanup raises once a job has failed, and a job that failed six times is offered. -/
theorem failed_job_raises_or_is_offered
    : (¬ ∀ visit ∈ visits retryServiceStep (newRetryService 0)
            [(0, .add "job" "timeout" 0), (30, .cleanup)],
          RetriesRight visit.before.failures visit.after.clock visit.call.2 visit.reply)
      ∧ ¬ ∀ visit ∈ visits retryServiceStep (newRetryService 0)
            (List.replicate 6 (0, .add "job" "timeout" 0) ++ [(300, .pending)]),
          RetriesRight visit.before.failures visit.after.clock visit.call.2 visit.reply := by
  constructor
  · intro right
    exact absurd (right _ (List.mem_of_getElem? (i := 1) rfl) "expires_at") (not_not.mpr rfl)
  · intro right
    have due := right _ (List.mem_of_getElem? (i := 6) rfl)
      ⟨"job", "timeout", 6, 300, 0, none⟩ (by decide +kernel)
    exact absurd due.attempt_le (by decide)

end RetryBackoff

end RomaBridge.Properties
