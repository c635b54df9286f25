import RomaBridge.Foundation.Trace
import RomaBridge.Behaviour.JobStoreLookups

/-! The state machine of the in-process job store, over every sequence of calls.
Every operation but `requeue` looks at the status before it writes it; `requeue` writes DEAD on
any job it cannot retry and accepts a DEAD job with retries left. Of its leases, acquisition looks at
the clock and renewal does not, so that a renewal is honest exactly while the lease has not lapsed.
-/

namespace RomaBridge.Properties

open RomaBridge.Foundation RomaBridge.Model.ControlPlane RomaBridge.Behaviour

-- Calls on a store

/-- The calls on a `JobStore` that write its jobs. -/
inductive JobStoreCall where
  | submit (suffix plugin : String) (gpu ttl : ℚ) (maxRetries : ℤ)
  | schedule (jobId workerId : String) (now : ℚ)
  | start (jobId : String) (now : ℚ)
  | complete (jobId : String) (now : ℚ)
  | commit (jobId : String)
  | fail (jobId error : String) (now : ℚ)
  | requeue (jobId : String)
  | advancePending

inductive JobStoreReply where
  | submitted (job : Job)
  | answered (value : Bool)
  | advanced (ready : List Job)

def jobStoreStep (store : JobStore) : JobStoreCall → JobStoreReply × JobStore
  | .submit suffix plugin gpu ttl maxRetries =>
      let (job, next) := store.submit suffix plugin gpu ttl maxRetries
      (.submitted job, next)
  | .schedule jobId workerId now =>
      let (value, next) := store.schedule jobId workerId now
      (.answered value, next)
  | .start jobId now =>
      let (value, next) := store.start jobId now
      (.answered value, next)
  | .complete jobId now =>
      let (value, next) := store.complete jobId now
      (.answered value, next)
  | .commit jobId =>
      let (value, next) := store.commit jobId
      (.answered value, next)
  | .fail jobId error now =>
      let (value, next) := store.fail jobId error now
      (.answered value, next)
  | .requeue jobId =>
      let (value, next) := store.requeue jobId
      (.answered value, next)
  | .advancePending =>
      let (ready, next) := store.advancePending
      (.advanced ready, next)

abbrev JobStoreVisit := Visit JobStore JobStoreCall JobStoreReply

/-- The state machine along a sequence of calls on a store. -/
structure JobStateMachine (store : JobStore) (calls : List JobStoreCall) : Prop where
  /-- No call removes a job. -/
  kept : ∀ visit ∈ visits jobStoreStep store calls, ∀ jobId before,
    visit.before.get jobId = some before → (visit.after.get jobId).isSome
  /-- COMPLETED only moves to COMMITTED. -/
  completed : ∀ visit ∈ visits jobStoreStep store calls, ∀ jobId before after,
    visit.before.get jobId = some before → visit.after.get jobId = some after →
      before.status = .completed → after.status = .completed ∨ after.status = .committed
  /-- COMMITTED and DEAD are never left. -/
  final : ∀ visit ∈ visits jobStoreStep store calls, ∀ jobId before after,
    visit.before.get jobId = some before → visit.after.get jobId = some after →
      before.status = .committed ∨ before.status = .dead → after.status = before.status
  /-- `requeue` changes a status only when the job is FAILED. -/
  requeueFailed : ∀ visit ∈ visits jobStoreStep store calls, ∀ jobId before after,
    visit.call = .requeue jobId →
    visit.before.get jobId = some before → visit.after.get jobId = some after →
      after.status ≠ before.status → before.status = .failed
  /-- `retry_count` never decreases. -/
  retriesGrow : ∀ visit ∈ visits jobStoreStep store calls, ∀ jobId before after,
    visit.before.get jobId = some before → visit.after.get jobId = some after →
      before.retryCount ≤ after.retryCount
  /-- `retry_count` never exceeds `max_retries`, at first and after every call. -/
  retriesBounded : (∀ jobId job, store.get jobId = some job → job.retryCount ≤ job.maxRetries)
    ∧ ∀ visit ∈ visits jobStoreStep store calls, ∀ jobId job,
        visit.after.get jobId = some job → job.retryCount ≤ job.maxRetries
  /-- A job is SUBMITTED again only after a `requeue` that returned True. A job that the file
  of the store already had as PENDING_RETRY was requeued before the sequence began. -/
  resubmitted : ∀ earlier visit later,
    visits jobStoreStep store calls = earlier ++ visit :: later → ∀ jobId before after,
    visit.before.get jobId = some before → visit.after.get jobId = some after →
      before.status ≠ .submitted → after.status = .submitted →
        (∃ requeued ∈ earlier, requeued.call = .requeue jobId ∧ requeued.reply = .answered true)
          ∨ ∃ first, store.get jobId = some first ∧ first.status = .pendingRetry

/-- The condition on a sequence: the store begins within its retry budgets, no job is submitted
with a negative budget, and `requeue` is called on a FAILED job, or on a DEAD one without
retries left.
-/
structure RequeuesFailed (store : JobStore) (calls : List JobStoreCall) : Prop where
  budgets : ∀ jobId job, store.get jobId = some job → job.retryCount ≤ job.maxRetries
  submits : ∀ suffix plugin gpu ttl maxRetries,
    JobStoreCall.submit suffix plugin gpu ttl maxRetries ∈ calls → 0 ≤ maxRetries
  requeues : ∀ visit ∈ visits jobStoreStep store calls, ∀ jobId job,
    visit.call = .requeue jobId → visit.before.get jobId = some job →
      job.status = .failed ∨ job.status = .dead ∧ job.maxRetries ≤ job.retryCount

-- What one call does to one job

/-- The status changes of the guarded operations. -/
inductive GuardedMove : JobStatus → JobStatus → Prop where
  | schedule : GuardedMove .submitted .scheduled
  | start : GuardedMove .scheduled .running
  | complete : GuardedMove .running .completed
  | commit : GuardedMove .completed .committed
  | failRunning : GuardedMove .running .failed
  | failScheduled : GuardedMove .scheduled .failed

theorem GuardedMove.spec {before after : JobStatus} (move : GuardedMove before after)
    : after ≠ .submitted ∧ after ≠ .pendingRetry ∧ before ≠ .committed ∧ before ≠ .dead
      ∧ (before = .completed → after = .committed) := by
  cases move <;> simp

/-- Everything a call can do to the job stored under an id. -/
inductive JobMove (jobId : String)
    : JobStoreCall → JobStoreReply → Option Job → Option Job → Prop where
  | stay {call reply} (found : Option Job)
    : JobMove jobId call reply found found
  | created {suffix plugin gpu ttl maxRetries reply} (job : Job) (status : job.status = .submitted)
      (retries : job.retryCount = 0) (budget : job.maxRetries = maxRetries)
    : JobMove jobId (.submit suffix plugin gpu ttl maxRetries) reply none (some job)
  | moved {call reply} (before after : Job) (move : GuardedMove before.status after.status)
      (retries : after.retryCount = before.retryCount)
      (budget : after.maxRetries = before.maxRetries)
      (guarded : ∀ id, call ≠ .requeue id)
    : JobMove jobId call reply (some before) (some after)
  | retried (job : Job) (retryable : job.isRetryable = true)
    : JobMove jobId (.requeue jobId) (.answered true) (some job)
        (some { job with
          status := .pendingRetry, workerId := none, retryCount := job.retryCount + 1 })
  | buried (job : Job) (spent : job.isRetryable = false)
    : JobMove jobId (.requeue jobId) (.answered false) (some job)
        (some { job with status := .dead })
  | advanced {reply} (job : Job) (pending : job.status = .pendingRetry)
    : JobMove jobId .advancePending reply (some job) (some { job with status := .submitted })

/-- A guarded operation answers False and changes nothing, or moves the job it names. -/
inductive GuardedCall (store : JobStore) (named : String) : Bool × JobStore → Prop where
  | refused : GuardedCall store named (false, store)
  | moved {job : Job} {change : Job → Job} (keeps : ∀ job, (change job).id = job.id)
      (found : store.get named = some job)
      (move : GuardedMove job.status (change job).status)
      (retries : (change job).retryCount = job.retryCount)
      (budget : (change job).maxRetries = job.maxRetries)
    : GuardedCall store named (true, store.write named change keeps)

theorem GuardedCall.ofStatus (store : JobStore) (named : String) {source target : JobStatus}
    {change : Job → Job} (keeps : ∀ job, (change job).id = job.id)
    (move : GuardedMove source target)
    (moves : ∀ job, (change job).status = target)
    (retries : ∀ job, (change job).retryCount = job.retryCount)
    (budget : ∀ job, (change job).maxRetries = job.maxRetries)
    : GuardedCall store named
        (match store.get named with
        | none => (false, store)
        | some job =>
            if job.status ≠ source then (false, store)
            else (true, store.write named change keeps)) := by
  cases found : store.get named with
  | none => exact .refused
  | some job =>
      by_cases status : job.status = source
      · simp only [status, ne_eq, not_true_eq_false, if_false]
        refine .moved keeps found ?_ (retries job) (budget job)
        rwa [status, moves]
      · simp only [ne_eq, status, not_false_eq_true, if_true]
        exact .refused

theorem guardedCall_fail (store : JobStore) (named error : String) (now : ℚ)
    : GuardedCall store named (store.fail named error now) := by
  unfold JobStore.fail
  cases found : store.get named with
  | none => exact .refused
  | some job =>
      by_cases inactive : job.status ≠ .running ∧ job.status ≠ .scheduled
      · simp only [inactive, ne_eq, not_false_eq_true, and_self, if_true]
        exact .refused
      · simp only [inactive, if_false]
        refine .moved _ found ?_ rfl rfl
        have active : job.status = .running ∨ job.status = .scheduled := by
          by_contra neither
          exact inactive (not_or.mp neither)
        rcases active with running | scheduled
        · rw [running]
          exact .failRunning
        · rw [scheduled]
          exact .failScheduled

theorem GuardedCall.jobMove {store : JobStore} {named : String} {outcome : Bool × JobStore}
    (guardedCall : GuardedCall store named outcome) {call : JobStoreCall} {reply : JobStoreReply}
    (guarded : ∀ id, call ≠ .requeue id) (jobId : String)
    : JobMove jobId call reply (store.get jobId) (outcome.2.get jobId) := by
  cases guardedCall with
  | refused => exact .stay _
  | moved keeps found move retries budget =>
      rw [get_write]
      by_cases own : jobId = named
      · subst own
        rw [if_pos rfl, found]
        exact .moved _ _ move retries budget guarded
      · rw [if_neg own]
        exact .stay _

theorem jobStoreStep_move (store : JobStore) (call : JobStoreCall) (jobId : String)
    : JobMove jobId call (jobStoreStep store call).1 (store.get jobId)
        ((jobStoreStep store call).2.get jobId) := by
  cases call with
  | submit suffix plugin gpu ttl maxRetries =>
      have absent := get_submitted_none store suffix
      simp only [jobStoreStep, JobStore.submit]
      unfold JobStore.get at absent ⊢
      rw [Table.find?_put]
      split
      · rename_i same
        rw [← same, absent]
        exact .created _ rfl rfl rfl
      · exact .stay _
  | schedule named workerId now =>
      have guarded : GuardedCall store named (store.schedule named workerId now) :=
        .ofStatus store named _ .schedule (fun _ => rfl) (fun _ => rfl) (fun _ => rfl)
      exact guarded.jobMove (by simp) jobId
  | start named now =>
      have guarded : GuardedCall store named (store.start named now) :=
        .ofStatus store named _ .start (fun _ => rfl) (fun _ => rfl) (fun _ => rfl)
      exact guarded.jobMove (by simp) jobId
  | complete named now =>
      have guarded : GuardedCall store named (store.complete named now) :=
        .ofStatus store named _ .complete (fun _ => rfl) (fun _ => rfl) (fun _ => rfl)
      exact guarded.jobMove (by simp) jobId
  | commit named =>
      have guarded : GuardedCall store named (store.commit named) :=
        .ofStatus store named _ .commit (fun _ => rfl) (fun _ => rfl) (fun _ => rfl)
      exact guarded.jobMove (by simp) jobId
  | fail named error now =>
      exact (guardedCall_fail store named error now).jobMove (by simp) jobId
  | requeue named =>
      simp only [jobStoreStep]
      cases found : store.get named with
      | none =>
          simp only [JobStore.requeue, found]
          exact .stay _
      | some job =>
          by_cases own : jobId = named
          · subst own
            obtain ⟨answer, left⟩ := get_requeue found
            rw [answer, left, found]
            cases retryable : job.isRetryable with
            | true => exact .retried job retryable
            | false => exact .buried job retryable
          · have untouched : (store.requeue named).2.get jobId = store.get jobId := by
              simp only [JobStore.requeue, found]
              split <;> simp [get_write, own]
            rw [untouched]
            exact .stay _
  | advancePending =>
      simp only [jobStoreStep, get_advancePending]
      cases found : store.get jobId with
      | none => exact .stay _
      | some job =>
          by_cases pending : job.status = .pendingRetry
          · simp only [Option.map_some, pending, if_true]
            exact .advanced job pending
          · simp only [Option.map_some, pending, if_false]
            exact .stay _

theorem JobMove.isSome {jobId : String} {call : JobStoreCall} {reply : JobStoreReply} {job : Job}
    {left : Option Job} (move : JobMove jobId call reply (some job) left)
    : left.isSome := by
  cases move <;> rfl

/-- What a call keeps of the lifecycle of a job. -/
structure KeepsLifecycle (requeues : Prop) (before after : Job) : Prop where
  completed : before.status = .completed → after.status = .completed ∨ after.status = .committed
  final : before.status = .committed ∨ before.status = .dead → after.status = before.status
  requeueFailed : requeues → after.status ≠ before.status → before.status = .failed
  retriesGrow : before.retryCount ≤ after.retryCount

theorem JobMove.keeps {jobId : String} {call : JobStoreCall} {reply : JobStoreReply}
    {before after : Job} (move : JobMove jobId call reply (some before) (some after))
    (allowed
      : call = .requeue jobId
        → before.status = .failed ∨ before.status = .dead ∧ before.maxRetries ≤ before.retryCount)
    : KeepsLifecycle (call = .requeue jobId) before after := by
  cases move with
  | stay => exact ⟨Or.inl, fun _ => rfl, fun _ changed => absurd rfl changed, le_refl _⟩
  | moved _ _ guarded retries _ other =>
      obtain ⟨_, _, uncommitted, alive, commits⟩ := guarded.spec
      refine ⟨fun completed => Or.inr (commits completed), ?_,
        fun requeues => absurd requeues (other _), le_of_eq retries.symm⟩
      rintro (committed | dead)
      · exact absurd committed uncommitted
      · exact absurd dead alive
  | retried _ retryable =>
      have failed : before.status = .failed := by
        simp only [Job.isRetryable, Bool.and_eq_true, decide_eq_true_eq] at retryable
        exact (allowed rfl).resolve_right (fun spent => absurd retryable.1 (not_lt.mpr spent.2))
      exact ⟨by simp [failed], by simp [failed], fun _ _ => failed, Int.le_add_one (le_refl _)⟩
  | buried =>
      rcases allowed rfl with failed | ⟨dead, _⟩
      · exact ⟨by simp [failed], by simp [failed], fun _ _ => failed, le_refl _⟩
      · exact ⟨by simp [dead], by simp [dead], by simp [dead], le_refl _⟩
  | advanced _ pending => exact ⟨by simp [pending], by simp [pending], by simp, le_refl _⟩

theorem visit_move {store : JobStore} {calls : List JobStoreCall} {visit : JobStoreVisit}
    (member : visit ∈ visits jobStoreStep store calls) (jobId : String)
    : JobMove jobId visit.call visit.reply (visit.before.get jobId)
        (visit.after.get jobId) := by
  have move := jobStoreStep_move visit.before visit.call jobId
  rwa [step_of_mem_visits member] at move

/-- A job that is PENDING_RETRY after some calls was requeued by one of them, or was
PENDING_RETRY at first. Witness: induction on the calls.
-/
theorem pending_origin {store : JobStore} {calls : List JobStoreCall} {jobId : String} {job : Job}
    (found : (finalState jobStoreStep store calls).get jobId = some job)
    (pending : job.status = .pendingRetry)
    : (∃ visit ∈ visits jobStoreStep store calls,
        visit.call = .requeue jobId ∧ visit.reply = .answered true)
      ∨ ∃ first, store.get jobId = some first ∧ first.status = .pendingRetry := by
  induction calls generalizing store with
  | nil => exact Or.inr ⟨job, found, pending⟩
  | cons call rest ih =>
      rcases ih found with ⟨visit, member, requeued⟩ | ⟨next, nextFound, nextPending⟩
      · exact Or.inl ⟨visit, List.mem_cons_of_mem _ member, requeued⟩
      · have move := jobStoreStep_move store call jobId
        rw [nextFound] at move
        generalize before : store.get jobId = old at move
        generalize answered : (jobStoreStep store call).1 = reply at move
        cases move with
        | stay => exact Or.inr ⟨next, rfl, nextPending⟩
        | created _ status => rw [status] at nextPending; cases nextPending
        | moved _ _ guarded => exact absurd nextPending guarded.spec.2.1
        | retried job retryable =>
            refine Or.inl ⟨_, List.mem_cons_self, rfl, answered⟩
        | buried => cases nextPending
        | advanced => cases nextPending

-- Every sequence of calls

theorem retries_bounded {store : JobStore} {calls : List JobStoreCall}
    (condition : RequeuesFailed store calls) {visit : JobStoreVisit}
    (member : visit ∈ visits jobStoreStep store calls)
    : ∀ jobId job, visit.after.get jobId = some job → job.retryCount ≤ job.maxRetries := by
  refine (invariant_of_mem_visits
    (fun current : JobStore =>
      ∀ jobId job, current.get jobId = some job → job.retryCount ≤ job.maxRetries)
    condition.budgets ?_ member).2
  intro current call called bounded jobId job found
  have move := jobStoreStep_move current call jobId
  rw [found] at move
  generalize before : current.get jobId = old at move
  generalize (jobStoreStep current call).1 = reply at move
  cases move with
  | stay => exact bounded jobId job before
  | created _ _ retries budget =>
      rw [retries, budget]
      exact condition.submits _ _ _ _ _ called
  | moved earlier _ _ retries budget =>
      rw [retries, budget]
      exact bounded jobId earlier before
  | retried earlier retryable =>
      simp only [Job.isRetryable, Bool.and_eq_true, decide_eq_true_eq] at retryable
      have room := retryable.1
      show earlier.retryCount + 1 ≤ earlier.maxRetries
      omega
  | buried earlier => exact bounded jobId earlier before
  | advanced earlier => exact bounded jobId earlier before

theorem requeue_failed_of_machine {store : JobStore} {calls : List JobStoreCall}
    (machine : JobStateMachine store calls) {visit : JobStoreVisit}
    (member : visit ∈ visits jobStoreStep store calls) {jobId : String} {job : Job}
    (requeues : visit.call = .requeue jobId) (found : visit.before.get jobId = some job)
    : job.status = .failed ∨ job.status = .dead ∧ job.maxRetries ≤ job.retryCount := by
  obtain ⟨_, left⟩ := get_requeue found
  have stepped := congrArg Prod.snd (step_of_mem_visits member)
  simp only [requeues, jobStoreStep] at stepped
  rw [stepped] at left
  have onlyFailed := machine.requeueFailed visit member jobId job _ requeues found left
  by_cases failed : job.status = .failed
  · exact Or.inl failed
  · right
    cases retryable : job.isRetryable with
    | true =>
        simp only [retryable, if_true] at onlyFailed
        have dead : job.status = .dead := by
          simp only [Job.isRetryable, Bool.and_eq_true, Bool.or_eq_true, beq_iff_eq, failed,
            false_or] at retryable
          exact retryable.2
        exact absurd (onlyFailed (by simp [dead])) failed
    | false =>
        simp only [retryable, Bool.false_eq_true, if_false] at onlyFailed
        have dead : job.status = .dead := by
          by_contra alive
          exact failed (onlyFailed (Ne.symm alive))
        refine ⟨dead, ?_⟩
        simpa [Job.isRetryable, dead] using retryable

/-- Along every sequence of calls on every job store, COMPLETED jobs are only committed, final
jobs stay final, requeue moves FAILED jobs only, retries grow within the budget and a job comes
back SUBMITTED only through a requeue, if and only if budgets are not negative and requeue is
called on no job but a FAILED one or a DEAD one without retries left.
-/
theorem job_state_machine_iff (store : JobStore) (calls : List JobStoreCall)
    : JobStateMachine store calls ↔ RequeuesFailed store calls := by
  constructor
  · intro machine
    refine ⟨machine.retriesBounded.1, ?_, ?_⟩
    · intro suffix plugin gpu ttl maxRetries called
      rw [← map_call_visits jobStoreStep store calls, List.mem_map] at called
      obtain ⟨visit, member, submits⟩ := called
      have stepped := congrArg Prod.snd (step_of_mem_visits member)
      simp only [submits, jobStoreStep, JobStore.submit] at stepped
      have bounded := machine.retriesBounded.2 visit member
        (jobIdOf (visit.before.seq + 1) suffix)
      rw [← stepped] at bounded
      simp only [JobStore.get, Table.find?_put, if_true] at bounded
      exact bounded _ rfl
    · intro visit member jobId job requeues found
      exact requeue_failed_of_machine machine member requeues found
  · intro condition
    have keeps : ∀ visit ∈ visits jobStoreStep store calls, ∀ jobId before after,
        visit.before.get jobId = some before → visit.after.get jobId = some after →
        KeepsLifecycle (visit.call = .requeue jobId) before after := by
      intro visit member jobId before after found left
      have move := visit_move member jobId
      rw [found, left] at move
      exact move.keeps (fun requeues => condition.requeues visit member jobId before requeues found)
    refine ⟨?_, ?_, ?_, ?_, ?_, ⟨condition.budgets, ?_⟩, ?_⟩
    · intro visit member jobId before found
      have move := visit_move member jobId
      rw [found] at move
      exact move.isSome
    · exact fun visit member jobId before after found left =>
        (keeps visit member jobId before after found left).completed
    · exact fun visit member jobId before after found left =>
        (keeps visit member jobId before after found left).final
    · exact fun visit member jobId before after requeues found left =>
        (keeps visit member jobId before after found left).requeueFailed requeues
    · exact fun visit member jobId before after found left =>
        (keeps visit member jobId before after found left).retriesGrow
    · intro visit member
      exact retries_bounded condition member
    · intro earlier visit later split jobId before after found left other submitted
      have member : visit ∈ visits jobStoreStep store calls := by
        rw [split]
        simp
      have move := visit_move member jobId
      rw [found, left] at move
      generalize visit.call = call at move
      generalize visit.reply = reply at move
      cases move with
      | stay => exact absurd submitted other
      | moved _ _ guarded => exact absurd submitted guarded.spec.1
      | retried => cases submitted
      | buried => cases submitted
      | advanced _ pending =>
          obtain ⟨past, _, _, rfl, reached⟩ := visits_split split
          rw [reached] at found
          exact pending_origin found pending

def requeuedWhileRunning : List JobStoreCall :=
  [.submit "ab12cd34" "inference" 1 3600 3, .schedule "job-00001-ab12cd34" "w" 0,
    .start "job-00001-ab12cd34" 1, .requeue "job-00001-ab12cd34",
    .requeue "job-00001-ab12cd34"]

/-- The first requeue writes the running job DEAD, and the second one takes it out of DEAD. -/
theorem running_job_requeued
    : ¬ JobStateMachine JobStore.fresh requeuedWhileRunning := by
  intro machine
  have broken := machine.final
    ((visits jobStoreStep JobStore.fresh requeuedWhileRunning).get ⟨4, by decide⟩)
    (List.get_mem _ _) "job-00001-ab12cd34"
    { id := "job-00001-ab12cd34", plugin := "inference", status := .dead, workerId := some "w",
      gpuAllocated := 1, scheduledAt := some 0, startedAt := some 1 }
    { id := "job-00001-ab12cd34", plugin := "inference", status := .pendingRetry,
      gpuAllocated := 1, scheduledAt := some 0, startedAt := some 1, retryCount := 1 }
    (by decide +kernel) (by decide +kernel) (Or.inr rfl)
  cases broken

-- Leases

variable {leases : LeaseTable} {gpuId jobId : String} {lease : GPULease}

/-- The calls on a `GPULeaseManager` that write its table. -/
inductive LeaseCall where
  | acquire (gpuId jobId workerId : String) (ttl : ℚ)
  | renew (gpuId jobId : String)
  | release (gpuId jobId : String)
  | cleanupExpired
  deriving DecidableEq, Repr

/-- A call and the time it is made at. -/
structure TimedLeaseCall where
  time : ℚ
  call : LeaseCall
  deriving DecidableEq, Repr

inductive LeaseReply where
  | answered (value : Bool)
  | removed (count : ℕ)
  deriving DecidableEq, Repr

def leaseStep (leases : LeaseTable) (timed : TimedLeaseCall) : LeaseReply × LeaseTable :=
  match timed.call with
  | .acquire gpuId jobId workerId ttl =>
      let (value, next) := leases.acquire gpuId jobId workerId ttl timed.time
      (.answered value, next)
  | .renew gpuId jobId =>
      let (value, next) := leases.renew gpuId jobId
      (.answered value, next)
  | .release gpuId jobId =>
      let (value, next) := leases.release gpuId jobId
      (.answered value, next)
  | .cleanupExpired =>
      let (count, next) := leases.cleanupExpired timed.time
      (.removed count, next)

def leaseVisits (calls : List TimedLeaseCall) : List (Visit LeaseTable TimedLeaseCall LeaseReply) :=
  visits leaseStep Table.empty calls

def Chronological (calls : List TimedLeaseCall) : Prop :=
  calls.Pairwise (fun earlier later => earlier.time ≤ later.time)

def HoldsGpu (leases : LeaseTable) (gpuId : String) (now : ℚ) (jobId : String) : Prop :=
  ∃ lease ∈ leases.rows, lease.gpuId = gpuId ∧ lease.jobId = jobId ∧ lease.isExpired now = false

theorem holdsGpu_iff {now : ℚ}
    : HoldsGpu leases gpuId now jobId ↔ leases.getHolder gpuId now = some jobId := by
  unfold HoldsGpu LeaseTable.getHolder
  constructor
  · intro held
    obtain ⟨lease, member, rfl, rfl, live⟩ := held
    simp [Table.find?_of_mem member, live]
  · intro reported
    cases found : leases.find? gpuId with
    | none => simp [found] at reported
    | some lease =>
        obtain ⟨member, same⟩ := Table.find?_some found
        cases lapsed : lease.isExpired now with
        | true => simp [found, lapsed] at reported
        | false =>
            simp only [found, lapsed, Bool.false_eq_true, if_false, Option.some.injEq] at reported
            exact ⟨lease, member, same, reported, lapsed⟩

/-- Leases are exclusive and renewal is honest along a sequence of calls. -/
structure LeasesSound (calls : List TimedLeaseCall) : Prop where
  /-- `acquire` returns True only if no unexpired lease existed on that GPU. -/
  exclusive : ∀ visit ∈ leaseVisits calls, ∀ gpuId jobId workerId ttl,
    visit.call.call = .acquire gpuId jobId workerId ttl → visit.reply = .answered true →
      ∀ lease, visit.before.find? gpuId = some lease → lease.isExpired visit.call.time = true
  /-- At every time at most one job holds a GPU. -/
  single : ∀ visit ∈ leaseVisits calls, ∀ gpuId now left right,
    HoldsGpu visit.after gpuId now left → HoldsGpu visit.after gpuId now right → left = right
  /-- A renewal that returns True leaves the job the holder, and it was the holder before. -/
  honest : ∀ visit ∈ leaseVisits calls, ∀ gpuId jobId,
    visit.call.call = .renew gpuId jobId → visit.reply = .answered true →
      visit.after.getHolder gpuId visit.call.time = some jobId
        ∧ visit.before.getHolder gpuId visit.call.time = some jobId

def RenewsInTime (calls : List TimedLeaseCall) : Prop :=
  ∀ visit ∈ leaseVisits calls, ∀ gpuId jobId, visit.call.call = .renew gpuId jobId →
    ∀ lease, visit.before.find? gpuId = some lease → lease.jobId = jobId →
      visit.call.time ≤ lease.deadline

theorem leaseStep_rows {timed : TimedLeaseCall} (member : lease ∈ (leaseStep leases timed).2.rows)
    : lease.createdAt = timed.time ∨ ∃ old ∈ leases.rows, lease.createdAt = old.createdAt := by
  have found := Table.find?_of_mem member
  unfold leaseStep at found
  cases shape : timed.call with
  | acquire gpuId jobId workerId ttl =>
      simp only [shape, LeaseTable.acquire] at found
      have stored : ∀ {table : LeaseTable}, table.find? lease.gpuId = some lease →
          table = leases → ∃ old ∈ leases.rows, lease.createdAt = old.createdAt := by
        intro table present same
        exact ⟨lease, same ▸ (Table.find?_some present).1, rfl⟩
      have written : (leases.put
          { gpuId, jobId, workerId, ttl, createdAt := timed.time }).find? lease.gpuId = some lease →
          lease.createdAt = timed.time ∨ ∃ old ∈ leases.rows, lease.createdAt = old.createdAt := by
        intro present
        rw [Table.find?_put] at present
        split at present
        · obtain rfl := Option.some.inj present
          exact Or.inl rfl
        · exact Or.inr (stored present rfl)
      cases held : leases.find? gpuId with
      | none =>
          simp only [held] at found
          exact written found
      | some old =>
          simp only [held] at found
          split at found
          · exact written found
          · exact Or.inr (stored found rfl)
  | renew gpuId jobId =>
      simp only [shape, LeaseTable.renew] at found
      cases held : leases.find? gpuId with
      | none =>
          simp only [held] at found
          exact Or.inr ⟨lease, (Table.find?_some found).1, rfl⟩
      | some old =>
          simp only [held] at found
          split at found
          · rw [Table.find?_update, Option.map_eq_some_iff] at found
            obtain ⟨previous, present, rfl⟩ := found
            refine Or.inr ⟨previous, (Table.find?_some present).1, ?_⟩
            split <;> rfl
          · exact Or.inr ⟨lease, (Table.find?_some found).1, rfl⟩
  | release gpuId jobId =>
      simp only [shape, LeaseTable.release] at found
      cases held : leases.find? gpuId with
      | none =>
          simp only [held] at found
          exact Or.inr ⟨lease, (Table.find?_some found).1, rfl⟩
      | some old =>
          simp only [held] at found
          split at found
          · rw [Table.find?_keep, Option.filter_eq_some_iff] at found
            exact Or.inr ⟨lease, (Table.find?_some found.1).1, rfl⟩
          · exact Or.inr ⟨lease, (Table.find?_some found).1, rfl⟩
  | cleanupExpired =>
      simp only [shape, LeaseTable.cleanupExpired, Table.find?_keep,
        Option.filter_eq_some_iff] at found
      exact Or.inr ⟨lease, (Table.find?_some found.1).1, rfl⟩

/-- Leases are created before they are looked at. Witness: induction on the calls; each call is
later than every lease that is stored when it is made.
-/
theorem created_le_of_mem_visits {calls : List TimedLeaseCall} (ordered : Chronological calls)
    (created : ∀ timed ∈ calls, ∀ lease ∈ leases.rows, lease.createdAt ≤ timed.time)
    {visit : Visit LeaseTable TimedLeaseCall LeaseReply}
    (member : visit ∈ visits leaseStep leases calls)
    : ∀ lease ∈ visit.before.rows, lease.createdAt ≤ visit.call.time := by
  induction calls generalizing leases with
  | nil => simp [visits] at member
  | cons first rest ih =>
      obtain ⟨laterThanFirst, restOrdered⟩ := List.pairwise_cons.mp ordered
      simp only [visits, List.mem_cons] at member
      rcases member with rfl | later
      · exact created first (by simp)
      · refine ih restOrdered ?_ later
        intro timed timedMember lease stored
        rcases leaseStep_rows stored with new | ⟨old, oldStored, same⟩
        · rw [new]
          exact laterThanFirst timed timedMember
        · rw [same]
          exact created timed (List.mem_cons_of_mem _ timedMember) old oldStored

theorem deadline_renewed {now : ℚ} (created : lease.createdAt ≤ now) (live : now ≤ lease.deadline)
    : now ≤ { lease with renewed := lease.renewed + 1 : GPULease }.deadline := by
  unfold GPULease.deadline at live ⊢
  have count : (0 : ℚ) < 1 + lease.renewed := by positivity
  have ttlNonneg : 0 ≤ lease.ttl := by
    by_contra negative
    have product := mul_neg_of_neg_of_pos (not_le.mp negative) count
    linarith
  push_cast
  nlinarith

theorem renew_answers
    : (leases.renew gpuId jobId).1 = true
      ↔ ∃ lease, leases.find? gpuId = some lease ∧ lease.jobId = jobId := by
  unfold LeaseTable.renew
  cases found : leases.find? gpuId with
  | none => simp
  | some held =>
      by_cases own : held.jobId = jobId
      · simp [own]
      · simp [own]

theorem find?_renew (found : leases.find? gpuId = some lease) (own : lease.jobId = jobId)
    : (leases.renew gpuId jobId).2.find? gpuId
      = some { lease with renewed := lease.renewed + 1 } := by
  have same := (Table.find?_some found).2
  unfold LeaseTable.renew
  simp only [found, own, if_true]
  rw [Table.find?_update, found]
  simp [same, own]

theorem acquire_answers {workerId : String} {ttl now : ℚ}
    (granted : (leases.acquire gpuId jobId workerId ttl now).1 = true)
    (found : leases.find? gpuId = some lease)
    : lease.isExpired now = true := by
  unfold LeaseTable.acquire at granted
  simp only [found] at granted
  by_contra live
  simp [live] at granted

/-- On every chronological sequence of calls on a lease manager, acquisition is exclusive, a GPU
has at most one holder and a True renewal names the holder, if and only if no job renews its
lease after the lease's deadline.
-/
theorem leases_sound_iff (calls : List TimedLeaseCall) (ordered : Chronological calls)
    : LeasesSound calls ↔ RenewsInTime calls := by
  constructor
  · intro sound visit member gpuId jobId renews lease found own
    have stepped := step_of_mem_visits member
    have replied : visit.reply = .answered true := by
      have answer : (visit.before.renew gpuId jobId).1 = true :=
        renew_answers.mpr ⟨lease, found, own⟩
      have shape := congrArg Prod.fst stepped
      simp only [leaseStep, renews, answer] at shape
      exact shape.symm
    have before := (sound.honest visit member gpuId jobId renews replied).2
    simp only [LeaseTable.getHolder, found, GPULease.isExpired] at before
    by_contra late
    simp [not_le.mp late] at before
  · intro inTime
    refine ⟨?_, ?_, ?_⟩
    · intro visit member gpuId jobId workerId ttl acquires replied lease found
      have shape := congrArg Prod.fst (step_of_mem_visits member)
      simp only [leaseStep, acquires, replied, LeaseReply.answered.injEq] at shape
      exact acquire_answers shape found
    · intro visit member gpuId now left right leftHolds rightHolds
      rw [holdsGpu_iff] at leftHolds rightHolds
      exact Option.some.inj (leftHolds.symm.trans rightHolds)
    · intro visit member gpuId jobId renews replied
      have stepped := step_of_mem_visits member
      have reply := congrArg Prod.fst stepped
      have after := congrArg Prod.snd stepped
      simp only [leaseStep, renews, replied, LeaseReply.answered.injEq] at reply after
      obtain ⟨lease, found, rfl⟩ := renew_answers.mp reply
      have live := inTime visit member gpuId lease.jobId renews lease found rfl
      have created := created_le_of_mem_visits ordered (by simp [Table.empty]) member lease
        (Table.find?_some found).1
      have extended := deadline_renewed created live
      have renewed := find?_renew found rfl
      rw [after] at renewed
      constructor
      · simp [LeaseTable.getHolder, renewed, GPULease.isExpired, not_lt.mpr extended]
      · simp [LeaseTable.getHolder, found, GPULease.isExpired, not_lt.mpr live]

def renewedInTime : List TimedLeaseCall :=
  [⟨0, .acquire "w-gpu-0" "job" "w" 1⟩, ⟨1 / 2, .renew "w-gpu-0" "job"⟩]

/-- The renewal in time is a sequence of the theorem. -/
theorem renewedInTime_sound
    : Chronological renewedInTime ∧ LeasesSound renewedInTime := by
  have ordered : Chronological renewedInTime := by
    simp [Chronological, renewedInTime]
  refine ⟨ordered, (leases_sound_iff renewedInTime ordered).mpr ?_⟩
  intro visit member gpuId jobId renews lease found _
  simp only [leaseVisits, renewedInTime, visits, List.mem_cons, List.not_mem_nil, or_false]
    at member
  rcases member with rfl | rfl
  · simp at renews
  · simp only [LeaseCall.renew.injEq] at renews
    obtain ⟨rfl, rfl⟩ := renews
    simp [leaseStep, LeaseTable.acquire] at found
    subst found
    norm_num [GPULease.deadline]

def renewedTooLate : List TimedLeaseCall :=
  [⟨0, .acquire "w-gpu-0" "job" "w" 1⟩, ⟨10, .renew "w-gpu-0" "job"⟩]

/-- The late renewal returns True and the GPU has no holder. -/
theorem lapsed_lease_renewed
    : Chronological renewedTooLate ∧ ¬ LeasesSound renewedTooLate := by
  refine ⟨by simp [Chronological, renewedTooLate], ?_⟩
  intro sound
  have honest := sound.honest
    ⟨(LeaseTable.acquire Table.empty "w-gpu-0" "job" "w" 1 0).2, ⟨10, .renew "w-gpu-0" "job"⟩,
      .answered true,
      (LeaseTable.renew (LeaseTable.acquire Table.empty "w-gpu-0" "job" "w" 1 0).2
        "w-gpu-0" "job").2⟩
    (by
      simp only [leaseVisits, renewedTooLate, visits, List.mem_cons]
      exact Or.inr (Or.inl rfl))
    "w-gpu-0" "job" rfl rfl
  exact absurd honest.1 (by decide +kernel)

end RomaBridge.Properties
