import RomaBridge.Model.GpuLocks

/-! Exclusion of GPU locks. The `acquire` of the manager judges an existing lock by the time to live it is
asked for, every other method by the one that was granted, so the two agree unless the age lies
between them. A job that was granted a GPU by the service has it until the grant expires or is given
back; what `/lock/status` reports is the entry of the GPU, expired or not.
-/

namespace RomaBridge.Properties

open RomaBridge.Foundation

section GPULockManager

open Guarded RomaBridge.Model.GpuLocks

variable {manager : GPULockManager} {gpuId jobId : String} {ttl : Option ℤ} {now : ℤ}

def AcquireExact (visit : Visit GPULockManager LockCall LockReply) : Prop :=
  match visit.call with
  | .acquire gpuId _ _ checked _ =>
      ∃ success, visit.reply = .acquired success
        ∧ (success = true ↔ (visit.before.isLocked gpuId checked).call = some false)
  | _ => True

def unexpiredHolder (manager : GPULockManager) (gpuId : String) (now : ℤ) : Option String :=
  ((manager.locks.find? gpuId).filter (fun lock => lock.unexpired now)).map GPULock.jobId

/-- The locks that have not expired, each at its own reading of the clock. -/
def unexpiredLocks (manager : GPULockManager) (now : String → ℤ) : List GPULock :=
  manager.locks.rows.filter (fun lock => lock.unexpired (now lock.gpuId))

/-- The age of an existing lock is below both times to live, the granted and the requested one, or
it has reached both.
-/
def AgeOutsideTtls (manager : GPULockManager) : LockCall → Prop
  | .acquire gpuId _ ttl checked _ =>
      ∀ lock, manager.locks.find? gpuId = some lock →
        checked - lock.acquiredAt < min (manager.ttlOrDefault ttl) lock.ttlSeconds * 1000000
        ∨ max (manager.ttlOrDefault ttl) lock.ttlSeconds * 1000000 ≤ checked - lock.acquiredAt
  | _ => True

theorem isLocked_call
    : (manager.isLocked gpuId now).call
      = some (((manager.locks.find? gpuId).map (fun lock => lock.unexpired now)).getD false) := by
  unfold GPULockManager.isLocked
  rw [call_withLock]
  cases manager.locks.find? gpuId <;> rfl

theorem isLocked_held : manager.isLocked gpuId now true = none := rfl

/-- `acquire` succeeds unless there is a lock younger than the requested time to live. -/
theorem lockStep_acquire_reply (manager : GPULockManager) (gpuId jobId : String) (ttl : Option ℤ)
    (checked stored : ℤ)
    : (lockStep manager (.acquire gpuId jobId ttl checked stored)).1
      = .acquired (!((manager.locks.find? gpuId).map
          (fun lock => lock.youngerThan (manager.ttlOrDefault ttl) checked)).getD false) := by
  unfold lockStep serve GPULockManager.acquire
  simp only [Guarded.call, bind_apply, withLock_free]
  cases manager.locks.find? gpuId with
  | none => rfl
  | some lock =>
      cases younger : lock.youngerThan (manager.ttlOrDefault ttl) checked <;> simp [younger]

/-- `get_lock_holder` waits forever exactly when the GPU has an entry, expired or not. -/
theorem getLockHolder_call
    : (manager.getLockHolder gpuId now).call
      = if (manager.locks.find? gpuId).isSome then none else some none := by
  unfold GPULockManager.getLockHolder
  rw [call_withLock]
  cases manager.locks.find? gpuId with
  | none => rfl
  | some lock => simp [isLocked_held]

/-- `get_all_locks` waits forever exactly when there is an entry. -/
theorem getAllLocks_call (now : String → ℤ)
    : (manager.getAllLocks now).call = if manager.locks.rows = [] then some [] else none := by
  unfold GPULockManager.getAllLocks
  rw [call_withLock]
  exact filterM_held _ _ (fun _ => rfl)

theorem acquireExact_iff {visit : Visit GPULockManager LockCall LockReply}
    (step : lockStep visit.before visit.call = (visit.reply, visit.after))
    : AcquireExact visit ↔ AgeOutsideTtls visit.before visit.call := by
  obtain ⟨before, call, reply, after⟩ := visit
  cases call with
  | acquire gpuId jobId ttl checked stored =>
      have answer := lockStep_acquire_reply before gpuId jobId ttl checked stored
      simp only at step
      rw [step] at answer
      simp only at answer
      subst answer
      simp only [AcquireExact, AgeOutsideTtls, isLocked_call]
      cases before.locks.find? gpuId with
      | none => simp
      | some lock =>
          simp [GPULock.unexpired, GPULock.youngerThan]
          -- Both sides compare one age with the two times to live.
          omega
  | release gpuId => simp [AcquireExact, AgeOutsideTtls]
  | forceRelease gpuId jobId => simp [AcquireExact, AgeOutsideTtls]
  | cleanupExpired now => simp [AcquireExact, AgeOutsideTtls]

theorem getLockHolder_exact_iff
    : (manager.getLockHolder gpuId now).call = some (unexpiredHolder manager gpuId now)
      ↔ manager.locks.find? gpuId = none := by
  rw [getLockHolder_call]
  cases found : manager.locks.find? gpuId <;> simp [unexpiredHolder, found]

theorem getAllLocks_exact_iff (now : String → ℤ)
    : (manager.getAllLocks now).call = some (unexpiredLocks manager now)
      ↔ manager.locks.rows = [] := by
  rw [getAllLocks_call]
  by_cases empty : manager.locks.rows = [] <;> simp [unexpiredLocks, empty]

/-- After any calls at any times: each `acquire` was exact exactly when it found no lock of an age
between the requested and the granted time to live, and each reader returns the unexpired holders
exactly when it has no entry to look at.
-/
theorem lock_exclusion_iff (defaultTtl : ℤ) (calls : List LockCall)
    : (∀ visit ∈ visits lockStep (newLockManager defaultTtl) calls,
        AcquireExact visit ↔ AgeOutsideTtls visit.before visit.call)
      ∧ (∀ gpuId now,
          ((finalState lockStep (newLockManager defaultTtl) calls).getLockHolder gpuId now).call
              = some (unexpiredHolder (finalState lockStep (newLockManager defaultTtl) calls)
                  gpuId now)
            ↔ (finalState lockStep (newLockManager defaultTtl) calls).locks.find? gpuId = none)
      ∧ ∀ now,
          ((finalState lockStep (newLockManager defaultTtl) calls).getAllLocks now).call
              = some (unexpiredLocks (finalState lockStep (newLockManager defaultTtl) calls) now)
            ↔ (finalState lockStep (newLockManager defaultTtl) calls).locks.rows = [] := by
  refine ⟨?_, ?_, ?_⟩
  · intro visit member
    exact acquireExact_iff (step_of_mem_visits member)
  · intro gpuId now
    exact getLockHolder_exact_iff
  · intro now
    exact getAllLocks_exact_iff now

def hourThenTenSeconds : List LockCall :=
  [.acquire "gpu-0" "job-001" none 0 0, .acquire "gpu-0" "job-002" (some 10) 60000000 60000000]

/-- The second request takes a GPU that is locked, and no reader ever answers. -/
theorem hourThenTenSeconds_not_exclusive
    : (∃ visit ∈ visits lockStep (newLockManager 3600) hourThenTenSeconds, ¬ AcquireExact visit)
      ∧ ((finalState lockStep (newLockManager 3600) hourThenTenSeconds).getLockHolder
          "gpu-0" 60000000).call = none
      ∧ ((finalState lockStep (newLockManager 3600) hourThenTenSeconds).getAllLocks
          (fun _ => 60000000)).call = none := by
  refine ⟨?_, rfl, rfl⟩
  refine ⟨_, List.mem_cons_of_mem _ List.mem_cons_self, ?_⟩
  rw [acquireExact_iff rfl]
  intro outside
  have between := outside ⟨"gpu-0", "job-001", 0, 3600⟩ (by decide +kernel)
  revert between
  decide +kernel

end GPULockManager

section ReportedLocks

open RomaBridge.Model.GpuLockService

/-- The service as its jobs see it: when it was last asked, and until when each GPU was granted to
each job that did not give it back.
-/
structure WatchedLocks where
  locks : Locks
  clock : ℚ
  granted : String → String → Option ℚ

def grantedAfter (granted : String → String → Option ℚ)
    : LockRequest → LockAnswer → String → String → Option ℚ
  | .acquire gpuId jobId ttlSeconds stored, .acquired _ _ => fun gpu job =>
      if gpu = gpuId ∧ job = jobId then some (stored + ttlSeconds) else granted gpu job
  | .release gpuId jobId, .released _ => fun gpu job =>
      if gpu = gpuId ∧ job = jobId then none else granted gpu job
  | _, _ => granted

/-- A request that comes some time after the last one. -/
def lockServiceStep (watched : WatchedLocks) (timed : ℚ≥0 × LockRequest) : LockAnswer × WatchedLocks :=
  let now := watched.clock + timed.1
  let (answer, locks) := serve watched.locks now timed.2
  (answer, ⟨locks, now, grantedAfter watched.granted timed.2 answer⟩)

def newLockService (clock : ℚ) : WatchedLocks := ⟨Table.empty, clock, fun _ _ => none⟩

def HoldsLock (watched : WatchedLocks) (now : ℚ) (gpuId jobId : String) : Prop :=
  ∃ expiresAt, watched.granted gpuId jobId = some expiresAt ∧ now < expiresAt

def OneHolderEach (watched : WatchedLocks) : Prop :=
  ∀ now gpuId first second, watched.clock ≤ now → HoldsLock watched now gpuId first →
    HoldsLock watched now gpuId second → first = second

/-- `/lock/status` at a time reports that the job has the GPU. -/
def Reports (locks : Locks) (now : ℚ) (gpuId jobId : String) : Prop :=
  ∃ expiresIn, status locks now gpuId = .locked jobId expiresIn

/-- The answer is the one that `/lock/status` gives reason for. -/
def AnswersAsReported (locks : Locks) (now : ℚ) : LockRequest → LockAnswer → Prop
  | .acquire gpuId jobId _ _, answer =>
      answer = .error 409 "Already locked" ↔ ∃ holder ≠ jobId, Reports locks now gpuId holder
  | .release gpuId jobId, answer => answer = .released gpuId ↔ Reports locks now gpuId jobId
  | .status _, _ => True

/-- The entry of another job that an `acquire` finds has not expired. -/
def NoneExpired (locks : Locks) (now : ℚ) : LockRequest → Prop
  | .acquire gpuId jobId _ _ =>
      ∀ entry, locks.find? gpuId = some entry → entry.jobId ≠ jobId → now < entry.expiresAt
  | _ => True

theorem reports_iff {locks : Locks} {now : ℚ} {gpuId jobId : String}
    : Reports locks now gpuId jobId
      ↔ ∃ entry, locks.find? gpuId = some entry ∧ entry.jobId = jobId := by
  unfold Reports status
  cases locks.find? gpuId <;> simp

theorem acquire_refused_iff {locks : Locks} {now : ℚ} {gpuId jobId : String} {ttlSeconds : ℤ}
    {stored : ℚ}
    : (acquire locks now gpuId jobId ttlSeconds stored).1 = .error 409 "Already locked"
      ↔ ∃ entry, locks.find? gpuId = some entry ∧ now < entry.expiresAt ∧ entry.jobId ≠ jobId := by
  unfold acquire
  cases locks.find? gpuId with
  | none => simp
  | some entry => by_cases other : now < entry.expiresAt ∧ entry.jobId ≠ jobId <;> simp [other]

/-- An `acquire` is refused for an entry of another job, unless that entry has expired. -/
theorem answersAsReported_iff (locks : Locks) (now : ℚ) (request : LockRequest)
    : AnswersAsReported locks now request (serve locks now request).1
      ↔ NoneExpired locks now request := by
  cases request with
  | acquire gpuId jobId ttlSeconds stored =>
      simp only [AnswersAsReported, NoneExpired, serve, acquire_refused_iff, reports_iff]
      cases locks.find? gpuId with
      | none => simp
      | some entry =>
          simp only [Option.some.injEq, exists_eq_left', forall_eq']
          constructor
          · intro same other
            exact (same.mpr ⟨_, other, rfl⟩).1
          · intro unexpired
            constructor
            · exact fun refused => ⟨_, refused.2, rfl⟩
            · rintro ⟨_, other, rfl⟩
              exact ⟨unexpired other, other⟩
  | release gpuId jobId =>
      simp only [AnswersAsReported, NoneExpired, serve, release, reports_iff, iff_true]
      cases locks.find? gpuId with
      | none => simp
      | some entry => by_cases own : entry.jobId = jobId <;> simp [own]
  | status => exact iff_of_true trivial trivial

def GrantsEntered (watched : WatchedLocks) : Prop :=
  ∀ gpuId jobId expiresAt, watched.granted gpuId jobId = some expiresAt →
    watched.clock < expiresAt → watched.locks.find? gpuId = some ⟨gpuId, jobId, expiresAt⟩

theorem GrantsEntered.oneHolderEach {watched : WatchedLocks} (entered : GrantsEntered watched)
    : OneHolderEach watched := by
  intro now gpuId first second order ⟨_, granted, holds⟩ ⟨_, granted', holds'⟩
  have found := entered gpuId first _ granted (order.trans_lt holds)
  rw [entered gpuId second _ granted' (order.trans_lt holds'), Option.some.injEq] at found
  exact (congrArg LockEntry.jobId found).symm

theorem GrantsEntered.step {watched : WatchedLocks} (entered : GrantsEntered watched)
    (timed : ℚ≥0 × LockRequest)
    : GrantsEntered (lockServiceStep watched timed).2 := by
  obtain ⟨wait, request⟩ := timed
  have later : watched.clock ≤ watched.clock + wait := le_add_of_nonneg_right wait.coe_nonneg
  have still : ∀ {gpuId jobId expiresAt}, watched.granted gpuId jobId = some expiresAt →
      watched.clock + wait < expiresAt →
      watched.locks.find? gpuId = some ⟨gpuId, jobId, expiresAt⟩ :=
    fun granted holds => entered _ _ _ granted (later.trans_lt holds)
  cases request with
  | acquire gpuId jobId ttlSeconds stored =>
      by_cases refused : (watched.locks.find? gpuId).any
          (fun entry => watched.clock + wait < entry.expiresAt && entry.jobId ≠ jobId)
      · simp only [lockServiceStep, serve, acquire, if_pos refused]
        exact fun _ _ _ => still
      · simp only [lockServiceStep, serve, acquire, if_neg refused]
        intro gpu job expiresAt granted holds
        simp only [grantedAfter] at granted
        rw [Table.find?_put]
        split at granted
        · rename_i own
          obtain ⟨rfl, rfl⟩ := own
          obtain rfl := Option.some.inj granted
          exact if_pos rfl
        · rename_i notOwn
          have found := still granted holds
          rw [if_neg]
          · exact found
          · -- Another job with an unexpired entry would have been a reason to refuse.
            rintro rfl
            refine refused ?_
            rw [found]
            simpa using And.intro holds (fun same => notOwn ⟨rfl, same⟩)
  | release gpuId jobId =>
      by_cases owned : (watched.locks.find? gpuId).any (fun entry => entry.jobId = jobId)
      · simp only [lockServiceStep, serve, release, if_pos owned]
        intro gpu job expiresAt granted holds
        simp only [grantedAfter] at granted
        split at granted
        · cases granted
        · rename_i notOwn
          have found := still granted holds
          rw [Table.find?_keep, found, Option.filter_some, if_pos]
          rw [decide_eq_true_eq]
          rintro rfl
          rw [found] at owned
          exact notOwn ⟨rfl, by simpa using owned⟩
      · simp only [lockServiceStep, serve, release, if_neg owned]
        exact fun _ _ _ => still
  | status gpuId => exact fun _ _ _ => still

/-- At each moment of a run at most one job holds a GPU, and its answers are as reported. -/
def LocksRight (visit : Visit WatchedLocks (ℚ≥0 × LockRequest) LockAnswer) : Prop :=
  AnswersAsReported visit.before.locks (visit.before.clock + visit.call.1) visit.call.2 visit.reply

theorem one_holder_per_gpu (clock : ℚ) (requests : List (ℚ≥0 × LockRequest))
    : ∀ visit ∈ visits lockServiceStep (newLockService clock) requests, OneHolderEach visit.after := by
  intro visit member
  have entered := invariant_of_mem_visits GrantsEntered (by intro _ _ _ granted; cases granted)
    (fun _ timed _ holds => GrantsEntered.step holds timed) member
  exact entered.2.oneHolderEach

theorem locks_as_reported_iff (clock : ℚ) (requests : List (ℚ≥0 × LockRequest))
    : (∀ visit ∈ visits lockServiceStep (newLockService clock) requests,
        OneHolderEach visit.after ∧ LocksRight visit)
      ↔ ∀ visit ∈ visits lockServiceStep (newLockService clock) requests,
        NoneExpired visit.before.locks (visit.before.clock + visit.call.1) visit.call.2 := by
  refine forall₂_congr fun visit member => ?_
  rw [and_iff_right (one_holder_per_gpu clock requests visit member)]
  have reply : (serve visit.before.locks (visit.before.clock + visit.call.1) visit.call.2).1
      = visit.reply := congrArg Prod.fst (step_of_mem_visits member)
  rw [LocksRight, ← answersAsReported_iff, reply]

/-- `job-b` acquires the GPU that `job-a` is still reported to have. -/
def takenOver : List (ℚ≥0 × LockRequest) :=
  [(0, .acquire "gpu-0" "job-a" 1 0), (2, .acquire "gpu-0" "job-b" 1 2)]

theorem expired_lock_still_reported
    : ¬ ∀ visit ∈ visits lockServiceStep (newLockService 0) takenOver,
        OneHolderEach visit.after ∧ LocksRight visit := by
  intro right
  have last := (right _ (List.mem_cons_of_mem _ List.mem_cons_self)).2
  have unexpired := (answersAsReported_iff _ _ _).mp last ⟨"gpu-0", "job-a", 1⟩
    (by decide +kernel) (by decide)
  exact absurd unexpired (by decide +kernel)

end ReportedLocks

end RomaBridge.Properties
