import RomaBridge.Model.ControlPlane

/-! What the operations of the control plane leave under one key: a job after a write of the
store, a lease after a release.
-/

namespace RomaBridge.Behaviour

open RomaBridge.Foundation RomaBridge.Model.ControlPlane

theorem jobIdOf_number {left right : ℕ} {leftSuffix rightSuffix : String}
    (same : jobIdOf left leftSuffix = jobIdOf right rightSuffix)
    : left = right := by
  have digits : ∀ n : ℕ, '-' ∉ paddedDigits 5 n := by
    intro n member
    rcases List.mem_append.mp member with zero | digit
    · exact absurd (List.eq_of_mem_replicate zero) (by decide)
    · exact absurd (isDigit_of_mem_toDigits digit) (by decide)
  have value : ∀ n : ℕ, Nat.ofDigitChars 10 (paddedDigits 5 n) 0 = n := by
    intro n
    simp [paddedDigits, Nat.ofDigitChars_append]
  have lists := String.ofList_injective same
  simp only [List.append_assoc, List.append_cancel_left_eq] at lists
  have heads := congrArg (List.takeWhile (fun c => c ≠ '-')) lists
  have taken : ∀ (n : ℕ) (suffix : List Char),
      (paddedDigits 5 n ++ '-' :: suffix).takeWhile (fun c => c ≠ '-') = paddedDigits 5 n := by
    intro n suffix
    rw [List.takeWhile_append_of_pos]
    · simp
    · intro c member
      simpa using fun equal : c = '-' => digits n (equal ▸ member)
  rw [taken, taken] at heads
  rw [← value left, ← value right, heads]

theorem get_submitted_none (store : JobStore) (suffix : String)
    : store.get (jobIdOf (store.seq + 1) suffix) = none := by
  by_contra stored
  obtain ⟨job, found⟩ := Option.ne_none_iff_exists'.mp stored
  obtain ⟨member, same⟩ := Table.find?_some found
  obtain ⟨number, passed, old, built⟩ := store.numbered job member
  have equal := jobIdOf_number (built.symm.trans same)
  omega

theorem get_write (store : JobStore) (written jobId : String) (change : Job → Job)
    (keeps : ∀ job, (change job).id = job.id)
    : (store.write written change keeps).get jobId
      = if jobId = written then (store.get jobId).map change else store.get jobId := by
  unfold JobStore.get JobStore.write
  rw [Table.find?_update]
  cases found : store.jobs.find? jobId with
  | none => simp
  | some job =>
      have same := (Table.find?_some found).2
      by_cases own : jobId = written
      · simp [same, own]
      · simp [same, own]

theorem get_advancePending (store : JobStore) (jobId : String)
    : store.advancePending.2.get jobId
      = (store.get jobId).map (fun job =>
          if job.status = .pendingRetry then { job with status := .submitted } else job) := by
  simp [JobStore.get, JobStore.advancePending, Table.find?_update]

theorem get_requeue {store : JobStore} {jobId : String} {job : Job}
    (found : store.get jobId = some job)
    : (store.requeue jobId).1 = job.isRetryable
      ∧ (store.requeue jobId).2.get jobId
        = some (if job.isRetryable then
            { job with
              status := .pendingRetry, workerId := none, retryCount := job.retryCount + 1 }
          else { job with status := .dead }) := by
  unfold JobStore.requeue
  simp only [found]
  by_cases retryable : job.isRetryable
  · simp [retryable, get_write, found]
  · simp [retryable, get_write, found]

theorem get_fail {store : JobStore} {jobId : String} (error : String) (now : ℚ) {job : Job}
    (found : store.get jobId = some job) (running : job.status = .running) (other : String)
    : (store.fail jobId error now).2.get other
      = if other = jobId then
          some { job with status := .failed, error := some error, completedAt := some now }
        else store.get other := by
  unfold JobStore.fail
  simp only [found, running, ne_eq, not_true_eq_false, false_and, if_false]
  rw [get_write]
  by_cases own : other = jobId
  · simp [own, found]
  · simp [own]

theorem get_requeue_of_ne {store : JobStore} {jobId other : String} (different : other ≠ jobId)
    : (store.requeue jobId).2.get other = store.get other := by
  unfold JobStore.requeue
  cases found : store.get jobId with
  | none => rfl
  | some job =>
      simp only
      split
      · simp [get_write, different]
      · simp [get_write, different]

theorem find?_release (leases : LeaseTable) (gpuId jobId other : String)
    : (leases.release gpuId jobId).2.find? other
      = (leases.find? other).filter
          (fun lease => ! (decide (other = gpuId) && decide (lease.jobId = jobId))) := by
  unfold LeaseTable.release
  cases held : leases.find? gpuId with
  | none =>
      by_cases same : other = gpuId
      · simp [same, held]
      · cases leases.find? other <;> simp [Option.filter, same]
  | some lease =>
      by_cases own : lease.jobId = jobId
      · simp only [own, if_true, Table.find?_keep]
        cases found : leases.find? other with
        | none => rfl
        | some stored =>
            have key := (Table.find?_some found).2
            by_cases same : other = gpuId
            · subst same
              obtain rfl := Option.some.inj (found.symm.trans held)
              simp [Option.filter, key, own]
            · simp [Option.filter, key, same]
      · simp only [own, if_false]
        by_cases same : other = gpuId
        · subst same
          simp [Option.filter, held, own]
        · cases leases.find? other <;> simp [Option.filter, same]

/-- A loop of releases for one job removes its leases on the named GPUs, by induction on the
names.
-/
theorem find?_releases (leases : LeaseTable) (names : List String) (jobId other : String)
    : (names.foldl (fun table name => (table.release name jobId).2) leases).find? other
      = (leases.find? other).filter
          (fun lease => ! (decide (other ∈ names) && decide (lease.jobId = jobId))) := by
  induction names generalizing leases with
  | nil =>
      rw [List.foldl_nil]
      cases leases.find? other <;> simp [Option.filter]
  | cons name rest ih =>
      rw [List.foldl_cons, ih, find?_release, Option.filter_filter]
      congr 1
      funext lease
      by_cases same : other = name
      · by_cases own : lease.jobId = jobId
        · simp [same, own]
        · simp [own]
      · simp [same]

theorem gpuName_index {workerId : String} {left right : ℕ}
    (same : gpuName workerId left = gpuName workerId right)
    : left = right := by
  have lists := congrArg String.toList same
  simp only [gpuName, String.toList_append, String.toList_ofList] at lists
  have digits := List.append_cancel_left lists
  have value := congrArg (fun run => Nat.ofDigitChars 10 run 0) digits
  simpa using value

end RomaBridge.Behaviour
