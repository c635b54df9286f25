import RomaBridge.Behaviour.ThreadCalls

/-! When a terminal job status is final.
Seven statements write the `status` column without `if_status_not_in`; every other writer
excludes the terminal statuses in its `WHERE` clause. A terminal status is final exactly as
long as none of the seven hits a terminal row.
-/

namespace RomaBridge.Properties

open RomaBridge.Foundation RomaBridge.Model Program

variable {kind : Kind} {db : Db} {jobId : JobId}

/-- The statements that write `status` whatever it is. -/
def blindSites : List Site :=
  [.workerDispatchFailed, .workerNotReady, .workerRunning, .workerDispatchError, .retryWrite,
    .jobsCompleteWrite, .ackWrite]

theorem jobWrite_guarded {site : Site} {update : JobUpdate} (written : JobWrite kind site update)
    (sighted : site ∉ blindSites)
    : update.status = none ∨ ∀ status ∈ terminalStatuses, status ∈ update.ifStatusNotIn := by
  cases written with
  | dispatchEnd sited =>
      refine absurd ?_ sighted
      rcases sited with rfl | rfl | rfl <;> decide
  | running => exact absurd (by decide) sighted
  | retry => exact absurd (by decide) sighted
  | completeV1 => exact absurd (by decide) sighted
  | ack => exact absurd (by decide) sighted
  | final => exact Or.inr (fun status terminal => List.mem_append_left _ terminal)
  | drain => exact Or.inr (fun status terminal => List.mem_append_left _ terminal)
  | sweepClose => exact Or.inr (fun status terminal => terminal)
  | cancel => exact Or.inr (by simp [cancelUpdate, cancelBlockedStatuses, terminalStatuses])
  | complete => exact Or.inr (by simp [completeUpdate, terminalStatuses])
  | marker => exact Or.inl rfl
  | sweepNoFunds => exact Or.inl rfl
  | refundClear => exact Or.inl rfl
  | submitBackend => exact Or.inl rfl

theorem jobWrite_retry {update : JobUpdate} (written : JobWrite kind .retryWrite update)
    : update.status = some .queued := by
  cases written with
  | retry => rfl
  | dispatchEnd sited => simp at sited
  | sweepClose sited => simp at sited
  | cancel _ sited => simp at sited

theorem mem_terminalStatuses {status : JobStatus}
    : status ∈ terminalStatuses
      ↔ status ∈ [JobStatus.completed, .cancelled, .timeout] ∨ status = .failed := by
  simp only [terminalStatuses, List.mem_cons, List.not_mem_nil, or_false]
  tauto

theorem terminal_apply {call : Call} {row : JobRow} (issued : KindCall kind call)
    (found : db.job? jobId = some row) (terminal : row.status ∈ terminalStatuses)
    : (db.apply call.query).2.status? jobId = some row.status
      ∨ ∃ update status,
          call.query = .updateExecutionJob update
          ∧ call.site ∈ blindSites
          ∧ update.selects row = true
          ∧ update.status = some status
          ∧ status ≠ row.status
          ∧ (db.apply call.query).2.status? jobId = some status := by
  obtain ⟨site, query⟩ := call
  have change := db.apply_job? query jobId
  unfold Db.status?
  revert change
  generalize (db.apply query).2.job? jobId = after
  intro change
  cases change with
  | same => exact Or.inl (by rw [found, Option.map_some])
  | insert absent =>
      rw [found] at absent
      cases absent
  | claim found' picked =>
      cases found.symm.trans found'
      rw [(Db.mem_queuedRows picked).2] at terminal
      exact absurd terminal (by decide)
  | orphan found' orphan =>
      cases found.symm.trans found'
      simp only [isOrphan, Bool.and_eq_true, decide_eq_true_eq] at orphan
      rw [orphan.1] at terminal
      exact absurd terminal (by decide)
  | @update update _ found' selected =>
      cases found.symm.trans found'
      cases written : update.status with
      | none => exact Or.inl (by simp [JobUpdate.write, written])
      | some status =>
          have after : (update.write db.clock row).status = status := by
            simp [JobUpdate.write, written]
          by_cases same : status = row.status
          · exact Or.inl (by rw [Option.map_some, after, same])
          · by_cases sighted : site ∈ blindSites
            · exact Or.inr ⟨update, status, rfl, sighted, selected, written, same,
                by rw [Option.map_some, after]⟩
            · rcases jobWrite_guarded (kindCall_update issued) sighted with none | excluded
              · rw [none] at written
                cases written
              · exact absurd (excluded _ terminal) (Db.selects_status selected)

/-- The call is an unguarded write that changes a terminal status of the job. A retry of a
failed job is no such write.
-/
def overwrites (jobId : JobId) (db : Db) (call : Call) : Bool :=
  match call.query, db.job? jobId with
  | .updateExecutionJob update, some row =>
      blindSites.contains call.site
      && update.selects row
      && terminalStatuses.contains row.status
      && update.status.any (fun status => status ≠ row.status)
      && !(call.site = .retryWrite && row.status = .failed)
  | _, _ => false

/-- No unguarded write takes effect on a terminal row of the job. -/
def Spares (jobId : JobId) : Config bridge Db Kind Answer → Label Kind → Prop :=
  Config.Permits (fun db _ call fault =>
    fault.takesEffect = true → overwrites jobId db call = false)

instance (jobId : JobId) (config : Config bridge Db Kind Answer) (label : Label Kind)
    : Decidable (Spares jobId config label) :=
  inferInstanceAs (Decidable (Config.Permits _ config label))

/-- One step treats the job's status as final. -/
structure Final (jobId : JobId) (config : Config bridge Db Kind Answer) (label : Label Kind)
    (next : Config bridge Db Kind Answer)
    : Prop where
  settled
    : ∀ status ∈ [JobStatus.completed, .cancelled, .timeout],
        config.store.status? jobId = some status → next.store.status? jobId = some status
  failed
    : config.store.status? jobId = some .failed
      → next.store.status? jobId = some .failed
        ∨ next.store.status? jobId = some .queued
          ∧ ∃ kind call fault,
              config.executing label = some (kind, call, fault) ∧ call.site = .retryWrite

theorem job?_of_status? {status : JobStatus} (known : db.status? jobId = some status)
    : ∃ row, db.job? jobId = some row ∧ row.status = status :=
  Option.map_eq_some_iff.mp known

theorem terminal_spared {call : Call} {row : JobRow} (issued : KindCall kind call)
    (found : db.job? jobId = some row) (terminal : row.status ∈ terminalStatuses)
    (spared : overwrites jobId db call = false)
    : (db.apply call.query).2.status? jobId = some row.status
      ∨ row.status = .failed
        ∧ call.site = .retryWrite
        ∧ (db.apply call.query).2.status? jobId = some .queued := by
  rcases terminal_apply issued found terminal with
    same | ⟨update, status, written, blind, selected, set, differs, after⟩
  · exact Or.inl same
  · simp only [overwrites, written, found, set, Option.any_some, blind, selected, terminal,
      List.contains_eq_mem, decide_true, Bool.true_and, differs, ne_eq, not_false_eq_true,
      Bool.not_eq_eq_eq_not, Bool.not_false, Bool.and_eq_true, decide_eq_true_eq] at spared
    obtain ⟨retries, failed⟩ := spared
    obtain ⟨site, query⟩ := call
    subst retries written
    have queued := jobWrite_retry (kindCall_update issued)
    rw [set, Option.some.injEq] at queued
    exact Or.inr ⟨failed, rfl, queued ▸ after⟩

theorem terminal_overwritten {call : Call} (hit : overwrites jobId db call = true)
    : ∃ row status,
        db.job? jobId = some row
        ∧ row.status ∈ terminalStatuses
        ∧ (db.apply call.query).2.status? jobId = some status
        ∧ status ≠ row.status
        ∧ (row.status = .failed → call.site ≠ .retryWrite) := by
  obtain ⟨site, query⟩ := call
  unfold overwrites at hit
  split at hit
  · rename_i update row written found
    have written : query = .updateExecutionJob update := written
    subst written
    simp only [Bool.and_eq_true, List.contains_eq_mem, decide_eq_true_eq, Bool.not_eq_eq_eq_not,
      Bool.not_true, Bool.and_eq_false_imp, decide_eq_false_iff_not] at hit
    obtain ⟨⟨⟨⟨_, selected⟩, terminal⟩, changes⟩, noRetry⟩ := hit
    obtain ⟨status, set, differs⟩ := Option.any_eq_true _ _ |>.mp changes
    refine ⟨row, status, found, terminal, ?_, by simpa using differs,
      fun failed retries => noRetry retries failed⟩
    simp [Db.apply, Db.status?, Db.job?_updateJob, found, selected, JobUpdate.write, set]
  · cases hit

theorem final_iff_spares {config next : Config bridge Db Kind Answer} {label : Label Kind}
    (reached : service.Reaches (fun _ _ => True) (idle db) config)
    (stepped : service.step config label = some next) (jobId : JobId)
    : Final jobId config label next ↔ Spares jobId config label := by
  rcases service_step reached stepped with
    ⟨waits, store⟩ | ⟨kind, call, fault, executing, issued, store⟩
  · refine iff_of_true ⟨?_, ?_⟩ (by simp [Spares, Config.Permits, waits])
    · intro status _ known
      rw [store]
      exact known
    · intro known
      rw [store]
      exact Or.inl known
  · simp only [Spares, Config.Permits, executing]
    by_cases effect : fault.takesEffect = true
    · have after : next.store = (config.store.apply call.query).2 := by
        rw [store]
        cases fault with
        | before reason => cases effect
        | _ => rfl
      constructor
      · intro final _
        by_contra hit
        obtain ⟨row, status, found, terminal, wrote, differs, noRetry⟩ :=
          terminal_overwritten (Bool.not_eq_false _ ▸ hit)
        have known : config.store.status? jobId = some row.status := by simp [Db.status?, found]
        rw [← after] at wrote
        by_cases failed : row.status = .failed
        · rcases final.failed (failed ▸ known) with kept | ⟨_, _, _, _, executing', retries⟩
          · rw [wrote, ← failed] at kept
            exact differs (Option.some.inj kept)
          · rw [executing] at executing'
            cases executing'
            exact noRetry failed retries
        · have settled := final.settled row.status
            ((mem_terminalStatuses.mp terminal).resolve_right failed) known
          rw [wrote] at settled
          exact differs (Option.some.inj settled)
      · intro spares
        have spared := spares effect
        refine ⟨?_, ?_⟩
        · intro status settled known
          obtain ⟨row, found, rfl⟩ := job?_of_status? known
          rw [after]
          rcases terminal_spared issued found (mem_terminalStatuses.mpr (Or.inl settled)) spared
            with kept | ⟨failed, _⟩
          · exact kept
          · rw [failed] at settled
            exact absurd settled (by decide)
        · intro known
          obtain ⟨row, found, failed⟩ := job?_of_status? known
          rw [after]
          rcases terminal_spared issued found (mem_terminalStatuses.mpr (Or.inr failed)) spared
            with kept | ⟨_, retries, queued⟩
          · exact Or.inl (failed ▸ kept)
          · exact Or.inr ⟨queued, kind, call, fault, executing, retries⟩
    · have unchanged : next.store = config.store := by
        rw [store]
        cases fault with
        | before reason => rfl
        | _ => exact absurd rfl effect
      refine iff_of_true ⟨?_, ?_⟩ (fun took => absurd took effect)
      · intro status _ known
        rw [unchanged]
        exact known
      · intro known
        rw [unchanged]
        exact Or.inl known

/-- In every run, each step treats the job's status as final exactly when it spares the job's
terminal row. Hence, along every run whose steps all spare it, a `completed`, `cancelled` or
`timeout` job keeps its status, and a `failed` one keeps it until a retry.
-/
theorem terminal_status_final {db : Db} {config : Config bridge Db Kind Answer}
    (reached : service.Reaches (fun _ _ => True) (idle db) config) (jobId : JobId)
    : (∀ label next,
        service.step config label = some next
        → (Final jobId config label next ↔ Spares jobId config label))
      ∧ (∀ last,
          service.Reaches (Spares jobId) config last
          → ∀ status ∈ [JobStatus.completed, .cancelled, .timeout],
              config.store.status? jobId = some status
              → last.store.status? jobId = some status)
      ∧ ∀ last,
          service.Reaches
              (fun config label =>
                Spares jobId config label
                ∧ config.Permits (fun _ _ (call : Call) _ => call.site ≠ .retryWrite) label)
              config last
          → config.store.status? jobId = some .failed
          → last.store.status? jobId = some .failed := by
  refine ⟨fun label next stepped => final_iff_spares reached stepped jobId, ?_, ?_⟩
  · intro last onward status settled known
    have kept : service.Reaches (fun _ _ => True) (idle db) last
        ∧ last.store.status? jobId = some status := by
      induction onward with
      | refl => exact ⟨reached, known⟩
      | step _ spares stepped ih =>
          have final := (final_iff_spares ih.1 stepped jobId).mpr spares
          exact ⟨ih.1.step trivial stepped, final.settled status settled ih.2⟩
    exact kept.2
  · intro last onward known
    have kept : service.Reaches (fun _ _ => True) (idle db) last
        ∧ last.store.status? jobId = some .failed := by
      induction onward with
      | refl => exact ⟨reached, known⟩
      | step _ allowed stepped ih =>
          obtain ⟨spares, noRetry⟩ := allowed
          have final := (final_iff_spares ih.1 stepped jobId).mpr spares
          refine ⟨ih.1.step trivial stepped, ?_⟩
          rcases final.failed ih.2 with failed | ⟨_, _, _, _, executing, retries⟩
          · exact failed
          · exact absurd retries (noRetry.executed executing)
    exact kept.2

/-- Witness: a job is cancelled while it runs; its executor bills it, misses the final write
and refunds it, and the job stays cancelled.
-/
theorem terminal_status_final_cancelled
    : ∃ config last,
        service.Reaches (fun _ _ => True) (idle Db.empty) config
        ∧ service.Reaches (Spares jobA) config last
        ∧ config.store.status? jobA = some .cancelled
        ∧ last.store.ledger.rows.length = 3
        ∧ last.store.status? jobA = some .cancelled := by
  have ran
      : (service.run (fun _ _ => true) (idle Db.empty)
          (claimedJob 10 "completed"
            ++ ([.exec 3 .none, .exec 3 .none, .arrive (.cancelJob { tenant := .ok "t" } jobA),
               .exec 4 .none, .exec 4 .none] : List (Label Kind)))).any (fun config =>
          (service.run (fun config label => decide (Spares jobA config label)) config
            [.exec 3 .none, .exec 3 .none, .exec 3 .none, .exec 3 .none, .exec 3 .none]).any
            (fun last =>
              config.store.status? jobA == some .cancelled
              && last.store.ledger.rows.length == 3))
        = true := by
    decide +kernel
  obtain ⟨config, last, reached, onward, passed⟩ :=
    reaches_checks (fun _ _ spares => of_decide_eq_true spares) _ _ ran
  simp only [Bool.and_eq_true, beq_iff_eq] at passed
  exact ⟨config, last, reached, onward, passed.1, passed.2,
    (terminal_status_final reached jobA).2.1 last onward .cancelled (by decide) passed.1⟩

/-- The executor's `running` write resurrects a job that was cancelled after the claim. -/
theorem cancelled_job_resurrected
    : ∃ config label next,
        service.Reaches (fun _ _ => True) (idle Db.empty) config
        ∧ service.step config label = some next
        ∧ config.store.status? jobA = some .cancelled
        ∧ next.store.status? jobA = some .running
        ∧ ¬Final jobA config label next := by
  have ran
      : (service.run (fun _ _ => true) (idle Db.empty)
          (claimedJob 10 "completed"
            ++ ([.arrive (.cancelJob { tenant := .ok "t" } jobA), .exec 4 .none,
               .exec 4 .none] : List (Label Kind)))).any (fun config =>
          config.store.status? jobA == some .cancelled
          && (service.step config (.exec 3 .none)).any
            (fun next => next.store.status? jobA == some .running))
        = true := by
    decide +kernel
  obtain ⟨config, reached, passed⟩ := reaches_check _ ran
  simp only [Bool.and_eq_true, beq_iff_eq, Option.any_eq_true] at passed
  obtain ⟨cancelled, next, stepped, running⟩ := passed
  refine ⟨config, .exec 3 .none, next, reached, stepped, cancelled, running, ?_⟩
  intro final
  have kept := final.settled .cancelled (by decide) cancelled
  rw [running] at kept
  cases kept

end RomaBridge.Properties
