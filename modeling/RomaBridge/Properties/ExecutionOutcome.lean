import RomaBridge.Behaviour.BillingSweep
import RomaBridge.Foundation.Sequential
import RomaBridge.Foundation.Trace

/-! How an execution ended, carried through retries of its billing, and the pause after a refused debit.
The worker writes the outcome into the text of the parked row, every sweep reads it from there, and a
sweep without funds writes it again.
-/

namespace RomaBridge.Properties

open RomaBridge.Foundation RomaBridge.Model Program
open RomaBridge.Foundation RomaBridge.Model

variable {jobId : JobId} {tenantId status : String} {billing : BillingStatus} {db : Db}

def closeRow (input : SweepInput) (job : JobRow) (memory : NoFundsMemory)
    : BillingStatus → Action SweepStep
  | .ok => sweepBilled job memory
  | .noFunds => sweepNoFunds job input.now memory
  | .mismatch => sweepMismatch job memory
  | .skip => sweepSkip job memory
  | .pgError => return { outcome := .pgError, memory }
  | .error => return { outcome := .error, memory }

/-- A sweep of the job: how its billing ended, and what its status write meets. -/
structure Retry where
  input : SweepInput
  memory : NoFundsMemory
  billing : BillingStatus
  write : Machine.Turn bridge

/-- The sweep closes the job: billed, nothing to bill or in conflict, and its write is applied. -/
def Retry.closes (retry : Retry) : Bool :=
  [BillingStatus.ok, .skip, .mismatch].contains retry.billing && retry.write.fault.takesEffect

/-- Nobody else writes the job's row. -/
def Retry.Alone (jobId : JobId) (retry : Retry) : Prop :=
  ∀ call ∈ retry.write.others, ∀ db : Db, (db.apply call.query).2.job? jobId = db.job? jobId

/-- A sweep sees the job as long as it is parked. -/
def retryBilling (jobId : JobId) (db : Db) (retry : Retry) : Unit × Db :=
  match (db.job? jobId).filter (fun job => job.status = .billingPending) with
  | none => ((), db)
  | some job =>
      ((), (service.among (closeRow retry.input job retry.memory retry.billing) [retry.write] db).2)

/-- The worker's final write parked the job after its execution ended. -/
structure Parks (jobId : JobId) (tenantId status : String) (billing : BillingStatus) (db : Db)
    : Prop where
  ended : status ∈ ["completed", "timeout", "failed"]
  unbilled : billing ∈ [BillingStatus.pgError, .error, .noFunds]
  open_ : ∃ row, db.job? jobId = some row ∧ row.tenantId = tenantId
    ∧ row.status ∉ finalWriteBlockedStatuses

/-- The state after the worker's final write. -/
def parked (jobId : JobId) (tenantId : String) (world : WorkerWorld) (status : String)
    (billing : BillingStatus) (db : Db)
    : Db :=
  (db.updateJob (finalUpdate jobId tenantId world status billing)).2

/-- How a job is closed: as its execution ended, but for a completed one in conflict. -/
def closedStatus (status : String) (billing : BillingStatus) : JobStatus :=
  if status = "completed" ∧ billing = .mismatch then .error else JobStatus.ofText status

/-- What the text of a parked row says of the execution: nothing for a completed one. -/
def carried (status : String) : Option String :=
  if status = "completed" then none else some status

/-- The job is parked, and its text carries the end of its execution. -/
def CarriesOutcome (jobId : JobId) (tenantId status : String) (db : Db) : Prop :=
  ∃ row, db.job? jobId = some row ∧ row.tenantId = tenantId ∧ row.status = .billingPending
    ∧ billingExecStatus row.error = carried status

def Closed (jobId : JobId) (closing : JobStatus) (db : Db) : Prop :=
  db.status? jobId = some closing

-- Texts

theorem finalError_carries (ended : status ∈ ["completed", "timeout", "failed"])
    (unbilled : billing ∈ [BillingStatus.pgError, .error, .noFunds])
    : writeStatus status billing = "billing_pending"
      ∧ billingExecStatus (some (finalError status billing)) = carried status := by
  have all : ∀ status ∈ ["completed", "timeout", "failed"],
      ∀ billing ∈ [BillingStatus.pgError, .error, .noFunds],
        writeStatus status billing = "billing_pending"
        ∧ billingExecStatus (some (finalError status billing)) = carried status := by
    decide
  exact all status ended billing unbilled

theorem noFunds_carries (ended : status ∈ ["completed", "timeout", "failed"])
    : billingExecStatus (some (billingPendingError .noFunds (carried status)))
      = carried status := by
  have all : ∀ status ∈ ["completed", "timeout", "failed"],
      billingExecStatus (some (billingPendingError .noFunds (carried status)))
        = carried status := by
    decide
  exact all status ended

theorem carried_closes (ended : status ∈ ["completed", "timeout", "failed"])
    : JobStatus.ofText ((carried status).getD "completed") = JobStatus.ofText status
      ∧ JobStatus.ofText ((carried status).getD "error") = closedStatus status .mismatch
      ∧ closedStatus status .mismatch ≠ .billingPending
      ∧ JobStatus.ofText status ≠ .billingPending := by
  have all : ∀ status ∈ ["completed", "timeout", "failed"],
      JobStatus.ofText ((carried status).getD "completed") = JobStatus.ofText status
      ∧ JobStatus.ofText ((carried status).getD "error") = closedStatus status .mismatch
      ∧ closedStatus status .mismatch ≠ .billingPending
      ∧ JobStatus.ofText status ≠ .billingPending := by
    decide
  exact all status ended

theorem closedStatus_ne (ended : status ∈ ["completed", "timeout", "failed"])
    (billing : BillingStatus)
    : closedStatus status billing ≠ .billingPending := by
  unfold closedStatus
  split
  · decide
  · exact (carried_closes ended).2.2.2

-- Writes

theorem Parks.carries {world : WorkerWorld} (parks : Parks jobId tenantId status billing db)
    : CarriesOutcome jobId tenantId status (parked jobId tenantId world status billing db) := by
  obtain ⟨row, found, own, free⟩ := parks.open_
  obtain ⟨pending, carries⟩ := finalError_carries parks.ended parks.unbilled
  have selected : (finalUpdate jobId tenantId world status billing).selects row = true := by
    simp [JobUpdate.selects, finalUpdate, Db.job?_id found, own, free]
  refine ⟨(finalUpdate jobId tenantId world status billing).write db.clock row, ?_, own, ?_, ?_⟩
  · rw [parked, Db.job?_updateJob, found, Option.map_some, if_pos selected]
  · simp only [JobUpdate.write, finalUpdate, Option.getD_some, pending]
    rfl
  · simpa [JobUpdate.write, finalUpdate] using carries

theorem CarriesOutcome.close {default error : String} {job : JobRow}
    {costUsd : Option ℚ} (found : db.job? jobId = some job) (parked : job.status = .billingPending)
    : Closed jobId (JobStatus.ofText ((billingExecStatus job.error).getD default))
        (db.updateJob (sweepUpdate job ((billingExecStatus job.error).getD default) error
          costUsd)).2 := by
  have selected : (sweepUpdate job ((billingExecStatus job.error).getD default) error
      costUsd).selects job = true := by
    simp [JobUpdate.selects, sweepUpdate, parked, terminalStatuses]
  rw [Closed, Db.status?, Db.job?_updateJob, found, Option.map_some, if_pos selected]
  rfl

theorem CarriesOutcome.refuse {job : JobRow} (ended : status ∈ ["completed", "timeout", "failed"])
    (found : db.job? jobId = some job) (own : job.tenantId = tenantId)
    (parked : job.status = .billingPending) (carries : billingExecStatus job.error = carried status)
    : CarriesOutcome jobId tenantId status (db.updateJob (noFundsUpdate job)).2 := by
  have selected : (noFundsUpdate job).selects job = true := by
    simp [JobUpdate.selects, noFundsUpdate, errorUpdate]
  refine ⟨(noFundsUpdate job).write db.clock job, ?_, own, ?_, ?_⟩
  · rw [Db.job?_updateJob, found, Option.map_some, if_pos selected]
  · simpa [JobUpdate.write, noFundsUpdate, errorUpdate] using parked
  · simpa [JobUpdate.write, noFundsUpdate, errorUpdate, carries] using noFunds_carries ended

-- One sweep

def closingCall (job : JobRow) : BillingStatus → Option Call
  | .ok => some ⟨.sweepBilled, .updateExecutionJob (billedUpdate job)⟩
  | .mismatch => some ⟨.sweepMismatch, .updateExecutionJob (mismatchUpdate job)⟩
  | .skip => some ⟨.sweepSkip, .updateExecutionJob (skipUpdate job)⟩
  | .noFunds =>
      if job.error ≠ some (billingPendingError .noFunds (billingExecStatus job.error)) then
        some ⟨.sweepNoFunds, .updateExecutionJob (noFundsUpdate job)⟩
      else
        none
  | .pgError | .error => none

theorem closeRow_leaves (input : SweepInput) (job : JobRow) (memory : NoFundsMemory)
    (billing : BillingStatus) (write : Machine.Turn bridge) (db : Db)
    : (service.among (closeRow input job memory billing) [write] db).2
      = match closingCall job billing with
        | some issued => (service.exec issued write.fault (service.meanwhile write.others db)).2
        | none => db := by
  obtain ⟨others, fault⟩ := write
  cases billing with
  | ok => cases fault <;> rfl
  | noFunds =>
      simp only [closeRow, sweepNoFunds, closingCall]
      split
      · cases fault <;> rfl
      · rfl
  | mismatch => cases fault <;> rfl
  | skip => cases fault <;> rfl
  | pgError => rfl
  | error => rfl

theorem job?_meanwhile {others : List Call}
    (alone : ∀ call ∈ others, ∀ db : Db, (db.apply call.query).2.job? jobId = db.job? jobId)
    (db : Db)
    : (service.meanwhile others db).job? jobId = db.job? jobId := by
  induction others generalizing db with
  | nil => rfl
  | cons call rest ih =>
      have first := alone call List.mem_cons_self db
      have later := ih (fun call member => alone call (List.mem_cons_of_mem _ member))
        (db.apply call.query).2
      exact later.trans first

theorem retryBilling_parked {retry : Retry} {job : JobRow} (found : db.job? jobId = some job)
    (pending : job.status = .billingPending)
    : (retryBilling jobId db retry).2
      = match closingCall job retry.billing with
        | some issued =>
            (service.exec issued retry.write.fault (service.meanwhile retry.write.others db)).2
        | none => db := by
  have seen : (db.job? jobId).filter (fun job => job.status = .billingPending) = some job := by
    rw [found, Option.filter_some_pos (by simpa using pending)]
  unfold retryBilling
  rw [seen]
  exact closeRow_leaves _ job _ _ _ db

theorem closingCall_closes {job : JobRow} (ended : status ∈ ["completed", "timeout", "failed"])
    (closing : billing ∈ [BillingStatus.ok, .skip, .mismatch])
    (pending : job.status = .billingPending) (text : billingExecStatus job.error = carried status)
    : ∃ site update, closingCall job billing = some ⟨site, .updateExecutionJob update⟩
      ∧ ∀ db : Db, db.job? jobId = some job →
        Closed jobId (closedStatus status billing) (db.updateJob update).2 := by
  obtain ⟨restores, conflicts, -⟩ := carried_closes ended
  rw [← text] at restores conflicts
  simp only [List.mem_cons, List.not_mem_nil, or_false] at closing
  rcases closing with rfl | rfl | rfl
  · have same : closedStatus status .ok = JobStatus.ofText status := if_neg (by simp)
    refine ⟨_, _, rfl, fun db found => ?_⟩
    rw [same, ← restores]
    exact CarriesOutcome.close found pending
  · have same : closedStatus status .skip = JobStatus.ofText status := if_neg (by simp)
    refine ⟨_, _, rfl, fun db found => ?_⟩
    rw [same, ← restores]
    exact CarriesOutcome.close found pending
  · refine ⟨_, _, rfl, fun db found => ?_⟩
    rw [← conflicts]
    exact CarriesOutcome.close found pending

theorem closingCall_refuses {job : JobRow} {issued : Call}
    (keeps : billing ∉ [BillingStatus.ok, .skip, .mismatch])
    (issues : closingCall job billing = some issued)
    : issued = ⟨.sweepNoFunds, .updateExecutionJob (noFundsUpdate job)⟩ := by
  cases billing with
  | noFunds =>
      simp only [closingCall] at issues
      split at issues
      · exact (Option.some.inj issues).symm
      · cases issues
  | pgError => cases issues
  | error => cases issues
  | ok => exact absurd (by simp) keeps
  | skip => exact absurd (by simp) keeps
  | mismatch => exact absurd (by simp) keeps

theorem CarriesOutcome.retry {retry : Retry} (ended : status ∈ ["completed", "timeout", "failed"])
    (carries : CarriesOutcome jobId tenantId status db) (alone : retry.Alone jobId)
    : if retry.closes then
        Closed jobId (closedStatus status retry.billing) (retryBilling jobId db retry).2
      else
        CarriesOutcome jobId tenantId status (retryBilling jobId db retry).2 := by
  obtain ⟨job, found, own, pending, text⟩ := carries
  have still := (job?_meanwhile alone db).trans found
  have same : CarriesOutcome jobId tenantId status (service.meanwhile retry.write.others db) :=
    ⟨job, still, own, pending, text⟩
  rw [retryBilling_parked found pending]
  unfold Retry.closes
  by_cases closing : retry.billing ∈ [BillingStatus.ok, .skip, .mismatch]
  · obtain ⟨site, update, issues, closes⟩ := @closingCall_closes jobId _ _ job ended closing
      pending text
    rw [issues, List.contains_iff_mem.mpr closing, Bool.true_and]
    simp only [Machine.exec_leaves]
    cases retry.write.fault.takesEffect with
    | false => exact same
    | true => exact closes _ still
  · rw [Bool.eq_false_iff.mpr (fun found => closing (List.contains_iff_mem.mp found)),
      Bool.false_and, if_neg Bool.false_ne_true]
    cases issues : closingCall job retry.billing with
    | none => exact ⟨job, found, own, pending, text⟩
    | some issued =>
        obtain rfl := closingCall_refuses closing issues
        simp only [Machine.exec_leaves]
        cases retry.write.fault.takesEffect with
        | false => exact same
        | true => exact CarriesOutcome.refuse ended still own pending text

theorem Closed.retry {closing : JobStatus} {retry : Retry} (closed : Closed jobId closing db)
    (done : closing ≠ .billingPending)
    : (retryBilling jobId db retry).2 = db := by
  have unseen : (db.job? jobId).filter (fun job => job.status = .billingPending) = none := by
    obtain ⟨job, found, status⟩ := Option.map_eq_some_iff.mp closed
    rw [found]
    exact Option.filter_some_neg (by simpa [status] using done)
  unfold retryBilling
  rw [unseen]

-- All sweeps

/-- Once a job is closed, all later sweeps leave it. Induction on the sweeps. -/
theorem Closed.retries {closing : JobStatus} (closed : Closed jobId closing db)
    (done : closing ≠ .billingPending) (retries : List Retry)
    : finalState (retryBilling jobId) db retries = db := by
  induction retries with
  | nil => rfl
  | cons retry rest ih =>
      rw [finalState, List.foldl_cons, closed.retry done]
      exact ih

/-- The sweeps of a parked job, up to the one that closes it and on. Induction on the sweeps: until
then the text carries the end of the execution.
-/
theorem CarriesOutcome.retries (ended : status ∈ ["completed", "timeout", "failed"])
    (carries : CarriesOutcome jobId tenantId status db) (retries : List Retry)
    (alone : ∀ retry ∈ retries, retry.Alone jobId)
    : Closed jobId
        (match retries.find? Retry.closes with
        | some retry => closedStatus status retry.billing
        | none => .billingPending)
        (finalState (retryBilling jobId) db retries) := by
  induction retries generalizing db with
  | nil =>
      obtain ⟨job, found, -, pending, -⟩ := carries
      exact (congrArg (Option.map JobRow.status) found).trans (congrArg some pending)
  | cons retry rest ih =>
      have next := carries.retry ended (alone retry List.mem_cons_self)
      rw [List.find?_cons]
      cases closes : retry.closes with
      | true =>
          rw [closes, if_pos rfl] at next
          have later := next.retries (closedStatus_ne ended retry.billing) rest
          change Closed jobId (closedStatus status retry.billing)
            (finalState (retryBilling jobId) (retryBilling jobId db retry).2 rest)
          rw [later]
          exact next
      | false =>
          rw [closes, if_neg Bool.false_ne_true] at next
          exact ih next (fun retry member => alone retry (List.mem_cons_of_mem _ member))

/-- However often its billing is retried, and however the sweeps and their writes end: the first
sweep whose closing write is applied closes the job as its execution ended, but for a completed one
in conflict, and until then it is parked.
-/
theorem execution_outcome_survives (jobId : JobId) (tenantId status : String)
    (billing : BillingStatus) (world : WorkerWorld) (db : Db)
    (parks : Parks jobId tenantId status billing db) (retries : List Retry)
    (alone : ∀ retry ∈ retries, retry.Alone jobId)
    : (finalState (retryBilling jobId) (parked jobId tenantId world status billing db)
        retries).status? jobId
      = some (match retries.find? Retry.closes with
        | some retry => closedStatus status retry.billing
        | none => .billingPending) :=
  parks.carries.retries parks.ended retries alone

def runningDb : Db := (Db.empty.insertJob (Db.empty.newJob jobA "acme" .running true)).2

/-- No funds, an unavailable database, a closing write that fails, and a sweep that bills. -/
def retriedBilling : List Retry :=
  let input : SweepInput := ⟨0, [], fun _ => "free"⟩
  [⟨input, [], .noFunds, ⟨[], .none⟩⟩, ⟨input, [], .pgError, ⟨[], .none⟩⟩,
    ⟨input, [], .mismatch, ⟨[], .before "down"⟩⟩, ⟨input, [], .ok, ⟨[], .none⟩⟩]

/-- The job ends as its execution did. -/
theorem timeout_survives_retries
    : (finalState (retryBilling jobA)
        (parked jobA "acme" (quickRun 5 "running") "timeout" .pgError runningDb)
        retriedBilling).status? jobA = some .timeout := by
  have found : runningDb.job? jobA
      = some (Db.empty.newJob jobA "acme" .running true) := by
    decide +kernel
  have survives := execution_outcome_survives jobA "acme" "timeout" .pgError
    (quickRun 5 "running") runningDb ⟨by decide, by decide, _, found, rfl, by decide⟩ retriedBilling
    (by simp [retriedBilling, Retry.Alone])
  exact survives

variable {config : PauseConfig} {now : ℚ} {memory : NoFundsMemory}

abbrev SweepVisit := Visit NoFundsMemory PauseSweep (List (JobId × Except Exn BillingStatus))

/-- The later sweep leaves the jobs alone that had no funds in the first, for as long as they are
paused.
-/
def HonoursPause (config : PauseConfig) (first later : SweepVisit) : Prop :=
  ∀ jobId, (jobId, .ok .noFunds) ∈ first.reply →
    later.call.now < first.call.now + config.retry → jobId ∉ later.reply.map Prod.fst

def KeepsPauses (config : PauseConfig) (memory : NoFundsMemory) (sweep : PauseSweep) : Prop :=
  ∀ db, sweep.listed = .ok db →
    (noteRows config sweep.now sweep.ends (listedRows config memory sweep.now db)
      memory).1.raised = none →
    (listedRows config memory sweep.now db).length < config.batch →
    ∀ entry ∈ memory, entry.2 ≤ sweep.now

-- The list

theorem mem_listedRows {db : Db} {job : JobRow} (listed : job ∈ listedRows config memory now db)
    : ∀ until_, (job.id, until_) ∈ memory → until_ ≤ now := by
  intro until_ member
  have sorted := List.mem_of_mem_take listed
  rw [List.mem_insertionSort, List.mem_filter] at sorted
  by_contra later
  have paused : job.id ∈ pausedIds memory now :=
    List.mem_map.mpr ⟨(job.id, until_), List.mem_filter.mpr ⟨member, by simpa using later⟩, rfl⟩
  simp [paused] at sorted

theorem listedRows_nodup (db : Db)
    : ((listedRows config memory now db).map JobRow.id).Nodup := by
  have sorted : ((db.jobs.rows.filter (fun row => row.status = .billingPending
      && !(pausedIds memory now).contains row.id)).map JobRow.id).Nodup :=
    db.jobs.unique.sublist (List.filter_sublist.map _)
  unfold listedRows billingPendingRows
  refine List.Nodup.sublist ((List.take_sublist _ _).map _) ?_
  exact ((List.perm_insertionSort _ _).map _).nodup_iff.mpr sorted

-- The batch

theorem noteRow_other {job : JobRow} {ends : RowEnd} {entry : JobId × ℚ}
    (member : entry ∈ memory) (other : entry.1 ≠ job.id)
    : entry ∈ (noteRow config now job ends memory).2 := by
  have kept : entry ∈ memory.filter (fun entry => entry.1 ≠ job.id) :=
    List.mem_filter.mpr ⟨member, by simpa using other⟩
  unfold noteRow
  split
  · rename_i status caught
    cases status with
    | ok => exact kept
    | noFunds => exact List.mem_append_left _ kept
    | mismatch => exact member
    | skip => exact member
    | pgError => exact member
    | error => exact member
  · exact member

theorem noteRow_noFunds {job : JobRow} {ends : RowEnd} (refused : ends.finalized = .ok .noFunds)
    : (job.id, now + config.retry) ∈ (noteRow config now job ends memory).2 := by
  unfold noteRow
  rw [refused]
  exact List.mem_append_right _ (List.mem_singleton_self _)

theorem noteRows_cons {ends : JobId → RowEnd} (job : JobRow) (rest : List JobRow)
    (memory : NoFundsMemory)
    : let after := (noteRow config now job (ends job.id) memory).2
      let call := (job.id, (ends job.id).finalized)
      (∃ raised, noteRows config now ends (job :: rest) memory = (⟨[call], raised⟩, after))
      ∨ ∃ raised, noteRows config now ends (job :: rest) memory
          = (⟨call :: (noteRows config now ends rest after).1.finalized, raised⟩,
            (noteRows config now ends rest after).2) := by
  simp only [noteRows]
  generalize noteRow config now job (ends job.id) memory = noted
  obtain ⟨outcome, after⟩ := noted
  rcases outcome with exn | status
  · exact .inl ⟨_, rfl⟩
  · cases status with
    | pgError => exact .inl ⟨_, rfl⟩
    | ok | noFunds | mismatch | skip | error => exact .inr ⟨_, rfl⟩

/-- A batch: its finalisations are of its rows, it touches no entry but theirs, and pauses the jobs
without funds. Induction on the rows, whose ids differ.
-/
theorem noteRows_spec {ends : JobId → RowEnd} (rows : List JobRow) (memory : NoFundsMemory)
    (distinct : (rows.map JobRow.id).Nodup)
    : (∀ call ∈ (noteRows config now ends rows memory).1.finalized, call.1 ∈ rows.map JobRow.id)
      ∧ (∀ entry ∈ memory, entry.1 ∉ rows.map JobRow.id →
        entry ∈ (noteRows config now ends rows memory).2)
      ∧ ∀ jobId, (jobId, .ok .noFunds) ∈ (noteRows config now ends rows memory).1.finalized →
        (jobId, now + config.retry) ∈ (noteRows config now ends rows memory).2 := by
  induction rows generalizing memory with
  | nil => exact ⟨by simp [noteRows], fun _ member _ => member, by simp [noteRows]⟩
  | cons job rest ih =>
      obtain ⟨alone, distinct⟩ := List.nodup_cons.mp distinct
      have own : (ends job.id).finalized = .ok .noFunds →
          (job.id, now + config.retry) ∈ (noteRow config now job (ends job.id) memory).2 :=
        noteRow_noFunds
      have others : ∀ entry ∈ memory, entry.1 ≠ job.id →
          entry ∈ (noteRow config now job (ends job.id) memory).2 :=
        fun entry member other => noteRow_other member other
      rcases @noteRows_cons config now ends job rest memory with
        ⟨raised, stops⟩ | ⟨raised, goes⟩
      · rw [stops]
        refine ⟨by simp, fun entry member absent => others entry member ?_, ?_⟩
        · exact fun same => absent (same ▸ List.mem_cons_self)
        · intro jobId member
          obtain ⟨rfl, refused⟩ := Prod.mk.inj (List.mem_singleton.mp member)
          exact own refused.symm
      · obtain ⟨listed, kept, paused⟩ := ih _ distinct
        rw [goes]
        refine ⟨?_, fun entry member absent => ?_, ?_⟩
        · rintro call member
          rcases List.mem_cons.mp member with rfl | later
          · exact List.mem_cons_self
          · exact List.mem_cons_of_mem _ (listed call later)
        · rw [List.map_cons, List.mem_cons, not_or] at absent
          exact kept entry (others entry member absent.1) absent.2
        · intro jobId member
          rcases List.mem_cons.mp member with first | later
          · obtain ⟨rfl, refused⟩ := Prod.mk.inj first
            exact kept _ (own refused.symm) alone
          · exact paused jobId later

def writeFailure : Fault → Option Exn
  | .none => none
  | .before reason | .after reason => some (.database reason)

theorem closeRow_notes (input : SweepInput) (job : JobRow) (memory : NoFundsMemory)
    (status : BillingStatus) (write : Machine.Turn bridge) (db : Db)
    : (service.among (closeRow input job memory status) [write] db).1
      = (noteStatus ⟨billingPendingBatch, noFundsRetrySeconds⟩ input.now job
          (writeFailure write.fault) memory status).1.map
        (fun outcome => ⟨outcome, (noteStatus ⟨billingPendingBatch, noFundsRetrySeconds⟩ input.now
          job (writeFailure write.fault) memory status).2⟩) := by
  obtain ⟨others, fault⟩ := write
  cases status with
  | ok => cases fault <;> rfl
  | noFunds =>
      simp only [closeRow, sweepNoFunds, noteStatus]
      split
      · cases fault <;> rfl
      · rfl
  | mismatch => cases fault <;> rfl
  | skip => cases fault <;> rfl
  | pgError => rfl
  | error => rfl

-- One sweep

def Paused (memory : NoFundsMemory) (now : ℚ) (pause : JobId × ℚ) : Prop :=
  pause.2 ≤ now ∨ ∃ until_, (pause.1, until_) ∈ memory ∧ pause.2 ≤ until_

theorem sweepOnce_spec (memory : NoFundsMemory) (sweep : PauseSweep)
    : (∀ call ∈ (sweepOnce config memory sweep).1, ∀ until_, (call.1, until_) ∈ memory →
        until_ ≤ sweep.now)
      ∧ (KeepsPauses config memory sweep → ∀ entry ∈ memory, sweep.now < entry.2 →
        entry ∈ (sweepOnce config memory sweep).2)
      ∧ ∀ jobId, (jobId, .ok .noFunds) ∈ (sweepOnce config memory sweep).1 →
        (jobId, sweep.now + config.retry) ∈ (sweepOnce config memory sweep).2 := by
  obtain ⟨now, listed, ends⟩ := sweep
  cases listed with
  | error exn => exact ⟨by simp [sweepOnce], fun _ _ member _ => member, by simp [sweepOnce]⟩
  | ok db =>
      obtain ⟨calls, kept, paused⟩ := @noteRows_spec config now ends
        (listedRows config memory now db) memory (listedRows_nodup db)
      have unpaused : ∀ call ∈ (noteRows config now ends (listedRows config memory now db)
          memory).1.finalized, ∀ until_, (call.1, until_) ∈ memory → until_ ≤ now := by
        intro call member
        obtain ⟨job, there, same⟩ := List.mem_map.mp (calls call member)
        rw [← same]
        exact mem_listedRows there
      have held : ∀ entry ∈ memory, now < entry.2 →
          entry ∈ (noteRows config now ends (listedRows config memory now db) memory).2 := by
        intro entry member later
        refine kept entry member fun there => ?_
        obtain ⟨job, listed, same⟩ := List.mem_map.mp there
        exact absurd (mem_listedRows listed entry.2 (same ▸ member)) (not_le.mpr later)
      simp only [sweepOnce]
      split
      · rename_i prunes
        refine ⟨unpaused, fun keeps entry member later => ?_, fun jobId member => ?_⟩
        · have ended := keeps db rfl (Option.isNone_iff_eq_none.mp prunes.1) prunes.2 entry member
          exact absurd ended (not_le.mpr later)
        · exact List.mem_filter.mpr ⟨paused jobId member,
            List.contains_iff_mem.mpr (calls _ member)⟩
      · exact ⟨unpaused, fun _ => held, paused⟩

theorem Paused.sweep {pause : JobId × ℚ} {sweep : PauseSweep} (paused : Paused memory now pause)
    (later : now ≤ sweep.now) (keeps : KeepsPauses config memory sweep)
    : Paused (sweepOnce config memory sweep).2 sweep.now pause := by
  rcases paused with ended | ⟨until_, member, bound⟩
  · exact .inl (ended.trans later)
  · rcases le_or_gt until_ sweep.now with ended | lasts
    · exact .inl (bound.trans ended)
    · exact .inr ⟨until_, (sweepOnce_spec memory sweep).2.1 keeps _ member lasts, bound⟩

-- All sweeps

theorem Paused.sweeps {pause : JobId × ℚ} {sweeps : List PauseSweep}
    (paused : Paused memory now pause) (later : ∀ sweep ∈ sweeps, now ≤ sweep.now)
    (ordered : sweeps.Pairwise (fun first second => first.now ≤ second.now))
    (keeps : ∀ visit ∈ visits (sweepOnce config) memory sweeps,
      KeepsPauses config visit.before visit.call)
    : ∀ visit ∈ visits (sweepOnce config) memory sweeps, visit.call.now < pause.2 →
        pause.1 ∉ visit.reply.map Prod.fst := by
  induction sweeps generalizing memory now with
  | nil => simp [visits]
  | cons sweep rest ih =>
      obtain ⟨after, ordered⟩ := List.pairwise_cons.mp ordered
      simp only [visits, List.forall_mem_cons] at keeps ⊢
      refine ⟨fun early member => ?_, ih (paused.sweep (later sweep List.mem_cons_self) keeps.1)
        after ordered keeps.2⟩
      obtain ⟨call, there, same⟩ := List.mem_map.mp member
      rcases paused with ended | ⟨until_, listed, bound⟩
      · exact absurd (ended.trans (later sweep List.mem_cons_self)) (not_le.mpr early)
      · have ended := (sweepOnce_spec memory sweep).1 call there until_ (same ▸ listed)
        exact absurd (bound.trans ended) (not_le.mpr early)

/-- The pause is honoured in every run whose sweeps, when they list no full batch, find no job paused:
for every batch, retry, memory and database at each list, and every end of every call. Induction on
the sweeps.
-/
theorem no_funds_pause_honoured (config : PauseConfig) (memory : NoFundsMemory)
    (sweeps : List PauseSweep)
    (ordered : sweeps.Pairwise (fun first second => first.now ≤ second.now))
    (keeps : ∀ visit ∈ visits (sweepOnce config) memory sweeps,
      KeepsPauses config visit.before visit.call)
    : (visits (sweepOnce config) memory sweeps).Pairwise (HonoursPause config) := by
  induction sweeps generalizing memory with
  | nil => exact List.Pairwise.nil
  | cons sweep rest ih =>
      obtain ⟨after, ordered⟩ := List.pairwise_cons.mp ordered
      simp only [visits, List.forall_mem_cons] at keeps
      refine List.pairwise_cons.mpr ⟨fun visit member jobId refused early => ?_,
        ih _ ordered keeps.2⟩
      have paused : Paused (sweepOnce config memory sweep).2 sweep.now
          (jobId, sweep.now + config.retry) :=
        .inr ⟨_, (sweepOnce_spec memory sweep).2.2 jobId refused, le_refl _⟩
      exact paused.sweeps after ordered keeps.2 visit member early

def pendingDb : Db :=
  (Db.empty.insertJob { Db.empty.newJob jobA "acme" .billingPending false with
    error := some "billing:pg_error" }).2

def brokeSweep (now : ℚ) : PauseSweep := ⟨now, .ok pendingDb, fun _ => ⟨.ok .noFunds, none⟩⟩

/-- After the pause the job is tried again. -/
theorem no_funds_pause_honoured_hourly
    : (visits (sweepOnce ⟨50, 3600⟩) [] [brokeSweep 0, brokeSweep 3600]).Pairwise
        (HonoursPause ⟨50, 3600⟩) := by
  refine no_funds_pause_honoured ⟨50, 3600⟩ [] [brokeSweep 0, brokeSweep 3600] ?_ ?_
  · simp [brokeSweep]
  · simp only [visits, List.forall_mem_cons]
    refine ⟨fun _ _ _ _ => by simp, fun _ _ _ _ => ?_, by simp⟩
    decide +kernel

/-- The sweep after the one that found no funds forgets the pause: the next one tries again. -/
theorem third_sweep_forgets_pause
    : ¬ (visits (sweepOnce ⟨50, 3600⟩) [] [brokeSweep 0, brokeSweep 60, brokeSweep 120]).Pairwise
        (HonoursPause ⟨50, 3600⟩) := by
  intro honours
  have refused : (sweepOnce ⟨50, 3600⟩ [] (brokeSweep 0)).1 = [(jobA, .ok .noFunds)] := by
    decide +kernel
  have left := (List.pairwise_cons.mp honours).1 _
    (List.mem_cons_of_mem _ List.mem_cons_self) jobA
    (refused.symm ▸ List.mem_singleton_self _) (by decide +kernel)
  exact left (by decide +kernel)

end RomaBridge.Properties
