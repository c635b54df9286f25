import RomaBridge.Foundation.BatchQueue
import RomaBridge.Foundation.StableSort
import RomaBridge.Properties.OneExecutor
import RomaBridge.Properties.ExecutionOutcome

/-! Whether a job that stays pending keeps the others from their turn. A sweep takes a full batch from
the front of its queue and leaves what fails where it is, so a job gets its turn exactly when fewer jobs
than a batch stay before it.
-/

namespace RomaBridge.Properties

open RomaBridge.Foundation RomaBridge.Model

variable {config : PauseConfig} {outcome : JobId → BillingStatus} {refunds : JobId → Bool} {db : Db}
  {job : JobRow} {now : ℚ} {memory : NoFundsMemory}
variable {update : JobUpdate} {entry : JobId × ℚ} {state : PendingBilling} {leaves : JobId → Bool}

/-- The outcomes with which a job leaves `billing_pending`. -/
def closes (outcome : JobId → BillingStatus) (jobId : JobId) : Bool :=
  [BillingStatus.ok, .skip, .mismatch].contains (outcome jobId)

/-- The marker of a job parses and its refund goes through. -/
def paysBack (refunds : JobId → Bool) (db : Db) (jobId : JobId) : Bool :=
  refunds jobId
  && (db.job? jobId).any (fun row => (parseRefundAmount (row.error.getD "")).isSome)

/-- After as many calls as jobs are pending, whenever they are made, no job is that can be billed. -/
def BillingDrains (config : PauseConfig) (outcome : JobId → BillingStatus) (state : PendingBilling)
    : Prop :=
  ∀ times : List ℚ, times.length = (parkedIds state.db).length →
    times.Pairwise (fun earlier later => earlier ≤ later) →
    ∀ jobId ∈ parkedIds state.db, outcome jobId = .ok →
      jobId ∉ parkedIds (times.foldl (sweepPending config outcome) state).db

/-- After as many calls as refunds are pending, no refund is that goes through. -/
def RefundDrains (refunds : JobId → Bool) (db : Db) : Prop :=
  ∀ jobId ∈ markedIds db, paysBack refunds db jobId = true →
    jobId ∉ markedIds ((sweepRefunds refunds)^[(markedIds db).length] db)

-- The queues

theorem nullsLast_total (left right : Option ℚ) : nullsLast left right ∨ nullsLast right left := by
  cases left with
  | none => cases right with
    | none => exact .inl trivial
    | some right => exact .inr trivial
  | some left => cases right with
    | none => exact .inl trivial
    | some right => exact le_total left right

theorem nullsLast_trans {first second third : Option ℚ} (left : nullsLast first second)
    (right : nullsLast second third)
    : nullsLast first third := by
  cases third with
  | none => cases first <;> trivial
  | some third => cases second with
    | none => exact right.elim
    | some second => cases first with
      | none => exact left.elim
      | some first => exact le_trans left right

instance : Std.Total (fun left right : JobRow => nullsLast left.completedAt right.completedAt) :=
  ⟨fun left right => nullsLast_total left.completedAt right.completedAt⟩

instance : IsTrans JobRow (fun left right => nullsLast left.completedAt right.completedAt) :=
  ⟨fun _ _ _ => nullsLast_trans⟩

theorem queueIds_map {selected : JobRow → Bool} {rows : List JobRow} {write : JobRow → JobRow}
    {kept : JobId → Bool} (ids : ∀ row, (write row).id = row.id)
    (dates : ∀ row, (write row).completedAt = row.completedAt)
    (after : ∀ row ∈ rows, selected (write row) = (selected row && kept row.id))
    : queueIds selected (rows.map write) = (queueIds selected rows).filter kept := by
  have names : JobRow.id ∘ write = JobRow.id := funext ids
  have still : (rows.map write).filter selected
      = ((rows.filter selected).filter (fun row => kept row.id)).map write := by
    rw [List.filter_map, List.filter_filter]
    refine congrArg (List.map write) (List.filter_congr ?_)
    intro row member
    rw [Function.comp_apply, after row member, Bool.and_comm]
  have sorted := @List.map_insertionSort _ _
    (fun left right : JobRow => nullsLast left.completedAt right.completedAt)
    (fun left right : JobRow => nullsLast left.completedAt right.completedAt) _ _ write
    ((rows.filter selected).filter (fun row => kept row.id))
    (fun left _ right _ => by rw [dates, dates])
  unfold queueIds
  rw [still, ← sorted, List.map_map, names, ← filter_insertionSort, List.filter_map]
  rfl

theorem rows_updateJob (db : Db) (update : JobUpdate)
    : (db.updateJob update).2.jobs.rows
      = db.jobs.rows.map
          (fun row => if update.selects row then update.write db.clock row else row) := by
  unfold Db.updateJob
  split
  · rename_i empty
    have same : (fun row => if update.selects row then update.write db.clock row else row) = id := by
      funext row
      rw [Db.write_of_isEmpty empty, ite_self]
      rfl
    rw [same, List.map_id]
  · rfl

/-- An update of a stored row that dates nothing: the row is rewritten where it stands, and is in the
queue afterwards if it is still selected.
-/
theorem queueIds_updateJob {selected : JobRow → Bool} (member : job ∈ db.jobs.rows)
    (own : update.selects job = true) (undated : update.completedAt = none)
    (was : selected job = true)
    : queueIds selected (db.updateJob update).2.jobs.rows
      = (queueIds selected db.jobs.rows).filter
          (fun jobId => selected (update.write db.clock job) || jobId ≠ job.id) := by
  rw [rows_updateJob]
  refine queueIds_map ?_ ?_ ?_
  · intro row
    split
    · rfl
    · rfl
  · intro row
    split
    · simp [JobUpdate.write, undated]
    · rfl
  · intro row stored
    by_cases same : row.id = job.id
    · obtain rfl := Table.eq_of_key stored member same
      simp [own, was]
    · have other : update.selects row = false := by
        rw [Bool.eq_false_iff]
        intro selects
        exact same ((Db.selects_jobId selects).trans (Db.selects_jobId own).symm)
      simp [other, same]

theorem mem_updateJob {row : JobRow} (other : row.id ≠ update.jobId) (member : row ∈ db.jobs.rows)
    : row ∈ (db.updateJob update).2.jobs.rows := by
  rw [rows_updateJob]
  refine List.mem_map.mpr ⟨row, member, if_neg ?_⟩
  exact fun selects => other (Db.selects_jobId selects)

-- One batch of the billing sweep

theorem closeRow_alone (input : SweepInput) (job : JobRow) (memory : NoFundsMemory)
    (status : BillingStatus) (db : Db)
    : (service.among (closeRow input job memory status) [⟨[], .none⟩] db).1
        = .ok ⟨status, (noteStatus ⟨billingPendingBatch, noFundsRetrySeconds⟩ input.now job none
          memory status).2⟩
      ∧ (service.among (closeRow input job memory status) [⟨[], .none⟩] db).2
        = writeRow db job status := by
  rw [closeRow_notes, closeRow_leaves]
  cases status with
  | noFunds =>
      simp only [closingCall, writeRow, rowUpdate, noteStatus]
      split
      · exact ⟨rfl, rfl⟩
      · exact ⟨rfl, rfl⟩
  | ok => exact ⟨rfl, rfl⟩
  | mismatch => exact ⟨rfl, rfl⟩
  | skip => exact ⟨rfl, rfl⟩
  | pgError => exact ⟨rfl, rfl⟩
  | error => exact ⟨rfl, rfl⟩

theorem parkedText_leaves {error : Option String} (text : ParkedText error) {default : String}
    (ended : default = "completed" ∨ default = "error")
    : JobStatus.ofText ((billingExecStatus error).getD default) ≠ .billingPending := by
  intro same
  have closing := text.closes ended
  rw [same] at closing
  revert closing
  decide

theorem rowUpdate_spec (parked : isParked job = true) (text : ParkedText job.error)
    (made : rowUpdate job (outcome job.id) = some update) (now : ℚ)
    : update.selects job = true ∧ update.completedAt = none
      ∧ isParked (update.write now job) = !closes outcome job.id
      ∧ (isParked (update.write now job) = true → ParkedText (update.write now job).error) := by
  have pending : job.status = .billingPending := of_decide_eq_true parked
  have closing : ∀ {default error : String} {costUsd : Option ℚ},
      default = "completed" ∨ default = "error" →
      let update := sweepUpdate job ((billingExecStatus job.error).getD default) error costUsd
      update.selects job = true ∧ update.completedAt = none
      ∧ isParked (update.write now job) = false := by
    intro default error costUsd ended
    refine ⟨?_, rfl, decide_eq_false (parkedText_leaves text ended)⟩
    simp [sweepUpdate, JobUpdate.selects, pending, terminalStatuses]
  unfold closes
  cases status : outcome job.id with
  | ok =>
      rw [status] at made
      obtain rfl := Option.some.inj made
      obtain ⟨own, undated, gone⟩ := closing (.inl rfl)
      exact ⟨own, undated, gone, fun still => absurd still (by rw [gone]; simp)⟩
  | skip =>
      rw [status] at made
      obtain rfl := Option.some.inj made
      obtain ⟨own, undated, gone⟩ := closing (.inl rfl)
      exact ⟨own, undated, gone, fun still => absurd still (by rw [gone]; simp)⟩
  | mismatch =>
      rw [status] at made
      obtain rfl := Option.some.inj made
      obtain ⟨own, undated, gone⟩ := closing (.inr rfl)
      exact ⟨own, undated, gone, fun still => absurd still (by rw [gone]; simp)⟩
  | noFunds =>
      rw [status] at made
      simp only [rowUpdate] at made
      split at made
      · obtain rfl := Option.some.inj made
        refine ⟨?_, rfl, ?_, fun _ => text.noFunds⟩
        · simp [errorUpdate, JobUpdate.selects]
        · simp [errorUpdate, JobUpdate.write, isParked, pending]
      · cases made
  | pgError =>
      rw [status] at made
      cases made
  | error =>
      rw [status] at made
      cases made

def RowTexts (db : Db) : Prop := ∀ row ∈ db.jobs.rows, isParked row = true → ParkedText row.error

theorem rowTexts_of_parkedTexts (texts : ParkedTexts db) : RowTexts db :=
  fun row member parked => texts row.id row (Table.find?_of_mem member) (of_decide_eq_true parked)

/-- A row is written: it leaves the queue if its outcome closes it, the others stay, and the texts can
still be read.
-/
theorem writeRow_spec (texts : RowTexts db) (member : job ∈ db.jobs.rows)
    (parked : isParked job = true)
    : parkedIds (writeRow db job (outcome job.id))
        = (parkedIds db).filter (fun jobId => !(closes outcome jobId && jobId = job.id))
      ∧ RowTexts (writeRow db job (outcome job.id))
      ∧ ∀ row ∈ db.jobs.rows, row.id ≠ job.id →
        row ∈ (writeRow db job (outcome job.id)).jobs.rows := by
  unfold writeRow
  cases made : rowUpdate job (outcome job.id) with
  | none =>
      have stays : closes outcome job.id = false := by
        unfold closes
        cases status : outcome job.id with
        | ok => rw [status] at made; cases made
        | skip => rw [status] at made; cases made
        | mismatch => rw [status] at made; cases made
        | noFunds => rfl
        | pgError => rfl
        | error => rfl
      refine ⟨(List.filter_eq_self.mpr ?_).symm, texts, fun row stored _ => stored⟩
      intro jobId _
      by_cases same : jobId = job.id
      · rw [same, stays]
        rfl
      · simp [same]
  | some update =>
      obtain ⟨own, undated, left, text⟩ :=
        rowUpdate_spec parked (texts job member parked) made db.clock
      have named := Db.selects_jobId own
      refine ⟨?_, ?_, fun row stored other => mem_updateJob (named ▸ other) stored⟩
      · rw [parkedIds, queueIds_updateJob member own undated parked, left]
        refine List.filter_congr ?_
        intro jobId _
        by_cases same : jobId = job.id
        · simp [same]
        · simp [same]
      · intro row stored still
        rw [rows_updateJob] at stored
        obtain ⟨before, was, rfl⟩ := List.mem_map.mp stored
        by_cases selects : update.selects before = true
        · obtain rfl := Table.eq_of_key was member ((Db.selects_jobId selects).trans named.symm)
          rw [if_pos selects] at still ⊢
          exact text still
        · rw [if_neg selects] at still ⊢
          exact texts before was still

/-- A batch of rows is written: those leave the queue that their outcomes close. Induction on the
rows, whose ids differ.
-/
theorem writeRows_spec (available : ∀ jobId, outcome jobId ≠ .pgError) (rows : List JobRow)
    (texts : RowTexts db) (distinct : (rows.map JobRow.id).Nodup)
    (stored : ∀ row ∈ rows, row ∈ db.jobs.rows ∧ isParked row = true)
    : parkedIds (writeRows outcome rows db)
        = (parkedIds db).filter
            (fun jobId => !(closes outcome jobId && (rows.map JobRow.id).contains jobId))
      ∧ RowTexts (writeRows outcome rows db) := by
  induction rows generalizing db with
  | nil => exact ⟨by simp [writeRows], texts⟩
  | cons job rest ih =>
      obtain ⟨alone, distinct⟩ := List.nodup_cons.mp distinct
      obtain ⟨member, parked⟩ := stored job List.mem_cons_self
      obtain ⟨queue, texts, others⟩ := @writeRow_spec outcome _ _ texts member parked
      have later : ∀ row ∈ rest, row ∈ (writeRow db job (outcome job.id)).jobs.rows
          ∧ isParked row = true := by
        intro row listed
        obtain ⟨there, still⟩ := stored row (List.mem_cons_of_mem _ listed)
        exact ⟨others row there fun same => alone (same ▸ List.mem_map_of_mem listed), still⟩
      obtain ⟨batch, texts⟩ := ih texts distinct later
      simp only [writeRows, if_neg (available job.id)]
      refine ⟨?_, texts⟩
      rw [batch, queue, List.filter_filter]
      refine List.filter_congr ?_
      intro jobId _
      by_cases same : jobId = job.id
      · cases leaves : closes outcome jobId with
        | false => simp
        | true => simp [same]
      · simp [same]

theorem listedRows_ids (db : Db)
    : (listedRows config memory now db).map JobRow.id
      = batchOf config.batch (fun jobId => (pausedIds memory now).contains jobId) (parkedIds db) := by
  have split : db.jobs.rows.filter (fun row =>
        row.status = .billingPending && !(pausedIds memory now).contains row.id)
      = (db.jobs.rows.filter isParked).filter
          (fun row => !(pausedIds memory now).contains row.id) := by
    rw [List.filter_filter]
    refine List.filter_congr ?_
    intro row _
    rw [Bool.and_comm]
    rfl
  rw [listedRows, billingPendingRows, split, ← filter_insertionSort, List.map_take, batchOf, parkedIds,
    queueIds, List.filter_map]
  rfl

theorem sweepPending_spec (available : ∀ jobId, outcome jobId ≠ .pgError) {state : PendingBilling}
    (texts : RowTexts state.db) (now : ℚ)
    : parkedIds (sweepPending config outcome state now).db
        = serveBatch config.batch (closes outcome)
            (fun jobId => (pausedIds state.memory now).contains jobId) (parkedIds state.db)
      ∧ RowTexts (sweepPending config outcome state now).db := by
  have stored : ∀ row ∈ listedRows config state.memory now state.db,
      row ∈ state.db.jobs.rows ∧ isParked row = true := by
    intro row listed
    obtain ⟨found, pending⟩ := mem_billingPendingRows listed
    exact ⟨(Table.find?_some found).1, decide_eq_true pending⟩
  have batch := writeRows_spec available _ texts
    (@listedRows_nodup config now state.memory state.db) stored
  rw [listedRows_ids] at batch
  exact batch

-- The memory

/-- The finalisations of the jobs, with every write applied. -/
def plainEnds (outcome : JobId → BillingStatus) (jobId : JobId) : RowEnd :=
  ⟨.ok (outcome jobId), none⟩

theorem mem_noteRow (member : entry ∈ (noteRow config now job (plainEnds outcome job.id) memory).2)
    : entry ∈ memory ∨ outcome entry.1 = .noFunds ∧ entry.2 = now + config.retry := by
  unfold noteRow plainEnds caughtStatus at member
  cases status : outcome job.id with
  | noFunds =>
      rw [status] at member
      rcases List.mem_append.mp member with old | new
      · exact .inl (List.mem_filter.mp old).1
      · obtain rfl := List.mem_singleton.mp new
        exact .inr ⟨status, rfl⟩
  | ok =>
      rw [status] at member
      exact .inl (List.mem_filter.mp member).1
  | mismatch =>
      rw [status] at member
      exact .inl member
  | skip =>
      rw [status] at member
      exact .inl member
  | pgError =>
      rw [status] at member
      exact .inl member
  | error =>
      rw [status] at member
      exact .inl member

/-- A batch adds entries only for jobs without funds. Induction on the rows. -/
theorem mem_noteRows (rows : List JobRow) (memory : NoFundsMemory)
    (member : entry ∈ (noteRows config now (plainEnds outcome) rows memory).2)
    : entry ∈ memory ∨ outcome entry.1 = .noFunds ∧ entry.2 = now + config.retry := by
  induction rows generalizing memory with
  | nil => exact .inl member
  | cons job rest ih =>
      rcases @noteRows_cons config now (plainEnds outcome) job rest memory with
        ⟨raised, stops⟩ | ⟨raised, goes⟩
      · rw [stops] at member
        exact mem_noteRow member
      · rw [goes] at member
        rcases ih _ member with first | new
        · exact mem_noteRow first
        · exact .inr new

theorem mem_sweepPending (member : entry ∈ (sweepPending config outcome state now).memory)
    : entry ∈ state.memory ∨ outcome entry.1 = .noFunds ∧ entry.2 = now + config.retry := by
  change entry ∈ (sweepOnce config state.memory ⟨now, .ok state.db, plainEnds outcome⟩).2 at member
  simp only [sweepOnce] at member
  split at member
  · exact mem_noteRows _ _ (List.mem_filter.mp member).1
  · exact mem_noteRows _ _ member

theorem closes_noFunds {jobId : JobId} (broke : outcome jobId = .noFunds)
    : closes outcome jobId = false := by
  unfold closes
  rw [broke]
  rfl

-- All billing sweeps

def heldBack (config : PauseConfig) (outcome : JobId → BillingStatus)
    : PendingBilling → List ℚ → List (JobId → Bool)
  | _, [] => []
  | state, now :: rest =>
      (fun jobId => (pausedIds state.memory now).contains jobId)
        :: heldBack config outcome (sweepPending config outcome state now) rest

theorem heldBack_length (state : PendingBilling) (times : List ℚ)
    : (heldBack config outcome state times).length = times.length := by
  induction times generalizing state with
  | nil => rfl
  | cons now rest ih => exact congrArg (· + 1) (ih _)

theorem sweeps_serve (available : ∀ jobId, outcome jobId ≠ .pgError) (texts : RowTexts state.db)
    (times : List ℚ)
    : parkedIds (times.foldl (sweepPending config outcome) state).db
      = serveBatches config.batch (closes outcome) (heldBack config outcome state times)
          (parkedIds state.db) := by
  induction times generalizing state with
  | nil => rfl
  | cons now rest ih =>
      obtain ⟨batch, texts⟩ := @sweepPending_spec config _ available state texts now
      rw [List.foldl_cons, ih texts, batch]
      rfl

theorem heldBack_noFunds (paused : ∀ entry ∈ state.memory, outcome entry.1 = .noFunds)
    (times : List ℚ)
    : ∀ held ∈ heldBack config outcome state times, ∀ jobId, closes outcome jobId = true →
        held jobId = false := by
  induction times generalizing state with
  | nil => simp [heldBack]
  | cons now rest ih =>
      intro held listed jobId goes
      rcases List.mem_cons.mp listed with rfl | later
      · by_contra isHeld
        have there : jobId ∈ pausedIds state.memory now := by simpa using isHeld
        obtain ⟨entry, kept, rfl⟩ := List.mem_map.mp there
        have broke := paused entry (List.mem_filter.mp kept).1
        rw [closes_noFunds broke] at goes
        cases goes
      · refine ih ?_ held later jobId goes
        intro entry member
        rcases mem_sweepPending member with old | new
        · exact paused entry old
        · exact new.1

/-- Times so far from each other that every pause is over at the next. -/
def apart (step : ℚ) : ℕ → ℚ → List ℚ
  | 0, _ => []
  | count + 1, now => now :: apart step count (now + step)

theorem apart_length (step : ℚ) (count : ℕ) (now : ℚ) : (apart step count now).length = count := by
  induction count generalizing now with
  | zero => rfl
  | succ count ih => exact congrArg (· + 1) (ih _)

theorem apart_ordered {step : ℚ} (forward : 0 ≤ step) (count : ℕ) (now : ℚ)
    : (∀ time ∈ apart step count now, now ≤ time)
      ∧ (apart step count now).Pairwise (fun earlier later => earlier ≤ later) := by
  induction count generalizing now with
  | zero => exact ⟨by simp [apart], List.Pairwise.nil⟩
  | succ count ih =>
      obtain ⟨after, ordered⟩ := ih (now + step)
      have later : ∀ time ∈ apart step count (now + step), now ≤ time :=
        fun time member => (by linarith [after time member])
      refine ⟨?_, List.pairwise_cons.mpr ⟨later, ordered⟩⟩
      intro time member
      rcases List.mem_cons.mp member with rfl | behind
      · exact le_refl _
      · exact later time behind

/-- Sweeps at such times hold nothing back. Induction on their number. -/
theorem heldBack_apart (count : ℕ) {start : ℚ} (passed : ∀ entry ∈ state.memory, entry.2 ≤ start)
    : ∀ held ∈ heldBack config outcome state (apart |config.retry| count start), ∀ jobId,
        held jobId = false := by
  induction count generalizing state start with
  | zero => simp [heldBack, apart]
  | succ count ih =>
      intro held listed jobId
      rcases List.mem_cons.mp listed with rfl | later
      · have none_ : pausedIds state.memory start = [] := by
          rw [pausedIds, List.map_eq_nil_iff, List.filter_eq_nil_iff]
          exact fun entry member => by simpa using passed entry member
        simp [none_]
      · refine ih ?_ held later jobId
        intro entry member
        rcases mem_sweepPending member with old | ⟨-, new⟩
        · linarith [passed entry old, abs_nonneg config.retry]
        · linarith [le_abs_self config.retry]

theorem exists_after (memory : NoFundsMemory)
    : ∃ start : ℚ, ∀ entry ∈ memory, entry.2 ≤ start := by
  induction memory with
  | nil => exact ⟨0, by simp⟩
  | cons head rest ih =>
      obtain ⟨start, passed⟩ := ih
      refine ⟨max head.2 start, ?_⟩
      intro entry member
      rcases List.mem_cons.mp member with rfl | later
      · exact le_max_left _ _
      · exact (passed entry later).trans (le_max_right _ _)

theorem billingDrains_iff (texts : RowTexts state.db)
    (available : ∀ jobId, outcome jobId ≠ .pgError)
    (paused : ∀ entry ∈ state.memory, outcome entry.1 = .noFunds)
    : BillingDrains config outcome state
      ↔ ∀ jobId ∈ parkedIds state.db, outcome jobId = .ok →
          staysBefore (closes outcome) jobId (parkedIds state.db) < config.batch := by
  constructor
  · intro drains jobId waits billed
    by_contra many
    obtain ⟨start, passed⟩ := exists_after state.memory
    let times := apart |config.retry| (parkedIds state.db).length start
    have gone := drains times (apart_length _ _ _)
      (apart_ordered (abs_nonneg config.retry) _ start).2 jobId waits billed
    refine gone ?_
    rw [sweeps_serve available texts]
    refine mem_serveBatches _ ?_ waits (not_lt.mp many)
    exact fun held listed other _ => heldBack_apart _ passed held listed other
  · intro few times count _ jobId waits billed
    have goes : closes outcome jobId = true := by
      unfold closes
      rw [billed]
      rfl
    rw [sweeps_serve available texts]
    refine not_mem_serveBatches _ (heldBack_noFunds paused times) goes (few jobId waits billed) ?_
    rw [heldBack_length, count]
    exact List.countP_le_length

-- The refund sweeps

def Settles (refunds : JobId → Bool) (leaves : JobId → Bool) (db : Db) : Prop :=
  ∀ row ∈ db.jobs.rows, isMarked row = true →
    leaves row.id = (refunds row.id && (parseRefundAmount (row.error.getD "")).isSome)

theorem settles_paysBack (refunds : JobId → Bool) (db : Db)
    : Settles refunds (paysBack refunds db) db := by
  intro row member _
  have found : db.job? row.id = some row := Table.find?_of_mem member
  rw [paysBack, found, Option.any_some]

theorem clearMarker_spec (settles : Settles refunds leaves db) (member : job ∈ db.jobs.rows)
    (marked : isMarked job = true)
    : markedIds (db.updateJob (errorUpdate job "")).2
        = (markedIds db).filter (fun jobId => jobId ≠ job.id)
      ∧ Settles refunds leaves (db.updateJob (errorUpdate job "")).2
      ∧ ∀ row ∈ db.jobs.rows, row.id ≠ job.id →
        row ∈ (db.updateJob (errorUpdate job "")).2.jobs.rows := by
  have own : (errorUpdate job "").selects job = true := by
    simp [errorUpdate, JobUpdate.selects]
  have unmarked : isMarked ((errorUpdate job "").write db.clock job) = false := by
    have empty : likePrefix refundMarkerPrefix.toList [] = false := by decide
    simp [isMarked, errorUpdate, JobUpdate.write, empty]
  refine ⟨?_, ?_, fun row stored other => mem_updateJob other stored⟩
  · rw [markedIds, queueIds_updateJob member own rfl marked, unmarked]
    rfl
  · intro row stored still
    rw [rows_updateJob] at stored
    obtain ⟨before, was, rfl⟩ := List.mem_map.mp stored
    by_cases selects : (errorUpdate job "").selects before = true
    · obtain rfl := Table.eq_of_key was member (Db.selects_jobId selects)
      rw [if_pos selects, unmarked] at still
      cases still
    · rw [if_neg selects] at still ⊢
      exact settles before was still

/-- A batch of refunds: those jobs leave the queue that are paid back. Induction on the rows, whose
ids differ.
-/
theorem refundBatch_spec (rows : List JobRow) (settles : Settles refunds leaves db)
    (distinct : (rows.map JobRow.id).Nodup)
    (stored : ∀ row ∈ rows, row ∈ db.jobs.rows ∧ isMarked row = true)
    : markedIds (refundBatch refunds rows db)
        = (markedIds db).filter
            (fun jobId => !(leaves jobId && (rows.map JobRow.id).contains jobId))
      ∧ Settles refunds leaves (refundBatch refunds rows db) := by
  induction rows generalizing db with
  | nil => exact ⟨by simp [refundBatch], settles⟩
  | cons job rest ih =>
      obtain ⟨alone, distinct⟩ := List.nodup_cons.mp distinct
      obtain ⟨member, marked⟩ := stored job List.mem_cons_self
      have paid := settles job member marked
      have behind : ∀ row ∈ rest, row ∈ db.jobs.rows ∧ isMarked row = true :=
        fun row listed => stored row (List.mem_cons_of_mem _ listed)
      have stays : leaves job.id = false →
          markedIds (refundBatch refunds rest db)
            = (markedIds db).filter
                (fun jobId => !(leaves jobId && ((job :: rest).map JobRow.id).contains jobId))
          ∧ Settles refunds leaves (refundBatch refunds rest db) := by
        intro unpaid
        obtain ⟨batch, settles⟩ := ih settles distinct behind
        refine ⟨?_, settles⟩
        rw [batch]
        refine List.filter_congr ?_
        intro jobId _
        by_cases same : jobId = job.id
        · simp [same, unpaid]
        · simp [same]
      simp only [refundBatch]
      split
      · rename_i unparsed
        exact stays (by rw [paid, unparsed]; simp)
      · rename_i amount parsed
        split
        · rename_i refunded
          obtain ⟨queue, settles, others⟩ := clearMarker_spec settles member marked
          have later : ∀ row ∈ rest, row ∈ (db.updateJob (errorUpdate job "")).2.jobs.rows
              ∧ isMarked row = true := by
            intro row listed
            obtain ⟨there, still⟩ := behind row listed
            exact ⟨others row there fun same => alone (same ▸ List.mem_map_of_mem listed), still⟩
          obtain ⟨batch, settles⟩ := ih settles distinct later
          refine ⟨?_, settles⟩
          rw [batch, queue, List.filter_filter]
          refine List.filter_congr ?_
          intro jobId _
          by_cases same : jobId = job.id
          · simp [same, paid, refunded, parsed]
          · simp [same]
        · rename_i refused
          exact stays (by rw [paid, Bool.eq_false_iff.mpr refused]; rfl)

theorem sweepRefunds_spec (settles : Settles refunds leaves db)
    : markedIds (sweepRefunds refunds db)
        = serveBatch 50 leaves (fun _ => false) (markedIds db)
      ∧ Settles refunds leaves (sweepRefunds refunds db) := by
  have ids : (refundPendingRows db 50).map JobRow.id
      = batchOf 50 (fun _ => false) (markedIds db) := by
    have all : (markedIds db).filter (fun _ => !false) = markedIds db :=
      List.filter_eq_self.mpr (fun _ _ => rfl)
    rw [batchOf, all, refundPendingRows, List.map_take]
    rfl
  have distinct : ((refundPendingRows db 50).map JobRow.id).Nodup := by
    have unique : ((db.jobs.rows.filter isMarked).map JobRow.id).Nodup :=
      db.jobs.unique.sublist (List.filter_sublist.map _)
    rw [ids]
    refine List.Nodup.sublist ((List.take_sublist _ _).trans List.filter_sublist) ?_
    exact ((List.perm_insertionSort _ _).map _).nodup_iff.mpr unique
  have stored : ∀ row ∈ refundPendingRows db 50, row ∈ db.jobs.rows ∧ isMarked row = true := by
    intro row listed
    have sorted := List.mem_of_mem_take listed
    rw [List.mem_insertionSort, List.mem_filter] at sorted
    exact sorted
  have batch := refundBatch_spec _ settles distinct stored
  rw [ids] at batch
  exact batch

theorem refundSweeps_serve (count : ℕ) (settles : Settles refunds leaves db)
    : markedIds ((sweepRefunds refunds)^[count] db)
      = serveBatches 50 leaves (List.replicate count (fun _ => false)) (markedIds db) := by
  induction count generalizing db with
  | zero => rfl
  | succ count ih =>
      obtain ⟨batch, settles⟩ := sweepRefunds_spec settles
      rw [Function.iterate_succ_apply, ih settles, batch]
      rfl

/-- The refund sweeps get to every refund that goes through exactly when fewer than fifty that stay are
before it.
-/
theorem refundDrains_iff (refunds : JobId → Bool) (db : Db)
    : RefundDrains refunds db
      ↔ ∀ jobId ∈ markedIds db, paysBack refunds db jobId = true →
          staysBefore (paysBack refunds db) jobId (markedIds db) < 50 := by
  have free : ∀ held ∈ List.replicate (markedIds db).length (fun _ : JobId => false),
      ∀ jobId, held jobId = false := by
    intro held listed jobId
    rw [List.eq_of_mem_replicate listed]
  unfold RefundDrains
  rw [refundSweeps_serve _ (settles_paysBack refunds db)]
  constructor
  · intro drains jobId waits paid
    by_contra many
    refine drains jobId waits paid ?_
    exact mem_serveBatches _ (fun held listed other _ => free held listed other) waits
      (not_lt.mp many)
  · intro few jobId waits paid
    refine not_mem_serveBatches _ (fun held listed other _ => free held listed other) paid
      (few jobId waits paid) ?_
    rw [List.length_replicate]
    exact List.countP_le_length

/-- Both sweeps get to every job that can be billed or paid back, for every batch size, pause and memory
of jobs without funds, exactly when fewer jobs than a batch that stay pending are before it in its
queue.
-/
theorem sweeps_drain_iff (config : PauseConfig) (outcome : JobId → BillingStatus)
    (refunds : JobId → Bool) (state : PendingBilling) (texts : ParkedTexts state.db)
    (available : ∀ jobId, outcome jobId ≠ .pgError)
    (paused : ∀ entry ∈ state.memory, outcome entry.1 = .noFunds)
    : (BillingDrains config outcome state
        ↔ ∀ jobId ∈ parkedIds state.db, outcome jobId = .ok →
            staysBefore (closes outcome) jobId (parkedIds state.db) < config.batch)
      ∧ (RefundDrains refunds state.db
        ↔ ∀ jobId ∈ markedIds state.db, paysBack refunds state.db jobId = true →
            staysBefore (paysBack refunds state.db) jobId (markedIds state.db) < 50) :=
  ⟨billingDrains_iff (rowTexts_of_parkedTexts texts) available paused,
    refundDrains_iff refunds state.db⟩

def waitingRow (jobId : JobId) (completedAt : ℚ) : JobRow :=
  { Db.empty.newJob jobId "acme" .billingPending false with
    completedAt := some completedAt
    error := some "billing:error" }

def waitingDb : Db := (Db.empty.insertJob (waitingRow jobA 1)).2

/-- A job alone in the queue is billed by the first sweep. -/
theorem sweeps_drain_alone
    : BillingDrains ⟨50, 3600⟩ (fun _ => .ok) ⟨waitingDb, []⟩ ∧ RefundDrains (fun _ => true) waitingDb
      := by
  have stored : waitingDb.jobs.rows = [waitingRow jobA 1] := by
    decide +kernel
  have texts : ParkedTexts waitingDb := by
    intro jobId row found _
    have member := (Table.find?_some found).1
    rw [stored] at member
    rw [List.mem_singleton.mp member]
    decide
  have drains := sweeps_drain_iff ⟨50, 3600⟩ (fun _ => .ok) (fun _ => true) ⟨waitingDb, []⟩ texts
    (by simp) (by simp)
  have parked : parkedIds waitingDb = [jobA] := by decide +kernel
  have marked : markedIds waitingDb = [] := by decide +kernel
  refine ⟨drains.1.mpr ?_, drains.2.mpr ?_⟩
  · intro jobId waits _
    rw [parked] at waits ⊢
    obtain rfl := List.mem_singleton.mp waits
    decide
  · intro jobId waits
    rw [marked] at waits
    cases waits

/-- The last two digits of an id. -/
def crowdDigits (index : ℕ) : List Char :=
  [(index / 10 % 10).digitChar, (index % 10).digitChar]

def crowdId (index : ℕ) : JobId where
  text := String.ofList ("00000000-0000-4000-8000-0000000000".toList ++ crowdDigits index)
  wellFormed := by
    have digits : ∀ digit < 10, isUuidChar (Nat.digitChar digit) = true := by decide
    have high := digits (index / 10 % 10) (Nat.mod_lt _ (by decide))
    have low := digits (index % 10) (Nat.mod_lt _ (by decide))
    have fixed : "00000000-0000-4000-8000-0000000000".toList.all isUuidChar = true := by decide
    refine ⟨?_, ?_⟩
    · intro empty
      have none_ := congrArg String.toList empty
      simp at none_
    · rw [String.toList_ofList, List.all_append, fixed]
      simp [crowdDigits, high, low]

theorem crowdId_inj {left right : ℕ} (leftSmall : left < 100) (rightSmall : right < 100)
    (same : crowdId left = crowdId right)
    : left = right := by
  have digits : ∀ left < 10, ∀ right < 10, Nat.digitChar left = Nat.digitChar right →
      left = right := by
    decide
  have texts := String.ofList_injective (congrArg JobId.text same)
  obtain ⟨first, second⟩ := List.cons.inj (List.append_cancel_left texts)
  have high := digits _ (Nat.mod_lt _ (by decide)) _ (Nat.mod_lt _ (by decide)) first
  have low := digits _ (Nat.mod_lt _ (by decide)) _ (Nat.mod_lt _ (by decide))
    (List.cons.inj second).1
  omega

/-- Fifty-one jobs whose billing is pending. -/
def crowdedDb : Db :=
  { Db.empty with
    jobs := {
      rows := (List.range 51).map (fun index => waitingRow (crowdId index) index)
      unique := by
        rw [List.map_map]
        refine List.Nodup.map_on ?_ List.nodup_range
        intro left inLeft right inRight same
        exact crowdId_inj (by linarith [List.mem_range.mp inLeft])
          (by linarith [List.mem_range.mp inRight]) same
    } }

theorem parkedIds_crowdedDb : parkedIds crowdedDb = (List.range 51).map crowdId := by
  have parked : crowdedDb.jobs.rows.filter isParked = crowdedDb.jobs.rows := by
    refine List.filter_eq_self.mpr ?_
    intro row member
    obtain ⟨index, -, rfl⟩ := List.mem_map.mp member
    rfl
  have ordered : crowdedDb.jobs.rows.Pairwise
      (fun left right => nullsLast left.completedAt right.completedAt) := by
    refine List.pairwise_map.mpr (List.pairwise_lt_range.imp ?_)
    intro earlier later before
    exact Nat.cast_le.mpr before.le
  rw [parkedIds, queueIds, parked, ordered.insertionSort_eq]
  exact List.map_map

/-- Fifty jobs whose finalisation always fails starve a younger one that could be billed. -/
theorem crowd_starves
    : ¬ BillingDrains ⟨50, 3600⟩ (fun jobId => if jobId = crowdId 50 then .ok else .error)
        ⟨crowdedDb, []⟩ := by
  intro drains
  have texts : RowTexts crowdedDb := by
    intro row member _
    obtain ⟨index, -, rfl⟩ := List.mem_map.mp member
    have text : ParkedText (some "billing:error") := by decide
    exact text
  have available : ∀ jobId : JobId,
      (if jobId = crowdId 50 then BillingStatus.ok else .error) ≠ .pgError := by
    intro jobId
    split
    · simp
    · simp
  have waits : crowdId 50 ∈ parkedIds crowdedDb := by
    rw [parkedIds_crowdedDb]
    exact List.mem_map_of_mem (by decide)
  have few := (billingDrains_iff texts available (by simp)).mp drains (crowdId 50) waits (if_pos rfl)
  have others : ∀ jobId ∈ (List.range 50).map crowdId, jobId ≠ crowdId 50 := by
    intro jobId member same
    obtain ⟨index, below, rfl⟩ := List.mem_map.mp member
    have small := List.mem_range.mp below
    have equal := crowdId_inj (by omega) (by omega) same
    omega
  rw [parkedIds_crowdedDb, List.range_succ, List.map_append, List.map_singleton] at few
  have fifty : staysBefore
      (closes (fun jobId => if jobId = crowdId 50 then BillingStatus.ok else .error)) (crowdId 50)
      ((List.range 50).map crowdId ++ [crowdId 50]) = 50 := by
    rw [staysBefore, List.takeWhile_append_of_pos (by simpa using others)]
    rw [List.takeWhile_cons_of_neg (by simp), List.append_nil]
    rw [List.countP_eq_length.mpr, List.length_map, List.length_range]
    intro jobId member
    simp [closes, others jobId member]
  rw [fifty] at few
  exact lt_irrefl _ few

end RomaBridge.Properties
