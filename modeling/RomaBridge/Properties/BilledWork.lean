import RomaBridge.Behaviour.OneJob

/-! When executed work is billed or waits to be billed.
The poll loop accepts six backend statuses, but only three outcomes are parked for the billing
sweeper when the DEBIT failed. The final write of any other outcome drops the charge.
-/

namespace RomaBridge.Properties

open RomaBridge.Foundation RomaBridge.Model Program

variable {after before : Db} {call : Call} {fault : Fault} {billingStatus : BillingStatus}

-- Statements

def HasDebit (tenantId : String) (jobId : JobId) (db : Db) : Prop :=
  ∃ entry,
    db.ledger.find? (ledgerIdFor tenantId (jobKey jobId)) = some entry
    ∧ entry.entryType = .debit

/-- Once the seconds of the run stand on the row, the job is debited or waits for the sweeper.
-/
def WorkBilled (tenantId : String) (jobId : JobId) (world : WorkerWorld) (db : Db) : Prop :=
  ∀ row,
    db.job? jobId = some row
    → row.durationSeconds = some world.billable
    → HasDebit tenantId jobId db ∨ row.status = .billingPending

/-- Every way the poll loop may end is one the final write can park: 40 rounds on vastai, 24
elsewhere.
-/
def endsParkable (world : WorkerWorld) : Bool :=
  [40, 24].all (fun rounds =>
    match pollLoop world.poll rounds 0 with
    | .ok status => ["completed", "timeout", "failed"].contains status
    | .error _ => true)

/-- The final write of the job comes after its DEBIT, or after an outcome that can be parked. -/
def ParksWork (tenantId : String) (jobId : JobId) (world : WorkerWorld)
    : Config bridge Db Kind Answer → Label Kind → Prop :=
  Config.Permits (fun db kind call _ =>
    isExecutorOf jobId kind = true
    → call.site = .workerFinal
    → (db.ledger.find? (ledgerIdFor tenantId (jobKey jobId))).isSome = true
      ∨ endsParkable world = true)

instance (tenantId : String) (jobId : JobId) (world : WorkerWorld)
    (config : Config bridge Db Kind Answer) (label : Label Kind)
    : Decidable (ParksWork tenantId jobId world config label) :=
  inferInstanceAs (Decidable (Config.Permits _ config label))

-- The invariant

/-- The row of executed work: closed, debited or parked, and parked with a readable text. -/
structure ExecutedRow (debited : Prop) (row : JobRow) : Prop where
  closed : row.status ∈ finalWriteBlockedStatuses
  billed : debited ∨ row.status = .billingPending
  parked : row.status = .billingPending → ParkedText row.error

/-- The key of the DEBIT holds nothing but the run's DEBIT, and executed work is billed. -/
structure WorkKept (tenantId : String) (jobId : JobId) (world : WorkerWorld) (db : Db)
    : Prop where
  owned : OwnedBy tenantId jobId db
  debit
    : ∀ entry,
        db.ledger.find? (ledgerIdFor tenantId (jobKey jobId)) = some entry
        → ∃ planName, entry = billingEntry tenantId jobId world.billable planName
  waits
    : ∀ row,
        db.job? jobId = some row
        → row.status = .billingPending
        → row.durationSeconds = some world.billable
  executed
    : ∀ row,
        db.job? jobId = some row
        → row.durationSeconds = some world.billable
        → ExecutedRow (HasDebit tenantId jobId db) row

section Invariant

variable {tenantId : String} {jobId : JobId} {world : WorkerWorld} {db : Db}

theorem HasDebit.grows (debit : HasDebit tenantId jobId db) (grows : Db.Grows db after)
    : HasDebit tenantId jobId after := by
  obtain ⟨entry, found, type⟩ := debit
  exact ⟨entry, grows.ledger _ _ found, type⟩

theorem hasDebit_of_debited {amount : ℚ} (debited : Debited tenantId jobId amount db)
    : HasDebit tenantId jobId db := by
  obtain ⟨entry, found, same⟩ := debited
  simp only [idemMatches, Bool.and_eq_true, decide_eq_true_eq] at same
  exact ⟨entry, found, same.1.1.1⟩

theorem WorkKept.hasDebit (kept : WorkKept tenantId jobId world db)
    (some_ : (db.ledger.find? (ledgerIdFor tenantId (jobKey jobId))).isSome = true)
    : HasDebit tenantId jobId db := by
  obtain ⟨entry, found⟩ := Option.isSome_iff_exists.mp some_
  obtain ⟨planName, rfl⟩ := kept.debit entry found
  exact ⟨_, found, rfl⟩

theorem WorkKept.no_conflict (kept : WorkKept tenantId jobId world db)
    : ¬Conflicting tenantId jobId (totalCost world.billable 0 0) db := by
  intro conflict
  obtain ⟨entry, found, differs⟩ := conflict
  obtain ⟨planName, rfl⟩ := kept.debit entry found
  simp [idemMatches, billingEntry, debitEntry, usageMetadata] at differs

theorem WorkKept.workBilled (kept : WorkKept tenantId jobId world db)
    : WorkBilled tenantId jobId world db :=
  fun row found executed => (kept.executed row found executed).billed

section Applied

variable {query : Query} (kept : WorkKept tenantId jobId world db)
  (debits
    : ∀ entry,
        query = .debitInsert entry ∨ query = .creditInsert entry
        → entry.ledgerId = ledgerIdFor tenantId (jobKey jobId)
        → ∃ planName, entry = billingEntry tenantId jobId world.billable planName)

include kept debits

/-- A transaction keeps the invariant if what it stores for the job meets it. -/
theorem WorkKept.apply
    (rows
      : ∀ row after,
          db.job? jobId = some row
          → (db.apply query).2.job? jobId = some after
          → after.durationSeconds = some world.billable
          → (row.durationSeconds = some world.billable
            → ExecutedRow (HasDebit tenantId jobId db) row)
          → ExecutedRow (HasDebit tenantId jobId db) after)
    (parks
      : ∀ row after,
          db.job? jobId = some row
          → (db.apply query).2.job? jobId = some after
          → after.status = .billingPending
          → (row.status = .billingPending → row.durationSeconds = some world.billable)
          → after.durationSeconds = some world.billable)
    : WorkKept tenantId jobId world (db.apply query).2 := by
  refine ⟨kept.owned.apply query, Db.apply_entries kept.debit debits, ?_, ?_⟩
  · intro after found waiting
    obtain ⟨row, stored, _⟩ := kept.owned
    exact parks row after stored found waiting (kept.waits row stored)
  · intro after found executed
    obtain ⟨row, stored, _⟩ := kept.owned
    have rowKept := rows row after stored found executed (kept.executed row stored)
    refine ⟨rowKept.closed, ?_, rowKept.parked⟩
    rcases rowKept.billed with debited | parked
    · exact Or.inl (debited.grows (db.apply_grows query))
    · exact Or.inr parked

theorem WorkKept.apply_reads (reads : ¬Db.WritesJobs query)
    : WorkKept tenantId jobId world (db.apply query).2 := by
  refine kept.apply debits ?_ ?_
  · intro row after found same executed rowKept
    cases found.symm.trans ((db.apply_job?_eq reads jobId).symm.trans same)
    exact rowKept executed
  · intro row after found same waiting waits
    cases found.symm.trans ((db.apply_job?_eq reads jobId).symm.trans same)
    exact waits waiting

end Applied

theorem WorkKept.update (kept : WorkKept tenantId jobId world db) {update : JobUpdate}
    (writes
      : ∀ row,
          db.job? jobId = some row
          → update.selects row = true
          → (update.write db.clock row).durationSeconds = some world.billable
          → (row.durationSeconds = some world.billable
            → ExecutedRow (HasDebit tenantId jobId db) row)
          → ExecutedRow (HasDebit tenantId jobId db) (update.write db.clock row))
    (parks
      : ∀ row,
          db.job? jobId = some row
          → update.selects row = true
          → (update.write db.clock row).status = .billingPending
          → (row.status = .billingPending → row.durationSeconds = some world.billable)
          → (update.write db.clock row).durationSeconds = some world.billable)
    : WorkKept tenantId jobId world (db.apply (.updateExecutionJob update)).2 := by
  refine kept.apply (by simp) ?_ ?_
  · intro row after found same executed rowKept
    cases same.symm.trans (Db.job?_updated found update)
    split at executed
    · rename_i selected
      rw [if_pos selected]
      exact writes row found selected executed rowKept
    · rename_i missed
      rw [if_neg missed]
      exact rowKept executed
  · intro row after found same waiting waits
    cases same.symm.trans (Db.job?_updated found update)
    split at waiting
    · rename_i selected
      rw [if_pos selected]
      exact parks row found selected waiting waits
    · rename_i missed
      rw [if_neg missed]
      exact waits waiting

theorem WorkKept.billing (kept : WorkKept tenantId jobId world db) {tenantId' : String}
    {jobId' : JobId} {gpuSec : ℚ} {planName : String} {backend : Option String} {call : Call}
    (issued : BillingCall tenantId' jobId' gpuSec planName backend call)
    (seconds : tenantId' = tenantId → jobId' = jobId → gpuSec = world.billable)
    : WorkKept tenantId jobId world (db.apply call.query).2 := by
  refine kept.apply_reads ?_ issued.reads
  intro entry inserted key
  obtain ⟨rfl, -⟩ := issued.stored inserted
  obtain ⟨rfl, rfl⟩ := jobKey_injective key
  obtain rfl := seconds rfl rfl
  exact ⟨planName, rfl⟩

end Invariant

-- Contracts

/-- What bystanders leave alone: the seconds, and the status of work in progress. -/
def Spectates (jobId : JobId) (world : WorkerWorld) (before after : Db) : Prop :=
  Db.Grows before after
  ∧ ∀ row,
      before.job? jobId = some row
      → ∃ later,
          after.job? jobId = some later
          ∧ later.durationSeconds = row.durationSeconds
          ∧ (row.durationSeconds ≠ some world.billable → later.status = row.status)

/-- What the executor leaves alone: the seconds, once they are written. -/
def Retires (jobId : JobId) (world : WorkerWorld) (before after : Db) : Prop :=
  Db.Grows before after
  ∧ ∀ row,
      before.job? jobId = some row
      → row.durationSeconds = some world.billable
      → ∃ later,
          after.job? jobId = some later ∧ later.durationSeconds = some world.billable

section Contracts

variable {tenantId : String} {jobId : JobId} {world : WorkerWorld}

theorem Spectates.refl (db : Db) : Spectates jobId world db db :=
  ⟨.refl db, fun row found => ⟨row, found, rfl, fun _ => rfl⟩⟩

theorem Spectates.trans {first second third : Db} (left : Spectates jobId world first second)
    (right : Spectates jobId world second third)
    : Spectates jobId world first third := by
  refine ⟨left.1.trans right.1, ?_⟩
  intro row found
  obtain ⟨middle, between, seconds, status⟩ := left.2 row found
  obtain ⟨last, later, seconds', status'⟩ := right.2 middle between
  refine ⟨last, later, seconds'.trans seconds, ?_⟩
  intro working
  exact (status' (fun same => working (seconds ▸ same))).trans (status working)

theorem Spectates.retires (spectates : Spectates jobId world before after)
    : Retires jobId world before after := by
  refine ⟨spectates.1, ?_⟩
  intro row found executed
  obtain ⟨later, stored, seconds, _⟩ := spectates.2 row found
  exact ⟨later, stored, seconds.trans executed⟩

theorem Retires.trans {first second third : Db} (left : Retires jobId world first second)
    (right : Retires jobId world second third)
    : Retires jobId world first third := by
  refine ⟨left.1.trans right.1, ?_⟩
  intro row found executed
  obtain ⟨middle, between, done⟩ := left.2 row found executed
  exact right.2 middle between done

theorem spectates_of_reads (db : Db) {query : Query} (reads : ¬Db.WritesJobs query)
    : Spectates jobId world db (db.apply query).2 := by
  refine ⟨db.apply_grows query, ?_⟩
  intro row found
  exact ⟨row, (db.apply_job?_eq reads jobId).trans found, rfl, fun _ => rfl⟩

theorem retires_of_update (db : Db) {update : JobUpdate}
    (seconds : update.durationSeconds = none ∨ update.durationSeconds = some world.billable)
    : Retires jobId world db (db.apply (.updateExecutionJob update)).2 := by
  refine ⟨db.apply_grows _, ?_⟩
  intro row found executed
  refine ⟨_, Db.job?_updated found update, ?_⟩
  split
  · rcases seconds with none | same
    · simpa [JobUpdate.write, none] using executed
    · simp [JobUpdate.write, same]
  · exact executed

theorem exec_spectates {db : Db} (spectates : Spectates jobId world db (db.apply call.query).2)
    : Spectates jobId world db (service.exec call fault db).2 :=
  service.exec_holds (.refl db) spectates

def workerContract (tenantId : String) (jobId : JobId) (world : WorkerWorld)
    : Contract bridge Db Kind where
  inv := WorkKept tenantId jobId world
  rely := Spectates jobId world
  guarantee before _ _ after := Retires jobId world before after
  allowed db call _ :=
    call.site = .workerFinal
    → (db.ledger.find? (ledgerIdFor tenantId (jobKey jobId))).isSome = true
      ∨ endsParkable world = true
  admits _ := False

def spectatorContract (tenantId : String) (jobId : JobId) (world : WorkerWorld)
    : Contract bridge Db Kind where
  inv := WorkKept tenantId jobId world
  rely := Retires jobId world
  guarantee before _ _ after := Spectates jobId world before after
  allowed _ _ _ := True
  admits _ := False

theorem workerContract_composes : (workerContract tenantId jobId world).Composes where
  refl db := .refl db
  trans left right := left.trans right

theorem spectatorContract_composes : (spectatorContract tenantId jobId world).Composes where
  refl db := (Spectates.refl db).retires
  trans left right := left.trans right

theorem workerContract_keeps {db : Db}
    (unclaimed
      : ∀ limit locked world, call.query ≠ .claimQueuedExecutionJobs limit locked world)
    (kept : WorkKept tenantId jobId world db)
    (applied : WorkKept tenantId jobId world (db.apply call.query).2)
    (retires : Retires jobId world db (db.apply call.query).2)
    : (workerContract tenantId jobId world).Keeps service db call fault :=
  keeps_of_apply unclaimed ⟨kept, (Spectates.refl db).retires⟩ ⟨applied, retires⟩

theorem spectatorContract_keeps {db : Db}
    (unclaimed
      : ∀ limit locked world, call.query ≠ .claimQueuedExecutionJobs limit locked world)
    (kept : WorkKept tenantId jobId world db)
    (applied : WorkKept tenantId jobId world (db.apply call.query).2)
    (spectates : Spectates jobId world db (db.apply call.query).2)
    : (spectatorContract tenantId jobId world).Keeps service db call fault :=
  keeps_of_apply unclaimed ⟨kept, .refl db⟩ ⟨applied, spectates⟩

end Contracts

-- The executor

/-- A refused DEBIT of an outcome that can be parked is parked, by cases of both statuses. -/
theorem writeStatus_parks {status : String} (parkable : status ∈ ["completed", "timeout", "failed"])
    (refused : billingStatus ∈ [BillingStatus.noFunds, .pgError, .error])
    : JobStatus.ofText (writeStatus status billingStatus) = .billingPending := by
  have all : ∀ status ∈ ["completed", "timeout", "failed"],
      ∀ billingStatus ∈ [BillingStatus.noFunds, .pgError, .error],
        JobStatus.ofText (writeStatus status billingStatus) = .billingPending := by
    decide
  exact all status parkable billingStatus refused

theorem finalStatus_closed {status : String} (ended : status = "timeout" ∨ status ∈ pollEnds)
    : JobStatus.ofText (writeStatus status billingStatus) ∈ finalWriteBlockedStatuses := by
  have known : status ∈ "timeout" :: pollEnds := by simpa using ended
  have all : ∀ status ∈ "timeout" :: pollEnds,
      JobStatus.ofText (writeStatus status billingStatus) ∈ finalWriteBlockedStatuses := by
    cases billingStatus <;> decide
  exact all status known

theorem parkable_of_polled {world : WorkerWorld} {backendName status : String}
    (ends : endsParkable world = true)
    (polled : pollLoop world.poll (pollRounds backendName) 0 = .ok status)
    : status ∈ ["completed", "timeout", "failed"] := by
  simp only [endsParkable, List.all_cons, List.all_nil, Bool.and_true, Bool.and_eq_true] at ends
  unfold pollRounds at polled
  split at polled
  · have vast := ends.1
    rw [polled] at vast
    simpa using vast
  · have other := ends.2
    rw [polled] at other
    simpa using other

section Executor

variable {tenantId : String} {jobId : JobId} {world : WorkerWorld} {db : Db}

def Unexecuted (jobId : JobId) (world : WorkerWorld) (db : Db) : Prop :=
  ∃ row, db.job? jobId = some row ∧ row.durationSeconds ≠ some world.billable

def InProgress (jobId : JobId) (world : WorkerWorld) (db : Db) : Prop :=
  ∃ row,
    db.job? jobId = some row
    ∧ row.durationSeconds ≠ some world.billable
    ∧ row.status = .running

theorem Unexecuted.spectates (unexecuted : Unexecuted jobId world before)
    (spectates : Spectates jobId world before after)
    : Unexecuted jobId world after := by
  obtain ⟨row, found, open_⟩ := unexecuted
  obtain ⟨later, stored, seconds, _⟩ := spectates.2 row found
  exact ⟨later, stored, fun same => open_ (seconds ▸ same)⟩

theorem InProgress.spectates (progress : InProgress jobId world before)
    (spectates : Spectates jobId world before after)
    : InProgress jobId world after := by
  obtain ⟨row, found, open_, running⟩ := progress
  obtain ⟨later, stored, seconds, status⟩ := spectates.2 row found
  exact ⟨later, stored, fun same => open_ (seconds ▸ same), (status open_).trans running⟩

theorem retires_of_unexecuted (unexecuted : Unexecuted jobId world db) (query : Query)
    : Retires jobId world db (db.apply query).2 := by
  refine ⟨db.apply_grows query, ?_⟩
  intro row found executed
  obtain ⟨other, same, open_⟩ := unexecuted
  cases found.symm.trans same
  exact absurd executed open_

theorem InProgress.unexecuted (progress : InProgress jobId world db)
    : Unexecuted jobId world db := by
  obtain ⟨row, found, open_, _⟩ := progress
  exact ⟨row, found, open_⟩

/-- Billing by the executor is never skipped. -/
theorem workerContract_finalize (named : tenantId ≠ "") (positive : 0 < world.costUsd)
    {backend : Option String}
    : FinalizeRules service (workerContract tenantId jobId world) tenantId jobId world.billable
        world.plan backend (InProgress jobId world) (InProgress jobId world) (fun _ => False)
        (InProgress jobId world) where
  composes := workerContract_composes
  grows := And.left
  stableBefore _ _ moved _ progress := progress.spectates moved
  stableOpen _ _ moved _ progress := progress.spectates moved
  stableSkip _ _ _ _ impossible := impossible
  stableFails _ _ moved _ progress := progress.spectates moved
  reads db fault kept progress _ :=
    workerContract_keeps (by simp) kept (kept.apply_reads (by simp) (fun writes => writes))
      (retires_of_unexecuted progress.unexecuted _)
  calls call db fault issued kept progress _ _ :=
    ⟨workerContract_keeps issued.unclaimed kept (kept.billing issued (fun _ _ => rfl))
        (retires_of_unexecuted progress.unexecuted _),
      progress.spectates (exec_spectates (spectates_of_reads db issued.reads))⟩
  opens _ _ _ progress _ _ _ := progress
  skips db kept progress closed := by
    obtain ⟨row, found, _, running⟩ := progress
    obtain ⟨other, same, tenant⟩ := kept.owned
    cases found.symm.trans same
    have skipped := closed row found tenant
    rw [running] at skipped
    exact absurd skipped (by decide)
  free db _ _ costless := by
    rw [totalCost_billable] at costless
    rcases costless with unnamed | free
    · exact named unnamed
    · exact absurd positive (not_lt.mpr free)
  readFails _ _ _ progress _ _ := progress
  callFails call db fault issued _ kept progress _ _ _ :=
    progress.spectates (exec_spectates (spectates_of_reads db issued.reads))
  absent _ _ progress _ := progress

theorem workerContract_refund
    : RefundRules service (workerContract tenantId jobId world) tenantId jobId world.costUsd
        (fun _ => True) where
  composes := workerContract_composes
  grows := And.left
  stable _ _ _ _ _ := trivial
  calls call db fault issued kept _ _ := by
    refine ⟨workerContract_keeps issued.unclaimed kept (kept.apply_reads ?_ issued.reads)
      (spectates_of_reads db issued.reads).retires, trivial⟩
    intro entry inserted key
    rw [issued.stored inserted] at key
    exact absurd key.symm (jobKey_ne_refundKey _ _ _ _)

theorem WorkKept.final (kept : WorkKept tenantId jobId world db) {status : String}
    {backend : Option String}
    (polled : ∃ backendName, pollLoop world.poll (pollRounds backendName) 0 = .ok status)
    (billed
      : BilledPost tenantId jobId world backend (InProgress jobId world) (fun _ => False)
          (InProgress jobId world) billingStatus db)
    (parks
      : (db.ledger.find? (ledgerIdFor tenantId (jobKey jobId))).isSome = true
        ∨ endsParkable world = true)
    : WorkKept tenantId jobId world
        (db.apply (.updateExecutionJob (finalUpdate jobId tenantId world status billingStatus))).2
    := by
  obtain ⟨backendName, ended⟩ := polled
  have refused : billingStatus ∈ [BillingStatus.noFunds, .pgError, .error]
      → HasDebit tenantId jobId db
        ∨ JobStatus.ofText (writeStatus status billingStatus) = .billingPending := by
    intro failed
    rcases parks with debited | parkable
    · exact Or.inl (kept.hasDebit debited)
    · exact Or.inr (writeStatus_parks (parkable_of_polled parkable ended) failed)
  refine kept.update ?_ (fun _ _ _ _ _ => rfl)
  intro row _ _ _ _
  refine ⟨finalStatus_closed (pollLoop_ends ended), ?_, parkedText_final (pollLoop_ends ended)⟩
  rcases billed with post | ⟨raised, _⟩
  · cases billingStatus with
    | ok => exact Or.inl (hasDebit_of_debited post.2.1)
    | noFunds => exact refused (by decide)
    | mismatch => exact absurd post.2 kept.no_conflict
    | skip => exact post.elim
    | pgError => exact post.elim
    | error => exact post.elim
  · rcases raised with rfl | rfl
    · exact refused (by decide)
    · exact refused (by decide)

theorem Unexecuted.exec_update (unexecuted : Unexecuted jobId world db) {update : JobUpdate}
    {site : Site} (seconds : update.durationSeconds = none)
    : Unexecuted jobId world (service.exec ⟨site, .updateExecutionJob update⟩ fault db).2 := by
  refine service.exec_holds unexecuted ?_
  obtain ⟨row, found, open_⟩ := unexecuted
  refine ⟨_, Db.job?_updated found update, ?_⟩
  split
  · simpa [JobUpdate.write, seconds] using open_
  · exact open_

theorem InProgress.exec_running (progress : InProgress jobId world db) {update : JobUpdate}
    {site : Site} (status : update.status = some .running) (seconds : update.durationSeconds = none)
    : InProgress jobId world (service.exec ⟨site, .updateExecutionJob update⟩ fault db).2 := by
  refine service.exec_holds progress ?_
  obtain ⟨row, found, open_, running⟩ := progress
  refine ⟨_, Db.job?_updated found update, ?_⟩
  split
  · exact ⟨by simpa [JobUpdate.write, seconds] using open_, by simp [JobUpdate.write, status]⟩
  · exact ⟨open_, running⟩

theorem WorkKept.unexecuted (kept : WorkKept tenantId jobId world db)
    (unexecuted : Unexecuted jobId world db) {update : JobUpdate}
    (status : update.status = some .running ∨ update.status = some .failed)
    (seconds : update.durationSeconds = none)
    : WorkKept tenantId jobId world (db.apply (.updateExecutionJob update)).2 := by
  refine kept.update ?_ ?_
  · intro row found _ executed _
    obtain ⟨other, same, open_⟩ := unexecuted
    cases found.symm.trans same
    exact absurd (by simpa [JobUpdate.write, seconds] using executed) open_
  · intro row _ _ waiting
    rcases status with given | given
    · simp [JobUpdate.write, given] at waiting
    · simp [JobUpdate.write, given] at waiting

/-- A run of `execute_and_bill` keeps the invariant. -/
theorem workerContract_worker (named : tenantId ≠ "") (positive : 0 < world.costUsd)
    : WorkerRules service (workerContract tenantId jobId world) jobId tenantId world
        (InProgress jobId world) (Unexecuted jobId world) (InProgress jobId world)
        (fun _ => False) (InProgress jobId world) (fun _ => True) (fun _ => True)
        (fun _ => True) where
  billing _ := workerContract_finalize named positive
  refund := workerContract_refund
  stableRefused _ _ moved _ unexecuted := unexecuted.spectates moved
  stableMissed _ _ _ _ _ := trivial
  stableSettled _ _ _ _ _ := trivial
  refused _ _ progress := progress.unexecuted
  settled _ _ _ := trivial
  running update db fault _ status _ columns kept progress _ :=
    ⟨workerContract_keeps (by simp) kept (kept.unexecuted progress.unexecuted (Or.inl status) columns.2)
      (retires_of_unexecuted progress.unexecuted _), progress.exec_running status columns.2⟩
  refuses site update db fault _ _ status _ columns kept unexecuted _ :=
    ⟨workerContract_keeps (by simp) kept (kept.unexecuted unexecuted (Or.inr status) columns.2)
      (retires_of_unexecuted unexecuted _), unexecuted.exec_update columns.2⟩
  finals status billingStatus backend db fault polled kept billed allowed := by
    refine ⟨workerContract_keeps (by simp) kept (kept.final polled billed (allowed rfl))
      (retires_of_update db (Or.inr rfl)), ?_⟩
    split <;> trivial
  rereads db fault kept _ _ :=
    ⟨workerContract_keeps (by simp) kept (kept.apply_reads (by simp) (fun writes => writes))
      (spectates_of_reads db (by simp [Db.WritesJobs])).retires, fun _ => trivial⟩
  cancelled _ _ _ _ _ _ _ := trivial
  closed _ _ _ _ := trivial
  refunded _ _ _ _ := trivial
  interrupted _ _ _ _ _ _ _ := trivial
  marks db fault kept _ _ := by
    refine ⟨workerContract_keeps (by simp) kept
      (kept.update ?_ (fun _ _ _ waiting waits => waits waiting))
      (retires_of_update db (Or.inl rfl)), trivial⟩
    intro row _ _ executed rowKept
    obtain ⟨closed, billed, _⟩ := rowKept executed
    exact ⟨closed, billed, fun _ => parkedText_marker _⟩
  drains db fault kept _ _ := by
    refine ⟨workerContract_keeps (by simp) kept (kept.update ?_ (fun _ _ _ waiting => nomatch waiting))
      (retires_of_update db (Or.inl rfl)), trivial⟩
    intro row _ selected executed rowKept
    exact absurd (rowKept executed).closed (Db.selects_status selected)

end Executor

-- Spectators

section Spectators

variable {tenantId : String} {jobId : JobId} {world : WorkerWorld} {db : Db}

/-- A quiet bystander keeps the invariant. -/
theorem WorkKept.quiet (kept : WorkKept tenantId jobId world db) {kind : Kind}
    (quiet : joinsQuietly jobId kind = true) (bills : ∀ input, kind ≠ .sweepBillingPending input)
    (issued : KindCall kind call)
    : WorkKept tenantId jobId world (db.apply call.query).2
      ∧ Spectates jobId world db (db.apply call.query).2 := by
  have ledger := @quiet_debit jobId kind call db tenantId quiet bills issued
  refine ⟨⟨kept.owned.apply _, ?_, ?_, ?_⟩, db.apply_grows _, ?_⟩
  · intro entry found
    exact kept.debit entry (ledger ▸ found)
  · intro after found waiting
    obtain ⟨row, stored, _⟩ := kept.owned
    obtain ⟨later, same, status, seconds, _⟩ := quiet_row quiet bills issued stored
    cases found.symm.trans same
    exact seconds.trans (kept.waits row stored (status ▸ waiting))
  · intro after found executed
    obtain ⟨row, stored, _⟩ := kept.owned
    obtain ⟨later, same, status, seconds, text⟩ := quiet_row quiet bills issued stored
    cases found.symm.trans same
    obtain ⟨closed, billed, parked⟩ := kept.executed row stored (seconds ▸ executed)
    refine ⟨status ▸ closed, ?_, fun parks => text (parked (status ▸ parks))⟩
    rcases billed with debited | parks
    · exact Or.inl (debited.grows (db.apply_grows _))
    · exact Or.inr (status ▸ parks)
  · intro row found
    obtain ⟨later, same, status, seconds, _⟩ := quiet_row quiet bills issued found
    exact ⟨later, same, seconds, fun _ => status⟩

/-- What the list proves about the job, however old it is. -/
def ListedWork (tenantId : String) (jobId : JobId) (world : WorkerWorld) (rows : List JobRow)
    (db : Db)
    : Prop :=
  ∀ job ∈ rows,
    job.id = jobId
    → job.tenantId = tenantId
      ∧ job.durationSeconds = some world.billable
      ∧ ParkedText job.error
      ∧ ∃ row, db.job? jobId = some row ∧ row.durationSeconds = some world.billable

theorem ListedWork.retires {rows : List JobRow}
    (listed : ListedWork tenantId jobId world rows before)
    (moved : Retires jobId world before after)
    : ListedWork tenantId jobId world rows after := by
  intro job member own
  obtain ⟨tenant, seconds, parked, row, found, executed⟩ := listed job member own
  exact ⟨tenant, seconds, parked, moved.2 row found executed⟩

theorem spectatorContract_sweeps {rows : List JobRow} {job : JobRow} {update : JobUpdate}
    {site : Site} (kept : WorkKept tenantId jobId world db)
    (listed : ListedWork tenantId jobId world rows db) (member : job ∈ rows)
    (target : update.jobId = job.id) (seconds : update.durationSeconds = none)
    (writes
      : ∀ row,
          db.job? jobId = some row
          → update.selects row = true
          → job.id = jobId
          → ParkedText job.error
          → ExecutedRow (HasDebit tenantId jobId db) row
          → ExecutedRow (HasDebit tenantId jobId db) (update.write db.clock row))
    : (spectatorContract tenantId jobId world).Keeps service db
        ⟨site, .updateExecutionJob update⟩ fault
      ∧ ListedWork tenantId jobId world rows
          (service.exec ⟨site, .updateExecutionJob update⟩ fault db).2 := by
  have own : ∀ row, db.job? jobId = some row → update.selects row = true → job.id = jobId :=
    fun row found selected =>
      target.symm.trans ((Db.selects_jobId selected).symm.trans (Db.job?_id found))
  have executes : ∀ row, db.job? jobId = some row → update.selects row = true
      → row.durationSeconds = some world.billable := by
    intro row found selected
    obtain ⟨_, _, _, other, same, executed⟩ := listed job member (own row found selected)
    cases found.symm.trans same
    exact executed
  have spectates : Spectates jobId world db (db.apply (.updateExecutionJob update)).2 := by
    refine ⟨db.apply_grows _, ?_⟩
    intro row found
    refine ⟨_, Db.job?_updated found update, ?_⟩
    split
    · rename_i selected
      exact ⟨by simp [JobUpdate.write, seconds],
        fun working => absurd (executes row found selected) working⟩
    · exact ⟨rfl, fun _ => rfl⟩
  have applied : WorkKept tenantId jobId world (db.apply (.updateExecutionJob update)).2 := by
    refine kept.update ?_ ?_
    · intro row found selected _ rowKept
      exact writes row found selected (own row found selected)
        (listed job member (own row found selected)).2.2.1
        (rowKept (executes row found selected))
    · intro row found selected _ _
      simpa [JobUpdate.write, seconds] using executes row found selected
  exact ⟨spectatorContract_keeps (by simp) kept applied spectates,
    listed.retires (Spectates.retires (exec_spectates spectates))⟩

theorem ExecutedRow.closes {debited : Prop} {row : JobRow} (holds : debited)
    (closed : row.status ∈ [JobStatus.completed, .error, .timeout, .failed])
    : ExecutedRow debited row := by
  refine ⟨?_, Or.inl holds, ?_⟩
  · simp only [List.mem_cons, List.not_mem_nil, or_false] at closed
    rcases closed with same | same | same | same <;> (rw [same]; decide)
  · intro parked
    rw [parked] at closed
    exact absurd closed (by decide)

theorem spectatorContract_sweepRow (named : tenantId ≠ "") (positive : 0 < world.costUsd)
    {rows : List JobRow} {job : JobRow} {input : SweepInput} (member : job ∈ rows)
    : SweepRules service (spectatorContract tenantId jobId world) input job
        (ListedWork tenantId jobId world rows) (ListedWork tenantId jobId world rows)
        (fun db =>
          ListedWork tenantId jobId world rows db
          ∧ (job.id = jobId → HasDebit tenantId jobId db))
        (ListedWork tenantId jobId world rows) where
  billing := {
    composes := spectatorContract_composes
    grows := And.left
    stableBefore := fun _ _ moved _ listed => listed.retires moved
    stableOpen := fun _ _ moved _ listed => listed.retires moved
    stableSkip := fun _ _ moved _ known =>
      ⟨known.1.retires moved, fun own => (known.2 own).grows moved.1⟩
    stableFails := fun _ _ moved _ listed => listed.retires moved
    reads := fun db fault kept _ _ =>
      spectatorContract_keeps (by simp) kept
        (kept.apply_reads (by simp) (fun writes => writes))
        (spectates_of_reads db (fun writes => writes))
    calls := by
      intro call db fault issued kept listed _ _
      have seconds : job.tenantId = tenantId → job.id = jobId
          → job.durationSeconds.getD 0 = world.billable := by
        intro _ own
        rw [(listed job member own).2.1, Option.getD_some]
      have spectates := @spectates_of_reads jobId world db _ issued.reads
      exact ⟨spectatorContract_keeps issued.unclaimed kept (kept.billing issued seconds) spectates,
        listed.retires (Spectates.retires (exec_spectates spectates))⟩
    opens := fun _ _ _ listed _ _ _ => listed
    skips := by
      intro db kept listed closed
      refine ⟨listed, ?_⟩
      intro own
      obtain ⟨tenant, _, _, row, found, executed⟩ := listed job member own
      obtain ⟨other, same, owner⟩ := kept.owned
      cases found.symm.trans same
      have skipped := closed row (own ▸ found) (owner.trans tenant.symm)
      rcases (kept.executed row found executed).billed with debited | parked
      · exact debited
      · rw [parked] at skipped
        exact absurd skipped (by decide)
    free := by
      intro db _ listed costless
      refine ⟨listed, ?_⟩
      intro own
      obtain ⟨tenant, seconds, _⟩ := listed job member own
      rw [tenant, seconds, Option.getD_some, totalCost_billable] at costless
      rcases costless with unnamed | free
      · exact absurd unnamed named
      · exact absurd positive (not_lt.mpr free)
    readFails := fun _ _ _ listed _ _ => listed
    callFails := by
      intro call db fault issued _ kept listed _ _ _
      exact listed.retires (exec_spectates (spectates_of_reads db issued.reads)).retires
    absent := fun _ _ listed _ => listed }
  opened _ _ listed := listed
  skipped _ _ known := known.1
  failed _ _ listed := listed
  billed db fault kept listed debited _ := by
    refine spectatorContract_sweeps kept listed member rfl rfl ?_
    intro row _ _ own parked _
    have debit : HasDebit tenantId jobId db := by
      have tenant := (listed job member own).1
      rw [own, tenant] at debited
      exact hasDebit_of_debited debited
    exact .closes debit (parked.closes (Or.inl rfl))
  noFunds db fault kept listed _ := by
    refine spectatorContract_sweeps kept listed member rfl rfl ?_
    intro row _ _ _ parked rowKept
    exact ⟨rowKept.closed, rowKept.billed, fun _ => parked.noFunds⟩
  mismatched db fault kept listed conflict _ := by
    refine spectatorContract_sweeps kept listed member rfl rfl ?_
    intro row _ _ own _ _
    obtain ⟨tenant, seconds, _⟩ := listed job member own
    rw [own, tenant, seconds, Option.getD_some] at conflict
    exact absurd conflict kept.no_conflict
  skips db fault kept known _ := by
    refine spectatorContract_sweeps kept known.1 member rfl rfl ?_
    intro row _ _ own parked _
    exact .closes (known.2 own) (parked.closes (Or.inl rfl))

theorem spectatorContract_sweep (named : tenantId ≠ "") (positive : 0 < world.costUsd)
    {input : SweepInput}
    : Triple service (spectatorContract tenantId jobId world) (fun _ => True)
        (sweepBillingPendingOnce input) (fun _ _ => True) (fun _ _ => True) := by
  have stable : ∀ rows, (spectatorContract tenantId jobId world).Stable
      (ListedWork tenantId jobId world rows) :=
    fun rows _ _ moved _ listed => listed.retires moved
  refine sweepBillingPendingOnce_triple spectatorContract_composes stable ?_
    (fun rows job member memory =>
      sweepRow_triple (spectatorContract_sweepRow named positive member))
  intro excludeIds db fault kept _
  refine ⟨spectatorContract_keeps (by simp) kept
    (kept.apply_reads (by simp) (fun writes => writes))
    (spectates_of_reads db (fun writes => writes)), ?_⟩
  intro job member own
  obtain ⟨found, status⟩ := mem_billingPendingRows member
  rw [own] at found
  obtain ⟨row, stored, tenant⟩ := kept.owned
  cases found.symm.trans stored
  have executed := kept.waits job found status
  exact ⟨tenant, executed, (kept.executed job found executed).parked status, job, found,
    executed⟩

end Spectators

-- Every run

section Runs

variable {tenantId : String} {jobId : JobId} {world : WorkerWorld}

theorem workRun
    : OneRun (workerContract tenantId jobId world)
        (fun _ => spectatorContract tenantId jobId world) (WorkKept tenantId jobId world) where
  executorComposes := workerContract_composes
  bystanderComposes _ := spectatorContract_composes
  executorInv := rfl
  bystanderInv _ := rfl
  executorTolerates moved := moved
  bystanderTolerates moved := moved
  bystandersTolerate moved := Spectates.retires moved
  executorStarts _ admitted := admitted
  bystanderStarts _ _ admitted := admitted

theorem spectatorContract_body (named : tenantId ≠ "") (positive : 0 < world.costUsd)
    {kind : Kind} (quiet : joinsQuietly jobId kind = true)
    : Triple service (spectatorContract tenantId jobId world) (fun _ => True) (bodyOf kind)
        (fun _ _ => True) (fun _ _ => True) := by
  have idle : (spectatorContract tenantId jobId world).Stable (fun _ => True) :=
    fun _ _ _ _ _ => trivial
  have joins : joinsRun jobId kind = true := by
    simp only [joinsQuietly, Bool.and_eq_true] at quiet
    exact quiet.1.1.1.1
  by_cases sweeps : ∃ input, kind = .sweepBillingPending input
  · obtain ⟨input, same⟩ := sweeps
    subst same
    exact Triple.bind spectatorContract_composes (fun _ _ => True)
      (spectatorContract_sweep named positive)
      (fun _ => Triple.done idle (fun _ _ _ => trivial))
  · refine Triple.of_issues (bodyOf_issues kind) idle ?_
    intro call db fault issued kept _ _
    obtain ⟨applied, spectates⟩ :=
      WorkKept.quiet kept quiet (fun input same => sweeps ⟨input, same⟩) issued
    exact ⟨spectatorContract_keeps (unclaimed_of_joins joins issued) kept applied spectates,
      trivial⟩

theorem workKept_of_claimed (positive : 0 < world.costUsd) {db : Db}
    (claimed : Claimed tenantId jobId db)
    : WorkKept tenantId jobId world db ∧ InProgress jobId world db := by
  obtain ⟨row, found, tenant, status, seconds, _⟩ := claimed.row
  have open_ : row.durationSeconds ≠ some world.billable := by
    intro same
    have idle : world.billable = 0 := (Option.some.inj (seconds.symm.trans same)).symm
    exact absurd positive (not_lt.mpr ((costUsd_nonpos_iff world).mpr idle))
  refine ⟨⟨⟨row, found, tenant⟩, ?_, ?_, ?_⟩, row, found, open_, status⟩
  · intro entry stored
    rw [claimed.undebited] at stored
    cases stored
  · intro other same waiting
    cases found.symm.trans same
    rw [status] at waiting
    cases waiting
  · intro other same executed
    cases found.symm.trans same
    exact absurd executed open_

/-- In every run of a claimed job of positive cost that nobody cancels or completes, with any
faults and crashes and any number of sweeps, in which the final write comes after the DEBIT or
after an outcome that can be parked, the job is debited or parked in every state after its
final write.
-/
theorem executed_work_billed {db : Db} {config : Config bridge Db Kind Answer}
    (named : tenantId ≠ "") (positive : 0 < world.costUsd) (claimed : Claimed tenantId jobId db)
    (reached
      : service.Reaches
          (fun config label =>
            arrivesQuietly jobId label = true ∧ ParksWork tenantId jobId world config label)
          (claimedBy db jobId tenantId world) config)
    : WorkBilled tenantId jobId world config.store := by
  obtain ⟨initial, progress⟩ := @workKept_of_claimed tenantId jobId world positive db claimed
  have executes : Triple service (workerContract tenantId jobId world) (InProgress jobId world)
      (bodyOf (.executeAndBill jobId tenantId world)) (fun _ _ => True) (fun _ _ => True) :=
    Triple.bind workerContract_composes (fun _ _ => True)
      (executeAndBill_triple (workerContract_worker named positive))
      (fun _ => Triple.done (fun _ _ _ _ _ => trivial) (fun _ _ _ => trivial))
  have kept : WorkKept tenantId jobId world config.store := by
    refine workRun.inv_of_reaches reached initial progress executes ?_ ?_
    · intro _ kind allowed
      have joins : joinsRun jobId kind = true := by
        have quiet : joinsQuietly jobId kind = true := allowed.1
        simp only [joinsQuietly, Bool.and_eq_true] at quiet
        exact quiet.1.1.1.1
      exact ⟨joins, spectatorContract_body named positive allowed.1⟩
    · intro config label kind call fault allowed executing
      split
      · rename_i acts
        exact allowed.2.executed executing acts
      · trivial
  exact kept.workBilled

end Runs

/-- Witness: a run that times out of money is parked, the tenant pays, and a sweep bills it. -/
theorem executed_work_billed_swept
    : ∃ config row,
        service.Reaches
            (fun config label =>
              arrivesQuietly jobA label = true
              ∧ ParksWork "t" jobA (quickRun 10 "failed") config label)
            (claimedBy claimedDb jobA "t" (quickRun 10 "failed")) config
        ∧ config.store.job? jobA = some row
        ∧ row.durationSeconds = some (quickRun 10 "failed").billable
        ∧ row.status = .failed
        ∧ HasDebit "t" jobA config.store := by
  have ran
      : (service.run
          (fun config label =>
            arrivesQuietly jobA label
            && decide (ParksWork "t" jobA (quickRun 10 "failed") config label))
          (claimedBy claimedDb jobA "t" (quickRun 10 "failed"))
          [.exec 0 .none, .exec 0 (.before "down"), .exec 0 .none,
            .arrive (.sweepBillingPending { now := 0, memory := [], plan := fun _ => "free" }),
            .exec 1 .none, .exec 1 .none, .exec 1 .none, .exec 1 .none, .exec 1 .none]).any
          (fun config =>
            (config.store.job? jobA).any (fun row =>
              row.durationSeconds == some (quickRun 10 "failed").billable
              && row.status == .failed))
        = true := by
    decide +kernel
  obtain ⟨config, reached, passed⟩ :=
    Machine.Reaches.of_check (fun _ _ both => by simpa using both) _ ran
  obtain ⟨row, found, shown⟩ := (Option.any_eq_true _ _).mp passed
  simp only [Bool.and_eq_true, beq_iff_eq] at shown
  refine ⟨config, row, reached, found, shown.1, shown.2, ?_⟩
  have billed := executed_work_billed (by decide) (by decide +kernel) claimedDb_claimed reached
  rcases billed row found shown.1 with debited | parked
  · exact debited
  · rw [shown.2] at parked
    cases parked

/-- A run whose backend reports `stopped` while the ledger is down is closed and never billed.
-/
theorem stopped_work_unbilled
    : ∃ config,
        service.Reaches (fun _ label => arrivesQuietly jobA label = true)
            (claimedBy claimedDb jobA "t" (quickRun 10 "stopped")) config
        ∧ config.Quiescent
        ∧ 0 < (quickRun 10 "stopped").costUsd
        ∧ ¬WorkBilled "t" jobA (quickRun 10 "stopped") config.store := by
  have ran
      : (service.run (fun _ label => arrivesQuietly jobA label)
          (claimedBy claimedDb jobA "t" (quickRun 10 "stopped"))
          [.exec 0 .none, .exec 0 (.before "down"), .exec 0 .none]).any
          (fun config =>
            decide config.Quiescent
            && (config.store.job? jobA).any (fun row =>
              row.durationSeconds == some (quickRun 10 "stopped").billable
              && row.status == .stopped)
            && (config.store.ledger.find? (ledgerIdFor "t" (jobKey jobA))).isNone)
        = true := by
    decide +kernel
  obtain ⟨config, reached, passed⟩ :=
    Machine.Reaches.of_check (fun _ _ permitted => permitted) _ ran
  simp only [Bool.and_eq_true, decide_eq_true_eq, Option.isNone_iff_eq_none] at passed
  obtain ⟨⟨quiescent, shown⟩, unbilled⟩ := passed
  obtain ⟨row, found, facts⟩ := (Option.any_eq_true _ _).mp shown
  simp only [Bool.and_eq_true, beq_iff_eq] at facts
  refine ⟨config, reached, quiescent, by decide +kernel, ?_⟩
  intro billed
  rcases billed row found facts.1 with ⟨entry, stored, _⟩ | parked
  · rw [unbilled] at stored
    cases stored
  · rw [facts.2] at parked
    cases parked

end RomaBridge.Properties
