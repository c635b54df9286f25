import RomaBridge.Behaviour.OneJob

/-! When the price on a completed row is the price that was charged.
The worker and the sweeper write `cost_usd` and `duration_seconds`, the complete endpoints only
the status. The row agrees with the DEBIT as long as the endpoints bill the seconds of the run
and complete only rows that already carry its price.
-/

namespace RomaBridge.Properties

open RomaBridge.Foundation RomaBridge.Model Program

variable {before : Db} {kind : Kind} {call : Call} {fault : Fault}

-- Statements

def PriceShown (tenantId : String) (jobId : JobId) (db : Db) : Prop :=
  ∀ row entry,
    db.job? jobId = some row
    → row.status = .completed
    → db.ledger.find? (ledgerIdFor tenantId (jobKey jobId)) = some entry
    → entry.entryType = .debit
    → row.costUsd = entry.amount ∧ row.durationSeconds = entry.metadata.gpuSec

/-- The row carries the price of the run. -/
def Priced (world : WorkerWorld) (row : JobRow) : Prop :=
  row.costUsd = world.costUsd ∧ row.durationSeconds = some world.billable

instance (world : WorkerWorld) (row : JobRow) : Decidable (Priced world row) :=
  inferInstanceAs (Decidable (_ ∧ _))

/-- An endpoint bills other seconds than the run's, or completes a row without its price. -/
def mispriced (tenantId : String) (jobId : JobId) (world : WorkerWorld) (db : Db) (kind : Kind)
    (call : Call)
    : Bool :=
  isCompletion kind
  && match call.query with
    | .debitInsert entry =>
        entry.ledgerId = ledgerIdFor tenantId (jobKey jobId)
        && entry.metadata.gpuSec ≠ some world.billable
    | .updateExecutionJob update =>
        (db.job? jobId).any (fun row => update.selects row && !decide (Priced world row))
    | _ => false

def KeepsPrice (tenantId : String) (jobId : JobId) (world : WorkerWorld)
    : Config bridge Db Kind Answer → Label Kind → Prop :=
  Config.Permits (fun db kind call fault =>
    fault.takesEffect = true → mispriced tenantId jobId world db kind call = false)

instance (tenantId : String) (jobId : JobId) (world : WorkerWorld)
    (config : Config bridge Db Kind Answer) (label : Label Kind)
    : Decidable (KeepsPrice tenantId jobId world config label) :=
  inferInstanceAs (Decidable (Config.Permits _ config label))

-- The invariant

/-- The final write of a run that costs something has been here: only it writes the seconds. -/
def Finalised (world : WorkerWorld) (row : JobRow) : Prop :=
  0 < world.costUsd ∧ row.durationSeconds = some world.billable

/-- What the row of the job shows in every state. `billable` is false once the key of the DEBIT
is taken by something else.
-/
structure RowKept (tenantId : String) (world : WorkerWorld) (billable : Prop) (row : JobRow)
    : Prop where
  parked
    : row.status = .billingPending
      → row.durationSeconds = some world.billable ∧ ParkedText row.error
  priced
    : row.status = .completed
      → billable
      → tenantId ≠ ""
      → 0 < world.costUsd
      → Priced world row

def Billable (tenantId : String) (jobId : JobId) (db : Db) : Prop :=
  ∀ entry,
    db.ledger.find? (ledgerIdFor tenantId (jobKey jobId)) = some entry → entry.entryType = .debit

/-- The DEBIT is the run's, and the row shows it. -/
structure PriceKept (tenantId : String) (jobId : JobId) (world : WorkerWorld) (db : Db)
    : Prop where
  owned : OwnedBy tenantId jobId db
  debit
    : ∀ entry,
        db.ledger.find? (ledgerIdFor tenantId (jobKey jobId)) = some entry
        → entry.entryType = .debit
        → tenantId ≠ ""
          ∧ 0 < world.costUsd
          ∧ ∃ planName, entry = billingEntry tenantId jobId world.billable planName
  row
    : ∀ row,
        db.job? jobId = some row → RowKept tenantId world (Billable tenantId jobId db) row

section Invariant

variable {tenantId : String} {jobId : JobId} {world : WorkerWorld} {db : Db} {billable : Prop}
  {row after : JobRow}

theorem RowKept.of_status (ended : after.status ≠ .billingPending ∧ after.status ≠ .completed)
    : RowKept tenantId world billable after :=
  ⟨fun parked => absurd parked ended.1, fun done => absurd done ended.2⟩

theorem RowKept.of_same (kept : RowKept tenantId world billable row)
    (status : after.status = row.status) (cost : after.costUsd = row.costUsd)
    (seconds : after.durationSeconds = row.durationSeconds)
    (text : ParkedText row.error → ParkedText after.error)
    : RowKept tenantId world billable after := by
  refine ⟨?_, ?_⟩
  · intro parked
    obtain ⟨same, error⟩ := kept.parked (status ▸ parked)
    exact ⟨seconds.trans same, text error⟩
  · intro done free named positive
    obtain ⟨price, same⟩ := kept.priced (status ▸ done) free named positive
    exact ⟨cost.trans price, seconds.trans same⟩

theorem PriceKept.shown (kept : PriceKept tenantId jobId world db)
    : PriceShown tenantId jobId db := by
  intro row entry found done stored debit
  obtain ⟨named, positive, planName, rfl⟩ := kept.debit entry stored debit
  have billable : Billable tenantId jobId db := by
    intro other same
    cases stored.symm.trans same
    rfl
  obtain ⟨price, seconds⟩ := (kept.row row found).priced done billable named positive
  refine ⟨price.trans ?_, seconds⟩
  exact (totalCost_billable world).symm

section Applied

variable {query : Query} (kept : PriceKept tenantId jobId world db)
  (debits
    : ∀ entry,
        query = .debitInsert entry ∨ query = .creditInsert entry
        → entry.ledgerId = ledgerIdFor tenantId (jobKey jobId)
        → entry.entryType = .debit
        → tenantId ≠ ""
          ∧ 0 < world.costUsd
          ∧ ∃ planName, entry = billingEntry tenantId jobId world.billable planName)

include kept debits

theorem PriceKept.apply
    (rows
      : ∀ row after,
          db.job? jobId = some row
          → (db.apply query).2.job? jobId = some after
          → RowKept tenantId world (Billable tenantId jobId db) row
          → RowKept tenantId world (Billable tenantId jobId db) after)
    : PriceKept tenantId jobId world (db.apply query).2 := by
  refine ⟨kept.owned.apply query, Db.apply_entries kept.debit debits, ?_⟩
  intro after found
  obtain ⟨row, stored, _⟩ := kept.owned
  have rowKept := rows row after stored found (kept.row row stored)
  refine ⟨rowKept.parked, ?_⟩
  intro done free
  refine rowKept.priced done ?_
  intro entry stored
  exact free entry (db.apply_ledgerGrows query _ entry stored)

theorem PriceKept.apply_reads (reads : ¬Db.WritesJobs query)
    : PriceKept tenantId jobId world (db.apply query).2 := by
  refine kept.apply debits ?_
  intro row after found same rowKept
  cases found.symm.trans ((db.apply_job?_eq reads jobId).symm.trans same)
  exact rowKept

end Applied

theorem PriceKept.update (kept : PriceKept tenantId jobId world db) {update : JobUpdate}
    (writes
      : ∀ row,
          db.job? jobId = some row
          → update.selects row = true
          → RowKept tenantId world (Billable tenantId jobId db) row
          → RowKept tenantId world (Billable tenantId jobId db) (update.write db.clock row))
    : PriceKept tenantId jobId world (db.apply (.updateExecutionJob update)).2 := by
  refine kept.apply (by simp) ?_
  intro row after found same rowKept
  cases same.symm.trans (Db.job?_updated found update)
  split
  · rename_i selected
    exact writes row found selected rowKept
  · exact rowKept

theorem PriceKept.billing (kept : PriceKept tenantId jobId world db) {tenantId' : String}
    {jobId' : JobId} {gpuSec : ℚ} {planName : String} {backend : Option String} {call : Call}
    (issued : BillingCall tenantId' jobId' gpuSec planName backend call)
    (seconds : tenantId' = tenantId → jobId' = jobId → gpuSec = world.billable)
    : PriceKept tenantId jobId world (db.apply call.query).2 := by
  refine kept.apply_reads ?_ issued.reads
  intro entry inserted key _
  obtain ⟨rfl, named, positive⟩ := issued.stored inserted
  obtain ⟨rfl, rfl⟩ := jobKey_injective key
  obtain rfl := seconds rfl rfl
  rw [totalCost_billable] at positive
  exact ⟨named, positive, planName, rfl⟩

end Invariant

-- Contracts

def Steady (jobId : JobId) (before after : Db) : Prop :=
  Db.Grows before after
  ∧ ∀ row,
      before.job? jobId = some row
      → ∃ later,
          after.job? jobId = some later
          ∧ later.durationSeconds = row.durationSeconds
          ∧ (row.status ∈ terminalStatuses → later.status ∈ terminalStatuses)

/-- What the executor leaves alone: the same, once its final write is done. -/
def SteadyFinal (jobId : JobId) (world : WorkerWorld) (before after : Db) : Prop :=
  Db.Grows before after
  ∧ ∀ row,
      before.job? jobId = some row
      → Finalised world row
      → ∃ later,
          after.job? jobId = some later
          ∧ later.durationSeconds = row.durationSeconds
          ∧ (row.status ∈ terminalStatuses → later.status ∈ terminalStatuses)

section Contracts

variable {tenantId : String} {jobId : JobId} {world : WorkerWorld}

theorem Steady.refl (db : Db) : Steady jobId db db :=
  ⟨.refl db, fun row found => ⟨row, found, rfl, fun terminal => terminal⟩⟩

theorem Steady.trans {first second third : Db} (left : Steady jobId first second)
    (right : Steady jobId second third)
    : Steady jobId first third := by
  refine ⟨left.1.trans right.1, ?_⟩
  intro row found
  obtain ⟨middle, between, seconds, terminal⟩ := left.2 row found
  obtain ⟨last, later, seconds', terminal'⟩ := right.2 middle between
  exact ⟨last, later, seconds'.trans seconds, fun closed => terminal' (terminal closed)⟩

theorem Steady.final {after : Db} (steady : Steady jobId before after)
    : SteadyFinal jobId world before after :=
  ⟨steady.1, fun row found _ => steady.2 row found⟩

theorem SteadyFinal.trans {first second third : Db}
    (left : SteadyFinal jobId world first second) (right : SteadyFinal jobId world second third)
    : SteadyFinal jobId world first third := by
  refine ⟨left.1.trans right.1, ?_⟩
  intro row found final
  obtain ⟨middle, between, seconds, terminal⟩ := left.2 row found final
  obtain ⟨last, later, seconds', terminal'⟩ :=
    right.2 middle between ⟨final.1, seconds.trans final.2⟩
  exact ⟨last, later, seconds'.trans seconds, fun closed => terminal' (terminal closed)⟩

theorem steady_of_reads (db : Db) {query : Query} (reads : ¬Db.WritesJobs query)
    : Steady jobId db (db.apply query).2 := by
  refine ⟨db.apply_grows query, ?_⟩
  intro row found
  exact ⟨row, (db.apply_job?_eq reads jobId).trans found, rfl, fun terminal => terminal⟩

theorem steady_of_update (db : Db) {update : JobUpdate} (seconds : update.durationSeconds = none)
    (terminal
      : ∀ row,
          db.job? jobId = some row
          → update.selects row = true
          → row.status ∈ terminalStatuses
          → update.status.getD row.status ∈ terminalStatuses)
    : Steady jobId db (db.apply (.updateExecutionJob update)).2 := by
  refine ⟨db.apply_grows _, ?_⟩
  intro row found
  refine ⟨_, Db.job?_updated found update, ?_, ?_⟩
  · split
    · simp [JobUpdate.write, seconds]
    · rfl
  · intro closed
    split
    · rename_i selected
      exact terminal row found selected closed
    · exact closed

def executorContract (tenantId : String) (jobId : JobId) (world : WorkerWorld)
    : Contract bridge Db Kind where
  inv := PriceKept tenantId jobId world
  rely := Steady jobId
  guarantee before _ _ after := SteadyFinal jobId world before after
  allowed _ _ _ := True
  admits _ := False

def bystanderContract (tenantId : String) (jobId : JobId) (world : WorkerWorld) (kind : Kind)
    : Contract bridge Db Kind where
  inv := PriceKept tenantId jobId world
  rely := SteadyFinal jobId world
  guarantee before _ _ after := Steady jobId before after
  allowed db call fault :=
    fault.takesEffect = true → mispriced tenantId jobId world db kind call = false
  admits _ := False

theorem executorContract_composes : (executorContract tenantId jobId world).Composes where
  refl db := .refl db
  trans left right := left.trans right

theorem bystanderContract_composes
    : (bystanderContract tenantId jobId world kind).Composes where
  refl db := (Steady.refl db).final
  trans left right := left.trans right

theorem executorContract_keeps {db : Db}
    (unclaimed
      : ∀ limit locked world, call.query ≠ .claimQueuedExecutionJobs limit locked world)
    (kept : PriceKept tenantId jobId world db)
    (applied : PriceKept tenantId jobId world (db.apply call.query).2)
    (steady : SteadyFinal jobId world db (db.apply call.query).2)
    : (executorContract tenantId jobId world).Keeps service db call fault :=
  keeps_of_apply unclaimed ⟨kept, (Steady.refl db).final⟩ ⟨applied, steady⟩

theorem bystanderContract_keeps {db : Db}
    (unclaimed
      : ∀ limit locked world, call.query ≠ .claimQueuedExecutionJobs limit locked world)
    (kept : PriceKept tenantId jobId world db)
    (applied
      : fault.takesEffect = true
        → PriceKept tenantId jobId world (db.apply call.query).2
          ∧ Steady jobId db (db.apply call.query).2)
    : (bystanderContract tenantId jobId world kind).Keeps service db call fault := by
  refine .of_effect ⟨kept, .refl db⟩ applied ?_
  intro kind started
  rw [started_nil unclaimed] at started
  cases started

end Contracts

-- The executor

theorem finalStatus_completed {status : String} {billingStatus : BillingStatus}
    (ended : status = "timeout" ∨ status ∈ pollEnds)
    (completed : JobStatus.ofText (writeStatus status billingStatus) = .completed)
    : billingStatus = .ok ∨ billingStatus = .skip := by
  have known : status ∈ "timeout" :: pollEnds := by simpa using ended
  have all : ∀ status ∈ "timeout" :: pollEnds,
      JobStatus.ofText (writeStatus status billingStatus) = .completed
      → billingStatus = .ok ∨ billingStatus = .skip := by
    cases billingStatus <;> decide
  exact all status known completed

section Executor

variable {tenantId : String} {jobId : JobId} {world : WorkerWorld} {db : Db}

/-- The final write is still to come. -/
def Unfinal (jobId : JobId) (world : WorkerWorld) (db : Db) : Prop :=
  ∃ row, db.job? jobId = some row ∧ ¬Finalised world row

/-- There is nothing to bill, or the job is closed. -/
def Unbilled (tenantId : String) (jobId : JobId) (world : WorkerWorld) (db : Db) : Prop :=
  tenantId = ""
  ∨ world.costUsd ≤ 0
  ∨ ∃ row, db.job? jobId = some row ∧ row.status ∈ terminalStatuses

theorem Unfinal.steady {after : Db} (unfinal : Unfinal jobId world before)
    (steady : Steady jobId before after)
    : Unfinal jobId world after := by
  obtain ⟨row, found, open_⟩ := unfinal
  obtain ⟨later, stored, seconds, _⟩ := steady.2 row found
  exact ⟨later, stored, fun final => open_ ⟨final.1, seconds ▸ final.2⟩⟩

theorem Unbilled.steady {after : Db} (unbilled : Unbilled tenantId jobId world before)
    (steady : Steady jobId before after)
    : Unbilled tenantId jobId world after := by
  rcases unbilled with unnamed | free | ⟨row, found, closed⟩
  · exact Or.inl unnamed
  · exact Or.inr (Or.inl free)
  · obtain ⟨later, stored, _, terminal⟩ := steady.2 row found
    exact Or.inr (Or.inr ⟨later, stored, terminal closed⟩)

theorem steadyFinal_of_unfinal (unfinal : Unfinal jobId world db) (query : Query)
    : SteadyFinal jobId world db (db.apply query).2 := by
  refine ⟨db.apply_grows query, ?_⟩
  intro row found final
  obtain ⟨other, same, open_⟩ := unfinal
  cases found.symm.trans same
  exact absurd final open_

theorem exec_steady (steady : Steady jobId db (db.apply call.query).2)
    : Steady jobId db (service.exec call fault db).2 :=
  service.exec_holds (.refl db) steady

theorem executorContract_finalize {backend : Option String}
    : FinalizeRules service (executorContract tenantId jobId world) tenantId jobId
        world.billable world.plan backend (Unfinal jobId world) (Unfinal jobId world)
        (fun db => Unfinal jobId world db ∧ Unbilled tenantId jobId world db)
        (Unfinal jobId world) where
  composes := executorContract_composes
  grows := And.left
  stableBefore _ _ steady _ unfinal := unfinal.steady steady
  stableOpen _ _ steady _ unfinal := unfinal.steady steady
  stableSkip _ _ steady _ known := ⟨known.1.steady steady, known.2.steady steady⟩
  stableFails _ _ steady _ unfinal := unfinal.steady steady
  reads db fault kept unfinal _ :=
    executorContract_keeps (by simp) kept (kept.apply_reads (by simp) (fun writes => writes))
      (steadyFinal_of_unfinal unfinal _)
  calls call db fault issued kept unfinal _ _ :=
    ⟨executorContract_keeps issued.unclaimed kept (kept.billing issued (fun _ _ => rfl))
        (steadyFinal_of_unfinal unfinal _),
      unfinal.steady (exec_steady (steady_of_reads db issued.reads))⟩
  opens _ _ _ unfinal _ _ _ := unfinal
  skips db kept unfinal closed := by
    refine ⟨unfinal, Or.inr (Or.inr ?_)⟩
    obtain ⟨row, found, tenant⟩ := kept.owned
    refine ⟨row, found, ?_⟩
    have skipped := closed row found tenant
    simp only [finalizeSkips, terminalStatuses, List.mem_cons, List.not_mem_nil, or_false]
      at skipped ⊢
    tauto
  free db kept unfinal costless := by
    refine ⟨unfinal, ?_⟩
    rw [totalCost_billable] at costless
    rcases costless with unnamed | free
    · exact Or.inl unnamed
    · exact Or.inr (Or.inl free)
  readFails _ _ _ unfinal _ _ := unfinal
  callFails call db fault issued _ kept unfinal _ _ _ :=
    unfinal.steady (exec_steady (steady_of_reads db issued.reads))
  absent _ _ unfinal _ := unfinal

theorem executorContract_refund
    : RefundRules service (executorContract tenantId jobId world) tenantId jobId world.costUsd
        (fun _ => True) where
  composes := executorContract_composes
  grows := And.left
  stable _ _ _ _ _ := trivial
  calls call db fault issued kept _ _ := by
    refine ⟨executorContract_keeps issued.unclaimed kept (kept.apply_reads ?_ issued.reads)
      (steady_of_reads db issued.reads).final, trivial⟩
    intro entry inserted _ debit
    rw [issued.stored inserted] at debit
    cases debit

theorem PriceKept.final (kept : PriceKept tenantId jobId world db) {status : String}
    {billingStatus : BillingStatus} (ended : status = "timeout" ∨ status ∈ pollEnds)
    (unbilled : billingStatus = .skip → Unbilled tenantId jobId world db)
    : PriceKept tenantId jobId world
        (db.apply (.updateExecutionJob (finalUpdate jobId tenantId world status billingStatus))).2
    := by
  refine kept.update ?_
  intro row found selected _
  refine ⟨?_, ?_⟩
  · intro parks
    exact ⟨rfl, parkedText_final ended parks⟩
  · intro completed _ named positive
    refine ⟨?_, rfl⟩
    rcases finalStatus_completed ended completed with rfl | rfl
    · rfl
    · rcases unbilled rfl with unnamed | free | ⟨other, same, closed⟩
      · exact absurd unnamed named
      · exact absurd positive (not_lt.mpr free)
      · cases found.symm.trans same
        exact absurd (List.mem_append_left _ closed) (Db.selects_status selected)

theorem PriceKept.blind (kept : PriceKept tenantId jobId world db) {update : JobUpdate}
    (status : update.status = some .running ∨ update.status = some .failed)
    : PriceKept tenantId jobId world (db.apply (.updateExecutionJob update)).2 := by
  refine kept.update ?_
  intro row _ _ _
  rcases status with given | given
  · exact .of_status (by simp [JobUpdate.write, given])
  · exact .of_status (by simp [JobUpdate.write, given])

theorem Unfinal.blind (unfinal : Unfinal jobId world db) {update : JobUpdate} {site : Site}
    (columns : update.costUsd = none ∧ update.durationSeconds = none)
    : Unfinal jobId world (service.exec ⟨site, .updateExecutionJob update⟩ fault db).2 := by
  refine service.exec_holds unfinal ?_
  obtain ⟨row, found, open_⟩ := unfinal
  refine ⟨_, Db.job?_updated found update, ?_⟩
  intro final
  refine open_ ⟨final.1, ?_⟩
  have seconds := final.2
  split at seconds
  · simpa [JobUpdate.write, columns.2] using seconds
  · exact seconds

/-- A run of `execute_and_bill` keeps the invariant. -/
theorem executorContract_worker
    : WorkerRules service (executorContract tenantId jobId world) jobId tenantId world
        (Unfinal jobId world) (Unfinal jobId world) (Unfinal jobId world)
        (fun db => Unfinal jobId world db ∧ Unbilled tenantId jobId world db)
        (Unfinal jobId world) (fun _ => True) (fun _ => True) (fun _ => True) where
  billing _ := executorContract_finalize
  refund := executorContract_refund
  stableRefused _ _ steady _ unfinal := unfinal.steady steady
  stableMissed _ _ _ _ _ := trivial
  stableSettled _ _ _ _ _ := trivial
  refused _ _ unfinal := unfinal
  settled _ _ _ := trivial
  running update db fault _ status _ columns kept unfinal _ :=
    ⟨executorContract_keeps (by simp) kept (kept.blind (Or.inl status))
      (steadyFinal_of_unfinal unfinal _), unfinal.blind columns⟩
  refuses site update db fault _ _ status _ columns kept unfinal _ :=
    ⟨executorContract_keeps (by simp) kept (kept.blind (Or.inr status))
      (steadyFinal_of_unfinal unfinal _), unfinal.blind columns⟩
  finals status billingStatus backend db fault polled kept billed _ := by
    obtain ⟨backendName, ended⟩ := polled
    have unbilled : billingStatus = .skip → Unbilled tenantId jobId world db := by
      intro skipped
      subst skipped
      rcases billed with post | ⟨raised, _⟩
      · exact post.2
      · simp at raised
    have unfinal : Unfinal jobId world db := by
      rcases billed with post | ⟨_, failed⟩
      · cases billingStatus with
        | ok => exact post.1
        | noFunds => exact post.1
        | mismatch => exact post.1
        | skip => exact post.1
        | pgError => exact post.elim
        | error => exact post.elim
      · exact failed
    refine ⟨executorContract_keeps (by simp) kept (kept.final (pollLoop_ends ended) unbilled)
      (steadyFinal_of_unfinal unfinal _), ?_⟩
    split <;> trivial
  rereads db fault kept _ _ :=
    ⟨executorContract_keeps (by simp) kept (kept.apply_reads (by simp) (fun writes => writes))
      (steady_of_reads db (by simp [Db.WritesJobs])).final, fun _ => trivial⟩
  cancelled _ _ _ _ _ _ _ := trivial
  closed _ _ _ _ := trivial
  refunded _ _ _ _ := trivial
  interrupted _ _ _ _ _ _ _ := trivial
  marks db fault kept _ _ := by
    refine ⟨executorContract_keeps (by simp) kept (kept.update ?_)
      (steady_of_update db rfl ?_).final, trivial⟩
    · intro row _ _ rowKept
      exact rowKept.of_same rfl rfl rfl (fun _ => parkedText_marker _)
    · exact fun _ _ _ closed => closed
  drains db fault kept _ _ := by
    have cancels : ∀ row : JobRow,
        ((drainUpdate jobId tenantId world).write db.clock row).status = .cancelled :=
      fun _ => rfl
    refine ⟨executorContract_keeps (by simp) kept (kept.update ?_)
      (steady_of_update db rfl ?_).final, trivial⟩
    · exact fun row _ _ _ => .of_status (by simp [cancels])
    · exact fun _ _ _ _ => by simp [drainUpdate, terminalStatuses]

end Executor

-- Bystanders

section Bystanders

variable {tenantId : String} {jobId : JobId} {world : WorkerWorld} {db : Db}

theorem PriceKept.bystander (kept : PriceKept tenantId jobId world db)
    (beside : isBystander jobId kind) (issued : KindCall kind call)
    (fair : mispriced tenantId jobId world db kind call = false)
    : PriceKept tenantId jobId world (db.apply call.query).2
      ∧ Steady jobId db (db.apply call.query).2 := by
  refine ⟨kept.apply ?_ ?_, db.apply_grows _, ?_⟩
  · intro entry inserted key debit
    rcases stored_debit issued inserted key with
      credit | ⟨gpuSec, planName, bills, query, rfl, named, positive⟩
    · rw [credit] at debit
      cases debit
    · have completes : isCompletion kind = true := by
        cases kind with
        | executeAndBill other tenant seen =>
            exact absurd bills.2.1.symm (of_decide_eq_true beside.1)
        | sweepBillingPending input => exact absurd rfl (beside.2 input)
        | completeJob => rfl
        | completeJobV1 => rfl
        | workerAck => rfl
        | _ => exact bills.elim
      have seconds : gpuSec = world.billable := by
        simpa [mispriced, completes, query, key, billingEntry, debitEntry, usageMetadata]
          using fair
      subst seconds
      rw [totalCost_billable] at positive
      exact ⟨named, positive, planName, rfl⟩
  · intro row after found stored rowKept
    obtain ⟨later, same, touched⟩ := bystander_row beside issued found
    cases stored.symm.trans same
    cases touched with
    | same => exact rowKept
    | cancel => exact .of_status (by simp [JobUpdate.write, cancelUpdate])
    | complete query asked _ selected status columns =>
        have priced : Priced world row := by
          simpa [mispriced, asked, query, found, selected] using fair
        refine ⟨?_, ?_⟩
        · intro parked
          simp [JobUpdate.write, status] at parked
        · intro _ _ _ _
          simpa [Priced, JobUpdate.write, columns.1, columns.2.1] using priced
    | text status columns texts =>
        refine rowKept.of_same (by simp [JobUpdate.write, status])
          (by simp [JobUpdate.write, columns.1]) (by simp [JobUpdate.write, columns.2]) ?_
        intro parked
        rcases texts with none | ⟨empty, _⟩
        · simpa [JobUpdate.write, none] using parked
        · simp only [JobUpdate.write, empty, Option.some_or]
          decide
    | orphan => exact .of_status (by simp [orphanRow])
  · intro row found
    obtain ⟨later, same, touched⟩ := bystander_row beside issued found
    refine ⟨later, same, ?_⟩
    cases touched with
    | same => exact ⟨rfl, fun closed => closed⟩
    | cancel =>
        exact ⟨rfl, fun _ => by simp [JobUpdate.write, cancelUpdate, terminalStatuses]⟩
    | complete _ _ _ _ status columns =>
        exact ⟨by simp [JobUpdate.write, columns.2.1],
          fun _ => by simp [JobUpdate.write, status, terminalStatuses]⟩
    | text status columns =>
        exact ⟨by simp [JobUpdate.write, columns.2], by simp [JobUpdate.write, status]⟩
    | orphan => exact ⟨rfl, fun _ => by simp [orphanRow, terminalStatuses]⟩

theorem jobCostUsd_billable (world : WorkerWorld)
    : jobCostUsd (some world.billable) = world.costUsd := by
  rw [jobCostUsd, Option.getD_some, max_eq_left (billable_nonneg world), WorkerWorld.costUsd]

/-- What the list proves about the job, however old it is. -/
def ListedJob (tenantId : String) (jobId : JobId) (world : WorkerWorld) (rows : List JobRow)
    (db : Db)
    : Prop :=
  ∀ job ∈ rows,
    job.id = jobId
    → job.tenantId = tenantId
      ∧ job.durationSeconds = some world.billable
      ∧ ParkedText job.error
      ∧ (0 < world.costUsd → ∃ row, db.job? jobId = some row ∧ Finalised world row)

theorem ListedJob.steady {rows : List JobRow} {after : Db}
    (listed : ListedJob tenantId jobId world rows before)
    (steady : SteadyFinal jobId world before after)
    : ListedJob tenantId jobId world rows after := by
  intro job member own
  obtain ⟨tenant, seconds, parked, final⟩ := listed job member own
  refine ⟨tenant, seconds, parked, ?_⟩
  intro positive
  obtain ⟨row, found, done⟩ := final positive
  obtain ⟨later, stored, same, _⟩ := steady.2 row found done
  exact ⟨later, stored, positive, same.trans done.2⟩

theorem Unbilled.steadyFinal {after : Db} (unbilled : Unbilled tenantId jobId world before)
    (final : 0 < world.costUsd → ∃ row, before.job? jobId = some row ∧ Finalised world row)
    (steady : SteadyFinal jobId world before after)
    : Unbilled tenantId jobId world after := by
  rcases unbilled with unnamed | free | ⟨row, found, closed⟩
  · exact Or.inl unnamed
  · exact Or.inr (Or.inl free)
  · by_cases positive : 0 < world.costUsd
    · obtain ⟨other, same, done⟩ := final positive
      cases found.symm.trans same
      obtain ⟨later, stored, _, terminal⟩ := steady.2 row found done
      exact Or.inr (Or.inr ⟨later, stored, terminal closed⟩)
    · exact Or.inr (Or.inl (not_lt.mp positive))

theorem bystanderContract_sweeps {rows : List JobRow} {job : JobRow} {update : JobUpdate}
    {site : Site} (kept : PriceKept tenantId jobId world db)
    (listed : ListedJob tenantId jobId world rows db) (member : job ∈ rows)
    (target : update.jobId = job.id) (seconds : update.durationSeconds = none)
    (guarded : update.status = none ∨ update.ifStatusNotIn = terminalStatuses)
    (writes
      : ∀ row,
          db.job? jobId = some row
          → update.selects row = true
          → job.id = jobId
          → job.durationSeconds = some world.billable
          → ParkedText job.error
          → (0 < world.costUsd → row.durationSeconds = some world.billable)
          → RowKept tenantId world (Billable tenantId jobId db) row
          → RowKept tenantId world (Billable tenantId jobId db) (update.write db.clock row))
    : (bystanderContract tenantId jobId world kind).Keeps service db
        ⟨site, .updateExecutionJob update⟩ fault
      ∧ ListedJob tenantId jobId world rows
          (service.exec ⟨site, .updateExecutionJob update⟩ fault db).2 := by
  have steady : Steady jobId db (db.apply (.updateExecutionJob update)).2 := by
    refine steady_of_update db seconds ?_
    intro row _ selected closed
    rcases guarded with none | excluded
    · simpa [none] using closed
    · exact absurd closed (excluded ▸ Db.selects_status selected)
  have applied : PriceKept tenantId jobId world (db.apply (.updateExecutionJob update)).2 := by
    refine kept.update ?_
    intro row found selected rowKept
    have own : job.id = jobId :=
      target.symm.trans ((Db.selects_jobId selected).symm.trans (Db.job?_id found))
    obtain ⟨_, billed, parked, final⟩ := listed job member own
    refine writes row found selected own billed parked ?_ rowKept
    intro positive
    obtain ⟨other, same, done⟩ := final positive
    cases found.symm.trans same
    exact done.2
  exact ⟨bystanderContract_keeps (by simp) kept (fun _ => ⟨applied, steady⟩),
    listed.steady (Steady.final (exec_steady steady))⟩

theorem bystanderContract_sweepRow {rows : List JobRow} {job : JobRow} {input : SweepInput}
    (member : job ∈ rows)
    : SweepRules service (bystanderContract tenantId jobId world kind) input job
        (ListedJob tenantId jobId world rows) (ListedJob tenantId jobId world rows)
        (fun db =>
          ListedJob tenantId jobId world rows db
          ∧ (job.id = jobId → Unbilled tenantId jobId world db))
        (ListedJob tenantId jobId world rows) where
  billing := {
    composes := bystanderContract_composes
    grows := And.left
    stableBefore := fun _ _ steady _ listed => listed.steady steady
    stableOpen := fun _ _ steady _ listed => listed.steady steady
    stableSkip := fun _ _ steady _ known =>
      ⟨known.1.steady steady, fun own =>
        (known.2 own).steadyFinal (known.1 job member own).2.2.2 steady⟩
    stableFails := fun _ _ steady _ listed => listed.steady steady
    reads := fun db fault kept _ _ =>
      bystanderContract_keeps (by simp) kept (fun _ =>
        ⟨kept.apply_reads (by simp) (fun writes => writes), steady_of_reads db (fun writes => writes)⟩)
    calls := by
      intro call db fault issued kept listed _ _
      have reads := issued.reads
      have unclaimed := issued.unclaimed
      have seconds : job.tenantId = tenantId → job.id = jobId
          → job.durationSeconds.getD 0 = world.billable := by
        intro _ own
        rw [(listed job member own).2.1, Option.getD_some]
      exact ⟨bystanderContract_keeps unclaimed kept (fun _ =>
          ⟨kept.billing issued seconds, steady_of_reads db reads⟩),
        listed.steady (Steady.final (exec_steady (steady_of_reads db reads)))⟩
    opens := fun _ _ _ listed _ _ _ => listed
    skips := by
      intro db kept listed closed
      refine ⟨listed, ?_⟩
      intro own
      obtain ⟨row, found, tenant⟩ := kept.owned
      refine Or.inr (Or.inr ⟨row, found, ?_⟩)
      have skipped := closed row (own ▸ found) (tenant.trans (listed job member own).1.symm)
      simp only [finalizeSkips, terminalStatuses, List.mem_cons, List.not_mem_nil, or_false]
        at skipped ⊢
      tauto
    free := by
      intro db kept listed costless
      refine ⟨listed, ?_⟩
      intro own
      obtain ⟨tenant, seconds, _⟩ := listed job member own
      rw [tenant, seconds, Option.getD_some, totalCost_billable] at costless
      rcases costless with unnamed | free
      · exact Or.inl unnamed
      · exact Or.inr (Or.inl free)
    readFails := fun _ _ _ listed _ _ => listed
    callFails := by
      intro call db fault issued _ kept listed _ _ _
      have reads := issued.reads
      exact listed.steady (Steady.final (exec_steady (steady_of_reads db reads)))
    absent := fun _ _ listed _ => listed }
  opened _ _ listed := listed
  skipped _ _ known := known.1
  failed _ _ listed := listed
  billed db fault kept listed _ _ := by
    refine bystanderContract_sweeps kept listed member rfl rfl (Or.inr rfl) ?_
    intro row _ _ _ seconds parked final _
    refine ⟨?_, ?_⟩
    · intro parks
      have closes := parked.closes (Or.inl rfl)
      rw [show JobStatus.ofText ((billingExecStatus job.error).getD "completed")
        = .billingPending from parks] at closes
      exact absurd closes (by decide)
    · intro _ _ _ positive
      refine ⟨?_, final positive⟩
      simp [JobUpdate.write, billedUpdate, sweepUpdate, seconds, jobCostUsd_billable]
  noFunds db fault kept listed _ := by
    refine bystanderContract_sweeps kept listed member rfl rfl (Or.inl rfl) ?_
    intro row _ _ _ _ parked _ rowKept
    exact rowKept.of_same rfl rfl rfl (fun _ => parked.noFunds)
  mismatched db fault kept listed _ _ := by
    refine bystanderContract_sweeps kept listed member rfl rfl (Or.inr rfl) ?_
    intro row _ _ _ _ parked _ _
    have closes := parked.mismatches
    refine .of_status ⟨?_, ?_⟩
    · intro parks
      rw [show JobStatus.ofText ((billingExecStatus job.error).getD "error")
        = .billingPending from parks] at closes
      exact absurd closes (by decide)
    · intro done
      rw [show JobStatus.ofText ((billingExecStatus job.error).getD "error")
        = .completed from done] at closes
      exact absurd closes (by decide)
  skips db fault kept known _ := by
    refine bystanderContract_sweeps kept known.1 member rfl rfl (Or.inr rfl) ?_
    intro row found selected own _ parked _ _
    refine ⟨?_, ?_⟩
    · intro parks
      have closes := parked.closes (Or.inl rfl)
      rw [show JobStatus.ofText ((billingExecStatus job.error).getD "completed")
        = .billingPending from parks] at closes
      exact absurd closes (by decide)
    · intro _ _ named positive
      rcases known.2 own with unnamed | free | ⟨other, same, closed⟩
      · exact absurd unnamed named
      · exact absurd positive (not_lt.mpr free)
      · cases found.symm.trans same
        exact absurd closed (Db.selects_status selected)

theorem bystanderContract_sweep {input : SweepInput}
    : Triple service (bystanderContract tenantId jobId world kind) (fun _ => True)
        (sweepBillingPendingOnce input) (fun _ _ => True) (fun _ _ => True) := by
  have stable : ∀ rows, (bystanderContract tenantId jobId world kind).Stable
      (ListedJob tenantId jobId world rows) :=
    fun rows _ _ steady _ listed => listed.steady steady
  refine sweepBillingPendingOnce_triple bystanderContract_composes stable ?_
    (fun rows job member memory => sweepRow_triple (bystanderContract_sweepRow member))
  intro excludeIds db fault kept _
  refine ⟨bystanderContract_keeps (by simp) kept (fun _ =>
    ⟨kept.apply_reads (by simp) (fun writes => writes), steady_of_reads db (fun writes => writes)⟩),
    ?_⟩
  intro job member own
  obtain ⟨found, status⟩ := mem_billingPendingRows member
  rw [own] at found
  obtain ⟨row, stored, tenant⟩ := kept.owned
  cases found.symm.trans stored
  obtain ⟨seconds, parked⟩ := (kept.row job found).parked status
  exact ⟨tenant, seconds, parked, fun positive => ⟨job, found, positive, seconds⟩⟩

end Bystanders

-- Every run

section Runs

variable {tenantId : String} {jobId : JobId} {world : WorkerWorld}

theorem priceRun
    : OneRun (executorContract tenantId jobId world) (bystanderContract tenantId jobId world)
        (PriceKept tenantId jobId world) where
  executorComposes := executorContract_composes
  bystanderComposes _ := bystanderContract_composes
  executorInv := rfl
  bystanderInv _ := rfl
  executorTolerates moved := moved
  bystanderTolerates moved := moved
  bystandersTolerate moved := Steady.final moved
  executorStarts _ admitted := admitted
  bystanderStarts _ _ admitted := admitted

theorem bystanderContract_body (joins : joinsRun jobId kind = true)
    : Triple service (bystanderContract tenantId jobId world kind) (fun _ => True)
        (bodyOf kind) (fun _ _ => True) (fun _ _ => True) := by
  have idle : (bystanderContract tenantId jobId world kind).Stable (fun _ => True) :=
    fun _ _ _ _ _ => trivial
  by_cases sweeps : ∃ input, kind = .sweepBillingPending input
  · obtain ⟨input, same⟩ := sweeps
    subst same
    exact Triple.bind bystanderContract_composes (fun _ _ => True) bystanderContract_sweep
      (fun _ => Triple.done idle (fun _ _ _ => trivial))
  · refine Triple.of_issues (bodyOf_issues kind) idle ?_
    intro call db fault issued kept _ fair
    have beside : isBystander jobId kind := ⟨joins, fun input same => sweeps ⟨input, same⟩⟩
    exact ⟨bystanderContract_keeps (unclaimed_of_joins joins issued) kept
      (fun effect => kept.bystander beside issued (fair effect)), trivial⟩

theorem priceKept_of_claimed {db : Db} (claimed : Claimed tenantId jobId db)
    : PriceKept tenantId jobId world db := by
  obtain ⟨row, found, tenant, status, _⟩ := claimed.row
  refine ⟨⟨row, found, tenant⟩, ?_, ?_⟩
  · intro entry stored
    rw [claimed.undebited] at stored
    cases stored
  · intro other same
    cases found.symm.trans same
    exact .of_status (by simp [status])

theorem unfinal_of_claimed {db : Db} (claimed : Claimed tenantId jobId db)
    : Unfinal jobId world db := by
  obtain ⟨row, found, _, _, seconds, _⟩ := claimed.row
  refine ⟨row, found, ?_⟩
  intro final
  have idle : world.billable = 0 := by
    have same := seconds.symm.trans final.2
    exact (Option.some.inj same).symm
  exact absurd final.1 (not_lt.mpr ((costUsd_nonpos_iff world).mpr idle))

/-- In every run of a claimed job among all other threads, with any faults and crashes, in which
the complete endpoints bill the run's seconds only and complete only rows that carry its price,
a completed job with a DEBIT shows the DEBIT's amount and seconds in every state.
-/
theorem row_price_charged {db : Db} {config : Config bridge Db Kind Answer}
    (claimed : Claimed tenantId jobId db)
    (reached
      : service.Reaches
          (fun config label =>
            arrivesBeside jobId label = true ∧ KeepsPrice tenantId jobId world config label)
          (claimedBy db jobId tenantId world) config)
    : PriceShown tenantId jobId config.store := by
  have executes : Triple service (executorContract tenantId jobId world) (Unfinal jobId world)
      (bodyOf (.executeAndBill jobId tenantId world)) (fun _ _ => True) (fun _ _ => True) :=
    Triple.bind executorContract_composes (fun _ _ => True)
      (executeAndBill_triple executorContract_worker)
      (fun _ => Triple.done (fun _ _ _ _ _ => trivial) (fun _ _ _ => trivial))
  have kept : PriceKept tenantId jobId world config.store := by
    refine priceRun.inv_of_reaches reached (priceKept_of_claimed claimed)
      (unfinal_of_claimed claimed) executes ?_ ?_
    · exact fun _ kind allowed => ⟨allowed.1, bystanderContract_body allowed.1⟩
    · intro config label kind call fault allowed executing
      split
      · trivial
      · exact allowed.2.executed executing
  exact kept.shown

end Runs

/-- Witness: the worker's usage record fails after the DEBIT, the job is parked, and a sweep bills
it again and completes it.
-/
theorem row_price_charged_swept
    : ∃ config row,
        service.Reaches
            (fun config label =>
              arrivesBeside jobA label = true
              ∧ KeepsPrice "t" jobA (quickRun 10 "completed") config label)
            (claimedBy claimedDb jobA "t" (quickRun 10 "completed")) config
        ∧ config.store.job? jobA = some row
        ∧ row.status = .completed
        ∧ row.costUsd = 1 / 10000
        ∧ PriceShown "t" jobA config.store := by
  have ran
      : (service.run
          (fun config label =>
            arrivesBeside jobA label
            && decide (KeepsPrice "t" jobA (quickRun 10 "completed") config label))
          (claimedBy claimedDb jobA "t" (quickRun 10 "completed"))
          [.exec 0 .none, .exec 0 .none, .exec 0 .none, .exec 0 (.before "down"), .exec 0 .none,
            .arrive (.sweepBillingPending { now := 0, memory := [], plan := fun _ => "free" }),
            .exec 1 .none, .exec 1 .none, .exec 1 .none, .exec 1 .none, .exec 1 .none,
            .exec 1 .none]).any
          (fun config =>
            (config.store.job? jobA).any (fun row =>
              row.status == .completed && row.costUsd == 1 / 10000))
        = true := by
    decide +kernel
  obtain ⟨config, reached, passed⟩ :=
    Machine.Reaches.of_check (fun _ _ both => by simpa using both) _ ran
  obtain ⟨row, found, shown⟩ := (Option.any_eq_true _ _).mp passed
  simp only [Bool.and_eq_true, beq_iff_eq] at shown
  exact ⟨config, row, reached, found, shown.1, shown.2,
    row_price_charged claimedDb_claimed reached⟩

/-- `/complete` bills ten confirmed seconds and completes the row without a price. -/
theorem completed_row_unpriced
    : ∃ config,
        service.Reaches (fun _ label => arrivesBeside jobA label = true)
            (claimedBy claimedDb jobA "t" (quickRun 10 "completed")) config
        ∧ config.Quiescent
        ∧ ¬PriceShown "t" jobA config.store := by
  have ran
      : (service.run (fun _ label => arrivesBeside jobA label)
          (claimedBy claimedDb jobA "t" (quickRun 10 "completed"))
          [.exec 0 .none,
            .arrive (.completeJob { tenant := .ok "t", confirmed := some 10 } jobA),
            .exec 1 .none, .exec 1 .none, .exec 1 .none, .exec 1 .none, .exec 1 .none,
            .exec 0 .none, .exec 0 .none]).any
          (fun config =>
            decide config.Quiescent
            && (config.store.job? jobA).any (fun row =>
              row.status == .completed && row.costUsd == 0)
            && (config.store.ledger.find? (ledgerIdFor "t" (jobKey jobA))).any (fun entry =>
              entry.entryType == .debit && entry.amount == 1 / 10000))
        = true := by
    decide +kernel
  obtain ⟨config, reached, passed⟩ :=
    Machine.Reaches.of_check (fun _ _ permitted => permitted) _ ran
  simp only [Bool.and_eq_true, decide_eq_true_eq] at passed
  obtain ⟨⟨quiescent, shown⟩, billed⟩ := passed
  obtain ⟨row, found, facts⟩ := (Option.any_eq_true _ _).mp shown
  obtain ⟨entry, stored, debit⟩ := (Option.any_eq_true _ _).mp billed
  simp only [Bool.and_eq_true, beq_iff_eq] at facts debit
  refine ⟨config, reached, quiescent, ?_⟩
  intro priced
  have same := (priced row entry found facts.1 stored debit.1).1
  rw [facts.2, debit.2] at same
  norm_num at same

end RomaBridge.Properties
