import RomaBridge.Properties.PaidWork

/-! When a cancelled job costs nothing.
The DEBIT and the status are written in separate transactions, and only one branch of the
worker pays back: a billed run whose final write found the job cancelled. The job must not be
cancelled with a DEBIT that no run will look at again.
-/

namespace RomaBridge.Properties

open RomaBridge.Foundation RomaBridge.Model Program

variable {before after : Db} {row later job : JobRow} {fault : Fault} {rows : List JobRow}
  {backend : Option String} {billingStatus : BillingStatus}

-- Statements

/-- The rows of a cancelled job net to zero, because there is no DEBIT or a refund of the same
amount, or the row carries a marker of exactly the debited amount.
-/
def CostsNothing (tenantId : String) (jobId : JobId) (db : Db) : Prop :=
  ∀ row,
    db.job? jobId = some row
    → row.status = .cancelled
    → (jobNet db tenantId jobId = 0
        ∧ (db.ledger.find? (ledgerIdFor tenantId (jobKey jobId)) = none
          ∨ ∃ credit,
              db.ledger.find? (ledgerIdFor tenantId (refundKey jobId)) = some credit
              ∧ credit.entryType = .credit
              ∧ DebitOf tenantId jobId credit.amount db))
      ∨ ∃ amount, row.error = some (refundMarker amount) ∧ DebitOf tenantId jobId amount db

def isDebited (tenantId : String) (jobId : JobId) (db : Db) : Bool :=
  (db.ledger.find? (ledgerIdFor tenantId (jobKey jobId))).isSome

def isOwnDebit (tenantId : String) (jobId : JobId) (world : WorkerWorld) (db : Db) : Bool :=
  (db.ledger.find? (ledgerIdFor tenantId (jobKey jobId))).any
    (fun entry => entry.metadata.gpuSec = some world.billable)

def writesCancelled (jobId : JobId) (db : Db) (call : Call) : Bool :=
  match call.query with
  | .updateExecutionJob update =>
      update.status = some .cancelled && (db.job? jobId).any (fun row => update.selects row)
  | _ => false

/-- The call stores the first DEBIT of the job, on a cancelled row or for the seconds of the
run.
-/
def debitsAstray (tenantId : String) (jobId : JobId) (world : WorkerWorld) (db : Db)
    (call : Call)
    : Bool :=
  match call.query with
  | .debitInsert entry =>
      entry.ledgerId = ledgerIdFor tenantId (jobKey jobId)
      && !isDebited tenantId jobId db
      && ((db.job? jobId).any (fun row => row.status = .cancelled)
        || entry.metadata.gpuSec = some world.billable)
  | _ => false

/-- Refunds are tried three times and then marked; their calls may fail. -/
def refundSites : List Site := [.ledgerCredit, .ledgerCreditLookup]

def workerMay (tenantId : String) (jobId : JobId) (db : Db) (call : Call) (fault : Fault)
    : Bool :=
  !isDebited tenantId jobId db
  || (!writesCancelled jobId db call && (fault = .none || refundSites.contains call.site))

/-- Everybody else cancels the job only while there is no DEBIT or the run's own, and a complete
endpoint debits neither a cancelled job nor the seconds of the run.
-/
def bystanderMay (tenantId : String) (jobId : JobId) (world : WorkerWorld) (db : Db)
    (kind : Kind) (call : Call)
    : Bool :=
  (!writesCancelled jobId db call || !isDebited tenantId jobId db
    || isOwnDebit tenantId jobId world db)
  && !(isCompletion kind && debitsAstray tenantId jobId world db call)

def ExposesNothing (tenantId : String) (jobId : JobId) (world : WorkerWorld)
    : Config bridge Db Kind Answer → Label Kind → Prop :=
  Config.Permits (fun db kind call fault =>
    if isExecutorOf jobId kind then workerMay tenantId jobId db call fault = true
    else bystanderMay tenantId jobId world db kind call = true)

instance (tenantId : String) (jobId : JobId) (world : WorkerWorld)
    (config : Config bridge Db Kind Answer) (label : Label Kind)
    : Decidable (ExposesNothing tenantId jobId world config label) :=
  inferInstanceAs (Decidable (Config.Permits _ config label))

def completesBlindly (jobId : JobId) : Kind → Bool
  | .completeJobV1 _ other => other = jobId
  | .workerAck _ _ _ _ other => other = jobId
  | _ => false

/-- Arrivals are cancels, `POST /complete`, sweeps and threads of other jobs; nobody kills the
worker of the job.
-/
def staysAlive (jobId : JobId) (config : Config bridge Db Kind Answer) : Label Kind → Bool
  | .arrive kind => joinsUnkeyed jobId kind && !completesBlindly jobId kind
  | .crash index => !(config.threads[index]?).any (fun thread => isExecutorOf jobId thread.kind)
  | .exec _ _ => true

/-- The pause between two refund attempts is never cut off by the end of the process. -/
def Uninterrupted (world : WorkerWorld) : Prop :=
  ∀ attempt exn, world.refundSleep attempt = .error exn → exn.isException = true

-- The invariant

/-- DEBITs, refunds and markers of the job agree, and a parked row has a readable text. -/
structure Backed (tenantId : String) (jobId : JobId) (db : Db) : Prop where
  debit
    : ∀ entry,
        db.ledger.find? (ledgerIdFor tenantId (jobKey jobId)) = some entry
        → tenantId ≠ "" ∧ ∃ gpuSec planName, entry = billingEntry tenantId jobId gpuSec planName
  refund
    : ∀ entry,
        db.ledger.find? (ledgerIdFor tenantId (refundKey jobId)) = some entry
        → entry.entryType = .credit ∧ DebitOf tenantId jobId entry.amount db
  marker
    : ∀ row,
        db.job? jobId = some row
        → row.status = .cancelled
        → HasMarker row
        → ∃ amount, row.error = some (refundMarker amount) ∧ DebitOf tenantId jobId amount db
  text : ∀ row, db.job? jobId = some row → row.status = .billingPending → ParkedText row.error

def ClosedWork (world : WorkerWorld) (row : JobRow) : Prop :=
  row.durationSeconds = some world.billable
  → world.billable ≠ 0
  → row.status ∈ cancelBlockedStatuses

/-- The invariant of runs in which a cancelled job costs nothing. -/
structure FreeKept (tenantId : String) (jobId : JobId) (world : WorkerWorld) (db : Db)
    : Prop where
  paid : PaidKept tenantId jobId world db
  backed : Backed tenantId jobId db
  closed : ∀ row, db.job? jobId = some row → ClosedWork world row

def Exposed (tenantId : String) (jobId : JobId) (db : Db) : Prop :=
  isDebited tenantId jobId db = true ∧ ∃ row, db.job? jobId = some row ∧ row.status = .cancelled

/-- Nobody waits for a refund: the run has not billed the job, which is not cancelled with a
DEBIT.
-/
structure Calm (tenantId : String) (jobId : JobId) (world : WorkerWorld) (db : Db) : Prop where
  loose
    : ∃ row,
        db.job? jobId = some row
        ∧ (row.durationSeconds = some 0 ∨ row.status = .cancelled)
  unexposed : ¬Exposed tenantId jobId db
  foreign : isOwnDebit tenantId jobId world db = false

def ClosedRow (jobId : JobId) (db : Db) : Prop :=
  ∃ row, db.job? jobId = some row ∧ row.status ∈ cancelBlockedStatuses

def Shut (jobId : JobId) (db : Db) : Prop :=
  ∃ row,
    db.job? jobId = some row ∧ row.status ∈ cancelBlockedStatuses ∧ row.status ≠ .cancelled

/-- What the run leaves behind: nothing to pay back, or a refund that is stored or marked. -/
def Squared (tenantId : String) (jobId : JobId) (world : WorkerWorld) (db : Db) : Prop :=
  Calm tenantId jobId world db ∨ Shut jobId db ∨ RefundDue tenantId jobId db

section Invariant

variable {tenantId : String} {jobId : JobId} {world : WorkerWorld} {db : Db}

theorem Backed.ownEntry (backed : Backed tenantId jobId db)
    (own : isOwnDebit tenantId jobId world db = true)
    : tenantId ≠ ""
      ∧ ∃ planName,
          db.ledger.find? (ledgerIdFor tenantId (jobKey jobId))
            = some (billingEntry tenantId jobId world.billable planName) := by
  obtain ⟨entry, found, seconds⟩ := (Option.any_eq_true _ _).mp own
  obtain ⟨named, gpuSec, planName, rfl⟩ := backed.debit entry found
  have same : gpuSec = world.billable := by
    simpa [billingEntry, debitEntry, usageMetadata] using seconds
  exact ⟨named, planName, same ▸ found⟩

theorem Backed.ownDebit (backed : Backed tenantId jobId db)
    (own : isOwnDebit tenantId jobId world db = true)
    : DebitOf tenantId jobId world.costUsd db := by
  obtain ⟨_, _, found⟩ := backed.ownEntry own
  exact ⟨_, found, rfl, totalCost_billable world⟩

theorem FreeKept.costsNothing (kept : FreeKept tenantId jobId world db)
    (squared : Squared tenantId jobId world db)
    : CostsNothing tenantId jobId db := by
  intro row found cancelled
  have refunded : ∀ credit,
      db.ledger.find? (ledgerIdFor tenantId (refundKey jobId)) = some credit
      → jobNet db tenantId jobId = 0
        ∧ credit.entryType = .credit
        ∧ DebitOf tenantId jobId credit.amount db := by
    intro credit stored
    obtain ⟨type, debit, debited, debitType, amount⟩ := kept.backed.refund credit stored
    refine ⟨?_, type, debit, debited, debitType, amount⟩
    simp [jobNet_eq, stored, debited, LedgerEntry.signed, type, debitType, amount]
  rcases squared with calm | ⟨other, same, _, open_⟩ | due
  · have undebited : db.ledger.find? (ledgerIdFor tenantId (jobKey jobId)) = none := by
      by_contra debited
      exact calm.unexposed ⟨Option.isSome_iff_ne_none.mpr debited, row, found, cancelled⟩
    refine Or.inl ⟨?_, Or.inl undebited⟩
    cases stored : db.ledger.find? (ledgerIdFor tenantId (refundKey jobId)) with
    | none => simp [jobNet_eq, stored, undebited]
    | some credit => exact (refunded credit stored).1
  · cases found.symm.trans same
    exact absurd cancelled open_
  · rcases due with credited | ⟨other, same, _, marker⟩
    · obtain ⟨credit, stored⟩ := Option.isSome_iff_exists.mp credited
      obtain ⟨net, type, debit⟩ := refunded credit stored
      exact Or.inl ⟨net, Or.inr ⟨credit, stored, type, debit⟩⟩
    · cases found.symm.trans same
      exact Or.inr (kept.backed.marker row found cancelled marker)

theorem refund_find? {query : Query}
    (same : Refunded tenantId jobId (db.apply query).2 = Refunded tenantId jobId db)
    : (db.apply query).2.ledger.find? (ledgerIdFor tenantId (refundKey jobId))
      = db.ledger.find? (ledgerIdFor tenantId (refundKey jobId)) := by
  rcases db.apply_find? query (ledgerIdFor tenantId (refundKey jobId)) with
    kept | ⟨entry, _, _, absent, stored⟩
  · exact kept
  · have taken : Refunded tenantId jobId (db.apply query).2 := by simp [Refunded, stored]
    rw [same, Refunded, absent] at taken
    cases taken

end Invariant

-- Contracts

/-- Executed work that is not cancelled stays so. -/
def Lasts (jobId : JobId) (world : WorkerWorld) (before after : Db) : Prop :=
  ∀ row,
    before.job? jobId = some row
    → row.durationSeconds = some world.billable
    → world.billable ≠ 0
    → row.status ≠ .cancelled
    → ∃ later, after.job? jobId = some later ∧ later.status ≠ .cancelled

/-- What everybody leaves alone. -/
structure Endures (tenantId : String) (jobId : JobId) (world : WorkerWorld)
    (before after : Db)
    : Prop where
  honours : Honours tenantId jobId world before after
  lasts : Lasts jobId world before after

/-- What bystanders leave alone. -/
structure Yields (tenantId : String) (jobId : JobId) (world : WorkerWorld) (before after : Db)
    : Prop where
  respects : Respects tenantId jobId before after
  calm : Calm tenantId jobId world before → Calm tenantId jobId world after
  closed : ClosedRow jobId before → ClosedRow jobId after
  shut : Shut jobId before → Shut jobId after
  lasts : Lasts jobId world before after

/-- What bystanders do to the row, besides passing. -/
structure RowYields (row later : JobRow) : Prop where
  closed : row.status ∈ cancelBlockedStatuses → later.status ∈ cancelBlockedStatuses
  shut
    : row.status ∈ cancelBlockedStatuses → row.status ≠ .cancelled → later.status ≠ .cancelled
  error : HasMarker later → later.error = row.error
  text
    : later.status = .billingPending
      → (row.status = .billingPending → ParkedText row.error)
      → ParkedText later.error

section Contracts

variable {tenantId : String} {jobId : JobId} {world : WorkerWorld} {db : Db}

theorem Endures.trans {first second third : Db}
    (left : Endures tenantId jobId world first second)
    (right : Endures tenantId jobId world second third)
    : Endures tenantId jobId world first third := by
  refine ⟨left.honours.trans right.honours, ?_⟩
  intro row found executed worked open_
  obtain ⟨middle, between, seconds⟩ := left.honours.1.2 row found executed
  obtain ⟨other, same, still⟩ := left.lasts row found executed worked open_
  cases between.symm.trans same
  exact right.lasts middle between seconds worked still

theorem Yields.endures (yields : Yields tenantId jobId world before after)
    : Endures tenantId jobId world before after :=
  ⟨yields.respects.honours, yields.lasts⟩

theorem Yields.refl (db : Db) : Yields tenantId jobId world db db :=
  ⟨.refl db, fun calm => calm, fun closed => closed, fun shut => shut,
    fun row found _ _ open_ => ⟨row, found, open_⟩⟩

theorem Yields.trans {first second third : Db}
    (left : Yields tenantId jobId world first second)
    (right : Yields tenantId jobId world second third)
    : Yields tenantId jobId world first third :=
  ⟨left.respects.trans right.respects, fun calm => right.calm (left.calm calm),
    fun closed => right.closed (left.closed closed), fun shut => right.shut (left.shut shut),
    (left.endures.trans right.endures).lasts⟩

theorem RowYields.refl (row : JobRow) : RowYields row row :=
  ⟨fun closed => closed, fun _ open_ => open_, fun _ => rfl, fun waiting text => text waiting⟩

theorem Squared.yields (squared : Squared tenantId jobId world before)
    (yields : Yields tenantId jobId world before after)
    : Squared tenantId jobId world after := by
  rcases squared with calm | shut | due
  · exact Or.inl (yields.calm calm)
  · exact Or.inr (Or.inl (yields.shut shut))
  · exact Or.inr (Or.inr (yields.respects.2.1.mp due))

section Applied

variable {query : Query} (kept : FreeKept tenantId jobId world db)
  (paid : PaidKept tenantId jobId world (db.apply query).2)
  (respects : Respects tenantId jobId db (db.apply query).2) (found : db.job? jobId = some row)
  (stored : (db.apply query).2.job? jobId = some later) (row_ : RowYields row later)
  (refunds : Refunded tenantId jobId (db.apply query).2 = Refunded tenantId jobId db)
  (debits
    : ∀ entry,
        query = .debitInsert entry ∨ query = .creditInsert entry
        → entry.ledgerId = ledgerIdFor tenantId (jobKey jobId)
        → tenantId ≠ "" ∧ ∃ gpuSec planName, entry = billingEntry tenantId jobId gpuSec planName)

include kept paid respects found stored row_ refunds debits

theorem FreeKept.apply : FreeKept tenantId jobId world (db.apply query).2 := by
  have grows := db.apply_grows query
  obtain ⟨other, same, seconds, _⟩ := respects.2.2 row found
  cases stored.symm.trans same
  refine ⟨paid, ⟨Db.apply_entries kept.backed.debit debits, ?_, ?_, ?_⟩, ?_⟩
  · intro entry held
    rw [refund_find? refunds] at held
    obtain ⟨type, debit⟩ := kept.backed.refund entry held
    exact ⟨type, debit.grows grows⟩
  · intro after again cancelled marker
    cases stored.symm.trans again
    have error := row_.error marker
    have due := respects.2.1.mpr (Or.inr ⟨later, stored, cancelled, marker⟩)
    obtain ⟨amount, text, debit⟩ := kept.backed.marker row found
      (kept.paid.cancelled_of_due due found) (by rw [HasMarker, ← error]; exact marker)
    exact ⟨amount, error.trans text, debit.grows grows⟩
  · intro after again waiting
    cases stored.symm.trans again
    exact row_.text waiting (kept.backed.text row found)
  · intro after again executed worked
    cases stored.symm.trans again
    exact row_.closed (kept.closed row found (seconds ▸ executed) worked)

theorem FreeKept.yields
    (calms : Calm tenantId jobId world db → Calm tenantId jobId world (db.apply query).2)
    : FreeKept tenantId jobId world (db.apply query).2
      ∧ Yields tenantId jobId world db (db.apply query).2 := by
  refine ⟨kept.apply paid respects found stored row_ refunds debits,
    ⟨respects, calms, ?_, ?_, ?_⟩⟩
  · rintro ⟨first, again, closed⟩
    cases found.symm.trans again
    exact ⟨later, stored, row_.closed closed⟩
  · rintro ⟨first, again, closed, open_⟩
    cases found.symm.trans again
    exact ⟨later, stored, row_.closed closed, row_.shut closed open_⟩
  · intro first again executed worked open_
    cases found.symm.trans again
    exact ⟨later, stored, row_.shut (kept.closed row found executed worked) open_⟩

end Applied

theorem Calm.kept (calm : Calm tenantId jobId world db) {query : Query}
    (loose
      : row.durationSeconds = some 0 ∨ row.status = .cancelled
        → later.durationSeconds = some 0 ∨ later.status = .cancelled)
    (found : db.job? jobId = some row) (stored : (db.apply query).2.job? jobId = some later)
    (ledger
      : (db.apply query).2.ledger.find? (ledgerIdFor tenantId (jobKey jobId))
        = db.ledger.find? (ledgerIdFor tenantId (jobKey jobId)))
    (cancels
      : row.status ≠ .cancelled
        → later.status = .cancelled
        → isDebited tenantId jobId db = false ∨ isOwnDebit tenantId jobId world db = true)
    : Calm tenantId jobId world (db.apply query).2 := by
  refine ⟨⟨later, stored, ?_⟩, ?_, ?_⟩
  · obtain ⟨first, again, before⟩ := calm.loose
    cases found.symm.trans again
    exact loose before
  · rintro ⟨debited, last, again, ended⟩
    cases stored.symm.trans again
    rw [isDebited, ledger] at debited
    by_cases before : row.status = .cancelled
    · exact calm.unexposed ⟨debited, row, found, before⟩
    · rcases cancels before ended with undebited | own
      · rw [isDebited, debited] at undebited
        cases undebited
      · rw [calm.foreign] at own
        cases own
  · rw [isOwnDebit, ledger]
    exact calm.foreign

theorem Respects.loose (respects : Respects tenantId jobId before after)
    (found : before.job? jobId = some row) (stored : after.job? jobId = some later)
    (loose : row.durationSeconds = some 0 ∨ row.status = .cancelled)
    : later.durationSeconds = some 0 ∨ later.status = .cancelled := by
  obtain ⟨other, same, seconds, cancelled, _⟩ := respects.2.2 row found
  cases stored.symm.trans same
  rcases loose with claimed | dropped
  · exact Or.inl (seconds.trans claimed)
  · exact Or.inr (cancelled dropped)

theorem Calm.debited (calm : Calm tenantId jobId world db) {query : Query} {entry : LedgerEntry}
    (found : db.job? jobId = some row) (stored : (db.apply query).2.job? jobId = some row)
    (ledger
      : (db.apply query).2.ledger.find? (ledgerIdFor tenantId (jobKey jobId)) = some entry)
    (open_ : row.status ≠ .cancelled) (foreign : entry.metadata.gpuSec ≠ some world.billable)
    : Calm tenantId jobId world (db.apply query).2 := by
  refine ⟨⟨row, stored, ?_⟩, ?_, by simp [isOwnDebit, ledger, foreign]⟩
  · obtain ⟨first, again, loose⟩ := calm.loose
    cases found.symm.trans again
    exact loose
  · rintro ⟨_, last, again, ended⟩
    cases stored.symm.trans again
    exact open_ ended

end Contracts

def freeContract (tenantId : String) (jobId : JobId) (world : WorkerWorld)
    : Contract bridge Db Kind where
  inv := FreeKept tenantId jobId world
  rely := Yields tenantId jobId world
  guarantee before _ _ after := Endures tenantId jobId world before after
  allowed db call fault := workerMay tenantId jobId db call fault = true
  admits _ := False

def yieldContract (tenantId : String) (jobId : JobId) (world : WorkerWorld) (kind : Kind)
    : Contract bridge Db Kind where
  inv := FreeKept tenantId jobId world
  rely := Endures tenantId jobId world
  guarantee before _ _ after := Yields tenantId jobId world before after
  allowed db call _ := bystanderMay tenantId jobId world db kind call = true
  admits _ := False

-- Bystanders

section Bystanders

variable {tenantId : String} {jobId : JobId} {world : WorkerWorld} {db : Db} {kind : Kind}
  {call : Call}

theorem freeContract_composes : (freeContract tenantId jobId world).Composes where
  refl db := .refl db
  trans left right := left.trans right

theorem yieldContract_composes : (yieldContract tenantId jobId world kind).Composes where
  refl db := (Yields.refl db).endures
  trans left right := left.trans right

theorem freeContract_keeps
    (unclaimed
      : ∀ limit locked world, call.query ≠ .claimQueuedExecutionJobs limit locked world)
    (kept : FreeKept tenantId jobId world db)
    (applied : FreeKept tenantId jobId world (db.apply call.query).2)
    (endures : Endures tenantId jobId world db (db.apply call.query).2)
    : (freeContract tenantId jobId world).Keeps service db call fault :=
  keeps_of_apply unclaimed ⟨kept, (Yields.refl db).endures⟩ ⟨applied, endures⟩

theorem yieldContract_keeps
    (unclaimed
      : ∀ limit locked world, call.query ≠ .claimQueuedExecutionJobs limit locked world)
    (kept : FreeKept tenantId jobId world db)
    (applied
      : FreeKept tenantId jobId world (db.apply call.query).2
        ∧ Yields tenantId jobId world db (db.apply call.query).2)
    : (yieldContract tenantId jobId world kind).Keeps service db call fault :=
  keeps_of_apply unclaimed ⟨kept, .refl db⟩ applied

theorem exec_yields (yields : Yields tenantId jobId world db (db.apply call.query).2)
    : Yields tenantId jobId world db (service.exec call fault db).2 :=
  service.exec_holds (.refl db) yields

/-- What a bystander stores under the key of the DEBIT is a billing entry, by cases of the kind
and its vocabulary.
-/
theorem stored_billing {entry : LedgerEntry} (joins : joinsUnkeyed jobId kind = true)
    (issued : KindCall kind call)
    (inserted : call.query = .debitInsert entry ∨ call.query = .creditInsert entry)
    (key : entry.ledgerId = ledgerIdFor tenantId (jobKey jobId))
    : tenantId ≠ ""
      ∧ ∃ gpuSec planName,
          Bills kind tenantId jobId gpuSec planName
          ∧ call.query = .debitInsert entry
          ∧ entry = billingEntry tenantId jobId gpuSec planName := by
  obtain ⟨site, query⟩ := call
  simp only [joinsUnkeyed, Bool.and_eq_true] at joins
  cases kindCall_stores issued inserted with
  | refund => exact absurd key.symm (jobKey_ne_refundKey _ _ _ _)
  | topUp asked fresh =>
      subst asked
      exact absurd key.symm
        (ledgerIdFor_ne_fresh (fresh (Option.isNone_iff_eq_none.mp joins.2)))
  | debit bills named positive =>
      obtain ⟨rfl, rfl⟩ := jobKey_injective key
      exact ⟨named, _, _, bills, rfl, rfl⟩

theorem Bystands.yields (refunds : kind ≠ .sweepRefundPending)
    (touched : Bystands db row kind call later)
    : RowYields row later := by
  cases touched with
  | same => exact .refl row
  | cancel asked cancellable =>
      exact ⟨fun closed => absurd closed cancellable, fun closed => absurd closed cancellable,
        fun _ => rfl, fun waiting => by cases waiting⟩
  | @complete update query asked sited selected status columns guarded =>
      have completed : (update.write db.clock row).status = .completed := by
        simp [JobUpdate.write, status]
      refine ⟨?_, ?_, fun _ => by simp [JobUpdate.write, columns.2.2], ?_⟩
      · intro _
        rw [completed]
        decide
      · intro _ _
        rw [completed]
        decide
      · intro waiting
        rw [completed] at waiting
        cases waiting
  | @text update status columns texts =>
      have error := texts.resolve_right (fun cleared => refunds cleared.2)
      have same : (update.write db.clock row).error = row.error := by
        simp [JobUpdate.write, error]
      have stays : (update.write db.clock row).status = row.status := by
        simp [JobUpdate.write, status]
      refine ⟨?_, ?_, fun _ => same, ?_⟩
      · rw [stays]
        exact fun closed => closed
      · rw [stays]
        exact fun _ open_ => open_
      · rw [stays, same]
        exact fun waiting text => text waiting
  | orphan asked running =>
      have unmarked := unmarked_orphan db.clock row
      refine ⟨fun _ => ?_, fun _ _ => ?_, fun marker => absurd marker unmarked,
        fun waiting => by cases waiting⟩
      · simp [orphanRow, cancelBlockedStatuses]
      · simp [orphanRow]

theorem Bystands.cancels (touched : Bystands db row kind call later)
    (found : db.job? jobId = some row) (open_ : row.status ≠ .cancelled)
    (ended : later.status = .cancelled)
    : writesCancelled jobId db call = true := by
  cases touched with
  | same => exact absurd ended open_
  | cancel asked cancellable issued selected =>
      simp [writesCancelled, issued, found, selected, cancelUpdate] at selected ⊢
  | complete _ _ _ _ status => simp [JobUpdate.write, status] at ended
  | text status => exact absurd (by simpa [JobUpdate.write, status] using ended) open_
  | orphan => simp [orphanRow] at ended

theorem spares_of_kind (sighted : completesBlindly jobId kind = false)
    (issued : KindCall kind call)
    : overwritesCancelled jobId db call = false := by
  obtain ⟨site, query⟩ := call
  cases query with
  | updateExecutionJob update =>
      rw [Bool.eq_false_iff]
      intro overwrites
      simp only [overwritesCancelled, Bool.and_eq_true] at overwrites
      obtain ⟨sited, row, found, hit⟩ := And.imp_right (Option.any_eq_true _ _).mp overwrites
      simp only [Bool.and_eq_true] at hit
      have target : update.jobId = jobId :=
        (Db.selects_jobId hit.1).symm.trans (Db.job?_id found)
      have written := kindCall_update issued
      cases written with
      | completeV1 => exact of_decide_eq_false sighted target
      | ack => exact of_decide_eq_false sighted target
      | dispatchEnd sites => rcases sites with rfl | rfl | rfl <;> simp at sited
      | sweepClose sites => rcases sites with rfl | rfl | rfl <;> simp at sited
      | cancel asked sites => rcases sites with rfl | rfl <;> simp at sited
      | _ => simp at sited
  | _ => rfl

theorem FreeKept.bystander (kept : FreeKept tenantId jobId world db)
    (joins : joinsUnkeyed jobId kind = true) (sighted : completesBlindly jobId kind = false)
    (refunds : kind ≠ .sweepRefundPending) (bills : ∀ input, kind ≠ .sweepBillingPending input)
    (issued : KindCall kind call)
    (may : bystanderMay tenantId jobId world db kind call = true)
    : FreeKept tenantId jobId world (db.apply call.query).2
      ∧ Yields tenantId jobId world db (db.apply call.query).2 := by
  obtain ⟨paid, respects⟩ := kept.paid.bystander joins refunds bills issued
    (spares_of_kind sighted issued)
  have beside : isBystander jobId kind := by
    simp only [joinsUnkeyed, Bool.and_eq_true] at joins
    exact ⟨joins.1, bills⟩
  simp only [bystanderMay, Bool.and_eq_true, Bool.or_eq_true, Bool.not_eq_eq_eq_not,
    Bool.not_true] at may
  obtain ⟨row, found, _⟩ := kept.paid.owned
  obtain ⟨later, stored, touched⟩ := bystander_row beside issued found
  refine kept.yields paid respects found stored (Bystands.yields refunds touched)
    (bystander_refunded joins refunds issued) ?_ ?_
  · intro entry inserted key
    obtain ⟨named, gpuSec, planName, _, _, same⟩ := stored_billing joins issued inserted key
    exact ⟨named, gpuSec, planName, same⟩
  · intro calm
    rcases db.apply_find? call.query (ledgerIdFor tenantId (jobKey jobId)) with
      same | ⟨entry, inserted, key, absent, held⟩
    · refine calm.kept (respects.loose found stored) found stored same ?_
      intro open_ ended
      have writes := Bystands.cancels touched found open_ ended
      rcases may.1 with (unwritten | undebited) | own
      · rw [writes] at unwritten
        cases unwritten
      · exact Or.inl undebited
      · exact Or.inr own
    · obtain ⟨_, gpuSec, planName, billed, query, _⟩ := stored_billing joins issued inserted key
      have completes : isCompletion kind = true := by
        cases kind with
        | executeAndBill other tenant seen =>
            exact absurd billed.2.1.symm (of_decide_eq_true beside.1)
        | sweepBillingPending input => exact absurd rfl (bills input)
        | completeJob => rfl
        | completeJobV1 => rfl
        | workerAck => rfl
        | _ => exact billed.elim
      have undebited : isDebited tenantId jobId db = false := by simp [isDebited, absent]
      have astray := may.2
      simp only [completes, debitsAstray, query, key, undebited, found, Option.any_some,
        decide_true, Bool.not_false, Bool.true_and, Bool.or_eq_false_iff, decide_eq_false_iff_not]
        at astray
      have reads : ¬Db.WritesJobs call.query := by
        rw [query]
        exact fun writes => writes
      exact calm.debited found ((db.apply_job?_eq reads jobId).trans found) held astray.1 astray.2

def ListedParked (jobId : JobId) (world : WorkerWorld) (rows : List JobRow) (db : Db) : Prop :=
  ∀ job ∈ rows,
    job.id = jobId
    → job.durationSeconds = some world.billable
      ∧ ParkedText job.error
      ∧ ∃ row,
          db.job? jobId = some row
          ∧ row.durationSeconds = some world.billable
          ∧ (world.billable ≠ 0 → row.status ≠ .cancelled)

theorem ListedParked.endures (listed : ListedParked jobId world rows before)
    (moved : Endures tenantId jobId world before after)
    : ListedParked jobId world rows after := by
  intro job member own
  obtain ⟨seconds, text, row, found, executed, open_⟩ := listed job member own
  obtain ⟨later, stored, still⟩ := moved.honours.1.2 row found executed
  refine ⟨seconds, text, later, stored, still, ?_⟩
  intro worked
  obtain ⟨other, same, open'⟩ := moved.lasts row found executed worked (open_ worked)
  cases stored.symm.trans same
  exact open'

theorem Calm.swept (calm : Calm tenantId jobId world db) {planName : String}
    (listed : ListedParked jobId world rows db) (member : job ∈ rows)
    (issued
      : BillingCall job.tenantId job.id (job.durationSeconds.getD 0) planName backend call)
    : Calm tenantId jobId world (db.apply call.query).2 := by
  obtain ⟨row, found, loose⟩ := calm.loose
  have stored := (db.apply_job?_eq issued.reads jobId).trans found
  rcases db.apply_find? call.query (ledgerIdFor tenantId (jobKey jobId)) with
    same | ⟨entry, inserted, key, _, _⟩
  · exact calm.kept (fun before => before) found stored same (fun open_ ended => absurd ended open_)
  · obtain ⟨rfl, _, positive⟩ := issued.stored inserted
    obtain ⟨seconds, _, other, again, executed, open_⟩ :=
      listed job member (jobKey_injective key).2
    cases found.symm.trans again
    have worked : world.billable ≠ 0 := by
      intro free
      rw [seconds, Option.getD_some, totalCost_billable] at positive
      exact absurd positive (not_lt.mpr ((costUsd_nonpos_iff world).mpr free))
    rcases loose with claimed | dropped
    · exact absurd (Option.some.inj (executed.symm.trans claimed)) worked
    · exact absurd dropped (open_ worked)

theorem SweepRowCall.yields (issued : SweepRowCall job call) (parked : ParkedText job.error)
    {update : JobUpdate} (query : call.query = .updateExecutionJob update) (row : JobRow)
    (selected : update.selects row = true)
    : RowYields row (update.write db.clock row)
      ∧ (row.status ≠ .cancelled → (update.write db.clock row).status ≠ .cancelled) := by
  cases issued with
  | @close site default error costUsd sited ended text =>
      simp only [Query.updateExecutionJob.injEq] at query
      subst query
      have closed := parked.closes ended
      simp only [List.mem_cons, List.not_mem_nil, or_false] at closed
      have status : (JobUpdate.write (sweepUpdate job ((billingExecStatus job.error).getD default)
          error costUsd) db.clock row).status ∈ cancelBlockedStatuses
          ∧ (JobUpdate.write (sweepUpdate job ((billingExecStatus job.error).getD default)
            error costUsd) db.clock row).status ∉ [JobStatus.cancelled, .billingPending] := by
        simp only [JobUpdate.write, sweepUpdate, Option.getD_some]
        rcases closed with same | same | same | same <;> (rw [same]; decide)
      simp only [List.mem_cons, List.not_mem_nil, or_false, not_or] at status
      refine ⟨⟨fun _ => status.1, fun _ _ => status.2.1, ?_, fun waiting =>
        absurd waiting status.2.2⟩, fun _ => status.2.1⟩
      intro marker
      exfalso
      simp only [HasMarker, JobUpdate.write, sweepUpdate, Option.some_or, Option.any_some] at marker
      revert marker
      rcases text with rfl | rfl
      · decide
      · decide
  | noFunds =>
      simp only [Query.updateExecutionJob.injEq] at query
      subst query
      refine ⟨⟨fun closed => closed, fun _ open_ => open_, ?_, fun _ _ => parked.noFunds⟩,
        fun open_ => open_⟩
      intro marker
      exfalso
      simp only [HasMarker, JobUpdate.write, errorUpdate, Option.some_or, Option.any_some,
        isRefundMarker_billingPendingError, Bool.false_eq_true] at marker

theorem FreeKept.swept (kept : FreeKept tenantId jobId world db) {input : SweepInput}
    (listed : ListedParked jobId world rows db) (member : job ∈ rows)
    (issued : SweptCall input job call)
    : FreeKept tenantId jobId world (db.apply call.query).2
      ∧ Yields tenantId jobId world db (db.apply call.query).2 := by
  have seconds : ListedSeconds jobId world rows db := by
    intro other among own
    obtain ⟨_, _, row, found, executed, _⟩ := listed other among own
    exact ⟨row, found, executed⟩
  obtain ⟨paid, respects⟩ := kept.paid.swept seconds member issued
  obtain ⟨row, found, _⟩ := kept.paid.owned
  rcases issued with own | billing
  · obtain ⟨update, query, target⟩ : ∃ update, call.query = .updateExecutionJob update
        ∧ update.jobId = job.id := by
      cases own with
      | close => exact ⟨_, rfl, rfl⟩
      | noFunds => exact ⟨_, rfl, rfl⟩
    have ledger : (db.apply call.query).2.ledger = db.ledger :=
      db.apply_ledger_eq (by simp [query])
    have stored : (db.apply call.query).2.job? jobId
        = some (if update.selects row then update.write db.clock row else row) := by
      rw [query, Db.job?_updated found]
    have yields : RowYields row (if update.selects row then update.write db.clock row else row)
        ∧ (row.status ≠ .cancelled
          → (if update.selects row then update.write db.clock row else row).status
            ≠ .cancelled) := by
      split
      · rename_i selected
        have same : job.id = jobId :=
          target.symm.trans ((Db.selects_jobId selected).symm.trans (Db.job?_id found))
        exact SweepRowCall.yields own (listed job member same).2.1 query row selected
      · exact ⟨.refl row, fun open_ => open_⟩
    refine kept.yields paid respects found stored yields.1 (by rw [Refunded, ledger, Refunded])
      (by simp [query]) ?_
    intro calm
    exact calm.kept (respects.loose found stored) found stored (by rw [ledger])
      (fun open_ ended => absurd ended (yields.2 open_))
  · have stored := (db.apply_job?_eq billing.reads jobId).trans found
    refine kept.yields paid respects found stored (.refl row) (billing_refunded billing) ?_
      (fun calm => calm.swept listed member billing)
    intro entry inserted key
    obtain ⟨rfl, named, _⟩ := billing.stored inserted
    obtain ⟨same, rfl⟩ := jobKey_injective key
    exact ⟨same ▸ named, _, _, by rw [← same]⟩

theorem yieldContract_billingSweep {input : SweepInput}
    : Triple service (yieldContract tenantId jobId world kind) (fun _ => True)
        (sweepBillingPendingOnce input) (fun _ _ => True) (fun _ _ => True) := by
  have stable : ∀ rows, (yieldContract tenantId jobId world kind).Stable
      (ListedParked jobId world rows) :=
    fun rows _ _ moved _ listed => listed.endures moved
  refine sweepBillingPendingOnce_triple yieldContract_composes stable ?_ ?_
  · intro excludeIds db fault kept _
    refine ⟨yieldContract_keeps (by simp) kept ⟨kept, .refl db⟩, ?_⟩
    intro job member own
    obtain ⟨found, status⟩ := mem_billingPendingRows member
    rw [own] at found
    have seconds := (FreeKept.paid kept).row job found |>.parked status
    refine ⟨seconds, (FreeKept.backed kept).text job found status, job, found, seconds, ?_⟩
    intro _
    rw [status]
    decide
  · intro rows job member memory
    refine Triple.of_issues sweepRow_issues (stable rows) ?_
    intro call db fault issued kept listed _
    have applied := FreeKept.swept kept listed member issued
    exact ⟨yieldContract_keeps issued.unclaimed kept applied,
      listed.endures (exec_yields applied.2).endures⟩

theorem Backed.credited (backed : Backed tenantId jobId db) {tenantId' : String}
    {jobId' : JobId} {amount : ℚ} (issued : RefundCall tenantId' jobId' amount call)
    (debit : tenantId' = tenantId → jobId' = jobId → DebitOf tenantId jobId amount db)
    : Backed tenantId jobId (db.apply call.query).2
      ∧ (db.apply call.query).2.ledger.find? (ledgerIdFor tenantId (jobKey jobId))
        = db.ledger.find? (ledgerIdFor tenantId (jobKey jobId)) := by
  have grows := db.apply_grows call.query
  have rows := db.apply_job?_eq issued.reads jobId
  have ledger : (db.apply call.query).2.ledger.find? (ledgerIdFor tenantId (jobKey jobId))
      = db.ledger.find? (ledgerIdFor tenantId (jobKey jobId)) := by
    refine db.apply_find?_eq ?_
    intro entry inserted key
    rw [issued.stored inserted] at key
    exact jobKey_ne_refundKey _ _ _ _ key.symm
  refine ⟨⟨?_, Db.apply_entries ?_ ?_, ?_, ?_⟩, ledger⟩
  · intro entry held
    exact backed.debit entry (ledger ▸ held)
  · intro entry held
    obtain ⟨type, debited⟩ := backed.refund entry held
    exact ⟨type, debited.grows grows⟩
  · intro entry inserted key
    obtain rfl := issued.stored inserted
    obtain ⟨rfl, rfl⟩ := refundKey_injective key
    exact ⟨rfl, (debit rfl rfl).grows grows⟩
  · intro row found cancelled marker
    rw [rows] at found
    obtain ⟨marked, text, debited⟩ := backed.marker row found cancelled marker
    exact ⟨marked, text, debited.grows grows⟩
  · intro row found waiting
    rw [rows] at found
    exact backed.text row found waiting

def ListedRefund (tenantId : String) (jobId : JobId) (rows : List JobRow) (db : Db) : Prop :=
  ∀ job ∈ rows,
    job.id = jobId
    → RefundDue tenantId jobId db
      ∧ ∀ amount,
          parseRefundAmount (job.error.getD "") = some amount → DebitOf tenantId jobId amount db

theorem ListedRefund.endures (listed : ListedRefund tenantId jobId rows before)
    (moved : Endures tenantId jobId world before after)
    : ListedRefund tenantId jobId rows after := by
  intro job member own
  obtain ⟨due, amounts⟩ := listed job member own
  exact ⟨moved.honours.2 due, fun amount parsed => (amounts amount parsed).grows moved.honours.1.1⟩

theorem yieldContract_refund {amount : ℚ} (member : job ∈ rows)
    (parsed : parseRefundAmount (job.error.getD "") = some amount)
    : RefundRules service (yieldContract tenantId jobId world kind) job.tenantId job.id amount
        (ListedRefund tenantId jobId rows) where
  composes := yieldContract_composes
  grows moved := moved.honours.1.1
  stable _ _ moved _ listed := listed.endures moved
  calls call db fault issued kept listed _ := by
    obtain ⟨paid, respects⟩ := PaidKept.refundDue (FreeKept.paid kept) issued
      (fun own => (listed job member own).1)
    obtain ⟨backed, ledger⟩ := Backed.credited (FreeKept.backed kept) issued
      (fun _ own => (listed job member own).2 amount parsed)
    have rows := db.apply_job?_eq issued.reads jobId
    have applied : FreeKept tenantId jobId world (db.apply call.query).2 := by
      refine ⟨paid, backed, ?_⟩
      rw [rows]
      exact FreeKept.closed kept
    have yields : Yields tenantId jobId world db (db.apply call.query).2 := by
      refine ⟨respects, ?_, ?_, ?_, ?_⟩
      · intro calm
        obtain ⟨row, found, _⟩ := calm.loose
        exact calm.kept (fun before => before) found (rows.trans found) ledger
          (fun open_ ended => absurd ended open_)
      · rw [ClosedRow, ClosedRow, rows]
        exact fun closed => closed
      · rw [Shut, Shut, rows]
        exact fun shut => shut
      · exact fun row found _ _ open_ => ⟨row, rows.trans found, open_⟩
    exact ⟨yieldContract_keeps issued.unclaimed kept ⟨applied, yields⟩,
      listed.endures (exec_yields yields).endures⟩

theorem FreeKept.cleared (kept : FreeKept tenantId jobId world db)
    (refunded : Refunded job.tenantId job.id db)
    : FreeKept tenantId jobId world (db.apply (.updateExecutionJob (errorUpdate job ""))).2
      ∧ Yields tenantId jobId world db
          (db.apply (.updateExecutionJob (errorUpdate job ""))).2 := by
  obtain ⟨paid, respects⟩ := kept.paid.cleared refunded
  obtain ⟨row, found, _⟩ := kept.paid.owned
  have ledger := db.updated_ledger (errorUpdate job "")
  have stored := Db.job?_updated found (errorUpdate job "")
  have status : (if (errorUpdate job "").selects row then
      (errorUpdate job "").write db.clock row else row).status = row.status := by
    split <;> rfl
  have yields : RowYields row (if (errorUpdate job "").selects row then
      (errorUpdate job "").write db.clock row else row) := by
    split
    · refine ⟨fun closed => closed, fun _ open_ => open_, ?_, fun _ _ => ?_⟩
      · intro marker
        exfalso
        simp only [HasMarker, JobUpdate.write, errorUpdate, Option.some_or, Option.any_some]
          at marker
        revert marker
        decide
      · simp only [JobUpdate.write, errorUpdate, Option.some_or]
        decide
    · exact .refl row
  refine kept.yields paid respects found stored yields (refunded_update db _) (by simp) ?_
  intro calm
  refine calm.kept (respects.loose found stored) found stored (by rw [ledger]) ?_
  intro open_ ended
  exact absurd (status ▸ ended) open_

theorem yieldContract_refundSweep
    : Triple service (yieldContract tenantId jobId world kind) (fun _ => True)
        sweepRefundPendingOnce (fun _ _ => True) (fun _ _ => True) := by
  have stable : ∀ rows, (yieldContract tenantId jobId world kind).Stable
      (ListedRefund tenantId jobId rows) :=
    fun rows _ _ moved _ listed => listed.endures moved
  refine sweepRefundPendingOnce_triple yieldContract_composes stable ?_ ?_
  · intro db fault kept _
    refine ⟨yieldContract_keeps (by simp) kept ⟨kept, .refl db⟩, ?_⟩
    intro job member own
    obtain ⟨found, cancelled⟩ := mem_refundPendingRows member
    obtain ⟨text, written, marker⟩ := marker_of_listed member
    rw [own] at found
    have marked : HasMarker job := by simp [HasMarker, written, marker]
    refine ⟨Or.inr ⟨job, found, cancelled, marked⟩, ?_⟩
    intro amount parsed
    obtain ⟨owed, error, debit⟩ := (FreeKept.backed kept).marker job found cancelled marked
    obtain ⟨entry, held, type, rfl⟩ := debit
    obtain ⟨positive, grid⟩ := (FreeKept.paid kept).charged entry held type
    rw [error, Option.getD_some, parseRefundAmount_refundMarker positive.le grid] at parsed
    cases parsed
    exact ⟨entry, held, type, rfl⟩
  · intro rows row member
    refine ⟨fun amount parsed => yieldContract_refund member parsed, ?_⟩
    intro db fault kept listed refunded _
    have applied := FreeKept.cleared kept refunded
    exact ⟨yieldContract_keeps (by simp) kept applied,
      listed.endures (exec_yields applied.2).endures⟩

theorem yieldContract_body (joins : joinsUnkeyed jobId kind = true)
    (sighted : completesBlindly jobId kind = false)
    : Triple service (yieldContract tenantId jobId world kind) (fun _ => True) (bodyOf kind)
        (fun _ _ => True) (fun _ _ => True) := by
  have idle : (yieldContract tenantId jobId world kind).Stable (fun _ => True) :=
    fun _ _ _ _ _ => trivial
  by_cases bills : ∃ input, kind = .sweepBillingPending input
  · obtain ⟨input, same⟩ := bills
    subst same
    exact Triple.bind yieldContract_composes (fun _ _ => True) yieldContract_billingSweep
      (fun _ => Triple.done idle (fun _ _ _ => trivial))
  · by_cases refunds : kind = .sweepRefundPending
    · subst refunds
      exact Triple.bind yieldContract_composes (fun _ _ => True) yieldContract_refundSweep
        (fun _ => Triple.done idle (fun _ _ _ => trivial))
    · refine Triple.of_issues (bodyOf_issues kind) idle ?_
      intro call db fault issued kept _ may
      have run : joinsRun jobId kind = true := by
        simp only [joinsUnkeyed, Bool.and_eq_true] at joins
        exact joins.1
      exact ⟨yieldContract_keeps (unclaimed_of_joins run issued) kept
        (FreeKept.bystander kept joins sighted refunds
          (fun input same => bills ⟨input, same⟩) issued may), trivial⟩

end Bystanders

-- The executor

section Executor

variable {tenantId : String} {jobId : JobId} {world : WorkerWorld} {db : Db} {call : Call}

def Fresh (jobId : JobId) (db : Db) : Prop :=
  ∃ row, db.job? jobId = some row ∧ row.durationSeconds = some 0

/-- Nobody but the run itself may have to pay back: the job is calm or the DEBIT is its own. -/
def Covered (tenantId : String) (jobId : JobId) (world : WorkerWorld) (db : Db) : Prop :=
  Calm tenantId jobId world db ∨ isOwnDebit tenantId jobId world db = true

theorem isDebited_grows (debited : isDebited tenantId jobId before = true)
    (grows : Db.Grows before after)
    : isDebited tenantId jobId after = true := by
  obtain ⟨entry, found⟩ := Option.isSome_iff_exists.mp debited
  exact Option.isSome_iff_exists.mpr ⟨entry, grows.ledger _ _ found⟩

theorem isOwnDebit_grows (own : isOwnDebit tenantId jobId world before = true)
    (grows : Db.Grows before after)
    : isOwnDebit tenantId jobId world after = true := by
  obtain ⟨entry, found, seconds⟩ := (Option.any_eq_true _ _).mp own
  exact (Option.any_eq_true _ _).mpr ⟨entry, grows.ledger _ _ found, seconds⟩

theorem isDebited_of_own (own : isOwnDebit tenantId jobId world db = true)
    : isDebited tenantId jobId db = true := by
  obtain ⟨entry, found, _⟩ := (Option.any_eq_true _ _).mp own
  exact Option.isSome_iff_exists.mpr ⟨entry, found⟩

theorem Covered.yields (covered : Covered tenantId jobId world before)
    (yields : Yields tenantId jobId world before after)
    : Covered tenantId jobId world after := by
  rcases covered with calm | own
  · exact Or.inl (yields.calm calm)
  · exact Or.inr (isOwnDebit_grows own yields.respects.1)

theorem Fresh.lasts (fresh : Fresh jobId db) (after : Db) : Lasts jobId world db after := by
  intro row found executed worked _
  obtain ⟨other, same, claimed⟩ := fresh
  cases found.symm.trans same
  exact absurd (Option.some.inj (executed.symm.trans claimed)) worked

theorem Unpaid.fresh (unpaid : Unpaid tenantId jobId db) : Fresh jobId db := by
  obtain ⟨_, row, found, _, seconds⟩ := unpaid
  exact ⟨row, found, seconds⟩

theorem endures_of_reads (db : Db) {query : Query} (reads : ¬Db.WritesJobs query)
    : Endures tenantId jobId world db (db.apply query).2 := by
  refine ⟨honours_of_reads db reads, ?_⟩
  intro row found _ _ open_
  exact ⟨row, (db.apply_job?_eq reads jobId).trans found, open_⟩

theorem workerMay_debited (may : workerMay tenantId jobId db call fault = true)
    (debited : isDebited tenantId jobId db = true)
    : writesCancelled jobId db call = false ∧ (fault = .none ∨ call.site ∈ refundSites) := by
  simpa [workerMay, debited] using may

theorem workerMay_faultless (may : workerMay tenantId jobId db call fault = true)
    (debited : isDebited tenantId jobId db = true) (site : call.site ∉ refundSites)
    : fault = .none :=
  (workerMay_debited may debited).2.resolve_right site

/-- What the invariant asks of the row. -/
def RowBacked (tenantId : String) (jobId : JobId) (world : WorkerWorld) (db : Db) (row : JobRow)
    : Prop :=
  (row.status = .cancelled
    → HasMarker row
    → ∃ amount, row.error = some (refundMarker amount) ∧ DebitOf tenantId jobId amount db)
  ∧ (row.status = .billingPending → ParkedText row.error)
  ∧ ClosedWork world row

theorem FreeKept.update (kept : FreeKept tenantId jobId world db) {update : JobUpdate}
    (paid : PaidKept tenantId jobId world (db.apply (.updateExecutionJob update)).2)
    (writes
      : ∀ row,
          db.job? jobId = some row
          → update.selects row = true
          → RowBacked tenantId jobId world db (update.write db.clock row))
    : FreeKept tenantId jobId world (db.apply (.updateExecutionJob update)).2 := by
  have grows := db.apply_grows (.updateExecutionJob update)
  have ledger := db.updated_ledger update
  obtain ⟨row, found, _⟩ := kept.paid.owned
  have stored := Db.job?_updated found update
  have facts : RowBacked tenantId jobId world db
      (if update.selects row then update.write db.clock row else row) := by
    split
    · rename_i selected
      exact writes row found selected
    · exact ⟨kept.backed.marker row found, kept.backed.text row found, kept.closed row found⟩
  refine ⟨paid, ⟨?_, ?_, ?_, ?_⟩, ?_⟩
  · rw [ledger]
    exact kept.backed.debit
  · intro entry held
    rw [ledger] at held
    obtain ⟨type, debit⟩ := kept.backed.refund entry held
    exact ⟨type, debit.grows grows⟩
  · intro later again cancelled marker
    cases stored.symm.trans again
    obtain ⟨amount, text, debit⟩ := facts.1 cancelled marker
    exact ⟨amount, text, debit.grows grows⟩
  · intro later again
    cases stored.symm.trans again
    exact facts.2.1
  · intro later again
    cases stored.symm.trans again
    exact facts.2.2

theorem FreeKept.billing (kept : FreeKept tenantId jobId world db) {planName : String}
    {backend : Option String} {fault : Fault}
    (issued : BillingCall tenantId jobId world.billable planName backend call)
    : FreeKept tenantId jobId world (db.apply call.query).2
      ∧ (Covered tenantId jobId world db
        → Covered tenantId jobId world (service.exec call fault db).2) := by
  obtain ⟨row, found, _⟩ := kept.paid.owned
  have stored := (db.apply_job?_eq issued.reads jobId).trans found
  constructor
  · refine kept.apply (kept.paid.billing issued)
      (respects_of_reads db issued.reads (billing_refunded issued)) found stored (.refl row)
      (billing_refunded issued) ?_
    intro entry inserted key
    obtain ⟨rfl, named, _⟩ := issued.stored inserted
    exact ⟨named, _, _, rfl⟩
  · intro covered
    refine service.exec_holds covered ?_
    rcases covered with calm | own
    · rcases db.apply_find? call.query (ledgerIdFor tenantId (jobKey jobId)) with
        same | ⟨entry, inserted, _, _, held⟩
      · exact Or.inl (calm.kept (fun before => before) found stored same
          (fun open_ ended => absurd ended open_))
      · refine Or.inr ((Option.any_eq_true _ _).mpr ⟨entry, held, ?_⟩)
        rw [(issued.stored inserted).1]
        simp [billingEntry, debitEntry, usageMetadata]
    · exact Or.inr (isOwnDebit_grows own (db.apply_grows _))

/-- The run before it bills. -/
def Beginning (tenantId : String) (jobId : JobId) (world : WorkerWorld) (db : Db) : Prop :=
  Unpaid tenantId jobId db ∧ Calm tenantId jobId world db

def Billing (tenantId : String) (jobId : JobId) (world : WorkerWorld) (db : Db) : Prop :=
  Unpaid tenantId jobId db ∧ Covered tenantId jobId world db

/-- Billing by the executor fails only while there is no DEBIT. -/
theorem freeContract_finalize
    : FinalizeRules service (freeContract tenantId jobId world) tenantId jobId world.billable
        world.plan backend (Beginning tenantId jobId world) (Billing tenantId jobId world)
        (Beginning tenantId jobId world) (Beginning tenantId jobId world) where
  composes := freeContract_composes
  grows moved := moved.respects.1
  stableBefore _ _ moved _ idle := ⟨idle.1.respects moved.respects, moved.calm idle.2⟩
  stableOpen _ _ moved _ billing := ⟨billing.1.respects moved.respects, billing.2.yields moved⟩
  stableSkip _ _ moved _ idle := ⟨idle.1.respects moved.respects, moved.calm idle.2⟩
  stableFails _ _ moved _ idle := ⟨idle.1.respects moved.respects, moved.calm idle.2⟩
  reads db fault kept _ _ :=
    freeContract_keeps (by simp) kept kept (endures_of_reads db (fun writes => writes))
  calls call db fault issued kept billing _ _ := by
    obtain ⟨applied, covered⟩ := @FreeKept.billing _ _ _ _ _ kept _ _ fault issued
    exact ⟨freeContract_keeps issued.unclaimed kept applied (endures_of_reads db issued.reads),
      billing.1.respects
        (exec_respects (respects_of_reads db issued.reads (billing_refunded issued))),
      covered billing.2⟩
  opens _ _ _ idle _ _ _ := ⟨idle.1, Or.inl idle.2⟩
  skips _ _ idle _ := idle
  free db kept billing costless := by
    refine ⟨billing.1, billing.2.resolve_right ?_⟩
    intro own
    obtain ⟨named, _⟩ := (FreeKept.backed kept).ownEntry own
    obtain ⟨debit, held, type, amount⟩ := (FreeKept.backed kept).ownDebit own
    have positive := ((FreeKept.paid kept).charged debit held type).1
    rw [totalCost_billable] at costless
    rcases costless with unnamed | free
    · exact named unnamed
    · exact absurd (amount ▸ positive) (not_lt.mpr free)
  readFails _ _ _ idle _ _ := idle
  callFails call db fault issued other kept billing _ may faulty := by
    have calm : Calm tenantId jobId world db := by
      refine billing.2.resolve_right ?_
      intro own
      exact faulty (workerMay_faultless may (isDebited_of_own own)
        (by cases issued <;> simp [refundSites]))
    have covered := (@FreeKept.billing _ _ _ _ _ kept _ _ fault issued).2 (Or.inl calm)
    refine ⟨billing.1.respects
      (exec_respects (respects_of_reads db issued.reads (billing_refunded issued))), ?_⟩
    rcases covered with still | own
    · exact still
    · have untouched : isOwnDebit tenantId jobId world (db.apply call.query).2 = false := by
        rw [isOwnDebit, db.apply_find?_eq]
        · exact calm.foreign
        · intro entry inserted _
          cases issued with
          | debit => exact other rfl
          | _ => simp at inserted
      rcases service.exec_store call fault db with same | effect
      · rw [same, calm.foreign] at own
        cases own
      · have owned : isOwnDebit tenantId jobId world (db.apply call.query).2 = true :=
          effect ▸ own
        rw [untouched] at owned
        cases owned
  absent db kept billing missing := by
    refine ⟨billing.1, billing.2.resolve_right ?_⟩
    intro own
    obtain ⟨_, planName, found⟩ := (FreeKept.backed kept).ownEntry own
    simp [found, billingEntry, debitEntry] at missing

theorem freeContract_refund
    : RefundRules service (freeContract tenantId jobId world) tenantId jobId world.costUsd
        (fun db => Dropped jobId world db ∧ isOwnDebit tenantId jobId world db = true) where
  composes := freeContract_composes
  grows moved := moved.respects.1
  stable _ _ moved _ known :=
    ⟨known.1.respects moved.respects, isOwnDebit_grows known.2 moved.respects.1⟩
  calls call db fault issued kept known _ := by
    obtain ⟨dropped, own⟩ := known
    have grown : isOwnDebit tenantId jobId world (service.exec call fault db).2 = true :=
      isOwnDebit_grows own (exec_grows db call fault)
    have stays : Dropped jobId world (service.exec call fault db).2 :=
      Dropped.refund dropped issued
    obtain ⟨row, found, cancelled, _⟩ := dropped
    obtain ⟨backed, _⟩ := Backed.credited (FreeKept.backed kept) issued
      (fun _ _ => (FreeKept.backed kept).ownDebit own)
    have applied : FreeKept tenantId jobId world (db.apply call.query).2 := by
      refine ⟨(FreeKept.paid kept).refundCancelled issued found cancelled, backed, ?_⟩
      rw [db.apply_job?_eq issued.reads]
      exact FreeKept.closed kept
    exact ⟨freeContract_keeps issued.unclaimed kept applied (endures_of_reads db issued.reads),
      stays, grown⟩

theorem blocked_of_spared {status : String} (found : db.job? jobId = some row)
    (owner : row.tenantId = tenantId)
    (spared : (finalUpdate jobId tenantId world status billingStatus).selects row = false)
    : row.status ∈ cancelBlockedStatuses := by
  have blocked : finalWriteBlockedStatuses = cancelBlockedStatuses := rfl
  simpa [JobUpdate.selects, finalUpdate, Db.job?_id found, owner, blocked] using spared

theorem FreeKept.final (kept : FreeKept tenantId jobId world db) {status : String}
    (ended : status = "timeout" ∨ status ∈ pollEnds)
    : FreeKept tenantId jobId world
        (db.apply (.updateExecutionJob (finalUpdate jobId tenantId world status billingStatus))).2
    := by
  refine kept.update (kept.paid.final status billingStatus).1 ?_
  intro row _ _
  refine ⟨?_, parkedText_final ended, fun _ _ => finalStatus_closed ended⟩
  intro _ marker
  simp [HasMarker, JobUpdate.write, finalUpdate, isRefundMarker_finalError] at marker

theorem FreeKept.closing_squared (kept : FreeKept tenantId jobId world db) {update : JobUpdate}
    {status : JobStatus} {site : Site} (given : update.status = some status)
    (closing : status ∈ cancelBlockedStatuses)
    (state
      : Calm tenantId jobId world db
        ∨ ∃ row, db.job? jobId = some row ∧ update.selects row = true)
    (cancels
      : isDebited tenantId jobId db = true
        → writesCancelled jobId db ⟨site, .updateExecutionJob update⟩ = false)
    : Squared tenantId jobId world (db.apply (.updateExecutionJob update)).2 := by
  have ledger := db.updated_ledger update
  obtain ⟨row, found, _⟩ := kept.paid.owned
  have stored := Db.job?_updated found update
  by_cases selected : update.selects row = true
  · rw [if_pos selected] at stored
    have written : (update.write db.clock row).status = status := by
      simp [JobUpdate.write, given]
    by_cases cancelled : status = .cancelled
    · have undebited : isDebited tenantId jobId db = false := by
        rw [Bool.eq_false_iff]
        intro debited
        have unwritten := cancels debited
        simp only [writesCancelled, found, Option.any_some, selected, Bool.and_true,
          decide_eq_false_iff_not] at unwritten
        exact unwritten (given.trans (congrArg some cancelled))
      refine Or.inl ⟨⟨_, stored, Or.inr (written.trans cancelled)⟩, ?_, ?_⟩
      · intro exposed
        have debited := exposed.1
        rw [isDebited, ledger, ← isDebited, undebited] at debited
        cases debited
      · rw [isOwnDebit, ledger]
        have missing : db.ledger.find? (ledgerIdFor tenantId (jobKey jobId)) = none := by
          simpa [isDebited] using undebited
        rw [missing]
        rfl
    · exact Or.inr (Or.inl ⟨_, stored, written ▸ closing, written ▸ cancelled⟩)
  · rw [if_neg selected] at stored
    rcases state with calm | ⟨other, same, hit⟩
    · exact Or.inl (calm.kept (fun before => before) found stored (by rw [ledger])
        (fun open_ ended => absurd ended open_))
    · cases found.symm.trans same
      exact absurd hit selected

/-- The run once its final write missed the job. -/
structure MissedRun (tenantId : String) (jobId : JobId) (world : WorkerWorld) (db : Db)
    : Prop where
  unexecuted : Unexecuted jobId world db
  closed : ClosedRow jobId db
  debited : isDebited tenantId jobId db = true
  covered : Covered tenantId jobId world db

theorem billed_cases (kept : FreeKept tenantId jobId world db)
    (billed
      : BilledPost tenantId jobId world backend (Billing tenantId jobId world)
          (Beginning tenantId jobId world) (Beginning tenantId jobId world) billingStatus db)
    : Unpaid tenantId jobId db
      ∧ (Calm tenantId jobId world db
        ∨ (billingStatus = .ok ∧ isOwnDebit tenantId jobId world db = true)) := by
  rcases billed with post | ⟨_, failed⟩
  · cases billingStatus with
    | ok =>
        refine ⟨post.1.1, ?_⟩
        rcases post.1.2 with calm | own
        · exact Or.inl calm
        · exact Or.inr ⟨rfl, own⟩
    | noFunds => exact ⟨post.1.1, Or.inl post.2.2⟩
    | mismatch =>
        refine ⟨post.1.1, Or.inl (post.1.2.resolve_right ?_)⟩
        intro own
        obtain ⟨_, planName, found⟩ := kept.backed.ownEntry own
        obtain ⟨other, same, differs⟩ := post.2
        cases found.symm.trans same
        simp [idemMatches, billingEntry, debitEntry, usageMetadata] at differs
    | skip => exact ⟨post.1, Or.inl post.2⟩
    | pgError => exact post.elim
    | error => exact post.elim
  · exact ⟨failed.1, Or.inl failed.2⟩

theorem Calm.fresh_update (calm : Calm tenantId jobId world db) (fresh : Fresh jobId db)
    {update : JobUpdate} {site : Site} {status : JobStatus} (given : update.status = some status)
    (open_ : status ≠ .cancelled) (seconds : update.durationSeconds = none)
    : Calm tenantId jobId world (service.exec ⟨site, .updateExecutionJob update⟩ fault db).2
      ∧ Fresh jobId (service.exec ⟨site, .updateExecutionJob update⟩ fault db).2 := by
  obtain ⟨row, found, claimed⟩ := fresh
  have stored := Db.job?_updated found update
  have stays : (if update.selects row then update.write db.clock row else row).durationSeconds
      = some 0 := by
    split
    · simpa [JobUpdate.write, seconds] using claimed
    · exact claimed
  refine ⟨service.exec_holds calm (calm.kept (fun _ => Or.inl stays) found stored
    (by rw [db.updated_ledger]) ?_),
    service.exec_holds ⟨row, found, claimed⟩ ⟨_, stored, stays⟩⟩
  intro other ended
  split at ended
  · exact absurd (by simpa [JobUpdate.write, given] using ended) open_
  · exact absurd ended other

/-- The `running` write and a refused dispatch keep the invariant. -/
theorem FreeKept.fresh_update (kept : FreeKept tenantId jobId world db) (fresh : Fresh jobId db)
    {update : JobUpdate} {status : JobStatus}
    (paid : PaidKept tenantId jobId world (db.apply (.updateExecutionJob update)).2)
    (given : update.status = some status)
    (open_ : status ∉ [JobStatus.cancelled, .billingPending])
    (seconds : update.durationSeconds = none)
    : FreeKept tenantId jobId world (db.apply (.updateExecutionJob update)).2 := by
  refine kept.update paid ?_
  intro row found _
  obtain ⟨other, same, claimed⟩ := fresh
  cases found.symm.trans same
  have written : (update.write db.clock row).status = status := by
    simp [JobUpdate.write, given]
  simp only [List.mem_cons, List.not_mem_nil, or_false, not_or] at open_
  rw [RowBacked, written]
  refine ⟨fun cancelled => absurd cancelled open_.1, fun waiting => absurd waiting open_.2, ?_⟩
  intro executed worked
  have idle : (update.write db.clock row).durationSeconds = some 0 := by
    simpa [JobUpdate.write, seconds] using claimed
  exact absurd (Option.some.inj (executed.symm.trans idle)) worked

theorem FreeKept.drained (kept : FreeKept tenantId jobId world db)
    (squared : Squared tenantId jobId world db)
    (cancels
      : isDebited tenantId jobId db = true
        → writesCancelled jobId db
            ⟨.workerDrain, .updateExecutionJob (drainUpdate jobId tenantId world)⟩
          = false)
    : FreeKept tenantId jobId world
        (db.apply (.updateExecutionJob (drainUpdate jobId tenantId world))).2
      ∧ Endures tenantId jobId world db
          (db.apply (.updateExecutionJob (drainUpdate jobId tenantId world))).2
      ∧ Squared tenantId jobId world
          (db.apply (.updateExecutionJob (drainUpdate jobId tenantId world))).2 := by
  obtain ⟨paid, honours⟩ := kept.paid.drained
  obtain ⟨row, found, _⟩ := kept.paid.owned
  have stored := Db.job?_updated found (drainUpdate jobId tenantId world)
  have spares : row.status ∈ cancelBlockedStatuses
      → (drainUpdate jobId tenantId world).selects row ≠ true :=
    fun blocked selected => Db.selects_status selected blocked
  refine ⟨kept.update paid ?_, ⟨honours, ?_⟩, ?_⟩
  · intro other _ _
    refine ⟨fun _ marker => absurd marker (unmarked_drain other),
      (fun waiting => by cases waiting), fun _ _ => ?_⟩
    simp [JobUpdate.write, drainUpdate, cancelBlockedStatuses]
  · intro other same executed worked open_
    cases found.symm.trans same
    rw [if_neg (spares (kept.closed row found executed worked))] at stored
    exact ⟨row, stored, open_⟩
  · rcases squared with calm | ⟨other, same, closed, open_⟩ | due
    · exact kept.closing_squared rfl (by simp [cancelBlockedStatuses]) (Or.inl calm) cancels
    · cases found.symm.trans same
      rw [if_neg (spares closed)] at stored
      exact Or.inr (Or.inl ⟨row, stored, closed, open_⟩)
    · exact Or.inr (Or.inr (honours.2 due))

theorem FreeKept.marked (kept : FreeKept tenantId jobId world db)
    (dropped : Dropped jobId world db) (own : isOwnDebit tenantId jobId world db = true)
    : FreeKept tenantId jobId world
        (db.apply (.updateExecutionJob (markerUpdate jobId tenantId world.costUsd))).2
      ∧ Endures tenantId jobId world db
          (db.apply (.updateExecutionJob (markerUpdate jobId tenantId world.costUsd))).2
      ∧ RefundDue tenantId jobId
          (db.apply (.updateExecutionJob (markerUpdate jobId tenantId world.costUsd))).2 := by
  obtain ⟨paid, honours⟩ := kept.paid.marked dropped
  obtain ⟨row, found, cancelled, open_⟩ := dropped
  obtain ⟨other, same, owner⟩ := kept.paid.owned
  cases found.symm.trans same
  have selected : (markerUpdate jobId tenantId world.costUsd).selects row = true := by
    simp [JobUpdate.selects, markerUpdate, Db.job?_id found, owner]
  refine ⟨kept.update paid ?_, ⟨honours, ?_⟩, ?_⟩
  · intro again found' _
    cases found.symm.trans found'
    refine ⟨fun _ _ => ⟨world.costUsd, rfl, kept.backed.ownDebit own⟩, ?_,
      fun executed => absurd executed open_⟩
    intro waiting
    rw [show ((markerUpdate jobId tenantId world.costUsd).write db.clock row).status = _ from
      cancelled] at waiting
    cases waiting
  · intro again found' executed
    cases found.symm.trans found'
    exact absurd executed open_
  · refine Or.inr ⟨(markerUpdate jobId tenantId world.costUsd).write db.clock row,
      (Db.job?_updated found _).trans (by rw [if_pos selected]), cancelled, ?_⟩
    simp [HasMarker, JobUpdate.write, markerUpdate, isRefundMarker_refundMarker]

theorem freeContract_worker (uninterrupted : Uninterrupted world)
    : WorkerRules service (freeContract tenantId jobId world) jobId tenantId world
        (Beginning tenantId jobId world)
        (fun db =>
          ¬RefundDue tenantId jobId db ∧ Fresh jobId db ∧ Calm tenantId jobId world db)
        (Billing tenantId jobId world) (Beginning tenantId jobId world)
        (Beginning tenantId jobId world) (MissedRun tenantId jobId world)
        (fun db => Dropped jobId world db ∧ isOwnDebit tenantId jobId world db = true)
        (Squared tenantId jobId world) where
  billing _ := freeContract_finalize
  refund := freeContract_refund
  stableRefused before after moved _ known := by
    obtain ⟨undue, ⟨row, found, claimed⟩, calm⟩ := known
    obtain ⟨later, stored, seconds, _⟩ := moved.respects.2.2 row found
    exact ⟨fun due => undue (moved.respects.2.1.mpr due), ⟨later, stored, seconds.trans claimed⟩,
      moved.calm calm⟩
  stableMissed _ _ moved _ missed :=
    ⟨missed.unexecuted.respects moved.respects, moved.closed missed.closed,
      isDebited_grows missed.debited moved.respects.1, missed.covered.yields moved⟩
  stableSettled _ _ moved _ squared := squared.yields moved
  refused _ _ idle := ⟨idle.1.not_due, idle.1.fresh, idle.2⟩
  settled _ _ known := Or.inl known.2.2
  running update db fault _ status error columns kept idle _ := by
    obtain ⟨paid, unpaid⟩ := @Unpaid.running _ _ _ _ idle.1 (FreeKept.paid kept) _ .workerRunning
      fault status error columns.2
    have fresh := idle.1.fresh
    exact ⟨freeContract_keeps (by simp) kept
      (FreeKept.fresh_update kept fresh paid status (by decide) columns.2)
      ⟨⟨retires_of_update db (Or.inl columns.2), fun due => absurd due idle.1.not_due⟩,
        fresh.lasts _⟩,
      unpaid, (idle.2.fresh_update fresh status (by decide) columns.2).1⟩
  refuses site update db fault _ _ status _ columns kept known _ := by
    obtain ⟨undue, fresh, calm⟩ := known
    have paid := (FreeKept.paid kept).refused undue status
    obtain ⟨stays, still⟩ := calm.fresh_update fresh status (by decide) columns.2
    exact ⟨freeContract_keeps (by simp) kept
      (FreeKept.fresh_update kept fresh paid status (by decide) columns.2)
      ⟨⟨retires_of_update db (Or.inl columns.2), fun due => absurd due undue⟩, fresh.lasts _⟩,
      not_due_of_failed (FreeKept.paid kept) undue status, still, stays⟩
  finals status billingStatus backend db fault polled kept billed may := by
    obtain ⟨backendName, polled⟩ := polled
    have ended := pollLoop_ends polled
    obtain ⟨unpaid, state⟩ := billed_cases kept billed
    have cancels : isDebited tenantId jobId db = true → writesCancelled jobId db
        ⟨.workerFinal, .updateExecutionJob (finalUpdate jobId tenantId world status billingStatus)⟩
        = false :=
      fun debited => (workerMay_debited may debited).1
    have honours := ((FreeKept.paid kept).final status billingStatus).2
    refine ⟨freeContract_keeps (by simp) kept (FreeKept.final kept ended)
      ⟨honours, unpaid.fresh.lasts _⟩, ?_⟩
    obtain ⟨row, found, owner⟩ := (FreeKept.paid kept).owned
    have ledger := db.updated_ledger (finalUpdate jobId tenantId world status billingStatus)
    split
    · rename_i missed
      obtain ⟨rfl, rfl, none⟩ := missed
      have post := billed.resolve_right (by simp)
      have spared := (Db.updateJob_eq_zero (by simp [JobUpdate.isEmpty, finalUpdate])).mp none row
        found
      have stored : (db.apply (.updateExecutionJob
          (finalUpdate jobId tenantId world status .ok))).2.job? jobId = some row := by
        rw [Db.job?_updated found, if_neg (by simp [spared])]
      refine ⟨(FreeKept.paid kept).missed_final post.1.1 post.2.1 none,
        ⟨row, stored, blocked_of_spared found owner spared⟩, ?_, ?_⟩
      · obtain ⟨entry, held, _⟩ := post.2.1
        refine isDebited_grows ?_ (db.apply_grows _)
        simp [isDebited, held]
      · rcases post.1.2 with calm | own
        · exact Or.inl (calm.kept (fun before => before) found stored (by rw [ledger])
            (fun open_ ended => absurd ended open_))
        · exact Or.inr (isOwnDebit_grows own (db.apply_grows _))
    · rename_i other
      rcases state with calm | ⟨rfl, own⟩
      · exact service.exec_holds (Or.inl calm)
          (FreeKept.closing_squared kept rfl (finalStatus_closed ended) (Or.inl calm) cancels)
      · obtain rfl := workerMay_faultless may (isDebited_of_own own) (by simp [refundSites])
        have selected : (finalUpdate jobId tenantId world status .ok).selects row = true := by
          by_contra missed
          refine other ⟨rfl, rfl, (Db.updateJob_eq_zero
            (by simp [JobUpdate.isEmpty, finalUpdate])).mpr ?_⟩
          intro again found'
          cases found.symm.trans found'
          simpa using missed
        exact FreeKept.closing_squared kept rfl (finalStatus_closed ended)
          (Or.inr ⟨row, found, selected⟩) cancels
  rereads db fault kept missed may := by
    refine ⟨freeContract_keeps (by simp) kept kept
      (endures_of_reads db (fun writes => writes)), ?_⟩
    exact fun faulty =>
      absurd (workerMay_faultless may missed.debited (by simp [refundSites])) faulty
  cancelled db row _ missed found _ cancelled := by
    obtain ⟨other, same, open_⟩ := missed.unexecuted
    cases found.symm.trans same
    refine ⟨⟨row, found, cancelled, open_⟩, missed.covered.resolve_left ?_⟩
    exact fun calm => calm.unexposed ⟨missed.debited, row, found, cancelled⟩
  closed db kept missed other := by
    obtain ⟨row, found, closed⟩ := missed.closed
    obtain ⟨owned, same, owner⟩ := (FreeKept.paid kept).owned
    cases found.symm.trans same
    exact Or.inr (Or.inl ⟨row, found, closed, fun cancelled =>
      other row found ⟨owner, cancelled⟩⟩)
  refunded _ _ _ refunded := Or.inr (Or.inr (Or.inl refunded))
  interrupted attempt exn _ slept killed _ _ := by
    rw [uninterrupted attempt exn slept] at killed
    cases killed
  marks db fault kept known may := by
    obtain ⟨applied, endures, due⟩ := FreeKept.marked kept known.1 known.2
    refine ⟨freeContract_keeps (by simp) kept applied endures, ?_⟩
    obtain rfl := workerMay_faultless may (isDebited_of_own known.2) (by simp [refundSites])
    exact Or.inr (Or.inr due)
  drains db fault kept squared may := by
    obtain ⟨applied, endures, after⟩ := FreeKept.drained kept squared
      (fun debited => (workerMay_debited may debited).1)
    exact ⟨freeContract_keeps (by simp) kept applied endures, service.exec_holds squared after⟩

end Executor

-- Every run

section Runs

variable {tenantId : String} {jobId : JobId} {world : WorkerWorld}

theorem freeRun
    : OneRun (freeContract tenantId jobId world) (yieldContract tenantId jobId world)
        (FreeKept tenantId jobId world) where
  executorComposes := freeContract_composes
  bystanderComposes _ := yieldContract_composes
  executorInv := rfl
  bystanderInv _ := rfl
  executorTolerates moved := moved
  bystanderTolerates moved := moved
  bystandersTolerate moved := Yields.endures moved
  executorStarts _ admitted := admitted
  bystanderStarts _ _ admitted := admitted

theorem freeKept_of_claimed {db : Db} (claimed : Claimed tenantId jobId db)
    : FreeKept tenantId jobId world db ∧ Beginning tenantId jobId world db := by
  obtain ⟨paid, unpaid⟩ := @paidKept_of_claimed tenantId jobId world db claimed
  obtain ⟨row, found, tenant, status, seconds, error⟩ := claimed.row
  have undebited : isDebited tenantId jobId db = false := by
    simp [isDebited, claimed.undebited]
  refine ⟨⟨paid, ⟨?_, ?_, ?_, ?_⟩, ?_⟩, unpaid, ⟨row, found, Or.inl seconds⟩, ?_, ?_⟩
  · intro entry stored
    rw [claimed.undebited] at stored
    cases stored
  · intro entry stored
    rw [claimed.unrefunded] at stored
    cases stored
  · intro other same cancelled
    cases found.symm.trans same
    rw [status] at cancelled
    cases cancelled
  · intro other same waiting
    cases found.symm.trans same
    rw [status] at waiting
    cases waiting
  · intro other same executed worked
    cases found.symm.trans same
    exact absurd (Option.some.inj (executed.symm.trans seconds)) worked
  · intro exposed
    have debited := exposed.1
    rw [undebited] at debited
    cases debited
  · simp [isOwnDebit, claimed.undebited]

/-- In every run of a claimed job beside any number of cancels, `POST /complete` and sweeps that
meets the conditions, once no call is left, a cancelled job costs nothing: it was never debited,
or it was refunded in full, or a marker names the debited amount.
-/
theorem cancelled_job_costs_nothing {db : Db} {config : Config bridge Db Kind Answer}
    (uninterrupted : Uninterrupted world) (claimed : Claimed tenantId jobId db)
    (reached
      : service.Reaches
          (fun config label =>
            staysAlive jobId config label = true
            ∧ ExposesNothing tenantId jobId world config label)
          (claimedBy db jobId tenantId world) config)
    (quiescent : config.Quiescent)
    : CostsNothing tenantId jobId config.store := by
  obtain ⟨initial, begins⟩ := @freeKept_of_claimed tenantId jobId world db claimed
  have executes : Triple service (freeContract tenantId jobId world)
      (Beginning tenantId jobId world) (bodyOf (.executeAndBill jobId tenantId world))
      (fun _ => Squared tenantId jobId world) (fun _ => Squared tenantId jobId world) :=
    Triple.bind freeContract_composes (fun _ => Squared tenantId jobId world)
      (executeAndBill_triple (freeContract_worker uninterrupted))
      (fun _ => Triple.done (fun _ _ moved _ squared => squared.yields moved)
        (fun _ _ squared => squared))
  obtain ⟨kept, settled⟩ := freeRun.settled_of_reaches reached initial begins executes
    (by
      intro _ kind allowed
      have joins := allowed.1
      simp only [staysAlive, Bool.and_eq_true, Bool.not_eq_eq_eq_not, Bool.not_true] at joins
      have run := joins.1
      simp only [joinsUnkeyed, Bool.and_eq_true] at run
      exact ⟨run.1, yieldContract_body joins.1 joins.2⟩)
    (fun config label kind call fault allowed executing => allowed.2.executed executing)
    (by
      intro config index thread allowed found executor
      have alive := allowed.1
      simp [staysAlive, found, executor] at alive)
  exact kept.costsNothing (settled quiescent)

end Runs

/-- Witness: a billed job is cancelled, its refund fails three times, and the marker names the
debited amount.
-/
theorem cancelled_job_costs_nothing_marked
    : ∃ config row,
        service.Reaches
            (fun config label =>
              staysAlive jobA config label = true
              ∧ ExposesNothing "t" jobA (quickRun 10 "completed") config label)
            (claimedBy claimedDb jobA "t" (quickRun 10 "completed")) config
        ∧ config.Quiescent
        ∧ config.store.job? jobA = some row
        ∧ row.status = .cancelled
        ∧ isDebited "t" jobA config.store = true
        ∧ CostsNothing "t" jobA config.store := by
  have ran
      : (service.run
          (fun config label =>
            staysAlive jobA config label
            && decide (ExposesNothing "t" jobA (quickRun 10 "completed") config label))
          (claimedBy claimedDb jobA "t" (quickRun 10 "completed"))
          [.exec 0 .none, .exec 0 .none, .exec 0 .none, .exec 0 .none,
            .arrive (.cancelJob { tenant := .ok "t" } jobA), .exec 1 .none, .exec 1 .none,
            .exec 0 .none, .exec 0 .none, .exec 0 (.before "down"), .exec 0 (.before "down"),
            .exec 0 (.before "down"), .exec 0 .none]).any
          (fun config =>
            decide config.Quiescent
            && (config.store.job? jobA).any (fun row => row.status == .cancelled)
            && isDebited "t" jobA config.store)
        = true := by
    decide +kernel
  obtain ⟨config, reached, passed⟩ :=
    Machine.Reaches.of_check (fun _ _ both => by simpa using both) _ ran
  simp only [Bool.and_eq_true, decide_eq_true_eq] at passed
  obtain ⟨⟨quiescent, shown⟩, debited⟩ := passed
  obtain ⟨row, found, cancelled⟩ := (Option.any_eq_true _ _).mp shown
  have uninterrupted : Uninterrupted (quickRun 10 "completed") := by
    intro attempt exn slept
    cases slept
  exact ⟨config, row, reached, quiescent, found, beq_iff_eq.mp cancelled, debited,
    cancelled_job_costs_nothing uninterrupted claimedDb_claimed reached quiescent⟩

/-- The DEBIT commits, recording the usage fails, and the job is cancelled before the final
write: nobody pays back.
-/
theorem cancelled_job_charged
    : ∃ config,
        service.Reaches (fun config label => staysAlive jobA config label = true)
            (claimedBy claimedDb jobA "t" (quickRun 10 "completed")) config
        ∧ config.Quiescent
        ∧ ¬CostsNothing "t" jobA config.store := by
  have ran
      : (service.run (fun config label => staysAlive jobA config label)
          (claimedBy claimedDb jobA "t" (quickRun 10 "completed"))
          [.exec 0 .none, .exec 0 .none, .exec 0 .none, .exec 0 (.before "down"),
            .arrive (.cancelJob { tenant := .ok "t" } jobA), .exec 1 .none, .exec 1 .none,
            .exec 0 .none]).any
          (fun config =>
            decide config.Quiescent
            && (config.store.job? jobA).any (fun row =>
              row.status == .cancelled && row.error.isNone)
            && decide (jobNet config.store "t" jobA ≠ 0))
        = true := by
    decide +kernel
  obtain ⟨config, reached, passed⟩ :=
    Machine.Reaches.of_check (fun _ _ permitted => permitted) _ ran
  simp only [Bool.and_eq_true, decide_eq_true_eq] at passed
  obtain ⟨⟨quiescent, shown⟩, charged⟩ := passed
  obtain ⟨row, found, facts⟩ := (Option.any_eq_true _ _).mp shown
  simp only [Bool.and_eq_true, beq_iff_eq, Option.isNone_iff_eq_none] at facts
  refine ⟨config, reached, quiescent, ?_⟩
  intro free
  rcases free row found facts.1 with ⟨net, _⟩ | ⟨amount, text, _⟩
  · exact charged net
  · rw [facts.2] at text
    cases text

end RomaBridge.Properties
