import RomaBridge.Behaviour.BillingSweep

/-! One run of `execute_and_bill` among everything else the service does.
The run is the only executor of its job. Every other thread is a bystander of the job's row:
it cancels, completes, sweeps or reads it, and bills it from an endpoint.
-/

namespace RomaBridge.Model

open RomaBridge.Foundation Program

-- Who may join

/-- Threads that may join a run of the job: all but a second executor, a retry, and the other
acknowledgements of the same job. Claims are left out because their executors may arrive by
themselves.
-/
def joinsRun (jobId : JobId) : Kind → Bool
  | .executeAndBill other _ _ => other ≠ jobId
  | .retryJob _ other => other ≠ jobId
  | .workerAck _ _ action _ other => other ≠ jobId || action = .complete
  | .claimTick _ _ _ => false
  | _ => true

def arrivesBeside (jobId : JobId) : Label Kind → Bool
  | .arrive kind => joinsRun jobId kind
  | _ => true

def isCompletion : Kind → Bool
  | .completeJob _ _ => true
  | .completeJobV1 _ _ => true
  | .workerAck _ _ _ _ _ => true
  | _ => false

def isCancel : Kind → Bool
  | .cancelJob _ _ => true
  | .cancelJobV1 _ _ => true
  | _ => false

def isOrphanSweep : Kind → Bool
  | .sweepOrphans _ => true
  | _ => false

def completionSites : List Site := [.completeWrite, .jobsCompleteWrite, .ackWrite]

/-- Threads that neither close the job nor bill it: no cancel, no completion, no orphan sweep
and no top-up under a key of its own choice.
-/
def joinsQuietly (jobId : JobId) (kind : Kind) : Bool :=
  joinsRun jobId kind && !isCompletion kind && !isCancel kind && !isOrphanSweep kind
  && match kind with
    | .topUp _ _ idempotencyKey _ _ => idempotencyKey.isNone
    | _ => true

def arrivesQuietly (jobId : JobId) : Label Kind → Bool
  | .arrive kind => joinsQuietly jobId kind
  | _ => true

def claimedBy (db : Db) (jobId : JobId) (tenantId : String) (world : WorkerWorld)
    : Config bridge Db Kind Answer where
  store := db
  threads := [service.start (.executeAndBill jobId tenantId world)]

def isExecutorOf (jobId : JobId) : Kind → Bool
  | .executeAndBill other _ _ => other = jobId
  | _ => false

theorem isExecutorOf_of_joins {jobId : JobId} {kind : Kind} (joins : joinsRun jobId kind = true)
    : isExecutorOf jobId kind = false := by
  cases kind with
  | executeAndBill other tenantId world => exact decide_eq_false (of_decide_eq_true joins)
  | _ => rfl

def oneExecutes (jobId : JobId) (left right : Kind) : Prop :=
  ¬(isExecutorOf jobId left = true ∧ isExecutorOf jobId right = true)

/-- The job was claimed and nothing was written or billed since. -/
structure Claimed (tenantId : String) (jobId : JobId) (db : Db) : Prop where
  row
    : ∃ row,
        db.job? jobId = some row
        ∧ row.tenantId = tenantId
        ∧ row.status = .running
        ∧ row.durationSeconds = some 0
        ∧ row.error = none
  undebited : db.ledger.find? (ledgerIdFor tenantId (jobKey jobId)) = none
  unrefunded : db.ledger.find? (ledgerIdFor tenantId (refundKey jobId)) = none

def claimedDb : Db :=
  let paid := (Db.empty.insertEntry (creditEntry (.fresh "n") "t" 1 "USD" {})).2
  ((paid.insertJob (paid.newJob jobA "t" .queued false)).2.claim 5 []).2

theorem claimedDb_claimed : Claimed "t" jobA claimedDb where
  row := ⟨_, rfl, rfl, rfl, rfl, rfl⟩
  undebited := by decide
  unrefunded := by decide

-- What bystanders do to the row

/-- What a bystander that is no billing sweep does to the row of the job. -/
inductive Bystands (db : Db) (row : JobRow) (kind : Kind) (call : Call) : JobRow → Prop
  | same : Bystands db row kind call row
  | cancel {jobId tenantId now} (asked : isCancel kind = true)
    (cancellable : row.status ∉ cancelBlockedStatuses)
    (issued : call.query = .updateExecutionJob (cancelUpdate jobId tenantId now))
    (selected : (cancelUpdate jobId tenantId now).selects row = true)
    : Bystands db row kind call ((cancelUpdate jobId tenantId now).write db.clock row)
  | complete {update : JobUpdate} (issued : call.query = .updateExecutionJob update)
    (asked : isCompletion kind = true) (sited : call.site ∈ completionSites)
    (selected : update.selects row = true)
    (status : update.status = some .completed)
    (columns : update.costUsd = none ∧ update.durationSeconds = none ∧ update.error = none)
    (guarded : call.site = .completeWrite → row.status ≠ .cancelled)
    : Bystands db row kind call (update.write db.clock row)
  | text {update : JobUpdate} (status : update.status = none)
    (columns : update.costUsd = none ∧ update.durationSeconds = none)
    (texts : update.error = none ∨ update.error = some "" ∧ kind = .sweepRefundPending)
    : Bystands db row kind call (update.write db.clock row)
  | orphan (asked : isOrphanSweep kind = true) (running : row.status = .running)
    : Bystands db row kind call (orphanRow db.clock row)

def isBystander (jobId : JobId) (kind : Kind) : Prop :=
  joinsRun jobId kind = true ∧ ∀ input, kind ≠ .sweepBillingPending input

section Bystanders

variable {jobId : JobId} {kind : Kind} {call : Call} {db : Db}

theorem started_nil {outcome : Except Exn call.query.Reply}
    (unclaimed
      : ∀ limit locked world, call.query ≠ .claimQueuedExecutionJobs limit locked world)
    : service.started call outcome = [] := by
  obtain ⟨site, query⟩ := call
  cases outcome with
  | error exn => rfl
  | ok reply =>
      cases query with
      | claimQueuedExecutionJobs limit locked world => exact absurd rfl (unclaimed _ _ _)
      | _ => rfl

theorem keeps_of_apply {contract : Contract bridge Db Kind} {fault : Fault}
    (unclaimed
      : ∀ limit locked world, call.query ≠ .claimQueuedExecutionJobs limit locked world)
    (stutters : contract.inv db ∧ contract.guarantee db call fault db)
    (applied
      : contract.inv (db.apply call.query).2
        ∧ contract.guarantee db call fault (db.apply call.query).2)
    : contract.Keeps service db call fault := by
  refine .of_apply stutters applied ?_
  intro kind started
  rw [started_nil unclaimed] at started
  cases started

theorem unclaimed_of_joins (joins : joinsRun jobId kind = true) (issued : KindCall kind call)
    : ∀ limit locked world, call.query ≠ .claimQueuedExecutionJobs limit locked world := by
  intro limit locked world same
  cases kindCall_issuedBy issued with
  | claim => cases joins
  | _ => cases same

/-- Each call of a bystander touches the row in one of these ways, by cases of the change and
of the writer.
-/
theorem bystander_row {row : JobRow} (beside : isBystander jobId kind)
    (issued : KindCall kind call) (found : db.job? jobId = some row)
    : ∃ after, (db.apply call.query).2.job? jobId = some after ∧ Bystands db row kind call after := by
  obtain ⟨site, query⟩ := call
  have change := db.apply_job? query jobId
  revert change
  generalize (db.apply query).2.job? jobId = after
  intro change
  cases change with
  | same => exact ⟨row, found, .same⟩
  | insert absent =>
      rw [found] at absent
      cases absent
  | claim found' picked => exact absurd rfl (unclaimed_of_joins beside.1 issued _ _ _)
  | orphan found' orphan =>
      cases found.symm.trans found'
      simp only [isOrphan, Bool.and_eq_true, decide_eq_true_eq] at orphan
      refine ⟨_, rfl, .orphan ?_ orphan.1⟩
      cases kindCall_issuedBy issued with
      | orphans => rfl
  | @update update _ found' selected =>
      cases found.symm.trans found'
      have own : update.jobId = jobId :=
        (Db.selects_jobId selected).symm.trans (Db.job?_id found)
      refine ⟨_, rfl, ?_⟩
      have written := kindCall_update issued
      cases written with
      | dispatchEnd _ job => exact absurd beside.1 (by simp [joinsRun, ← job, own])
      | running job => exact absurd beside.1 (by simp [joinsRun, ← job, own])
      | final => exact absurd own (of_decide_eq_true beside.1)
      | marker => exact absurd own (of_decide_eq_true beside.1)
      | drain => exact absurd own (of_decide_eq_true beside.1)
      | sweepClose => exact absurd rfl (beside.2 _)
      | sweepNoFunds => exact absurd rfl (beside.2 _)
      | refundClear => exact .text rfl ⟨rfl, rfl⟩ (Or.inr ⟨rfl, rfl⟩)
      | cancel asked _ =>
          refine .cancel ?_ (Db.selects_status selected) rfl selected
          obtain ⟨request, rfl | rfl⟩ := asked
          · rfl
          · rfl
      | complete =>
          refine .complete rfl rfl (by simp [completionSites]) selected rfl ⟨rfl, rfl, rfl⟩ ?_
          intro _ cancelled
          exact Db.selects_status selected (by simp [cancelled, completeUpdate])
      | retry => exact absurd own (of_decide_eq_true beside.1)
      | completeV1 =>
          exact .complete rfl rfl (by simp [completionSites]) selected rfl ⟨rfl, rfl, rfl⟩ (by simp)
      | @ack _ _ action _ job =>
          have completes : action = .complete := by
            have joins := beside.1
            simp only [joinsRun, Bool.or_eq_true, decide_eq_true_eq] at joins
            exact joins.resolve_left (fun other => other own)
          subst completes
          exact .complete rfl rfl (by simp [completionSites]) selected rfl ⟨rfl, rfl, rfl⟩ (by simp)
      | submitBackend => exact .text rfl ⟨rfl, rfl⟩ (Or.inl rfl)

theorem stored_debit {tenantId : String} {entry : LedgerEntry} (issued : KindCall kind call)
    (inserted : call.query = .debitInsert entry ∨ call.query = .creditInsert entry)
    (key : entry.ledgerId = ledgerIdFor tenantId (jobKey jobId))
    : entry.entryType = .credit
      ∨ ∃ gpuSec planName,
          Bills kind tenantId jobId gpuSec planName
          ∧ call.query = .debitInsert entry
          ∧ entry = billingEntry tenantId jobId gpuSec planName
          ∧ tenantId ≠ ""
          ∧ 0 < totalCost gpuSec 0 0 := by
  obtain ⟨site, query⟩ := call
  cases kindCall_stores issued inserted with
  | debit bills named positive =>
      obtain ⟨rfl, rfl⟩ := jobKey_injective key
      exact Or.inr ⟨_, _, bills, rfl, rfl, named, positive⟩
  | refund => exact Or.inl rfl
  | topUp => exact Or.inl rfl

theorem quiet_row {row : JobRow} (quiet : joinsQuietly jobId kind = true)
    (bills : ∀ input, kind ≠ .sweepBillingPending input) (issued : KindCall kind call)
    (found : db.job? jobId = some row)
    : ∃ after,
        (db.apply call.query).2.job? jobId = some after
        ∧ after.status = row.status
        ∧ after.durationSeconds = row.durationSeconds
        ∧ (ParkedText row.error → ParkedText after.error) := by
  simp only [joinsQuietly, Bool.and_eq_true, Bool.not_eq_eq_eq_not, Bool.not_true] at quiet
  obtain ⟨⟨⟨⟨joins, uncompleting⟩, uncancelling⟩, unsweeping⟩, _⟩ := quiet
  obtain ⟨after, stored, touched⟩ := bystander_row ⟨joins, bills⟩ issued found
  refine ⟨after, stored, ?_⟩
  cases touched with
  | same => exact ⟨rfl, rfl, fun parked => parked⟩
  | cancel asked => simp [asked] at uncancelling
  | complete _ asked => simp [asked] at uncompleting
  | orphan asked => simp [asked] at unsweeping
  | text status columns texts =>
      refine ⟨by simp [JobUpdate.write, status], by simp [JobUpdate.write, columns.2], ?_⟩
      intro parked
      rcases texts with none | ⟨empty, _⟩
      · simpa [JobUpdate.write, none] using parked
      · simp only [JobUpdate.write, empty, Option.some_or]
        decide

theorem quiet_debit {tenantId : String} (quiet : joinsQuietly jobId kind = true)
    (bills : ∀ input, kind ≠ .sweepBillingPending input) (issued : KindCall kind call)
    : (db.apply call.query).2.ledger.find? (ledgerIdFor tenantId (jobKey jobId))
      = db.ledger.find? (ledgerIdFor tenantId (jobKey jobId)) := by
  refine db.apply_find?_eq ?_
  intro entry inserted key
  simp only [joinsQuietly, Bool.and_eq_true, Bool.not_eq_eq_eq_not, Bool.not_true] at quiet
  obtain ⟨⟨⟨⟨joins, uncompleting⟩, _⟩, _⟩, unkeyed⟩ := quiet
  obtain ⟨site, query⟩ := call
  cases kindCall_stores issued inserted with
  | refund => exact jobKey_ne_refundKey _ _ _ _ key.symm
  | topUp asked fresh =>
      subst asked
      exact ledgerIdFor_ne_fresh (fresh (Option.isNone_iff_eq_none.mp unkeyed)) key.symm
  | debit billed named positive =>
      obtain ⟨rfl, rfl⟩ := jobKey_injective key
      cases kind with
      | executeAndBill other tenant seen =>
          exact absurd billed.2.1.symm (of_decide_eq_true joins)
      | sweepBillingPending input => exact bills input rfl
      | completeJob => cases uncompleting
      | completeJobV1 => cases uncompleting
      | workerAck => cases uncompleting
      | _ => exact billed.elim

end Bystanders

-- One executor among bystanders

/-- Contracts of an executor and its bystanders that fit together. -/
structure OneRun (executor : Contract bridge Db Kind) (bystander : Kind → Contract bridge Db Kind)
    (inv : Db → Prop)
    : Prop where
  executorComposes : executor.Composes
  bystanderComposes : ∀ kind, (bystander kind).Composes
  executorInv : executor.inv = inv
  bystanderInv : ∀ kind, (bystander kind).inv = inv
  executorTolerates
    : ∀ {kind store call fault later},
        (bystander kind).guarantee store call fault later → executor.rely store later
  bystanderTolerates
    : ∀ {kind store call fault later},
        executor.guarantee store call fault later → (bystander kind).rely store later
  bystandersTolerate
    : ∀ {acting waiting store call fault later},
        (bystander acting).guarantee store call fault later
        → (bystander waiting).rely store later
  executorStarts : ∀ kind, ¬executor.admits kind
  bystanderStarts : ∀ acting kind, ¬(bystander acting).admits kind

section OneRun

variable {executor : Contract bridge Db Kind} {bystander : Kind → Contract bridge Db Kind}
  {inv : Db → Prop} {jobId : JobId}

def runDiscipline (jobId : JobId) (executor : Contract bridge Db Kind)
    (bystander : Kind → Contract bridge Db Kind) (Settled : Db → Prop)
    : Machine.Discipline bridge Db Kind Answer where
  contract kind := if isExecutorOf jobId kind then executor else bystander kind
  returns kind _ db := isExecutorOf jobId kind = true → Settled db
  raises kind _ db := isExecutorOf jobId kind = true → Settled db

theorem OneRun.sound (run : OneRun executor bystander inv) {Settled : Db → Prop}
    : (runDiscipline jobId executor bystander Settled).Sound inv (oneExecutes jobId) where
  composes kind := by
    dsimp only [runDiscipline]
    split
    · exact run.executorComposes
    · exact run.bystanderComposes kind
  shared kind := by
    dsimp only [runDiscipline]
    split
    · exact run.executorInv
    · exact run.bystanderInv kind
  tolerates := by
    intro acting waiting store query fault later together _ _ moved
    dsimp only [runDiscipline] at moved ⊢
    split at moved
    · rename_i acts
      rw [if_neg (fun waits => together ⟨acts, waits⟩)]
      exact run.bystanderTolerates moved
    · split
      · exact run.executorTolerates moved
      · exact run.bystandersTolerate moved
  joins := by
    intro acting kind admitted
    dsimp only [runDiscipline] at admitted
    split at admitted
    · exact absurd admitted (run.executorStarts kind)
    · exact absurd admitted (run.bystanderStarts acting kind)

/-- The invariant holds in every state of a run whose threads keep their contracts; once no
call is left, the executor has settled.
-/
theorem OneRun.settled_of_reaches (run : OneRun executor bystander inv)
    {ok : Config bridge Db Kind Answer → Label Kind → Prop} {db : Db} {tenantId : String}
    {world : WorkerWorld} {config : Config bridge Db Kind Answer} {start Settled : Db → Prop}
    (reached : service.Reaches ok (claimedBy db jobId tenantId world) config)
    (initial : inv db) (starts : start db)
    (executes
      : Triple service executor start (bodyOf (.executeAndBill jobId tenantId world))
          (fun _ => Settled) (fun _ => Settled))
    (arrivals
      : ∀ config kind,
          ok config (.arrive kind)
          → joinsRun jobId kind = true
            ∧ Triple service (bystander kind) (fun _ => True) (bodyOf kind) (fun _ _ => True)
                (fun _ _ => True))
    (steps
      : ∀ config label kind call fault,
          ok config label
          → config.executing label = some (kind, call, fault)
          → if isExecutorOf jobId kind then executor.allowed config.store call fault
            else (bystander kind).allowed config.store call fault)
    (crashes
      : ∀ config index thread,
          ok config (.crash index)
          → config.threads[index]? = some thread
          → isExecutorOf jobId thread.kind = true
          → ∀ store, Settled store)
    : inv config.store ∧ (config.Quiescent → Settled config.store) := by
  have isExecutor : isExecutorOf jobId (.executeAndBill jobId tenantId world) = true := by
    simp [isExecutorOf]
  have contract : (runDiscipline jobId executor bystander Settled).contract
      (.executeAndBill jobId tenantId world) = executor := by
    simp [runDiscipline, isExecutor]
  have holds : (runDiscipline jobId executor bystander Settled).Holds service inv
      (oneExecutes jobId) config := by
    refine reached.obeys run.sound ?_ ?_ ?_ ?_ ?_
    · intro config kind allowed
      obtain ⟨joins, triple⟩ := arrivals config kind allowed
      have quiet := isExecutorOf_of_joins joins
      have contract : (runDiscipline jobId executor bystander Settled).contract kind
          = bystander kind := by
        simp [runDiscipline, quiet]
      refine ⟨fun _ _ => ⟨?_, ?_⟩, ?_⟩
      · exact fun both => by simp [quiet] at both
      · exact fun both => by simp [quiet] at both
      · intro store holds
        simp only [Machine.Discipline.Obeys, Machine.start, contract]
        refine (triple store (by rw [run.bystanderInv kind]; exact holds) trivial).mono ?_ ?_
        · exact fun _ _ _ _ acts => by simp [quiet] at acts
        · exact fun _ _ _ _ acts => by simp [quiet] at acts
    · intro acting kind admitted
      dsimp only [runDiscipline] at admitted
      split at admitted
      · exact absurd admitted (run.executorStarts kind)
      · exact absurd admitted (run.bystanderStarts acting kind)
    · intro config index fault kind call rest log allowed found
      have permitted := steps config _ kind call fault allowed (Config.executing_exec found)
      dsimp only [runDiscipline]
      split
      · rename_i acts
        simpa [acts] using permitted
      · rename_i waits
        simpa [waits] using permitted
    · intro config index thread allowed found _ store _ _ acts
      exact crashes config index thread allowed found acts store
    · refine ⟨initial, ?_, by simp [claimedBy]⟩
      intro index thread found
      have first : thread = service.start (.executeAndBill jobId tenantId world) :=
        List.mem_singleton.mp (List.mem_of_getElem? found)
      subst first
      simp only [Machine.Discipline.Obeys, Machine.start, contract]
      exact (executes db (by rw [run.executorInv]; exact initial) starts).mono
        (fun _ _ _ settled _ => settled) (fun _ _ _ settled _ => settled)
  refine ⟨holds.inv, ?_⟩
  intro quiescent
  obtain ⟨more, kinds⟩ := reached.kinds
  cases threads : config.threads with
  | nil => simp [threads, claimedBy] at kinds
  | cons thread rest =>
      have kind : thread.kind = .executeAndBill jobId tenantId world := by
        rw [threads] at kinds
        exact (List.cons.inj kinds).1
      have obeys := holds.obeys 0 thread (by simp [threads])
      have finished := quiescent thread (by simp [threads])
      rw [Machine.Discipline.Obeys, kind, contract] at obeys
      have ends : ∀ outcome : Db → Prop, (∀ later, executor.rely config.store later
          → executor.inv later → outcome later) → outcome config.store :=
        fun outcome reaches => reaches _ (run.executorComposes.refl _)
          (by rw [run.executorInv]; exact holds.inv)
      cases program : thread.program with
      | done value =>
          rw [program] at obeys
          exact ends _ obeys isExecutor
      | raised exn =>
          rw [program] at obeys
          exact ends _ obeys isExecutor
      | call query next =>
          rw [program] at finished
          exact finished.elim

/-- The invariant holds in every state of a run whose threads keep their contracts. -/
theorem OneRun.inv_of_reaches (run : OneRun executor bystander inv)
    {ok : Config bridge Db Kind Answer → Label Kind → Prop} {db : Db} {tenantId : String}
    {world : WorkerWorld} {config : Config bridge Db Kind Answer} {start : Db → Prop}
    (reached : service.Reaches ok (claimedBy db jobId tenantId world) config)
    (initial : inv db) (starts : start db)
    (executes
      : Triple service executor start (bodyOf (.executeAndBill jobId tenantId world))
          (fun _ _ => True) (fun _ _ => True))
    (arrivals
      : ∀ config kind,
          ok config (.arrive kind)
          → joinsRun jobId kind = true
            ∧ Triple service (bystander kind) (fun _ => True) (bodyOf kind) (fun _ _ => True)
                (fun _ _ => True))
    (steps
      : ∀ config label kind call fault,
          ok config label
          → config.executing label = some (kind, call, fault)
          → if isExecutorOf jobId kind then executor.allowed config.store call fault
            else (bystander kind).allowed config.store call fault)
    : inv config.store :=
  (run.settled_of_reaches reached initial starts executes arrivals steps
    (fun _ _ _ _ _ _ _ => trivial)).1

end OneRun
end RomaBridge.Model
