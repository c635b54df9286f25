import RomaBridge.Properties.NoDoubleCharge
import RomaBridge.Foundation.Sequential

/-! What becomes of a billed job that failed, was retried and runs again.
The second run bills under the key of the first, so its own cost is never charged: the run is
refused as a mismatch, or accepted as a repetition when both runs cost the same.
-/

namespace RomaBridge.Properties

open RomaBridge.Foundation RomaBridge.Model Program

variable {entry : LedgerEntry} {job : JobRow}

-- The scenario

/-- A failed job whose run was billed for some seconds under some plan. -/
structure BilledFailure (db : Db) (jobId : JobId) (row : JobRow) (gpuSec : ℚ) (planName : String)
    : Prop where
  found : db.job? jobId = some row
  failed : row.status = .failed
  debit
    : db.ledger.find? (ledgerIdFor row.tenantId (jobKey jobId))
      = some (billingEntry row.tenantId jobId gpuSec planName)

/-- The backend accepts the run and reports it as completed. -/
structure Completes (world : WorkerWorld) (backendName : String) : Prop where
  named : backendName ≠ ""
  accepted
    : ∃ result,
        world.dispatch = .ok result
        ∧ result.backend = some backendName
        ∧ dispatchIsReady backendName result.status = true
  polled : pollLoop world.poll (pollRounds backendName) 0 = .ok "completed"

def retriedRun (request : Request) (jobId : JobId) (tenantId : String) (limit : ℕ)
    (locked : List JobId) (world : WorkerWorld) (db : Db)
    : Db :=
  let retried := (service.alone (retryJob request jobId) db).2
  let claimed := (service.alone (claimTick limit locked (fun _ => world)) retried).2
  (service.alone (executeAndBill jobId tenantId world) claimed).2

-- Each part alone

section Parts

variable {db : Db} {jobId : JobId} {tenantId : String} {world : WorkerWorld}

theorem alone_retryJob {request : Request} {row : JobRow}
    (found : db.job? jobId = some row) (failed : row.status = .failed)
    (tenant : request.tenant = .ok row.tenantId) (known : request.tenantFound = true)
    : (service.alone (retryJob request jobId) db).2
      = (db.updateJob (retryUpdate jobId row.tenantId)).2 := by
  simp [retryJob, ownedJob, tenant, known, failed, Program.ofExcept, Program.bind, ask,
    Program.perform, Machine.alone, Db.apply, found, evaluatePolicies, guardHttp,
    validateTransition, transitionGraph]

theorem alone_dispatchPhase (db : Db) (jobId : JobId) (tenantId : String) {backendName : String}
    (completes : Completes world backendName)
    : ∃ update contractId,
        service.alone (dispatchPhase jobId tenantId world) db
          = (.ok (.ok { backendName, backendJobId := update.backendJobId, contractId }),
              (db.updateJob update).2)
        ∧ update.jobId = jobId
        ∧ update.tenantId = some tenantId
        ∧ update.status = some .running
        ∧ update.ifStatusNotIn = [] := by
  obtain ⟨result, dispatched, backend, ready⟩ := completes.accepted
  have live : ¬(result.status = some "failed") ∧ ¬(result.status = some "error") := by
    constructor <;> intro ended <;> simp [dispatchIsReady, ended] at ready
  refine ⟨{ jobId, status := some .running, backend := result.backend
            backendJobId := result.backendJobId.or result.contractId
            tenantId := some tenantId }, result.contractId, ?_, rfl, rfl, rfl, rfl⟩
  simp [dispatchPhase, dispatchBody, catchException, dispatched, Program.ofExcept, Program.bind,
    backend, live, completes.named, ready, ask, Program.perform, Program.handle, Machine.alone,
    Db.apply]

def rebilled (tenantId : String) (jobId : JobId) (gpuSec : ℚ) (entry : LedgerEntry)
    : BillingStatus :=
  if tenantId = "" ∨ totalCost gpuSec 0 0 ≤ 0 then .skip
  else if idemMatches entry (totalCost gpuSec 0 0) "USD" (some jobId.text) then .ok
  else .mismatch

theorem alone_ask {site : Site} {query : Query} {reply : query.Reply} {after : Db}
    (applied : db.apply query = (reply, after))
    : service.alone (ask site query) db = (.ok reply, after) := by
  change (Except.ok (db.apply query).1, (db.apply query).2) = _
  rw [applied]

theorem alone_ledgerIdemLookup {ledgerId : LedgerId}
    (stored : db.ledger.find? ledgerId = some entry) (own : entry.tenantId = tenantId) (amount : ℚ)
    (metadata : Metadata)
    : service.alone (ledgerIdemLookup ledgerId tenantId amount "USD" metadata) db
      = (if idemMatches entry amount "USD" metadata.jobId then
            .ok (some ledgerId)
          else
            .error (.ledgerIdemMismatch ledgerId tenantId amount "USD" metadata.jobId),
          db) := by
  have reply : db.apply (.ledgerSelect ledgerId tenantId) = (some entry, db) := by
    simp [Db.apply, stored, own]
  refine (service.alone_bind (alone_ask reply)).trans ?_
  dsimp only
  split <;> rfl

theorem alone_debitIfFunds {amount : ℚ}
    (stored : db.ledger.find? (ledgerIdFor tenantId (jobKey jobId)) = some entry)
    (own : entry.tenantId = tenantId) (nonneg : 0 ≤ amount) (metadata : Metadata)
    : service.alone
        (debitIfFunds tenantId amount "USD" (some (jobKey jobId)) metadata) db
      = (if idemMatches entry amount "USD" metadata.jobId then
            .ok (some (ledgerIdFor tenantId (jobKey jobId)), false)
          else
            .error (.ledgerIdemMismatch (ledgerIdFor tenantId (jobKey jobId)) tenantId amount
              "USD" metadata.jobId),
          db) := by
  have taken : db.apply (.debitInsert (debitEntry tenantId amount "USD" (jobKey jobId) metadata))
      = (none, db) := by
    have refused : db.ledger.insert? (debitEntry tenantId amount "USD" (jobKey jobId) metadata)
        = none :=
      Table.insert?_eq_none.mpr (Option.isSome_iff_exists.mpr ⟨entry, stored⟩)
    simp [Db.apply, Db.debitInsert, Db.insertEntry, refused]
  rw [debitIfFunds_eq nonneg (filter_jobKey jobId)]
  refine (service.alone_bind (service.alone_attempt (alone_ask taken))).trans ?_
  have looked := alone_ledgerIdemLookup stored own amount
    { metadata with idempotencyKey := some (jobKey jobId) }
  dsimp only at looked ⊢
  split
  · rename_i same
    rw [if_pos same] at looked
    exact service.alone_bind looked
  · rename_i differs
    rw [if_neg differs] at looked
    exact service.alone_bind_raised looked

/-- What `finalize_job_billing` makes of the increment of the usage. -/
def billingAnswer : Except Exn (ℚ × Bool) → Action BillingStatus
  | .error (.ledgerIdemMismatch ..) => .done .mismatch
  | .error exn => .raised exn
  | .ok (total, debited) =>
      if debited then .done .ok
      else if total ≤ 0 then .done .skip
      else .done .noFunds

theorem alone_finalizeJobBilling {gpuSec : ℚ} {planName : String} {backend : Option String}
    (found : db.job? jobId = some job) (tenant : job.tenantId = tenantId)
    (live : job.status ∉ finalizeSkips)
    (stored : db.ledger.find? (ledgerIdFor tenantId (jobKey jobId)) = some entry)
    (own : entry.tenantId = tenantId)
    : ∃ after,
        service.alone (finalizeJobBilling tenantId jobId gpuSec planName backend) db
          = (.ok (rebilled tenantId jobId gpuSec entry), after)
        ∧ after.ledger = db.ledger
        ∧ after.jobs = db.jobs := by
  have read : db.apply (.getExecutionJob jobId) = (some job, db) := by simp [Db.apply, found]
  have opened : finalizeSkips.contains job.status = false := by simpa using live
  have unfolded : service.alone (finalizeJobBilling tenantId jobId gpuSec planName backend) db
      = service.alone
          ((incrementUsage tenantId gpuSec 0 0 planName jobId backend).attempt.bind
            billingAnswer) db := by
    refine (service.alone_bind (alone_ask read)).trans ?_
    simp only [tenant, opened, ne_eq, not_true_eq_false, if_false, Bool.false_eq_true]
    rfl
  rw [unfolded, rebilled]
  by_cases free : tenantId = "" ∨ totalCost gpuSec 0 0 ≤ 0
  · rw [if_pos free, incrementUsage_eq, if_pos free]
    exact ⟨db, rfl, rfl, rfl⟩
  · rw [if_neg free]
    have debit := alone_debitIfFunds stored own (not_le.mp (not_or.mp free).2).le
      (usageMetadata gpuSec 0 0 planName jobId)
    by_cases same : idemMatches entry (totalCost gpuSec 0 0) "USD" (some jobId.text) = true
    · rw [if_pos same]
      rw [if_pos (show idemMatches entry (totalCost gpuSec 0 0) "USD"
        (usageMetadata gpuSec 0 0 planName jobId).jobId = true from same)] at debit
      let query : Query := .usageInsert (billingUsage tenantId jobId gpuSec backend) gpuSec 0 0
      have recorded : service.alone (ask .usageRecord query) db
          = (.ok (db.apply query).1, (db.apply query).2) :=
        rfl
      have incremented : service.alone
          (incrementUsage tenantId gpuSec 0 0 planName jobId backend) db
          = (.ok (totalCost gpuSec 0 0, true), (db.apply query).2) := by
        rw [incrementUsage_eq, if_neg free]
        refine (service.alone_bind debit).trans ?_
        exact service.alone_bind recorded
      exact ⟨(db.apply query).2, service.alone_bind (service.alone_attempt incremented),
        db.apply_ledger_eq (by simp [query]), db.apply_jobs_eq (fun writes => writes)⟩
    · rw [if_neg same]
      rw [if_neg (show ¬idemMatches entry (totalCost gpuSec 0 0) "USD"
        (usageMetadata gpuSec 0 0 planName jobId).jobId = true from same)] at debit
      refine ⟨db, ?_, rfl, rfl⟩
      rw [incrementUsage_eq, if_neg free]
      exact service.alone_bind (service.alone_attempt (service.alone_bind_raised debit))

theorem alone_finalWrite (found : db.job? jobId = some job) (tenant : job.tenantId = tenantId)
    (live : job.status ∉ finalWriteBlockedStatuses) (world : WorkerWorld) (status : String)
    (billingStatus : BillingStatus)
    : service.alone (finalWrite jobId tenantId world status billingStatus) db
      = (.ok (), (db.updateJob (finalUpdate jobId tenantId world status billingStatus)).2) := by
  have selected : (finalUpdate jobId tenantId world status billingStatus).selects job = true := by
    simp [JobUpdate.selects, finalUpdate, Db.job?_id found, tenant, live]
  have hit : (db.updateJob (finalUpdate jobId tenantId world status billingStatus)).1 ≠ 0 := by
    intro missed
    have unselected := (Db.updateJob_eq_zero rfl).mp missed job found
    rw [selected] at unselected
    cases unselected
  have write : service.alone (ask .workerFinal
      (.updateExecutionJob (finalUpdate jobId tenantId world status billingStatus))) db
      = (.ok (db.updateJob (finalUpdate jobId tenantId world status billingStatus)).1,
          (db.updateJob (finalUpdate jobId tenantId world status billingStatus)).2) :=
    rfl
  refine (service.alone_bind write).trans ?_
  simp [hit]

theorem alone_cleanup (db : Db) (world : WorkerWorld) (dispatched : Dispatched)
    : ∃ outcome, service.alone (cleanup dispatched world) db = (outcome, db) := by
  unfold cleanup suppress catchException
  split
  · cases world.cleanup with
    | ok done => exact ⟨_, rfl⟩
    | error exn =>
        cases caught : exn.isException with
        | true => exact ⟨.ok (), by simp [Program.ofExcept, Program.handle, caught]⟩
        | false => exact ⟨.error exn, by simp [Program.ofExcept, Program.handle, caught]⟩
  · exact ⟨_, rfl⟩

theorem job?_drainUpdate {row : JobRow} (found : db.job? jobId = some row)
    (closed : row.status ∈ finalWriteBlockedStatuses)
    : (db.updateJob (drainUpdate jobId tenantId world)).2.job? jobId = some row := by
  have skipped : (drainUpdate jobId tenantId world).selects row = false := by
    simp [JobUpdate.selects, drainUpdate, closed]
  simp [Db.job?_updateJob, found, skipped]

theorem updateJob_ledger (db : Db) (update : JobUpdate)
    : (db.updateJob update).2.ledger = db.ledger :=
  db.updated_ledger update

theorem rebilled_closes (tenantId : String) (jobId : JobId) (gpuSec : ℚ) (entry : LedgerEntry)
    : JobStatus.ofText (writeStatus "completed" (rebilled tenantId jobId gpuSec entry))
      ∈ finalWriteBlockedStatuses := by
  unfold rebilled
  split
  · decide
  · split <;> decide

/-- How the second run of a job that was billed before leaves the database. -/
structure Rerun (before : Db) (jobId : JobId) (billing : BillingStatus) (after : Db) : Prop where
  row
    : ∃ row,
        after.job? jobId = some row
        ∧ row.status = JobStatus.ofText (writeStatus "completed" billing)
        ∧ row.error = some (finalError "completed" billing)
  ledger : after.ledger = before.ledger

theorem alone_pollAndBill (world : WorkerWorld) (dispatched : Dispatched)
    (found : db.job? jobId = some job) (tenant : job.tenantId = tenantId)
    (live : job.status = .running)
    (polled : pollLoop world.poll (pollRounds dispatched.backendName) 0 = .ok "completed")
    (stored : db.ledger.find? (ledgerIdFor tenantId (jobKey jobId)) = some entry)
    (own : entry.tenantId = tenantId)
    : ∃ outcome after,
        service.alone (pollAndBill jobId tenantId world dispatched) db = (outcome, after)
        ∧ Rerun db jobId (rebilled tenantId jobId world.billable entry) after := by
  let billing := rebilled tenantId jobId world.billable entry
  let final := finalUpdate jobId tenantId world "completed" billing
  obtain ⟨billed, finalized, ledger, jobs⟩ :=
    alone_finalizeJobBilling found tenant (by rw [live]; decide) stored own
  have tried : service.alone (tryFinalize tenantId jobId world.billable world.plan
      (some dispatched.backendName)) db = (.ok billing, billed) :=
    service.alone_handle finalized
  have found' : billed.job? jobId = some job := by
    rw [Db.job?, jobs]
    exact found
  have wrote := alone_finalWrite found' tenant (by rw [live]; decide) world "completed" billing
  obtain ⟨outcome, cleaned⟩ := alone_cleanup (billed.updateJob final).2 world dispatched
  have rerun : Rerun db jobId billing (billed.updateJob final).2 := by
    have selected : final.selects job = true := by
      simp [JobUpdate.selects, final, finalUpdate, Db.job?_id found, tenant, live,
        finalWriteBlockedStatuses, terminalStatuses]
    refine ⟨⟨final.write billed.clock job, ?_, rfl, rfl⟩, ?_⟩
    · simp [Db.job?_updateJob, found', selected]
    · rw [updateJob_ledger, ledger]
  have ended : service.alone (Program.ofExcept (pollLoop world.poll
      (pollRounds dispatched.backendName) 0)) db = (.ok "completed", db) := by
    rw [polled]
    rfl
  cases outcome with
  | ok done =>
      refine ⟨.ok (.executed "completed" world.costUsd world.billable dispatched.backendName), _,
        ?_, rerun⟩
      refine (service.alone_bind ended).trans ?_
      refine (service.alone_bind tried).trans ?_
      refine (service.alone_bind wrote).trans ?_
      exact service.alone_bind cleaned
  | error exn =>
      refine ⟨.error exn, _, ?_, rerun⟩
      refine (service.alone_bind ended).trans ?_
      refine (service.alone_bind tried).trans ?_
      refine (service.alone_bind wrote).trans ?_
      exact service.alone_bind_raised cleaned

theorem alone_executeAndBill {backendName : String} (found : db.job? jobId = some job)
    (tenant : job.tenantId = tenantId) (completes : Completes world backendName)
    (stored : db.ledger.find? (ledgerIdFor tenantId (jobKey jobId)) = some entry)
    (own : entry.tenantId = tenantId)
    : Rerun db jobId (rebilled tenantId jobId world.billable entry)
        (service.alone (executeAndBill jobId tenantId world) db).2 := by
  obtain ⟨running, contractId, dispatched, job', tenant', status', blind⟩ :=
    alone_dispatchPhase db jobId tenantId completes
  have found' : (db.updateJob running).2.job? jobId = some (running.write db.clock job) := by
    have selected : running.selects job = true := by
      simp [JobUpdate.selects, job', Db.job?_id found, tenant', tenant, blind]
    simp [Db.job?_updateJob, found, selected]
  have live : (running.write db.clock job).status = .running := by
    simp [JobUpdate.write, status']
  have stored' : (db.updateJob running).2.ledger.find? (ledgerIdFor tenantId (jobKey jobId))
      = some entry := by
    rw [updateJob_ledger]
    exact stored
  obtain ⟨outcome, after, ran, rerun⟩ :=
    alone_pollAndBill world
      { backendName, backendJobId := running.backendJobId, contractId } found' tenant live
      completes.polled stored' own
  have impl : service.alone (executeAndBillImpl jobId tenantId world) db = (outcome, after) :=
    (service.alone_bind dispatched).trans ran
  have rerun : Rerun db jobId (rebilled tenantId jobId world.billable entry) after :=
    ⟨rerun.row, rerun.ledger.trans (updateJob_ledger db running)⟩
  cases outcome with
  | ok result =>
      have whole : service.alone (executeAndBill jobId tenantId world) db = (.ok result, after) :=
        service.alone_handle impl
      rw [whole]
      exact rerun
  | error exn =>
      obtain ⟨row, last, status, error⟩ := rerun.row
      have whole : service.alone (executeAndBill jobId tenantId world) db
          = service.alone (do
              if exn = .cancelledError then
                suppress (do
                  let _ ← ask .workerDrain (.updateExecutionJob (drainUpdate jobId tenantId world)))
              throw exn) after :=
        service.alone_handle_raised impl
      rw [whole]
      by_cases drained : exn = .cancelledError
      · -- the interrupted run still tries to close a row that is closed
        have store : (service.alone (do
              if exn = .cancelledError then
                suppress (do
                  let _ ← ask .workerDrain (.updateExecutionJob (drainUpdate jobId tenantId world)))
              throw exn : Action WorkerResult) after).2
            = (after.updateJob (drainUpdate jobId tenantId world)).2 := by
          rw [if_pos drained]
          rfl
        rw [store]
        refine ⟨⟨row, job?_drainUpdate last ?_, status, error⟩, ?_⟩
        · rw [status]
          exact rebilled_closes tenantId jobId world.billable entry
        · rw [updateJob_ledger]
          exact rerun.ledger
      · rw [if_neg drained]
        exact rerun

end Parts

-- Retry, claim and second run

section Scenario

variable {db : Db} {jobId : JobId} {row : JobRow} {gpuSec : ℚ} {planName backendName : String}
  {request : Request} {limit : ℕ} {locked : List JobId} {world : WorkerWorld}

/-- The whole scenario leaves the ledger alone and ends the row as the billing status says. -/
theorem rerun_retried (billed : BilledFailure db jobId row gpuSec planName)
    (tenant : request.tenant = .ok row.tenantId) (known : request.tenantFound = true)
    (claimed
      : ∃ picked ∈ queuedRows (service.alone (retryJob request jobId) db).2 limit locked,
          picked.id = jobId)
    (completes : Completes world backendName)
    : Rerun db jobId
        (rebilled row.tenantId jobId world.billable
          (billingEntry row.tenantId jobId gpuSec planName))
        (retriedRun request jobId row.tenantId limit locked world db) := by
  let update := retryUpdate jobId row.tenantId
  let retried := (db.updateJob update).2
  have retry : (service.alone (retryJob request jobId) db).2 = retried :=
    alone_retryJob billed.found billed.failed tenant known
  rw [retry] at claimed
  have found : retried.job? jobId = some (update.write db.clock row) := by
    have selected : update.selects row = true := by
      simp [JobUpdate.selects, update, retryUpdate, Db.job?_id billed.found]
    simp [retried, Db.job?_updateJob, billed.found, selected]
  obtain ⟨picked, member, named⟩ := claimed
  have same : picked = update.write db.clock row := by
    have stored := (Db.mem_queuedRows member).1
    exact Option.some.inj ((Table.find?_of_key stored named).symm.trans found)
  have running : (retried.claim limit locked).2.job? jobId
      = some (claimRow retried.clock (update.write db.clock row)) := by
    simp [Db.job?_claim, found, same ▸ member]
  have ledger : (retried.claim limit locked).2.ledger = db.ledger :=
    updateJob_ledger db update
  have rerun := alone_executeAndBill running rfl completes (ledger ▸ billed.debit) rfl
  have whole : retriedRun request jobId row.tenantId limit locked world db
      = (service.alone (executeAndBill jobId row.tenantId world)
          (retried.claim limit locked).2).2 := by
    rw [retriedRun, retry]
    rfl
  rw [whole]
  exact ⟨rerun.row, rerun.ledger.trans ledger⟩

theorem rebilled_eq (tenantId : String) (jobId : JobId) (gpuSec : ℚ) (planName : String)
    (world : WorkerWorld)
    : rebilled tenantId jobId world.billable (billingEntry tenantId jobId gpuSec planName)
      = if tenantId = "" ∨ world.billable = 0 then .skip
        else if totalCost gpuSec 0 0 = world.costUsd then .ok
        else .mismatch := by
  have amounts : idemMatches (billingEntry tenantId jobId gpuSec planName) world.costUsd "USD"
      (some jobId.text) = true ↔ totalCost gpuSec 0 0 = world.costUsd := by
    simp [idemMatches, billingEntry, debitEntry, usageMetadata, totalCost, WorkerWorld.costUsd]
  simp only [rebilled, totalCost_billable, costUsd_nonpos_iff, amounts]

/-- For every job that failed after it was billed, was retried and claimed again, and whose
second run completes: it ends `completed` with the second run charged exactly when that run has
no billable seconds. Any other second run is never charged; it ends `completed` when it costs
what the first one did, and else in `error` with `billing:mismatch`.
-/
theorem retried_job_completes_iff (billed : BilledFailure db jobId row gpuSec planName)
    (tenant : request.tenant = .ok row.tenantId) (known : request.tenantFound = true)
    (claimed
      : ∃ picked ∈ queuedRows (service.alone (retryJob request jobId) db).2 limit locked,
          picked.id = jobId)
    (completes : Completes world backendName)
    : let after := retriedRun request jobId row.tenantId limit locked world db
      (after.status? jobId = some .completed
          ∧ after.balance row.tenantId = db.balance row.tenantId - world.costUsd
        ↔ world.billable = 0)
      ∧ (row.tenantId ≠ ""
        → world.billable ≠ 0
        → ∃ last,
            after.job? jobId = some last
            ∧ after.ledger = db.ledger
            ∧ if totalCost gpuSec 0 0 = world.costUsd then
                last.status = .completed
              else
                last.status = .error ∧ last.error = some "billing:mismatch") := by
  obtain ⟨⟨last, found, status, error⟩, ledger⟩ :=
    rerun_retried billed tenant known claimed completes
  rw [rebilled_eq] at status error
  have balance : (retriedRun request jobId row.tenantId limit locked world db).balance row.tenantId
      = db.balance row.tenantId := by
    simp only [Db.balance, ledger]
  refine ⟨⟨?_, ?_⟩, ?_⟩
  · rintro ⟨_, charged⟩
    rw [balance] at charged
    exact (costUsd_nonpos_iff world).mp (by linarith)
  · intro idle
    have free : world.costUsd = 0 := by rw [costUsd_eq, idle, zero_mul]
    refine ⟨?_, by rw [balance, free, sub_zero]⟩
    rw [if_pos (Or.inr idle)] at status
    simp only [Db.status?, found, Option.map_some, status]
    rfl
  · intro named worked
    rw [if_neg (not_or.mpr ⟨named, worked⟩)] at status error
    refine ⟨last, found, ledger, ?_⟩
    split
    · rename_i same
      rw [if_pos same] at status
      rw [status]
      rfl
    · rename_i differs
      rw [if_neg differs] at status error
      rw [status, error]
      exact ⟨rfl, rfl⟩

end Scenario

/-- A tenant with money and a job that failed after ten billed seconds. -/
def failedDb : Db where
  ledger :=
    ⟨[creditEntry (.fresh "n") "t" 1 "USD" {}, billingEntry "t" jobA 10 "free"], by decide⟩
  usage := []
  totals := .empty
  jobs := ⟨[{ Db.empty.newJob jobA "t" .failed false with backend := some "local" }], by decide⟩
  submitKeys := .empty
  clock := 0

theorem failedDb_billed
    : BilledFailure failedDb jobA
        { Db.empty.newJob jobA "t" .failed false with backend := some "local" } 10 "free" where
  found := by decide +kernel
  failed := rfl
  debit := by decide +kernel

theorem quickRun_completes (elapsed : ℚ≥0) : Completes (quickRun elapsed "completed") "local" where
  named := by decide
  accepted := ⟨_, rfl, rfl, rfl⟩
  polled := rfl

/-- Witness: a second run without billable seconds completes. -/
theorem retried_job_completes_idle
    : (retriedRun { tenant := .ok "t" } jobA "t" 5 [] (quickRun 0 "completed") failedDb).status?
          jobA
        = some .completed
      ∧ (retriedRun { tenant := .ok "t" } jobA "t" 5 [] (quickRun 0 "completed")
          failedDb).balance "t"
        = failedDb.balance "t" - (quickRun 0 "completed").costUsd := by
  have tenant : ({ tenant := .ok "t" } : Request).tenant = .ok "t" := rfl
  exact (retried_job_completes_iff failedDb_billed tenant rfl (by decide +kernel)
    (quickRun_completes 0)).1.mpr (by decide +kernel)

/-- A second run of twenty seconds ends in `error`, although the tenant could pay for it. -/
theorem retried_job_mismatch
    : BilledFailure failedDb jobA
          { Db.empty.newJob jobA "t" .failed false with backend := some "local" } 10 "free"
      ∧ Completes (quickRun 20 "completed") "local"
      ∧ (quickRun 20 "completed").costUsd ≤ failedDb.balance "t"
      ∧ ((retriedRun { tenant := .ok "t" } jobA "t" 5 [] (quickRun 20 "completed")
            failedDb).job? jobA).map (fun row => (row.status, row.error))
        = some (.error, some "billing:mismatch") :=
  ⟨failedDb_billed, quickRun_completes 20, by decide +kernel, by decide +kernel⟩

end RomaBridge.Properties
