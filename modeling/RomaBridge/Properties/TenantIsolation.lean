import RomaBridge.Behaviour.ThreadCalls
import RomaBridge.Properties.NonnegativeBalance

/-! Tenants in the whole service, over every run. A request writes under the tenant that its key is
resolved to, so a job changes and is charged only through its own tenant, the executors, the sweeps
and the holder of the worker token; and every row of the ledger is accounted for.
-/

namespace RomaBridge.Properties

open RomaBridge.Foundation RomaBridge.Model Program

/-- A call that reads, or writes rows of one tenant. -/
inductive Under (tenantId : String) : Call → Prop
  | read {site jobId} : Under tenantId ⟨site, .getExecutionJob jobId⟩
  | update {site update} (own : update.tenantId = some tenantId)
    : Under tenantId ⟨site, .updateExecutionJob update⟩
  | billing {jobId gpuSec planName backend call}
    (issued : BillingCall tenantId jobId gpuSec planName backend call) : Under tenantId call

/-- A call under the tenant that the key of the request is resolved to. -/
def UnderKey (request : Request) (call : Call) : Prop :=
  ∃ tenantId, request.tenant = .ok tenantId ∧ Under tenantId call

section Routes

variable {request : Request} {jobId : JobId} {tenantId : String}

theorem issues_underKey {α : Type} {rest : String → Action α}
    (later : ∀ tenantId, (rest tenantId).Issues (Under tenantId))
    : ((Program.ofExcept request.tenant).bind rest).Issues (UnderKey request) :=
  (Issues.closed _).ofExcept_bind (fun tenantId known =>
    (later tenantId).mono (fun _ under => ⟨tenantId, known, under⟩))

theorem ownedJob_under {site : Site}
    : (ownedJob site tenantId jobId).Issues (Under tenantId) :=
  ownedJob_closed (Issues.closed _) (Issues.ask .read)

theorem guardHttp_under {code : ℕ} {outcome : Except String Unit}
    : (guardHttp code outcome).Issues (Under tenantId) :=
  Closed.guardHttp (Issues.closed _) code outcome

theorem billForRoute_under {job : JobRow}
    : (billForRoute request tenantId jobId job).Issues (Under tenantId) := by
  unfold billForRoute
  split
  · trivial
  · refine Issues.bind ((Issues.closed _).ofExcept _) (fun planName => ?_)
    refine Issues.bind ((Issues.closed _).attempt
      (finalizeJobBilling_issues.mono (fun _ => .billing))) ?_
    rintro (exn | status)
    · cases exn <;> trivial
    · cases status <;> trivial

theorem cancelJob_underKey : (cancelJob request jobId).Issues (UnderKey request) := by
  refine issues_underKey (fun tenantId => Issues.bind ownedJob_under (fun job => ?_))
  refine Issues.bind (Issues.ask (.update rfl)) (fun n => ?_)
  split
  · exact Issues.bind (Issues.ask .read) (fun _ => trivial)
  · exact Issues.bind (Closed.suppress (Issues.closed _) ((Issues.closed _).ofExcept _))
      (fun _ => trivial)

theorem cancelJobV1_underKey : (cancelJobV1 request jobId).Issues (UnderKey request) := by
  refine issues_underKey (fun tenantId => Issues.bind ownedJob_under (fun job => ?_))
  refine Issues.bind guardHttp_under (fun _ => Issues.bind guardHttp_under (fun _ => ?_))
  refine Issues.bind (Issues.ask (.update rfl)) (fun n => ?_)
  split
  · exact Issues.bind (Issues.ask .read) (fun _ => trivial)
  · trivial

theorem retryJob_underKey : (retryJob request jobId).Issues (UnderKey request) := by
  refine issues_underKey (fun tenantId => Issues.bind ownedJob_under (fun job => ?_))
  refine Issues.bind guardHttp_under (fun _ => Issues.bind guardHttp_under (fun _ => ?_))
  exact Issues.bind (Issues.ask (.update rfl)) (fun _ => trivial)

theorem completeJob_underKey : (completeJob request jobId).Issues (UnderKey request) := by
  refine issues_underKey (fun tenantId => Issues.bind ownedJob_under (fun job => ?_))
  refine Issues.bind billForRoute_under (fun billed => ?_)
  split
  · refine Issues.bind (Closed.suppress (Issues.closed _) ((Issues.closed _).ofExcept _))
      (fun _ => Issues.bind (Issues.ask (.update rfl)) (fun n => ?_))
    split
    · exact Issues.bind (Issues.ask .read) (fun _ => trivial)
    · trivial
  · trivial

theorem completeJobV1_underKey : (completeJobV1 request jobId).Issues (UnderKey request) := by
  refine issues_underKey (fun tenantId => Issues.bind ownedJob_under (fun job => ?_))
  refine Issues.bind guardHttp_under (fun _ => Issues.bind billForRoute_under (fun billed => ?_))
  split
  · exact Issues.bind (Issues.ask (.update rfl)) (fun _ => trivial)
  · trivial

theorem workerAck_underKey {action : AckAction} {error : Option String}
    : (workerAck request false action error jobId).Issues (UnderKey request) := by
  unfold workerAck
  split
  · trivial
  · simp only [ackJob, Bool.false_eq_true, if_false, bind_eq_bind, bind_assoc]
    refine issues_underKey (fun tenantId => Issues.bind ownedJob_under (fun job => ?_))
    by_cases fails : action = .fail
    · rw [if_pos fails]
      trivial
    · rw [if_neg fails]
      change ((guardHttp 409 _).bind _).Issues _
      refine Issues.bind guardHttp_under (fun _ => Issues.bind ?_ (fun billed => ?_))
      · unfold ackBills
        split
        · exact billForRoute_under
        · trivial
      · split
        · exact Issues.bind (Issues.ask (.update rfl)) (fun _ => trivial)
        · trivial

end Routes

-- Who may act for a tenant

/-- Threads that may write the rows of a tenant: its executors and requests, the claim, the sweeps,
and acknowledgements with the worker token.
-/
def ActsFor (tenantId : String) : Kind → Prop
  | .executeAndBill _ owner _ => owner = tenantId
  | .cancelJob request _ | .completeJob request _ | .retryJob request _ | .cancelJobV1 request _
  | .completeJobV1 request _ => request.tenant = .ok tenantId
  | .workerAck request tokenValid _ _ _ => tokenValid = true ∨ request.tenant = .ok tenantId
  | .submitTask request => request.tenantId = tenantId
  | .createDecisionJob _ _ _ | .topUp _ _ _ _ _ | .clock _ => False
  | .claimTick _ _ _ | .sweepBillingPending _ | .sweepRefundPending | .sweepOrphans _ => True

/-- The calls of a request without the worker token are under its key, and a top-up credits its own
tenant with its own amount.
-/
def KeyHeld : Kind → Call → Prop
  | .cancelJob request _ | .completeJob request _ | .retryJob request _ | .cancelJobV1 request _
  | .completeJobV1 request _ | .workerAck request false _ _ _ => UnderKey request
  | .topUp tenantId amount _ _ _ => fun call =>
      ∀ entry, call.query = .creditInsert entry →
        entry.tenantId = strip tenantId ∧ entry.amount = amount ∧ 0 < amount
  | _ => fun _ => True

theorem bodyOf_keyHeld (kind : Kind) : (bodyOf kind).Issues (KeyHeld kind) := by
  cases kind with
  | cancelJob request jobId => exact Issues.bind cancelJob_underKey (fun _ => trivial)
  | completeJob request jobId => exact Issues.bind completeJob_underKey (fun _ => trivial)
  | retryJob request jobId => exact Issues.bind retryJob_underKey (fun _ => trivial)
  | cancelJobV1 request jobId => exact Issues.bind cancelJobV1_underKey (fun _ => trivial)
  | completeJobV1 request jobId => exact Issues.bind completeJobV1_underKey (fun _ => trivial)
  | workerAck request tokenValid action error jobId =>
      cases tokenValid with
      | false => exact Issues.bind workerAck_underKey (fun _ => trivial)
      | true => exact (bodyOf_issues _).mono (fun _ _ => trivial)
  | topUp tenantId amount idempotencyKey nonce note =>
      refine Issues.bind ?_ (fun _ => trivial)
      unfold topUp
      split
      · trivial
      · split
        · trivial
        · rename_i positive
          refine (Issues.closed _).handle (credit_issues ?_ ?_) ?_
          · intro _ entry same
            cases same
            unfold creditRow
            split <;> exact ⟨rfl, rfl, not_le.mp positive⟩
          · intro ledgerId entry same
            cases same
          · intro exn
            cases exn <;> trivial
  | _ => exact (bodyOf_issues _).mono (fun _ _ => trivial)

theorem UnderKey.update {request : Request} {site : Site} {update : JobUpdate}
    (under : UnderKey request ⟨site, .updateExecutionJob update⟩) {row : JobRow}
    (selected : update.selects row = true)
    : request.tenant = .ok row.tenantId := by
  obtain ⟨tenantId, known, under⟩ := under
  cases under with
  | update own => rw [known, Db.selects_tenantId selected own]
  | billing issued => cases issued

theorem UnderKey.debit {request : Request} {site : Site} {entry : LedgerEntry}
    (under : UnderKey request ⟨site, .debitInsert entry⟩)
    : request.tenant = .ok entry.tenantId := by
  obtain ⟨tenantId, known, under⟩ := under
  cases under with
  | billing issued =>
      cases issued
      exact known

theorem actsFor_of_update {kind : Kind} {site : Site} {update : JobUpdate}
    (issued : KindCall kind ⟨site, .updateExecutionJob update⟩)
    (keyed : KeyHeld kind ⟨site, .updateExecutionJob update⟩) {row : JobRow}
    (selected : update.selects row = true)
    : ActsFor row.tenantId kind := by
  cases kindCall_update issued with
  | cancel asked =>
      obtain ⟨request, rfl | rfl⟩ := asked <;> exact UnderKey.update keyed selected
  | complete => exact UnderKey.update keyed selected
  | retry => exact UnderKey.update keyed selected
  | completeV1 => exact UnderKey.update keyed selected
  | @ack request tokenValid =>
      cases tokenValid with
      | true => exact Or.inl rfl
      | false => exact Or.inr (UnderKey.update keyed selected)
  | dispatchEnd _ _ tenant => exact (Db.selects_tenantId selected tenant).symm
  | running _ tenant => exact (Db.selects_tenantId selected tenant).symm
  | final => exact (Db.selects_tenantId selected rfl).symm
  | marker => exact (Db.selects_tenantId selected rfl).symm
  | drain => exact (Db.selects_tenantId selected rfl).symm
  | submitBackend => exact (Db.selects_tenantId selected rfl).symm
  | _ => trivial

/-- A transaction that changes a row of a job, by cases of the change. -/
theorem actsFor_of_changed {kind : Kind} {call : Call} {db : Db} {jobId : JobId} {row : JobRow}
    (issued : KindCall kind call) (keyed : KeyHeld kind call) (found : db.job? jobId = some row)
    (changed : (db.apply call.query).2.job? jobId ≠ some row)
    : ActsFor row.tenantId kind := by
  obtain ⟨site, query⟩ := call
  have change := db.apply_job? query jobId
  revert change changed
  generalize (db.apply query).2.job? jobId = after
  intro changed change
  cases change with
  | same => exact absurd found changed
  | update found' selected =>
      cases found.symm.trans found'
      exact actsFor_of_update issued keyed selected
  | insert absent =>
      rw [found] at absent
      cases absent
  | claim =>
      cases kindCall_issuedBy issued
      trivial
  | orphan =>
      cases kindCall_issuedBy issued
      trivial

/-- In every run of the service, a step that changes the row of a job is one of a thread that acts
for the job's tenant.
-/
theorem job_rows_isolated {ok : Config bridge Db Kind Answer → Label Kind → Prop} {db : Db}
    {config next : Config bridge Db Kind Answer} {label : Label Kind} {jobId : JobId}
    {row : JobRow} (reached : service.Reaches ok (idle db) config)
    (stepped : service.step config label = some next)
    (found : config.store.job? jobId = some row) (changed : next.store.job? jobId ≠ some row)
    : ∃ kind call fault,
        config.executing label = some (kind, call, fault) ∧ ActsFor row.tenantId kind := by
  rcases service.step_store stepped with
    ⟨_, store⟩ | ⟨thread, member, call, _, fault, waits, runs, store⟩
  · rw [store] at changed
    exact absurd found changed
  · have issued := (reached.issues bodyOf_issues (by simp [idle]) thread member).1
    have keyed := (reached.issues bodyOf_keyHeld (by simp [idle]) thread member).1
    rw [waits] at issued keyed
    refine ⟨_, _, _, runs, ?_⟩
    rw [store] at changed
    rcases service.exec_store call fault config.store with unchanged | effect
    · rw [unchanged] at changed
      exact absurd found changed
    · rw [effect] at changed
      exact actsFor_of_changed issued.1 keyed.1 found changed

/-- Witness: a tenant cancels its own running job. -/
theorem job_rows_isolated_cancel
    : ∃ config next row,
        service.Reaches (fun _ _ => True) (idle Db.empty) config
        ∧ service.step config (.exec 4 .none) = some next
        ∧ config.store.job? jobA = some row
        ∧ next.store.status? jobA = some .cancelled
        ∧ ∃ kind call fault,
            config.executing (.exec 4 .none) = some (kind, call, fault)
            ∧ ActsFor row.tenantId kind := by
  have ran
      : (service.run (fun _ _ => true) (idle Db.empty)
          (claimedJob 10 "completed"
            ++ [.arrive (.cancelJob { tenant := .ok "t" } jobA), .exec 4 .none])).any
          (fun config =>
            config.store.status? jobA == some .running
            && (service.step config (.exec 4 .none)).any (fun next =>
              next.store.status? jobA == some .cancelled))
        = true := by
    decide +kernel
  obtain ⟨config, reached, passed⟩ := reaches_check _ ran
  simp only [Bool.and_eq_true, beq_iff_eq, Option.any_eq_true] at passed
  obtain ⟨before, next, stepped, after⟩ := passed
  obtain ⟨row, found, running⟩ := Option.map_eq_some_iff.mp before
  refine ⟨config, next, row, reached, stepped, found, after,
    job_rows_isolated reached stepped found (fun same => ?_)⟩
  have cancelled : some row.status = some .cancelled := by
    rw [← after, Db.status?, same, Option.map_some]
  rw [running] at cancelled
  cases cancelled

-- Where the rows of the ledger come from

/-- Where a row comes from, given the threads: the DEBIT of a job by one that acts for its tenant, the
refund of a job by its executor or by the sweep, or the CREDIT of an admin top-up.
-/
inductive Source (kinds : List Kind) : LedgerEntry → Prop
  | charge {kind tenantId jobId gpuSec planName} (present : kind ∈ kinds)
    (bills : Bills kind tenantId jobId gpuSec planName) (acts : ActsFor tenantId kind)
    (named : tenantId ≠ "") (positive : 0 < totalCost gpuSec 0 0)
    : Source kinds (billingEntry tenantId jobId gpuSec planName)
  | refund {kind tenantId jobId amount} (present : kind ∈ kinds) (nonneg : 0 ≤ amount)
    (pays
      : (∃ world, kind = .executeAndBill jobId tenantId world) ∨ kind = .sweepRefundPending)
    : Source kinds (refundEntry tenantId jobId amount)
  | topUp {tenantId amount key nonce note entry}
    (present : .topUp tenantId amount key nonce note ∈ kinds)
    (credit : entry.entryType = .credit) (tenant : entry.tenantId = strip tenantId)
    (amounts : entry.amount = amount) (positive : 0 < amount)
    : Source kinds entry

theorem Source.mono {kinds more : List Kind} {entry : LedgerEntry} (source : Source kinds entry)
    : Source (kinds ++ more) entry := by
  cases source with
  | charge present bills acts named positive =>
      exact .charge (List.mem_append_left _ present) bills acts named positive
  | refund present nonneg pays => exact .refund (List.mem_append_left _ present) nonneg pays
  | topUp present credit tenant amounts positive =>
      exact .topUp (List.mem_append_left _ present) credit tenant amounts positive

end RomaBridge.Properties
