import RomaBridge.Behaviour.Vocabulary

/-! The vocabulary of each kind of thread and of the service as a whole.
Each function keeps every closed property that its own calls and `finalize_job_billing` have;
the vocabulary is the case of syntactic reach.
-/

namespace RomaBridge.Model

open RomaBridge.Foundation Program

-- The worker

/-- Calls of `execute_and_bill` outside billing. -/
inductive WorkerCall (jobId : JobId) (tenantId : String) (world : WorkerWorld) : Call → Prop
  | dispatchEnd {site update}
    (sited : site = .workerDispatchFailed ∨ site = .workerNotReady ∨ site = .workerDispatchError)
    (job : update.jobId = jobId) (tenant : update.tenantId = some tenantId)
    (status : update.status = some .failed)
    : WorkerCall jobId tenantId world ⟨site, .updateExecutionJob update⟩
  | running {update} (job : update.jobId = jobId) (tenant : update.tenantId = some tenantId)
    (status : update.status = some .running) (error : update.error = none)
    : WorkerCall jobId tenantId world ⟨.workerRunning, .updateExecutionJob update⟩
  | final {status billingStatus} (ended : status = "timeout" ∨ status ∈ pollEnds)
    : WorkerCall jobId tenantId world
        ⟨.workerFinal,
          .updateExecutionJob (finalUpdate jobId tenantId world status billingStatus)⟩
  | reread : WorkerCall jobId tenantId world ⟨.workerReread, .getExecutionJob jobId⟩
  | refund {call} (issued : RefundCall tenantId jobId world.costUsd call)
    : WorkerCall jobId tenantId world call
  | marker
    : WorkerCall jobId tenantId world
        ⟨.workerRefundMarker, .updateExecutionJob (markerUpdate jobId tenantId world.costUsd)⟩
  | drain
    : WorkerCall jobId tenantId world
        ⟨.workerDrain, .updateExecutionJob (drainUpdate jobId tenantId world)⟩

section Worker

variable {jobId : JobId} {tenantId : String} {world : WorkerWorld}

theorem pollRound_ends {answer : PollAnswer} {status : String}
    (ended : pollRound answer = .ok (some status))
    : status ∈ pollEnds := by
  unfold pollRound at ended
  split at ended
  · split at ended <;> cases ended
  · dsimp only at ended
    split at ended
    · rename_i accepted
      cases ended
      simpa using accepted
    · split at ended
      · split at ended
        · cases ended
          split <;> decide
        · split at ended
          · cases ended
            decide
          · cases ended
      · cases ended

/-- The poll loop ends with an accepted status or with `timeout`, by induction on the rounds. -/
theorem pollLoop_ends {poll : ℕ → PollAnswer} {rounds round : ℕ} {status : String}
    (ended : pollLoop poll rounds round = .ok status)
    : status = "timeout" ∨ status ∈ pollEnds := by
  induction rounds generalizing round with
  | zero =>
      cases ended
      exact Or.inl rfl
  | succ rounds ih =>
      unfold pollLoop at ended
      cases first : pollRound (poll round) with
      | error exn =>
          rw [first] at ended
          cases ended
      | ok found =>
          rw [first] at ended
          cases found with
          | some final =>
              cases ended
              exact Or.inr (pollRound_ends first)
          | none =>
              cases slept : (poll round).sleep with
              | error exn =>
                  simp only [slept] at ended
                  cases ended
              | ok awake =>
                  simp only [slept] at ended
                  exact ih ended

variable {Φ : (α : Type) → Action α → Prop} (closed : Closed Φ)
  (asks : ∀ {site query}, WorkerCall jobId tenantId world ⟨site, query⟩ → Φ _ (ask site query))

include closed asks

theorem dispatchPhase_closed
    : Φ _ (dispatchPhase jobId tenantId world) := by
  refine Closed.catchException closed (closed.bind (closed.ofExcept _) ?_) ?_
  · intro result
    dsimp only
    split
    · exact closed.bind (asks (.dispatchEnd (by simp) rfl rfl rfl)) (fun _ => closed.done _)
    · split
      · exact closed.bind (asks (.dispatchEnd (by simp) rfl rfl rfl)) (fun _ => closed.done _)
      · exact closed.bind (asks (.running rfl rfl rfl rfl)) (fun _ => closed.done _)
  · intro exn
    exact closed.bind (asks (.dispatchEnd (by simp) rfl rfl rfl)) (fun _ => closed.done _)

theorem markRefundPending_closed
    : Φ _ (markRefundPending jobId tenantId world.costUsd) :=
  Closed.suppress closed (closed.bind (asks .marker) (fun _ => closed.done _))

theorem refundAttempts_closed
    {sleep : ℕ → Except Exn Unit} {left attempt : ℕ}
    : Φ _ (refundAttempts jobId tenantId world.costUsd sleep left attempt) := by
  induction left generalizing attempt with
  | zero => exact closed.done _
  | succ left ih =>
      refine closed.bind
        (closed.attempt (refundJob_closed closed (fun issued => asks (.refund issued)))) ?_
      rintro (exn | ledgerId)
      · dsimp only
        split
        · exact closed.bind (closed.ofExcept _) (fun _ => ih)
        · exact closed.raised exn
      · exact closed.done _

theorem finalWrite_closed
    {status : String} {billingStatus : BillingStatus}
    (ended : status = "timeout" ∨ status ∈ pollEnds)
    : Φ _ (finalWrite jobId tenantId world status billingStatus) := by
  refine closed.bind (asks (.final ended)) ?_
  intro n
  split
  · refine closed.bind (asks .reread) ?_
    rintro (_ | current)
    · exact closed.done _
    · dsimp only
      split
      · refine Closed.catchException closed
          (closed.bind (refundAttempts_closed closed asks) ?_) ?_
        · intro refunded
          split
          · exact markRefundPending_closed closed asks
          · exact closed.done _
        · intro exn
          exact markRefundPending_closed closed asks
      · exact closed.done _
  · exact closed.done _

theorem pollAndBill_closed
    (billing
      : ∀ backend, Φ _ (finalizeJobBilling tenantId jobId world.billable world.plan backend))
    {dispatched : Dispatched}
    : Φ _ (pollAndBill jobId tenantId world dispatched) := by
  refine closed.ofExcept_bind ?_
  intro status polled
  refine closed.bind (tryFinalize_closed closed (billing _)) ?_
  intro billingStatus
  refine closed.bind (finalWrite_closed closed asks (pollLoop_ends polled)) ?_
  intro _
  refine closed.bind ?_ (fun _ => closed.done _)
  unfold cleanup
  split
  · exact Closed.suppress closed (closed.ofExcept _)
  · exact closed.done _

theorem executeAndBill_closed
    (billing
      : ∀ backend, Φ _ (finalizeJobBilling tenantId jobId world.billable world.plan backend))
    : Φ _ (executeAndBill jobId tenantId world) := by
  refine closed.handle (closed.bind (dispatchPhase_closed closed asks) ?_) ?_
  · rintro (result | dispatched)
    · exact closed.done _
    · exact pollAndBill_closed closed asks billing
  · intro exn
    dsimp only
    split
    · exact closed.bind
        (Closed.suppress closed (closed.bind (asks .drain) (fun _ => closed.done _)))
        (fun _ => closed.raised exn)
    · exact closed.raised exn

end Worker
-- The sweepers

/-- Calls of the billing sweeper on one row outside billing. -/
inductive SweepRowCall (job : JobRow) : Call → Prop
  | close {site default error costUsd}
    (sited : site = .sweepBilled ∨ site = .sweepMismatch ∨ site = .sweepSkip)
    (ended : default = "completed" ∨ default = "error")
    (text : error = "" ∨ error = "billing:mismatch")
    : SweepRowCall job
        ⟨site,
          .updateExecutionJob
            (sweepUpdate job ((billingExecStatus job.error).getD default) error costUsd)⟩
  | noFunds
    : SweepRowCall job
        ⟨.sweepNoFunds,
          .updateExecutionJob
            (errorUpdate job (billingPendingError .noFunds (billingExecStatus job.error)))⟩

/-- Calls of the billing sweeper outside billing, for whichever rows it was given. -/
inductive SweepCall : Call → Prop
  | list {excludeIds} : SweepCall ⟨.sweepList, .getBillingPendingJobs billingPendingBatch excludeIds⟩
  | row {job call} (issued : SweepRowCall job call) : SweepCall call

/-- Calls of the refund sweeper, for whichever rows it was given. -/
inductive RefundSweepCall : Call → Prop
  | list : RefundSweepCall ⟨.refundList, .getRefundPendingJobs 50⟩
  | refund {tenantId jobId amount call} (issued : RefundCall tenantId jobId amount call)
    : RefundSweepCall call
  | clear {job : JobRow}
    : RefundSweepCall ⟨.refundClear, .updateExecutionJob (errorUpdate job "")⟩

section Sweepers

variable {Φ : (α : Type) → Action α → Prop} (closed : Closed Φ)

include closed

theorem sweepRow_closed {input : SweepInput} {job : JobRow}
    {memory : NoFundsMemory}
    (asks : ∀ {site query}, SweepRowCall job ⟨site, query⟩ → Φ _ (ask site query))
    (billing
      : Φ _ (finalizeJobBilling job.tenantId job.id (job.durationSeconds.getD 0)
          (input.plan job.tenantId) job.backend))
    : Φ _ (sweepRow input job memory) := by
  refine closed.bind (tryFinalize_closed closed billing) ?_
  intro status
  cases status with
  | ok =>
      refine closed.bind
        (closed.attempt (asks (.close (by simp) (Or.inl rfl) (Or.inl rfl)))) ?_
      rintro (exn | n)
      · dsimp only
        split
        · exact closed.done _
        · exact closed.done _
        · split
          · exact closed.done _
          · exact closed.raised _
      · exact closed.done _
  | noFunds =>
      dsimp only [sweepNoFunds]
      split
      · exact closed.bind (asks .noFunds) (fun _ => closed.done _)
      · exact closed.done _
  | mismatch =>
      exact closed.bind
        (Closed.suppress closed (closed.bind
          (asks (.close (by simp) (Or.inr rfl) (Or.inr rfl))) (fun _ => closed.done _)))
        (fun _ => closed.done _)
  | skip =>
      exact closed.bind
        (Closed.suppress closed (closed.bind
          (asks (.close (by simp) (Or.inl rfl) (Or.inl rfl))) (fun _ => closed.done _)))
        (fun _ => closed.done _)
  | pgError => exact closed.done _
  | error => exact closed.done _

theorem sweepRows_closed {input : SweepInput} {rows : List JobRow}
    {memory : NoFundsMemory}
    (asks : ∀ {job site query}, job ∈ rows → SweepRowCall job ⟨site, query⟩ → Φ _ (ask site query))
    (billing
      : ∀ job ∈ rows,
          Φ _ (finalizeJobBilling job.tenantId job.id (job.durationSeconds.getD 0)
            (input.plan job.tenantId) job.backend))
    : Φ _ (sweepRows input rows memory) := by
  induction rows generalizing memory with
  | nil => exact closed.done _
  | cons job rest ih =>
      refine closed.bind
        (sweepRow_closed closed (asks (by simp)) (billing job (by simp))) ?_
      intro step
      split
      · exact closed.done _
      · refine closed.bind (ih ?_ ?_) (fun _ => closed.done _)
        · exact fun member => asks (List.mem_cons_of_mem _ member)
        · exact fun other member => billing other (List.mem_cons_of_mem _ member)

theorem sweepBillingPendingOnce_closed
    (asks : ∀ {site query}, SweepCall ⟨site, query⟩ → Φ _ (ask site query))
    (billing
      : ∀ tenantId jobId gpuSec planName backend,
          Φ _ (finalizeJobBilling tenantId jobId gpuSec planName backend))
    {input : SweepInput}
    : Φ _ (sweepBillingPendingOnce input) := by
  refine closed.bind (asks .list) ?_
  intro jobs
  refine closed.bind (sweepRows_closed closed (fun _ issued => asks (.row issued))
    (fun _ _ => billing _ _ _ _ _)) ?_
  rintro ⟨outcomes, memory⟩
  dsimp only
  split
  · exact closed.done _
  · exact closed.done _

theorem refundRow_closed
    (asks : ∀ {site query}, RefundSweepCall ⟨site, query⟩ → Φ _ (ask site query))
    {job : JobRow}
    : Φ _ (refundRow job) := by
  unfold refundRow
  split
  · exact closed.done _
  · refine closed.bind (closed.attempt (closed.bind
      (refundJob_closed closed (fun issued => asks (.refund issued)))
      (fun _ => closed.bind (asks .clear) (fun _ => closed.done _)))) ?_
    rintro (exn | done)
    · dsimp only
      split
      · exact closed.done _
      · exact closed.done _
      · split
        · exact closed.done _
        · exact closed.raised _
    · exact closed.done _

theorem refundRows_closed
    (asks : ∀ {site query}, RefundSweepCall ⟨site, query⟩ → Φ _ (ask site query))
    {rows : List JobRow}
    : Φ _ (refundRows rows) := by
  induction rows with
  | nil => exact closed.done _
  | cons job rest ih =>
      refine closed.bind (refundRow_closed closed asks) ?_
      intro outcome
      split
      · exact closed.done _
      · exact closed.bind ih (fun _ => closed.done _)

theorem sweepRefundPendingOnce_closed
    (asks : ∀ {site query}, RefundSweepCall ⟨site, query⟩ → Φ _ (ask site query))
    : Φ _ sweepRefundPendingOnce := by
  refine closed.bind (closed.attempt (asks .list)) ?_
  rintro (exn | jobs)
  · dsimp only
    split
    · exact closed.done _
    · exact closed.raised _
  · exact refundRows_closed closed asks

end Sweepers

-- The endpoints

/-- Calls of both cancel endpoints. -/
inductive CancelCall (jobId : JobId) : Call → Prop
  | read {site} : CancelCall jobId ⟨site, .getExecutionJob jobId⟩
  | write {site tenantId now} (sited : site = .cancelWrite ∨ site = .jobsCancelWrite)
    : CancelCall jobId ⟨site, .updateExecutionJob (cancelUpdate jobId tenantId now)⟩

/-- Calls of `/complete` outside billing. -/
inductive CompleteCall (jobId : JobId) : Call → Prop
  | read {site} : CompleteCall jobId ⟨site, .getExecutionJob jobId⟩
  | write {tenantId now}
    : CompleteCall jobId
        ⟨.completeWrite, .updateExecutionJob (completeUpdate jobId tenantId now)⟩

inductive RetryCall (jobId : JobId) : Call → Prop
  | read {site} : RetryCall jobId ⟨site, .getExecutionJob jobId⟩
  | write {tenantId}
    : RetryCall jobId ⟨.retryWrite, .updateExecutionJob (retryUpdate jobId tenantId)⟩

/-- Calls of `/v1` complete outside billing. -/
inductive CompleteV1Call (jobId : JobId) : Call → Prop
  | read {site} : CompleteV1Call jobId ⟨site, .getExecutionJob jobId⟩
  | write {tenantId now}
    : CompleteV1Call jobId
        ⟨.jobsCompleteWrite, .updateExecutionJob (completeV1Update jobId tenantId now)⟩

/-- Calls of an acknowledgement outside billing. -/
inductive AckCall (jobId : JobId) (action : AckAction) : Call → Prop
  | read {site} : AckCall jobId action ⟨site, .getExecutionJob jobId⟩
  | write {tenantId error now} (known : action ≠ .unknown)
    : AckCall jobId action
        ⟨.ackWrite, .updateExecutionJob (ackUpdate jobId tenantId action error now)⟩

inductive SubmitCall (request : SubmitRequest) : Call → Prop
  | read {site jobId} : SubmitCall request ⟨site, .getExecutionJob jobId⟩
  | find {site key} : SubmitCall request ⟨site, .findJobByIdempotency request.tenantId key⟩
  | reserve {key} (parsed : parseIdempotencyKey request.header = .ok (some key))
    : SubmitCall request
        ⟨.submitReserve, .createJobIdempotency request.tenantId key request.newId⟩
  | insert
    : SubmitCall request
        ⟨.submitInsert,
          .insertExecutionJob request.newId request.tenantId .queued request.gpuRequired⟩
  | backend
    : SubmitCall request
        ⟨.submitBackend,
          .updateExecutionJob {
            jobId := request.newId
            backend := request.backend
            tenantId := some request.tenantId }⟩

/-- Calls of an admin top-up: CREDIT rows and reads. Without a key the row's id is fresh. -/
inductive TopUpCall (idempotencyKey : Option String) : Call → Prop
  | credit {ledgerId tenantId amount currency metadata} (positive : 0 < amount)
    (unkeyed : idempotencyKey = none → ∃ nonce, ledgerId = .fresh nonce)
    : TopUpCall idempotencyKey
        ⟨.ledgerCredit, .creditInsert (creditEntry ledgerId tenantId amount currency metadata)⟩
  | lookup {ledgerId tenantId}
    : TopUpCall idempotencyKey ⟨.ledgerCreditLookup, .ledgerSelect ledgerId tenantId⟩

section Routes

variable {request : Request} {jobId : JobId} {Φ : (α : Type) → Action α → Prop} (closed : Closed Φ)

include closed

theorem ownedJob_closed {site : Site} {tenantId : String}
    (read : Φ _ (ask site (.getExecutionJob jobId)))
    : Φ _ (ownedJob site tenantId jobId) := by
  refine closed.bind read ?_
  rintro (_ | job)
  · exact closed.raised _
  · dsimp only
    split
    · exact closed.raised _
    · exact closed.done _

theorem billForRoute_closed
    (billing
      : ∀ tenantId gpuSec planName backend,
          Φ _ (finalizeJobBilling tenantId jobId gpuSec planName backend))
    {tenantId : String} {job : JobRow}
    : Φ _ (billForRoute request tenantId jobId job) := by
  unfold billForRoute
  split
  · exact closed.raised _
  · refine closed.bind (closed.ofExcept _) ?_
    intro planName
    refine closed.bind (closed.attempt (billing _ _ _ _)) ?_
    rintro (exn | status)
    · cases exn <;> exact closed.raised _
    · cases status with
      | noFunds => exact closed.raised _
      | mismatch => exact closed.raised _
      | _ => exact closed.done _

theorem cancelJob_closed
    (asks : ∀ {site query}, CancelCall jobId ⟨site, query⟩ → Φ _ (ask site query))
    : Φ _ (cancelJob request jobId) := by
  refine closed.bind (closed.ofExcept _) ?_
  intro tenantId
  refine closed.bind (ownedJob_closed closed (asks .read)) ?_
  intro job
  refine closed.bind (asks (.write (by simp))) ?_
  intro n
  split
  · exact closed.bind (asks .read) (fun _ => closed.raised _)
  · exact closed.bind (Closed.suppress closed (closed.ofExcept _)) (fun _ => closed.done _)

theorem cancelJobV1_closed
    (asks : ∀ {site query}, CancelCall jobId ⟨site, query⟩ → Φ _ (ask site query))
    : Φ _ (cancelJobV1 request jobId) := by
  refine closed.bind (closed.ofExcept _) ?_
  intro tenantId
  refine closed.bind (ownedJob_closed closed (asks .read)) ?_
  intro job
  refine closed.bind (Closed.guardHttp closed _ _) ?_
  intro _
  refine closed.bind (Closed.guardHttp closed _ _) ?_
  intro _
  refine closed.bind (asks (.write (by simp))) ?_
  intro n
  split
  · exact closed.bind (asks .read) (fun _ => closed.raised _)
  · exact closed.done _

theorem completeJob_closed
    (asks : ∀ {site query}, CompleteCall jobId ⟨site, query⟩ → Φ _ (ask site query))
    (billing
      : ∀ tenantId gpuSec planName backend,
          Φ _ (finalizeJobBilling tenantId jobId gpuSec planName backend))
    : Φ _ (completeJob request jobId) := by
  refine closed.bind (closed.ofExcept _) ?_
  intro tenantId
  refine closed.bind (ownedJob_closed closed (asks .read)) ?_
  intro job
  refine closed.bind (billForRoute_closed closed billing) ?_
  intro billed
  split
  · refine closed.bind (Closed.suppress closed (closed.ofExcept _)) ?_
    intro _
    refine closed.bind (asks .write) ?_
    intro n
    split
    · exact closed.bind (asks .read) (fun _ => closed.done _)
    · exact closed.done _
  · exact closed.done _

theorem retryJob_closed
    (asks : ∀ {site query}, RetryCall jobId ⟨site, query⟩ → Φ _ (ask site query))
    : Φ _ (retryJob request jobId) := by
  refine closed.bind (closed.ofExcept _) ?_
  intro tenantId
  refine closed.bind (ownedJob_closed closed (asks .read)) ?_
  intro job
  refine closed.bind (Closed.guardHttp closed _ _) ?_
  intro _
  refine closed.bind (Closed.guardHttp closed _ _) ?_
  intro _
  exact closed.bind (asks .write) (fun _ => closed.done _)

theorem completeJobV1_closed
    (asks : ∀ {site query}, CompleteV1Call jobId ⟨site, query⟩ → Φ _ (ask site query))
    (billing
      : ∀ tenantId gpuSec planName backend,
          Φ _ (finalizeJobBilling tenantId jobId gpuSec planName backend))
    : Φ _ (completeJobV1 request jobId) := by
  refine closed.bind (closed.ofExcept _) ?_
  intro tenantId
  refine closed.bind (ownedJob_closed closed (asks .read)) ?_
  intro job
  refine closed.bind (Closed.guardHttp closed _ _) ?_
  intro _
  refine closed.bind (billForRoute_closed closed billing) ?_
  intro billed
  split
  · exact closed.bind (asks .write) (fun _ => closed.done _)
  · exact closed.done _

theorem workerAck_closed {action : AckAction}
    (asks : ∀ {site query}, AckCall jobId action ⟨site, query⟩ → Φ _ (ask site query))
    (billing
      : action = .complete
        → ∀ tenantId gpuSec planName backend,
            Φ _ (finalizeJobBilling tenantId jobId gpuSec planName backend))
    {tokenValid : Bool} {error : Option String}
    : Φ _ (workerAck request tokenValid action error jobId) := by
  unfold workerAck
  split
  · exact closed.raised _
  · rename_i known
    refine closed.bind ?_ ?_
    · unfold ackJob
      split
      · refine closed.bind (asks .read) ?_
        rintro (_ | job)
        · exact closed.raised _
        · exact closed.done _
      · refine closed.bind (closed.ofExcept _) ?_
        intro tenantId
        refine closed.bind (ownedJob_closed closed (asks .read)) ?_
        intro job
        split
        · exact closed.raised _
        · exact closed.done _
    · rintro ⟨job, tenantId⟩
      refine closed.bind (Closed.guardHttp closed _ _) ?_
      intro _
      refine closed.bind ?_ ?_
      · unfold ackBills
        split
        · rename_i completes
          exact billForRoute_closed closed (billing completes)
        · exact closed.done _
      · intro proceed
        split
        · exact closed.bind (asks (.write known)) (fun _ => closed.done _)
        · exact closed.done _

theorem answerFrom_closed {site : Site} {tenantId : String}
    (read : Φ _ (ask site (.getExecutionJob jobId)))
    : Φ _ (answerFrom site tenantId jobId) := by
  refine closed.bind read ?_
  rintro (_ | existing)
  · exact closed.done _
  · dsimp only
    split
    · exact closed.done _
    · exact closed.done _

theorem submitInsert_closed {request : SubmitRequest}
    (asks : ∀ {site query}, SubmitCall request ⟨site, query⟩ → Φ _ (ask site query))
    : Φ _ (submitInsert request) := by
  refine closed.bind (asks .insert) ?_
  intro inserted
  split
  · exact closed.raised _
  · exact closed.bind (asks .backend) (fun _ => closed.done _)

theorem submitTask_closed {request : SubmitRequest}
    (asks : ∀ {site query}, SubmitCall request ⟨site, query⟩ → Φ _ (ask site query))
    : Φ _ (submitTask request) := by
  refine closed.ofExcept_bind ?_
  rintro (_ | key) parsed
  · exact closed.bind (Closed.guardHttp closed _ _) (fun _ => submitInsert_closed closed asks)
  · refine closed.bind (closed.bind (asks .find) ?_) ?_
    · rintro (_ | found)
      · exact closed.done _
      · exact answerFrom_closed closed (asks .read)
    · rintro (_ | response)
      · refine closed.bind (Closed.guardHttp closed _ _) ?_
        intro _
        refine closed.bind (closed.bind (asks (.reserve parsed)) ?_) ?_
        · intro reserved
          split
          · exact closed.done _
          · refine closed.bind (asks .find) ?_
            rintro (_ | winner)
            · exact closed.done _
            · exact answerFrom_closed closed (asks .read)
        · rintro (_ | response)
          · exact submitInsert_closed closed asks
          · exact closed.done _
      · exact closed.done _

theorem topUp_closed {idempotencyKey : Option String}
    (asks : ∀ {site query}, TopUpCall idempotencyKey ⟨site, query⟩ → Φ _ (ask site query))
    {tenantId : String} {amount : ℚ} {nonce note : String}
    : Φ _ (topUp tenantId amount idempotencyKey nonce note) := by
  unfold topUp
  split
  · exact closed.raised _
  · split
    · exact closed.raised _
    · rename_i nonpos
      have positive := not_le.mp nonpos
      refine closed.handle (closed.bind ?_ ?_) ?_
      · unfold rejectInvalidMoneyAmount
        split
        · exact closed.raised _
        · exact closed.done _
      · intro _
        split
        · rename_i named
          refine creditKeyed_closed closed (asks (.credit positive ?_)) (asks .lookup)
          rintro rfl
          cases named
        · refine closed.bind (asks (.credit positive (fun _ => ⟨nonce, rfl⟩))) ?_
          rintro (_ | inserted)
          · exact closed.raised _
          · exact closed.done _
      · intro exn
        dsimp only
        split
        · exact closed.raised _
        · exact closed.raised _

end Routes

-- The service

def OwnCall : Kind → Call → Prop
  | .executeAndBill jobId tenantId world => WorkerCall jobId tenantId world
  | .sweepBillingPending _ => SweepCall
  | .sweepRefundPending => RefundSweepCall
  | .sweepOrphans timeoutSeconds =>
      fun call => call = ⟨.orphanSweep, .sweepOrphanRunningJobs timeoutSeconds⟩
  | .claimTick limit locked world =>
      fun call => call = ⟨.claim, .claimQueuedExecutionJobs limit locked world⟩
  | .cancelJob _ jobId => CancelCall jobId
  | .completeJob _ jobId => CompleteCall jobId
  | .retryJob _ jobId => RetryCall jobId
  | .cancelJobV1 _ jobId => CancelCall jobId
  | .completeJobV1 _ jobId => CompleteV1Call jobId
  | .workerAck _ _ action _ jobId => AckCall jobId action
  | .submitTask request => SubmitCall request
  | .createDecisionJob tenantId gpuRequired newId =>
      fun call => call = ⟨.decisionInsert, .insertExecutionJob newId tenantId .queued gpuRequired⟩
  | .topUp _ _ idempotencyKey _ _ => TopUpCall idempotencyKey
  | .clock seconds => fun call => call = ⟨.databaseClock, .advanceClock seconds⟩

/-- The invocations of `finalize_job_billing` by each kind of thread. -/
def Bills : Kind → String → JobId → ℚ → String → Prop
  | .executeAndBill jobId tenantId world => fun tenantId' jobId' gpuSec planName =>
      tenantId' = tenantId ∧ jobId' = jobId ∧ gpuSec = world.billable ∧ planName = world.plan
  | .sweepBillingPending _ => fun _ _ _ _ => True
  | .completeJob _ jobId => fun _ jobId' _ _ => jobId' = jobId
  | .completeJobV1 _ jobId => fun _ jobId' _ _ => jobId' = jobId
  | .workerAck _ _ action _ jobId => fun _ jobId' _ _ => jobId' = jobId ∧ action = .complete
  | _ => fun _ _ _ _ => False

/-- The vocabulary of each kind of thread. -/
def KindCall (kind : Kind) (call : Call) : Prop :=
  OwnCall kind call
  ∨ ∃ tenantId jobId gpuSec planName backend,
      Bills kind tenantId jobId gpuSec planName
      ∧ BillingCall tenantId jobId gpuSec planName backend call

/-- A closed property holds of a thread's program if it holds of the thread's own calls and
of its invocations of `finalize_job_billing`, by cases of the kind.
-/
theorem bodyOf_closed {Φ : (α : Type) → Action α → Prop} (closed : Closed Φ) {kind : Kind}
    (asks : ∀ {site query}, OwnCall kind ⟨site, query⟩ → Φ _ (ask site query))
    (billing
      : ∀ tenantId jobId gpuSec planName backend,
          Bills kind tenantId jobId gpuSec planName
          → Φ _ (finalizeJobBilling tenantId jobId gpuSec planName backend))
    : Φ _ (bodyOf kind) := by
  cases kind with
  | executeAndBill jobId tenantId world =>
      exact closed.bind
        (executeAndBill_closed closed asks
          (fun _ => billing _ _ _ _ _ ⟨rfl, rfl, rfl, rfl⟩))
        (fun _ => closed.done _)
  | sweepBillingPending input =>
      exact closed.bind
        (sweepBillingPendingOnce_closed closed asks
          (fun _ _ _ _ _ => billing _ _ _ _ _ trivial))
        (fun _ => closed.done _)
  | sweepRefundPending =>
      exact closed.bind (sweepRefundPendingOnce_closed closed asks) (fun _ => closed.done _)
  | sweepOrphans timeoutSeconds =>
      refine closed.bind ?_ (fun _ => closed.done _)
      unfold sweepOrphansOnce
      split
      · exact closed.raised _
      · exact asks rfl
  | claimTick limit locked world => exact closed.bind (asks rfl) (fun _ => closed.done _)
  | cancelJob request jobId =>
      exact closed.bind (cancelJob_closed closed asks) (fun _ => closed.done _)
  | completeJob request jobId =>
      exact closed.bind
        (completeJob_closed closed asks
          (fun _ _ _ _ => billing _ _ _ _ _ rfl))
        (fun _ => closed.done _)
  | retryJob request jobId =>
      exact closed.bind (retryJob_closed closed asks) (fun _ => closed.done _)
  | cancelJobV1 request jobId =>
      exact closed.bind (cancelJobV1_closed closed asks) (fun _ => closed.done _)
  | completeJobV1 request jobId =>
      exact closed.bind
        (completeJobV1_closed closed asks
          (fun _ _ _ _ => billing _ _ _ _ _ rfl))
        (fun _ => closed.done _)
  | workerAck request tokenValid action error jobId =>
      exact closed.bind
        (workerAck_closed closed asks
          (fun completes _ _ _ _ => billing _ _ _ _ _ ⟨rfl, completes⟩))
        (fun _ => closed.done _)
  | submitTask request =>
      exact closed.bind (submitTask_closed closed asks) (fun _ => closed.done _)
  | createDecisionJob tenantId gpuRequired newId =>
      refine closed.bind (closed.bind (asks rfl) ?_) (fun _ => closed.done _)
      intro inserted
      split
      · exact closed.raised _
      · exact closed.done _
  | topUp tenantId amount idempotencyKey nonce note =>
      exact closed.bind (topUp_closed closed asks) (fun _ => closed.done _)
  | clock seconds => exact closed.bind (asks rfl) (fun _ => closed.done _)

theorem bodyOf_issues (kind : Kind) : (bodyOf kind).Issues (KindCall kind) :=
  bodyOf_closed (Issues.closed _) (fun own => Issues.ask (Or.inl own))
    (fun _ _ _ _ _ bills => finalizeJobBilling_issues.mono
      (fun _ issued => Or.inr ⟨_, _, _, _, _, bills, issued⟩))

theorem service_started {call : Call} {outcome : Except Exn call.query.Reply} {kind : Kind}
    (started : kind ∈ service.started call outcome)
    : ∃ jobId tenantId world, kind = .executeAndBill jobId tenantId world := by
  obtain ⟨site, query⟩ := call
  cases outcome with
  | error exn => cases started
  | ok reply =>
      cases query with
      | claimQueuedExecutionJobs limit locked world =>
          obtain ⟨row, _, rfl⟩ := List.mem_map.mp started
          exact ⟨_, _, _, rfl⟩
      | _ => cases started

theorem service_step {ok : Config bridge Db Kind Answer → Label Kind → Prop} {db : Db}
    {config next : Config bridge Db Kind Answer} {label : Label Kind}
    (reached : service.Reaches ok (idle db) config)
    (stepped : service.step config label = some next)
    : (config.executing label = none ∧ next.store = config.store)
      ∨ ∃ kind call fault,
          config.executing label = some (kind, call, fault)
          ∧ KindCall kind call
          ∧ next.store = (service.exec call fault config.store).2 := by
  rcases service.step_store stepped with idle | ⟨thread, member, call, rest, fault, waits, runs, store⟩
  · exact Or.inl idle
  · have issues := (reached.issues bodyOf_issues (by simp [idle]) thread member).1
    rw [waits] at issues
    exact Or.inr ⟨thread.kind, call, fault, runs, issues.1, store⟩

-- Writers of execution_jobs

/-- Every `UPDATE execution_jobs` of the service, with the thread and the place it comes from.
The claim and the orphan sweep are statements of their own.
-/
inductive JobWrite : Kind → Site → JobUpdate → Prop
  | dispatchEnd {jobId tenantId world site update}
    (sited : site = .workerDispatchFailed ∨ site = .workerNotReady ∨ site = .workerDispatchError)
    (job : update.jobId = jobId) (tenant : update.tenantId = some tenantId)
    (status : update.status = some .failed)
    : JobWrite (.executeAndBill jobId tenantId world) site update
  | running {jobId tenantId world update} (job : update.jobId = jobId)
    (tenant : update.tenantId = some tenantId) (status : update.status = some .running)
    (error : update.error = none)
    : JobWrite (.executeAndBill jobId tenantId world) .workerRunning update
  | final {jobId tenantId world status billingStatus}
    (ended : status = "timeout" ∨ status ∈ pollEnds)
    : JobWrite (.executeAndBill jobId tenantId world) .workerFinal
        (finalUpdate jobId tenantId world status billingStatus)
  | marker {jobId tenantId} {world : WorkerWorld}
    : JobWrite (.executeAndBill jobId tenantId world) .workerRefundMarker
        (markerUpdate jobId tenantId world.costUsd)
  | drain {jobId tenantId world}
    : JobWrite (.executeAndBill jobId tenantId world) .workerDrain
        (drainUpdate jobId tenantId world)
  | sweepClose {input site job status error costUsd}
    (sited : site = .sweepBilled ∨ site = .sweepMismatch ∨ site = .sweepSkip)
    : JobWrite (.sweepBillingPending input) site (sweepUpdate job status error costUsd)
  | sweepNoFunds {input job error}
    : JobWrite (.sweepBillingPending input) .sweepNoFunds (errorUpdate job error)
  | refundClear {job} : JobWrite .sweepRefundPending .refundClear (errorUpdate job "")
  | cancel {kind site jobId tenantId now}
    (asked : ∃ request, kind = .cancelJob request jobId ∨ kind = .cancelJobV1 request jobId)
    (sited : site = .cancelWrite ∨ site = .jobsCancelWrite)
    : JobWrite kind site (cancelUpdate jobId tenantId now)
  | complete {request jobId tenantId now}
    : JobWrite (.completeJob request jobId) .completeWrite (completeUpdate jobId tenantId now)
  | retry {request jobId tenantId}
    : JobWrite (.retryJob request jobId) .retryWrite (retryUpdate jobId tenantId)
  | completeV1 {request jobId tenantId now}
    : JobWrite (.completeJobV1 request jobId) .jobsCompleteWrite
        (completeV1Update jobId tenantId now)
  | ack {request tokenValid action error jobId tenantId error' now} (known : action ≠ .unknown)
    : JobWrite (.workerAck request tokenValid action error jobId) .ackWrite
        (ackUpdate jobId tenantId action error' now)
  | submitBackend {request : SubmitRequest}
    : JobWrite (.submitTask request) .submitBackend {
        jobId := request.newId
        backend := request.backend
        tenantId := some request.tenantId }

/-- A call of a thread, by its statement: the thread and the rows a write comes from. -/
inductive IssuedBy : Kind → Call → Prop
  | read {kind site jobId} : IssuedBy kind ⟨site, .getExecutionJob jobId⟩
  | lookup {kind site ledgerId tenantId} : IssuedBy kind ⟨site, .ledgerSelect ledgerId tenantId⟩
  | find {kind site tenantId key} : IssuedBy kind ⟨site, .findJobByIdempotency tenantId key⟩
  | listBilling {kind site limit excludeIds}
    : IssuedBy kind ⟨site, .getBillingPendingJobs limit excludeIds⟩
  | listRefunds {kind site limit} : IssuedBy kind ⟨site, .getRefundPendingJobs limit⟩
  | clock {kind site seconds} : IssuedBy kind ⟨site, .advanceClock seconds⟩
  | update {kind site update} (write : JobWrite kind site update)
    : IssuedBy kind ⟨site, .updateExecutionJob update⟩
  | debit {kind tenantId jobId gpuSec planName} (bills : Bills kind tenantId jobId gpuSec planName)
    (named : tenantId ≠ "") (positive : 0 < totalCost gpuSec 0 0)
    : IssuedBy kind ⟨.ledgerDebit, .debitInsert (billingEntry tenantId jobId gpuSec planName)⟩
  | usage {kind tenantId jobId gpuSec planName backend}
    (bills : Bills kind tenantId jobId gpuSec planName)
    : IssuedBy kind
        ⟨.usageRecord, .usageInsert (billingUsage tenantId jobId gpuSec backend) gpuSec 0 0⟩
  | refund {kind tenantId jobId amount} (nonneg : 0 ≤ amount)
    (pays
      : (∃ world, kind = .executeAndBill jobId tenantId world) ∨ kind = .sweepRefundPending)
    : IssuedBy kind ⟨.ledgerCredit, .creditInsert (refundEntry tenantId jobId amount)⟩
  | topUp {tenant amount key nonce note ledgerId tenantId credited currency metadata}
    (unkeyed : key = none → ∃ nonce, ledgerId = .fresh nonce)
    : IssuedBy (.topUp tenant amount key nonce note)
        ⟨.ledgerCredit, .creditInsert (creditEntry ledgerId tenantId credited currency metadata)⟩
  | claim {limit locked world}
    : IssuedBy (.claimTick limit locked world)
        ⟨.claim, .claimQueuedExecutionJobs limit locked world⟩
  | orphans {timeoutSeconds}
    : IssuedBy (.sweepOrphans timeoutSeconds) ⟨.orphanSweep, .sweepOrphanRunningJobs timeoutSeconds⟩
  | submit {request : SubmitRequest}
    : IssuedBy (.submitTask request)
        ⟨.submitInsert,
          .insertExecutionJob request.newId request.tenantId .queued request.gpuRequired⟩
  | reserve {request : SubmitRequest} {key}
    (parsed : parseIdempotencyKey request.header = .ok (some key))
    : IssuedBy (.submitTask request)
        ⟨.submitReserve, .createJobIdempotency request.tenantId key request.newId⟩
  | decision {tenantId gpuRequired newId}
    : IssuedBy (.createDecisionJob tenantId gpuRequired newId)
        ⟨.decisionInsert, .insertExecutionJob newId tenantId .queued gpuRequired⟩

/-- The list is complete, by cases of the kind and its vocabulary. -/
theorem kindCall_issuedBy {kind : Kind} {call : Call} (issued : KindCall kind call)
    : IssuedBy kind call := by
  rcases issued with own | ⟨_, _, _, _, _, bills, billing⟩
  · cases kind with
    | executeAndBill jobId tenantId world =>
        cases own with
        | dispatchEnd sited job tenant status =>
            exact .update (.dispatchEnd sited job tenant status)
        | running job tenant status error => exact .update (.running job tenant status error)
        | final ended => exact .update (.final ended)
        | reread => exact .read
        | refund issued =>
            cases issued with
            | credit nonneg => exact .refund nonneg (Or.inl ⟨world, rfl⟩)
            | lookup => exact .lookup
        | marker => exact .update .marker
        | drain => exact .update .drain
    | sweepBillingPending input =>
        cases own with
        | list => exact .listBilling
        | row issued =>
            cases issued with
            | close sited => exact .update (.sweepClose sited)
            | noFunds => exact .update .sweepNoFunds
    | sweepRefundPending =>
        cases own with
        | list => exact .listRefunds
        | refund issued =>
            cases issued with
            | credit nonneg => exact .refund nonneg (Or.inr rfl)
            | lookup => exact .lookup
        | clear => exact .update .refundClear
    | cancelJob request jobId =>
        cases own with
        | read => exact .read
        | write sited => exact .update (.cancel ⟨request, Or.inl rfl⟩ sited)
    | cancelJobV1 request jobId =>
        cases own with
        | read => exact .read
        | write sited => exact .update (.cancel ⟨request, Or.inr rfl⟩ sited)
    | completeJob request jobId =>
        cases own with
        | read => exact .read
        | write => exact .update .complete
    | retryJob request jobId =>
        cases own with
        | read => exact .read
        | write => exact .update .retry
    | completeJobV1 request jobId =>
        cases own with
        | read => exact .read
        | write => exact .update .completeV1
    | workerAck request tokenValid action error jobId =>
        cases own with
        | read => exact .read
        | write known => exact .update (.ack known)
    | submitTask request =>
        cases own with
        | read => exact .read
        | find => exact .find
        | reserve parsed => exact .reserve parsed
        | insert => exact .submit
        | backend => exact .update .submitBackend
    | topUp tenantId amount idempotencyKey nonce note =>
        cases own with
        | credit positive unkeyed => exact .topUp unkeyed
        | lookup => exact .lookup
    | sweepOrphans timeoutSeconds =>
        cases own
        exact .orphans
    | claimTick limit locked world =>
        cases own
        exact .claim
    | createDecisionJob tenantId gpuRequired newId =>
        cases own
        exact .decision
    | clock seconds =>
        cases own
        exact .clock
  · cases billing with
    | read => exact .read
    | debit named positive => exact .debit bills named positive
    | lookup => exact .lookup
    | record => exact .usage bills

theorem kindCall_update {kind : Kind} {site : Site} {update : JobUpdate}
    (issued : KindCall kind ⟨site, .updateExecutionJob update⟩)
    : JobWrite kind site update := by
  cases kindCall_issuedBy issued with
  | update write => exact write

/-- An entry that a thread stores: the DEBIT of a job that it bills, a refund, or a top-up. -/
inductive Stores (kind : Kind) : Query → LedgerEntry → Prop
  | debit {tenantId jobId gpuSec planName} (bills : Bills kind tenantId jobId gpuSec planName)
    (named : tenantId ≠ "") (positive : 0 < totalCost gpuSec 0 0)
    : Stores kind (.debitInsert (billingEntry tenantId jobId gpuSec planName))
        (billingEntry tenantId jobId gpuSec planName)
  | refund {tenantId jobId amount}
    (pays
      : (∃ world, kind = .executeAndBill jobId tenantId world) ∨ kind = .sweepRefundPending)
    : Stores kind (.creditInsert (refundEntry tenantId jobId amount))
        (refundEntry tenantId jobId amount)
  | topUp {tenant amount key nonce note ledgerId tenantId credited currency metadata}
    (asked : kind = .topUp tenant amount key nonce note)
    (unkeyed : key = none → ∃ nonce, ledgerId = .fresh nonce)
    : Stores kind (.creditInsert (creditEntry ledgerId tenantId credited currency metadata))
        (creditEntry ledgerId tenantId credited currency metadata)

theorem kindCall_stores {kind : Kind} {site : Site} {query : Query} {entry : LedgerEntry}
    (issued : KindCall kind ⟨site, query⟩)
    (inserted : query = .debitInsert entry ∨ query = .creditInsert entry)
    : Stores kind query entry := by
  cases kindCall_issuedBy issued with
  | debit bills named positive =>
      rcases inserted with same | same
      · cases same
        exact .debit bills named positive
      · cases same
  | refund nonneg pays =>
      rcases inserted with same | same
      · cases same
      · cases same
        exact .refund pays
  | topUp unkeyed =>
      rcases inserted with same | same
      · cases same
      · cases same
        exact .topUp rfl unkeyed
  | _ => simp at inserted

end RomaBridge.Model
