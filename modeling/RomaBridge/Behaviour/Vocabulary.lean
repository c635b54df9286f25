import RomaBridge.Behaviour.Effects

/-! The calls each function of the bridge can issue, whatever the database answers.
A vocabulary is an inductive predicate on calls; `Issues` carries it through the program.
-/

namespace RomaBridge.Model

open RomaBridge.Foundation Program

section Rules

variable {α : Type} {Φ : (α : Type) → Action α → Prop}

theorem Closed.catchException (closed : Closed Φ) {body : Action α} {handler : Exn → Action α}
    (first : Φ α body) (caught : ∀ exn, Φ α (handler exn))
    : Φ α (catchException body handler) := by
  refine closed.handle first ?_
  intro exn
  split
  · exact caught exn
  · exact closed.raised exn

theorem Closed.suppress (closed : Closed Φ) {body : Action Unit} (first : Φ Unit body)
    : Φ Unit (suppress body) :=
  Closed.catchException closed first (fun _ => closed.done ())

theorem Closed.guardHttp (closed : Closed Φ) (code : ℕ) (outcome : Except String Unit)
    : Φ Unit (guardHttp code outcome) := by
  unfold Model.guardHttp
  split
  · exact closed.done ()
  · exact closed.raised _

theorem Issues.ask {P : Call → Prop} {site : Site} {query : Query} (holds : P { site, query })
    : (ask site query).Issues P :=
  Issues.perform (S := bridge) holds

end Rules

def billingEntry (tenantId : String) (jobId : JobId) (gpuSec : ℚ) (planName : String)
    : LedgerEntry :=
  debitEntry tenantId (totalCost gpuSec 0 0) "USD" (jobKey jobId)
    (usageMetadata gpuSec 0 0 planName jobId)

def billingUsage (tenantId : String) (jobId : JobId) (gpuSec : ℚ) (backend : Option String)
    : UsageRow where
  tenantId := tenantId
  eventType := eventTypeOf backend
  value := gpuSec
  costUsd := roundTo 8 (gpuCost gpuSec)
  jobId := jobId.text
  billed := true

/-- Calls of `finalize_job_billing`. -/
inductive BillingCall (tenantId : String) (jobId : JobId) (gpuSec : ℚ) (planName : String)
    (backend : Option String)
    : Call → Prop
  | read
    : BillingCall tenantId jobId gpuSec planName backend
        ⟨.finalizeRead, .getExecutionJob jobId⟩
  | debit (named : tenantId ≠ "") (positive : 0 < totalCost gpuSec 0 0)
    : BillingCall tenantId jobId gpuSec planName backend
        ⟨.ledgerDebit, .debitInsert (billingEntry tenantId jobId gpuSec planName)⟩
  | lookup
    : BillingCall tenantId jobId gpuSec planName backend
        ⟨.ledgerIdemLookup, .ledgerSelect (ledgerIdFor tenantId (jobKey jobId)) tenantId⟩
  | record (positive : 0 < gpuSec)
    : BillingCall tenantId jobId gpuSec planName backend
        ⟨.usageRecord, .usageInsert (billingUsage tenantId jobId gpuSec backend) gpuSec 0 0⟩

def refundEntry (tenantId : String) (jobId : JobId) (amount : ℚ) : LedgerEntry :=
  creditEntry (ledgerIdFor tenantId (refundKey jobId)) tenantId amount "USD" {
    idempotencyKey := some (refundKey jobId)
    refundFor := some jobId.text
    reason := some "cancelled_after_debit"
  }

inductive RefundCall (tenantId : String) (jobId : JobId) (amount : ℚ) : Call → Prop
  | credit (nonneg : 0 ≤ amount)
    : RefundCall tenantId jobId amount
        ⟨.ledgerCredit, .creditInsert (refundEntry tenantId jobId amount)⟩
  | lookup
    : RefundCall tenantId jobId amount
        ⟨.ledgerCreditLookup, .ledgerSelect (ledgerIdFor tenantId (refundKey jobId)) tenantId⟩

section Finalize

variable {tenantId : String} {jobId : JobId} {gpuSec amount : ℚ} {planName : String}
  {backend : Option String} {call : Call}

theorem BillingCall.reads (issued : BillingCall tenantId jobId gpuSec planName backend call)
    : ¬Db.WritesJobs call.query := by
  cases issued <;> exact fun writes => writes

theorem BillingCall.unclaimed (issued : BillingCall tenantId jobId gpuSec planName backend call)
    : ∀ limit locked world, call.query ≠ .claimQueuedExecutionJobs limit locked world := by
  cases issued <;> simp

theorem BillingCall.stored (issued : BillingCall tenantId jobId gpuSec planName backend call)
    {entry : LedgerEntry}
    (inserted : call.query = .debitInsert entry ∨ call.query = .creditInsert entry)
    : entry = billingEntry tenantId jobId gpuSec planName ∧ tenantId ≠ ""
      ∧ 0 < totalCost gpuSec 0 0 := by
  cases issued with
  | debit named positive =>
      simp only [Query.debitInsert.injEq, reduceCtorEq, or_false] at inserted
      exact ⟨inserted.symm, named, positive⟩
  | _ => simp at inserted

theorem RefundCall.stored (issued : RefundCall tenantId jobId amount call) {entry : LedgerEntry}
    (inserted : call.query = .debitInsert entry ∨ call.query = .creditInsert entry)
    : entry = refundEntry tenantId jobId amount := by
  cases issued with
  | credit nonneg =>
      simp only [Query.creditInsert.injEq, reduceCtorEq, false_or] at inserted
      exact inserted.symm
  | lookup => simp at inserted

theorem RefundCall.reads (issued : RefundCall tenantId jobId amount call)
    : ¬Db.WritesJobs call.query := by
  cases issued <;> exact fun writes => writes

theorem RefundCall.unclaimed (issued : RefundCall tenantId jobId amount call)
    : ∀ limit locked world, call.query ≠ .claimQueuedExecutionJobs limit locked world := by
  cases issued <;> simp

theorem filter_jobKey (jobId : JobId)
    : (some (jobKey jobId)).filter (fun key => key ≠ "") = some (jobKey jobId) := by
  have nonempty : jobKey jobId ≠ "" := by
    intro empty
    have texts := congrArg String.toList empty
    simp [jobKey, String.toList_append] at texts
  simp [nonempty]

theorem filter_refundKey (jobId : JobId)
    : (some (refundKey jobId)).filter (fun key => key ≠ "") = some (refundKey jobId) := by
  have nonempty : refundKey jobId ≠ "" := by
    intro empty
    have texts := congrArg String.toList empty
    simp [refundKey, String.toList_append] at texts
  simp [nonempty]

theorem debitIfFunds_eq {currency key : String} {metadata : Metadata} (nonneg : 0 ≤ amount)
    (named : (some key).filter (fun key => key ≠ "") = some key)
    : debitIfFunds tenantId amount currency (some key) metadata
      = (ask .ledgerDebit
          (.debitInsert (debitEntry tenantId amount currency key metadata))).attempt.bind
          (fun outcome =>
            match outcome with
            | .error exn =>
                (ledgerIdemLookup (ledgerIdFor tenantId key) tenantId amount currency
                  { metadata with idempotencyKey := some key }).bind
                  (fun found =>
                    match found with
                    | some ledgerId => .done (some ledgerId, true)
                    | none => .raised exn)
            | .ok (some ledgerId) => .done (some ledgerId, true)
            | .ok none =>
                (ledgerIdemLookup (ledgerIdFor tenantId key) tenantId amount currency
                  { metadata with idempotencyKey := some key }).bind
                  (fun found => .done (found, false))) := by
  have valid : ¬ amount < 0 := not_lt.mpr nonneg
  simp only [debitIfFunds, rejectInvalidMoneyAmount, valid, named, if_false, pure_eq_done,
    bind_eq_bind, Program.bind]
  congr 1
  funext outcome
  rcases outcome with exn | (_ | ledgerId) <;> rfl

theorem gpuSec_pos (positive : 0 < totalCost gpuSec 0 0) : 0 < gpuSec := by
  by_contra nonpos
  have free : gpuCost gpuSec = 0 := by simp [gpuCost, nonpos]
  have none : tokenCost 0 0 = 0 := by simp [tokenCost]
  rw [totalCost, free, none, add_zero, roundTo_zero] at positive
  exact lt_irrefl _ positive

theorem billable_cost_onGrid (world : WorkerWorld) : OnGrid 8 (world.billable * gpuRate) := by
  obtain ⟨units, eq⟩ := roundTo_onGrid 2 (world.elapsed : ℚ)
  refine ⟨units * 10, ?_⟩
  rw [WorkerWorld.billable, eq, gpuRate]
  push_cast
  ring

theorem billable_nonneg (world : WorkerWorld) : 0 ≤ world.billable :=
  roundTo_nonneg world.elapsed.property

theorem costUsd_eq (world : WorkerWorld) : world.costUsd = world.billable * gpuRate :=
  roundTo_of_onGrid (billable_cost_onGrid world)

theorem totalCost_billable (world : WorkerWorld)
    : totalCost world.billable 0 0 = world.costUsd := by
  have tokens : tokenCost 0 0 = 0 := by simp [tokenCost]
  have gpu : gpuCost world.billable = world.costUsd := by
    rw [costUsd_eq, gpuCost]
    split
    · exact roundTo_of_onGrid (billable_cost_onGrid world)
    · rename_i idle
      have zero : world.billable = 0 := le_antisymm (not_lt.mp idle) (billable_nonneg world)
      rw [zero, zero_mul]
  rw [totalCost, tokens, add_zero, gpu, WorkerWorld.costUsd, roundTo_roundTo]

theorem costUsd_nonpos_iff (world : WorkerWorld) : world.costUsd ≤ 0 ↔ world.billable = 0 := by
  have rate : (0 : ℚ) < gpuRate := by norm_num [gpuRate]
  have nonneg := billable_nonneg world
  rw [costUsd_eq]
  constructor
  · intro free
    by_contra worked
    have positive : 0 < world.billable := lt_of_le_of_ne nonneg (Ne.symm worked)
    exact absurd (mul_pos positive rate) (not_lt.mpr free)
  · intro idle
    rw [idle, zero_mul]

theorem incrementUsage_eq
    : incrementUsage tenantId gpuSec 0 0 planName jobId backend
      = if tenantId = "" ∨ totalCost gpuSec 0 0 ≤ 0 then
          .done (0, false)
        else
          (debitIfFunds tenantId (totalCost gpuSec 0 0) "USD" (some (jobKey jobId))
            (usageMetadata gpuSec 0 0 planName jobId)).bind
            (fun outcome =>
              if outcome.1.isNone then
                .done (totalCost gpuSec 0 0, false)
              else
                (ask .usageRecord
                  (.usageInsert (billingUsage tenantId jobId gpuSec backend) gpuSec 0 0)).bind
                  (fun _ => .done (totalCost gpuSec 0 0, true))) := by
  unfold incrementUsage
  by_cases unnamed : tenantId = ""
  · simp [unnamed]
  · by_cases free : totalCost gpuSec 0 0 ≤ 0
    · simp [unnamed, free]
    · have seconds := gpuSec_pos (not_le.mp free)
      simp [unnamed, free, seconds, record, billingUsage]

theorem refundJob_eq (nonneg : 0 ≤ amount)
    : refundJob tenantId amount jobId "cancelled_after_debit"
      = creditKeyed tenantId amount "USD" (refundKey jobId)
          { refundFor := some jobId.text, reason := some "cancelled_after_debit" } := by
  have valid : ¬ amount < 0 := not_lt.mpr nonneg
  simp only [refundJob, refund, credit, rejectInvalidMoneyAmount, valid, if_false,
    filter_refundKey, pure_eq_done, bind_eq_bind, Program.bind]

theorem refundJob_negative (negative : amount < 0) (reason : String)
    : refundJob tenantId amount jobId reason
      = .raised
          (.valueError "ledger_entries.amount: денежная сумма должна быть конечной и >= 0") := by
  simp only [refundJob, refund, credit, rejectInvalidMoneyAmount, negative, if_true]
  rfl

theorem ledgerIdemLookup_issues {P : Call → Prop} {ledgerId : LedgerId} {currency : String}
    {metadata : Metadata}
    (lookup : P ⟨.ledgerIdemLookup, .ledgerSelect ledgerId tenantId⟩)
    : (ledgerIdemLookup ledgerId tenantId amount currency metadata).Issues P := by
  refine Issues.bind (Issues.ask lookup) ?_
  rintro (_ | entry)
  · trivial
  · dsimp only
    split <;> trivial

theorem debitIfFunds_issues (named : tenantId ≠ "") (positive : 0 < totalCost gpuSec 0 0)
    : (debitIfFunds tenantId (totalCost gpuSec 0 0) "USD" (some (jobKey jobId))
        (usageMetadata gpuSec 0 0 planName jobId)).Issues
        (BillingCall tenantId jobId gpuSec planName backend) := by
  rw [debitIfFunds_eq positive.le (filter_jobKey jobId)]
  refine Issues.bind ((Issues.closed _).attempt (Issues.ask (.debit named positive))) ?_
  rintro (exn | (_ | ledgerId))
  · refine Issues.bind (ledgerIdemLookup_issues .lookup) ?_
    rintro (_ | found) <;> trivial
  · exact Issues.bind (ledgerIdemLookup_issues .lookup) (fun _ => trivial)
  · trivial

theorem incrementUsage_issues
    : (incrementUsage tenantId gpuSec 0 0 planName jobId backend).Issues
        (BillingCall tenantId jobId gpuSec planName backend) := by
  rw [incrementUsage_eq]
  split
  · trivial
  · rename_i billable
    have positive := not_le.mp (not_or.mp billable).2
    refine Issues.bind (debitIfFunds_issues (not_or.mp billable).1 positive) ?_
    rintro ⟨ledgerId, _⟩
    dsimp only
    split
    · trivial
    · exact Issues.bind (Issues.ask (.record (gpuSec_pos positive))) (fun _ => trivial)

theorem finalizeJobBilling_issues
    : (finalizeJobBilling tenantId jobId gpuSec planName backend).Issues
        (BillingCall tenantId jobId gpuSec planName backend) := by
  refine Issues.bind (Issues.ask .read) ?_
  rintro (_ | job)
  · trivial
  · dsimp only
    split
    · trivial
    · split
      · trivial
      · refine Issues.bind ((Issues.closed _).attempt incrementUsage_issues) ?_
        rintro (exn | ⟨total, debited⟩)
        · cases exn <;> trivial
        · dsimp only
          split
          · trivial
          · split <;> trivial

variable {Φ : (α : Type) → Action α → Prop}

theorem tryFinalize_closed (closed : Closed Φ)
    (billing : Φ _ (finalizeJobBilling tenantId jobId gpuSec planName backend))
    : Φ _ (tryFinalize tenantId jobId gpuSec planName backend) := by
  refine closed.handle billing ?_
  intro exn
  dsimp only
  split
  · exact closed.done _
  · split
    · exact closed.done _
    · exact closed.raised exn

theorem creditKeyed_closed (closed : Closed Φ) {currency key : String} {metadata : Metadata}
    (insert
      : Φ _ (ask .ledgerCredit (.creditInsert (creditEntry (ledgerIdFor tenantId key) tenantId
          amount currency { metadata with idempotencyKey := some key }))))
    (lookup : Φ _ (ask .ledgerCreditLookup (.ledgerSelect (ledgerIdFor tenantId key) tenantId)))
    : Φ _ (creditKeyed tenantId amount currency key metadata) := by
  refine closed.bind insert ?_
  rintro (_ | ledgerId)
  · refine closed.bind lookup ?_
    rintro (_ | existing)
    · exact closed.raised _
    · exact closed.done _
  · exact closed.done _

theorem refundJob_closed (closed : Closed Φ)
    (asks : ∀ {site query}, RefundCall tenantId jobId amount ⟨site, query⟩ → Φ _ (ask site query))
    : Φ _ (refundJob tenantId amount jobId "cancelled_after_debit") := by
  by_cases negative : amount < 0
  · rw [refundJob_negative negative]
    exact closed.raised _
  · rw [refundJob_eq (not_lt.mp negative)]
    exact creditKeyed_closed closed (asks (.credit (not_lt.mp negative))) (asks .lookup)

end Finalize
end RomaBridge.Model
