import RomaBridge.Behaviour.Finalization
import RomaBridge.Behaviour.ThreadCalls

/-! What the sweepers know about the rows they were given.
A sweep acts on rows it read in an earlier transaction. The facts below are about the rows
themselves, so they stay true however long the sweep waits.
-/

namespace RomaBridge.Model

open RomaBridge.Foundation Program

theorem mem_billingPendingRows {db : Db} {limit : ℕ} {excludeIds : List JobId} {row : JobRow}
    (listed : row ∈ billingPendingRows db limit excludeIds)
    : db.job? row.id = some row ∧ row.status = .billingPending := by
  have sorted := List.mem_of_mem_take listed
  rw [List.mem_insertionSort, List.mem_filter] at sorted
  simp only [Bool.and_eq_true, decide_eq_true_eq] at sorted
  exact ⟨Table.find?_of_mem sorted.1, sorted.2.1⟩

theorem mem_refundPendingRows {db : Db} {limit : ℕ} {row : JobRow}
    (listed : row ∈ refundPendingRows db limit)
    : db.job? row.id = some row ∧ row.status = .cancelled := by
  have sorted := List.mem_of_mem_take listed
  rw [List.mem_insertionSort, List.mem_filter] at sorted
  simp only [Bool.and_eq_true, decide_eq_true_eq] at sorted
  exact ⟨Table.find?_of_mem sorted.1, sorted.2.1⟩

/-- The `error` text of a parked row names no execution status but `timeout` and `failed`. -/
def ParkedText (error : Option String) : Prop :=
  billingExecStatus error ∈ [none, some "timeout", some "failed"]

instance (error : Option String) : Decidable (ParkedText error) :=
  inferInstanceAs (Decidable (_ ∈ _))

/-- A final write that parks the job stores such a text, by cases of both statuses. -/
theorem parkedText_final {status : String} {billingStatus : BillingStatus}
    (ended : status = "timeout" ∨ status ∈ pollEnds)
    (parks : JobStatus.ofText (writeStatus status billingStatus) = .billingPending)
    : ParkedText (some (finalError status billingStatus)) := by
  have known : status ∈ "timeout" :: pollEnds := by simpa using ended
  have all : ∀ status ∈ "timeout" :: pollEnds,
      JobStatus.ofText (writeStatus status billingStatus) = .billingPending
      → ParkedText (some (finalError status billingStatus)) := by
    cases billingStatus <;> decide
  exact all status known parks

theorem ParkedText.noFunds {error : Option String} (parked : ParkedText error)
    : ParkedText (some (billingPendingError .noFunds (billingExecStatus error))) := by
  simp only [ParkedText, List.mem_cons, List.not_mem_nil, or_false] at parked
  rcases parked with text | text | text <;> (rw [text]; decide)

theorem ParkedText.closes {error : Option String} (parked : ParkedText error)
    {default : String} (ended : default = "completed" ∨ default = "error")
    : JobStatus.ofText ((billingExecStatus error).getD default)
      ∈ [JobStatus.completed, .error, .timeout, .failed] := by
  simp only [ParkedText, List.mem_cons, List.not_mem_nil, or_false] at parked
  rcases parked with text | text | text <;> rcases ended with rfl | rfl <;> (rw [text]; decide)

theorem ParkedText.mismatches {error : Option String} (parked : ParkedText error)
    : JobStatus.ofText ((billingExecStatus error).getD "error")
      ∈ [JobStatus.error, .timeout, .failed] := by
  simp only [ParkedText, List.mem_cons, List.not_mem_nil, or_false] at parked
  rcases parked with text | text | text <;> (rw [text]; decide)

/-- Nothing is found after a needle with a character that the text lacks, by induction on the
text.
-/
theorem afterLast_eq_none {needle text : List Char} {c : Char} (needed : c ∈ needle)
    (absent : c ∉ text)
    : afterLast needle text = none := by
  induction text with
  | nil => rfl
  | cons first rest ih =>
      have later := ih (fun member => absent (List.mem_cons_of_mem _ member))
      have other : needle.isPrefixOf (first :: rest) = false := by
        rw [Bool.eq_false_iff]
        intro found
        exact absent ((List.isPrefixOf_iff_prefix.mp found).subset needed)
      simp [afterLast, later, other]

theorem equals_not_mem_refundMarker (costUsd : ℚ) : '=' ∉ (refundMarker costUsd).toList := by
  have digits : ∀ n, '=' ∉ Nat.toDigits 10 n := by
    intro n member
    have digit := isDigit_of_mem_toDigits member
    revert digit
    decide
  simp only [refundMarker, refundMarkerPrefix, fixedText, paddedDigits, String.toList_append,
    String.toList_ofList, List.mem_append, List.mem_cons, List.mem_replicate, not_or, not_and]
  refine ⟨by decide, ?_, digits _, by decide, fun _ => by decide, digits _⟩
  split <;> decide

theorem parkedText_marker (costUsd : ℚ) : ParkedText (some (refundMarker costUsd)) := by
  have absent : afterLast ":exec=".toList (refundMarker costUsd).toList = none :=
    afterLast_eq_none (by decide) (equals_not_mem_refundMarker costUsd)
  have unnamed : billingExecStatus (some (refundMarker costUsd)) = none := by
    simp only [billingExecStatus, Option.bind_some, absent, Option.filter_none, Option.map_none]
  simp [ParkedText, unnamed]

def SweptCall (input : SweepInput) (job : JobRow) (call : Call) : Prop :=
  SweepRowCall job call
  ∨ BillingCall job.tenantId job.id (job.durationSeconds.getD 0) (input.plan job.tenantId)
      job.backend call

theorem SweptCall.kindCall {input : SweepInput} {job : JobRow} {call : Call}
    (swept : SweptCall input job call)
    : KindCall (.sweepBillingPending input) call := by
  rcases swept with own | billing
  · exact Or.inl (.row own)
  · exact Or.inr ⟨_, _, _, _, _, trivial, billing⟩

theorem SweptCall.unclaimed {input : SweepInput} {job : JobRow} {call : Call}
    (swept : SweptCall input job call)
    : ∀ limit locked world, call.query ≠ .claimQueuedExecutionJobs limit locked world := by
  rcases swept with own | billing
  · cases own <;> simp
  · cases billing <;> simp

theorem sweepRow_issues {input : SweepInput} {job : JobRow} {memory : NoFundsMemory}
    : (sweepRow input job memory).Issues (SweptCall input job) :=
  sweepRow_closed (Issues.closed _) (fun issued => Issues.ask (Or.inl issued))
    (finalizeJobBilling_issues.mono (fun _ issued => Or.inr issued))

theorem sweepRows_issues {input : SweepInput} {rows : List JobRow} {memory : NoFundsMemory}
    : (sweepRows input rows memory).Issues (fun call =>
        ∃ job ∈ rows, SweptCall input job call) := by
  refine sweepRows_closed (Issues.closed _) ?_ ?_
  · exact fun member issued => Issues.ask ⟨_, member, Or.inl issued⟩
  · exact fun job member => finalizeJobBilling_issues.mono
      (fun _ issued => ⟨job, member, Or.inr issued⟩)

theorem sweepBillingPendingOnce_eq (input : SweepInput)
    : sweepBillingPendingOnce input
      = (ask .sweepList (.getBillingPendingJobs billingPendingBatch
          ((input.memory.filter (fun entry => entry.2 > input.now)).map Prod.fst))).bind
          (fun jobs =>
            (sweepRows input jobs input.memory).bind (fun (outcomes, memory) =>
              .done (outcomes,
                ((input.memory.filter (fun entry => entry.2 > input.now)).map Prod.fst).length,
                if jobs.length < billingPendingBatch then
                  memory.filter (fun entry => (jobs.map JobRow.id).contains entry.1)
                else
                  memory))) := by
  simp only [sweepBillingPendingOnce, bind_eq_bind, pure_eq_done]
  congr 1
  funext jobs
  congr 1
  funext ⟨outcomes, memory⟩
  split <;> rfl

end RomaBridge.Model

/-! The specification of `refund_job` and of the refund sweeper under interference.
A refund that returned has left its CREDIT; the sweeper clears a marker only after that.
-/

namespace RomaBridge.Model

open RomaBridge.Foundation Program

def Refunded (tenantId : String) (jobId : JobId) (db : Db) : Prop :=
  (db.ledger.find? (ledgerIdFor tenantId (refundKey jobId))).isSome

theorem Refunded.grows {tenantId : String} {jobId : JobId} {before after : Db}
    (refunded : Refunded tenantId jobId before) (grows : Db.Grows before after)
    : Refunded tenantId jobId after := by
  obtain ⟨entry, found⟩ := Option.isSome_iff_exists.mp refunded
  exact Option.isSome_iff_exists.mpr ⟨entry, grows.ledger _ _ found⟩

theorem refunded_of_insert (db : Db) (tenantId : String) (jobId : JobId) (amount : ℚ)
    : Refunded tenantId jobId (db.insertEntry (refundEntry tenantId jobId amount)).2 := by
  unfold Db.insertEntry
  cases inserted : db.ledger.insert? (refundEntry tenantId jobId amount) with
  | none => exact Table.insert?_eq_none.mp inserted
  | some ledger =>
      have stored := Table.find?_of_insert? inserted (ledgerIdFor tenantId (refundKey jobId))
      exact Option.isSome_iff_exists.mpr ⟨_, stored.trans (if_pos rfl)⟩

/-- What a caller of `refund_job` must know: the calls of the refund keep its knowledge. -/
structure RefundRules {τ ρ : Type} (M : Machine bridge Db τ ρ) (contract : Contract bridge Db τ)
    (tenantId : String) (jobId : JobId) (amount : ℚ) (Known : Db → Prop)
    : Prop where
  composes : contract.Composes
  grows : ∀ {before after}, contract.rely before after → Db.Grows before after
  stable : contract.Stable Known
  calls
    : ∀ call db fault,
        RefundCall tenantId jobId amount call
        → contract.inv db
        → Known db
        → contract.allowed db call fault
        → contract.Keeps M db call fault ∧ Known (M.exec call fault db).2

section Refund

variable {τ ρ : Type} {body : τ → Action ρ} {starts : (query : Query) → query.Reply → List τ}
  {contract : Contract bridge Db τ} {tenantId : String} {jobId : JobId} {amount : ℚ}
  {Known : Db → Prop}

/-- The specification of `refund_job`: it returns once the refund is stored. -/
theorem refundJob_triple
    (rules : RefundRules (bridgeMachine body starts) contract tenantId jobId amount Known)
    : Triple (bridgeMachine body starts) contract Known
        (refundJob tenantId amount jobId "cancelled_after_debit")
        (fun _ db => Known db ∧ Refunded tenantId jobId db)
        (fun exn db => Known db ∧ exn.isException = true) := by
  have stableRaises : ∀ exn : Exn, contract.Stable (fun db => Known db ∧ exn.isException = true) :=
    fun _ _ _ moved inv holds => ⟨rules.stable moved inv holds.1, holds.2⟩
  have stablePaid : contract.Stable (fun db => Known db ∧ Refunded tenantId jobId db) :=
    fun _ _ moved inv holds =>
      ⟨rules.stable moved inv holds.1, holds.2.grows (rules.grows moved)⟩
  by_cases negative : amount < 0
  · rw [refundJob_negative negative]
    exact Triple.raised rules.stable (fun _ _ holds => ⟨holds, rfl⟩)
  · have nonneg := not_lt.mp negative
    rw [refundJob_eq nonneg]
    refine Triple.bind rules.composes (fun _ db => Known db ∧ Refunded tenantId jobId db)
      (Triple.perform rules.stable (fun _ => stablePaid) stableRaises ?_ ?_ ?_) ?_
    · exact fun db fault inv holds allowed => (rules.calls _ db fault (.credit nonneg) inv holds
        allowed).1
    · intro db inv holds allowed
      exact ⟨(rules.calls _ db .none (.credit nonneg) inv holds allowed).2,
        refunded_of_insert db tenantId jobId amount⟩
    · intro db fault reason inv holds allowed _
      exact ⟨(rules.calls _ db fault (.credit nonneg) inv holds allowed).2, rfl⟩
    · rintro (_ | inserted)
      · refine Triple.bind rules.composes (fun _ db => Known db ∧ Refunded tenantId jobId db)
          (Triple.perform stablePaid (fun _ => stablePaid) stableRaises ?_ ?_ ?_) ?_
        · exact fun db fault inv holds allowed =>
            (rules.calls _ db fault .lookup inv holds.1 allowed).1
        · exact fun db inv holds allowed => holds
        · intro db fault reason inv holds allowed _
          exact ⟨(rules.calls _ db fault .lookup inv holds.1 allowed).2, rfl⟩
        · rintro (_ | existing)
          · exact Triple.raised stablePaid (fun _ _ holds => ⟨holds.1, rfl⟩)
          · exact Triple.done stablePaid (fun _ _ holds => holds)
      · exact Triple.done stablePaid (fun _ _ holds => holds)

end Refund

/-- What the refund sweeper must know about a row: it may pay back what the row's marker says
and clear the marker once the refund is stored.
-/
structure RefundRowRules {τ ρ : Type} (M : Machine bridge Db τ ρ)
    (contract : Contract bridge Db τ) (job : JobRow) (Known : Db → Prop)
    : Prop where
  refunds
    : ∀ amount,
        parseRefundAmount (job.error.getD "") = some amount
        → RefundRules M contract job.tenantId job.id amount Known
  clears
    : ∀ db fault,
        contract.inv db
        → Known db
        → Refunded job.tenantId job.id db
        → contract.allowed db ⟨.refundClear, .updateExecutionJob (errorUpdate job "")⟩ fault
        → contract.Keeps M db ⟨.refundClear, .updateExecutionJob (errorUpdate job "")⟩ fault
          ∧ Known
              (M.exec ⟨.refundClear, .updateExecutionJob (errorUpdate job "")⟩ fault db).2

section Sweeper

variable {τ ρ : Type} {body : τ → Action ρ} {starts : (query : Query) → query.Reply → List τ}
  {contract : Contract bridge Db τ} {Known : Db → Prop}

theorem refundRow_triple (composes : contract.Composes) (stable : contract.Stable Known)
    {job : JobRow} (rules : RefundRowRules (bridgeMachine body starts) contract job Known)
    : Triple (bridgeMachine body starts) contract Known (refundRow job) (fun _ => Known)
        (fun _ => Known) := by
  unfold refundRow
  split
  · exact Triple.done stable (fun _ _ holds => holds)
  · rename_i amount parsed
    have refund := rules.refunds amount parsed
    have stablePaid : contract.Stable (fun db => Known db ∧ Refunded job.tenantId job.id db) :=
      fun _ _ moved inv holds =>
        ⟨stable moved inv holds.1, holds.2.grows (refund.grows moved)⟩
    refine Triple.bind composes (fun _ => Known)
      (Triple.attempt composes (fun _ => stable) (Triple.bind composes _
        ((refundJob_triple refund).weaken (fun _ _ _ holds => holds) (fun _ _ _ holds => holds.1))
        ?_)) ?_
    · intro _
      refine Triple.bind composes (fun _ => Known)
        (Triple.perform stablePaid (fun _ => stable) (fun _ => stable) ?_ ?_ ?_) ?_
      · exact fun db fault inv holds allowed =>
          (rules.clears db fault inv holds.1 holds.2 allowed).1
      · exact fun db inv holds allowed =>
          (rules.clears db .none inv holds.1 holds.2 allowed).2
      · exact fun db fault reason inv holds allowed _ =>
          (rules.clears db fault inv holds.1 holds.2 allowed).2
      · exact fun _ => Triple.done stable (fun _ _ holds => holds)
    · rintro (exn | done)
      · dsimp only
        split
        · exact Triple.done stable (fun _ _ holds => holds)
        · exact Triple.done stable (fun _ _ holds => holds)
        · split
          · exact Triple.done stable (fun _ _ holds => holds)
          · exact Triple.raised stable (fun _ _ holds => holds)
      · exact Triple.done stable (fun _ _ holds => holds)

/-- The batch of the refund sweep, by induction on its rows. -/
theorem refundRows_triple (composes : contract.Composes) (stable : contract.Stable Known)
    {rows : List JobRow}
    (rules : ∀ job ∈ rows, RefundRowRules (bridgeMachine body starts) contract job Known)
    : Triple (bridgeMachine body starts) contract Known (refundRows rows) (fun _ => Known)
        (fun _ => Known) := by
  induction rows with
  | nil => exact Triple.done stable (fun _ _ holds => holds)
  | cons job rest ih =>
      refine Triple.bind composes (fun _ => Known)
        (refundRow_triple composes stable (rules job (by simp))) ?_
      intro outcome
      split
      · exact Triple.done stable (fun _ _ holds => holds)
      · refine Triple.bind composes (fun _ => Known) (ih ?_) ?_
        · exact fun other member => rules other (List.mem_cons_of_mem _ member)
        · exact fun _ => Triple.done stable (fun _ _ holds => holds)

theorem sweepRefundPendingOnce_triple (composes : contract.Composes)
    {Listed : List JobRow → Db → Prop} (stable : ∀ rows, contract.Stable (Listed rows))
    (lists
      : ∀ db fault,
          contract.inv db
          → contract.allowed db ⟨.refundList, .getRefundPendingJobs 50⟩ fault
          → contract.Keeps (bridgeMachine body starts) db
              ⟨.refundList, .getRefundPendingJobs 50⟩ fault
            ∧ Listed (refundPendingRows db 50) db)
    (rules
      : ∀ rows,
          ∀ job ∈ rows, RefundRowRules (bridgeMachine body starts) contract job (Listed rows))
    : Triple (bridgeMachine body starts) contract (fun _ => True) sweepRefundPendingOnce
        (fun _ _ => True) (fun _ _ => True) := by
  let Read : Except Exn (List JobRow) → Db → Prop := fun outcome db =>
    ∀ rows, outcome = .ok rows → Listed rows db
  have stableRead : ∀ outcome, contract.Stable (Read outcome) :=
    fun outcome _ _ moved inv known rows same => stable rows moved inv (known rows same)
  refine Triple.bind composes Read
    (Triple.attempt composes stableRead (Triple.perform (fun _ _ _ _ _ => trivial)
      (fun _ => stableRead _) (fun _ => stableRead _) ?_ ?_ ?_)) ?_
  · exact fun db fault inv _ allowed => (lists db fault inv allowed).1
  · intro db inv _ allowed rows same
    cases same
    exact (lists db .none inv allowed).2
  · intro db fault reason _ _ _ _ rows same
    cases same
  · intro outcome
    cases outcome with
    | error exn =>
        dsimp only
        split
        · exact Triple.done (stableRead _) (fun _ _ _ => trivial)
        · exact Triple.raised (stableRead _) (fun _ _ _ => trivial)
    | ok rows =>
        exact (Triple.strengthen (refundRows_triple composes (stable rows) (rules rows))
          (fun db _ known => known rows rfl)).weaken (fun _ _ _ _ => trivial)
          (fun _ _ _ _ => trivial)

end Sweeper
end RomaBridge.Model
