import RomaBridge.Behaviour.WorkerRun

/-! The specification of the billing sweeper under interference.
A row of the batch is billed like any other job and closed by one write; the caller says what
each of the four writes does.
-/

namespace RomaBridge.Model

open RomaBridge.Foundation Program

def billedUpdate (job : JobRow) : JobUpdate :=
  sweepUpdate job ((billingExecStatus job.error).getD "completed") ""
    (some (jobCostUsd job.durationSeconds))

/-- The write that closes a row whose key is in conflict. -/
def mismatchUpdate (job : JobRow) : JobUpdate :=
  sweepUpdate job ((billingExecStatus job.error).getD "error") "billing:mismatch" none

def skipUpdate (job : JobRow) : JobUpdate :=
  sweepUpdate job ((billingExecStatus job.error).getD "completed") "" none

/-- The text of a row whose tenant has no funds. -/
def noFundsUpdate (job : JobRow) : JobUpdate :=
  errorUpdate job (billingPendingError .noFunds (billingExecStatus job.error))

/-- What the billing sweeper must know about a row: `Known` holds from the list on, `Open`,
`Skip` and `Fails` during billing, and every write leaves `Known` behind.
-/
structure SweepRules {τ ρ : Type} (M : Machine bridge Db τ ρ) (contract : Contract bridge Db τ)
    (input : SweepInput) (job : JobRow) (Known Open Skip Fails : Db → Prop)
    : Prop where
  billing
    : FinalizeRules M contract job.tenantId job.id (job.durationSeconds.getD 0)
        (input.plan job.tenantId) job.backend Known Open Skip Fails
  opened : ∀ db, contract.inv db → Open db → Known db
  skipped : ∀ db, contract.inv db → Skip db → Known db
  failed : ∀ db, contract.inv db → Fails db → Known db
  billed
    : ∀ db fault,
        contract.inv db
        → Open db
        → Debited job.tenantId job.id (totalCost (job.durationSeconds.getD 0) 0 0) db
        → contract.allowed db ⟨.sweepBilled, .updateExecutionJob (billedUpdate job)⟩ fault
        → contract.Keeps M db ⟨.sweepBilled, .updateExecutionJob (billedUpdate job)⟩ fault
          ∧ Known (M.exec ⟨.sweepBilled, .updateExecutionJob (billedUpdate job)⟩ fault db).2
  noFunds
    : ∀ db fault,
        contract.inv db
        → Fails db
        → contract.allowed db ⟨.sweepNoFunds, .updateExecutionJob (noFundsUpdate job)⟩ fault
        → contract.Keeps M db ⟨.sweepNoFunds, .updateExecutionJob (noFundsUpdate job)⟩ fault
          ∧ Known (M.exec ⟨.sweepNoFunds, .updateExecutionJob (noFundsUpdate job)⟩ fault db).2
  mismatched
    : ∀ db fault,
        contract.inv db
        → Open db
        → Conflicting job.tenantId job.id (totalCost (job.durationSeconds.getD 0) 0 0) db
        → contract.allowed db ⟨.sweepMismatch, .updateExecutionJob (mismatchUpdate job)⟩ fault
        → contract.Keeps M db ⟨.sweepMismatch, .updateExecutionJob (mismatchUpdate job)⟩ fault
          ∧ Known
              (M.exec ⟨.sweepMismatch, .updateExecutionJob (mismatchUpdate job)⟩ fault db).2
  skips
    : ∀ db fault,
        contract.inv db
        → Skip db
        → contract.allowed db ⟨.sweepSkip, .updateExecutionJob (skipUpdate job)⟩ fault
        → contract.Keeps M db ⟨.sweepSkip, .updateExecutionJob (skipUpdate job)⟩ fault
          ∧ Known (M.exec ⟨.sweepSkip, .updateExecutionJob (skipUpdate job)⟩ fault db).2

section Sweep

variable {τ ρ : Type} {body : τ → Action ρ} {starts : (query : Query) → query.Reply → List τ}
  {contract : Contract bridge Db τ} {input : SweepInput} {job : JobRow}
  {Known Open Skip Fails : Db → Prop}

private theorem sweepWrite_triple {M : Machine bridge Db τ ρ} {pre : Db → Prop}
    {write : Action ℕ} (composes : contract.Composes) (stable : contract.Stable Known)
    (wrote : Triple M contract pre write (fun _ => Known) (fun _ => Known))
    : Triple M contract pre (suppress (write.bind (fun _ => .done ()))) (fun _ => Known)
        (fun _ => Known) :=
  (Triple.suppress composes stable (Triple.bind composes (fun _ => Known) wrote
    (fun _ => Triple.done stable (fun _ _ holds => holds)))).weaken (fun _ _ _ holds => holds)
    (fun _ _ _ holds => holds.1)

/-- One row of the billing sweep keeps what the sweeper knows, by cases of its billing status.
-/
theorem sweepRow_triple
    (rules : SweepRules (bridgeMachine body starts) contract input job Known Open Skip Fails)
    {memory : NoFundsMemory}
    : Triple (bridgeMachine body starts) contract Known (sweepRow input job memory)
        (fun _ => Known) (fun _ => Known) := by
  have bill := rules.billing
  have composes := bill.composes
  have stable := bill.stableBefore
  have ends : ∀ {step : SweepStep} {pre : Db → Prop}, contract.Stable pre
      → (∀ db, contract.inv db → pre db → Known db)
      → Triple (bridgeMachine body starts) contract pre (Program.done step) (fun _ => Known)
          (fun _ => Known) :=
    fun held entails => Triple.done held entails
  refine Triple.bind composes _ ((tryFinalize_triple bill).weaken (fun _ _ _ holds => holds)
    (fun _ _ _ impossible => impossible.elim)) ?_
  intro status
  cases status with
  | ok =>
      let Billed : Db → Prop := fun db =>
        Open db ∧ Debited job.tenantId job.id (totalCost (job.durationSeconds.getD 0) 0 0) db
      have held : contract.Stable Billed := fun _ _ moved inv holds =>
        ⟨bill.stableOpen moved inv holds.1, holds.2.grows (bill.grows moved)⟩
      have wrote : Triple (bridgeMachine body starts) contract Billed
          (ask .sweepBilled (.updateExecutionJob (billedUpdate job))) (fun _ => Known)
          (fun _ => Known) :=
        Triple.ask held stable (fun db fault inv holds allowed =>
          rules.billed db fault inv holds.1 holds.2 allowed)
      refine Triple.strengthen (Triple.bind composes (fun _ => Known)
        (Triple.attempt composes (fun _ => stable) wrote) ?_) ?_
      · intro outcome
        cases outcome with
        | ok n => exact ends stable (fun _ _ holds => holds)
        | error exn =>
            dsimp only
            split
            · exact ends stable (fun _ _ holds => holds)
            · exact ends stable (fun _ _ holds => holds)
            · split
              · exact ends stable (fun _ _ holds => holds)
              · exact Triple.raised stable (fun _ _ holds => holds)
      · intro db inv holds
        rcases holds with post | ⟨raised, _⟩
        · exact ⟨post.1, post.2.1⟩
        · simp at raised
  | noFunds =>
      refine Triple.strengthen
        (?_ : Triple (bridgeMachine body starts) contract Fails _ (fun _ => Known) _) ?_
      · dsimp only [sweepNoFunds]
        split
        · exact Triple.bind composes (fun _ => Known)
            (Triple.ask bill.stableFails stable rules.noFunds)
            (fun _ => ends stable (fun _ _ holds => holds))
        · exact ends bill.stableFails rules.failed
      · intro db inv holds
        rcases holds with post | ⟨raised, _⟩
        · exact post.2
        · simp at raised
  | mismatch =>
      let Clashed : Db → Prop := fun db =>
        Open db
        ∧ Conflicting job.tenantId job.id (totalCost (job.durationSeconds.getD 0) 0 0) db
      have held : contract.Stable Clashed := fun _ _ moved inv holds =>
        ⟨bill.stableOpen moved inv holds.1, holds.2.grows (bill.grows moved)⟩
      refine Triple.strengthen (Triple.bind composes (fun _ => Known)
        (sweepWrite_triple composes stable (Triple.ask held stable
          (fun db fault inv holds allowed =>
            rules.mismatched db fault inv holds.1 holds.2 allowed)))
        (fun _ => ends stable (fun _ _ holds => holds))) ?_
      intro db inv holds
      rcases holds with post | ⟨raised, _⟩
      · exact post
      · simp at raised
  | skip =>
      refine Triple.strengthen (Triple.bind composes (fun _ => Known)
        (sweepWrite_triple composes stable
          (Triple.ask bill.stableSkip stable rules.skips))
        (fun _ => ends stable (fun _ _ holds => holds))) ?_
      intro db inv holds
      rcases holds with post | ⟨raised, _⟩
      · exact post
      · simp at raised
  | pgError =>
      refine Triple.strengthen (ends bill.stableFails rules.failed) ?_
      intro db inv holds
      rcases holds with post | ⟨_, failed⟩
      · exact post.elim
      · exact failed
  | error =>
      refine Triple.strengthen (ends bill.stableFails rules.failed) ?_
      intro db inv holds
      rcases holds with post | ⟨_, failed⟩
      · exact post.elim
      · exact failed

/-- The batch keeps what the sweeper knows, by induction on its rows. -/
theorem sweepRows_triple (composes : contract.Composes) (stable : contract.Stable Known)
    {rows : List JobRow} {memory : NoFundsMemory}
    (each
      : ∀ job ∈ rows,
          ∀ memory,
            Triple (bridgeMachine body starts) contract Known (sweepRow input job memory)
              (fun _ => Known) (fun _ => Known))
    : Triple (bridgeMachine body starts) contract Known (sweepRows input rows memory)
        (fun _ => Known) (fun _ => Known) := by
  induction rows generalizing memory with
  | nil => exact Triple.done stable (fun _ _ holds => holds)
  | cons job rest ih =>
      refine Triple.bind composes (fun _ => Known) (each job (by simp) memory) ?_
      intro step
      dsimp only
      split
      · exact Triple.done stable (fun _ _ holds => holds)
      · refine Triple.bind composes (fun _ => Known)
          (ih (fun other member => each other (List.mem_cons_of_mem _ member))) ?_
        exact fun _ => Triple.done stable (fun _ _ holds => holds)

theorem sweepBillingPendingOnce_triple (composes : contract.Composes)
    {Listed : List JobRow → Db → Prop} (stable : ∀ rows, contract.Stable (Listed rows))
    (lists
      : ∀ excludeIds db fault,
          contract.inv db
          → contract.allowed db
              ⟨.sweepList, .getBillingPendingJobs billingPendingBatch excludeIds⟩ fault
          → contract.Keeps (bridgeMachine body starts) db
              ⟨.sweepList, .getBillingPendingJobs billingPendingBatch excludeIds⟩ fault
            ∧ Listed (billingPendingRows db billingPendingBatch excludeIds) db)
    (each
      : ∀ rows,
          ∀ job ∈ rows,
            ∀ memory,
              Triple (bridgeMachine body starts) contract (Listed rows)
                (sweepRow input job memory) (fun _ => Listed rows) (fun _ => Listed rows))
    : Triple (bridgeMachine body starts) contract (fun _ => True)
        (sweepBillingPendingOnce input) (fun _ _ => True) (fun _ _ => True) := by
  rw [sweepBillingPendingOnce_eq]
  refine Triple.bind composes Listed (Triple.perform (fun _ _ _ _ _ => trivial) stable
    (fun _ _ _ _ _ _ => trivial) ?_ ?_ (fun _ _ _ _ _ _ _ => trivial)) ?_
  · exact fun db fault inv _ allowed => (lists _ db fault inv allowed).1
  · exact fun db inv _ allowed => (lists _ db .none inv allowed).2
  · intro rows
    refine Triple.bind composes (fun _ => Listed rows)
      ((sweepRows_triple composes (stable rows) (each rows)).weaken
        (fun _ _ _ holds => holds) (fun _ _ _ _ => trivial)) ?_
    exact fun _ => Triple.done (stable rows) (fun _ _ _ => trivial)

end Sweep
end RomaBridge.Model
