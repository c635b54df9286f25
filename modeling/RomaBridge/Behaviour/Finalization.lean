import RomaBridge.Behaviour.Vocabulary
import RomaBridge.Foundation.Triples

/-! The specification of `finalize_job_billing` under interference.
The caller supplies what it knows before the status read and after it; the specification says
what each returned status, and each exception, proves about the ledger and the usage rows.
-/

namespace RomaBridge.Model

open RomaBridge.Foundation Program

-- Facts that only grow

/-- Ledger entries and usage rows are never changed or deleted. -/
structure Db.Grows (before after : Db) : Prop where
  ledger : Db.LedgerGrows before after
  usage : ∀ row ∈ before.usage, row ∈ after.usage

theorem Db.Grows.refl (db : Db) : Db.Grows db db := ⟨.refl db, fun _ member => member⟩

theorem Db.Grows.trans {first second third : Db} (left : Db.Grows first second)
    (right : Db.Grows second third)
    : Db.Grows first third :=
  ⟨left.ledger.trans right.ledger, fun row member => right.usage row (left.usage row member)⟩

theorem Db.apply_grows (db : Db) (query : Query) : Db.Grows db (db.apply query).2 := by
  refine ⟨db.apply_ledgerGrows query, ?_⟩
  intro row member
  rcases db.apply_usage query with same | ⟨added, _, _, _, _, _, appended⟩
  · exact same ▸ member
  · rw [appended]
    exact List.mem_append_left _ member

/-- The ledger holds a DEBIT that `_ledger_idem_lookup` accepts for this job and amount. -/
def Debited (tenantId : String) (jobId : JobId) (amount : ℚ) (db : Db) : Prop :=
  ∃ entry,
    db.ledger.find? (ledgerIdFor tenantId (jobKey jobId)) = some entry
    ∧ idemMatches entry amount "USD" (some jobId.text) = true

def Conflicting (tenantId : String) (jobId : JobId) (amount : ℚ) (db : Db) : Prop :=
  ∃ entry,
    db.ledger.find? (ledgerIdFor tenantId (jobKey jobId)) = some entry
    ∧ idemMatches entry amount "USD" (some jobId.text) = false

def Recorded (tenantId : String) (jobId : JobId) (eventType : EventType) (db : Db) : Prop :=
  ∃ row ∈ db.usage,
    row.tenantId = tenantId ∧ row.jobId = jobId.text ∧ row.eventType = eventType

section Growth

variable {tenantId : String} {jobId : JobId} {amount : ℚ} {eventType : EventType}
  {before after : Db}

theorem Debited.grows (debited : Debited tenantId jobId amount before)
    (grows : Db.Grows before after)
    : Debited tenantId jobId amount after := by
  obtain ⟨entry, found, same⟩ := debited
  exact ⟨entry, grows.ledger _ _ found, same⟩

theorem Conflicting.grows (conflict : Conflicting tenantId jobId amount before)
    (grows : Db.Grows before after)
    : Conflicting tenantId jobId amount after := by
  obtain ⟨entry, found, differs⟩ := conflict
  exact ⟨entry, grows.ledger _ _ found, differs⟩

theorem Recorded.grows (recorded : Recorded tenantId jobId eventType before)
    (grows : Db.Grows before after)
    : Recorded tenantId jobId eventType after := by
  obtain ⟨row, member, facts⟩ := recorded
  exact ⟨row, grows.usage row member, facts⟩

end Growth

theorem debited_of_insert {db : Db} {tenantId : String} {jobId : JobId} {gpuSec : ℚ}
    {planName : String} {ledgerId : LedgerId}
    (inserted
      : (db.debitInsert (billingEntry tenantId jobId gpuSec planName)).1 = some ledgerId)
    : Debited tenantId jobId (totalCost gpuSec 0 0)
        (db.debitInsert (billingEntry tenantId jobId gpuSec planName)).2 := by
  refine ⟨billingEntry tenantId jobId gpuSec planName, (Db.debitInsert_eq_some inserted).2, ?_⟩
  simp [idemMatches, billingEntry, debitEntry, usageMetadata]

theorem recorded_of_insert (db : Db) (tenantId : String) (jobId : JobId) (gpuSec : ℚ)
    (backend : Option String)
    : Recorded tenantId jobId (eventTypeOf backend)
        (db.usageInsert (billingUsage tenantId jobId gpuSec backend) gpuSec 0 0).2 := by
  unfold Db.usageInsert
  split
  · rename_i conflict
    simp only [Db.usageConflict, Bool.and_eq_true, List.any_eq_true, decide_eq_true_eq]
      at conflict
    obtain ⟨_, row, member, facts⟩ := conflict
    exact ⟨row, member, facts.1.1, facts.1.2, facts.2⟩
  · exact ⟨billingUsage tenantId jobId gpuSec backend, by simp, rfl, rfl, rfl⟩

-- The specification

/-- What a caller of `finalize_job_billing` must know. `Before` holds until the status read,
`Open` once the read found an open job of the tenant, `Skip` wherever the call returns `skip`
and `Fails` wherever it raises.
-/
structure FinalizeRules {τ ρ : Type} (M : Machine bridge Db τ ρ) (contract : Contract bridge Db τ)
    (tenantId : String) (jobId : JobId) (gpuSec : ℚ) (planName : String)
    (backend : Option String) (Before Open Skip Fails : Db → Prop)
    : Prop where
  composes : contract.Composes
  grows : ∀ {before after}, contract.rely before after → Db.Grows before after
  stableBefore : contract.Stable Before
  stableOpen : contract.Stable Open
  stableSkip : contract.Stable Skip
  stableFails : contract.Stable Fails
  reads
    : ∀ db fault,
        contract.inv db
        → Before db
        → contract.allowed db ⟨.finalizeRead, .getExecutionJob jobId⟩ fault
        → contract.Keeps M db ⟨.finalizeRead, .getExecutionJob jobId⟩ fault
  calls
    : ∀ call db fault,
        BillingCall tenantId jobId gpuSec planName backend call
        → contract.inv db
        → Open db
        → (call.site = .usageRecord → Debited tenantId jobId (totalCost gpuSec 0 0) db)
        → contract.allowed db call fault
        → contract.Keeps M db call fault ∧ Open (M.exec call fault db).2
  opens
    : ∀ db job,
        contract.inv db
        → Before db
        → db.job? jobId = some job
        → job.tenantId = tenantId
        → job.status ∉ finalizeSkips
        → Open db
  skips
    : ∀ db,
        contract.inv db
        → Before db
        → (∀ job,
            db.job? jobId = some job → job.tenantId = tenantId → job.status ∈ finalizeSkips)
        → Skip db
  free
    : ∀ db, contract.inv db → Open db → tenantId = "" ∨ totalCost gpuSec 0 0 ≤ 0 → Skip db
  readFails
    : ∀ db fault,
        contract.inv db
        → Before db
        → contract.allowed db ⟨.finalizeRead, .getExecutionJob jobId⟩ fault
        → fault ≠ .none
        → Fails db
  callFails
    : ∀ call db fault,
        BillingCall tenantId jobId gpuSec planName backend call
        → call.site ≠ .ledgerDebit
        → contract.inv db
        → Open db
        → (call.site = .usageRecord → Debited tenantId jobId (totalCost gpuSec 0 0) db)
        → contract.allowed db call fault
        → fault ≠ .none
        → Fails (M.exec call fault db).2
  absent
    : ∀ db,
        contract.inv db
        → Open db
        → (db.ledger.find? (ledgerIdFor tenantId (jobKey jobId))).filter
            (fun entry => entry.tenantId = tenantId)
          = none
        → Fails db

/-- What a returned status proves. -/
def FinalizePost (tenantId : String) (jobId : JobId) (gpuSec : ℚ) (backend : Option String)
    (Open Skip Fails : Db → Prop)
    : BillingStatus → Db → Prop
  | .ok, db =>
      Open db
      ∧ Debited tenantId jobId (totalCost gpuSec 0 0) db
      ∧ Recorded tenantId jobId (eventTypeOf backend) db
  | .noFunds, db => Open db ∧ Fails db
  | .mismatch, db => Open db ∧ Conflicting tenantId jobId (totalCost gpuSec 0 0) db
  | .skip, db => Skip db
  | .pgError, _ => False
  | .error, _ => False

section Specification

variable {τ ρ : Type} {body : τ → Action ρ} {starts : (query : Query) → query.Reply → List τ}
  {contract : Contract bridge Db τ} {tenantId : String} {jobId : JobId} {gpuSec : ℚ}
  {planName : String} {backend : Option String} {Before Open Skip Fails : Db → Prop}

/-- What an exception inside `_increment_usage` proves. -/
private def Refused (tenantId : String) (jobId : JobId) (gpuSec : ℚ) (Open Fails : Db → Prop)
    : Exn → Db → Prop
  | .ledgerIdemMismatch .., db => Open db ∧ Conflicting tenantId jobId (totalCost gpuSec 0 0) db
  | exn, db => Fails db ∧ exn.isException = true

private theorem refused_of_failure (call : Call) (reason : String) {db : Db} (failed : Fails db)
    : Refused tenantId jobId gpuSec Open Fails ((bridgeMachine body starts).raise call reason)
        db := by
  dsimp only [Call.failure]
  split <;> exact ⟨failed, rfl⟩

variable
  (rules
    : FinalizeRules (bridgeMachine body starts) contract tenantId jobId gpuSec planName backend
        Before Open Skip Fails)

include rules

private theorem stable_refused (exn : Exn)
    : contract.Stable (Refused tenantId jobId gpuSec Open Fails exn) := by
  intro before after moved inv holds
  cases exn with
  | ledgerIdemMismatch =>
      exact ⟨rules.stableOpen moved inv holds.1, holds.2.grows (rules.grows moved)⟩
  | _ => exact ⟨rules.stableFails moved inv holds.1, holds.2⟩

private theorem stable_found (found : Option LedgerId)
    : contract.Stable (fun db =>
        Open db
        ∧ (found.isSome → Debited tenantId jobId (totalCost gpuSec 0 0) db)
        ∧ (found.isNone → Fails db)) :=
  fun _ _ moved inv holds =>
    ⟨rules.stableOpen moved inv holds.1,
      fun some => (holds.2.1 some).grows (rules.grows moved),
      fun none => rules.stableFails moved inv (holds.2.2 none)⟩

private theorem lookup_triple {metadata : Metadata} (job : metadata.jobId = some jobId.text)
    : Triple (bridgeMachine body starts) contract Open
        (ledgerIdemLookup (ledgerIdFor tenantId (jobKey jobId)) tenantId (totalCost gpuSec 0 0)
          "USD" metadata)
        (fun found db =>
          Open db
          ∧ (found.isSome → Debited tenantId jobId (totalCost gpuSec 0 0) db)
          ∧ (found.isNone → Fails db))
        (Refused tenantId jobId gpuSec Open Fails) := by
  -- what one found entry, or its absence, proves
  let Found : Option LedgerEntry → Db → Prop := fun found db =>
    Open db
    ∧ (∀ entry,
        found = some entry
        → db.ledger.find? (ledgerIdFor tenantId (jobKey jobId)) = some entry)
    ∧ (found = none → Fails db)
  have stable : ∀ found, contract.Stable (Found found) := fun found _ _ moved inv holds =>
    ⟨rules.stableOpen moved inv holds.1,
      fun entry eq => (rules.grows moved).ledger _ _ (holds.2.1 entry eq),
      fun eq => rules.stableFails moved inv (holds.2.2 eq)⟩
  refine Triple.bind rules.composes Found
    (Triple.perform rules.stableOpen stable (stable_refused rules) ?_ ?_ ?_) ?_
  · exact fun db fault inv opened allowed => (rules.calls _ db fault .lookup inv opened (by simp) allowed).1
  · intro db inv opened allowed
    refine ⟨opened, fun entry eq => (Option.filter_eq_some_iff.mp eq).1, ?_⟩
    exact fun eq => rules.absent db inv opened eq
  · intro db fault reason inv opened allowed faulty
    refine refused_of_failure _ reason (rules.callFails _ db _ .lookup (by simp) inv opened
      (by simp) allowed ?_)
    rcases faulty with rfl | rfl <;> simp
  · rintro (_ | entry)
    · exact Triple.done (stable none)
        (fun db _ holds => ⟨holds.1, by simp, fun _ => holds.2.2 rfl⟩)
    · dsimp only
      split
      · rename_i same
        refine Triple.done (stable (some entry)) (fun db _ holds => ⟨holds.1, ?_, by simp⟩)
        exact fun _ => ⟨entry, holds.2.1 entry rfl, job ▸ same⟩
      · rename_i differs
        refine Triple.raised (stable (some entry))
          (fun db _ holds => ⟨holds.1, entry, holds.2.1 entry rfl, ?_⟩)
        exact job ▸ (Bool.eq_false_of_not_eq_true differs)

private theorem debit_triple (named : tenantId ≠ "") (positive : 0 < totalCost gpuSec 0 0)
    : Triple (bridgeMachine body starts) contract Open
        (debitIfFunds tenantId (totalCost gpuSec 0 0) "USD" (some (jobKey jobId))
          (usageMetadata gpuSec 0 0 planName jobId))
        (fun outcome db =>
          Open db
          ∧ (outcome.1.isSome → Debited tenantId jobId (totalCost gpuSec 0 0) db)
          ∧ (outcome.1.isNone → Fails db))
        (Refused tenantId jobId gpuSec Open Fails) := by
  let Inserted : Except Exn (Option LedgerId) → Db → Prop := fun outcome db =>
    Open db
    ∧ (∀ ledgerId, outcome = .ok (some ledgerId) → Debited tenantId jobId (totalCost gpuSec 0 0) db)
    ∧ (∀ exn, outcome = .error exn → ∃ reason, exn = .pgUnavailable reason)
  have stable : ∀ outcome, contract.Stable (Inserted outcome) := fun outcome _ _ moved inv holds =>
    ⟨rules.stableOpen moved inv holds.1,
      fun ledgerId eq => (holds.2.1 ledgerId eq).grows (rules.grows moved),
      holds.2.2⟩
  rw [debitIfFunds_eq positive.le (filter_jobKey jobId)]
  refine Triple.bind rules.composes Inserted (Triple.attempt rules.composes stable
    (Triple.perform rules.stableOpen (fun _ => stable _) (fun _ => stable _) ?_ ?_ ?_)) ?_
  · exact fun db fault inv opened allowed =>
      (rules.calls _ db fault (.debit named positive) inv opened (by simp) allowed).1
  · intro db inv opened allowed
    refine ⟨(rules.calls _ db .none (.debit named positive) inv opened (by simp) allowed).2, ?_, by simp⟩
    intro ledgerId eq
    exact debited_of_insert (Except.ok.inj eq)
  · intro db fault reason inv opened allowed _
    refine ⟨(rules.calls _ db fault (.debit named positive) inv opened (by simp) allowed).2, by simp, ?_⟩
    exact fun exn eq => ⟨reason, (Except.error.inj eq).symm⟩
  · rintro (exn | (_ | ledgerId))
    · -- the commit is indeterminate: only the lookup decides
      intro db inv holds
      obtain ⟨reason, rfl⟩ := holds.2.2 exn rfl
      refine Triple.bind rules.composes _ (lookup_triple rules rfl) ?_ db inv holds.1
      rintro (_ | found)
      · exact Triple.raised (stable_found rules none) (fun _ _ held => ⟨held.2.2 rfl, rfl⟩)
      · exact Triple.done (stable_found rules (some found))
          (fun _ _ held => ⟨held.1, fun _ => held.2.1 rfl, by simp⟩)
    · intro db inv holds
      refine Triple.bind rules.composes _ (lookup_triple rules rfl) ?_ db inv holds.1
      exact fun found => Triple.done (stable_found rules found) (fun _ _ held => held)
    · exact Triple.done (stable _)
        (fun db _ holds => ⟨holds.1, fun _ => holds.2.1 ledgerId rfl, by simp⟩)

private theorem increment_triple
    : Triple (bridgeMachine body starts) contract Open
        (incrementUsage tenantId gpuSec 0 0 planName jobId backend)
        (fun outcome db =>
          Open db
          ∧ (outcome.2 = true
            → Debited tenantId jobId (totalCost gpuSec 0 0) db
              ∧ Recorded tenantId jobId (eventTypeOf backend) db)
          ∧ (outcome.2 = false → if outcome.1 ≤ 0 then Skip db else Fails db))
        (Refused tenantId jobId gpuSec Open Fails) := by
  rw [incrementUsage_eq]
  split
  · rename_i costless
    exact Triple.done rules.stableOpen
      (fun db inv opened =>
        ⟨opened, by simp, fun _ => by simpa using rules.free db inv opened costless⟩)
  · rename_i billable
    obtain ⟨named, costly⟩ := not_or.mp billable
    have positive := not_le.mp costly
    refine Triple.bind rules.composes _ (debit_triple rules named positive) ?_
    intro outcome
    have stableDebited := stable_found rules outcome.1
    split
    · rename_i refused
      exact Triple.done stableDebited
        (fun db _ holds => ⟨holds.1, by simp, fun _ => by simpa [costly] using holds.2.2 refused⟩)
    · rename_i accepted
      have debited : ∀ db, (Open db
          ∧ (outcome.1.isSome → Debited tenantId jobId (totalCost gpuSec 0 0) db)
          ∧ (outcome.1.isNone → Fails db))
          → Debited tenantId jobId (totalCost gpuSec 0 0) db := by
        intro db holds
        apply holds.2.1
        rw [Option.isNone_iff_eq_none] at accepted
        exact Option.isSome_iff_ne_none.mpr accepted
      let Billed : Bool → Db → Prop := fun _ db =>
        Open db ∧ Debited tenantId jobId (totalCost gpuSec 0 0) db
        ∧ Recorded tenantId jobId (eventTypeOf backend) db
      have stableBilled : ∀ inserted, contract.Stable (Billed inserted) :=
        fun _ _ _ moved inv holds =>
          ⟨rules.stableOpen moved inv holds.1, holds.2.1.grows (rules.grows moved),
            holds.2.2.grows (rules.grows moved)⟩
      refine Triple.bind rules.composes Billed
        (Triple.perform stableDebited stableBilled (stable_refused rules) ?_ ?_ ?_) ?_
      · exact fun db fault inv holds allowed =>
          (rules.calls _ db fault (.record (gpuSec_pos positive)) inv holds.1
            (fun _ => debited db holds) allowed).1
      · intro db inv holds allowed
        refine ⟨(rules.calls _ db .none (.record (gpuSec_pos positive)) inv holds.1
            (fun _ => debited db holds) allowed).2,
          (debited db holds).grows (db.apply_grows _), ?_⟩
        exact recorded_of_insert db tenantId jobId gpuSec backend
      · intro db fault reason inv holds allowed faulty
        refine refused_of_failure _ reason
          (rules.callFails _ db _ (.record (gpuSec_pos positive)) (by simp) inv holds.1
            (fun _ => debited db holds) allowed ?_)
        rcases faulty with rfl | rfl <;> simp
      · exact fun _ => Triple.done (stableBilled true)
          (fun db _ holds => ⟨holds.1, fun _ => holds.2, by simp⟩)

private theorem stable_incremented (outcome : ℚ × Bool)
    : contract.Stable (fun db =>
        Open db
        ∧ (outcome.2 = true
          → Debited tenantId jobId (totalCost gpuSec 0 0) db
            ∧ Recorded tenantId jobId (eventTypeOf backend) db)
        ∧ (outcome.2 = false → if outcome.1 ≤ 0 then Skip db else Fails db)) := by
  intro before after moved inv holds
  refine ⟨rules.stableOpen moved inv holds.1, ?_, ?_⟩
  · intro debited
    exact ⟨(holds.2.1 debited).1.grows (rules.grows moved),
      (holds.2.1 debited).2.grows (rules.grows moved)⟩
  · intro refused
    have left := holds.2.2 refused
    split
    · rename_i free
      exact rules.stableSkip moved inv (by simpa [free] using left)
    · rename_i costly
      exact rules.stableFails moved inv (by simpa [costly] using left)

theorem finalizeJobBilling_triple
    : Triple (bridgeMachine body starts) contract Before
        (finalizeJobBilling tenantId jobId gpuSec planName backend)
        (FinalizePost tenantId jobId gpuSec backend Open Skip Fails)
        (fun exn db => Fails db ∧ exn.isException = true) := by
  have stableRaises : ∀ exn : Exn, contract.Stable (fun db => Fails db ∧ exn.isException = true) :=
    fun _ _ _ moved inv holds => ⟨rules.stableFails moved inv holds.1, holds.2⟩
  -- the read decides between an open job and a skip
  let Read : Option JobRow → Db → Prop := fun found db =>
    (∀ job, found = some job → job.tenantId = tenantId → job.status ∉ finalizeSkips → Open db)
    ∧ ((∀ job, found = some job → job.tenantId = tenantId → job.status ∈ finalizeSkips) → Skip db)
  have stableRead : ∀ found, contract.Stable (Read found) := fun found _ _ moved inv holds =>
    ⟨fun job eq tenant live => rules.stableOpen moved inv (holds.1 job eq tenant live),
      fun closed => rules.stableSkip moved inv (holds.2 closed)⟩
  refine Triple.bind rules.composes Read
    (Triple.perform rules.stableBefore stableRead stableRaises ?_ ?_ ?_) ?_
  · exact fun db fault inv before allowed => rules.reads db fault inv before allowed
  · exact fun db inv before allowed =>
      ⟨fun job found tenant live => rules.opens db job inv before found tenant live,
        fun closed => rules.skips db inv before closed⟩
  · intro db fault reason inv before allowed faulty
    have failed : Fails db := rules.readFails db fault inv before allowed
      (by rcases faulty with rfl | rfl <;> simp)
    rcases faulty with rfl | rfl <;> exact ⟨failed, rfl⟩
  · rintro (_ | job)
    · exact Triple.done (stableRead none) (fun _ _ holds => holds.2 (by simp))
    · dsimp only
      split
      · rename_i foreign
        refine Triple.done (stableRead (some job)) (fun _ _ holds => holds.2 ?_)
        rintro other eq tenant
        cases eq
        exact absurd tenant foreign
      · rename_i own
        split
        · rename_i closed
          refine Triple.done (stableRead (some job)) (fun _ _ holds => holds.2 ?_)
          rintro other eq _
          cases eq
          simpa using closed
        · rename_i live
          have opened : ∀ db, Read (some job) db → Open db := fun db holds =>
            holds.1 job rfl (not_not.mp own) (by simpa using live)
          let Caught : Except Exn (ℚ × Bool) → Db → Prop := fun outcome db =>
            match outcome with
            | .ok outcome =>
                Open db
                ∧ (outcome.2 = true
                  → Debited tenantId jobId (totalCost gpuSec 0 0) db
                    ∧ Recorded tenantId jobId (eventTypeOf backend) db)
                ∧ (outcome.2 = false → if outcome.1 ≤ 0 then Skip db else Fails db)
            | .error exn => Refused tenantId jobId gpuSec Open Fails exn db
          have stableCaught : ∀ outcome, contract.Stable (Caught outcome) := by
            rintro (exn | outcome)
            · exact stable_refused rules exn
            · exact stable_incremented rules outcome
          refine Triple.bind rules.composes Caught
            (Triple.attempt rules.composes stableCaught
              ((increment_triple rules).strengthen (fun db _ holds => opened db holds))) ?_
          rintro (exn | ⟨total, debited⟩)
          · have stable := stable_refused rules exn
            cases exn with
            | ledgerIdemMismatch => exact Triple.done stable (fun _ _ holds => holds)
            | _ => exact Triple.raised stable (fun _ _ holds => holds)
          · dsimp only
            split
            · rename_i accepted
              exact Triple.done (stableCaught (.ok (total, debited)))
                (fun _ _ holds => ⟨holds.1, holds.2.1 accepted⟩)
            · rename_i refused
              have left : ∀ db, Caught (.ok (total, debited)) db
                  → if total ≤ 0 then Skip db else Fails db :=
                fun db holds => holds.2.2 (by simpa using refused)
              split
              · rename_i free
                exact Triple.done (stableCaught (.ok (total, debited)))
                  (fun db _ holds => by simpa [free, FinalizePost] using left db holds)
              · rename_i costly
                exact Triple.done (stableCaught (.ok (total, debited)))
                  (fun db _ holds => ⟨holds.1, by simpa [costly] using left db holds⟩)

theorem tryFinalize_triple
    : Triple (bridgeMachine body starts) contract Before
        (tryFinalize tenantId jobId gpuSec planName backend)
        (fun status db =>
          FinalizePost tenantId jobId gpuSec backend Open Skip Fails status db
          ∨ ((status = .pgError ∨ status = .error) ∧ Fails db))
        (fun _ _ => False) := by
  have stable : ∀ exn : Exn, contract.Stable (fun db => Fails db ∧ exn.isException = true) :=
    fun _ _ _ moved inv holds => ⟨rules.stableFails moved inv holds.1, holds.2⟩
  refine Triple.handle rules.composes _
    ((finalizeJobBilling_triple rules).weaken (fun _ _ _ holds => Or.inl holds)
      (fun _ _ _ holds => holds)) ?_
  intro exn
  dsimp only
  split
  · exact Triple.done (stable _) (fun _ _ holds => Or.inr ⟨Or.inl rfl, holds.1⟩)
  · split
    · exact Triple.done (stable _) (fun _ _ holds => Or.inr ⟨Or.inr rfl, holds.1⟩)
    · rename_i killed
      exact Triple.raised (stable _) (fun _ _ holds => killed holds.2)

end Specification
end RomaBridge.Model
