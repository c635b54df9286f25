import RomaBridge.Behaviour.Finalization
import RomaBridge.Behaviour.ThreadCalls

/-! A job is charged at most once, whoever bills it and however its calls fail: the ledger id of a DEBIT
is a function of its tenant and job, and `finalize_job_billing` debits only the tenant of the job's row.
The usage row is keyed by the job and an event type that each caller derives from the backend it was
told, so ledger and usage agree as long as all callers derive the same one.
-/

namespace RomaBridge.Properties

open RomaBridge.Foundation RomaBridge.Model Program

-- Every DEBIT belongs to a stored job of its tenant

def jobDebits (db : Db) (jobId : JobId) : List LedgerEntry :=
  db.ledger.rows.filter (fun entry =>
    entry.entryType = .debit && entry.metadata.jobId = some jobId.text)

def Charged (db : Db) : Prop :=
  ∀ entry ∈ db.ledger.rows,
    entry.entryType = .debit
    → ∃ jobId,
        entry.ledgerId = ledgerIdFor entry.tenantId (jobKey jobId)
        ∧ entry.metadata.jobId = some jobId.text
        ∧ OwnedBy entry.tenantId jobId db

/-- Two DEBIT rows of one job are one row. Witness: the job fixes the tenant, both fix the
key, and keys are unique.
-/
theorem Charged.unique {db : Db} (charged : Charged db) {jobId : JobId}
    {left right : LedgerEntry} (inLeft : left ∈ jobDebits db jobId)
    (inRight : right ∈ jobDebits db jobId)
    : left = right := by
  simp only [jobDebits, List.mem_filter, Bool.and_eq_true, decide_eq_true_eq] at inLeft inRight
  obtain ⟨jobL, keyL, metaL, rowL, foundL, tenantL⟩ := charged left inLeft.1 inLeft.2.1
  obtain ⟨jobR, keyR, metaR, rowR, foundR, tenantR⟩ := charged right inRight.1 inRight.2.1
  have textL : jobL = jobId := JobId.eq_of_text (by
    rw [inLeft.2.2] at metaL
    exact congrArg String.toList (Option.some.inj metaL).symm)
  have textR : jobR = jobId := JobId.eq_of_text (by
    rw [inRight.2.2] at metaR
    exact congrArg String.toList (Option.some.inj metaR).symm)
  subst textL textR
  have sameRow : rowL = rowR := Option.some.inj (foundL.symm.trans foundR)
  have sameTenant : left.tenantId = right.tenantId := by
    rw [← tenantL, ← tenantR, sameRow]
  exact Table.eq_of_key inLeft.1 inRight.1 (by rw [keyL, keyR, sameTenant])

theorem Charged.length_le_one {db : Db} (charged : Charged db) (jobId : JobId)
    : (jobDebits db jobId).length ≤ 1 := by
  have distinct : (jobDebits db jobId).Nodup :=
    (List.Nodup.of_map _ db.ledger.unique).filter _
  exact length_le_one_of_nodup distinct
    (fun left inLeft right inRight => charged.unique inLeft inRight)

theorem Charged.apply {db : Db} (charged : Charged db) {query : Query}
    (noDebit : ∀ entry, query ≠ .debitInsert entry)
    (credits : ∀ entry, query = .creditInsert entry → entry.entryType = .credit)
    : Charged (db.apply query).2 := by
  intro entry member debit
  rcases Db.mem_apply_ledger member with old | new | new
  · obtain ⟨jobId, key, metadata, owned⟩ := charged entry old debit
    exact ⟨jobId, key, metadata, owned.apply query⟩
  · exact absurd new (noDebit entry)
  · rw [credits entry new] at debit
    cases debit

theorem Charged.debit {db : Db} (charged : Charged db) {tenantId : String} {jobId : JobId}
    {gpuSec : ℚ} {planName : String} (owned : OwnedBy tenantId jobId db)
    : Charged (db.apply (.debitInsert (billingEntry tenantId jobId gpuSec planName))).2 := by
  intro entry member debit
  rcases Db.mem_apply_ledger member with old | new | new
  · obtain ⟨jobId', key, metadata, owned'⟩ := charged entry old debit
    exact ⟨jobId', key, metadata, owned'.apply _⟩
  · cases new
    exact ⟨jobId, rfl, rfl, owned.apply _⟩
  · cases new

-- The invariant along every run of the service

theorem ownCall_ledger {kind : Kind} {call : Call} (own : OwnCall kind call)
    : (∀ entry, call.query ≠ .debitInsert entry)
      ∧ ∀ entry, call.query = .creditInsert entry → entry.entryType = .credit := by
  have refund : ∀ {tenantId jobId amount call}, RefundCall tenantId jobId amount call →
      (∀ entry, call.query ≠ .debitInsert entry)
      ∧ ∀ entry, call.query = .creditInsert entry → entry.entryType = .credit := by
    intro tenantId jobId amount call issued
    cases issued with
    | credit => exact ⟨by simp, fun entry eq => by cases eq; rfl⟩
    | lookup => exact ⟨by simp, by simp⟩
  cases kind with
  | executeAndBill jobId tenantId world =>
      cases own with
      | refund issued => exact refund issued
      | _ => exact ⟨by simp, by simp⟩
  | sweepRefundPending =>
      cases own with
      | refund issued => exact refund issued
      | _ => exact ⟨by simp, by simp⟩
  | topUp tenantId amount idempotencyKey nonce note =>
      cases own with
      | credit => exact ⟨by simp, fun entry eq => by cases eq; rfl⟩
      | lookup => exact ⟨by simp, by simp⟩
  | sweepBillingPending input =>
      cases own with
      | list => exact ⟨by simp, by simp⟩
      | row issued => cases issued <;> exact ⟨by simp, by simp⟩
  | _ => cases own <;> exact ⟨by simp, by simp⟩

/-- Every thread may rely on jobs that keep their tenant and on a growing ledger. -/
def chargeContract : Contract bridge Db Kind where
  inv := Charged
  rely before after :=
    Db.Grows before after
    ∧ ∀ tenantId jobId, OwnedBy tenantId jobId before → OwnedBy tenantId jobId after
  guarantee before _ _ after :=
    Db.Grows before after
    ∧ ∀ tenantId jobId, OwnedBy tenantId jobId before → OwnedBy tenantId jobId after
  allowed _ _ _ := True
  admits _ := True

theorem chargeContract_composes : chargeContract.Composes where
  refl db := ⟨.refl db, fun _ _ owned => owned⟩
  trans left right :=
    ⟨left.1.trans right.1,
      fun tenantId jobId owned => right.2 tenantId jobId (left.2 tenantId jobId owned)⟩

theorem chargeContract_keeps {db : Db} {call : Call} {fault : Fault} (charged : Charged db)
    (applied : Charged (db.apply call.query).2)
    : chargeContract.Keeps service db call fault :=
  .of_apply ⟨charged, .refl db, fun _ _ owned => owned⟩
    ⟨applied, db.apply_grows _, fun _ _ owned => owned.apply _⟩ (fun _ _ => trivial)

theorem Charged.billing {db : Db} (charged : Charged db) {tenantId : String} {jobId : JobId}
    {gpuSec : ℚ} {planName : String} {backend : Option String} {call : Call}
    (issued : BillingCall tenantId jobId gpuSec planName backend call)
    (owned : OwnedBy tenantId jobId db)
    : Charged (db.apply call.query).2 := by
  cases issued with
  | debit => exact charged.debit owned
  | read => exact charged.apply (by simp) (by simp)
  | lookup => exact charged.apply (by simp) (by simp)
  | record => exact charged.apply (by simp) (by simp)

theorem chargeContract_finalize (tenantId : String) (jobId : JobId) (gpuSec : ℚ)
    (planName : String) (backend : Option String)
    : FinalizeRules service chargeContract tenantId jobId gpuSec planName backend
        (fun _ => True) (OwnedBy tenantId jobId) (fun _ => True) (fun _ => True) where
  composes := chargeContract_composes
  grows := And.left
  stableBefore _ _ _ _ _ := trivial
  stableOpen _ _ moved _ owned := moved.2 tenantId jobId owned
  stableSkip _ _ _ _ _ := trivial
  stableFails _ _ _ _ _ := trivial
  reads db fault charged _ _ := chargeContract_keeps charged (charged.apply (by simp) (by simp))
  calls call db fault issued charged owned _ _ :=
    ⟨chargeContract_keeps charged (charged.billing issued owned),
      service.exec_holds owned (owned.apply _)⟩
  opens db job _ _ found tenant _ := ⟨job, found, tenant⟩
  skips _ _ _ _ := trivial
  free _ _ _ _ := trivial
  readFails _ _ _ _ _ _ := trivial
  callFails _ _ _ _ _ _ _ _ _ _ := trivial
  absent _ _ _ _ := trivial

theorem chargeContract_body (kind : Kind)
    : Triple service chargeContract (fun _ => True) (bodyOf kind) (fun _ _ => True)
        (fun _ _ => True) := by
  refine bodyOf_closed (Triple.closed chargeContract_composes) ?_ ?_
  · intro site query own
    obtain ⟨noDebit, credits⟩ := ownCall_ledger own
    exact Triple.perform (fun _ _ _ _ _ => trivial) (fun _ _ _ _ _ _ => trivial)
      (fun _ _ _ _ _ _ => trivial)
      (fun _ _ charged _ _ => chargeContract_keeps charged (charged.apply noDebit credits))
      (fun _ _ _ _ => trivial) (fun _ _ _ _ _ _ _ => trivial)
  · intro tenantId jobId gpuSec planName backend _
    exact (finalizeJobBilling_triple
      (chargeContract_finalize tenantId jobId gpuSec planName backend)).weaken
      (fun _ _ _ _ => trivial) (fun _ _ _ _ => trivial)

/-- One contract for all kinds of threads, with no condition on their outcomes. -/
def chargeDiscipline : Machine.Discipline bridge Db Kind Answer where
  contract _ := chargeContract
  returns _ _ _ := True
  raises _ _ _ := True

theorem chargeDiscipline_sound : chargeDiscipline.Sound Charged (fun _ _ => True) where
  composes _ := chargeContract_composes
  shared _ := rfl
  tolerates _ _ _ moved := moved
  joins _ _ := ⟨trivial, trivial⟩

theorem charged_of_reaches {config : Config bridge Db Kind Answer}
    (reached : service.Reaches (fun _ _ => True) (idle Db.empty) config)
    : Charged config.store := by
  have obeys : ∀ kind db, Charged db → chargeDiscipline.Obeys service (service.start kind) db :=
    fun kind db charged => chargeContract_body kind db charged trivial
  refine (reached.obeys chargeDiscipline_sound ?_ ?_ ?_ ?_ ?_).inv
  · exact fun _ kind _ => ⟨fun _ _ => ⟨trivial, trivial⟩, obeys kind⟩
  · exact fun _ kind _ => obeys kind
  · exact fun _ _ _ _ _ _ _ _ _ => trivial
  · exact fun _ _ _ _ _ _ _ _ _ => trivial
  · refine ⟨?_, by simp [idle], by simp [idle]⟩
    intro entry member
    simp [idle, Db.empty, Table.empty] at member

-- A repeated debit_if_funds

/-- The ledger holds the row that a `debit_if_funds` call with these arguments stands for. -/
structure Stored (tenantId key : String) (amount : ℚ) (currency : String)
    (jobId : Option String) (db : Db)
    : Prop where
  named : key ≠ ""
  nonneg : 0 ≤ amount
  row
    : ∃ entry,
        db.ledger.find? (ledgerIdFor tenantId key) = some entry
        ∧ entry.tenantId = tenantId
        ∧ idemMatches entry amount currency jobId = true

/-- Others only add to the ledger; the calls of this thread leave it alone if `quiet`, and
fail only if `faulty`.
-/
def ledgerContract (quiet faulty : Bool) : Contract bridge Db Kind where
  inv _ := True
  rely := Db.LedgerGrows
  guarantee before _ _ after := quiet = true → after.ledger = before.ledger
  allowed _ _ fault := faulty = true ∨ fault = .none
  admits _ := False

theorem ledgerContract_composes (quiet faulty : Bool) : (ledgerContract quiet faulty).Composes where
  refl := .refl
  trans := .trans

section Repeat

variable {quiet faulty : Bool} {tenantId key currency : String} {amount : ℚ}
  {jobId : Option String} {metadata : Metadata}

theorem stored_stable
    : (ledgerContract quiet faulty).Stable (Stored tenantId key amount currency jobId) := by
  rintro before after moved - ⟨named, nonneg, entry, found, facts⟩
  exact ⟨named, nonneg, entry, moved _ _ found, facts⟩

theorem ledgerContract_keeps {db : Db} {call : Call} {fault : Fault}
    (noClaim : ∀ limit locked world, call.query ≠ .claimQueuedExecutionJobs limit locked world)
    (same : quiet = true → (db.apply call.query).2.ledger = db.ledger)
    : (ledgerContract quiet faulty).Keeps service db call fault where
  inv := trivial
  guarantee := by
    intro silent
    rcases service.exec_store call fault db with unchanged | effect
    · rw [unchanged]
    · rw [effect]
      exact same silent
  admits := by
    intro kind started
    cases fault with
    | before reason => cases started
    | after reason => cases started
    | none =>
        obtain ⟨site, query⟩ := call
        cases query with
        | claimQueuedExecutionJobs limit locked world =>
            exact absurd rfl (noClaim limit locked world)
        | _ => cases started

theorem lookup_stored (metadata : Metadata) (job : metadata.jobId = jobId)
    : Triple service (ledgerContract quiet faulty) (Stored tenantId key amount currency jobId)
        (ledgerIdemLookup (ledgerIdFor tenantId key) tenantId amount currency metadata)
        (fun found db =>
          found = some (ledgerIdFor tenantId key)
          ∧ Stored tenantId key amount currency jobId db)
        (fun exn _ => faulty = true ∧ ∃ reason, exn = .pgUnavailable reason) := by
  subst job
  let Found : Option LedgerEntry → Db → Prop := fun found db =>
    (∃ entry, found = some entry ∧ idemMatches entry amount currency metadata.jobId = true)
    ∧ Stored tenantId key amount currency metadata.jobId db
  have stable : ∀ found, (ledgerContract quiet faulty).Stable (Found found) :=
    fun _ _ _ moved inv holds => ⟨holds.1, stored_stable moved inv holds.2⟩
  refine Triple.bind (ledgerContract_composes quiet faulty) Found
    (Triple.perform stored_stable stable (fun _ _ _ _ _ holds => holds) ?_ ?_ ?_) ?_
  · exact fun db fault _ _ _ => ledgerContract_keeps (by simp) (fun _ => rfl)
  · intro db _ stored _
    refine ⟨?_, stored⟩
    obtain ⟨entry, found, tenant, same⟩ := stored.row
    exact ⟨entry, by simp [Db.apply, found, tenant], same⟩
  · intro db fault reason _ _ allowed faulted
    refine ⟨?_, reason, rfl⟩
    rcases allowed with permitted | rfl
    · exact permitted
    · simp at faulted
  · rintro (_ | entry)
    · exact fun db _ holds => absurd holds.1 (by simp)
    · intro db inv holds
      obtain ⟨⟨other, eq, same⟩, _⟩ := id holds
      cases eq
      simp only [same, if_true]
      exact Triple.done (stable (some entry)) (fun _ _ held => ⟨rfl, held.2⟩) db inv holds

theorem debitInsert_stored {db : Db} (stored : Stored tenantId key amount currency jobId db)
    (metadata : Metadata)
    : db.debitInsert (debitEntry tenantId amount currency key metadata) = (none, db) := by
  obtain ⟨entry, found, _⟩ := stored.row
  have taken : db.ledger.insert? (debitEntry tenantId amount currency key metadata) = none :=
    Table.insert?_eq_none.mpr (Option.isSome_iff_exists.mpr ⟨entry, found⟩)
  simp [Db.debitInsert, Db.insertEntry, taken]

/-- A repeated call returns the id of the stored row and leaves the ledger alone; it raises
only when one of its calls failed.
-/
theorem debitIfFunds_stored (job : metadata.jobId = jobId)
    : Triple service (ledgerContract true faulty) (Stored tenantId key amount currency jobId)
        (debitIfFunds tenantId amount currency (some key) metadata)
        (fun outcome _ =>
          outcome.1 = some (ledgerIdFor tenantId key) ∧ (faulty = false → outcome.2 = false))
        (fun exn _ => faulty = true ∧ ∃ reason, exn = .pgUnavailable reason) := by
  intro db inv holds
  have named : (some key).filter (fun key => key ≠ "") = some key := by simp [holds.named]
  rw [debitIfFunds_eq holds.nonneg named]
  let Inserted : Except Exn (Option LedgerId) → Db → Prop := fun outcome db =>
    (outcome = .ok none ∨ faulty = true ∧ ∃ exn, outcome = .error exn)
    ∧ Stored tenantId key amount currency jobId db
  have stable : ∀ outcome, (ledgerContract true faulty).Stable (Inserted outcome) :=
    fun _ _ _ moved inv held => ⟨held.1, stored_stable moved inv held.2⟩
  refine Triple.bind (ledgerContract_composes true faulty) Inserted
    (Triple.attempt (ledgerContract_composes true faulty) stable
      (Triple.perform stored_stable (fun _ => stable _) (fun _ => stable _) ?_ ?_ ?_)) ?_
    db inv holds
  · intro db fault _ stored _
    refine ledgerContract_keeps (by simp) (fun _ => ?_)
    simp only [Db.apply, debitInsert_stored stored]
  · intro db _ stored _
    simp only [Db.apply, debitInsert_stored stored]
    exact ⟨Or.inl rfl, stored⟩
  · intro db fault reason _ stored allowed faulted
    have permitted : faulty = true := by
      rcases allowed with permitted | rfl
      · exact permitted
      · simp at faulted
    refine ⟨Or.inr ⟨permitted, _, rfl⟩, ?_⟩
    rcases faulted with rfl | rfl
    · exact stored
    · simp only [Machine.exec, Db.apply, debitInsert_stored stored]
      exact stored
  · rintro (exn | (_ | ledgerId)) db inv ⟨origin, stored⟩
    · have permitted : faulty = true := by
        rcases origin with eq | ⟨permitted, _⟩
        · cases eq
        · exact permitted
      refine Triple.bind (ledgerContract_composes true faulty) _
        (lookup_stored { metadata with idempotencyKey := some key } job) ?_ db inv stored
      rintro found db inv ⟨rfl, held⟩
      exact Triple.done stored_stable (fun _ _ _ => ⟨rfl, by simp [permitted]⟩) db inv held
    · refine Triple.bind (ledgerContract_composes true faulty) _
        (lookup_stored { metadata with idempotencyKey := some key } job) ?_ db inv stored
      rintro found db inv ⟨rfl, held⟩
      exact Triple.done stored_stable (fun _ _ _ => ⟨rfl, fun _ => rfl⟩) db inv held
    · rcases origin with eq | ⟨_, _, eq⟩ <;> cases eq

theorem stored_of_lookup (named : key ≠ "") (nonneg : 0 ≤ amount) (metadata : Metadata)
    : Triple service (ledgerContract false true) (fun _ => True)
        (ledgerIdemLookup (ledgerIdFor tenantId key) tenantId amount currency metadata)
        (fun found db =>
          ∀ ledgerId,
            found = some ledgerId
            → ledgerId = ledgerIdFor tenantId key
              ∧ Stored tenantId key amount currency metadata.jobId db)
        (fun _ _ => True) := by
  let Found : Option LedgerEntry → Db → Prop := fun found db =>
    ∀ entry,
      found = some entry
      → db.ledger.find? (ledgerIdFor tenantId key) = some entry ∧ entry.tenantId = tenantId
  have stable : ∀ found, (ledgerContract false true).Stable (Found found) :=
    fun _ _ _ moved _ holds entry eq => ⟨moved _ _ (holds entry eq).1, (holds entry eq).2⟩
  refine Triple.bind (ledgerContract_composes false true) Found
    (Triple.perform (fun _ _ _ _ _ => trivial) stable (fun _ _ _ _ _ _ => trivial) ?_ ?_ ?_) ?_
  · exact fun db fault _ _ _ => ledgerContract_keeps (by simp) (fun _ => rfl)
  · intro db _ _ _ entry eq
    simpa [Db.apply, Option.filter_eq_some_iff] using eq
  · exact fun _ _ _ _ _ _ _ => trivial
  · rintro (_ | entry)
    · exact Triple.done (stable none) (fun _ _ _ ledgerId eq => by cases eq)
    · dsimp only
      split
      · rename_i same
        refine Triple.done (stable (some entry)) ?_
        rintro db - holds ledgerId eq
        cases eq
        exact ⟨rfl, named, nonneg, entry, (holds entry rfl).1, (holds entry rfl).2, same⟩
      · exact Triple.raised (stable (some entry)) (fun _ _ _ => trivial)

/-- A call that returned an id left the row it stands for. -/
theorem stored_of_debitIfFunds
    : Triple service (ledgerContract false true) (fun _ => True)
        (debitIfFunds tenantId amount currency (some key) metadata)
        (fun outcome db =>
          ∀ ledgerId,
            outcome.1 = some ledgerId
            → ledgerId = ledgerIdFor tenantId key
              ∧ Stored tenantId key amount currency metadata.jobId db)
        (fun _ _ => True) := by
  have free : (ledgerContract false true).Stable (fun _ => True) := fun _ _ _ _ _ => trivial
  by_cases nonneg : 0 ≤ amount
  swap
  · rw [debitIfFunds, if_pos (not_le.mp nonneg)]
    exact Triple.raised free (fun _ _ _ => trivial)
  by_cases named : key = ""
  · subst named
    simp only [debitIfFunds, rejectInvalidMoneyAmount, not_lt.mpr nonneg, if_false]
    exact Triple.raised free (fun _ _ _ => trivial)
  rw [debitIfFunds_eq nonneg (by simp [named])]
  let Inserted : Except Exn (Option LedgerId) → Db → Prop := fun outcome db =>
    ∀ ledgerId,
      outcome = .ok (some ledgerId)
      → ledgerId = ledgerIdFor tenantId key
        ∧ Stored tenantId key amount currency metadata.jobId db
  have stable : ∀ outcome, (ledgerContract false true).Stable (Inserted outcome) :=
    fun _ _ _ moved inv holds ledgerId eq =>
      ⟨(holds ledgerId eq).1, stored_stable moved inv (holds ledgerId eq).2⟩
  have stableFound : ∀ found : Option LedgerId, (ledgerContract false true).Stable (fun db =>
      ∀ ledgerId, found = some ledgerId → ledgerId = ledgerIdFor tenantId key
        ∧ Stored tenantId key amount currency metadata.jobId db) :=
    fun _ _ _ moved inv holds ledgerId eq =>
      ⟨(holds ledgerId eq).1, stored_stable moved inv (holds ledgerId eq).2⟩
  refine Triple.bind (ledgerContract_composes false true) Inserted
    (Triple.attempt (ledgerContract_composes false true) stable
      (Triple.perform free (fun _ => stable _) (fun _ => stable _) ?_ ?_ ?_)) ?_
  · exact fun db fault _ _ _ => ledgerContract_keeps (by simp) (by simp)
  · intro db _ _ _ ledgerId eq
    obtain ⟨same, found⟩ := Db.debitInsert_eq_some (Except.ok.inj eq)
    refine ⟨same, named, nonneg, _, found, rfl, ?_⟩
    simp [idemMatches, debitEntry]
  · intro db fault reason _ _ _ _ ledgerId eq
    cases eq
  · rintro (exn | (_ | ledgerId))
    · refine Triple.strengthen (Triple.bind (ledgerContract_composes false true) _
        (stored_of_lookup named nonneg _) ?_) (fun _ _ _ => trivial)
      rintro (_ | found)
      · exact Triple.raised (stableFound none) (fun _ _ _ => trivial)
      · exact Triple.done (stableFound (some found)) (fun _ _ holds => holds)
    · refine Triple.strengthen (Triple.bind (ledgerContract_composes false true) _
        (stored_of_lookup named nonneg _) ?_) (fun _ _ _ => trivial)
      exact fun found => Triple.done (stableFound found) (fun _ _ holds => holds)
    · refine Triple.done (stable (.ok (some ledgerId))) (fun _ _ holds other eq => ?_)
      cases eq
      exact holds ledgerId rfl

end Repeat

-- No double charge

/-- In every run of the service, with any faults and crashes, a job has at most one DEBIT.
A `debit_if_funds` call that returned an id left its row, and from then on every call with the
same arguments, whatever else happens to the ledger, leaves the ledger alone and returns that
id, or raises because one of its own transactions failed.
-/
theorem no_double_charge {config : Config bridge Db Kind Answer}
    (reached : service.Reaches (fun _ _ => True) (idle Db.empty) config) (jobId : JobId)
    : (jobDebits config.store jobId).length ≤ 1
      ∧ ∀ (tenantId key currency : String) (amount : ℚ) (metadata metadata' : Metadata),
          metadata'.jobId = metadata.jobId
          → Triple service (ledgerContract false true) (fun _ => True)
              (debitIfFunds tenantId amount currency (some key) metadata)
              (fun outcome db =>
                ∀ ledgerId,
                  outcome.1 = some ledgerId
                  → ledgerId = ledgerIdFor tenantId key
                    ∧ Stored tenantId key amount currency metadata.jobId db)
              (fun _ _ => True)
            ∧ Triple service (ledgerContract true true)
                (Stored tenantId key amount currency metadata.jobId)
                (debitIfFunds tenantId amount currency (some key) metadata')
                (fun outcome _ => outcome.1 = some (ledgerIdFor tenantId key))
                (fun exn _ => ∃ reason, exn = .pgUnavailable reason)
            ∧ Triple service (ledgerContract true false)
                (Stored tenantId key amount currency metadata.jobId)
                (debitIfFunds tenantId amount currency (some key) metadata')
                (fun outcome _ => outcome = (some (ledgerIdFor tenantId key), false))
                (fun _ _ => False) := by
  refine ⟨(charged_of_reaches reached).length_le_one jobId, ?_⟩
  intro tenantId key currency amount metadata metadata' job
  refine ⟨stored_of_debitIfFunds, ?_, ?_⟩
  · exact (debitIfFunds_stored job).weaken (fun _ _ _ holds => holds.1) (fun _ _ _ holds => holds.2)
  · refine (debitIfFunds_stored job).weaken ?_ ?_
    · exact fun outcome _ _ holds => Prod.ext holds.1 (holds.2 rfl)
    · exact fun _ _ _ holds => by simpa using holds.1

/-- Witness: the worker and a concurrent `/complete`, whose commit is indeterminate, both bill
the job; one DEBIT is stored.
-/
theorem no_double_charge_race
    : ∃ config,
        service.Reaches (fun _ _ => True) (idle Db.empty) config
        ∧ (jobDebits config.store jobA).length = 1
        ∧ (jobDebits config.store jobA).length ≤ 1 := by
  have ran
      : (service.run (fun _ _ => true) (idle Db.empty)
          (claimedJob 10 "completed"
            ++ ([.exec 3 .none, .exec 3 .none,
               .arrive (.completeJob { tenant := .ok "t", confirmed := some 10 } jobA),
               .exec 4 .none, .exec 4 .none, .exec 4 (.after "reset"), .exec 4 .none,
               .exec 3 .none, .exec 3 .none] : List (Label Kind)))).any
          (fun config => (jobDebits config.store jobA).length == 1)
        = true := by
    decide +kernel
  obtain ⟨config, reached, one⟩ := reaches_check _ ran
  exact ⟨config, reached, by simpa using one, (no_double_charge reached jobA).1⟩

-- Billing calls of one job among arbitrary transactions

/-- A call of `finalize_job_billing` for the job, or one transaction of anybody else. -/
inductive BillKind where
  | finalize (tenantId planName : String) (backend : Option String)
  | transaction (call : Call)

def billBody (jobId : JobId) (gpuSec : ℚ) : BillKind → Action (Option BillingStatus)
  | .finalize tenantId planName backend =>
      (finalizeJobBilling tenantId jobId gpuSec planName backend).bind
        (fun status => .done (some status))
  | .transaction issued => (ask issued.site issued.query).bind (fun _ => .done none)

/-- All billing calls of one job with the same billable seconds. -/
@[reducible]
def billing (jobId : JobId) (gpuSec : ℚ) : Machine bridge Db BillKind (Option BillingStatus) :=
  bridgeMachine (billBody jobId gpuSec) (fun _ _ => [])

/-- The transaction neither debits nor meters the job. -/
def isForeign (jobId : JobId) : Query → Bool
  | .debitInsert entry => entry.entryType ≠ .debit || entry.metadata.jobId ≠ some jobId.text
  | .creditInsert entry => entry.entryType ≠ .debit || entry.metadata.jobId ≠ some jobId.text
  | .usageInsert row _ _ _ => row.jobId ≠ jobId.text
  | _ => true

def billsOnly (jobId : JobId) : Label BillKind → Bool
  | .arrive (.transaction issued) => isForeign jobId issued.query
  | _ => true

def meters (eventType : EventType) : Label BillKind → Bool
  | .arrive (.finalize _ _ backend) => eventTypeOf backend = eventType
  | _ => true

def jobUsage (db : Db) (jobId : JobId) : List UsageRow :=
  db.usage.filter (fun row => row.jobId = jobId.text)

/-- `SUM(cost_usd)` of a job. -/
def usageCost (db : Db) (jobId : JobId) : ℚ := ((jobUsage db jobId).map UsageRow.costUsd).sum

def debitTotal (db : Db) (jobId : JobId) : ℚ := ((jobDebits db jobId).map LedgerEntry.amount).sum

-- The invariant

/-- Every DEBIT of the job has the one amount and the key of the job's tenant, and the job has
at most one usage row, of that amount and event type, once it is debited.
-/
structure Metered (jobId : JobId) (gpuSec : ℚ) (eventType : EventType) (db : Db) : Prop where
  charged
    : ∀ entry ∈ jobDebits db jobId,
        entry.ledgerId = ledgerIdFor entry.tenantId (jobKey jobId)
        ∧ entry.amount = totalCost gpuSec 0 0
        ∧ 0 < entry.amount
        ∧ OwnedBy entry.tenantId jobId db
  metered
    : ∀ row ∈ jobUsage db jobId,
        row.eventType = eventType
        ∧ row.costUsd = totalCost gpuSec 0 0
        ∧ OwnedBy row.tenantId jobId db
        ∧ Debited row.tenantId jobId (totalCost gpuSec 0 0) db
  once : (jobUsage db jobId).length ≤ 1

section Metered

variable {jobId : JobId} {gpuSec : ℚ} {eventType : EventType} {db : Db}

theorem mem_jobDebits_of_debited {tenantId : String} {amount : ℚ}
    (debited : Debited tenantId jobId amount db)
    : ∃ entry, entry ∈ jobDebits db jobId := by
  obtain ⟨entry, found, same⟩ := debited
  simp only [idemMatches, Bool.and_eq_true, decide_eq_true_eq] at same
  exact ⟨entry, by simp [jobDebits, (Table.find?_some found).1, same.1.1.1, same.2]⟩

theorem Metered.debitTotal_eq (metered : Metered jobId gpuSec eventType db)
    : jobDebits db jobId = [] ∧ debitTotal db jobId = 0
      ∨ debitTotal db jobId = totalCost gpuSec 0 0 ∧ 0 < totalCost gpuSec 0 0 := by
  have distinct : (jobDebits db jobId).Nodup := (List.Nodup.of_map _ db.ledger.unique).filter _
  have one : (jobDebits db jobId).length ≤ 1 := by
    refine length_le_one_of_nodup distinct ?_
    intro left inLeft right inRight
    obtain ⟨keyL, _, _, ownedL⟩ := metered.charged left inLeft
    obtain ⟨keyR, _, _, ownedR⟩ := metered.charged right inRight
    refine Table.eq_of_key (List.mem_of_mem_filter inLeft) (List.mem_of_mem_filter inRight) ?_
    rw [keyL, keyR, ownedL.unique ownedR]
  match rows : jobDebits db jobId with
  | [] => exact Or.inl ⟨rfl, by simp [debitTotal, rows]⟩
  | [entry] =>
      obtain ⟨_, amount, positive, _⟩ := metered.charged entry (by simp [rows])
      exact Or.inr ⟨by simp [debitTotal, rows, amount], amount ▸ positive⟩
  | _ :: _ :: _ => simp [rows] at one

theorem Metered.usageCost_le (metered : Metered jobId gpuSec eventType db)
    : usageCost db jobId ≤ debitTotal db jobId
      ∧ (jobUsage db jobId ≠ [] → usageCost db jobId = debitTotal db jobId) := by
  match rows : jobUsage db jobId with
  | [] =>
      refine ⟨?_, by simp⟩
      rcases metered.debitTotal_eq with ⟨_, none⟩ | ⟨total, positive⟩
      · simp [usageCost, rows, none]
      · simp [usageCost, rows, total, positive.le]
  | [row] =>
      obtain ⟨_, cost, _, debited⟩ := metered.metered row (by simp [rows])
      have same : usageCost db jobId = debitTotal db jobId := by
        rcases metered.debitTotal_eq with ⟨none, _⟩ | ⟨total, _⟩
        · obtain ⟨entry, member⟩ := mem_jobDebits_of_debited debited
          simp [none] at member
        · simp [usageCost, rows, cost, total]
      exact ⟨same.le, fun _ => same⟩
  | _ :: _ :: _ =>
      have one := metered.once
      simp [rows] at one

theorem text_not_reserved (jobId : JobId)
    : ["manual", "auto", ""].contains jobId.text = false := by
  obtain ⟨text, nonempty, plain⟩ := jobId
  rw [Bool.eq_false_iff]
  intro reserved
  simp only [List.contains_cons, List.contains_nil, Bool.or_false, Bool.or_eq_true, beq_iff_eq]
    at reserved
  rcases reserved with rfl | rfl | rfl
  · revert plain
    decide
  · revert plain
    decide
  · exact nonempty rfl

theorem apply_jobUsage (db : Db) (query : Query) (jobId : JobId)
    : jobUsage (db.apply query).2 jobId = jobUsage db jobId
      ∨ ∃ row gpuSeconds cpuSeconds gbSeconds,
          query = .usageInsert row gpuSeconds cpuSeconds gbSeconds
          ∧ row.jobId = jobId.text
          ∧ db.usageConflict row = false
          ∧ jobUsage (db.apply query).2 jobId = jobUsage db jobId ++ [row] := by
  rcases db.apply_usage query with same | ⟨row, _, _, _, issued, fresh, appended⟩
  · exact Or.inl (by simp [jobUsage, same])
  · by_cases own : row.jobId = jobId.text
    · refine Or.inr ⟨row, _, _, _, issued, own, fresh, ?_⟩
      simp [jobUsage, appended, own]
    · exact Or.inl (by simp [jobUsage, appended, own])

/-- A transaction keeps the invariant if what it adds for the job meets it. -/
theorem Metered.apply (metered : Metered jobId gpuSec eventType db) {query : Query}
    (debits
      : ∀ entry,
          query = .debitInsert entry ∨ query = .creditInsert entry
          → entry.entryType = .debit
          → entry.metadata.jobId = some jobId.text
          → entry.ledgerId = ledgerIdFor entry.tenantId (jobKey jobId)
            ∧ entry.amount = totalCost gpuSec 0 0
            ∧ 0 < entry.amount
            ∧ OwnedBy entry.tenantId jobId db)
    (usage
      : ∀ row gpuSeconds cpuSeconds gbSeconds,
          query = .usageInsert row gpuSeconds cpuSeconds gbSeconds
          → row.jobId = jobId.text
          → row.eventType = eventType
            ∧ row.costUsd = totalCost gpuSec 0 0
            ∧ OwnedBy row.tenantId jobId db
            ∧ Debited row.tenantId jobId (totalCost gpuSec 0 0) db)
    : Metered jobId gpuSec eventType (db.apply query).2 := by
  have kept : ∀ {row : UsageRow}, row.eventType = eventType
        ∧ row.costUsd = totalCost gpuSec 0 0
        ∧ OwnedBy row.tenantId jobId db
        ∧ Debited row.tenantId jobId (totalCost gpuSec 0 0) db
      → row.eventType = eventType
        ∧ row.costUsd = totalCost gpuSec 0 0
        ∧ OwnedBy row.tenantId jobId (db.apply query).2
        ∧ Debited row.tenantId jobId (totalCost gpuSec 0 0) (db.apply query).2 :=
    fun facts =>
      ⟨facts.1, facts.2.1, facts.2.2.1.apply query, facts.2.2.2.grows (db.apply_grows query)⟩
  refine ⟨?_, ?_, ?_⟩
  · intro entry member
    simp only [jobDebits, List.mem_filter, Bool.and_eq_true, decide_eq_true_eq] at member
    obtain ⟨stored, debit, job⟩ := member
    rcases Db.mem_apply_ledger stored with old | new
    · obtain ⟨key, amount, positive, owned⟩ :=
        metered.charged entry (by simp [jobDebits, old, debit, job])
      exact ⟨key, amount, positive, owned.apply query⟩
    · obtain ⟨key, amount, positive, owned⟩ := debits entry new debit job
      exact ⟨key, amount, positive, owned.apply query⟩
  · intro row member
    rcases apply_jobUsage db query jobId with same | ⟨added, _, _, _, issued, own, _, appended⟩
    · exact kept (metered.metered row (same ▸ member))
    · rw [appended, List.mem_append, List.mem_singleton] at member
      rcases member with old | rfl
      · exact kept (metered.metered row old)
      · exact kept (usage row _ _ _ issued own)
  · rcases apply_jobUsage db query jobId with same | ⟨added, _, _, _, issued, own, fresh, appended⟩
    · rw [same]
      exact metered.once
    · -- a stored row of the job would be in conflict with the new one
      have none : jobUsage db jobId = [] := by
        rw [List.eq_nil_iff_forall_not_mem]
        intro row member
        obtain ⟨type, _, owned, _⟩ := metered.metered row member
        obtain ⟨type', _, owned', _⟩ := usage added _ _ _ issued own
        simp only [jobUsage, List.mem_filter, decide_eq_true_eq] at member
        simp only [Db.usageConflict, own, text_not_reserved, Bool.not_false, Bool.true_and,
          List.any_eq_false] at fresh
        refine fresh row member.1 ?_
        simp [member.2, type, type', owned.unique owned']
      simp [appended, none]

theorem Metered.foreign (metered : Metered jobId gpuSec eventType db) {query : Query}
    (foreign : isForeign jobId query = true)
    : Metered jobId gpuSec eventType (db.apply query).2 := by
  refine metered.apply ?_ ?_
  · rintro entry (rfl | rfl) debit job <;> simp [isForeign, debit, job] at foreign
  · rintro row _ _ _ rfl own
    simp [isForeign, own] at foreign

theorem roundTo_gpuCost (gpuSec : ℚ) : roundTo 8 (gpuCost gpuSec) = totalCost gpuSec 0 0 := by
  have none : tokenCost 0 0 = 0 := by simp [tokenCost]
  rw [totalCost, none, add_zero]

theorem Metered.billing (metered : Metered jobId gpuSec eventType db) {tenantId : String}
    {planName : String} {backend : Option String} {call : Call}
    (issued : BillingCall tenantId jobId gpuSec planName backend call)
    (owned : OwnedBy tenantId jobId db)
    (debited
      : call.site = .usageRecord → Debited tenantId jobId (totalCost gpuSec 0 0) db)
    (agreed : eventTypeOf backend = eventType)
    : Metered jobId gpuSec eventType (db.apply call.query).2 := by
  cases issued with
  | read => exact metered.foreign rfl
  | lookup => exact metered.foreign rfl
  | debit named positive =>
      refine metered.apply ?_ (by simp)
      rintro entry (same | same) - -
      · cases same
        exact ⟨rfl, rfl, positive, owned⟩
      · cases same
  | record =>
      refine metered.apply (by simp) ?_
      rintro row _ _ _ same -
      cases same
      exact ⟨agreed, roundTo_gpuCost gpuSec, owned, debited rfl⟩

end Metered

-- Every run

section Runs

variable {jobId : JobId} {gpuSec : ℚ} {eventType : EventType}

/-- Ledger and usage only grow, and jobs keep their tenant. -/
def meterContract (jobId : JobId) (gpuSec : ℚ) (eventType : EventType)
    : Contract bridge Db BillKind where
  inv := Metered jobId gpuSec eventType
  rely before after :=
    Db.Grows before after
    ∧ ∀ tenantId, OwnedBy tenantId jobId before → OwnedBy tenantId jobId after
  guarantee before _ _ after :=
    Db.Grows before after
    ∧ ∀ tenantId, OwnedBy tenantId jobId before → OwnedBy tenantId jobId after
  allowed _ _ _ := True
  admits _ := False

theorem meterContract_composes : (meterContract jobId gpuSec eventType).Composes where
  refl db := ⟨.refl db, fun _ owned => owned⟩
  trans left right :=
    ⟨left.1.trans right.1, fun tenantId owned => right.2 tenantId (left.2 tenantId owned)⟩

theorem meterContract_keeps {db : Db} {call : Call} {fault : Fault}
    (metered : Metered jobId gpuSec eventType db)
    (applied : Metered jobId gpuSec eventType (db.apply call.query).2)
    : (meterContract jobId gpuSec eventType).Keeps (billing jobId gpuSec) db call fault := by
  refine .of_apply ⟨metered, .refl db, fun _ owned => owned⟩
    ⟨applied, db.apply_grows _, fun _ owned => owned.apply _⟩ ?_
  intro kind started
  cases fault with
  | none => cases started
  | before reason => cases started
  | after reason => cases started

theorem meterContract_finalize {tenantId planName : String} {backend : Option String}
    (agreed : eventTypeOf backend = eventType)
    : FinalizeRules (billing jobId gpuSec) (meterContract jobId gpuSec eventType) tenantId jobId
        gpuSec planName backend (fun _ => True) (OwnedBy tenantId jobId) (fun _ => True)
        (fun _ => True) where
  composes := meterContract_composes
  grows := And.left
  stableBefore _ _ _ _ _ := trivial
  stableOpen _ _ moved _ owned := moved.2 tenantId owned
  stableSkip _ _ _ _ _ := trivial
  stableFails _ _ _ _ _ := trivial
  reads db fault metered _ _ := meterContract_keeps metered (metered.foreign rfl)
  calls call db fault issued metered owned debited _ :=
    ⟨meterContract_keeps metered (metered.billing issued owned debited agreed),
      (billing jobId gpuSec).exec_holds owned (owned.apply _)⟩
  opens db job _ _ found tenant _ := ⟨job, found, tenant⟩
  skips _ _ _ _ := trivial
  free _ _ _ _ := trivial
  readFails _ _ _ _ _ _ := trivial
  callFails _ _ _ _ _ _ _ _ _ _ := trivial
  absent _ _ _ _ := trivial

/-- What a returned status proves: after `ok` the job is metered. -/
def meterDiscipline (jobId : JobId) (gpuSec : ℚ) (eventType : EventType)
    : Machine.Discipline bridge Db BillKind (Option BillingStatus) where
  contract _ := meterContract jobId gpuSec eventType
  returns _ answer db := answer = some .ok → jobUsage db jobId ≠ []
  raises _ _ _ := True

theorem meterDiscipline_sound
    : (meterDiscipline jobId gpuSec eventType).Sound (Metered jobId gpuSec eventType)
        (fun _ _ => True) where
  composes _ := meterContract_composes
  shared _ := rfl
  tolerates _ _ _ moved := moved
  joins _ _ := ⟨trivial, trivial⟩

theorem metered_stable
    : (meterContract jobId gpuSec eventType).Stable (fun db => jobUsage db jobId ≠ []) := by
  intro before after moved _ metered
  obtain ⟨row, member⟩ := List.exists_mem_of_ne_nil _ metered
  simp only [jobUsage, List.mem_filter] at member
  refine List.ne_nil_of_mem (a := row) ?_
  simp only [jobUsage, List.mem_filter]
  exact ⟨moved.1.usage row member.1, member.2⟩

/-- Every thread keeps the contract from every store of the invariant. -/
theorem meterDiscipline_obeys {kind : BillKind}
    (arrives : billsOnly jobId (.arrive kind) = true ∧ meters eventType (.arrive kind) = true)
    (db : Db) (metered : Metered jobId gpuSec eventType db)
    : (meterDiscipline jobId gpuSec eventType).Obeys (billing jobId gpuSec)
        ((billing jobId gpuSec).start kind) db := by
  cases kind with
  | finalize tenantId planName backend =>
      have agreed : eventTypeOf backend = eventType := by simpa [meters] using arrives.2
      have stable : ∀ status, (meterContract jobId gpuSec eventType).Stable (fun db =>
          status = BillingStatus.ok → jobUsage db jobId ≠ []) :=
        fun status _ _ moved inv holds ok => metered_stable moved inv (holds ok)
      have triple : Triple (billing jobId gpuSec) (meterContract jobId gpuSec eventType)
          (fun _ => True) (billBody jobId gpuSec (.finalize tenantId planName backend))
          ((meterDiscipline jobId gpuSec eventType).returns (.finalize tenantId planName backend))
          (fun _ _ => True) := by
        refine Triple.bind meterContract_composes
          (fun status db => status = BillingStatus.ok → jobUsage db jobId ≠ [])
          ((finalizeJobBilling_triple (meterContract_finalize agreed)).weaken ?_
            (fun _ _ _ _ => trivial)) ?_
        · rintro status db - post rfl
          obtain ⟨_, _, row, member, _, job, _⟩ := post
          exact List.ne_nil_of_mem (a := row) (by simp [jobUsage, member, job])
        · intro status
          exact Triple.done (stable status) (fun _ _ holds same => holds (Option.some.inj same))
      exact triple db metered trivial
  | transaction issued =>
      have foreign : isForeign jobId issued.query = true := arrives.1
      have triple : Triple (billing jobId gpuSec) (meterContract jobId gpuSec eventType)
          (fun _ => True) (billBody jobId gpuSec (.transaction issued))
          ((meterDiscipline jobId gpuSec eventType).returns (.transaction issued))
          (fun _ _ => True) := by
        refine Triple.bind meterContract_composes (fun _ _ => True)
          (Triple.perform (fun _ _ _ _ _ => trivial) (fun _ _ _ _ _ _ => trivial)
            (fun _ _ _ _ _ _ => trivial) ?_ (fun _ _ _ _ => trivial)
            (fun _ _ _ _ _ _ _ => trivial)) ?_
        · exact fun db fault metered _ _ => meterContract_keeps metered (metered.foreign foreign)
        · exact fun _ => Triple.done (fun _ _ _ _ _ => trivial) (fun _ _ _ same => by cases same)
      exact triple db metered trivial

/-- In every interleaving of billing calls of one job with one number of billable seconds, with
any faults and crashes and any other transactions, if all callers derive the same event type
then the usage of the job never exceeds its DEBIT and equals it once a call returned `ok`.
-/
theorem metered_usage_le_debit
    {config : Config bridge Db BillKind (Option BillingStatus)}
    (reached
      : (billing jobId gpuSec).Reaches
          (fun _ label => billsOnly jobId label = true ∧ meters eventType label = true)
          { store := Db.empty, threads := [] } config)
    : usageCost config.store jobId ≤ debitTotal config.store jobId
      ∧ ((∃ thread ∈ config.threads, thread.program = .done (some .ok))
        → usageCost config.store jobId = debitTotal config.store jobId) := by
  have holds : (meterDiscipline jobId gpuSec eventType).Holds (billing jobId gpuSec)
      (Metered jobId gpuSec eventType) (fun _ _ => True) config := by
    refine reached.obeys meterDiscipline_sound ?_ (fun _ _ admitted => admitted.elim) ?_ ?_ ?_
    · exact fun _ kind arrives =>
        ⟨fun _ _ => ⟨trivial, trivial⟩, meterDiscipline_obeys arrives⟩
    · exact fun _ _ _ _ _ _ _ _ _ => trivial
    · exact fun _ _ _ _ _ _ _ _ _ => trivial
    · refine ⟨⟨?_, ?_, ?_⟩, by simp, by simp⟩
      · simp [jobDebits, Db.empty, Table.empty]
      · simp [jobUsage, Db.empty]
      · simp [jobUsage, Db.empty]
  refine ⟨holds.inv.usageCost_le.1, ?_⟩
  rintro ⟨thread, member, returned⟩
  obtain ⟨index, found⟩ := List.getElem?_of_mem member
  have safe := holds.obeys index thread found
  rw [Machine.Discipline.Obeys, returned] at safe
  exact holds.inv.usageCost_le.2
    (safe config.store (meterContract_composes.refl _) holds.inv rfl)

end Runs

def runningJob : List (Label BillKind) :=
  [.arrive (.transaction ⟨.ledgerCredit, .creditInsert (creditEntry (.fresh "n") "t" 1 "USD" {})⟩),
    .exec 0 .none,
    .arrive (.transaction ⟨.decisionInsert, .insertExecutionJob jobA "t" .running false⟩),
    .exec 1 .none]

def returnsOk : Action (Option BillingStatus) → Bool
  | .done (some .ok) => true
  | _ => false

/-- Witness: the first caller fails while it records the usage; a second one, told another
backend of the same event type, completes the record.
-/
theorem metered_usage_le_debit_repeat
    : ∃ config,
        (billing jobA 10).Reaches
            (fun _ label => billsOnly jobA label = true ∧ meters .cpuExecution label = true)
            { store := Db.empty, threads := [] } config
        ∧ (∃ thread ∈ config.threads, thread.program = .done (some .ok))
        ∧ debitTotal config.store jobA = 1 / 10000
        ∧ usageCost config.store jobA = debitTotal config.store jobA := by
  have ran
      : ((billing jobA 10).run
          (fun _ label => billsOnly jobA label && meters .cpuExecution label)
          { store := Db.empty, threads := [] }
          (runningJob
            ++ ([.arrive (.finalize "t" "free" (some "local")), .exec 2 .none, .exec 2 .none,
               .exec 2 (.before "down"), .arrive (.finalize "t" "free" none), .exec 3 .none,
               .exec 3 .none, .exec 3 .none, .exec 3 .none] : List (Label BillKind)))).any
          (fun config =>
            (config.threads[3]?).any (fun thread => returnsOk thread.program)
            && debitTotal config.store jobA == 1 / 10000)
        = true := by
    decide +kernel
  have sound : ∀ (_ : Config bridge Db BillKind (Option BillingStatus)) (label : Label BillKind),
      (billsOnly jobA label && meters .cpuExecution label) = true
      → billsOnly jobA label = true ∧ meters .cpuExecution label = true :=
    fun _ _ both => by simpa using both
  obtain ⟨config, reached, passed⟩ := Machine.Reaches.of_check sound _ ran
  simp only [Bool.and_eq_true, Option.any_eq_true, beq_iff_eq] at passed
  obtain ⟨⟨thread, found, returned⟩, total⟩ := passed
  have ok : ∃ thread ∈ config.threads, thread.program = .done (some .ok) := by
    refine ⟨thread, List.mem_of_getElem? found, ?_⟩
    unfold returnsOk at returned
    split at returned
    · assumption
    · cases returned
  exact ⟨config, reached, ok, total, (metered_usage_le_debit reached).2 ok⟩

/-- Two callers with backends of different event types meter the job twice. -/
theorem usage_metered_twice
    : ∃ config,
        (billing jobA 10).Reaches (fun _ label => billsOnly jobA label = true)
            { store := Db.empty, threads := [] } config
        ∧ config.Quiescent
        ∧ debitTotal config.store jobA = 1 / 10000
        ∧ usageCost config.store jobA = 2 / 10000 := by
  have ran
      : ((billing jobA 10).run (fun _ label => billsOnly jobA label)
          { store := Db.empty, threads := [] }
          (runningJob
            ++ ([.arrive (.finalize "t" "free" (some "local")), .exec 2 .none, .exec 2 .none,
               .exec 2 .none, .arrive (.finalize "t" "free" (some "vastai")), .exec 3 .none,
               .exec 3 .none, .exec 3 .none, .exec 3 .none] : List (Label BillKind)))).any
          (fun config =>
            decide config.Quiescent && debitTotal config.store jobA == 1 / 10000
            && usageCost config.store jobA == 2 / 10000)
        = true := by
    decide +kernel
  obtain ⟨config, reached, passed⟩ :=
    Machine.Reaches.of_check (fun _ _ permitted => permitted) _ ran
  simp only [Bool.and_eq_true, decide_eq_true_eq, beq_iff_eq] at passed
  exact ⟨config, reached, passed.1.1, passed.1.2, passed.2⟩

end RomaBridge.Properties
