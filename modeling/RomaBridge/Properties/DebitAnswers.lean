import Mathlib.Data.Fintype.EquivFin
import RomaBridge.Behaviour.Vocabulary
import RomaBridge.Foundation.Sequential

/-! What `debit_if_funds` and `credit` answer is what the ledger holds. The id of a row is hashed from
the tenant and the key with a colon between them, so that the row of another tenant may lie under it.
The lookup of a debit compares type, amount, currency and job; `credit` compares id and tenant.
-/

namespace RomaBridge.Properties

open RomaBridge.Foundation RomaBridge.Model Program

variable {tenantId currency key : String} {amount : ℚ} {metadata : Metadata}
variable {insert lookup : Machine.Turn bridge} {db : Db}

/-- An entry of a ledger is the DEBIT that a call asks for: tenant, type, amount to 8 decimals,
currency and job.
-/
structure IsDebit (tenantId : String) (amount : ℚ) (currency : String) (jobId : Option String)
    (entry : LedgerEntry) : Prop where
  tenant : entry.tenantId = tenantId
  type : entry.entryType = .debit
  amount : roundTo 8 entry.amount = roundTo 8 amount
  currency : entry.currency = currency
  job : entry.metadata.jobId = jobId

/-- What an answer of `debit_if_funds` says of the ledger its insert found and of the one it left. -/
structure TellsTruth (tenantId : String) (amount : ℚ) (currency key : String) (metadata : Metadata)
    (atInsert left : Db) (answer : Except Exn (Option LedgerId × Bool)) : Prop where
  paid : ∀ ledgerId isNew, answer = .ok (some ledgerId, isNew) →
    ∃ entry ∈ left.ledger.rows, entry.ledgerId = ledgerId
      ∧ IsDebit tenantId amount currency metadata.jobId entry
  noFunds : ∀ isNew, answer = .ok (none, isNew) →
    (∀ entry ∈ left.ledger.rows, entry.ledgerId = ledgerIdFor tenantId key →
      entry.tenantId ≠ tenantId)
    ∧ atInsert.balance tenantId < amount
  mismatch : ∀ ledgerId tenant expected unit jobId,
    answer = .error (.ledgerIdemMismatch ledgerId tenant expected unit jobId) →
    ∃ entry ∈ left.ledger.rows, entry.ledgerId = ledgerIdFor tenantId key
      ∧ entry.tenantId = tenantId ∧ ¬ IsDebit tenantId amount currency metadata.jobId entry

def HeldByOther (tenantId key : String) (db : Db) : Prop :=
  ∃ entry ∈ db.ledger.rows, entry.ledgerId = ledgerIdFor tenantId key ∧ entry.tenantId ≠ tenantId

theorem idemMatches_iff {entry : LedgerEntry} {jobId : Option String}
    (own : entry.tenantId = tenantId)
    : idemMatches entry amount currency jobId = true
      ↔ IsDebit tenantId amount currency jobId entry := by
  simp only [idemMatches, Bool.and_eq_true, decide_eq_true_eq]
  constructor
  · rintro ⟨⟨⟨type, rounded⟩, unit⟩, job⟩
    exact ⟨own, type, rounded, unit, job⟩
  · intro debit
    exact ⟨⟨⟨debit.type, debit.amount⟩, debit.currency⟩, debit.job⟩

theorem isDebit_debitEntry
    : IsDebit tenantId amount currency metadata.jobId
      (debitEntry tenantId amount currency key metadata) :=
  ⟨rfl, rfl, rfl, rfl, rfl⟩

-- The two requests

def debitAnswer (tenantId : String) (amount : ℚ) (currency key : String) (metadata : Metadata)
    (insert lookup : Machine.Turn bridge) (db : Db)
    : Except Exn (Option LedgerId × Bool) × Db :=
  service.among (debitIfFunds tenantId amount currency (some key) metadata) [insert, lookup] db

/-- The state in which the insert ran. -/
def insertedAt (insert : Machine.Turn bridge) (db : Db) : Db := service.meanwhile insert.others db

/-- The insert's reply and the state it left. -/
def insertOutcome (tenantId : String) (amount : ℚ) (currency key : String) (metadata : Metadata)
    (insert : Machine.Turn bridge) (db : Db)
    : Except Exn (Option LedgerId) × Db :=
  service.exec ⟨.ledgerDebit, .debitInsert (debitEntry tenantId amount currency key metadata)⟩
    insert.fault (insertedAt insert db)

/-- The reply of a lookup of the tenant's row under a key, and the state it ran in. -/
def lookupOutcome (site : Site) (tenantId key : String) (lookup : Machine.Turn bridge) (db : Db)
    : Except Exn (Option LedgerEntry) × Db :=
  service.exec ⟨site, .ledgerSelect (ledgerIdFor tenantId key) tenantId⟩
    lookup.fault (service.meanwhile lookup.others db)

theorem debitAnswer_new {ledgerId : LedgerId} (nonneg : 0 ≤ amount) (named : key ≠ "")
    (inserted : (insertOutcome tenantId amount currency key metadata insert db).1
      = .ok (some ledgerId))
    : debitAnswer tenantId amount currency key metadata insert lookup db
      = (.ok (some ledgerId, true),
        (insertOutcome tenantId amount currency key metadata insert db).2) := by
  have keyed : (some key).filter (fun key => key ≠ "") = some key := by simp [named]
  unfold insertOutcome insertedAt at *
  rw [debitAnswer, debitIfFunds_eq nonneg keyed]
  simp only [ask, perform, attempt, Program.bind, Program.handle, Machine.among_call, inserted,
    Machine.among_done]

/-- What the lookup's reply says, where the answer without a row is given. -/
def answerOf (tenantId : String) (amount : ℚ) (currency key : String) (jobId : Option String)
    (isNew : Bool) (without : Except Exn (Option LedgerId × Bool))
    : Except Exn (Option LedgerEntry) → Except Exn (Option LedgerId × Bool)
  | .error exn => .error exn
  | .ok none => without
  | .ok (some entry) =>
      if idemMatches entry amount currency jobId then
        .ok (some (ledgerIdFor tenantId key), isNew)
      else
        .error (.ledgerIdemMismatch (ledgerIdFor tenantId key) tenantId amount currency jobId)

theorem among_ledgerIdemLookup {isNew : Bool}
    {rest : Option LedgerId → Action (Option LedgerId × Bool)}
    {without : Except Exn (Option LedgerId × Bool)}
    (found : ∀ ledgerId, rest (some ledgerId) = .done (some ledgerId, isNew))
    (absent : ∀ left, service.among (rest none) [] left = (without, left))
    : service.among ((ledgerIdemLookup (ledgerIdFor tenantId key) tenantId amount currency
        { metadata with idempotencyKey := some key }).bind rest) [lookup] db
      = (answerOf tenantId amount currency key metadata.jobId isNew without
          (lookupOutcome .ledgerIdemLookup tenantId key lookup db).1,
        (lookupOutcome .ledgerIdemLookup tenantId key lookup db).2) := by
  simp only [ledgerIdemLookup, ask, perform, bind_eq_bind, Program.bind, Machine.among_call,
    lookupOutcome]
  generalize service.exec ⟨.ledgerIdemLookup, .ledgerSelect (ledgerIdFor tenantId key) tenantId⟩
    lookup.fault (service.meanwhile lookup.others db) = looked
  obtain ⟨reply, left⟩ := looked
  rcases reply with exn | (_ | entry)
  · rfl
  · exact absent left
  · by_cases same : idemMatches entry amount currency metadata.jobId = true
    · simp [Program.bind, same, found, answerOf]
    · simp [Program.bind, same, answerOf]
      rfl

/-- Where the insert stored no row or raised, the lookup decides. -/
theorem debitAnswer_looked {isNew : Bool} {without : Except Exn (Option LedgerId × Bool)}
    (nonneg : 0 ≤ amount) (named : key ≠ "")
    (inserted
      : (insertOutcome tenantId amount currency key metadata insert db).1 = .ok none
          ∧ isNew = false ∧ without = .ok (none, false)
        ∨ ∃ exn, (insertOutcome tenantId amount currency key metadata insert db).1 = .error exn
          ∧ isNew = true ∧ without = .error exn)
    : debitAnswer tenantId amount currency key metadata insert lookup db
      = (answerOf tenantId amount currency key metadata.jobId isNew without
          (lookupOutcome .ledgerIdemLookup tenantId key lookup
            (insertOutcome tenantId amount currency key metadata insert db).2).1,
        (lookupOutcome .ledgerIdemLookup tenantId key lookup
          (insertOutcome tenantId amount currency key metadata insert db).2).2) := by
  have keyed : (some key).filter (fun key => key ≠ "") = some key := by simp [named]
  unfold insertOutcome insertedAt at *
  rw [debitAnswer, debitIfFunds_eq nonneg keyed]
  rcases inserted with ⟨none_, rfl, rfl⟩ | ⟨exn, failed, rfl, rfl⟩
  · simp only [ask, perform, attempt, Program.bind, Program.handle, Machine.among_call, none_]
    exact among_ledgerIdemLookup (fun _ => rfl) (fun _ => rfl)
  · simp only [ask, perform, attempt, Program.bind, Program.handle, Machine.among_call, failed]
    exact among_ledgerIdemLookup (fun _ => rfl) (fun _ => rfl)

-- What the requests find

theorem lookupOutcome_left (site : Site) (lookup : Machine.Turn bridge) (db : Db)
    : (lookupOutcome site tenantId key lookup db).2 = service.meanwhile lookup.others db := by
  unfold lookupOutcome
  cases lookup.fault <;> rfl

theorem lookupOutcome_reply (site : Site) (lookup : Machine.Turn bridge) (db : Db)
    : (lookup.fault = .none
        ∧ (lookupOutcome site tenantId key lookup db).1
          = .ok (((service.meanwhile lookup.others db).ledger.find?
              (ledgerIdFor tenantId key)).filter (fun entry => entry.tenantId = tenantId)))
      ∨ lookup.fault ≠ .none
        ∧ ∃ reason,
          (lookupOutcome site tenantId key lookup db).1 = .error (.pgUnavailable reason) := by
  unfold lookupOutcome
  cases lookup.fault with
  | none => exact .inl ⟨rfl, rfl⟩
  | before reason | after reason => exact .inr ⟨by simp, reason, rfl⟩

theorem ledgerGrows_meanwhile (others : List Call) (db : Db)
    : db.LedgerGrows (service.meanwhile others db) :=
  service.meanwhile_invariant (P := db.LedgerGrows)
    (fun call store grown => grown.trans (store.apply_ledgerGrows call.query)) others (.refl db)

theorem ledgerGrows_insertOutcome (insert : Machine.Turn bridge) (db : Db)
    : (insertedAt insert db).LedgerGrows
        (insertOutcome tenantId amount currency key metadata insert db).2 := by
  unfold insertOutcome
  rcases service.exec_store _ insert.fault (insertedAt insert db) with same | same
  · rw [same]
  · rw [same]
    exact Db.apply_ledgerGrows _ _

theorem insertOutcome_reply (insert : Machine.Turn bridge) (db : Db)
    : (insert.fault = .none
        ∧ (insertOutcome tenantId amount currency key metadata insert db)
          = (.ok ((insertedAt insert db).debitInsert
                (debitEntry tenantId amount currency key metadata)).1,
              ((insertedAt insert db).debitInsert
                (debitEntry tenantId amount currency key metadata)).2))
      ∨ insert.fault ≠ .none
        ∧ ∃ reason, (insertOutcome tenantId amount currency key metadata insert db).1
          = .error (.pgUnavailable reason) := by
  unfold insertOutcome
  cases insert.fault with
  | none => exact .inl ⟨rfl, rfl⟩
  | before reason | after reason => exact .inr ⟨by simp, reason, rfl⟩

/-- The insert returns nothing when the funds are short or a row lies under the id. -/
theorem debitInsert_eq_none_iff {db : Db}
    : (db.debitInsert (debitEntry tenantId amount currency key metadata)).1 = none
      ↔ db.balance tenantId < amount
        ∨ (db.ledger.find? (ledgerIdFor tenantId key)).isSome := by
  unfold Db.debitInsert Db.insertEntry
  by_cases funded : amount ≤ db.balance tenantId
  · have enough : db.balance (debitEntry tenantId amount currency key metadata).tenantId
        ≥ (debitEntry tenantId amount currency key metadata).amount := funded
    rw [if_pos enough]
    cases inserted : db.ledger.insert? (debitEntry tenantId amount currency key metadata) with
    | none =>
        have stored := Table.insert?_eq_none.mp inserted
        exact iff_of_true rfl (.inr stored)
    | some ledger =>
        have free := (Table.insert?_eq_some inserted).2
        refine iff_of_false (by simp) ?_
        rintro (short | stored)
        · exact absurd funded (not_le.mpr short)
        · rw [show db.ledger.find? (ledgerIdFor tenantId key) = none from free] at stored
          cases stored
  · have short : ¬ db.balance (debitEntry tenantId amount currency key metadata).tenantId
        ≥ (debitEntry tenantId amount currency key metadata).amount := funded
    rw [if_neg short]
    exact iff_of_true rfl (.inl (not_le.mp funded))

theorem tellsTruth_answerOf {atInsert : Db} {isNew : Bool}
    {without : Except Exn (Option LedgerId × Bool)}
    (noId : ∀ ledgerId isNew, without ≠ .ok (some ledgerId, isNew))
    (noMismatch : ∀ ledgerId tenant expected unit jobId,
      without ≠ .error (.ledgerIdemMismatch ledgerId tenant expected unit jobId))
    (short : ∀ isNew, lookup.fault = .none →
      ((service.meanwhile lookup.others db).ledger.find? (ledgerIdFor tenantId key)).filter
        (fun entry => entry.tenantId = tenantId) = none →
      without = .ok (none, isNew) → atInsert.balance tenantId < amount)
    : TellsTruth tenantId amount currency key metadata atInsert
        (lookupOutcome .ledgerIdemLookup tenantId key lookup db).2
        (answerOf tenantId amount currency key metadata.jobId isNew without
          (lookupOutcome .ledgerIdemLookup tenantId key lookup db).1) := by
  rw [lookupOutcome_left]
  rcases @lookupOutcome_reply tenantId key .ledgerIdemLookup lookup db with
    ⟨answers, reply⟩ | ⟨-, reason, reply⟩
  · rw [reply]
    cases found : ((service.meanwhile lookup.others db).ledger.find?
        (ledgerIdFor tenantId key)).filter (fun entry => entry.tenantId = tenantId) with
    | none =>
        refine ⟨fun ledgerId isNew same => absurd same (noId ledgerId isNew), ?_,
          fun _ _ _ _ _ same => absurd same (noMismatch _ _ _ _ _)⟩
        intro isNew same
        refine ⟨?_, short isNew answers found same⟩
        intro entry member under own
        have stored := Table.find?_of_key member under
        rw [stored, Option.filter_some_pos (by simpa using own)] at found
        cases found
    | some entry =>
        obtain ⟨stored, own⟩ := Option.filter_eq_some_iff.mp found
        obtain ⟨member, under⟩ := Table.find?_some stored
        have tenant : entry.tenantId = tenantId := of_decide_eq_true own
        by_cases same : idemMatches entry amount currency metadata.jobId = true
        · simp only [answerOf, same, if_true]
          refine ⟨?_, fun _ other => by simp at other, fun _ _ _ _ _ other => by simp at other⟩
          rintro ledgerId _ ⟨⟩
          exact ⟨entry, member, under, (idemMatches_iff tenant).mp same⟩
        · simp only [answerOf, same]
          refine ⟨fun _ _ other => by simp at other, fun _ other => by simp at other, ?_⟩
          intro _ _ _ _ _ _
          exact ⟨entry, member, under, tenant, fun debit => same ((idemMatches_iff tenant).mpr debit)⟩
  · rw [reply]
    exact ⟨fun _ _ other => by simp [answerOf] at other, fun _ other => by simp [answerOf] at other,
      fun _ _ _ _ _ other => by simp [answerOf] at other⟩

-- The answer

/-- Both requests succeed, the insert meets another tenant's row under the id, and the tenant has
the funds.
-/
structure Misjudges (tenantId : String) (amount : ℚ) (key : String)
    (insert lookup : Machine.Turn bridge) (db : Db) : Prop where
  inserts : insert.fault = .none
  looks : lookup.fault = .none
  held : HeldByOther tenantId key (insertedAt insert db)
  funds : amount ≤ (insertedAt insert db).balance tenantId

theorem tellsTruth_new {ledgerId : LedgerId}
    (inserted : (insertOutcome tenantId amount currency key metadata insert db).1
      = .ok (some ledgerId))
    : TellsTruth tenantId amount currency key metadata (insertedAt insert db)
        (insertOutcome tenantId amount currency key metadata insert db).2
        (.ok (some ledgerId, true)) := by
  refine ⟨?_, fun _ other => by simp at other, fun _ _ _ _ _ other => by simp at other⟩
  rintro _ _ ⟨⟩
  rcases @insertOutcome_reply tenantId currency key amount metadata insert db with
    ⟨-, done⟩ | ⟨-, reason, failed⟩
  · rw [done] at inserted ⊢
    obtain ⟨same, stored⟩ := Db.debitInsert_eq_some (Except.ok.inj inserted)
    obtain ⟨member, under⟩ := Table.find?_some stored
    exact ⟨_, member, same ▸ under, isDebit_debitEntry⟩
  · rw [failed] at inserted
    cases inserted

/-- `debit_if_funds` tells the truth, for every ledger, every end of its two requests and whatever
others commit before each of them, except where both requests succeed and another tenant's row lies
under the hashed id of a tenant with enough funds: then it answers that there are none.
-/
theorem debit_if_funds_tells_truth_iff (tenantId : String) (amount : ℚ) (currency key : String)
    (metadata : Metadata) (insert lookup : Machine.Turn bridge) (db : Db) (nonneg : 0 ≤ amount)
    (named : key ≠ "")
    : TellsTruth tenantId amount currency key metadata (insertedAt insert db)
        (debitAnswer tenantId amount currency key metadata insert lookup db).2
        (debitAnswer tenantId amount currency key metadata insert lookup db).1
      ↔ ¬ Misjudges tenantId amount key insert lookup db := by
  rcases @insertOutcome_reply tenantId currency key amount metadata insert db with
    ⟨succeeds, done⟩ | ⟨fails, reason, failed⟩
  · cases reply : ((insertedAt insert db).debitInsert
        (debitEntry tenantId amount currency key metadata)).1 with
    | some ledgerId =>
        have inserted : (insertOutcome tenantId amount currency key metadata insert db).1
            = .ok (some ledgerId) := by
          rw [done, reply]
        rw [debitAnswer_new nonneg named inserted]
        refine iff_of_true (tellsTruth_new inserted) ?_
        rintro ⟨-, -, ⟨entry, member, under, -⟩, funds⟩
        have stored := Table.find?_of_key member under
        have refused := (@debitInsert_eq_none_iff tenantId currency key amount metadata _).mpr
          (.inr (Option.isSome_iff_exists.mpr ⟨entry, stored⟩))
        rw [refused] at reply
        cases reply
    | none =>
        have inserted : (insertOutcome tenantId amount currency key metadata insert db).1
            = .ok none := by
          rw [done, reply]
        rw [debitAnswer_looked nonneg named (.inl ⟨inserted, rfl, rfl⟩)]
        have grown : (insertedAt insert db).LedgerGrows (service.meanwhile lookup.others
            (insertOutcome tenantId amount currency key metadata insert db).2) :=
          (ledgerGrows_insertOutcome insert db).trans (ledgerGrows_meanwhile lookup.others _)
        constructor
        · rintro truth ⟨-, looks, ⟨entry, member, under, other⟩, funds⟩
          have stored := Table.find?_of_key member under
          rcases @lookupOutcome_reply tenantId key .ledgerIdemLookup lookup
            (insertOutcome tenantId amount currency key metadata insert db).2 with
            ⟨-, found⟩ | ⟨fails, -⟩
          · rw [grown _ _ stored, Option.filter_some_neg (by simpa using other)] at found
            rw [found] at truth
            exact absurd funds (not_le.mpr (truth.noFunds false rfl).2)
          · exact absurd looks fails
        · intro exact_
          refine tellsTruth_answerOf (by simp) (by simp) ?_
          intro _ looks absent _
          by_contra funded
          rcases debitInsert_eq_none_iff.mp reply with short | taken
          · exact funded short
          · obtain ⟨entry, stored⟩ := Option.isSome_iff_exists.mp taken
            obtain ⟨member, under⟩ := Table.find?_some stored
            refine exact_ ⟨succeeds, looks, ⟨entry, member, under, ?_⟩, not_lt.mp funded⟩
            intro own
            rw [grown _ _ stored, Option.filter_some_pos (by simpa using own)] at absent
            cases absent
  · rw [debitAnswer_looked nonneg named (.inr ⟨_, failed, rfl, rfl⟩)]
    refine iff_of_true (tellsTruth_answerOf (by simp) (by simp) (fun _ _ _ other => by
      simp at other)) ?_
    exact fun misjudges => fails misjudges.inserts

/-- A request that succeeds, with nothing before it. -/
def atOnce : Machine.Turn bridge := ⟨[], .none⟩

/-- Tenant `acme` has ten dollars. Tenant `acme:job` was credited one under the key `1`. -/
def crossedLedger : Db :=
  let own := (Db.empty.insertEntry
    (creditEntry (.fresh "a") "acme" 10 "USD" {})).2
  (own.insertEntry (creditEntry (ledgerIdFor "acme:job" "1") "acme:job" 1 "USD" {})).2

/-- A debit that finds its id free. -/
theorem debit_if_funds_tells_truth_free
    : TellsTruth "acme" 2 "USD" "job:2" {} (insertedAt atOnce crossedLedger)
        (debitAnswer "acme" 2 "USD" "job:2" {} atOnce atOnce crossedLedger).2
        (debitAnswer "acme" 2 "USD" "job:2" {} atOnce atOnce crossedLedger).1 := by
  refine (debit_if_funds_tells_truth_iff "acme" 2 "USD" "job:2" {} atOnce atOnce crossedLedger
    (by decide +kernel) (by decide)).mpr ?_
  rintro ⟨-, -, ⟨entry, member, under, other⟩, -⟩
  revert entry
  decide +kernel

/-- The key `job:1` of `acme` hashes to the id of the row of `acme:job`: no funds, it says. -/
theorem debit_reports_no_funds
    : ¬ TellsTruth "acme" 2 "USD" "job:1" {} (insertedAt atOnce crossedLedger)
        (debitAnswer "acme" 2 "USD" "job:1" {} atOnce atOnce crossedLedger).2
        (debitAnswer "acme" 2 "USD" "job:1" {} atOnce atOnce crossedLedger).1 := by
  intro truth
  have answer : (debitAnswer "acme" 2 "USD" "job:1" {} atOnce atOnce crossedLedger).1
      = .ok (none, false) := by
    decide +kernel
  have short := (truth.noFunds false answer).2
  exact absurd short (by decide +kernel)

variable {tenantId currency key nonce : String} {amount : ℚ} {metadata : Metadata}

/-- An entry is the CREDIT that a call asks for, with exactly its amount. -/
structure IsCredit (tenantId : String) (amount : ℚ) (currency : String) (entry : LedgerEntry)
    : Prop where
  tenant : entry.tenantId = tenantId
  type : entry.entryType = .credit
  amount : entry.amount = amount
  currency : entry.currency = currency

/-- A call of `credit`: the insert, and the lookup after a conflict. -/
def creditAnswer (tenantId : String) (amount : ℚ) (currency key nonce : String)
    (metadata : Metadata) (insert lookup : Machine.Turn bridge) (db : Db)
    : Except Exn LedgerId × Db :=
  service.among (credit tenantId amount currency (some key) nonce metadata) [insert, lookup] db

def creditId (tenantId key nonce : String) : LedgerId :=
  if key = "" then .fresh nonce else ledgerIdFor tenantId key

/-- What a call that returned has to have done: its row is there, a repetition at any later time adds
nothing, and the tenant had no row of another amount or type under the key.
-/
structure HasCredited (tenantId : String) (amount : ℚ) (currency key : String)
    (metadata : Metadata) (atInsert left : Db) (ledgerId : LedgerId) : Prop where
  stored : ∃ entry ∈ left.ledger.rows, entry.ledgerId = ledgerId
    ∧ IsCredit tenantId amount currency entry
  repeated : ∀ others nonce insert lookup,
    (creditAnswer tenantId amount currency key nonce metadata ⟨[], insert⟩ ⟨[], lookup⟩
      (service.meanwhile others left)).2 = service.meanwhile others left
  refused : ∀ entry ∈ atInsert.ledger.rows, entry.ledgerId = ledgerIdFor tenantId key →
    entry.tenantId = tenantId → entry.amount = amount ∧ entry.entryType = .credit

def creditedRow (tenantId : String) (amount : ℚ) (currency key nonce : String) (metadata : Metadata)
    : LedgerEntry :=
  creditEntry (creditId tenantId key nonce) tenantId amount currency
    (if key = "" then metadata else { metadata with idempotencyKey := some key })

/-- The insert's reply and the state it left. -/
def creditInserted (tenantId : String) (amount : ℚ) (currency key nonce : String)
    (metadata : Metadata) (insert : Machine.Turn bridge) (db : Db)
    : Except Exn (Option LedgerId) × Db :=
  service.exec
    ⟨.ledgerCredit, .creditInsert (creditedRow tenantId amount currency key nonce metadata)⟩
    insert.fault (insertedAt insert db)

theorem isCredit_creditedRow
    : IsCredit tenantId amount currency
      (creditedRow tenantId amount currency key nonce metadata) :=
  ⟨rfl, rfl, rfl, rfl⟩

-- The two requests

theorem creditAnswer_negative {insert lookup : Machine.Turn bridge} {db : Db}
    (negative : amount < 0)
    : ∃ exn, creditAnswer tenantId amount currency key nonce metadata insert lookup db
      = (.error exn, db) := by
  simp only [creditAnswer, credit, rejectInvalidMoneyAmount, if_pos negative, bind_eq_bind]
  exact ⟨_, rfl⟩

def afterCredit (tenantId : String) (key : String) (lookup : Machine.Turn bridge) (left : Db)
    : Except Exn (Option LedgerId) → Except Exn LedgerId × Db
  | .error exn => (.error exn, left)
  | .ok (some ledgerId) => (.ok ledgerId, left)
  | .ok none =>
      if key = "" then (.error (.pgUnavailable "ledger credit conflict"), left)
      else
        match lookupOutcome .ledgerCreditLookup tenantId key lookup left with
        | (.error exn, later) => (.error exn, later)
        | (.ok none, later) => (.error (.pgUnavailable "ledger credit conflict"), later)
        | (.ok (some entry), later) => (.ok entry.ledgerId, later)

theorem creditAnswer_eq {insert lookup : Machine.Turn bridge} {db : Db} (nonneg : 0 ≤ amount)
    : creditAnswer tenantId amount currency key nonce metadata insert lookup db
      = afterCredit tenantId key lookup
        (creditInserted tenantId amount currency key nonce metadata insert db).2
        (creditInserted tenantId amount currency key nonce metadata insert db).1 := by
  have valid : ¬ amount < 0 := not_lt.mpr nonneg
  unfold creditInserted insertedAt
  by_cases empty : key = ""
  · have row : creditedRow tenantId amount currency key nonce metadata
        = creditEntry (.fresh nonce) tenantId amount currency metadata := by
      simp [creditedRow, creditId, empty]
    rw [row]
    simp only [creditAnswer, credit, rejectInvalidMoneyAmount, if_neg valid, pure_eq_done,
      bind_eq_bind, Program.bind, creditFresh, ask, perform, empty, ne_eq, not_true_eq_false,
      decide_false, Option.filter_some, Bool.false_eq_true, if_false, Machine.among_call]
    generalize service.exec ⟨.ledgerCredit, .creditInsert _⟩ insert.fault _ = inserted
    obtain ⟨reply, left⟩ := inserted
    rcases reply with exn | (_ | ledgerId)
    · rfl
    · rfl
    · rfl
  · have keyed : (some key).filter (fun key => key ≠ "") = some key := by simp [empty]
    have row : creditedRow tenantId amount currency key nonce metadata
        = creditEntry (ledgerIdFor tenantId key) tenantId amount currency
          { metadata with idempotencyKey := some key } := by
      simp [creditedRow, creditId, empty]
    rw [row]
    simp only [creditAnswer, credit, rejectInvalidMoneyAmount, if_neg valid, pure_eq_done,
      bind_eq_bind, Program.bind, creditKeyed, ask, perform, keyed, Machine.among_call]
    generalize service.exec ⟨.ledgerCredit, .creditInsert _⟩ insert.fault _ = inserted
    obtain ⟨reply, left⟩ := inserted
    rcases reply with exn | (_ | ledgerId)
    · rfl
    · simp only [Program.bind, Machine.among_call, afterCredit, if_neg empty, lookupOutcome]
      generalize service.exec ⟨.ledgerCreditLookup, .ledgerSelect (ledgerIdFor tenantId key)
        tenantId⟩ lookup.fault _ = looked
      obtain ⟨reply, later⟩ := looked
      rcases reply with exn | (_ | entry)
      · rfl
      · rfl
      · rfl
    · rfl

theorem afterCredit_left (named : key ≠ "") (lookup : Machine.Turn bridge) (left : Db)
    : (afterCredit tenantId key lookup left (.ok none)).2 = service.meanwhile lookup.others left := by
  have looked := @lookupOutcome_left tenantId key .ledgerCreditLookup lookup left
  simp only [afterCredit, if_neg named]
  generalize lookupOutcome .ledgerCreditLookup tenantId key lookup left = outcome at looked ⊢
  obtain ⟨reply, later⟩ := outcome
  rcases reply with exn | (_ | entry)
  · exact looked
  · exact looked
  · exact looked

/-- After a conflict with a row the call returns exactly if the row is the tenant's and the lookup
succeeds.
-/
theorem afterCredit_taken (named : key ≠ "") {lookup : Machine.Turn bridge} {left : Db}
    {entry : LedgerEntry} {ledgerId : LedgerId}
    (stored : left.ledger.find? (ledgerIdFor tenantId key) = some entry)
    : (afterCredit tenantId key lookup left (.ok none)).1 = .ok ledgerId
      ↔ lookup.fault = .none ∧ entry.tenantId = tenantId ∧ ledgerId = ledgerIdFor tenantId key := by
  have still := ledgerGrows_meanwhile lookup.others _ _ _ stored
  have under := (Table.find?_some stored).2
  simp only [afterCredit, if_neg named]
  rcases @lookupOutcome_reply tenantId key .ledgerCreditLookup lookup left with
    ⟨looks, reply⟩ | ⟨fails, reason, reply⟩
  · rw [still] at reply
    generalize lookupOutcome .ledgerCreditLookup tenantId key lookup left = outcome at reply ⊢
    obtain ⟨reply', later⟩ := outcome
    dsimp only at reply
    subst reply
    by_cases own : entry.tenantId = tenantId
    · rw [Option.filter_some_pos (by simpa using own)]
      simp [looks, own, under, eq_comm]
    · rw [Option.filter_some_neg (by simpa using own)]
      simp [own]
  · generalize lookupOutcome .ledgerCreditLookup tenantId key lookup left = outcome at reply ⊢
    obtain ⟨reply', later⟩ := outcome
    dsimp only at reply
    subst reply
    simp [fails]

theorem creditInserted_reply (insert : Machine.Turn bridge) (db : Db)
    : (insert.fault = .none
        ∧ creditInserted tenantId amount currency key nonce metadata insert db
          = (.ok ((insertedAt insert db).insertEntry
                (creditedRow tenantId amount currency key nonce metadata)).1,
              ((insertedAt insert db).insertEntry
                (creditedRow tenantId amount currency key nonce metadata)).2))
      ∨ insert.fault ≠ .none
        ∧ ∃ reason, (creditInserted tenantId amount currency key nonce metadata insert db).1
          = .error (.pgUnavailable reason) := by
  unfold creditInserted
  cases insert.fault with
  | none => exact .inl ⟨rfl, rfl⟩
  | before reason | after reason => exact .inr ⟨by simp, reason, rfl⟩

theorem insertEntry_taken {db : Db} {entry : LedgerEntry}
    (taken : (db.ledger.find? entry.ledgerId).isSome)
    : db.insertEntry entry = (none, db) := by
  rw [Db.insertEntry, Table.insert?_eq_none.mpr taken]

theorem insertEntry_free {db : Db} {entry : LedgerEntry}
    (free : db.ledger.find? entry.ledgerId = none)
    : (db.insertEntry entry).1 = some entry.ledgerId
      ∧ (db.insertEntry entry).2.ledger.rows = db.ledger.rows ++ [entry] := by
  unfold Db.insertEntry
  cases inserted : db.ledger.insert? entry with
  | none =>
      have stored := Table.insert?_eq_none.mp inserted
      rw [free] at stored
      cases stored
  | some ledger => exact ⟨rfl, (Table.insert?_eq_some inserted).1⟩

/-- Under a key that is taken a call adds nothing, however its requests end. -/
theorem creditAnswer_taken {db : Db} (nonneg : 0 ≤ amount) (named : key ≠ "")
    (taken : (db.ledger.find? (ledgerIdFor tenantId key)).isSome) (insert lookup : Fault)
    : (creditAnswer tenantId amount currency key nonce metadata ⟨[], insert⟩ ⟨[], lookup⟩ db).2
      = db := by
  have under : (db.ledger.find? (creditedRow tenantId amount currency key nonce metadata).ledgerId)
      |>.isSome := by
    simpa [creditedRow, creditEntry, creditId, named] using taken
  have kept : (creditInserted tenantId amount currency key nonce metadata ⟨[], insert⟩ db).2
      = db := by
    rcases service.exec_store
      ⟨.ledgerCredit, .creditInsert (creditedRow tenantId amount currency key nonce metadata)⟩ insert
      db with same | same
    · exact same
    · refine same.trans ?_
      exact congrArg Prod.snd (insertEntry_taken under)
  rw [creditAnswer_eq nonneg, kept]
  generalize (creditInserted tenantId amount currency key nonce metadata ⟨[], insert⟩ db).1 = reply
  rcases reply with exn | (_ | ledgerId)
  · rfl
  · exact afterCredit_left named ⟨[], lookup⟩ db
  · rfl

-- The calls that return

/-- A call returned because its row is new, or because the tenant has a row under the key. -/
inductive Returned (tenantId : String) (amount : ℚ) (currency key nonce : String)
    (metadata : Metadata) (insert lookup : Fault) (atInsert left : Db) : LedgerId → Prop where
  | new
      (inserts : insert = .none)
      (free : atInsert.ledger.find? (creditId tenantId key nonce) = none)
      (rows : left.ledger.rows = atInsert.ledger.rows
        ++ [creditedRow tenantId amount currency key nonce metadata])
      : Returned tenantId amount currency key nonce metadata insert lookup atInsert left
          (creditId tenantId key nonce)
  | old (named : key ≠ "") (inserts : insert = .none) (looks : lookup = .none)
      (entry : LedgerEntry)
      (there : atInsert.ledger.find? (ledgerIdFor tenantId key) = some entry)
      (found : left.ledger.find? (ledgerIdFor tenantId key) = some entry)
      (own : entry.tenantId = tenantId)
      : Returned tenantId amount currency key nonce metadata insert lookup atInsert left
          (ledgerIdFor tenantId key)

/-- Why a call returned. One case per reply of its requests. -/
theorem returned_of_ok {insert lookup : Machine.Turn bridge} {db : Db} {ledgerId : LedgerId}
    (nonneg : 0 ≤ amount)
    (answered : (creditAnswer tenantId amount currency key nonce metadata insert lookup db).1
      = .ok ledgerId)
    : Returned tenantId amount currency key nonce metadata insert.fault lookup.fault
        (insertedAt insert db)
        (creditAnswer tenantId amount currency key nonce metadata insert lookup db).2 ledgerId := by
  rw [creditAnswer_eq nonneg] at answered ⊢
  rcases @creditInserted_reply tenantId currency key nonce amount metadata insert db with
    ⟨inserts, done⟩ | ⟨-, reason, failed⟩
  · rw [done] at answered ⊢
    cases stored : (insertedAt insert db).ledger.find?
        (creditedRow tenantId amount currency key nonce metadata).ledgerId with
    | none =>
        obtain ⟨returned, rows⟩ := insertEntry_free stored
        rw [returned] at answered ⊢
        cases answered
        exact .new inserts stored rows
    | some entry =>
        have taken : ((insertedAt insert db).ledger.find?
            (creditedRow tenantId amount currency key nonce metadata).ledgerId).isSome := by
          rw [stored]
          rfl
        rw [insertEntry_taken taken] at answered ⊢
        by_cases empty : key = ""
        · simp [afterCredit, empty] at answered
        · have under : (creditedRow tenantId amount currency key nonce metadata).ledgerId
              = ledgerIdFor tenantId key := by
            simp [creditedRow, creditEntry, creditId, empty]
          rw [under] at stored
          have still := ledgerGrows_meanwhile lookup.others _ _ _ stored
          obtain ⟨looks, own, rfl⟩ := (afterCredit_taken empty stored).mp answered
          rw [afterCredit_left empty]
          exact .old empty inserts looks _ stored still own
  · rw [failed] at answered
    cases answered

theorem creditAnswer_free {insert lookup : Machine.Turn bridge} {db : Db} (nonneg : 0 ≤ amount)
    (inserts : insert.fault = .none)
    (free : (insertedAt insert db).ledger.find? (creditId tenantId key nonce) = none)
    : (creditAnswer tenantId amount currency key nonce metadata insert lookup db).1
        = .ok (creditId tenantId key nonce)
      ∧ (creditAnswer tenantId amount currency key nonce metadata insert lookup db).2.ledger.rows
        = (insertedAt insert db).ledger.rows
          ++ [creditedRow tenantId amount currency key nonce metadata] := by
  rw [creditAnswer_eq nonneg]
  rcases @creditInserted_reply tenantId currency key nonce amount metadata insert db with
    ⟨-, done⟩ | ⟨fails, -⟩
  · have stored : (insertedAt insert db).ledger.find?
        (creditedRow tenantId amount currency key nonce metadata).ledgerId = none := free
    obtain ⟨returned, rows⟩ := insertEntry_free stored
    rw [done, returned]
    exact ⟨rfl, rows⟩
  · exact absurd inserts fails

theorem creditAnswer_own {insert lookup : Machine.Turn bridge} {db : Db} (nonneg : 0 ≤ amount)
    (named : key ≠ "") (inserts : insert.fault = .none) (looks : lookup.fault = .none)
    {entry : LedgerEntry}
    (found : (insertedAt insert db).ledger.find? (ledgerIdFor tenantId key) = some entry)
    (own : entry.tenantId = tenantId)
    : creditAnswer tenantId amount currency key nonce metadata insert lookup db
      = (.ok (ledgerIdFor tenantId key),
        service.meanwhile lookup.others (insertedAt insert db)) := by
  have taken : ((insertedAt insert db).ledger.find?
      (creditedRow tenantId amount currency key nonce metadata).ledgerId).isSome := by
    simp [creditedRow, creditEntry, creditId, named, found]
  rw [creditAnswer_eq nonneg]
  rcases @creditInserted_reply tenantId currency key nonce amount metadata insert db with
    ⟨-, done⟩ | ⟨fails, -⟩
  · rw [done, insertEntry_taken taken]
    exact Prod.ext ((afterCredit_taken named found).mpr ⟨looks, own, rfl⟩)
      (afterCredit_left named lookup _)
  · exact absurd inserts fails

/-- Some id is not in a ledger. Witness: strings are infinitely many. -/
theorem exists_free_nonce (db : Db) : ∃ nonce, db.ledger.find? (.fresh nonce) = none := by
  obtain ⟨nonce, free⟩ := Infinite.exists_notMem_finset
    (db.ledger.rows.filterMap (fun entry =>
      match entry.ledgerId with
      | .fresh nonce => some nonce
      | .keyed _ => none)).toFinset
  refine ⟨nonce, Table.find?_none.mpr ?_⟩
  intro entry member same
  refine free (List.mem_toFinset.mpr (List.mem_filterMap.mpr ⟨entry, member, ?_⟩))
  rw [same]

-- The credit

/-- The requests succeed, and the key is empty, so that each call adds a row, or it is one under which
the tenant has another row than the CREDIT that the call asks for.
-/
inductive Misreports (tenantId : String) (amount : ℚ) (currency key nonce : String)
    (insert lookup : Machine.Turn bridge) (db : Db) : Prop where
  | unkeyed (empty : key = "") (nonneg : 0 ≤ amount) (inserts : insert.fault = .none)
      (free : (insertedAt insert db).ledger.find? (.fresh nonce) = none)
  | other (named : key ≠ "") (nonneg : 0 ≤ amount) (inserts : insert.fault = .none)
      (looks : lookup.fault = .none) (entry : LedgerEntry)
      (member : entry ∈ (insertedAt insert db).ledger.rows)
      (under : entry.ledgerId = ledgerIdFor tenantId key) (own : entry.tenantId = tenantId)
      (different : ¬ IsCredit tenantId amount currency entry)

/-- A call that returned has credited, exactly where it does not misreport: for every ledger, amount,
currency and key, every end of the two requests and whatever others commit before each of them.
-/
theorem credit_has_credited_iff (tenantId : String) (amount : ℚ) (currency key nonce : String)
    (metadata : Metadata) (insert lookup : Machine.Turn bridge) (db : Db)
    : (∀ ledgerId,
        (creditAnswer tenantId amount currency key nonce metadata insert lookup db).1 = .ok ledgerId →
        HasCredited tenantId amount currency key metadata (insertedAt insert db)
          (creditAnswer tenantId amount currency key nonce metadata insert lookup db).2 ledgerId)
      ↔ ¬ Misreports tenantId amount currency key nonce insert lookup db := by
  constructor
  · rintro credited (⟨empty, nonneg, inserts, free⟩
      | ⟨named, nonneg, inserts, looks, entry, member, under, own, different⟩)
    · have fresh : ∀ nonce, creditId tenantId key nonce = .fresh nonce := fun nonce => if_pos empty
      obtain ⟨answered, -⟩ := @creditAnswer_free tenantId currency key nonce amount metadata insert
        lookup db nonneg inserts (fresh nonce ▸ free)
      have repeated := (credited _ answered).repeated []
      generalize (creditAnswer tenantId amount currency key nonce metadata insert lookup db).2
        = left at repeated
      obtain ⟨another, unused⟩ := exists_free_nonce left
      obtain ⟨-, grown⟩ := @creditAnswer_free tenantId currency key another amount metadata
        ⟨[], .none⟩ ⟨[], .none⟩ left nonneg rfl (fresh another ▸ unused)
      have unchanged := congrArg (fun db => db.ledger.rows.length) (repeated another .none .none)
      have longer := congrArg List.length grown
      rw [List.length_append, List.length_singleton] at longer
      exact absurd (longer.symm.trans unchanged) (Nat.succ_ne_self _)
    · have stored := Table.find?_of_key member under
      have answered := @creditAnswer_own tenantId currency key nonce amount metadata insert lookup
        db nonneg named inserts looks entry stored own
      have done := credited (ledgerIdFor tenantId key) (congrArg Prod.fst answered)
      rw [answered] at done
      obtain ⟨row, there, same, credit⟩ := done.stored
      have found := Table.find?_of_key there same
      rw [ledgerGrows_meanwhile lookup.others _ _ _ stored] at found
      cases found
      exact different credit
  · intro faithful ledgerId answered
    have nonneg : 0 ≤ amount := by
      by_contra negative
      obtain ⟨exn, refused⟩ := @creditAnswer_negative tenantId currency key nonce amount metadata
        insert lookup db (not_le.mp negative)
      rw [refused] at answered
      cases answered
    have returned := returned_of_ok nonneg answered
    generalize (creditAnswer tenantId amount currency key nonce metadata insert lookup db).2
      = left at returned ⊢
    cases returned with
    | new inserts free rows =>
        have named : key ≠ "" := fun empty =>
          faithful (.unkeyed empty nonneg inserts (by simpa [creditId, empty] using free))
        have keyed : creditId tenantId key nonce = ledgerIdFor tenantId key := if_neg named
        have stored : creditedRow tenantId amount currency key nonce metadata ∈ left.ledger.rows := by
          rw [rows]
          exact List.mem_append_right _ (List.mem_singleton_self _)
        have found := Table.find?_of_key stored keyed
        refine ⟨⟨_, stored, rfl, isCredit_creditedRow⟩, fun others nonce insert lookup => ?_, ?_⟩
        · have still := ledgerGrows_meanwhile others left _ _ found
          exact creditAnswer_taken nonneg named (still ▸ rfl) insert lookup
        · intro entry member under own
          have there := Table.find?_of_key member (under.trans keyed.symm)
          rw [free] at there
          cases there
    | old named inserts looks entry there found own =>
        have credit : IsCredit tenantId amount currency entry := by
          by_contra different
          exact faithful (.other named nonneg inserts looks entry (Table.find?_some there).1
            (Table.find?_some there).2 own different)
        refine ⟨⟨entry, (Table.find?_some found).1, (Table.find?_some found).2, credit⟩,
          fun others nonce insert lookup => ?_, ?_⟩
        · have still := ledgerGrows_meanwhile others left _ _ found
          exact creditAnswer_taken nonneg named (still ▸ rfl) insert lookup
        · intro other member under own
          have same := Table.find?_of_key member under
          rw [there] at same
          cases same
          exact ⟨credit.amount, credit.type⟩

/-- The worker has debited tenant `acme` two dollars for the job `1`. -/
def debitedLedger : Db :=
  (Db.empty.insertEntry (debitEntry "acme" 2 "USD" "job:1" {})).2

/-- A credit under the key of the debit is reported as done. -/
theorem credit_returns_debit
    : ¬ ∀ ledgerId,
        (creditAnswer "acme" 5 "USD" "job:1" "n" {} atOnce atOnce debitedLedger).1 = .ok ledgerId →
        HasCredited "acme" 5 "USD" "job:1" {} (insertedAt atOnce debitedLedger)
          (creditAnswer "acme" 5 "USD" "job:1" "n" {} atOnce atOnce debitedLedger).2 ledgerId := by
  intro credited
  have answer : (creditAnswer "acme" 5 "USD" "job:1" "n" {} atOnce atOnce debitedLedger).1
      = .ok (ledgerIdFor "acme" "job:1") := by
    decide +kernel
  have refused := (credited _ answer).refused (debitEntry "acme" 2 "USD" "job:1" {})
    (by decide +kernel) rfl rfl
  exact absurd refused.1 (by decide +kernel)

end RomaBridge.Properties
