import RomaBridge.Behaviour.Vocabulary
import RomaBridge.Foundation.Transactions

/-! A tenant's balance is never negative, down to the advisory locks of `debit_if_funds`.
The transactions of the ledger run statement by statement and interleave freely; the lock key
is a lossy hash of the tenant. A schedule is also shown to answer and store what its transactions do
one after the other in the database model, so the rest of the development may treat them as such.
-/

namespace RomaBridge.Properties

open RomaBridge.Foundation RomaBridge.Model Program

/-- `ledger_entries` as accounts of tenants; `lockKey` is `crc32(tenant_id) & 0x7FFFFFFF`. -/
def ledgerAccounts (lockKey : String → ℕ) : Accounts LedgerId LedgerEntry String ℕ where
  key := LedgerEntry.ledgerId
  account := LedgerEntry.tenantId
  value := LedgerEntry.signed
  lock := lockKey

/-- A call of the ledger; `nonce` names a credit without a key. -/
inductive LedgerCall where
  | debitIfFunds (tenantId : String) (amount : ℚ) (currency : String)
    (idempotencyKey : Option String) (metadata : Metadata)
  | credit (tenantId : String) (amount : ℚ) (currency : String)
    (idempotencyKey : Option String) (nonce : String) (metadata : Metadata)
  | refund (tenantId : String) (amount : ℚ) (jobId : JobId) (reason : String)

def LedgerCall.program : LedgerCall → Action Unit
  | .debitIfFunds tenantId amount currency idempotencyKey metadata =>
      (Model.debitIfFunds tenantId amount currency idempotencyKey metadata).bind
        (fun _ => .done ())
  | .credit tenantId amount currency idempotencyKey nonce metadata =>
      (Model.credit tenantId amount currency idempotencyKey nonce metadata).bind
        (fun _ => .done ())
  | .refund tenantId amount jobId reason =>
      (Model.refund tenantId amount jobId reason).bind (fun _ => .done ())

def creditRow (tenantId : String) (amount : ℚ) (currency : String)
    (idempotencyKey : Option String) (nonce : String) (metadata : Metadata)
    : LedgerEntry :=
  match idempotencyKey.filter (· ≠ "") with
  | some key =>
      creditEntry (ledgerIdFor tenantId key) tenantId amount currency
        { metadata with idempotencyKey := some key }
  | none => creditEntry (.fresh nonce) tenantId amount currency metadata

/-- The row a call inserts and whether the balance guards it; `none` for a call that is
rejected before its transaction.
-/
def LedgerCall.insertion : LedgerCall → Option (LedgerEntry × Bool)
  | .debitIfFunds tenantId amount currency idempotencyKey metadata =>
      if amount < 0 then
        none
      else
        (idempotencyKey.filter (· ≠ "")).map (fun key =>
          (debitEntry tenantId amount currency key metadata, true))
  | .credit tenantId amount currency idempotencyKey nonce metadata =>
      if amount < 0 then
        none
      else
        some (creditRow tenantId amount currency idempotencyKey nonce metadata, false)
  | .refund tenantId amount jobId reason =>
      if amount < 0 then
        none
      else
        some
          (creditRow tenantId amount "USD" (some (refundKey jobId)) ""
            { refundFor := some jobId.text, reason := some reason },
            false)

/-- The transaction of the database model that inserts a row. -/
def insertion (entry : LedgerEntry) (guarded : Bool) : Query :=
  if guarded then .debitInsert entry else .creditInsert entry

/-- The calls a ledger function may issue: its one insertion, and lookups. -/
def LedgerWrite (call : LedgerCall) (issued : Call) : Prop :=
  (∃ ledgerId tenantId, issued.query = .ledgerSelect ledgerId tenantId)
  ∨ ∃ entry guarded,
      call.insertion = some (entry, guarded) ∧ issued.query = insertion entry guarded

theorem credit_issues {P : Call → Prop} {tenantId : String} {amount : ℚ} {currency : String}
    {idempotencyKey : Option String} {nonce : String} {metadata : Metadata}
    (insert
      : 0 ≤ amount
        → P ⟨.ledgerCredit,
            .creditInsert (creditRow tenantId amount currency idempotencyKey nonce metadata)⟩)
    (lookup : ∀ ledgerId, P ⟨.ledgerCreditLookup, .ledgerSelect ledgerId tenantId⟩)
    : (Model.credit tenantId amount currency idempotencyKey nonce metadata).Issues P := by
  unfold Model.credit rejectInvalidMoneyAmount
  by_cases negative : amount < 0
  · rw [if_pos negative]
    trivial
  · rw [if_neg negative]
    have inserts := insert (not_lt.mp negative)
    unfold creditRow at inserts
    simp only [pure_eq_done, bind_eq_bind, Program.bind]
    split
    · rename_i key named
      simp only [named] at inserts
      exact creditKeyed_closed (Issues.closed P) (Issues.ask inserts) (Issues.ask (lookup _))
    · rename_i unnamed
      simp only [unnamed] at inserts
      refine Issues.bind (Issues.ask inserts) ?_
      rintro (_ | ledgerId) <;> trivial

theorem ledgerCall_issues (call : LedgerCall) : call.program.Issues (LedgerWrite call) := by
  cases call with
  | debitIfFunds tenantId amount currency idempotencyKey metadata =>
      refine Issues.bind ?_ (fun _ => trivial)
      by_cases negative : amount < 0
      · rw [debitIfFunds, if_pos negative]
        trivial
      · cases named : idempotencyKey.filter (· ≠ "") with
        | none =>
            simp only [debitIfFunds, rejectInvalidMoneyAmount, negative, if_false, named]
            trivial
        | some key =>
            have given : idempotencyKey = some key := (Option.filter_eq_some_iff.mp named).1
            subst given
            rw [debitIfFunds_eq (not_lt.mp negative) named]
            refine Issues.bind
              ((Issues.closed _).attempt (Issues.ask (Or.inr ⟨_, true, ?_, rfl⟩))) ?_
            · simp only [LedgerCall.insertion, negative, if_false, named, Option.map_some]
            · rintro (exn | (_ | ledgerId))
              · refine Issues.bind (ledgerIdemLookup_issues (Or.inl ⟨_, _, rfl⟩)) ?_
                rintro (_ | found) <;> trivial
              · exact Issues.bind (ledgerIdemLookup_issues (Or.inl ⟨_, _, rfl⟩))
                  (fun _ => trivial)
              · trivial
  | credit tenantId amount currency idempotencyKey nonce metadata =>
      refine Issues.bind (credit_issues ?_ (fun _ => Or.inl ⟨_, _, rfl⟩)) (fun _ => trivial)
      exact fun nonneg => Or.inr ⟨_, false, by simp [LedgerCall.insertion, nonneg], rfl⟩
  | refund tenantId amount jobId reason =>
      refine Issues.bind (credit_issues ?_ (fun _ => Or.inl ⟨_, _, rfl⟩)) (fun _ => trivial)
      exact fun nonneg => Or.inr ⟨_, false, by simp [LedgerCall.insertion, nonneg], rfl⟩

def LedgerBegins (entry : LedgerEntry) (guarded : Bool) : Prop :=
  ∃ call : LedgerCall, call.insertion = some (entry, guarded)

def committed {lockKey : String → ℕ} (state : (ledgerAccounts lockKey).State) : Db :=
  { Db.empty with ledger := state.table }

/-- A guarded row is a DEBIT, a plain one a CREDIT of a nonnegative amount. -/
theorem ledgerBegins_signed {entry : LedgerEntry} {guarded : Bool}
    (begins : LedgerBegins entry guarded)
    : (guarded = true → entry.signed = -entry.amount) ∧ (guarded = false → 0 ≤ entry.signed) := by
  have credited : ∀ {tenantId amount currency idempotencyKey nonce metadata}, ¬amount < 0
      → 0 ≤ (creditRow tenantId amount currency idempotencyKey nonce metadata).signed := by
    intro tenantId amount currency idempotencyKey nonce metadata nonneg
    unfold creditRow
    split <;> exact not_lt.mp nonneg
  obtain ⟨call, inserts⟩ := begins
  cases call with
  | debitIfFunds tenantId amount currency idempotencyKey metadata =>
      simp only [LedgerCall.insertion] at inserts
      split at inserts
      · cases inserts
      · obtain ⟨key, _, same⟩ := Option.map_eq_some_iff.mp inserts
        cases same
        exact ⟨fun _ => rfl, by simp⟩
  | credit tenantId amount currency idempotencyKey nonce metadata =>
      simp only [LedgerCall.insertion] at inserts
      split at inserts
      · cases inserts
      · rename_i nonneg
        cases inserts
        exact ⟨by simp, fun _ => credited nonneg⟩
  | refund tenantId amount jobId reason =>
      simp only [LedgerCall.insertion] at inserts
      split at inserts
      · cases inserts
      · rename_i nonneg
        cases inserts
        exact ⟨by simp, fun _ => credited nonneg⟩

section Balance

variable {lockKey : String → ℕ} {state next : (ledgerAccounts lockKey).State}

theorem ledger_solvent (reached : (ledgerAccounts lockKey).Reachable LedgerBegins state)
    : Accounts.Solvent state :=
  reached.solvent (fun _ begins => (ledgerBegins_signed begins).2 rfl)

/-- In every interleaving of the statements of credits, refunds and conditional debits, with
transactions that roll back anywhere and any lock key, no tenant's committed balance is
negative.
-/
theorem balance_nonneg (reached : (ledgerAccounts lockKey).Reachable LedgerBegins state)
    (tenantId : String)
    : 0 ≤ (committed state).balance tenantId :=
  (ledger_solvent reached).nonneg tenantId

-- One transaction after the other

/-- `Db.apply` on the insertion of a row. -/
def insertRow (db : Db) (entry : LedgerEntry) (guarded : Bool) : Option LedgerId × Db :=
  if guarded then db.apply (.debitInsert entry) else db.apply (.creditInsert entry)

/-- The insertions one after the other; `none` where one returns an id and should not, or does
not and should.
-/
def serve (db : Db) : List (Accounts.Effect LedgerEntry) → Option Db
  | [] => some db
  | taken :: rest =>
      let (returned, next) := insertRow db taken.row taken.guarded
      if returned.isSome = taken.stored then serve next rest else none

/-- A row with the entry of a call is written as `Accounts.alone` says. -/
theorem insertRow_alone (lockKey : String → ℕ) {entry : LedgerEntry} {guarded : Bool}
    (begins : LedgerBegins entry guarded) (db : Db)
    : (insertRow db entry guarded).1.isSome
        = ((ledgerAccounts lockKey).alone db.ledger entry guarded).1
      ∧ (insertRow db entry guarded).2
        = { db with ledger := ((ledgerAccounts lockKey).alone db.ledger entry guarded).2 } := by
  have inserts : (db.insertEntry entry).1.isSome = (db.ledger.insert? entry).isSome
      ∧ (db.insertEntry entry).2
        = { db with ledger := (db.ledger.insert? entry).getD db.ledger } := by
    cases inserted : db.ledger.insert? entry <;> simp [Db.insertEntry, inserted]
  cases guarded with
  | false =>
      have alone : (ledgerAccounts lockKey).alone db.ledger entry false
          = ((db.ledger.insert? entry).isSome, (db.ledger.insert? entry).getD db.ledger) :=
        if_neg (fun poor => Bool.noConfusion poor.1)
      rw [alone]
      exact inserts
  | true =>
      have signed := (ledgerBegins_signed begins).1 rfl
      have written : insertRow db entry true = db.debitInsert entry := rfl
      rw [written, Db.debitInsert]
      by_cases funded : db.balance entry.tenantId ≥ entry.amount
      · have alone : (ledgerAccounts lockKey).alone db.ledger entry true
            = ((db.ledger.insert? entry).isSome, (db.ledger.insert? entry).getD db.ledger) := by
          refine if_neg (fun poor => ?_)
          have total : db.balance entry.tenantId + entry.signed < 0 := poor.2
          linarith
        rw [if_pos funded, alone]
        exact inserts
      · have poor : db.balance entry.tenantId + entry.signed < 0 := by linarith
        have alone : (ledgerAccounts lockKey).alone db.ledger entry true = (false, db.ledger) :=
          if_pos ⟨rfl, poor⟩
        rw [if_neg funded, alone]
        exact ⟨rfl, rfl⟩

theorem serve_eq_replay (lockKey : String → ℕ) {effects : List (Accounts.Effect LedgerEntry)}
    (begins : ∀ taken ∈ effects, LedgerBegins taken.row taken.guarded) (db : Db)
    : serve db effects
      = ((ledgerAccounts lockKey).replay db.ledger effects).map
          (fun ledger => { db with ledger }) := by
  induction effects generalizing db with
  | nil => rfl
  | cons taken rest ih =>
      obtain ⟨answer, written⟩ :=
        insertRow_alone lockKey (begins taken (List.mem_cons_self ..)) db
      simp only [serve, Accounts.replay, answer, written]
      split
      · exact ih (fun later member => begins later (List.mem_cons_of_mem _ member)) _
      · rfl

/-- The statements of credits, refunds and conditional debits, in any interleaving, answer and store
what their transactions do one after the other, each taking effect between its begin and its
end: once when it commits, without a row when it rolls back.
-/
theorem ledger_linearizable {acts : List (TxnAct LedgerEntry)}
    (begins : ∀ entry guarded, .begin entry guarded ∈ acts → LedgerBegins entry guarded)
    (ran : (ledgerAccounts lockKey).run (ledgerAccounts lockKey).initial acts = some state)
    : serve Db.empty (Accounts.history (ledgerAccounts lockKey).initial acts)
        = some (committed state)
      ∧ ∀ (index : ℕ) txn,
          state.txns[index]? = some txn
          → Accounts.Recorded index txn
              ((Accounts.history (ledgerAccounts lockKey).initial acts).filter
                (fun taken => taken.index = index)) := by
  have reached := Accounts.Reachable.run .initial begins ran
  have empty : Accounts.Logged (ledgerAccounts lockKey).initial
      ([] : List (Accounts.Effect LedgerEntry)) :=
    ⟨by simp, by simp [Accounts.initial]⟩
  obtain ⟨replayed, logged⟩ := Accounts.Solvent.initial.replay_history empty
    (fun entry member => (ledgerBegins_signed (begins entry false member)).2 rfl) ran
  rw [List.nil_append] at logged
  have begun : ∀ taken ∈ Accounts.history (ledgerAccounts lockKey).initial acts,
      LedgerBegins taken.row taken.guarded := by
    intro taken member
    obtain ⟨txn, present, row, guarded⟩ := logged.row_begun taken member
    rw [row, guarded]
    exact (reached.begun txn present).1
  refine ⟨?_, logged.recorded⟩
  rw [serve_eq_replay lockKey begun]
  exact congrArg (Option.map _) replayed

/-- The ledger cannot come to a deadlock: from any state that was reached, only so many statements
of the open transactions can run, and where none can, all of them have ended.
-/
theorem ledger_finishes {acts : List (TxnAct LedgerEntry)}
    (reached : (ledgerAccounts lockKey).Reachable LedgerBegins state)
    (advancing : ∀ act ∈ acts, Accounts.advances act = true)
    (ran : (ledgerAccounts lockKey).run state acts = some next)
    : acts.length + Accounts.pending next ≤ Accounts.pending state
      ∧ ((∀ act,
            Accounts.advances act = true → (ledgerAccounts lockKey).step next act = none) →
        ∀ txn ∈ next.txns, txn.isOpen = false) :=
  reached.finishes advancing ran

end Balance

def beginOf (call : LedgerCall) : List (TxnAct LedgerEntry) :=
  call.insertion.toList.map (fun (entry, guarded) => .begin entry guarded)

theorem ledgerBegins_of_mem {call : LedgerCall} {entry : LedgerEntry} {guarded : Bool}
    (member : .begin entry guarded ∈ beginOf call)
    : LedgerBegins entry guarded := by
  obtain ⟨⟨row, guard⟩, inserts, same⟩ := List.mem_map.mp member
  cases same
  exact ⟨call, Option.mem_toList.mp inserts⟩

/-- Witness: two debits of one tenant and one of another wait for one shared lock; the balance
pays for the first debit only.
-/
theorem balance_nonneg_shared_lock
    : ∃ state : (ledgerAccounts (fun _ => 0)).State,
        (ledgerAccounts (fun _ => 0)).Reachable LedgerBegins state
        ∧ state.txns.length = 4
        ∧ state.table.rows.length = 2
        ∧ 0 ≤ (committed state).balance "t" := by
  have ran
      : ((ledgerAccounts (fun _ => 0)).run (ledgerAccounts (fun _ => 0)).initial
          (beginOf (.credit "t" 1 "USD" none "n" {})
            ++ beginOf (.debitIfFunds "t" 1 "USD" (some "a") {})
            ++ beginOf (.debitIfFunds "t" 1 "USD" (some "b") {})
            ++ beginOf (.debitIfFunds "u" 1 "USD" (some "c") {})
            ++ ([.insert 0, .commit 0, .lock 1, .check 1, .insert 1, .commit 1, .lock 2,
               .check 2, .insert 2, .commit 2, .lock 3, .abort 3] : List (TxnAct LedgerEntry)))).any
          (fun state => state.txns.length == 4 && state.table.rows.length == 2)
        = true := by
    decide +kernel
  obtain ⟨state, ran, passed⟩ := Option.any_eq_true _ _ |>.mp ran
  simp only [Bool.and_eq_true, beq_iff_eq] at passed
  have reached : (ledgerAccounts (fun _ => 0)).Reachable LedgerBegins state := by
    refine Accounts.Reachable.run .initial ?_ ran
    intro entry guarded member
    simp only [List.mem_append, List.mem_cons, List.not_mem_nil, or_false, reduceCtorEq]
      at member
    rcases member with ((begun | begun) | begun) | begun <;> exact ledgerBegins_of_mem begun
  exact ⟨state, reached, passed.1, passed.2, balance_nonneg reached "t"⟩

/-- A debit checked before the credit it waits for commits: its refusal comes first. -/
def earlyDebit : List (TxnAct LedgerEntry) :=
  beginOf (.credit "t" 1 "USD" none "n" {})
    ++ beginOf (.debitIfFunds "t" 1 "USD" (some "a") {})
    ++ beginOf (.debitIfFunds "t" 1 "USD" (some "b") {})
    ++ [.insert 0, .lock 1, .check 1, .commit 0, .insert 1, .commit 1, .lock 2, .check 2,
      .insert 2, .commit 2]

theorem earlyDebit_begins {entry : LedgerEntry} {guarded : Bool}
    (member : .begin entry guarded ∈ earlyDebit)
    : LedgerBegins entry guarded := by
  simp only [earlyDebit, List.mem_append, List.mem_cons, List.not_mem_nil, or_false,
    reduceCtorEq] at member
  rcases member with (begun | begun) | begun <;> exact ledgerBegins_of_mem begun

theorem ledger_linearizable_earlyDebit
    : ∃ state : (ledgerAccounts (fun _ => 0)).State,
        (ledgerAccounts (fun _ => 0)).run (ledgerAccounts (fun _ => 0)).initial earlyDebit
          = some state
        ∧ serve Db.empty (Accounts.history (ledgerAccounts (fun _ => 0)).initial earlyDebit)
          = some (committed state) := by
  have runs : ((ledgerAccounts (fun _ => 0)).run (ledgerAccounts (fun _ => 0)).initial
      earlyDebit).isSome = true := by
    decide +kernel
  obtain ⟨state, ran⟩ := Option.isSome_iff_exists.mp runs
  exact ⟨state, ran, (ledger_linearizable (fun _ _ => earlyDebit_begins) ran).1⟩

/-- Witness: the second debit waits for the lock of the first until that commits. -/
theorem ledger_finishes_earlyDebit
    : ∃ state next : (ledgerAccounts (fun _ => 0)).State,
        (ledgerAccounts (fun _ => 0)).step state (.lock 2) = none
        ∧ (ledgerAccounts (fun _ => 0)).run state (earlyDebit.drop 5) = some next
        ∧ (earlyDebit.drop 5).length + Accounts.pending next ≤ Accounts.pending state := by
  have ran
      : ((ledgerAccounts (fun _ => 0)).run (ledgerAccounts (fun _ => 0)).initial
          (earlyDebit.take 5)).any
          (fun state => ((ledgerAccounts (fun _ => 0)).step state (.lock 2)).isNone
            && ((ledgerAccounts (fun _ => 0)).run state (earlyDebit.drop 5)).isSome)
        = true := by
    decide +kernel
  obtain ⟨state, ran, passed⟩ := Option.any_eq_true _ _ |>.mp ran
  obtain ⟨waits, runs⟩ := Bool.and_eq_true_iff.mp passed
  obtain ⟨next, later⟩ := Option.isSome_iff_exists.mp runs
  have reached := Accounts.Reachable.run .initial
    (fun _ _ member => earlyDebit_begins (List.mem_of_mem_take member)) ran
  exact ⟨state, next, Option.isNone_iff_eq_none.mp waits, later,
    (ledger_finishes reached (List.all_eq_true.mp rfl) later).1⟩

end RomaBridge.Properties
