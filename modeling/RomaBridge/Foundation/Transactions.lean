import RomaBridge.Foundation.Table
import Mathlib.Algebra.Order.BigOperators.Group.List
import Mathlib.Tactic.Linarith

/-! Concurrent transactions on one table of account entries, at READ COMMITTED.
A guarded transaction takes the lock of its account, reads the committed balance in one
statement and inserts its entry if the balance covers it; a plain one inserts at once. Locks
are held until commit or abort, and several accounts may share a lock.
-/

namespace RomaBridge.Foundation

/-- Rows with a unique key that add to the balance of an account; `lock` may be lossy. -/
structure Accounts (κ ρ α ι : Type) where
  key : ρ → κ
  account : ρ → α
  value : ρ → ℚ
  lock : α → ι

/-- Where a transaction stands; `checked` keeps the answer of the balance query, `inserted`
whether the statement wrote its row.
-/
inductive Phase where
  | begun
  | locked
  | checked (funded : Bool)
  | inserted (written : Bool)
  | committed
  | aborted
  deriving DecidableEq

/-- One transaction: the row it wants to insert, and whether the balance guards it. -/
structure Txn (ρ : Type) where
  row : ρ
  guarded : Bool
  phase : Phase

/-- One scheduling decision: a new transaction, or the next statement of an open one. -/
inductive TxnAct (ρ : Type) where
  | begin (row : ρ) (guarded : Bool)
  | lock (index : ℕ)
  | check (index : ℕ)
  | insert (index : ℕ)
  | commit (index : ℕ)
  | abort (index : ℕ)

namespace Txn

variable {ρ : Type}

def holds (txn : Txn ρ) : Bool :=
  txn.guarded
  && match txn.phase with
    | .locked | .checked _ | .inserted _ => true
    | _ => false

/-- The row is written and neither committed nor rolled back. -/
def wrote (txn : Txn ρ) : Bool := txn.phase = .inserted true

/-- The insert may run: a guarded one after its balance query, a plain one at once. -/
def ready (txn : Txn ρ) : Option Bool :=
  match txn.guarded, txn.phase with
  | true, .checked funded => some funded
  | false, .begun => some true
  | _, _ => none

/-- Neither committed nor rolled back. -/
def isOpen (txn : Txn ρ) : Bool := txn.phase ≠ .committed && txn.phase ≠ .aborted

/-- A bound of the statements that are left to run. -/
def remaining (txn : Txn ρ) : ℕ :=
  match txn.phase with
  | .begun => 4
  | .locked => 3
  | .checked _ => 2
  | .inserted _ => 1
  | .committed | .aborted => 0

end Txn

namespace Accounts

variable {κ ρ α ι : Type} [DecidableEq κ] [DecidableEq α] [DecidableEq ι]
  (scheme : Accounts κ ρ α ι)

/-- The committed rows and every transaction ever begun. -/
structure State where
  table : Table κ ρ scheme.key
  txns : List (Txn ρ)

/-- No rows and no transactions. -/
def initial : scheme.State := ⟨.empty, []⟩

def balance (table : Table κ ρ scheme.key) (account : α) : ℚ :=
  ((table.rows.filter (fun row => scheme.account row = account)).map scheme.value).sum

/-- The lock a transaction asks for. -/
def lockOf (txn : Txn ρ) : ι := scheme.lock (scheme.account txn.row)

def lockFree (state : scheme.State) (lock : ι) : Bool :=
  state.txns.all (fun txn => !(txn.holds && scheme.lockOf txn = lock))

/-- Whether the insert writes its row: not without funds and not on a committed key. On the key
of an uncommitted row the statement waits.
-/
def writes? (state : scheme.State) (funded : Bool) (row : ρ) : Option Bool :=
  if !funded || (state.table.find? (scheme.key row)).isSome then
    some false
  else if state.txns.any (fun txn => txn.wrote && scheme.key txn.row = scheme.key row) then
    none
  else
    some true

def move (state : scheme.State) (index : ℕ) (txn : Txn ρ) : scheme.State :=
  { state with txns := state.txns.set index txn }

def publish (table : Table κ ρ scheme.key) (row : ρ) (written : Bool)
    : Table κ ρ scheme.key :=
  if written then (table.insert? row).getD table else table

/-- One step; `none` when the action is not enabled. -/
def step (state : scheme.State) : TxnAct ρ → Option scheme.State
  | .begin row guarded =>
      some { state with txns := state.txns ++ [{ row, guarded, phase := .begun }] }
  | .lock index =>
      match state.txns[index]? with
      | some { row, guarded := true, phase := .begun } =>
          if scheme.lockFree state (scheme.lock (scheme.account row)) then
            some (scheme.move state index { row, guarded := true, phase := .locked })
          else
            none
      | _ => none
  | .check index =>
      match state.txns[index]? with
      | some { row, guarded := true, phase := .locked } =>
          let funded := 0 ≤ scheme.balance state.table (scheme.account row) + scheme.value row
          some (scheme.move state index { row, guarded := true, phase := .checked funded })
      | _ => none
  | .insert index =>
      match state.txns[index]? with
      | some txn =>
          txn.ready.bind (fun funded =>
            (scheme.writes? state funded txn.row).map (fun written =>
              scheme.move state index { txn with phase := .inserted written }))
      | none => none
  | .commit index =>
      match state.txns[index]? with
      | some { row, guarded, phase := .inserted written } =>
          some {
            table := scheme.publish state.table row written
            txns := state.txns.set index { row, guarded, phase := .committed }
          }
      | _ => none
  | .abort index =>
      match state.txns[index]? with
      | some txn =>
          if txn.isOpen then
            some (scheme.move state index { txn with phase := .aborted })
          else
            none
      | none => none

def run (state : scheme.State) : List (TxnAct ρ) → Option scheme.State
  | [] => some state
  | act :: rest => (scheme.step state act).bind (fun next => run next rest)

/-- States reached from the empty table when only `begins` may be begun. -/
inductive Reachable (begins : ρ → Bool → Prop) : scheme.State → Prop where
  | initial : Reachable begins scheme.initial
  | step {state next : scheme.State} {act : TxnAct ρ} (earlier : Reachable begins state)
    (allowed : ∀ row guarded, act = .begin row guarded → begins row guarded)
    (stepped : scheme.step state act = some next)
    : Reachable begins next

-- What one step can do

variable {scheme}

/-- The enabled actions and their effects. -/
inductive Step (state : scheme.State) : TxnAct ρ → scheme.State → Prop
  | begin (row : ρ) (guarded : Bool)
    : Step state (.begin row guarded)
        { state with txns := state.txns ++ [{ row, guarded, phase := .begun }] }
  | lock {index row} (found : state.txns[index]? = some ⟨row, true, .begun⟩)
    (free : scheme.lockFree state (scheme.lock (scheme.account row)) = true)
    : Step state (.lock index) (scheme.move state index ⟨row, true, .locked⟩)
  | check {index row} (found : state.txns[index]? = some ⟨row, true, .locked⟩)
    : Step state (.check index)
        (scheme.move state index
          ⟨row, true, .checked
            (0 ≤ scheme.balance state.table (scheme.account row) + scheme.value row)⟩)
  | insert {index txn funded written} (found : state.txns[index]? = some txn)
    (ready : txn.ready = some funded)
    (writes : scheme.writes? state funded txn.row = some written)
    : Step state (.insert index)
        (scheme.move state index { txn with phase := .inserted written })
  | commit {index row guarded written}
    (found : state.txns[index]? = some ⟨row, guarded, .inserted written⟩)
    : Step state (.commit index) {
        table := scheme.publish state.table row written
        txns := state.txns.set index ⟨row, guarded, .committed⟩ }
  | abort {index txn} (found : state.txns[index]? = some txn)
    : Step state (.abort index) (scheme.move state index { txn with phase := .aborted })

/-- The step function takes these steps only, by cases of the action. -/
theorem step_cases {state next : scheme.State} {act : TxnAct ρ}
    (stepped : scheme.step state act = some next)
    : Step state act next := by
  cases act with
  | begin row guarded =>
      cases stepped
      exact .begin row guarded
  | lock index =>
      simp only [Accounts.step] at stepped
      split at stepped
      · rename_i row found
        split at stepped
        · rename_i free
          cases stepped
          exact .lock found free
        · cases stepped
      · cases stepped
  | check index =>
      simp only [Accounts.step] at stepped
      split at stepped
      · rename_i row found
        cases stepped
        exact .check found
      · cases stepped
  | insert index =>
      simp only [Accounts.step] at stepped
      split at stepped
      · rename_i txn found
        obtain ⟨funded, ready, rest⟩ := Option.bind_eq_some_iff.mp stepped
        obtain ⟨written, writes, rfl⟩ := Option.map_eq_some_iff.mp rest
        exact .insert found ready writes
      · cases stepped
  | commit index =>
      simp only [Accounts.step] at stepped
      split at stepped
      · rename_i row guarded written found
        cases stepped
        exact .commit found
      · cases stepped
  | abort index =>
      simp only [Accounts.step] at stepped
      split at stepped
      · rename_i txn found
        split at stepped
        · cases stepped
          exact .abort found
        · cases stepped
      · cases stepped

-- The invariant

/-- No account is overdrawn. Lock holders have different locks, and the committed balance still
covers every guarded row that passed its check; written rows are under free, distinct keys.
-/
structure Solvent (state : scheme.State) : Prop where
  nonneg : ∀ account, 0 ≤ scheme.balance state.table account
  exclusive
    : ∀ (i j : ℕ) left right,
        state.txns[i]? = some left
        → state.txns[j]? = some right
        → i ≠ j
        → left.holds = true
        → right.holds = true
        → scheme.lockOf left ≠ scheme.lockOf right
  covered
    : ∀ txn ∈ state.txns,
        txn.guarded = true
        → txn.phase = .checked true ∨ txn.phase = .inserted true
        → 0 ≤ scheme.balance state.table (scheme.account txn.row) + scheme.value txn.row
  credits : ∀ txn ∈ state.txns, txn.guarded = false → 0 ≤ scheme.value txn.row
  fresh
    : ∀ txn ∈ state.txns,
        txn.wrote = true → state.table.find? (scheme.key txn.row) = none
  distinct
    : ∀ (i j : ℕ) left right,
        state.txns[i]? = some left
        → state.txns[j]? = some right
        → i ≠ j
        → left.wrote = true
        → right.wrote = true
        → scheme.key left.row ≠ scheme.key right.row

omit [DecidableEq ι] in
theorem balance_insert {table next : Table κ ρ scheme.key} {row : ρ}
    (inserted : table.insert? row = some next) (account : α)
    : scheme.balance next account
      = scheme.balance table account
        + (if scheme.account row = account then scheme.value row else 0) := by
  rw [balance, (Table.insert?_eq_some inserted).1, List.filter_append]
  split
  · rename_i own
    simp [balance, own]
  · rename_i foreign
    simp [balance, foreign]

omit [DecidableEq α] [DecidableEq ι] in
theorem insert?_of_find? {table : Table κ ρ scheme.key} {row : ρ}
    (free : table.find? (scheme.key row) = none)
    : ∃ next, table.insert? row = some next := by
  cases inserted : table.insert? row with
  | some next => exact ⟨next, rfl⟩
  | none =>
      have taken := Table.insert?_eq_none.mp inserted
      rw [free] at taken
      cases taken

namespace Solvent

variable {state : scheme.State}

omit [DecidableEq ι] in
theorem initial : Solvent scheme.initial where
  nonneg account := by simp [balance, Accounts.initial, Table.empty]
  exclusive i j left right found := by simp [Accounts.initial] at found
  covered txn member := by simp [Accounts.initial] at member
  credits txn member := by simp [Accounts.initial] at member
  fresh txn member := by simp [Accounts.initial] at member
  distinct i j left right found := by simp [Accounts.initial] at found

/-- A statement that touches no committed row keeps the invariant if the transaction it belongs
to meets the invariant's demands afterwards.
-/
theorem move (solvent : Solvent state) {index : ℕ} {old new : Txn ρ}
    (found : state.txns[index]? = some old) (row : new.row = old.row)
    (guarded : new.guarded = old.guarded)
    (holds : new.holds = true → old.holds = true ∨ scheme.lockFree state (scheme.lockOf new) = true)
    (covered
      : new.guarded = true
        → new.phase = .checked true ∨ new.phase = .inserted true
        → 0 ≤ scheme.balance state.table (scheme.account new.row) + scheme.value new.row)
    (fresh : new.wrote = true → state.table.find? (scheme.key new.row) = none)
    (distinct
      : new.wrote = true
        → ∀ txn ∈ state.txns, txn.wrote = true → scheme.key txn.row ≠ scheme.key new.row)
    : Solvent (scheme.move state index new) := by
  have elsewhere : ∀ txn ∈ state.txns.set index new, txn = new ∨ txn ∈ state.txns := by
    intro txn member
    rcases List.mem_or_eq_of_mem_set member with earlier | same
    · exact Or.inr earlier
    · exact Or.inl same
  have apart : ∀ (k : ℕ) other, k ≠ index → state.txns[k]? = some other → new.holds = true
      → other.holds = true → scheme.lockOf other ≠ scheme.lockOf new := by
    intro k other differs at' newHolds otherHolds
    rcases holds newHolds with oldHolds | free
    · have same : scheme.lockOf new = scheme.lockOf old := by simp [lockOf, row]
      rw [same]
      exact solvent.exclusive k index other old at' found differs otherHolds oldHolds
    · have unlocked := List.all_eq_true.mp free other (List.mem_of_getElem? at')
      simpa [otherHolds] using unlocked
  refine ⟨solvent.nonneg, ?_, ?_, ?_, ?_, ?_⟩
  · intro i j left right atI atJ differs leftHolds rightHolds
    rcases getElem?_set_cases atI with ⟨rfl, rfl⟩ | ⟨other, leftOld⟩
    · rcases getElem?_set_cases atJ with ⟨rfl, _⟩ | ⟨other, rightOld⟩
      · exact absurd rfl differs
      · exact (apart j right other rightOld leftHolds rightHolds).symm
    · rcases getElem?_set_cases atJ with ⟨rfl, rfl⟩ | ⟨_, rightOld⟩
      · exact apart i left other leftOld rightHolds leftHolds
      · exact solvent.exclusive i j left right leftOld rightOld differs leftHolds rightHolds
  · intro txn member
    rcases elsewhere txn member with rfl | earlier
    · exact covered
    · exact solvent.covered txn earlier
  · intro txn member plain
    rcases elsewhere txn member with rfl | earlier
    · rw [row]
      exact solvent.credits old (List.mem_of_getElem? found) (guarded ▸ plain)
    · exact solvent.credits txn earlier plain
  · intro txn member
    rcases elsewhere txn member with rfl | earlier
    · exact fresh
    · exact solvent.fresh txn earlier
  · intro i j left right atI atJ differs leftWrote rightWrote
    rcases getElem?_set_cases atI with ⟨rfl, rfl⟩ | ⟨other, leftOld⟩
    · rcases getElem?_set_cases atJ with ⟨rfl, _⟩ | ⟨other, rightOld⟩
      · exact absurd rfl differs
      · exact (distinct leftWrote right (List.mem_of_getElem? rightOld) rightWrote).symm
    · rcases getElem?_set_cases atJ with ⟨rfl, rfl⟩ | ⟨_, rightOld⟩
      · exact distinct rightWrote left (List.mem_of_getElem? leftOld) leftWrote
      · exact solvent.distinct i j left right leftOld rightOld differs leftWrote rightWrote

/-- A transaction moves to a phase in which it has neither passed its check nor written. -/
theorem moveIdle (solvent : Solvent state) {index : ℕ} {old new : Txn ρ}
    (found : state.txns[index]? = some old) (row : new.row = old.row)
    (guarded : new.guarded = old.guarded)
    (holds : new.holds = true → old.holds = true ∨ scheme.lockFree state (scheme.lockOf new) = true)
    (unchecked : new.phase ≠ .checked true) (unwritten : new.phase ≠ .inserted true)
    : Solvent (scheme.move state index new) := by
  have idle : new.wrote = true → False := fun wrote => unwritten (of_decide_eq_true wrote)
  refine solvent.move found row guarded holds ?_ (fun wrote => (idle wrote).elim)
    (fun wrote => (idle wrote).elim)
  intro _ passed
  rcases passed with passed | passed
  · exact absurd passed unchecked
  · exact absurd passed unwritten

omit [DecidableEq ι] in
/-- A new transaction holds nothing and has written nothing. -/
theorem begin (solvent : Solvent state) {row : ρ} {guarded : Bool}
    (credit : guarded = false → 0 ≤ scheme.value row)
    : Solvent { state with txns := state.txns ++ [⟨row, guarded, .begun⟩] } := by
  have earlier : ∀ {k : ℕ} {txn : Txn ρ},
      (state.txns ++ [⟨row, guarded, .begun⟩])[k]? = some txn
      → state.txns[k]? = some txn ∨ txn = ⟨row, guarded, .begun⟩ := by
    intro k txn at'
    rw [List.getElem?_append] at at'
    split at at'
    · exact Or.inl at'
    · exact Or.inr (List.mem_singleton.mp (List.mem_of_getElem? at'))
  have idle : (⟨row, guarded, .begun⟩ : Txn ρ).holds = false := by cases guarded <;> rfl
  refine ⟨solvent.nonneg, ?_, ?_, ?_, ?_, ?_⟩
  · intro i j left right atI atJ differs leftHolds rightHolds
    rcases earlier atI with leftOld | rfl
    · rcases earlier atJ with rightOld | rfl
      · exact solvent.exclusive i j left right leftOld rightOld differs leftHolds rightHolds
      · rw [idle] at rightHolds
        cases rightHolds
    · rw [idle] at leftHolds
      cases leftHolds
  · intro txn member
    rcases List.mem_append.mp member with old | new
    · exact solvent.covered txn old
    · rw [List.mem_singleton.mp new]
      intro _ passed
      rcases passed with passed | passed <;> cases passed
  · intro txn member
    rcases List.mem_append.mp member with old | new
    · exact solvent.credits txn old
    · rw [List.mem_singleton.mp new]
      exact credit
  · intro txn member
    rcases List.mem_append.mp member with old | new
    · exact solvent.fresh txn old
    · rw [List.mem_singleton.mp new]
      intro wrote
      cases wrote
  · intro i j left right atI atJ differs leftWrote rightWrote
    rcases earlier atI with leftOld | rfl
    · rcases earlier atJ with rightOld | rfl
      · exact solvent.distinct i j left right leftOld rightOld differs leftWrote rightWrote
      · cases rightWrote
    · cases leftWrote

/-- The invariant of the other transactions when a written row is committed. Witness: another
covered row of the same account would be under the same lock.
-/
theorem publish (solvent : Solvent state) {index : ℕ} {row : ρ} {guarded : Bool}
    (found : state.txns[index]? = some ⟨row, guarded, .inserted true⟩)
    {next : Table κ ρ scheme.key} (inserted : state.table.insert? row = some next)
    : Solvent { table := next, txns := state.txns.set index ⟨row, guarded, .committed⟩ } := by
  have member := List.mem_of_getElem? found
  have moved : Solvent (scheme.move state index ⟨row, guarded, .committed⟩) := by
    refine solvent.moveIdle found rfl rfl ?_ (by simp) (by simp)
    intro holds
    cases guarded <;> cases holds
  -- what the committed row leaves in its own account
  have remains : 0 ≤ scheme.balance next (scheme.account row) := by
    have after := balance_insert inserted (scheme.account row)
    rw [if_pos rfl] at after
    rw [after]
    cases guarded with
    | true => exact solvent.covered ⟨row, true, .inserted true⟩ member rfl (Or.inr rfl)
    | false =>
        have credit := solvent.credits ⟨row, false, .inserted true⟩ member rfl
        exact add_nonneg (solvent.nonneg _) credit
  have others : ∀ (k : ℕ) txn, k ≠ index → state.txns[k]? = some txn → txn.guarded = true
      → txn.phase = .checked true ∨ txn.phase = .inserted true
      → scheme.balance state.table (scheme.account txn.row)
        ≤ scheme.balance next (scheme.account txn.row) := by
    intro k txn differs at' itsGuard passed
    rw [balance_insert inserted]
    split
    · rename_i same
      cases guarded with
      | false =>
          have credit := solvent.credits ⟨row, false, .inserted true⟩ member rfl
          exact le_add_of_nonneg_right credit
      | true =>
          have holds : txn.holds = true := by
            rcases passed with passed | passed <;> simp [Txn.holds, itsGuard, passed]
          refine absurd ?_ (solvent.exclusive k index txn _ at' found differs holds rfl)
          simp [lockOf, same]
    · simp
  refine ⟨?_, moved.exclusive, ?_, moved.credits, ?_, moved.distinct⟩
  · intro account
    by_cases own : scheme.account row = account
    · subst own
      exact remains
    · rw [balance_insert inserted, if_neg own, add_zero]
      exact solvent.nonneg account
  · intro txn inTxns itsGuard passed
    obtain ⟨k, at'⟩ := List.getElem?_of_mem inTxns
    rcases getElem?_set_cases at' with ⟨_, rfl⟩ | ⟨differs, old⟩
    · rcases passed with passed | passed <;> cases passed
    · have before := solvent.covered txn (List.mem_of_getElem? old) itsGuard passed
      have grown := others k txn differs old itsGuard passed
      linarith
  · intro txn inTxns wrote
    obtain ⟨k, at'⟩ := List.getElem?_of_mem inTxns
    rcases getElem?_set_cases at' with ⟨_, rfl⟩ | ⟨differs, old⟩
    · cases wrote
    · rw [Table.find?_of_insert? inserted, if_neg]
      · exact solvent.fresh txn (List.mem_of_getElem? old) wrote
      · exact solvent.distinct index k _ txn found old (Ne.symm differs) rfl wrote

theorem ready_cases {txn : Txn ρ} {funded : Bool} (ready : txn.ready = some funded)
    : (txn.guarded = true ∧ txn.phase = .checked funded ∧ txn.holds = true)
      ∨ (txn.guarded = false ∧ funded = true) := by
  obtain ⟨row, guarded, phase⟩ := txn
  cases guarded <;> cases phase <;> simp_all [Txn.ready, Txn.holds]

omit [DecidableEq α] [DecidableEq ι] in
theorem writes?_true {funded : Bool} {row : ρ}
    (writes : scheme.writes? state funded row = some true)
    : funded = true
      ∧ state.table.find? (scheme.key row) = none
      ∧ ∀ txn ∈ state.txns, txn.wrote = true → scheme.key txn.row ≠ scheme.key row := by
  unfold writes? at writes
  split at writes
  · cases writes
  · rename_i clear
    split at writes
    · cases writes
    · rename_i waits
      simp only [Bool.or_eq_true, Bool.not_eq_eq_eq_not, Bool.not_true, not_or,
        Bool.not_eq_false, Bool.not_eq_true, Option.isSome_eq_false_iff,
        Option.isNone_iff_eq_none] at clear
      refine ⟨clear.1, clear.2, ?_⟩
      intro txn member wrote same
      apply waits
      rw [List.any_eq_true]
      exact ⟨txn, member, by simp [wrote, same]⟩

/-- Every step keeps the invariant, by cases of the step. -/
theorem step (solvent : Solvent state) {next : scheme.State} {act : TxnAct ρ}
    (credit : ∀ row, act = .begin row false → 0 ≤ scheme.value row)
    (stepped : scheme.step state act = some next)
    : Solvent next := by
  cases step_cases stepped with
  | begin row guarded =>
      refine solvent.begin ?_
      rintro rfl
      exact credit row rfl
  | lock found free =>
      exact solvent.moveIdle found rfl rfl (fun _ => Or.inr free) (by simp) (by simp)
  | @check index row found =>
      refine solvent.move found rfl rfl (fun _ => Or.inl rfl) ?_ ?_ ?_
      · intro _ passed
        rcases passed with passed | passed
        · exact of_decide_eq_true (Phase.checked.inj passed)
        · cases passed
      · intro wrote
        cases wrote
      · intro wrote
        cases wrote
  | @insert index txn funded written found ready writes =>
      have wroteTrue : ({ txn with phase := .inserted written } : Txn ρ).wrote = true
          → written = true := by
        intro wrote
        simpa [Txn.wrote] using wrote
      refine solvent.move found rfl rfl ?_ ?_ ?_ ?_
      · intro holds
        rcases ready_cases ready with ⟨_, _, held⟩ | ⟨plain, _⟩
        · exact Or.inl held
        · simp [Txn.holds, plain] at holds
      · intro guarded passed
        have wrote : written = true := by
          rcases passed with passed | passed
          · cases passed
          · exact Phase.inserted.inj passed
        subst wrote
        rcases ready_cases ready with ⟨_, checked, _⟩ | ⟨plain, _⟩
        · rw [(writes?_true writes).1] at checked
          exact solvent.covered txn (List.mem_of_getElem? found) guarded (Or.inl checked)
        · rw [show txn.guarded = true from guarded] at plain
          cases plain
      · intro wrote
        exact (writes?_true (wroteTrue wrote ▸ writes)).2.1
      · intro wrote
        exact (writes?_true (wroteTrue wrote ▸ writes)).2.2
  | @commit index row guarded written found =>
      cases written with
      | true =>
          have free := solvent.fresh _ (List.mem_of_getElem? found) rfl
          obtain ⟨table, inserted⟩ := insert?_of_find? free
          have after : scheme.publish state.table row true = table := by
            simp [Accounts.publish, inserted]
          rw [after]
          exact solvent.publish found inserted
      | false =>
          refine solvent.moveIdle found rfl rfl ?_ (by simp) (by simp)
          intro holds
          cases guarded <;> cases holds
  | @abort index txn found =>
      refine solvent.moveIdle found rfl rfl ?_ (by simp) (by simp)
      intro holds
      simp [Txn.holds] at holds

end Solvent

/-- No account is ever overdrawn if plain rows never take from it, by induction on the run. -/
theorem Reachable.solvent {begins : ρ → Bool → Prop} {state : scheme.State}
    (reached : scheme.Reachable begins state)
    (credit : ∀ row, begins row false → 0 ≤ scheme.value row)
    : Solvent state := by
  induction reached with
  | initial => exact .initial
  | step _ allowed stepped ih =>
      exact ih.step (fun row same => credit row (allowed row false same)) stepped

/-- Every transaction was begun, and only a guarded one asks for a lock and a balance; by
induction on the run.
-/
theorem Reachable.begun {begins : ρ → Bool → Prop} {state : scheme.State}
    (reached : scheme.Reachable begins state)
    : ∀ txn ∈ state.txns,
        begins txn.row txn.guarded
        ∧ (txn.guarded = false → txn.phase ≠ .locked ∧ ∀ funded, txn.phase ≠ .checked funded) := by
  induction reached with
  | initial => simp [Accounts.initial]
  | @step state next act _ allowed stepped ih =>
      have replaced : ∀ {index : ℕ} {old new : Txn ρ}, state.txns[index]? = some old
          → new.row = old.row → new.guarded = old.guarded
          → (new.guarded = false → new.phase ≠ .locked ∧ ∀ funded, new.phase ≠ .checked funded)
          → ∀ txn ∈ state.txns.set index new,
              begins txn.row txn.guarded
              ∧ (txn.guarded = false
                → txn.phase ≠ .locked ∧ ∀ funded, txn.phase ≠ .checked funded) := by
        intro index old new found row guarded plain txn member
        rcases List.mem_or_eq_of_mem_set member with earlier | rfl
        · exact ih txn earlier
        · rw [row, guarded]
          exact ⟨(ih old (List.mem_of_getElem? found)).1, guarded ▸ plain⟩
      cases step_cases stepped with
      | begin row guarded =>
          intro txn member
          rcases List.mem_append.mp member with old | new
          · exact ih txn old
          · rw [List.mem_singleton.mp new]
            exact ⟨allowed row guarded rfl, by simp⟩
      | lock found => exact replaced found rfl rfl (by simp)
      | check found => exact replaced found rfl rfl (by simp)
      | insert found => exact replaced found rfl rfl (by simp)
      | commit found => exact replaced found rfl rfl (by simp)
      | abort found => exact replaced found rfl rfl (by simp)

/-- A schedule that runs through reaches its last state, by induction on the schedule. -/
theorem Reachable.run {begins : ρ → Bool → Prop} {acts : List (TxnAct ρ)}
    {state next : scheme.State} (reached : scheme.Reachable begins state)
    (allowed : ∀ row guarded, .begin row guarded ∈ acts → begins row guarded)
    (ran : scheme.run state acts = some next)
    : scheme.Reachable begins next := by
  induction acts generalizing state with
  | nil =>
      cases ran
      exact reached
  | cons act rest ih =>
      obtain ⟨middle, stepped, later⟩ := Option.bind_eq_some_iff.mp ran
      refine ih (reached.step ?_ stepped) ?_ later
      · rintro row guarded rfl
        exact allowed row guarded (by simp)
      · exact fun row guarded member => allowed row guarded (List.mem_cons_of_mem _ member)

-- No deadlock

/-- A statement of an open transaction that is no rollback. -/
def advances : TxnAct ρ → Bool
  | .begin .. | .abort _ => false
  | _ => true

/-- No wait is circular: who has inserted can commit, and while nobody has, no insert waits; if
none is due either, the holder of a lock can check, and without a holder every lock is free.
-/
theorem Reachable.progress {begins : ρ → Bool → Prop} {state : scheme.State}
    (reached : scheme.Reachable begins state)
    (unfinished : ∃ txn ∈ state.txns, txn.isOpen = true)
    : ∃ act, advances act = true ∧ (scheme.step state act).isSome = true := by
  by_cases inserted : ∃ txn ∈ state.txns, ∃ written, txn.phase = .inserted written
  · obtain ⟨⟨row, guarded, phase⟩, member, written, rfl⟩ := inserted
    obtain ⟨index, found⟩ := List.getElem?_of_mem member
    exact ⟨.commit index, rfl, by simp [Accounts.step, found]⟩
  by_cases due : ∃ txn ∈ state.txns, ∃ funded, txn.ready = some funded
  · obtain ⟨txn, member, funded, ready⟩ := due
    obtain ⟨index, found⟩ := List.getElem?_of_mem member
    have unwritten : state.txns.any (fun other =>
        other.wrote && scheme.key other.row = scheme.key txn.row) = false := by
      refine List.any_eq_false.mpr (fun other among wrote => inserted ⟨other, among, true, ?_⟩)
      exact of_decide_eq_true (Bool.and_eq_true_iff.mp wrote).1
    have writes : (scheme.writes? state funded txn.row).isSome = true := by
      rw [writes?, unwritten]
      split <;> rfl
    exact ⟨.insert index, rfl, by simp [Accounts.step, found, ready, writes]⟩
  by_cases locked : ∃ txn ∈ state.txns, txn.phase = .locked
  · obtain ⟨⟨row, guarded, phase⟩, member, rfl⟩ := locked
    obtain ⟨index, found⟩ := List.getElem?_of_mem member
    cases guarded with
    | false => exact absurd rfl ((reached.begun _ member).2 rfl).1
    | true => exact ⟨.check index, rfl, by simp [Accounts.step, found]⟩
  have idle : ∀ txn ∈ state.txns, txn.holds = false
      ∧ (txn.isOpen = true → txn.guarded = true ∧ txn.phase = .begun) := by
    intro txn member
    have plain := (reached.begun txn member).2
    have unready := not_exists.mp (fun ready => due ⟨txn, member, ready⟩)
    have unwritten := not_exists.mp (fun wrote => inserted ⟨txn, member, wrote⟩)
    have unlocked := fun locking => locked ⟨txn, member, locking⟩
    clear locked due inserted
    obtain ⟨row, guarded, phase⟩ := txn
    cases guarded <;> cases phase <;> simp_all [Txn.holds, Txn.isOpen, Txn.ready]
  obtain ⟨⟨row, guarded, phase⟩, member, isOpen⟩ := unfinished
  obtain ⟨rfl, rfl⟩ := (idle _ member).2 isOpen
  obtain ⟨index, found⟩ := List.getElem?_of_mem member
  have free : scheme.lockFree state (scheme.lock (scheme.account row)) = true :=
    List.all_eq_true.mpr (fun txn among => by simp [(idle txn among).1])
  exact ⟨.lock index, rfl, by simp [Accounts.step, found, free]⟩

/-- The statements that are left to run. -/
def pending (state : scheme.State) : ℕ := (state.txns.map Txn.remaining).sum

theorem sum_set_lt {txns : List (Txn ρ)} {index : ℕ} {old new : Txn ρ}
    (found : txns[index]? = some old) (less : new.remaining < old.remaining)
    : ((txns.set index new).map Txn.remaining).sum < (txns.map Txn.remaining).sum := by
  induction txns generalizing index with
  | nil => simp at found
  | cons txn rest ih =>
      cases index with
      | zero =>
          obtain rfl := Option.some.inj found
          simpa using less
      | succ index => simpa using ih found

/-- A statement is one fewer to run, by cases of the step. -/
theorem pending_lt {state next : scheme.State} {act : TxnAct ρ} (advancing : advances act = true)
    (stepped : scheme.step state act = some next)
    : pending next < pending state := by
  cases step_cases stepped with
  | begin row guarded => cases advancing
  | lock found free => exact sum_set_lt found (by simp [Txn.remaining])
  | check found => exact sum_set_lt found (by simp [Txn.remaining])
  | @insert index txn funded written found ready writes =>
      refine sum_set_lt found ?_
      obtain ⟨row, guarded, phase⟩ := txn
      cases guarded <;> cases phase <;> simp_all [Txn.ready, Txn.remaining]
  | commit found => exact sum_set_lt found (by simp [Txn.remaining])
  | abort found => cases advancing

/-- Open transactions are never stuck and always come to their end: so many statements can run at
most, and where none can, every transaction has ended; by induction on the schedule.
-/
theorem Reachable.finishes {begins : ρ → Bool → Prop} {acts : List (TxnAct ρ)}
    {state next : scheme.State} (reached : scheme.Reachable begins state)
    (advancing : ∀ act ∈ acts, advances act = true) (ran : scheme.run state acts = some next)
    : acts.length + pending next ≤ pending state
      ∧ ((∀ act, advances act = true → scheme.step next act = none) →
        ∀ txn ∈ next.txns, txn.isOpen = false) := by
  constructor
  · clear reached
    induction acts generalizing state with
    | nil =>
        cases ran
        simp
    | cons act rest ih =>
        obtain ⟨middle, stepped, later⟩ := Option.bind_eq_some_iff.mp ran
        have fewer := pending_lt (advancing act (List.mem_cons_self ..)) stepped
        have rest := ih (fun act member => advancing act (List.mem_cons_of_mem _ member)) later
        simp only [List.length_cons]
        omega
  · intro stuck txn member
    by_contra unfinished
    have after := reached.run (fun _ _ member => by cases advancing _ member) ran
    obtain ⟨act, advance, enabled⟩ :=
      after.progress ⟨txn, member, Bool.not_eq_false _ ▸ unfinished⟩
    rw [stuck act advance] at enabled
    cases enabled

-- Linearizability

/-- A transaction takes effect: its row is stored or refused. -/
structure Effect (ρ : Type) where
  index : ℕ
  row : ρ
  guarded : Bool
  stored : Bool

/-- A refused row takes effect at the statement that refuses it, a stored one at its commit. -/
def effect (state : scheme.State) : TxnAct ρ → List (Effect ρ)
  | .check index =>
      match state.txns[index]? with
      | some { row, guarded := true, phase := .locked } =>
          if 0 ≤ scheme.balance state.table (scheme.account row) + scheme.value row then
            []
          else
            [{ index, row, guarded := true, stored := false }]
      | _ => []
  | .insert index =>
      match state.txns[index]? with
      | some { row, guarded, phase } =>
          if Txn.ready { row, guarded, phase } = some true
              ∧ scheme.writes? state true row = some false then
            [{ index, row, guarded, stored := false }]
          else
            []
      | none => []
  | .commit index =>
      match state.txns[index]? with
      | some { row, guarded, phase := .inserted true } =>
          [{ index, row, guarded, stored := true }]
      | _ => []
  | _ => []

/-- The effects of a schedule, in the order they are taken. -/
def history (state : scheme.State) : List (TxnAct ρ) → List (Effect ρ)
  | [] => []
  | act :: rest =>
      effect state act ++ (scheme.step state act).elim [] (fun next => history next rest)

variable (scheme) in
/-- A transaction that runs alone: whether its row is stored, and the table it leaves. -/
def alone (table : Table κ ρ scheme.key) (row : ρ) (guarded : Bool)
    : Bool × Table κ ρ scheme.key :=
  if guarded ∧ scheme.balance table (scheme.account row) + scheme.value row < 0 then
    (false, table)
  else
    ((table.insert? row).isSome, (table.insert? row).getD table)

variable (scheme) in
/-- The transactions one after the other; `none` where an answer differs. -/
def replay (table : Table κ ρ scheme.key) : List (Effect ρ) → Option (Table κ ρ scheme.key)
  | [] => some table
  | taken :: rest =>
      let (stored, next) := scheme.alone table taken.row taken.guarded
      if stored = taken.stored then replay next rest else none

/-- What `history` holds of one transaction: one entry once it is refused or committed, and
nothing stored of one rolled back.
-/
def Recorded (index : ℕ) (txn : Txn ρ) (taken : List (Effect ρ)) : Prop :=
  match txn.phase with
  | .checked false | .inserted false => taken = [⟨index, txn.row, txn.guarded, false⟩]
  | .committed => ∃ stored, taken = [⟨index, txn.row, txn.guarded, stored⟩]
  | .aborted => ∀ entry ∈ taken, entry = ⟨index, txn.row, txn.guarded, false⟩
  | _ => taken = []

theorem Recorded.same {index : ℕ} {txn : Txn ρ} {taken : List (Effect ρ)}
    (recorded : Recorded index txn taken)
    : ∀ entry ∈ taken, entry.row = txn.row ∧ entry.guarded = txn.guarded := by
  unfold Recorded at recorded
  split at recorded
  · simp [recorded]
  · simp [recorded]
  · obtain ⟨stored, taken⟩ := recorded
    simp [taken]
  · exact fun entry member => by simp [recorded entry member]
  · simp [recorded]

omit [DecidableEq ι] in
theorem replay_append (table : Table κ ρ scheme.key) (first second : List (Effect ρ))
    : scheme.replay table (first ++ second)
      = (scheme.replay table first).bind (fun next => scheme.replay next second) := by
  induction first generalizing table with
  | nil => rfl
  | cons taken rest ih =>
      simp only [List.cons_append, replay]
      split
      · exact ih _
      · rfl

omit [DecidableEq ι] in
theorem replay_refused {table : Table κ ρ scheme.key} {taken : Effect ρ}
    (refused : taken.stored = false)
    (cause
      : (taken.guarded = true
          ∧ scheme.balance table (scheme.account taken.row) + scheme.value taken.row < 0)
        ∨ (table.find? (scheme.key taken.row)).isSome = true)
    : scheme.replay table [taken] = some table := by
  by_cases poor : taken.guarded = true
      ∧ scheme.balance table (scheme.account taken.row) + scheme.value taken.row < 0
  · simp [replay, alone, poor, refused]
  · have full := Table.insert?_eq_none.mpr (cause.resolve_left poor)
    simp [replay, alone, poor, refused, full]

/-- One step moves the committed table as its effect does alone, by cases of the step. -/
theorem Solvent.replay_effect {state next : scheme.State} {act : TxnAct ρ}
    (solvent : Solvent state) (stepped : scheme.step state act = some next)
    : scheme.replay state.table (effect state act) = some next.table := by
  cases step_cases stepped with
  | begin row guarded => rfl
  | lock found free => rfl
  | abort found => rfl
  | @check index row found =>
      simp only [effect, found]
      split
      · rfl
      · rename_i poor
        exact replay_refused rfl (Or.inl ⟨rfl, not_le.mp poor⟩)
  | @insert index txn funded written found ready writes =>
      obtain ⟨row, guarded, phase⟩ := txn
      simp only [effect, found]
      split
      · rename_i refused
        refine replay_refused rfl (Or.inr ?_)
        by_contra free
        have unseen := refused.2
        simp only [writes?, Bool.not_true, Bool.false_or, free, if_false] at unseen
        split at unseen <;> cases unseen
      · rfl
  | @commit index row guarded written found =>
      cases written with
      | false => simp [effect, found, replay, Accounts.publish]
      | true =>
          have member := List.mem_of_getElem? found
          obtain ⟨table, inserted⟩ := insert?_of_find? (solvent.fresh _ member rfl)
          have funded : ¬(guarded = true
              ∧ scheme.balance state.table (scheme.account row) + scheme.value row < 0) := by
            rintro ⟨guard, poor⟩
            exact absurd (solvent.covered _ member guard (Or.inr rfl)) (not_le.mpr poor)
          simp [effect, found, replay, alone, funded, Accounts.publish, inserted]

/-- A log of effects that holds what `Recorded` says of every transaction. -/
structure Logged (state : scheme.State) (log : List (Effect ρ)) : Prop where
  begun : ∀ entry ∈ log, entry.index < state.txns.length
  recorded
    : ∀ (index : ℕ) txn,
        state.txns[index]? = some txn
        → Recorded index txn (log.filter (fun entry => entry.index = index))

namespace Logged

variable {state : scheme.State} {log : List (Effect ρ)}

omit [DecidableEq κ] [DecidableEq α] [DecidableEq ι] in
/-- A transaction moves and adds its own entries. -/
theorem move (logged : Logged state log) {index : ℕ} {old new : Txn ρ} {more : List (Effect ρ)}
    (table : Table κ ρ scheme.key) (found : state.txns[index]? = some old)
    (own : ∀ entry ∈ more, entry.index = index)
    (moved : ∀ taken, Recorded index old taken → Recorded index new (taken ++ more))
    : Logged ({ table, txns := state.txns.set index new } : scheme.State) (log ++ more) := by
  constructor
  · intro entry member
    rw [List.length_set]
    rcases List.mem_append.mp member with earlier | added
    · exact logged.begun entry earlier
    · rw [own entry added]
      exact (List.getElem?_eq_some_iff.mp found).1
  · intro k txn at'
    rw [List.filter_append]
    rcases getElem?_set_cases at' with ⟨rfl, rfl⟩ | ⟨differs, elsewhere⟩
    · have all : more.filter (fun entry => entry.index = k) = more :=
        List.filter_eq_self.mpr (fun entry added => by simpa using own entry added)
      rw [all]
      exact moved _ (logged.recorded k old found)
    · have none_ : more.filter (fun entry => entry.index = k) = [] :=
        List.filter_eq_nil_iff.mpr (fun entry added => by simpa [own entry added] using differs.symm)
      rw [none_, List.append_nil]
      exact logged.recorded k txn elsewhere

/-- Every step keeps the log, by cases of the step. -/
theorem step (logged : Logged state log) {next : scheme.State} {act : TxnAct ρ}
    (stepped : scheme.step state act = some next)
    : Logged next (log ++ effect state act) := by
  cases step_cases stepped with
  | begin row guarded =>
      simp only [effect, List.append_nil]
      constructor
      · intro entry member
        have earlier := logged.begun entry member
        simp only [List.length_append, List.length_singleton]
        omega
      · intro index txn at'
        rcases getElem?_append_cases at' with earlier | ⟨rfl, rfl⟩
        · exact logged.recorded index txn earlier
        · refine List.filter_eq_nil_iff.mpr ?_
          intro entry member
          simpa using (logged.begun entry member).ne
  | lock found free =>
      exact logged.move _ found (by simp [effect]) (by simp [Recorded, effect])
  | @check index row found =>
      refine logged.move _ found ?_ ?_
      · simp only [effect, found]
        split <;> simp
      · intro taken recorded
        have untaken : taken = [] := recorded
        simp only [effect, found, untaken]
        split <;> rename_i funded <;> simp [Recorded, funded]
  | @insert index txn funded written found ready writes =>
      obtain ⟨row, guarded, phase⟩ := txn
      refine logged.move _ found ?_ ?_
      · simp only [effect, found]
        split <;> simp
      · intro taken recorded
        cases funded with
        | false =>
            -- refused at the check, which has recorded it
            have phases : phase = .checked false := by
              cases guarded <;> cases phase <;> simp_all [Txn.ready]
            have refused : written = false := by simpa [writes?, eq_comm] using writes
            subst phases refused
            simpa [effect, found, ready, Recorded] using recorded
        | true =>
            have untaken : taken = [] := by
              cases guarded <;> cases phase <;> simp_all [Txn.ready, Recorded]
            subst untaken
            cases written <;> simp [effect, found, ready, writes, Recorded]
  | @commit index row guarded written found =>
      refine logged.move _ found ?_ ?_
      · cases written <;> simp [effect, found]
      · intro taken recorded
        cases written with
        | false =>
            have refused : taken = [⟨index, row, guarded, false⟩] := recorded
            exact ⟨false, by simp [effect, found, refused]⟩
        | true =>
            have untaken : taken = [] := recorded
            exact ⟨true, by simp [effect, found, untaken]⟩
  | @abort index txn found =>
      refine logged.move _ found (by simp [effect]) ?_
      intro taken recorded
      have unfinished : txn.isOpen = true := by
        simp only [Accounts.step, found] at stepped
        by_contra finished
        rw [if_neg finished] at stepped
        cases stepped
      simp only [effect, List.append_nil]
      intro entry member
      obtain ⟨row, guarded, phase⟩ := txn
      cases phase with
      | committed => cases unfinished
      | aborted => cases unfinished
      | checked funded => cases funded <;> simp_all [Recorded]
      | inserted written => cases written <;> simp_all [Recorded]
      | begun => simp_all [Recorded]
      | locked => simp_all [Recorded]

omit [DecidableEq κ] [DecidableEq α] [DecidableEq ι] in
theorem row_begun (logged : Logged state log)
    : ∀ entry ∈ log, ∃ txn ∈ state.txns, entry.row = txn.row ∧ entry.guarded = txn.guarded := by
  intro entry member
  have at' := List.getElem?_eq_getElem (logged.begun entry member)
  refine ⟨_, List.mem_of_getElem? at', ?_⟩
  exact (logged.recorded entry.index _ at').same entry (by simp [member])

end Logged

/-- The schedule answers and stores what its transactions do one after the other, from a state
that a log describes; by induction on the schedule.
-/
theorem Solvent.replay_history {state final : scheme.State} {acts : List (TxnAct ρ)}
    {log : List (Effect ρ)} (solvent : Solvent state) (logged : Logged state log)
    (credit : ∀ row, .begin row false ∈ acts → 0 ≤ scheme.value row)
    (ran : scheme.run state acts = some final)
    : scheme.replay state.table (history state acts) = some final.table
      ∧ Logged final (log ++ history state acts) := by
  induction acts generalizing state log with
  | nil =>
      cases ran
      exact ⟨rfl, by simpa [history] using logged⟩
  | cons act rest ih =>
      obtain ⟨middle, stepped, later⟩ := Option.bind_eq_some_iff.mp ran
      have kept : Solvent middle :=
        solvent.step (fun row same => credit row (by simp [same])) stepped
      obtain ⟨replayed, described⟩ := ih kept (logged.step stepped)
        (fun row member => credit row (List.mem_cons_of_mem _ member)) later
      simp only [history, stepped, Option.elim_some]
      constructor
      · rw [replay_append, solvent.replay_effect stepped]
        exact replayed
      · rwa [← List.append_assoc]

end Accounts
end RomaBridge.Foundation
