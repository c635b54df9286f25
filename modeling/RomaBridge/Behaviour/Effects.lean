import RomaBridge.Model.Service

/-! What one transaction can do to each table.
Every later argument about a run reads these lemmas instead of unfolding `Db.apply`.
-/

namespace RomaBridge.Model

open RomaBridge.Foundation

-- Ledger keys of jobs

theorem List.split_last {α : Type} {separator : α} {left right left' right' : List α}
    (absent : separator ∉ right) (absent' : separator ∉ right')
    (same : left ++ separator :: right = left' ++ separator :: right')
    : left = left' ∧ right = right' := by
  rcases List.append_eq_append_iff.mp same with ⟨middle, rfl, tail⟩ | ⟨middle, rfl, tail⟩
  · rcases List.cons_eq_append_iff.mp tail with ⟨rfl, eq⟩ | ⟨rest, rfl, rfl⟩
    · simp only [List.cons.injEq, true_and] at eq
      exact ⟨by simp, eq.symm⟩
    · exact absurd (by simp) absent
  · rcases List.cons_eq_append_iff.mp tail with ⟨rfl, eq⟩ | ⟨rest, rfl, rfl⟩
    · simp only [List.cons.injEq, true_and] at eq
      exact ⟨by simp, eq⟩
    · exact absurd (by simp) absent'

theorem JobId.colon_not_mem (jobId : JobId) : ':' ∉ jobId.text.toList := by
  intro member
  have plain := List.all_eq_true.mp jobId.wellFormed.2 ':' member
  revert plain
  decide

theorem JobId.eq_of_text {left right : JobId} (same : left.text.toList = right.text.toList)
    : left = right := by
  cases left
  cases right
  simp only [JobId.mk.injEq]
  exact String.ext same

private theorem hashed_split (tenantId name : String) (jobId : JobId)
    : (tenantId ++ ":" ++ (name ++ ":" ++ jobId.text)).toList
      = (tenantId ++ ":" ++ name).toList ++ ':' :: jobId.text.toList := by
  simp [String.toList_append]

private theorem hashed_injective (name : String) {tenantId tenantId' : String}
    {jobId jobId' : JobId}
    (same
      : tenantId ++ ":" ++ (name ++ ":" ++ jobId.text)
        = tenantId' ++ ":" ++ (name ++ ":" ++ jobId'.text))
    : tenantId = tenantId' ∧ jobId = jobId' := by
  have texts := congrArg String.toList same
  rw [hashed_split, hashed_split] at texts
  obtain ⟨front, back⟩ := List.split_last jobId.colon_not_mem jobId'.colon_not_mem texts
  refine ⟨String.ext ?_, JobId.eq_of_text back⟩
  simpa [String.toList_append] using front

theorem jobKey_injective {tenantId tenantId' : String} {jobId jobId' : JobId}
    (same : ledgerIdFor tenantId (jobKey jobId) = ledgerIdFor tenantId' (jobKey jobId'))
    : tenantId = tenantId' ∧ jobId = jobId' :=
  hashed_injective "job" (LedgerId.keyed.inj same)

theorem refundKey_injective {tenantId tenantId' : String} {jobId jobId' : JobId}
    (same : ledgerIdFor tenantId (refundKey jobId) = ledgerIdFor tenantId' (refundKey jobId'))
    : tenantId = tenantId' ∧ jobId = jobId' :=
  hashed_injective "refund" (LedgerId.keyed.inj same)

/-- No refund is stored under the key of a DEBIT. Witness: `job` and `refund` end in
different letters.
-/
theorem jobKey_ne_refundKey (tenantId tenantId' : String) (jobId jobId' : JobId)
    : ledgerIdFor tenantId (jobKey jobId) ≠ ledgerIdFor tenantId' (refundKey jobId') := by
  intro same
  have texts := congrArg String.toList (LedgerId.keyed.inj same)
  have front := (List.split_last jobId.colon_not_mem jobId'.colon_not_mem
    ((hashed_split tenantId "job" jobId).symm.trans
      (texts.trans (hashed_split tenantId' "refund" jobId')))).1
  have last := congrArg List.getLast? front
  simp [String.toList_append] at last

theorem ledgerIdFor_ne_fresh {ledgerId : LedgerId} (fresh : ∃ nonce, ledgerId = .fresh nonce)
    {tenantId key : String}
    : ledgerIdFor tenantId key ≠ ledgerId := by
  obtain ⟨nonce, rfl⟩ := fresh
  exact fun same => by cases same

-- One transaction

namespace Db

/-- The transactions that write `execution_jobs`. -/
def WritesJobs : Query → Prop
  | .updateExecutionJob _ => True
  | .insertExecutionJob _ _ _ _ => True
  | .claimQueuedExecutionJobs _ _ _ => True
  | .sweepOrphanRunningJobs _ => True
  | _ => False

/-- What one transaction can do: it writes at most one table, and it inserts only rows whose
key is free.
-/
inductive Effect (db : Db) : Query → Db → Prop
  | none {query} : Effect db query db
  | ledger {query entry ledger}
    (issued
      : (query = .debitInsert entry ∧ entry.amount ≤ db.balance entry.tenantId)
        ∨ query = .creditInsert entry)
    (inserted : db.ledger.insert? entry = some ledger)
    : Effect db query { db with ledger }
  | usage {row gpuSeconds cpuSeconds gbSeconds totals} (fresh : db.usageConflict row = false)
    : Effect db (.usageInsert row gpuSeconds cpuSeconds gbSeconds)
        { db with usage := db.usage ++ [row], totals }
  | jobs {query jobs} (writes : WritesJobs query) : Effect db query { db with jobs }
  | submitKeys {tenantId idempotencyKey jobId submitKeys}
    (inserted
      : db.submitKeys.insert? { tenantId, idempotencyKey, jobId } = some submitKeys)
    : Effect db (.createJobIdempotency tenantId idempotencyKey jobId) { db with submitKeys }
  | clock {seconds clock} : Effect db (.advanceClock seconds) { db with clock }

/-- Every transaction has one of these effects, by cases of the transaction. -/
theorem apply_effect (db : Db) (query : Query) : Effect db query (db.apply query).2 := by
  have insert : ∀ entry,
      ((query = .debitInsert entry ∧ entry.amount ≤ db.balance entry.tenantId)
        ∨ query = .creditInsert entry)
      → Effect db query (db.insertEntry entry).2 := by
    intro entry issued
    unfold insertEntry
    cases inserted : db.ledger.insert? entry with
    | none => exact .none
    | some ledger => exact .ledger issued inserted
  cases query with
  | debitInsert entry =>
      simp only [apply, debitInsert]
      split
      · rename_i funded
        exact insert entry (Or.inl ⟨rfl, funded⟩)
      · exact .none
  | creditInsert entry => exact insert entry (Or.inr rfl)
  | usageInsert row gpuSeconds cpuSeconds gbSeconds =>
      simp only [apply, usageInsert]
      split
      · exact .none
      · rename_i fresh
        exact .usage (by simpa using fresh)
  | updateExecutionJob update =>
      simp only [apply, updateJob]
      split
      · exact .none
      · exact .jobs trivial
  | insertExecutionJob id tenantId status gpuRequired =>
      simp only [apply, insertJob]
      split
      · exact .jobs trivial
      · exact .none
  | claimQueuedExecutionJobs limit locked world => exact .jobs trivial
  | sweepOrphanRunningJobs timeoutSeconds => exact .jobs trivial
  | createJobIdempotency tenantId idempotencyKey jobId =>
      simp only [apply, reserveKey]
      split
      · rename_i inserted
        exact .submitKeys inserted
      · exact .none
  | advanceClock seconds => exact .clock
  | ledgerSelect ledgerId tenantId => exact .none
  | getExecutionJob id => exact .none
  | getBillingPendingJobs limit excludeIds => exact .none
  | getRefundPendingJobs limit => exact .none
  | findJobByIdempotency tenantId idempotencyKey => exact .none

-- Ledger

theorem apply_ledger (db : Db) (query : Query)
    : (db.apply query).2.ledger = db.ledger
      ∨ ∃ entry,
          ((query = .debitInsert entry ∧ entry.amount ≤ db.balance entry.tenantId)
            ∨ query = .creditInsert entry)
          ∧ db.ledger.insert? entry = some (db.apply query).2.ledger := by
  have effect := db.apply_effect query
  generalize (db.apply query).2 = after at effect ⊢
  cases effect with
  | ledger issued inserted => exact Or.inr ⟨_, issued, inserted⟩
  | _ => exact Or.inl rfl

theorem apply_ledger_eq (db : Db) {query : Query}
    (other : ∀ entry, query ≠ .debitInsert entry ∧ query ≠ .creditInsert entry)
    : (db.apply query).2.ledger = db.ledger := by
  rcases db.apply_ledger query with same | ⟨entry, ⟨debit, _⟩ | credit, _⟩
  · exact same
  · exact absurd debit (other entry).1
  · exact absurd credit (other entry).2

theorem updated_ledger (db : Db) (update : JobUpdate)
    : (db.apply (.updateExecutionJob update)).2.ledger = db.ledger :=
  db.apply_ledger_eq (by simp)

/-- Stored entries are immutable and are never deleted. -/
def LedgerGrows (before after : Db) : Prop :=
  ∀ ledgerId entry,
    before.ledger.find? ledgerId = some entry → after.ledger.find? ledgerId = some entry

@[refl]
theorem LedgerGrows.refl (db : Db) : LedgerGrows db db := fun _ _ found => found

theorem LedgerGrows.trans {first second third : Db} (left : LedgerGrows first second)
    (right : LedgerGrows second third)
    : LedgerGrows first third :=
  fun ledgerId entry found => right ledgerId entry (left ledgerId entry found)

theorem apply_ledgerGrows (db : Db) (query : Query) : LedgerGrows db (db.apply query).2 := by
  intro ledgerId entry found
  rcases db.apply_ledger query with same | ⟨added, _, inserted⟩
  · rw [same]
    exact found
  · exact Table.find?_insert?_of_some inserted found

theorem apply_find? (db : Db) (query : Query) (ledgerId : LedgerId)
    : (db.apply query).2.ledger.find? ledgerId = db.ledger.find? ledgerId
      ∨ ∃ entry,
          (query = .debitInsert entry ∨ query = .creditInsert entry)
          ∧ entry.ledgerId = ledgerId
          ∧ db.ledger.find? ledgerId = none
          ∧ (db.apply query).2.ledger.find? ledgerId = some entry := by
  rcases db.apply_ledger query with same | ⟨entry, issued, inserted⟩
  · exact Or.inl (by rw [same])
  · rw [Table.find?_of_insert? inserted]
    split
    · rename_i here
      exact Or.inr ⟨entry, issued.imp And.left id, here,
        here ▸ (Table.insert?_eq_some inserted).2, rfl⟩
    · exact Or.inl rfl

theorem apply_find?_eq (db : Db) {query : Query} {ledgerId : LedgerId}
    (other
      : ∀ entry,
          query = .debitInsert entry ∨ query = .creditInsert entry → entry.ledgerId ≠ ledgerId)
    : (db.apply query).2.ledger.find? ledgerId = db.ledger.find? ledgerId := by
  rcases db.apply_find? query ledgerId with same | ⟨entry, inserted, key, _⟩
  · exact same
  · exact absurd key (other entry inserted)

theorem apply_entries {db : Db} {query : Query} {ledgerId : LedgerId} {meets : LedgerEntry → Prop}
    (kept : ∀ entry, db.ledger.find? ledgerId = some entry → meets entry)
    (inserts
      : ∀ entry,
          query = .debitInsert entry ∨ query = .creditInsert entry
          → entry.ledgerId = ledgerId
          → meets entry)
    : ∀ entry, (db.apply query).2.ledger.find? ledgerId = some entry → meets entry := by
  intro entry found
  rcases db.apply_find? query ledgerId with same | ⟨added, inserted, key, _, stored⟩
  · exact kept entry (same ▸ found)
  · cases found.symm.trans stored
    exact inserts entry inserted key

theorem mem_apply_ledger {db : Db} {query : Query} {entry : LedgerEntry}
    (member : entry ∈ (db.apply query).2.ledger.rows)
    : entry ∈ db.ledger.rows ∨ query = .debitInsert entry ∨ query = .creditInsert entry := by
  rcases db.apply_ledger query with same | ⟨added, issued, inserted⟩
  · exact Or.inl (same ▸ member)
  · rw [(Table.insert?_eq_some inserted).1, List.mem_append, List.mem_singleton] at member
    rcases member with old | rfl
    · exact Or.inl old
    · rcases issued with ⟨debit, _⟩ | credit
      · exact Or.inr (Or.inl debit)
      · exact Or.inr (Or.inr credit)

theorem debitInsert_eq_some {db : Db} {entry : LedgerEntry} {ledgerId : LedgerId}
    (inserted : (db.debitInsert entry).1 = some ledgerId)
    : ledgerId = entry.ledgerId
      ∧ (db.debitInsert entry).2.ledger.find? entry.ledgerId = some entry := by
  unfold debitInsert insertEntry at inserted ⊢
  split at inserted
  · rename_i funded
    rw [if_pos funded]
    cases stored : db.ledger.insert? entry with
    | none =>
        rw [stored] at inserted
        cases inserted
    | some ledger =>
        rw [stored] at inserted
        exact ⟨(Option.some.inj inserted).symm, (Table.find?_of_insert? stored _).trans (if_pos rfl)⟩
  · cases inserted

-- execution_jobs

theorem write_of_isEmpty {update : JobUpdate} (empty : update.isEmpty = true) (now : ℚ)
    (row : JobRow)
    : update.write now row = row := by
  simp only [JobUpdate.isEmpty, Bool.and_eq_true, Option.isNone_iff_eq_none] at empty
  obtain ⟨⟨⟨⟨⟨⟨status, backend⟩, backendJobId⟩, completedAt⟩, error⟩, costUsd⟩, duration⟩ := empty
  simp [JobUpdate.write, status, backend, backendJobId, completedAt, error, costUsd, duration]

theorem job?_updateJob (db : Db) (update : JobUpdate) (jobId : JobId)
    : (db.updateJob update).2.job? jobId
      = (db.job? jobId).map
          (fun row => if update.selects row then update.write db.clock row else row) := by
  unfold updateJob
  split
  · rename_i empty
    cases found : db.job? jobId with
    | none => simp
    | some row =>
        simp only [Option.map_some, Option.some.injEq]
        split
        · exact (write_of_isEmpty empty db.clock row).symm
        · rfl
  · exact db.jobs.find?_update update.selects (update.write db.clock) (fun _ => rfl) jobId

theorem selects_jobId {update : JobUpdate} {row : JobRow} (selected : update.selects row = true)
    : row.id = update.jobId := by
  simp only [JobUpdate.selects, Bool.and_eq_true, decide_eq_true_eq] at selected
  exact selected.1.1

theorem selects_tenantId {update : JobUpdate} {row : JobRow} {tenantId : String}
    (selected : update.selects row = true) (given : update.tenantId = some tenantId)
    : row.tenantId = tenantId := by
  simp only [JobUpdate.selects, Bool.and_eq_true, given, Option.all_some,
    decide_eq_true_eq] at selected
  exact selected.1.2

theorem selects_status {update : JobUpdate} {row : JobRow} (selected : update.selects row = true)
    : row.status ∉ update.ifStatusNotIn := by
  simp only [JobUpdate.selects, Bool.and_eq_true, Bool.not_eq_true'] at selected
  simpa using selected.2

theorem job?_updated {db : Db} {jobId : JobId} {row : JobRow} (found : db.job? jobId = some row)
    (update : JobUpdate)
    : (db.apply (.updateExecutionJob update)).2.job? jobId
      = some (if update.selects row then update.write db.clock row else row) := by
  rw [apply, job?_updateJob, found, Option.map_some]

theorem job?_id {db : Db} {jobId : JobId} {row : JobRow} (found : db.job? jobId = some row)
    : row.id = jobId :=
  (Table.find?_some found).2

theorem updateJob_eq_zero {db : Db} {update : JobUpdate} (columns : update.isEmpty = false)
    : (db.updateJob update).1 = 0
      ↔ ∀ row, db.job? update.jobId = some row → update.selects row = false := by
  simp only [updateJob, columns, Bool.false_eq_true, if_false]
  exact Table.count_eq_zero_iff (fun row selected => selects_jobId selected)

theorem mem_queuedRows {db : Db} {limit : ℕ} {locked : List JobId} {row : JobRow}
    (picked : row ∈ queuedRows db limit locked)
    : row ∈ db.jobs.rows ∧ row.status = .queued := by
  have sorted := List.mem_of_mem_take picked
  rw [List.mem_insertionSort, List.mem_filter] at sorted
  simp only [Bool.and_eq_true, decide_eq_true_eq] at sorted
  exact ⟨sorted.1, sorted.2.1⟩

theorem job?_claim (db : Db) (limit : ℕ) (locked : List JobId) (jobId : JobId)
    : (db.claim limit locked).2.job? jobId
      = (db.job? jobId).map (fun row =>
          if row ∈ queuedRows db limit locked then claimRow db.clock row else row) := by
  refine (db.jobs.find?_update _ (claimRow db.clock) (fun _ => rfl) jobId).trans ?_
  cases found : db.jobs.find? jobId with
  | none => simp [job?, found]
  | some row =>
      have stored := (Table.find?_some found).1
      have iff : ((queuedRows db limit locked).map JobRow.id).contains row.id = true
          ↔ row ∈ queuedRows db limit locked := by
        rw [List.contains_iff_mem, List.mem_map]
        constructor
        · rintro ⟨other, picked, same⟩
          rwa [Table.eq_of_key (mem_queuedRows picked).1 stored same] at picked
        · exact fun picked => ⟨row, picked, rfl⟩
      simp only [job?, found, Option.map_some, iff]

theorem job?_sweepOrphans (db : Db) (timeoutSeconds : ℚ) (jobId : JobId)
    : (db.sweepOrphans timeoutSeconds).2.job? jobId
      = (db.job? jobId).map
          (fun row => if isOrphan db timeoutSeconds row then orphanRow db.clock row else row) :=
  db.jobs.find?_update (isOrphan db timeoutSeconds) (orphanRow db.clock) (fun _ => rfl) jobId

theorem apply_jobs_eq (db : Db) {query : Query} (reads : ¬WritesJobs query)
    : (db.apply query).2.jobs = db.jobs := by
  have effect := db.apply_effect query
  generalize (db.apply query).2 = after at effect ⊢
  cases effect with
  | jobs writes => exact absurd writes reads
  | _ => rfl

theorem apply_job?_eq (db : Db) {query : Query} (reads : ¬WritesJobs query) (jobId : JobId)
    : (db.apply query).2.job? jobId = db.job? jobId := by
  rw [job?, db.apply_jobs_eq reads, job?]

/-- What one transaction can do to the row of one job. -/
inductive JobChange (db : Db) (jobId : JobId) : Query → Option JobRow → Prop
  | same {query} : JobChange db jobId query (db.job? jobId)
  | update {update row} (found : db.job? jobId = some row)
    (selected : update.selects row = true)
    : JobChange db jobId (.updateExecutionJob update) (some (update.write db.clock row))
  | insert {tenantId status gpuRequired} (absent : db.job? jobId = none)
    : JobChange db jobId (.insertExecutionJob jobId tenantId status gpuRequired)
        (some (db.newJob jobId tenantId status gpuRequired))
  | claim {limit locked world row} (found : db.job? jobId = some row)
    (picked : row ∈ queuedRows db limit locked)
    : JobChange db jobId (.claimQueuedExecutionJobs limit locked world)
        (some (claimRow db.clock row))
  | orphan {timeoutSeconds row} (found : db.job? jobId = some row)
    (orphan : isOrphan db timeoutSeconds row = true)
    : JobChange db jobId (.sweepOrphanRunningJobs timeoutSeconds)
        (some (orphanRow db.clock row))

/-- Every transaction changes a job in one of these ways, by cases of the transaction. -/
theorem apply_job? (db : Db) (query : Query) (jobId : JobId)
    : JobChange db jobId query ((db.apply query).2.job? jobId) := by
  have unchanged : ∀ {after : Option JobRow}, after = db.job? jobId →
      JobChange db jobId query after := by
    rintro after rfl
    exact .same
  -- A write to the rows that meet a condition.
  have mapped : ∀ {meets : JobRow → Prop} [DecidablePred meets] {write : JobRow → JobRow}
      {after : Option JobRow},
      after = (db.job? jobId).map (fun row => if meets row then write row else row) →
      (∀ {row}, db.job? jobId = some row → meets row →
        JobChange db jobId query (some (write row))) →
      JobChange db jobId query after := by
    rintro meets _ write after rfl change
    cases found : db.job? jobId with
    | none => exact unchanged (by simp [found])
    | some row =>
        simp only [Option.map_some]
        split
        · exact change found ‹_›
        · exact unchanged (by simp [found])
  have frame : ¬WritesJobs query → JobChange db jobId query ((db.apply query).2.job? jobId) := by
    exact fun reads => unchanged (db.apply_job?_eq reads jobId)
  cases query with
  | updateExecutionJob update =>
      exact mapped (db.job?_updateJob update jobId) .update
  | insertExecutionJob id tenantId status gpuRequired =>
      simp only [apply, insertJob]
      cases inserted : db.jobs.insert? (db.newJob id tenantId status gpuRequired) with
      | none => exact unchanged rfl
      | some jobs =>
          have lookup := Table.find?_of_insert? inserted jobId
          have absent := (Table.insert?_eq_some inserted).2
          simp only [job?, lookup]
          split
          · rename_i here
            have same : id = jobId := here
            subst same
            exact .insert absent
          · exact unchanged rfl
  | claimQueuedExecutionJobs limit locked world =>
      exact mapped (db.job?_claim limit locked jobId) .claim
  | sweepOrphanRunningJobs timeoutSeconds =>
      exact mapped (db.job?_sweepOrphans timeoutSeconds jobId) .orphan
  | _ => exact frame (fun writes => writes)

/-- Rows of `execution_jobs` are never deleted and keep their tenant. -/
theorem apply_job?_some {db : Db} {jobId : JobId} {row : JobRow}
    (found : db.job? jobId = some row) (query : Query)
    : ∃ after, (db.apply query).2.job? jobId = some after ∧ after.tenantId = row.tenantId := by
  have change := db.apply_job? query jobId
  revert change
  generalize (db.apply query).2.job? jobId = after
  intro change
  cases change with
  | same => exact ⟨row, found, rfl⟩
  | update found' _ =>
      cases found.symm.trans found'
      exact ⟨_, rfl, rfl⟩
  | insert absent =>
      rw [found] at absent
      cases absent
  | claim found' _ =>
      cases found.symm.trans found'
      exact ⟨_, rfl, rfl⟩
  | orphan found' _ =>
      cases found.symm.trans found'
      exact ⟨_, rfl, rfl⟩

-- usage_events and submit_idempotency_keys

theorem apply_usage (db : Db) (query : Query)
    : (db.apply query).2.usage = db.usage
      ∨ ∃ row gpuSeconds cpuSeconds gbSeconds,
          query = .usageInsert row gpuSeconds cpuSeconds gbSeconds
          ∧ db.usageConflict row = false
          ∧ (db.apply query).2.usage = db.usage ++ [row] := by
  have effect := db.apply_effect query
  generalize (db.apply query).2 = after at effect ⊢
  cases effect with
  | usage fresh => exact Or.inr ⟨_, _, _, _, rfl, fresh, rfl⟩
  | _ => exact Or.inl rfl

theorem apply_submitKey (db : Db) (query : Query) (key : String × String)
    : (db.apply query).2.submitKeys.find? key = db.submitKeys.find? key
      ∨ ∃ jobId,
          query = .createJobIdempotency key.1 key.2 jobId
          ∧ db.submitKeys.find? key = none
          ∧ (db.apply query).2.submitKeys.find? key
            = some { tenantId := key.1, idempotencyKey := key.2, jobId } := by
  have effect := db.apply_effect query
  generalize (db.apply query).2 = after at effect ⊢
  cases effect with
  | submitKeys inserted =>
      simp only [Table.find?_of_insert? inserted key]
      split
      · rename_i here
        subst here
        exact Or.inr ⟨_, rfl, (Table.insert?_eq_some inserted).2, rfl⟩
      · exact Or.inl rfl
  | _ => exact Or.inl rfl

end Db

def OwnedBy (tenantId : String) (jobId : JobId) (db : Db) : Prop :=
  ∃ row, db.job? jobId = some row ∧ row.tenantId = tenantId

theorem OwnedBy.apply {tenantId : String} {jobId : JobId} {db : Db}
    (owned : OwnedBy tenantId jobId db) (query : Query)
    : OwnedBy tenantId jobId (db.apply query).2 := by
  obtain ⟨row, found, tenant⟩ := owned
  obtain ⟨after, stored, same⟩ := Db.apply_job?_some found query
  exact ⟨after, stored, same.trans tenant⟩

theorem OwnedBy.unique {left right : String} {jobId : JobId} {db : Db}
    (first : OwnedBy left jobId db)
    (second : OwnedBy right jobId db)
    : left = right := by
  obtain ⟨row, found, rfl⟩ := first
  obtain ⟨row', found', rfl⟩ := second
  rw [Option.some.inj (found.symm.trans found')]

end RomaBridge.Model
