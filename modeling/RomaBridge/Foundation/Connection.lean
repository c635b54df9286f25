import RomaBridge.Foundation.Table

/-! One database connection with an implicit transaction over one table.
The first insert opens the transaction; its rows are seen by this connection only until a commit
moves them to the file. Every statement may fail, and a failure does not end the transaction.
-/

namespace RomaBridge.Foundation

/-- Where a call that inserts rows and commits meets an error other than a refused row.
`undone` says that the engine dropped the open transaction together with the statement.
-/
inductive SqlFault where
  | none
  | prepare
  | statement (row : ℕ) (undone : Bool)
  | commit (undone : Bool)
  deriving DecidableEq, Repr

def SqlFault.atRow (fault : SqlFault) (index : ℕ) : Option Bool :=
  match fault with
  | .statement row undone => if row = index then some undone else Option.none
  | _ => Option.none

def SqlFault.atCommit : SqlFault → Option Bool
  | .commit undone => some undone
  | _ => Option.none

/-- The file of a table and the rows of the open transaction; a key is used once in both. -/
structure Connection (κ ρ : Type) (key : ρ → κ) where
  file : Table κ ρ key
  pending : List ρ
  unique : ((file.rows ++ pending).map key).Nodup

namespace Connection

variable {κ ρ : Type} {key : ρ → κ}

def connect (file : Table κ ρ key) : Connection κ ρ key where
  file := file
  pending := []
  unique := by simpa using file.unique

/-- What a query of this connection sees. -/
def view (conn : Connection κ ρ key) : Table κ ρ key := ⟨conn.file.rows ++ conn.pending, conn.unique⟩

/-- `commit()`: the pending rows become part of the file. -/
def commit (conn : Connection κ ρ key) : Connection κ ρ key := connect conn.view

/-- `rollback()`, and what closing the connection does to an open transaction. -/
def rollback (conn : Connection κ ρ key) : Connection κ ρ key := connect conn.file

/-- The transaction after a failed statement. -/
def undo (conn : Connection κ ρ key) (undone : Bool) : Connection κ ρ key :=
  if undone then conn.rollback else conn

@[simp]
theorem view_connect (file : Table κ ρ key) : (connect file).view = file := by
  cases file
  simp [connect, view]

@[simp]
theorem pending_connect (file : Table κ ρ key) : (connect file).pending = [] := rfl

@[simp]
theorem file_connect (file : Table κ ρ key) : (connect file).file = file := rfl

section Keyed

variable [DecidableEq κ]

/-- `execute("INSERT ...")`: `none` when the row breaks a column constraint or its key is taken. -/
def execute (allowed : ρ → Bool) (conn : Connection κ ρ key) (row : ρ)
    : Option (Connection κ ρ key) :=
  if fresh : allowed row = true ∧ key row ∉ (conn.file.rows ++ conn.pending).map key then
    some ⟨conn.file, conn.pending ++ [row], by
      have single : ([row].map key).Nodup := by simp
      rw [← List.append_assoc, List.map_append, List.nodup_append]
      refine ⟨conn.unique, single, ?_⟩
      intro stored member other last same
      simp only [List.map_cons, List.map_nil, List.mem_singleton] at last
      exact fresh.2 (last ▸ same ▸ member)⟩
  else
    none

/-- `executemany("INSERT ...", rows)`: the rows in order, up to the first that fails. The answer
says whether all were inserted.
-/
def executemany (allowed : ρ → Bool) (fault : SqlFault)
    : Connection κ ρ key → ℕ → List ρ → Connection κ ρ key × Bool
  | conn, _, [] => (conn, true)
  | conn, index, row :: rest =>
      match fault.atRow index with
      | some undone => (conn.undo undone, false)
      | none =>
          match conn.execute allowed row with
          | none => (conn, false)
          | some next => executemany allowed fault next (index + 1) rest

def insertAll (allowed : ρ → Bool) (conn : Connection κ ρ key) (rows : List ρ) (fault : SqlFault)
    : Connection κ ρ key × Bool :=
  if fault = .prepare then (conn, false)
  else
    match conn.executemany allowed fault 0 rows with
    | (next, false) => (next, false)
    | (next, true) =>
        match fault.atCommit with
        | some undone => (next.undo undone, false)
        | none => (next.commit, true)

/-- The rows can be inserted one after another: none breaks a constraint. -/
def Admits (allowed : ρ → Bool) (conn : Connection κ ρ key) (rows : List ρ) : Prop :=
  (∀ row ∈ rows, allowed row = true) ∧ ((conn.file.rows ++ (conn.pending ++ rows)).map key).Nodup

def extend {allowed : ρ → Bool} (conn : Connection κ ρ key) (rows : List ρ)
    (admitted : conn.Admits allowed rows)
    : Connection κ ρ key :=
  ⟨conn.file, conn.pending ++ rows, admitted.2⟩

-- What a call that inserts rows does

variable {allowed : ρ → Bool} {conn : Connection κ ρ key} {rows : List ρ} {fault : SqlFault}

omit [DecidableEq κ] in
@[simp]
theorem admits_nil (conn : Connection κ ρ key) : conn.Admits allowed [] :=
  ⟨by simp, by simpa using conn.unique⟩

omit [DecidableEq κ] in
@[simp]
theorem extend_nil (admitted : conn.Admits allowed []) : conn.extend [] admitted = conn := by
  cases conn
  simp [extend]

omit [DecidableEq κ] in
theorem Admits.left {more : List ρ} (admitted : conn.Admits allowed (rows ++ more))
    : conn.Admits allowed rows := by
  refine ⟨fun row member => admitted.1 row (by simp [member]), ?_⟩
  refine admitted.2.sublist (List.Sublist.map key ?_)
  exact (List.append_sublist_append_left _).mpr
    ((List.append_sublist_append_left _).mpr (List.sublist_append_left rows more))

omit [DecidableEq κ] in
theorem admits_append {more : List ρ} (admitted : conn.Admits allowed rows)
    : conn.Admits allowed (rows ++ more) ↔ (conn.extend rows admitted).Admits allowed more := by
  constructor
  · intro both
    exact ⟨fun row member => both.1 row (by simp [member]), by
      simpa [extend, List.append_assoc] using both.2⟩
  · intro second
    refine ⟨fun row member => ?_, by simpa [extend, List.append_assoc] using second.2⟩
    rcases List.mem_append.mp member with first | last
    · exact admitted.1 row first
    · exact second.1 row last

theorem execute_eq_some {row : ρ} (admitted : conn.Admits allowed [row])
    : conn.execute allowed row = some (conn.extend [row] admitted) := by
  have fresh : allowed row = true ∧ key row ∉ (conn.file.rows ++ conn.pending).map key := by
    refine ⟨admitted.1 row (by simp), ?_⟩
    intro taken
    have distinct := admitted.2
    rw [← List.append_assoc, List.map_append, List.nodup_append] at distinct
    exact distinct.2.2 _ taken _ (by simp) rfl
  simp only [execute, dif_pos fresh, extend]

theorem execute_eq_none {row : ρ} (refused : ¬ conn.Admits allowed [row])
    : conn.execute allowed row = none := by
  unfold execute
  split
  · rename_i fresh
    refine absurd ⟨by simpa using fresh.1, ?_⟩ refused
    rw [← List.append_assoc, List.map_append, List.nodup_append]
    refine ⟨conn.unique, by simp, ?_⟩
    intro stored member other last same
    simp only [List.map_cons, List.map_nil, List.mem_singleton] at last
    exact fresh.2 (last ▸ same ▸ member)
  · rfl

/-- Admitted rows whose statements meet no error are inserted, by induction on them. -/
theorem executemany_append (index : ℕ) (more : List ρ) (admitted : conn.Admits allowed rows)
    (passes : ∀ offset < rows.length, fault.atRow (index + offset) = none)
    : conn.executemany allowed fault index (rows ++ more)
      = (conn.extend rows admitted).executemany allowed fault (index + rows.length) more := by
  induction rows generalizing conn index with
  | nil => simp
  | cons row rest ih =>
      have both : conn.Admits allowed ([row] ++ rest) := admitted
      have head : conn.Admits allowed [row] := both.left
      have tail : (conn.extend [row] head).Admits allowed rest := (admits_append head).mp admitted
      have first : fault.atRow index = none := by simpa using passes 0 (by simp)
      have later : ∀ offset < rest.length, fault.atRow (index + 1 + offset) = none := by
        intro offset bound
        have passed := passes (offset + 1) (by simp [bound])
        rwa [show index + (offset + 1) = index + 1 + offset by omega] at passed
      have joined : (conn.extend [row] head).extend rest tail
          = conn.extend (row :: rest) admitted := by
        simp [extend]
      rw [List.cons_append, executemany, first, execute_eq_some head]
      simp only
      rw [ih (index + 1) tail later, joined]
      congr 1
      simp only [List.length_cons]
      omega

/-- The rows of a call: all inserted, or a first failing one after those that were. -/
inductive Insertion (allowed : ρ → Bool) (conn : Connection κ ρ key) (fault : SqlFault) (index : ℕ)
    (rows : List ρ)
    : Connection κ ρ key × Bool → Prop where
  | all (admitted : conn.Admits allowed rows)
      (passes : ∀ offset < rows.length, fault.atRow (index + offset) = none)
      : Insertion allowed conn fault index rows (conn.extend rows admitted, true)
  | failed {inserted : List ρ} {row : ρ} {rest : List ρ} {undone : Bool}
      (split : rows = inserted ++ row :: rest) (admitted : conn.Admits allowed inserted)
      (passes : ∀ offset < inserted.length, fault.atRow (index + offset) = none)
      (fails : fault.atRow (index + inserted.length) = some undone)
      : Insertion allowed conn fault index rows ((conn.extend inserted admitted).undo undone, false)
  | refused {inserted : List ρ} {row : ρ} {rest : List ρ}
      (split : rows = inserted ++ row :: rest) (admitted : conn.Admits allowed inserted)
      (passes : ∀ offset < inserted.length, fault.atRow (index + offset) = none)
      (quiet : fault.atRow (index + inserted.length) = none)
      (refuses : ¬ conn.Admits allowed (inserted ++ [row]))
      : Insertion allowed conn fault index rows (conn.extend inserted admitted, false)

/-- Every `executemany` is one of the three insertions. Witness: induction on the rows that remain
after those known to be inserted.
-/
theorem executemany_insertion (allowed : ρ → Bool) (conn : Connection κ ρ key) (fault : SqlFault)
    (index : ℕ) (rows : List ρ)
    : Insertion allowed conn fault index rows (conn.executemany allowed fault index rows) := by
  have grown : ∀ (more inserted : List ρ), conn.Admits allowed inserted
      → (∀ offset < inserted.length, fault.atRow (index + offset) = none)
      → Insertion allowed conn fault index (inserted ++ more)
        (conn.executemany allowed fault index (inserted ++ more)) := by
    intro more
    induction more with
    | nil =>
        intro inserted admitted passes
        rw [executemany_append index _ admitted passes, executemany]
        simp only [List.append_nil]
        exact .all admitted passes
    | cons row rest ih =>
        intro inserted admitted passes
        cases fails : fault.atRow (index + inserted.length) with
        | some undone =>
            rw [executemany_append index _ admitted passes, executemany, fails]
            exact .failed rfl admitted passes fails
        | none =>
            by_cases next : conn.Admits allowed (inserted ++ [row])
            · have longer : ∀ offset < (inserted ++ [row]).length,
                  fault.atRow (index + offset) = none := by
                intro offset bound
                rw [List.length_append, List.length_singleton] at bound
                rcases Nat.lt_succ_iff_lt_or_eq.mp bound with earlier | rfl
                · exact passes offset earlier
                · exact fails
              simpa using ih (inserted ++ [row]) next longer
            · have refuses := mt (admits_append admitted).mpr next
              rw [executemany_append index _ admitted passes, executemany, fails, execute_eq_none refuses]
              exact .refused rfl admitted passes fails next
  simpa using grown rows [] (admits_nil conn) (by simp)

/-- The call raises and leaves rows of its own in the open transaction: an error that the engine
does not answer with a rollback meets a later row than the first, or the commit.
-/
def LeavesRows (allowed : ρ → Bool) (conn : Connection κ ρ key) (rows : List ρ) (fault : SqlFault)
    : Prop :=
  fault ≠ .prepare
  ∧ ∃ inserted, inserted ≠ [] ∧ conn.Admits allowed inserted
    ∧ (∀ offset < inserted.length, fault.atRow offset = none)
    ∧ ((rows = inserted ∧ fault = .commit false)
      ∨ ∃ row rest, rows = inserted ++ row :: rest
        ∧ (fault.atRow inserted.length = some false
          ∨ (fault.atRow inserted.length = none ∧ ¬ conn.Admits allowed (inserted ++ [row]))))

theorem insertAll_of_leavesRows (leaves : conn.LeavesRows allowed rows fault)
    : (conn.insertAll allowed rows fault).2 = false
      ∧ ∃ inserted, inserted ≠ []
        ∧ (conn.insertAll allowed rows fault).1.pending = conn.pending ++ inserted := by
  obtain ⟨prepared, inserted, some, admitted, passes, ends⟩ := leaves
  have passed : ∀ offset < inserted.length, fault.atRow (0 + offset) = none := by
    simpa using passes
  have reached := fun more => executemany_append 0 more admitted passed
  rcases ends with ⟨rfl, rfl⟩ | ⟨row, rest, rfl, fails⟩
  · have whole : conn.executemany allowed (.commit false) 0 rows
        = (conn.extend rows admitted, true) := by
      simpa [executemany] using reached []
    simp only [insertAll, if_neg prepared, whole]
    exact ⟨rfl, rows, some, rfl⟩
  · simp only [insertAll, if_neg prepared, reached (row :: rest), Nat.zero_add]
    rcases fails with broken | ⟨quiet, refuses⟩
    · simp only [executemany, broken]
      exact ⟨trivial, inserted, some, rfl⟩
    · have refused := execute_eq_none (mt (admits_append admitted).mpr refuses)
      simp only [executemany, quiet, refused]
      exact ⟨trivial, inserted, some, rfl⟩

/-- How a call ends that found no open transaction: it returns and its rows are in the file, or
it raises and the file is as it was; rows are then pending only if the call leaves some.
-/
theorem insertAll_cases (allowed : ρ → Bool) (rows : List ρ) (fault : SqlFault)
    (clean : conn.pending = [])
    : ((conn.insertAll allowed rows fault).2 = true
        ∧ (conn.insertAll allowed rows fault).1.file.rows = conn.file.rows ++ rows
        ∧ (conn.insertAll allowed rows fault).1.pending = [])
      ∨ ((conn.insertAll allowed rows fault).2 = false
        ∧ (conn.insertAll allowed rows fault).1.file = conn.file
        ∧ ((conn.insertAll allowed rows fault).1.pending = []
          ∨ conn.LeavesRows allowed rows fault)) := by
  by_cases prepared : fault = .prepare
  · right
    simp [insertAll, prepared, clean]
  have ending := executemany_insertion allowed conn fault 0 rows
  simp only [insertAll, if_neg prepared]
  generalize conn.executemany allowed fault 0 rows = outcome at ending ⊢
  cases ending with
  | all admitted passes =>
      cases broken : fault.atCommit with
      | none =>
          left
          simp [commit, view, extend, clean]
      | some undone =>
          right
          refine ⟨rfl, by cases undone <;> rfl, ?_⟩
          cases undone with
          | true => exact .inl rfl
          | false =>
              have failing : fault = .commit false := by
                cases fault <;> simp_all [SqlFault.atCommit]
              rcases rows.eq_nil_or_concat with rfl | nonempty
              · exact .inl (by simpa [undo, extend] using clean)
              · refine .inr ⟨prepared, rows, ?_, admitted, by simpa using passes,
                  .inl ⟨rfl, failing⟩⟩
                obtain ⟨front, last, rfl⟩ := nonempty
                simp
  | @failed inserted row rest undone split admitted passes fails =>
      right
      refine ⟨rfl, by cases undone <;> rfl, ?_⟩
      cases undone with
      | true => exact .inl rfl
      | false =>
          by_cases none : inserted = []
          · subst none
            exact .inl (by simpa [undo, extend] using clean)
          · exact .inr ⟨prepared, inserted, none, admitted, by simpa using passes,
              .inr ⟨row, rest, split, .inl (by simpa using fails)⟩⟩
  | @refused inserted row rest split admitted passes quiet refuses =>
      right
      refine ⟨rfl, rfl, ?_⟩
      by_cases none : inserted = []
      · subst none
        exact .inl (by simpa [extend] using clean)
      · exact .inr ⟨prepared, inserted, none, admitted, by simpa using passes,
          .inr ⟨row, rest, split, .inr ⟨by simpa using quiet, refuses⟩⟩⟩

theorem insertAll_of_admits (admitted : conn.Admits allowed rows)
    : conn.insertAll allowed rows .none = ((conn.extend rows admitted).commit, true) := by
  have whole : conn.executemany allowed .none 0 rows = (conn.extend rows admitted, true) := by
    have quiet : ∀ offset < rows.length, SqlFault.none.atRow (0 + offset) = none := fun _ _ => rfl
    simpa [executemany] using executemany_append 0 [] admitted quiet
  simp [insertAll, whole, SqlFault.atCommit]

omit [DecidableEq κ] in
theorem admits_singleton {row : ρ}
    : conn.Admits allowed [row]
      ↔ allowed row = true ∧ key row ∉ (conn.file.rows ++ conn.pending).map key := by
  constructor
  · intro admitted
    refine ⟨admitted.1 row (by simp), fun taken => ?_⟩
    have distinct := admitted.2
    rw [← List.append_assoc, List.map_append, List.nodup_append] at distinct
    exact distinct.2.2 _ taken _ (by simp) rfl
  · intro ⟨checked, fresh⟩
    refine ⟨by simpa using checked, ?_⟩
    rw [← List.append_assoc, List.map_append, List.nodup_append]
    refine ⟨conn.unique, by simp, ?_⟩
    intro stored member other last same
    simp only [List.map_cons, List.map_nil, List.mem_singleton] at last
    exact fresh (last ▸ same ▸ member)

theorem insertAll_singleton {row : ρ}
    : (conn.insertAll allowed [row] fault).2 = true
      ↔ (fault ≠ .prepare ∧ fault.atRow 0 = none ∧ fault.atCommit = none)
        ∧ conn.Admits allowed [row] := by
  by_cases prepared : fault = .prepare
  · simp [insertAll, prepared]
  cases failing : fault.atRow 0 with
  | some undone => simp [insertAll, prepared, executemany, failing]
  | none =>
      by_cases admitted : conn.Admits allowed [row]
      · cases committing : fault.atCommit with
        | some undone =>
            simp [insertAll, prepared, executemany, failing, execute_eq_some admitted, committing]
        | none =>
            simp [insertAll, prepared, executemany, failing, execute_eq_some admitted, committing,
              admitted]
      · simp [insertAll, prepared, executemany, failing, execute_eq_none admitted, admitted]

/-- A call that returns has its rows stored behind everything that the connection saw. -/
theorem view_of_returned (returned : (conn.insertAll allowed rows fault).2 = true)
    : (conn.insertAll allowed rows fault).1.view.rows = conn.view.rows ++ rows := by
  have unprepared : fault ≠ .prepare := by
    intro prepared
    simp [insertAll, prepared] at returned
  have ending := executemany_insertion allowed conn fault 0 rows
  simp only [insertAll, if_neg unprepared] at returned ⊢
  generalize conn.executemany allowed fault 0 rows = outcome at ending returned ⊢
  cases ending with
  | all admitted passes =>
      cases committing : fault.atCommit with
      | none => simp [commit, view, extend, connect]
      | some undone => simp [committing] at returned
  | failed split admitted passes fails => simp at returned
  | refused split admitted passes quiet refuses => simp at returned

/-- Every row that the connection sees satisfies the column constraints. -/
def Checked (allowed : ρ → Bool) (conn : Connection κ ρ key) : Prop :=
  ∀ row ∈ conn.view.rows, allowed row = true

omit [DecidableEq κ] in
theorem Checked.rollback (checked : conn.Checked allowed) : conn.rollback.Checked allowed := by
  intro row member
  rw [Connection.rollback, view_connect] at member
  exact checked row (List.mem_append_left _ member)

omit [DecidableEq κ] in
theorem Checked.undo {undone : Bool} (checked : conn.Checked allowed)
    : (conn.undo undone).Checked allowed := by
  cases undone with
  | true => exact checked.rollback
  | false => exact checked

omit [DecidableEq κ] in
theorem Checked.extend (checked : conn.Checked allowed) (admitted : conn.Admits allowed rows)
    : (conn.extend rows admitted).Checked allowed := by
  intro row member
  simp only [Connection.view, Connection.extend, List.mem_append] at member
  rcases member with stored | pending | inserted
  · exact checked row (List.mem_append_left _ stored)
  · exact checked row (List.mem_append_right _ pending)
  · exact admitted.1 row inserted

/-- A call keeps the constraints, whether it returns or raises. -/
theorem Checked.insertAll (checked : conn.Checked allowed)
    : (conn.insertAll allowed rows fault).1.Checked allowed := by
  by_cases prepared : fault = .prepare
  · simpa [Connection.insertAll, prepared] using checked
  have ending := executemany_insertion allowed conn fault 0 rows
  simp only [Connection.insertAll, if_neg prepared]
  generalize conn.executemany allowed fault 0 rows = outcome at ending ⊢
  cases ending with
  | all admitted passes =>
      have grown := checked.extend admitted
      cases fault.atCommit with
      | none => simpa [Checked, commit] using grown
      | some undone => exact grown.undo
  | failed split admitted passes fails => exact (checked.extend admitted).undo
  | refused split admitted passes quiet refuses => exact checked.extend admitted

end Keyed
end Connection
end RomaBridge.Foundation
