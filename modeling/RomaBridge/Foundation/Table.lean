import Mathlib.Data.List.Nodup
import Mathlib.Data.List.Count

/-! Tables with a primary key, as lists of rows without a repeated key.
The key constraint is a field of the table, so every insert and update carries its proof and
no reader of a table has to re-establish it.
-/

namespace RomaBridge.Foundation

/-- An entry of a list with one place replaced is the new value or an old one elsewhere. -/
theorem getElem?_set_cases {β : Type} {list : List β} {index k : ℕ} {new found : β}
    (at' : (list.set index new)[k]? = some found)
    : (k = index ∧ found = new) ∨ (k ≠ index ∧ list[k]? = some found) := by
  rw [List.getElem?_set] at at'
  split at at'
  · rename_i same
    split at at'
    · exact Or.inl ⟨same.symm, (Option.some.inj at').symm⟩
    · cases at'
  · rename_i other
    exact Or.inr ⟨Ne.symm other, at'⟩

/-- An entry that differs from the one at a place stays when that place is replaced. -/
theorem getElem?_set_of_ne {β : Type} {list : List β} {index k : ℕ} {old entry : β}
    (replaced : list[index]? = some old) (at_ : list[k]? = some entry) (differs : entry ≠ old)
    (new : β)
    : (list.set index new)[k]? = some entry := by
  have elsewhere : index ≠ k := by
    rintro rfl
    exact differs (Option.some.inj (at_.symm.trans replaced))
  rwa [List.getElem?_set_ne elsewhere]

theorem forall_mem_set {β : Type} {P : β → Prop} {list : List β} (all : ∀ entry ∈ list, P entry)
    (index : ℕ) {new : β} (sound : P new)
    : ∀ entry ∈ list.set index new, P entry := by
  intro entry member
  rcases List.mem_or_eq_of_mem_set member with old | rfl
  · exact all entry old
  · exact sound

theorem set_same {β : Type} {list : List β} {index : ℕ} {entry : β}
    (found : list[index]? = some entry)
    : list.set index entry = list := by
  obtain ⟨bound, rfl⟩ := List.getElem?_eq_some_iff.mp found
  exact List.set_getElem_self bound

theorem getElem?_append_some {β : Type} {list : List β} {index : ℕ} {entry : β}
    (found : list[index]? = some entry) (more : List β)
    : (list ++ more)[index]? = some entry := by
  rw [List.getElem?_append_left (List.getElem?_eq_some_iff.mp found).1, found]

theorem getElem?_append_cases {β : Type} {list : List β} {index : ℕ} {new entry : β}
    (found : (list ++ [new])[index]? = some entry)
    : list[index]? = some entry ∨ (index = list.length ∧ entry = new) := by
  rcases Nat.lt_trichotomy index list.length with before | same | after
  · rw [List.getElem?_append_left before] at found
    exact Or.inl found
  · subst same
    rw [List.getElem?_concat_length] at found
    exact Or.inr ⟨rfl, (Option.some.inj found).symm⟩
  · rw [List.getElem?_eq_none (by simp; omega)] at found
    cases found

/-- A list without repetitions whose elements are all equal has at most one element. -/
theorem length_le_one_of_nodup {α : Type} {list : List α} (distinct : list.Nodup)
    (same : ∀ left ∈ list, ∀ right ∈ list, left = right)
    : list.length ≤ 1 := by
  match list with
  | [] => simp
  | [_] => simp
  | first :: second :: rest =>
      have equal := same first (by simp) second (by simp)
      simp [equal] at distinct

/-- A stored relation: rows in insertion order, no two of them under one key. -/
structure Table (κ ρ : Type) (key : ρ → κ) where
  rows : List ρ
  unique : (rows.map key).Nodup

namespace Table

variable {κ ρ : Type} {key : ρ → κ}

def empty : Table κ ρ key := ⟨[], by simp⟩

/-- The rows satisfying `selected` are rewritten; a rewrite may not touch the key. -/
def update (table : Table κ ρ key) (selected : ρ → Bool) (write : ρ → ρ)
    (keeps : ∀ row, key (write row) = key row)
    : Table κ ρ key where
  rows := table.rows.map (fun row => if selected row then write row else row)
  unique := by
    have same : (table.rows.map (fun row => if selected row then write row else row)).map key
        = table.rows.map key := by
      rw [List.map_map]
      apply List.map_congr_left
      intro row _
      simp only [Function.comp]
      split
      · exact keeps row
      · rfl
    rw [same]
    exact table.unique

theorem eq_of_key {table : Table κ ρ key} {left right : ρ} (l : left ∈ table.rows)
    (r : right ∈ table.rows) (same : key left = key right)
    : left = right :=
  List.inj_on_of_nodup_map table.unique l r same

section Keyed

variable [DecidableEq κ]

def find? (table : Table κ ρ key) (k : κ) : Option ρ :=
  table.rows.find? (fun row => key row = k)

/-- `INSERT ... ON CONFLICT DO NOTHING`: `none` when the key is taken. -/
def insert? (table : Table κ ρ key) (row : ρ) : Option (Table κ ρ key) :=
  if fresh : key row ∉ table.rows.map key then
    some ⟨table.rows ++ [row], by
      rw [List.map_append, List.nodup_append]
      refine ⟨table.unique, by simp, ?_⟩
      intro stored member other single same
      simp only [List.map_cons, List.map_nil, List.mem_singleton] at single
      exact fresh (single ▸ same ▸ member)⟩
  else
    none

theorem find?_some {table : Table κ ρ key} {k : κ} {row : ρ} (found : table.find? k = some row)
    : row ∈ table.rows ∧ key row = k :=
  ⟨List.mem_of_find?_eq_some found, by simpa using List.find?_some found⟩

theorem find?_none {table : Table κ ρ key} {k : κ}
    : table.find? k = none ↔ ∀ row ∈ table.rows, key row ≠ k := by
  simp [find?, List.find?_eq_none]

theorem find?_of_mem {table : Table κ ρ key} {row : ρ} (member : row ∈ table.rows)
    : table.find? (key row) = some row := by
  cases found : table.find? (key row) with
  | none => exact absurd rfl (find?_none.mp found row member)
  | some other =>
      obtain ⟨stored, same⟩ := find?_some found
      exact congrArg some (List.inj_on_of_nodup_map table.unique stored member same)

theorem find?_of_key {table : Table κ ρ key} {row : ρ} {k : κ} (member : row ∈ table.rows)
    (same : key row = k) : table.find? k = some row :=
  same ▸ find?_of_mem member

/-- Membership and lookup are two readings of one table. -/
theorem mem_rows_iff {table : Table κ ρ key} {row : ρ}
    : row ∈ table.rows ↔ table.find? (key row) = some row :=
  ⟨find?_of_mem, fun found => (find?_some found).1⟩

@[simp]
theorem find?_empty (k : κ) : (empty : Table κ ρ key).find? k = none := rfl

/-- An update rewrites exactly the found row, by induction on the stored rows. -/
theorem find?_update (table : Table κ ρ key) (selected : ρ → Bool) (write : ρ → ρ)
    (keeps : ∀ row, key (write row) = key row) (k : κ)
    : (table.update selected write keeps).find? k
      = (table.find? k).map (fun row => if selected row then write row else row) := by
  simp only [find?, update, List.find?_map]
  congr 2
  funext row
  simp only [Function.comp]
  split
  · rw [keeps]
  · rfl

theorem insert?_eq_none {table : Table κ ρ key} {row : ρ}
    : table.insert? row = none ↔ (table.find? (key row)).isSome := by
  unfold insert?
  constructor
  · intro refused
    split at refused
    · cases refused
    · rename_i taken
      rw [not_not, List.mem_map] at taken
      obtain ⟨stored, member, same⟩ := taken
      rw [← same, find?_of_mem member]
      rfl
  · intro stored
    obtain ⟨found, eq⟩ := Option.isSome_iff_exists.mp stored
    obtain ⟨member, same⟩ := find?_some eq
    have taken : key row ∈ table.rows.map key := List.mem_map.mpr ⟨found, member, same⟩
    simp [taken]

theorem insert?_eq_some {table next : Table κ ρ key} {row : ρ}
    (inserted : table.insert? row = some next)
    : next.rows = table.rows ++ [row] ∧ table.find? (key row) = none := by
  have absent : table.find? (key row) = none := by
    by_contra stored
    have refused := insert?_eq_none.mpr (Option.isSome_iff_ne_none.mpr stored)
    rw [inserted] at refused
    cases refused
  refine ⟨?_, absent⟩
  unfold insert? at inserted
  split at inserted
  · exact (Option.some.inj inserted) ▸ rfl
  · cases inserted

/-- A successful insert adds one lookup and keeps all others. -/
theorem find?_of_insert? {table next : Table κ ρ key} {row : ρ}
    (inserted : table.insert? row = some next) (k : κ)
    : next.find? k = if key row = k then some row else table.find? k := by
  obtain ⟨rows, absent⟩ := insert?_eq_some inserted
  unfold find? at absent ⊢
  rw [rows, List.find?_append]
  by_cases same : key row = k
  · subst same
    simp [absent]
  · simp [same, Option.or]
    cases table.rows.find? (fun row => key row = k) <;> rfl

theorem find?_insert?_of_some {table next : Table κ ρ key} {row stored : ρ} {k : κ}
    (inserted : table.insert? row = some next)
    (found : table.find? k = some stored)
    : next.find? k = some stored := by
  rw [find?_of_insert? inserted, if_neg, found]
  intro same
  obtain ⟨-, absent⟩ := insert?_eq_some inserted
  rw [same, found] at absent
  cases absent

/-- The number of rows a statement selects (`cursor.rowcount`). -/
def count (table : Table κ ρ key) (selected : ρ → Bool) : Nat := table.rows.countP selected

theorem count_eq_zero_iff {table : Table κ ρ key} {selected : ρ → Bool} {k : κ}
    (only : ∀ row, selected row = true → key row = k)
    : table.count selected = 0 ↔ ∀ row, table.find? k = some row → selected row = false := by
  unfold count
  rw [List.countP_eq_zero]
  constructor
  · intro none row found
    simpa using none row (find?_some found).1
  · intro missed row member chosen
    have found : table.find? k = some row := only row chosen ▸ find?_of_mem member
    simp [missed row found] at chosen

omit [DecidableEq κ] in
theorem count_update (table : Table κ ρ key) (selected : ρ → Bool) (write : ρ → ρ)
    {counted : ρ → Bool} (keeps : ∀ row, key (write row) = key row)
    (same : ∀ row, counted (write row) = counted row)
    : (table.update selected write keeps).count counted = table.count counted := by
  simp only [count, update, List.countP_map]
  congr 1
  funext row
  simp only [Function.comp]
  split
  · exact same row
  · rfl

/-- `table[key] = row`: the row of that key is replaced in place, or the row is appended. -/
def put (table : Table κ ρ key) (row : ρ) : Table κ ρ key :=
  if fresh : key row ∉ table.rows.map key then
    ⟨table.rows ++ [row], by
      rw [List.map_append, List.nodup_append]
      refine ⟨table.unique, by simp, ?_⟩
      intro stored member other single same
      simp only [List.map_cons, List.map_nil, List.mem_singleton] at single
      exact fresh (single ▸ same ▸ member)⟩
  else
    ⟨table.rows.map (fun stored => if key stored = key row then row else stored), by
      have same : (table.rows.map (fun stored => if key stored = key row then row else stored)).map
          key = table.rows.map key := by
        rw [List.map_map]
        apply List.map_congr_left
        intro stored _
        simp only [Function.comp]
        split
        · rename_i equal
          exact equal.symm
        · rfl
      rw [same]
      exact table.unique⟩

@[simp]
theorem find?_put (table : Table κ ρ key) (row : ρ) (k : κ)
    : (table.put row).find? k = if key row = k then some row else table.find? k := by
  unfold put
  split
  · rename_i fresh
    have absent : table.find? (key row) = none := by
      rw [find?_none]
      intro stored member same
      exact fresh (List.mem_map.mpr ⟨stored, member, same⟩)
    unfold find? at absent ⊢
    rw [List.find?_append]
    by_cases same : key row = k
    · subst same
      simp [absent]
    · simp [same]
  · rename_i taken
    rw [not_not, List.mem_map] at taken
    obtain ⟨old, member, oldKey⟩ := taken
    simp only [find?, List.find?_map]
    have keyOf : ∀ stored : ρ, key (if key stored = key row then row else stored) = key stored := by
      intro stored
      split
      · rename_i equal
        exact equal.symm
      · rfl
    simp only [Function.comp_def, keyOf]
    by_cases same : key row = k
    · subst same
      have found : table.rows.find? (fun stored => key stored = key row) = some old := by
        have stored := find?_of_mem member
        rwa [find?, oldKey] at stored
      simp [found, oldKey]
    · rw [if_neg same]
      cases found : table.rows.find? (fun stored => key stored = k) with
      | none => rfl
      | some stored =>
          have storedKey : key stored = k := by simpa using List.find?_some found
          simp [storedKey, Ne.symm same]

/-- After an assignment the rows are the new one and the old ones of other keys. -/
theorem mem_put {table : Table κ ρ key} {row stored : ρ}
    : stored ∈ (table.put row).rows ↔ stored = row ∨ stored ∈ table.rows ∧ key stored ≠ key row := by
  rw [mem_rows_iff, find?_put]
  by_cases same : key row = key stored
  · rw [if_pos same, Option.some.injEq]
    constructor
    · exact fun equal => .inl equal.symm
    · intro either
      rcases either with equal | ⟨_, different⟩
      · exact equal.symm
      · exact absurd same.symm different
  · rw [if_neg same, ← mem_rows_iff]
    constructor
    · exact fun old => .inr ⟨old, fun equal => same equal.symm⟩
    · intro either
      rcases either with rfl | ⟨old, _⟩
      · exact absurd rfl same
      · exact old

theorem rows_put_of_nil {table : Table κ ρ key} (none_ : table.rows = []) (row : ρ)
    : (table.put row).rows = [row] := by
  unfold put
  simp [none_]

/-- Only the rows satisfying `kept` stay. -/
def keep (table : Table κ ρ key) (kept : ρ → Bool) : Table κ ρ key where
  rows := table.rows.filter kept
  unique := table.unique.sublist (List.filter_sublist.map key)

@[simp]
theorem find?_keep (table : Table κ ρ key) (kept : ρ → Bool) (k : κ)
    : (table.keep kept).find? k = (table.find? k).filter kept := by
  cases found : table.find? k with
  | none =>
      rw [Option.filter_none, find?_none]
      intro row member
      exact find?_none.mp found row (List.mem_filter.mp member).1
  | some row =>
      obtain ⟨member, same⟩ := find?_some found
      by_cases passes : kept row = true
      · rw [Option.filter_some_pos passes, ← same]
        exact find?_of_mem (List.mem_filter.mpr ⟨member, passes⟩)
      · rw [Option.filter_some_neg (by simpa using passes), find?_none]
        intro other otherMember otherKey
        obtain ⟨stored, otherPasses⟩ := List.mem_filter.mp otherMember
        have equal : other = row := eq_of_key stored member (otherKey.trans same.symm)
        exact passes (equal ▸ otherPasses)

end Keyed
end Table
end RomaBridge.Foundation
