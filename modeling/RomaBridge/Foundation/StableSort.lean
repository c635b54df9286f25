import Mathlib.Data.List.Sort

/-! Filtering and splitting lists sorted by insertion: equal rows keep the order in which they were
stored, so a filter may be taken before or after the sort.
-/

namespace RomaBridge.Foundation

variable {α : Type} {r : α → α → Prop} [DecidableRel r]

theorem orderedInsert_front {element : α} {list : List α} (below : ∀ other ∈ list, r element other)
    : list.orderedInsert r element = element :: list := by
  cases list with
  | nil => rfl
  | cons head rest => exact List.orderedInsert_cons_of_le r rest (below head (by simp))

/-- A filter commutes with an insertion into a sorted list, by induction on the list. -/
theorem filter_orderedInsert [IsTrans α r] {kept : α → Bool} {element : α} {list : List α}
    (sorted : list.Pairwise r)
    : (list.orderedInsert r element).filter kept
      = if kept element then (list.filter kept).orderedInsert r element else list.filter kept := by
  induction list with
  | nil => cases keeps : kept element <;> simp [keeps]
  | cons head rest ih =>
      have later := List.pairwise_cons.mp sorted
      by_cases below : r element head
      · have front : ∀ other ∈ (head :: rest).filter kept, r element other := by
          intro other member
          rcases List.mem_cons.mp (List.mem_of_mem_filter member) with rfl | behind
          · exact below
          · exact IsTrans.trans element head other below (later.1 other behind)
        rw [List.orderedInsert_cons_of_le r rest below, orderedInsert_front front,
          List.filter_cons]
      · rw [List.orderedInsert_of_not_le r rest below, List.filter_cons, ih later.2,
          List.filter_cons]
        cases keepsHead : kept head with
        | false => rfl
        | true =>
            cases keeps : kept element with
            | false => rfl
            | true => simp [below]

/-- A filter may be taken before or after the sort, by induction on the list. -/
theorem filter_insertionSort [Std.Total r] [IsTrans α r] (kept : α → Bool) (list : List α)
    : (list.insertionSort r).filter kept = (list.filter kept).insertionSort r := by
  induction list with
  | nil => rfl
  | cons element rest ih =>
      rw [List.insertionSort_cons, filter_orderedInsert (List.pairwise_insertionSort r rest), ih,
        List.filter_cons]
      cases kept element <;> rfl

theorem insertionSort_concat [IsTrans α r] {element : α} {list : List α} (sorted : list.Pairwise r)
    : (list ++ [element]).insertionSort r
      = list.filter (fun other => r other element)
        ++ element :: list.filter (fun other => !decide (r other element)) := by
  induction list with
  | nil => rfl
  | cons head rest ih =>
      have later := List.pairwise_cons.mp sorted
      rw [List.cons_append, List.insertionSort_cons, ih later.2]
      by_cases before : r head element
      · rw [List.filter_cons_of_pos (by simpa using before),
          List.filter_cons_of_neg (by simpa using before)]
        refine orderedInsert_front fun other member => ?_
        rcases List.mem_append.mp member with kept | behind
        · exact later.1 other (List.mem_of_mem_filter kept)
        · rcases List.mem_cons.mp behind with rfl | kept
          · exact before
          · exact later.1 other (List.mem_of_mem_filter kept)
      · have none : rest.filter (fun other => r other element) = [] := by
          rw [List.filter_eq_nil_iff]
          intro other member
          have behind := later.1 other member
          simpa using fun fits => before (IsTrans.trans head other element behind fits)
        rw [List.filter_cons_of_neg (by simpa using before),
          List.filter_cons_of_pos (by simpa using before), none, List.nil_append, List.nil_append,
          List.orderedInsert_of_not_le r _ before]
        exact congrArg _ (orderedInsert_front
          fun other member => later.1 other (List.mem_of_mem_filter member))

theorem filter_split {key : α → ℤ} {list : List α}
    (sorted : list.Pairwise (fun left right => key left ≤ key right)) (cut : ℤ)
    : list.filter (fun row => key row ≤ cut) ++ list.filter (fun row => cut < key row) = list := by
  induction list with
  | nil => rfl
  | cons head rest ih =>
      have later := List.pairwise_cons.mp sorted
      by_cases below : key head ≤ cut
      · rw [List.filter_cons_of_pos (by simpa using below),
          List.filter_cons_of_neg (by simpa using below), List.cons_append, ih later.2]
      · have none : rest.filter (fun row => key row ≤ cut) = [] := by
          rw [List.filter_eq_nil_iff]
          intro row member
          have above := later.1 row member
          simp only [decide_eq_true_eq]
          omega
        have whole := ih later.2
        rw [none, List.nil_append] at whole
        rw [List.filter_cons_of_neg (by simpa using below), none, List.nil_append,
          List.filter_cons_of_pos (by simpa using below), whole]

end RomaBridge.Foundation
