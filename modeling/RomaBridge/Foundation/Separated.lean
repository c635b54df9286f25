import Mathlib.Data.List.TakeWhile

/-! Lists of two parts with a separator between them, cut at its first or at its last occurrence. -/

namespace RomaBridge.Foundation

variable {α : Type} {sep : α} {front front' back back' : List α}

/-- The parts are determined by the whole when the separator is not in the front. -/
theorem append_sep_inj_left [DecidableEq α] (lacks : sep ∉ front) (lacks' : sep ∉ front')
    : front ++ sep :: back = front' ++ sep :: back' ↔ front = front' ∧ back = back' := by
  constructor
  · intro same
    have others : ∀ {part : List α}, sep ∉ part → ∀ item ∈ part, (item ≠ sep : Bool) = true := by
      intro part lacking item member
      exact decide_eq_true (fun equal => lacking (equal ▸ member))
    have fronts := congrArg (List.takeWhile (fun item => (item ≠ sep : Bool))) same
    rw [List.takeWhile_append_of_pos (others lacks),
      List.takeWhile_append_of_pos (others lacks')] at fronts
    simp only [ne_eq, not_true_eq_false, decide_false, Bool.false_eq_true, not_false_eq_true,
      List.takeWhile_cons_of_neg, List.append_nil] at fronts
    subst fronts
    exact ⟨rfl, by simpa using same⟩
  · rintro ⟨rfl, rfl⟩
    rfl

/-- The parts are determined by the whole when the separator is not in the back. -/
theorem append_sep_inj_right [DecidableEq α] (lacks : sep ∉ back) (lacks' : sep ∉ back')
    : front ++ sep :: back = front' ++ sep :: back' ↔ front = front' ∧ back = back' := by
  constructor
  · intro same
    have turned := congrArg List.reverse same
    simp only [List.reverse_append, List.reverse_cons, List.append_assoc, List.cons_append,
      List.nil_append] at turned
    obtain ⟨backs, fronts⟩ := (append_sep_inj_left (by simpa) (by simpa)).mp turned
    exact ⟨List.reverse_inj.mp fronts, List.reverse_inj.mp backs⟩
  · rintro ⟨rfl, rfl⟩
    rfl

/-- What stands before the last separator, or all of it where there is none. -/
def beforeLast [DecidableEq α] (sep : α) (items : List α) : List α :=
  if sep ∈ items then (items.reverse.dropWhile (· ≠ sep)).tail.reverse else items

theorem beforeLast_append [DecidableEq α] (lacks : sep ∉ back)
    : beforeLast sep (front ++ sep :: back) = front := by
  have others : ∀ item ∈ back.reverse, (item ≠ sep : Bool) = true := by
    intro item member
    exact decide_eq_true (fun equal => lacks (equal ▸ List.mem_reverse.mp member))
  rw [beforeLast, if_pos (by simp), List.reverse_append, List.reverse_cons, List.append_assoc,
    List.dropWhile_append_of_pos others]
  simp

theorem exists_last_sep [DecidableEq α] {items : List α} (has : sep ∈ items)
    : ∃ front back, items = front ++ sep :: back ∧ sep ∉ back := by
  induction items with
  | nil => cases has
  | cons item rest ih =>
      by_cases later : sep ∈ rest
      · obtain ⟨front, back, rfl, lacks⟩ := ih later
        exact ⟨item :: front, back, rfl, lacks⟩
      · have same : sep = item := (List.mem_cons.mp has).resolve_right later
        exact ⟨[], rest, by rw [same]; rfl, later⟩

end RomaBridge.Foundation
