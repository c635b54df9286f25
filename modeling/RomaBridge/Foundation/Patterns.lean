import Mathlib.Data.List.Infix

/-! Search patterns: alternatives of sequences, each of single items, optional ones and runs. -/

namespace RomaBridge.Foundation

variable {α : Type}

inductive Piece (α : Type) where
  | one (test : α → Bool)
  | opt (test : α → Bool)
  | star (test : α → Bool)

/-- A sequence matches at the start of a text, for some choice of its optional parts and runs. -/
def matchesStart : List (Piece α) → List α → Bool
  | [], _ => true
  | .one _ :: _, [] => false
  | .one test :: rest, item :: text => test item && matchesStart rest text
  | .opt _ :: rest, [] => matchesStart rest []
  | .opt test :: rest, item :: text =>
      matchesStart rest (item :: text) || (test item && matchesStart rest text)
  | .star test :: rest, text =>
      (List.range ((text.takeWhile test).length + 1)).any fun count =>
        matchesStart rest (text.drop count)

def searchPattern (alternatives : List (List (Piece α))) (text : List α) : Bool :=
  text.tails.any fun rest => alternatives.any (matchesStart · rest)

/-- A text that matches has an item for each single one of the sequence. Induction on the sequence. -/
theorem exists_of_matchesStart {pieces : List (Piece α)} {text : List α} {test : α → Bool}
    (found : matchesStart pieces text = true) (member : .one test ∈ pieces)
    : ∃ item ∈ text, test item = true := by
  induction pieces generalizing text with
  | nil => cases member
  | cons piece rest ih =>
      cases piece with
      | one first =>
          cases text with
          | nil => cases found
          | cons item text =>
              obtain ⟨here, later⟩ := Bool.and_eq_true_iff.mp found
              rcases List.mem_cons.mp member with same | member
              · cases same
                exact ⟨item, List.mem_cons_self .., here⟩
              · obtain ⟨other, there, holds⟩ := ih later member
                exact ⟨other, List.mem_cons_of_mem _ there, holds⟩
      | opt first =>
          have member : .one test ∈ rest := (List.mem_cons.mp member).resolve_left (by simp)
          cases text with
          | nil => exact ih found member
          | cons item text =>
              rcases Bool.or_eq_true_iff.mp found with skipped | taken
              · exact ih skipped member
              · obtain ⟨other, there, holds⟩ := ih (Bool.and_eq_true_iff.mp taken).2 member
                exact ⟨other, List.mem_cons_of_mem _ there, holds⟩
      | star run =>
          have member : .one test ∈ rest := (List.mem_cons.mp member).resolve_left (by simp)
          obtain ⟨count, -, later⟩ := List.any_eq_true.mp found
          obtain ⟨other, there, holds⟩ := ih later member
          exact ⟨other, List.mem_of_mem_drop there, holds⟩

theorem searchPattern_eq_false {alternatives : List (List (Piece α))} {text : List α}
    (lacks : ∀ pieces ∈ alternatives, ∃ test, .one test ∈ pieces ∧ ∀ item ∈ text, test item = false)
    : searchPattern alternatives text = false := by
  rw [← Bool.not_eq_true]
  intro found
  obtain ⟨rest, suffix, found⟩ := List.any_eq_true.mp found
  obtain ⟨pieces, member, found⟩ := List.any_eq_true.mp found
  obtain ⟨test, single, refused⟩ := lacks pieces member
  obtain ⟨item, there, holds⟩ := exists_of_matchesStart found single
  rw [refused item (((List.mem_tails _ _).mp suffix).subset there)] at holds
  cases holds

end RomaBridge.Foundation
