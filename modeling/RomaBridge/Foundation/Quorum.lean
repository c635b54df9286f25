import Mathlib.Data.Finset.Card

/-! Votes and majorities. Where every voter votes for one candidate a term, a term has one winner.
-/

namespace RomaBridge.Foundation

/-- A vote for a candidate in a term. -/
structure Vote (ν τ : Type) where
  voter : ν
  term : τ
  candidate : ν
  deriving DecidableEq

variable {ν τ : Type} {members : Finset ν} {votes more : List (Vote ν τ)} {term : τ}
  {candidate other : ν}

def SingleVotes (votes : List (Vote ν τ)) : Prop :=
  ∀ first ∈ votes, ∀ second ∈ votes, first.voter = second.voter → first.term = second.term →
    first.candidate = second.candidate

def Wins (members : Finset ν) (votes : List (Vote ν τ)) (term : τ) (candidate : ν) : Prop :=
  ∃ quorum ⊆ members, members.card < 2 * quorum.card
    ∧ ∀ voter ∈ quorum, ⟨voter, term, candidate⟩ ∈ votes

theorem SingleVotes.vote (single : SingleVotes votes) {vote : Vote ν τ}
    (free : ∀ earlier ∈ votes, earlier.voter = vote.voter → earlier.term = vote.term →
      earlier.candidate = vote.candidate)
    : SingleVotes (vote :: votes) := by
  intro first memberFirst second memberSecond voter term
  rcases List.mem_cons.mp memberFirst with rfl | old
  · rcases List.mem_cons.mp memberSecond with rfl | old'
    · rfl
    · exact (free second old' voter.symm term.symm).symm
  · rcases List.mem_cons.mp memberSecond with rfl | old'
    · exact free first old voter term
    · exact single first old second old' voter term

theorem Wins.mono (wins : Wins members votes term candidate) (grown : votes ⊆ more)
    : Wins members more term candidate := by
  obtain ⟨quorum, within, majority, voted⟩ := wins
  exact ⟨quorum, within, majority, fun voter member => grown (voted voter member)⟩

/-- A term has one winner: two majorities share a voter. -/
theorem Wins.unique [DecidableEq ν] (single : SingleVotes votes)
    (wins : Wins members votes term candidate) (wins' : Wins members votes term other)
    : candidate = other := by
  obtain ⟨quorum, within, majority, voted⟩ := wins
  obtain ⟨quorum', within', majority', voted'⟩ := wins'
  have overlap : members.card < quorum.card + quorum'.card := by omega
  obtain ⟨voter, shared⟩ := Finset.inter_nonempty_of_card_lt_card_add_card within within' overlap
  rw [Finset.mem_inter] at shared
  exact single _ (voted voter shared.1) _ (voted' voter shared.2) rfl rfl

end RomaBridge.Foundation
