import Mathlib.Data.List.Induction

/-! Copies of shared data that carry the date they were taken at. A date is a place in the log of
what happened, a copy is current as long as nothing behind its date touched the data, and what is
known since the last event of a kind is read off the end of the log.
-/

namespace RomaBridge.Foundation

variable {ε : Type} {touches stops other : ε → Bool} {log : List ε} {date : ℕ} {event : ε}

def Current (touches : ε → Bool) (log : List ε) (date : ℕ) : Prop :=
  ∀ event ∈ log.drop date, touches event = false

theorem current_snoc (dated : date ≤ log.length)
    : Current touches (log ++ [event]) date ↔ Current touches log date ∧ touches event = false := by
  unfold Current
  rw [List.drop_append_of_le_length dated]
  simp only [List.mem_append, List.mem_singleton]
  constructor
  · intro current
    exact ⟨fun earlier member => current earlier (.inl member), current event (.inr rfl)⟩
  · intro ⟨current, untouched⟩ later member
    rcases member with member | rfl
    · exact current later member
    · exact untouched

def since (stops : ε → Bool) (log : List ε) : List ε :=
  log.foldl (fun kept event => if stops event then [] else kept ++ [event]) []

@[simp]
theorem since_nil (stops : ε → Bool) : since stops [] = [] := rfl

/-- One more event starts anew, or is the latest of those kept. -/
theorem since_snoc (stops : ε → Bool) (log : List ε) (event : ε)
    : since stops (log ++ [event]) = if stops event then [] else since stops log ++ [event] := by
  simp [since, List.foldl_append]

theorem since_snoc_of_not (quiet : stops event = false)
    : since stops (log ++ [event]) = since stops log ++ [event] := by
  rw [since_snoc, quiet]
  rfl

theorem since_snoc_of_stops (stopped : stops event = true) : since stops (log ++ [event]) = [] := by
  rw [since_snoc, stopped]
  rfl

/-- When nothing since the last stop is of another kind, what happened since that stop happened
since the last event of the other kind. Induction on the log.
-/
theorem mem_since_of_quiet (quiet : ∀ event ∈ since stops log, other event = false)
    (member : event ∈ since stops log)
    : event ∈ since other log := by
  induction log using List.reverseRecOn with
  | nil => simp at member
  | append_singleton log last ih =>
      rw [since_snoc] at quiet member
      split at member
      · simp at member
      · rename_i going
        rw [if_neg going] at quiet
        have latest := quiet last (by simp)
        rw [since_snoc_of_not latest]
        rcases List.mem_append.mp member with earlier | new
        · refine List.mem_append_left _ (ih ?_ earlier)
          exact fun event member => quiet event (List.mem_append_left _ member)
        · exact List.mem_append_right _ new

def lastOf (stops : ε → Bool) (log : List ε) : Option ε :=
  log.foldl (fun kept event => if stops event then some event else kept) none

theorem lastOf_snoc (stops : ε → Bool) (log : List ε) (event : ε)
    : lastOf stops (log ++ [event]) = if stops event then some event else lastOf stops log := by
  simp [lastOf, List.foldl_append]

def Throughout (right : List ε → ε → Prop) (log : List ε) : Prop :=
  ∀ before event after, log = before ++ event :: after → right before event

theorem throughout_nil (right : List ε → ε → Prop) : Throughout right [] := by
  intro before event after split
  simp at split

theorem Throughout.snoc {right : List ε → ε → Prop} (all : Throughout right log)
    (last : right log event)
    : Throughout right (log ++ [event]) := by
  intro before later after split
  rcases after.eq_nil_or_concat with rfl | ⟨front, end_, rfl⟩
  · obtain ⟨rfl, same⟩ := List.append_inj' split rfl
    obtain rfl := (List.cons.inj same).1
    exact last
  · rw [List.concat_eq_append, ← List.cons_append, ← List.append_assoc] at split
    obtain ⟨rfl, _⟩ := List.append_inj' split rfl
    exact all before later front rfl

end RomaBridge.Foundation
