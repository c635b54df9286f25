import RomaBridge.Foundation.Trace
import Mathlib.Data.List.Count

/-! Cells that are taken once: a write makes a cell live, with a value that replaces the old one,
and taking a cell returns its value and leaves nothing live. What is taken is counted over any
sequence of writes and takings.
-/

namespace RomaBridge.Foundation

variable {σ κ ν : Type} [DecidableEq κ]

/-- Cells under keys in a state of type `σ`. `live` is the value that the next taking gets. -/
structure SingleUseCells (σ κ ν : Type) [DecidableEq κ] where
  live : σ → κ → Option ν
  put : σ → κ → ν → σ
  take : σ → κ → Option ν × σ
  live_put : ∀ state key value,
    live (put state key value) = Function.update (live state) key (some value)
  fst_take : ∀ state key, (take state key).1 = live state key
  live_take : ∀ state key, live (take state key).2 = Function.update (live state) key none

inductive CellCall (κ ν : Type) where
  | put (key : κ) (value : ν)
  | take (key : κ)

namespace SingleUseCells

variable (cells : SingleUseCells σ κ ν)

def step (state : σ) : CellCall κ ν → Option ν × σ
  | .put key value => (none, cells.put state key value)
  | .take key => cells.take state key

def Clear (marked : ν → Bool) (state : σ) : Prop :=
  ∀ key value, cells.live state key = some value → marked value = false

def OnlyAt (marked : ν → Bool) (key : κ) (state : σ) : Prop :=
  ∀ other value, cells.live state other = some value → marked value = true → other = key

def Unmarked (marked : ν → Bool) : CellCall κ ν → Prop
  | .put _ value => marked value = false
  | .take _ => True

def takes (marked : ν → Bool) (visit : Visit σ (CellCall κ ν) (Option ν)) : Bool :=
  visit.reply.any marked

variable {cells} {marked : ν → Bool} {key : κ} {value : ν} {state : σ}

theorem live_put_cases {other : κ} {found : ν}
    (live : cells.live (cells.put state key value) other = some found)
    : (other = key ∧ found = value) ∨ (other ≠ key ∧ cells.live state other = some found) := by
  rw [cells.live_put] at live
  by_cases same : other = key
  · rw [same, Function.update_self] at live
    exact .inl ⟨same, (Option.some.inj live).symm⟩
  · rw [Function.update_of_ne same] at live
    exact .inr ⟨same, live⟩

theorem live_take_cases {other : κ} {found : ν}
    (live : cells.live (cells.take state key).2 other = some found)
    : other ≠ key ∧ cells.live state other = some found := by
  rw [cells.live_take] at live
  by_cases same : other = key
  · rw [same, Function.update_self] at live
    cases live
  · rw [Function.update_of_ne same] at live
    exact ⟨same, live⟩

theorem live_of_take (taken : (cells.take state key).1 = some value)
    : cells.live state key = some value :=
  (cells.fst_take state key).symm.trans taken

theorem Clear.step (clear : cells.Clear marked state) {call : CellCall κ ν}
    (plain : Unmarked marked call)
    : cells.Clear marked (cells.step state call).2 := by
  intro other found live
  cases call with
  | put key value =>
      rcases live_put_cases live with ⟨_, equal⟩ | ⟨_, earlier⟩
      · exact equal ▸ plain
      · exact clear other found earlier
  | take key => exact clear other found (live_take_cases live).2

theorem Clear.onlyAt_put (clear : cells.Clear marked state)
    : cells.OnlyAt marked key (cells.put state key value) := by
  intro other found live isMarked
  rcases live_put_cases live with ⟨same, _⟩ | ⟨_, earlier⟩
  · exact same
  · rw [clear other found earlier] at isMarked
    cases isMarked

theorem OnlyAt.step (only : cells.OnlyAt marked key state) {call : CellCall κ ν}
    (plain : Unmarked marked call)
    : cells.OnlyAt marked key (cells.step state call).2 := by
  intro other found live isMarked
  cases call with
  | put written value =>
      rcases live_put_cases live with ⟨_, equal⟩ | ⟨_, earlier⟩
      · have unmarked : marked found = false := equal ▸ plain
        rw [unmarked] at isMarked
        cases isMarked
      · exact only other found earlier isMarked
  | take taken => exact only other found (live_take_cases live).2 isMarked

theorem OnlyAt.clear_put (only : cells.OnlyAt marked key state) (plain : marked value = false)
    : cells.Clear marked (cells.put state key value) := by
  intro other found live
  rcases live_put_cases live with ⟨_, equal⟩ | ⟨apart, earlier⟩
  · exact equal ▸ plain
  · by_contra isMarked
    exact apart (only other found earlier (by simpa using isMarked))

theorem OnlyAt.clear_take (only : cells.OnlyAt marked key state) {taken : κ}
    (found : (cells.take state taken).1 = some value) (isMarked : marked value = true)
    : cells.Clear marked (cells.take state taken).2 := by
  have here := only taken value (live_of_take found) isMarked
  intro other kept live
  obtain ⟨apart, earlier⟩ := live_take_cases live
  by_contra keptMarked
  exact apart ((only other kept earlier (by simpa using keptMarked)).trans here.symm)

theorem Clear.takes_eq_false (clear : cells.Clear marked state) (call : CellCall κ ν)
    : ((cells.step state call).1.any marked) = false := by
  cases call with
  | put key value => rfl
  | take key =>
      change (cells.take state key).1.any marked = false
      rw [cells.fst_take]
      cases live : cells.live state key with
      | none => rfl
      | some value => exact clear key value live

theorem Clear.run {calls : List (CellCall κ ν)} (clear : cells.Clear marked state)
    (plain : ∀ call ∈ calls, Unmarked marked call)
    : cells.Clear marked (finalState cells.step state calls) := by
  induction calls generalizing state with
  | nil => exact clear
  | cons call rest ih =>
      exact ih (clear.step (plain call List.mem_cons_self))
        (fun call member => plain call (List.mem_cons_of_mem _ member))

theorem OnlyAt.run {calls : List (CellCall κ ν)} (only : cells.OnlyAt marked key state)
    (plain : ∀ call ∈ calls, Unmarked marked call)
    : cells.OnlyAt marked key (finalState cells.step state calls) := by
  induction calls generalizing state with
  | nil => exact only
  | cons call rest ih =>
      exact ih (only.step (plain call List.mem_cons_self))
        (fun call member => plain call (List.mem_cons_of_mem _ member))

theorem Clear.countP_takes {calls : List (CellCall κ ν)} (clear : cells.Clear marked state)
    (plain : ∀ call ∈ calls, Unmarked marked call)
    : (visits cells.step state calls).countP (takes marked) = 0 := by
  induction calls generalizing state with
  | nil => rfl
  | cons call rest ih =>
      have later := ih (clear.step (plain call List.mem_cons_self))
        (fun call member => plain call (List.mem_cons_of_mem _ member))
      have now : takes marked (⟨state, call, (cells.step state call).1, (cells.step state call).2⟩
          : Visit σ (CellCall κ ν) (Option ν)) = false :=
        clear.takes_eq_false call
      rw [visits, List.countP_cons_of_neg (by simp [now]), later]

theorem OnlyAt.countP_takes {calls : List (CellCall κ ν)} (only : cells.OnlyAt marked key state)
    (plain : ∀ call ∈ calls, Unmarked marked call)
    : (visits cells.step state calls).countP (takes marked) ≤ 1 := by
  induction calls generalizing state with
  | nil => simp [visits]
  | cons call rest ih =>
      have plainRest : ∀ call ∈ rest, Unmarked marked call :=
        fun call member => plain call (List.mem_cons_of_mem _ member)
      rw [visits, List.countP_cons]
      split
      · -- The marked value is taken by this call: nothing marked is left for the rest.
        rename_i taken
        have cleared : cells.Clear marked (cells.step state call).2 := by
          cases call with
          | put key value => cases taken
          | take other =>
              obtain ⟨value, found, isMarked⟩ := (Option.any_eq_true _ _).mp taken
              exact only.clear_take found isMarked
        have later := cleared.countP_takes plainRest
        omega
      · have later := ih (only.step (plain call List.mem_cons_self)) plainRest
        omega

/-- A marked value that is written once is taken at most once. Witness: before the write the state
is clear, and behind it only the written cell is marked.
-/
theorem Clear.countP_takes_le_one {past future : List (CellCall κ ν)}
    (clear : cells.Clear marked state) (before : ∀ call ∈ past, Unmarked marked call)
    (after : ∀ call ∈ future, Unmarked marked call)
    : (visits cells.step state (past ++ .put key value :: future)).countP (takes marked) ≤ 1 := by
  have only : cells.OnlyAt marked key
      (cells.step (finalState cells.step state past) (.put key value)).2 :=
    (clear.run before).onlyAt_put
  have earlier := clear.countP_takes before
  have later := only.countP_takes after
  rw [visits_append, List.countP_append, visits, List.countP_cons_of_neg (by simp [takes, SingleUseCells.step])]
  omega

theorem Clear.countP_takes_rewritten {past middle future : List (CellCall κ ν)} {next : ν}
    (clear : cells.Clear marked state) (key : κ) (value : ν) (before : ∀ call ∈ past, Unmarked marked call)
    (between : ∀ call ∈ middle, Unmarked marked call) (plain : marked next = false)
    (after : ∀ call ∈ future, Unmarked marked call)
    : (visits cells.step
        (finalState cells.step state (past ++ .put key value :: middle ++ [.put key next]))
        future).countP (takes marked) = 0 := by
  have only : cells.OnlyAt marked key
      (cells.step (finalState cells.step state past) (.put key value)).2 :=
    (clear.run before).onlyAt_put
  have cleared : cells.Clear marked
      (finalState cells.step state (past ++ .put key value :: middle ++ [.put key next])) := by
    rw [finalState_append, finalState_append]
    exact (only.run between).clear_put plain
  exact cleared.countP_takes after

theorem put_of_taken {calls : List (CellCall κ ν)} {visit : Visit σ (CellCall κ ν) (Option ν)}
    (member : visit ∈ visits cells.step state calls) (call : visit.call = .take key)
    (taken : visit.reply = some value)
    : cells.live state key = some value ∨ .put key value ∈ calls := by
  induction calls generalizing state with
  | nil => simp [visits] at member
  | cons first rest ih =>
      simp only [visits, List.mem_cons] at member
      rcases member with rfl | later
      · subst call
        exact .inl (live_of_take taken)
      · rcases ih later with live | written
        · cases first with
          | put other written =>
              rcases live_put_cases live with ⟨rfl, rfl⟩ | ⟨_, earlier⟩
              · exact .inr List.mem_cons_self
              · exact .inl earlier
          | take other => exact .inl (live_take_cases live).2
        · exact .inr (List.mem_cons_of_mem _ written)

end SingleUseCells
end RomaBridge.Foundation
