import Mathlib.Data.List.Basic

/-! Objects that answer one call at a time: what a sequence of calls visits.
A visit keeps the state before a call, its reply and the state after it, so that a statement
about every call of every sequence is a statement about the members of a list.
-/

namespace RomaBridge.Foundation

variable {σ α ρ : Type}

/-- One call of a sequence: the state it found, its reply and the state it left. -/
structure Visit (σ α ρ : Type) where
  before : σ
  call : α
  reply : ρ
  after : σ

def visits (step : σ → α → ρ × σ) (state : σ) : List α → List (Visit σ α ρ)
  | [] => []
  | call :: rest =>
      ⟨state, call, (step state call).1, (step state call).2⟩
        :: visits step (step state call).2 rest

def finalState (step : σ → α → ρ × σ) (state : σ) (calls : List α) : σ :=
  calls.foldl (fun current call => (step current call).2) state

theorem visits_append (step : σ → α → ρ × σ) (state : σ) (first second : List α)
    : visits step state (first ++ second)
      = visits step state first ++ visits step (finalState step state first) second := by
  induction first generalizing state with
  | nil => rfl
  | cons call rest ih => simp [visits, finalState, ih]

/-- Every visit is one step of the object. Witness: induction on the calls. -/
theorem step_of_mem_visits {step : σ → α → ρ × σ} {state : σ} {calls : List α}
    {visit : Visit σ α ρ} (member : visit ∈ visits step state calls)
    : step visit.before visit.call = (visit.reply, visit.after) := by
  induction calls generalizing state with
  | nil => simp [visits] at member
  | cons call rest ih =>
      simp only [visits, List.mem_cons] at member
      rcases member with rfl | later
      · rfl
      · exact ih later

theorem invariant_of_mem_visits {step : σ → α → ρ × σ} (Inv : σ → Prop) {state : σ}
    {calls : List α} (initial : Inv state)
    (preserved : ∀ current call, call ∈ calls → Inv current → Inv (step current call).2)
    {visit : Visit σ α ρ} (member : visit ∈ visits step state calls)
    : Inv visit.before ∧ Inv visit.after := by
  induction calls generalizing state with
  | nil => simp [visits] at member
  | cons call rest ih =>
      have next := preserved state call (by simp) initial
      simp only [visits, List.mem_cons] at member
      rcases member with rfl | later
      · exact ⟨initial, next⟩
      · exact ih next
          (fun current call member holds => preserved current call (by simp [member]) holds) later

/-- What holds at first and is preserved by every step taken holds before and after every visit, and
in the final state. What a step needs may depend on the state it finds.
-/
theorem invariant_of_allowed {step : σ → α → ρ × σ} (Inv : σ → Prop) (Allowed : σ → α → Prop)
    (preserved : ∀ current call, Inv current → Allowed current call → Inv (step current call).2)
    {state : σ} {calls : List α} (initial : Inv state)
    (allowed : ∀ visit ∈ visits step state calls, Allowed visit.before visit.call)
    : (∀ visit ∈ visits step state calls, Inv visit.before ∧ Inv visit.after)
      ∧ Inv (finalState step state calls) := by
  induction calls generalizing state with
  | nil => exact ⟨by simp [visits], initial⟩
  | cons call rest ih =>
      have next := preserved state call initial (allowed _ List.mem_cons_self)
      obtain ⟨visited, final⟩ := ih next
        (fun visit member => allowed visit (List.mem_cons_of_mem _ member))
      refine ⟨?_, final⟩
      intro visit member
      simp only [visits, List.mem_cons] at member
      rcases member with rfl | later
      · exact ⟨initial, next⟩
      · exact visited visit later

/-- When each step from a good state is right exactly when it is allowed, a sequence is right
throughout exactly when all its steps are allowed. `Inv` holds whether they are or not. Induction
on the calls.
-/
theorem right_throughout_iff {step : σ → α → ρ × σ} {Inv Good : σ → Prop} {Legal : α → Prop}
    {Right : Visit σ α ρ → Prop} {Allowed : σ → α → Prop}
    (preserved : ∀ current call, Legal call → Inv current → Inv (step current call).2)
    (exact_ : ∀ current call, Legal call → Inv current → Good current →
      ((Good (step current call).2
          ∧ Right ⟨current, call, (step current call).1, (step current call).2⟩)
        ↔ Allowed current call))
    {state : σ} {calls : List α} (legal : ∀ call ∈ calls, Legal call) (inv : Inv state)
    (good : Good state)
    : (∀ visit ∈ visits step state calls, Good visit.after ∧ Right visit)
      ↔ ∀ visit ∈ visits step state calls, Allowed visit.before visit.call := by
  induction calls generalizing state with
  | nil => simp [visits]
  | cons call rest ih =>
      have legalRest : ∀ call ∈ rest, Legal call :=
        fun call member => legal call (List.mem_cons_of_mem _ member)
      have next := preserved state call (legal call List.mem_cons_self) inv
      have first := exact_ state call (legal call List.mem_cons_self) inv good
      simp only [visits, List.forall_mem_cons]
      constructor
      · intro ⟨right, later⟩
        exact ⟨first.mp right, (ih legalRest next right.1).mp later⟩
      · intro ⟨allowed, later⟩
        have right := first.mpr allowed
        exact ⟨right, (ih legalRest next right.1).mpr later⟩

theorem throughout_iff {step : σ → α → ρ × σ} {Good : σ → Prop} {Legal Allowed : σ → α → Prop}
    {Right : Visit σ α ρ → Prop}
    (exact_ : ∀ current call, Good current → Legal current call →
      (Right ⟨current, call, (step current call).1, (step current call).2⟩ ↔ Allowed current call))
    (preserved : ∀ current call, Good current → Legal current call → Allowed current call →
      Good (step current call).2)
    {state : σ} {calls : List α} (good : Good state)
    (legal : ∀ visit ∈ visits step state calls, Legal visit.before visit.call)
    : (∀ visit ∈ visits step state calls, Right visit)
      ↔ ∀ visit ∈ visits step state calls, Allowed visit.before visit.call := by
  induction calls generalizing state with
  | nil => simp [visits]
  | cons call rest ih =>
      simp only [visits, List.forall_mem_cons] at legal ⊢
      have first := exact_ state call good legal.1
      constructor
      · intro ⟨right, later⟩
        have allowed := first.mp right
        have next := preserved state call good legal.1 allowed
        exact ⟨allowed, (ih next legal.2).mp later⟩
      · intro ⟨allowed, later⟩
        have next := preserved state call good legal.1 allowed
        exact ⟨first.mpr allowed, (ih next legal.2).mpr later⟩

theorem finalState_append (step : σ → α → ρ × σ) (state : σ) (first second : List α)
    : finalState step state (first ++ second)
      = finalState step (finalState step state first) second := by
  simp [finalState]

/-- When a step keeps a property exactly when it is allowed, what holds of the final state held at
the start and at every step. Induction on the calls.
-/
theorem finalState_iff {step : σ → α → ρ × σ} {Good : σ → Prop} (P : σ → Prop)
    (Allowed : σ → α → Prop)
    (good_step : ∀ current call, Good current → Good (step current call).2)
    (kept : ∀ current call, Good current →
      (P (step current call).2 ↔ P current ∧ Allowed current call))
    {state : σ} (good : Good state) (calls : List α)
    : P (finalState step state calls)
      ↔ P state ∧ ∀ visit ∈ visits step state calls, Allowed visit.before visit.call := by
  induction calls generalizing state with
  | nil => simp [finalState, visits]
  | cons call rest ih =>
      have later := ih (good_step state call good)
      rw [kept state call good, and_assoc] at later
      simpa [finalState, visits] using later

theorem finalState_log {ε : Type} {step : List ε → α → ρ × List ε}
    {entry : Visit (List ε) α ρ → Option ε}
    (appends : ∀ log call, (step log call).2
      = log ++ (entry ⟨log, call, (step log call).1, (step log call).2⟩).toList)
    (log : List ε) (calls : List α)
    : finalState step log calls = log ++ (visits step log calls).filterMap entry := by
  induction calls generalizing log with
  | nil => simp [finalState, visits]
  | cons call rest ih =>
      have next := ih (step log call).2
      simp only [visits, List.filterMap_cons]
      calc finalState step log (call :: rest)
          = finalState step (step log call).2 rest := rfl
        _ = (step log call).2 ++ (visits step (step log call).2 rest).filterMap entry := next
        _ = log ++ ((entry ⟨log, call, (step log call).1, (step log call).2⟩).toList
              ++ (visits step (step log call).2 rest).filterMap entry) := by
            rw [← List.append_assoc, ← appends log call]
        _ = _ := by
            cases entry ⟨log, call, (step log call).1, (step log call).2⟩ with
            | none => rfl
            | some first => rfl

theorem length_filterMap_le {ε β : Type} {left owed : β → Option ε} {items : List β}
    (isOwed : ∀ item ∈ items, ∀ entry, left item = some entry → owed item = some entry)
    : (items.filterMap left).length ≤ (items.filterMap owed).length := by
  induction items with
  | nil => simp
  | cons item rest ih =>
      rw [List.forall_mem_cons] at isOwed
      have bound := ih isOwed.2
      cases found : left item with
      | some entry =>
          rw [List.filterMap_cons_some found, List.filterMap_cons_some (isOwed.1 entry found)]
          simpa using bound
      | none =>
          rw [List.filterMap_cons_none found]
          cases due : owed item with
          | none =>
              rw [List.filterMap_cons_none due]
              exact bound
          | some entry =>
              rw [List.filterMap_cons_some due, List.length_cons]
              omega

/-- Entries that are all owed are the owed ones exactly when no item lacks its own. Induction on the
items.
-/
theorem filterMap_eq_owed_iff {ε β : Type} {left owed : β → Option ε} {items : List β}
    (isOwed : ∀ item ∈ items, ∀ entry, left item = some entry → owed item = some entry)
    : items.filterMap left = items.filterMap owed ↔ ∀ item ∈ items, left item = owed item := by
  induction items with
  | nil => simp
  | cons item rest ih =>
      rw [List.forall_mem_cons] at isOwed
      rw [List.forall_mem_cons, ← ih isOwed.2]
      cases found : left item with
      | some entry =>
          rw [List.filterMap_cons_some found, List.filterMap_cons_some (isOwed.1 entry found),
            isOwed.1 entry found]
          simp
      | none =>
          rw [List.filterMap_cons_none found]
          cases due : owed item with
          | none =>
              rw [List.filterMap_cons_none due]
              simp
          | some entry =>
              rw [List.filterMap_cons_some due]
              refine iff_of_false ?_ (by simp)
              intro same
              have lengths := congrArg List.length same
              have bound := length_filterMap_le isOwed.2
              rw [List.length_cons] at lengths
              omega

theorem visits_split {step : σ → α → ρ × σ} {state : σ} {calls : List α}
    {earlier later : List (Visit σ α ρ)} {visit : Visit σ α ρ}
    (split : visits step state calls = earlier ++ visit :: later)
    : ∃ past future, calls = past ++ visit.call :: future
      ∧ earlier = visits step state past ∧ visit.before = finalState step state past := by
  induction earlier generalizing state calls with
  | nil =>
      cases calls with
      | nil => simp [visits] at split
      | cons call rest =>
          simp only [visits, List.nil_append, List.cons.injEq] at split
          obtain ⟨rfl, _⟩ := split
          exact ⟨[], rest, rfl, rfl, rfl⟩
  | cons first middle ih =>
      cases calls with
      | nil => simp [visits] at split
      | cons call rest =>
          simp only [visits, List.cons_append, List.cons.injEq] at split
          obtain ⟨rfl, remaining⟩ := split
          obtain ⟨past, future, rfl, rfl, found⟩ := ih remaining
          exact ⟨call :: past, future, rfl, rfl, found⟩

theorem forall_visits_concat {step : σ → α → ρ × σ} {state : σ} {P : Visit σ α ρ → Prop}
    (calls : List α) (call : α)
    : (∀ visit ∈ visits step state (calls ++ [call]), P visit)
      ↔ (∀ visit ∈ visits step state calls, P visit)
        ∧ P ⟨finalState step state calls, call, (step (finalState step state calls) call).1,
          (step (finalState step state calls) call).2⟩ := by
  simp only [visits_append, visits, List.forall_mem_append, List.forall_mem_singleton]

theorem forall_visits_iff {step : σ → α → ρ × σ} {state : σ} {calls : List α} (P : σ → α → Prop)
    : (∀ visit ∈ visits step state calls, P visit.before visit.call)
      ↔ ∀ past call future, calls = past ++ call :: future →
        P (finalState step state past) call := by
  constructor
  · rintro all past call future rfl
    rw [visits_append] at all
    exact all _ (List.mem_append_right _ List.mem_cons_self)
  · intro all visit member
    obtain ⟨earlier, later, split⟩ := List.append_of_mem member
    obtain ⟨past, future, split, -, found⟩ := visits_split split
    rw [found]
    exact all past visit.call future split

theorem split_concat {items past future : List α} {last item : α}
    (split : items ++ [last] = past ++ item :: future)
    : future = [] ∨ ∃ front, future = front ++ [last] ∧ items = past ++ item :: front := by
  rcases List.eq_nil_or_concat future with rfl | ⟨front, final, rfl⟩
  · exact Or.inl rfl
  · rw [List.concat_eq_append] at split ⊢
    have whole : items ++ [last] = (past ++ item :: front) ++ [final] := by simpa using split
    obtain ⟨same, ends⟩ := List.append_inj' whole rfl
    rw [List.singleton_inj] at ends
    subst ends
    exact Or.inr ⟨front, rfl, same⟩

theorem finalState_of_mem_visits {step : σ → α → ρ × σ} (P : σ → Prop)
    (stable : ∀ current call, P current → P (step current call).2) {state : σ} {calls : List α}
    {visit : Visit σ α ρ} (member : visit ∈ visits step state calls) (holds : P visit.after)
    : P (finalState step state calls) := by
  have lasts : ∀ (rest : List α) (current : σ), P current → P (finalState step current rest) := by
    intro rest
    induction rest with
    | nil => exact fun _ holds => holds
    | cons call rest ih => exact fun current holds => ih _ (stable current call holds)
  induction calls generalizing state with
  | nil => simp [visits] at member
  | cons call rest ih =>
      simp only [visits, List.mem_cons] at member
      rcases member with rfl | later
      · exact lasts rest _ holds
      · exact ih later

theorem map_call_visits (step : σ → α → ρ × σ) (state : σ) (calls : List α)
    : (visits step state calls).map Visit.call = calls := by
  induction calls generalizing state with
  | nil => rfl
  | cons call rest ih => simp [visits, ih]

/-- An object whose steps leave the states of another one's ends where that one does. -/
theorem finalState_map {α' ρ' : Type} {step : σ → α → ρ × σ} {step' : σ → α' → ρ' × σ}
    {translate : α → α'}
    (same : ∀ current call, (step current call).2 = (step' current (translate call)).2)
    (state : σ) (calls : List α)
    : finalState step state calls = finalState step' state (calls.map translate) := by
  induction calls generalizing state with
  | nil => rfl
  | cons call rest ih =>
      have next := ih (step state call).2
      rw [same state call] at next
      simpa [finalState, same state call] using next

/-- The visits of an object whose steps leave the states of another one's are those of that one,
with its replies. Induction on the calls.
-/
theorem visits_map {α' ρ' : Type} {step : σ → α → ρ × σ} {step' : σ → α' → ρ' × σ}
    {translate : α → α'}
    (same : ∀ current call, (step current call).2 = (step' current (translate call)).2)
    (state : σ) (calls : List α)
    : visits step' state (calls.map translate)
      = (visits step state calls).map (fun visit => ⟨visit.before, translate visit.call,
          (step' visit.before (translate visit.call)).1, visit.after⟩) := by
  induction calls generalizing state with
  | nil => rfl
  | cons call rest ih =>
      have later := ih (step state call).2
      simp only [visits, List.map_cons, ← same state call, later]

theorem update_some_cases {β : Type} {phases : ℕ → Option β} {moved other : ℕ} {new phase : β}
    (found : Function.update phases moved (some new) other = some phase)
    : other = moved ∧ phase = new ∨ other ≠ moved ∧ phases other = some phase := by
  by_cases own : other = moved
  · subst own
    rw [Function.update_self, Option.some.injEq] at found
    exact .inl ⟨rfl, found.symm⟩
  · rw [Function.update_of_ne own] at found
    exact .inr ⟨own, found⟩

/-- Identifiers that differ in length. -/
def lengthUuid (index : ℕ) : String := String.ofList (List.replicate index 'u')

theorem lengthUuid_injective : Function.Injective lengthUuid := by
  intro left right same
  have lengths := congrArg String.length same
  simpa [lengthUuid] using lengths

end RomaBridge.Foundation
