import RomaBridge.Model.Dispatcher

/-! Which object serves the questions about a job. The slot is replaced by every call under another
name, and status and cancel ask under the name of the environment.
-/

namespace RomaBridge.Properties

open RomaBridge RomaBridge.Foundation RomaBridge.Model.Dispatcher

variable (settings : Settings)

def ServedByOwn (visit : Visit Registry BackendCall Backend) : Prop :=
  ∀ jobId backend, visit.call.asksAbout = some jobId → visit.before.dispatched jobId = some backend →
    visit.reply = backend

/-- The object that dispatched the job is still the cached one, and under the name that the question
is asked with.
-/
def StillCached (registry : Registry) (call : BackendCall) : Prop :=
  ∀ jobId backend, call.asksAbout = some jobId → registry.dispatched jobId = some backend →
    registry.backend = some backend ∧ registry.backendName = currentName settings call.name

/-- No object has a number that is not given out yet. -/
structure ObjectsNumbered (registry : Registry) : Prop where
  cached : ∀ backend, registry.backend = some backend → backend.id < registry.next
  dispatched : ∀ jobId backend, registry.dispatched jobId = some backend →
    backend.id < registry.next

/-- `get_backend` returns the cached object under its name, and a new one otherwise. -/
theorem getBackend_cases (registry : Registry) (name : Option String)
    : (registry.backend = some (getBackend settings registry name).1
        ∧ registry.backendName = currentName settings name
        ∧ (getBackend settings registry name).2 = registry)
      ∨ ((∀ backend, registry.backend = some backend →
          registry.backendName ≠ currentName settings name)
        ∧ (getBackend settings registry name).1
          = ⟨registry.next, (selected settings (currentName settings name)).1⟩
        ∧ (getBackend settings registry name).2 = {
            backend := some (getBackend settings registry name).1
            backendName := (selected settings (currentName settings name)).2
            next := registry.next + 1
            dispatched := registry.dispatched
          }) := by
  cases hit : registry.backend.filter
      (fun _ => decide (registry.backendName = currentName settings name)) with
  | some backend =>
      have got : getBackend settings registry name = (backend, registry) := by
        simp only [getBackend, hit]
      obtain ⟨cached, same⟩ := Option.filter_eq_some_iff.mp hit
      rw [got]
      exact Or.inl ⟨cached, by simpa using same, rfl⟩
  | none =>
      have got : getBackend settings registry name
          = (⟨registry.next, (selected settings (currentName settings name)).1⟩,
            {
              backend := some ⟨registry.next, (selected settings (currentName settings name)).1⟩
              backendName := (selected settings (currentName settings name)).2
              next := registry.next + 1
              dispatched := registry.dispatched
            }) := by
        simp only [getBackend, hit]
      rw [got]
      refine Or.inr ⟨?_, rfl, rfl⟩
      intro backend cached same
      simp [cached, same] at hit

theorem serve_reply (registry : Registry) (call : BackendCall)
    : (serve settings registry call).1 = (getBackend settings registry call.name).1 := by
  cases call <;> rfl

theorem servedByOwn_iff {registry : Registry} (numbered : ObjectsNumbered registry) (call : BackendCall)
    : ServedByOwn ⟨registry, call, (serve settings registry call).1,
        (serve settings registry call).2⟩
      ↔ StillCached settings registry call := by
  unfold ServedByOwn StillCached
  refine forall₂_congr (fun jobId backend => ?_)
  refine imp_congr_right (fun _ => imp_congr_right (fun owner => ?_))
  dsimp only at owner ⊢
  rw [serve_reply]
  rcases getBackend_cases settings registry call.name with ⟨cached, same, -⟩ | ⟨missed, new, -⟩
  · rw [cached, Option.some.injEq]
    simp [same]
  · refine iff_of_false ?_ (fun still => missed backend still.1 still.2)
    intro served
    have known := numbered.dispatched jobId backend owner
    rw [← served, new] at known
    exact Nat.lt_irrefl _ known

theorem ObjectsNumbered.getBackend {registry : Registry} (numbered : ObjectsNumbered registry)
    (name : Option String)
    : ObjectsNumbered (Model.Dispatcher.getBackend settings registry name).2
      ∧ (Model.Dispatcher.getBackend settings registry name).1.id
        < (Model.Dispatcher.getBackend settings registry name).2.next := by
  rcases getBackend_cases settings registry name with ⟨cached, -, same⟩ | ⟨-, new, after⟩
  · rw [same]
    exact ⟨numbered, numbered.cached _ cached⟩
  · have given : (Model.Dispatcher.getBackend settings registry name).1.id = registry.next := by
      rw [new]
    rw [after]
    refine ⟨⟨?_, ?_⟩, ?_⟩
    · intro backend stored
      obtain rfl := Option.some.inj stored
      rw [given]
      exact Nat.lt_succ_self _
    · intro jobId backend owner
      exact Nat.lt_succ_of_lt (numbered.dispatched jobId backend owner)
    · rw [given]
      exact Nat.lt_succ_self _

theorem ObjectsNumbered.serve {registry : Registry} (numbered : ObjectsNumbered registry) (call : BackendCall)
    : ObjectsNumbered (Model.Dispatcher.serve settings registry call).2 := by
  obtain ⟨after, given⟩ := numbered.getBackend settings call.name
  cases call with
  | dispatchJob jobId backend =>
      refine ⟨after.cached, ?_⟩
      intro other owner dispatched
      by_cases same : other = jobId
      · subst same
        simp only [Model.Dispatcher.serve, Function.update_self] at dispatched
        obtain rfl := Option.some.inj dispatched
        exact given
      · simp only [Model.Dispatcher.serve, Function.update_of_ne same] at dispatched
        exact after.dispatched other owner dispatched
  | _ => exact after

theorem objectsNumbered_imported : ObjectsNumbered imported := by
  constructor
  · intro _ absent
    cases absent
  · intro _ _ absent
    cases absent

/-- Every object that dispatched a job is the cached one, under the name. -/
def OneObject (current : String) (registry : Registry) : Prop :=
  ∀ jobId owner, registry.dispatched jobId = some owner →
    registry.backend = some owner ∧ registry.backendName = current

theorem OneObject.serve {current : String} {registry : Registry}
    (one : OneObject current registry) (keyed : (selected settings current).2 = current)
    {call : BackendCall} (named : currentName settings call.name = current)
    : OneObject current (Model.Dispatcher.serve settings registry call).2 := by
  have got : OneObject current (getBackend settings registry call.name).2
      ∧ (getBackend settings registry call.name).2.backend
        = some (getBackend settings registry call.name).1
      ∧ (getBackend settings registry call.name).2.backendName = current := by
    rcases getBackend_cases settings registry call.name with ⟨cached, same, kept⟩ | ⟨missed, -, after⟩
    · rw [kept]
      exact ⟨one, cached, same.trans named⟩
    · rw [after, named]
      refine ⟨?_, rfl, keyed⟩
      intro jobId owner dispatched
      obtain ⟨stored, same⟩ := one jobId owner dispatched
      exact absurd (same.trans named.symm) (missed owner stored)
  obtain ⟨after, cached, name⟩ := got
  cases call with
  | dispatchJob jobId backend =>
      intro other owner dispatched
      by_cases same : other = jobId
      · subst same
        simp only [Model.Dispatcher.serve, Function.update_self] at dispatched
        exact ⟨cached.trans dispatched, name⟩
      · simp only [Model.Dispatcher.serve, Function.update_of_ne same] at dispatched
        exact after other owner dispatched
  | _ => exact after

/-- As long as all calls come to one name that keeps its object, every question about a job is served
by the object that dispatched it.
-/
theorem servedByOwn_of_one_name {current : String} (keyed : (selected settings current).2 = current)
    {calls : List BackendCall} (named : ∀ call ∈ calls, currentName settings call.name = current)
    : ∀ visit ∈ visits (serve settings) imported calls, ServedByOwn visit := by
  intro visit member jobId owner _ dispatched
  have nobody : OneObject current imported := by
    intro _ _ absent
    cases absent
  have kept : ∀ registry call, call ∈ calls → OneObject current registry →
      OneObject current (serve settings registry call).2 :=
    fun registry call inRun one => one.serve settings keyed (named call inRun)
  have one := (invariant_of_mem_visits (OneObject current) nobody kept member).1
  have called : visit.call ∈ calls := by
    rw [← map_call_visits (serve settings) imported calls]
    exact List.mem_map_of_mem member
  obtain ⟨stored, same⟩ := one jobId owner dispatched
  have served := congrArg Prod.fst (step_of_mem_visits member)
  rw [serve_reply] at served
  rcases getBackend_cases settings visit.before visit.call.name with ⟨cached, -⟩ | ⟨missed, -⟩
  · exact served.symm.trans (Option.some.inj (cached.symm.trans stored))
  · exact absurd (same.trans (named visit.call called).symm) (missed owner stored)

theorem servedByOwn_of_local
    : ∃ settings calls,
        (visits (serve settings) imported calls).length = 2
        ∧ ∀ visit ∈ visits (serve settings) imported calls, ServedByOwn visit :=
  ⟨⟨none, false, false, false⟩, [.dispatchJob "a" none, .getJobStatus "a"], rfl,
    @servedByOwn_of_one_name _ "local" rfl _ (by decide)⟩

/-- In every run of the calls, the questions about a job are served by the object that dispatched it
exactly when at each of them that object is still cached under the name of the question.
-/
theorem backendAffinity_iff (calls : List BackendCall)
    : (∀ visit ∈ visits (serve settings) imported calls, ServedByOwn visit)
      ↔ ∀ visit ∈ visits (serve settings) imported calls,
        StillCached settings visit.before visit.call := by
  have exact_ : ∀ registry call, ObjectsNumbered registry → True →
      (ServedByOwn ⟨registry, call, (serve settings registry call).1,
          (serve settings registry call).2⟩
        ↔ StillCached settings registry call) :=
    fun _ call numbered _ => servedByOwn_iff settings numbered call
  have preserved : ∀ registry call, ObjectsNumbered registry → True →
      StillCached settings registry call → ObjectsNumbered (serve settings registry call).2 :=
    fun _ call numbered _ _ => numbered.serve settings call
  exact throughout_iff exact_ preserved objectsNumbered_imported (fun _ _ => trivial)

/-- With a key and without `ROMA_EXECUTION_BACKEND`, a job that asked for `vastai` is polled at a
new local backend.
-/
theorem backendAffinity_lost
    : ∃ settings calls, ¬ ∀ visit ∈ visits (serve settings) imported calls, ServedByOwn visit := by
  refine ⟨⟨none, true, false, false⟩, [.dispatchJob "a" (some "vastai"), .getJobStatus "a"], ?_⟩
  intro own
  have polled := own _ (List.mem_cons_of_mem _ List.mem_cons_self) "a" ⟨0, .vastaiBackend⟩ rfl
    (by decide)
  exact absurd polled (by decide)

end RomaBridge.Properties
