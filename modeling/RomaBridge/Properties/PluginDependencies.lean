import RomaBridge.Model.Plugins

/-! Calls of the plugin manager one after another: which of them return, and keep a loaded plugin's
dependencies loaded.
-/

namespace RomaBridge.Properties

open RomaBridge RomaBridge.Foundation RomaBridge.Model.Plugins

variable {manager : Manager} {name : String} {state : PluginState} {plugin : Plugin}
  {dependencies : List String}

def DependenciesHold (manager : Manager) : Prop :=
  ∀ plugin ∈ manager.registry.rows, plugin.state.isLoaded = true →
    ∀ dependency ∈ plugin.dependencies, ∃ other, manager.plugin? dependency = some other
      ∧ (other.state.isLoaded = true ∨ other.state = .disabled)

def CallKeepsDependencies (visit : Visit Manager PluginCall Reply) : Prop :=
  visit.reply ≠ .hangs ∧ DependenciesHold visit.after

def LoadedIn (manager : Manager) (name : String) : Prop :=
  ∃ plugin, manager.plugin? name = some plugin ∧ plugin.state.isLoaded = true

/-- The dependencies that stand before the first one that is not registered. -/
def resolvable (manager : Manager) (dependencies : List String) : List String :=
  dependencies.takeWhile (fun dependency => (manager.plugin? dependency).isSome)

/-- What a load needs of a plugin that is not loaded and not in error: its dependencies before the
first unregistered one are loaded, and if it fails, no loaded plugin depends on it.
-/
def LoadKeeps (manager : Manager) (name : String) (imports : Bool) : Prop :=
  ∀ plugin, manager.plugin? name = some plugin → plugin.state.isLoaded = false →
    plugin.state ≠ .error →
    (∀ dependency ∈ resolvable manager plugin.dependencies, LoadedIn manager dependency)
    ∧ ((imports = false ∨ ∃ dependency ∈ plugin.dependencies, manager.plugin? dependency = none) →
      manager.hasLoadedDependent name = false)

def KeepsDependencies (manager : Manager) : PluginCall → Prop
  | .register _ _ => True
  | .load name imports => LoadKeeps manager name imports
  | .enable name imports enables =>
      LoadKeeps manager name imports
      ∧ (enables = false → ∀ plugin, manager.plugin? name = some plugin →
        (plugin.state = .loaded ∨ (plugin.state.isLoaded = false ∧ plugin.state ≠ .error
          ∧ imports = true ∧ ∀ dependency ∈ plugin.dependencies, LoadedIn manager dependency)) →
        manager.hasLoadedDependent name = false)
  | .disable name disables =>
      disables = false → ∀ plugin, manager.plugin? name = some plugin → plugin.state = .enabled →
        manager.hasLoadedDependent name = false
  | .unload name _ =>
      ∀ plugin, manager.plugin? name = some plugin → plugin.state ≠ .enabled
  | .update name _ _ _ _ => manager.plugin? name = none

-- The lock and the states

theorem withLock_of_locked (body : Manager → Reply × Manager) (locked : manager.locked = true)
    : withLock body manager = (.hangs, manager) := by
  simp [withLock, locked]

theorem withLock_of_free (body : Manager → Reply × Manager) (free : manager.locked = false)
    : (withLock body manager).1 = (body { manager with locked := true }).1
      ∧ (withLock body manager).2.registry = (body { manager with locked := true }).2.registry
      ∧ ((withLock body manager).1 ≠ .hangs → (withLock body manager).2.locked = false) := by
  simp only [withLock, free, Bool.false_eq_true, if_false]
  split
  · rename_i hung
    exact ⟨hung.symm, rfl, fun returned => absurd rfl returned⟩
  · exact ⟨rfl, rfl, fun _ => rfl⟩

theorem plugin?_setState (manager : Manager) (name other : String) (state : PluginState)
    : (manager.setState name state).plugin? other
      = (manager.plugin? other).map (fun plugin =>
        if other = name then { plugin with state } else plugin) := by
  unfold Manager.plugin? Manager.setState
  rw [Table.find?_update]
  cases found : manager.registry.find? other with
  | none => rfl
  | some plugin =>
      have key : plugin.name = other := (Table.find?_some found).2
      simp [key]

theorem mem_rows_iff_plugin? (manager : Manager) (plugin : Plugin)
    : plugin ∈ manager.registry.rows ↔ manager.plugin? plugin.name = some plugin :=
  Table.mem_rows_iff

theorem dependenciesHold_iff (manager : Manager)
    : DependenciesHold manager
      ↔ ∀ name plugin, manager.plugin? name = some plugin → plugin.state.isLoaded = true →
        ∀ dependency ∈ plugin.dependencies, ∃ other, manager.plugin? dependency = some other
          ∧ (other.state.isLoaded = true ∨ other.state = .disabled) := by
  constructor
  · intro hold name plugin found
    exact hold plugin (Table.find?_some found).1
  · intro hold plugin member
    exact hold plugin.name plugin ((mem_rows_iff_plugin? manager plugin).mp member)

theorem hasLoadedDependent_eq_false_iff (manager : Manager) (name : String)
    : manager.hasLoadedDependent name = false
      ↔ ∀ other plugin, manager.plugin? other = some plugin → other ≠ name →
        name ∈ plugin.dependencies → plugin.state.isLoaded = false := by
  unfold Manager.hasLoadedDependent
  rw [List.any_eq_false]
  constructor
  · intro none_ other plugin found distinct depends
    obtain ⟨member, key⟩ := Table.find?_some found
    have no := none_ plugin member
    simpa [key, distinct, depends] using no
  · intro none_ plugin member
    have found := (mem_rows_iff_plugin? manager plugin).mp member
    simp only [Bool.and_eq_true, decide_eq_true_eq, List.contains_iff_mem, not_and,
      Bool.not_eq_true]
    intro ⟨distinct, depends⟩
    exact none_ plugin.name plugin found distinct depends

theorem DependenciesHold.setState (hold : DependenciesHold manager)
    (serves : state.isLoaded = true ∨ state = .disabled)
    (own : state.isLoaded = true → ∀ plugin, manager.plugin? name = some plugin →
      ∀ dependency ∈ plugin.dependencies, ∃ other, manager.plugin? dependency = some other
        ∧ (other.state.isLoaded = true ∨ other.state = .disabled))
    : DependenciesHold (manager.setState name state) := by
  rw [dependenciesHold_iff] at hold ⊢
  intro other plugin found isLoaded dependency depends
  rw [plugin?_setState] at found
  obtain ⟨before, stored, rfl⟩ := Option.map_eq_some_iff.mp found
  have served : ∃ target, manager.plugin? dependency = some target
      ∧ (target.state.isLoaded = true ∨ target.state = .disabled) := by
    by_cases same : other = name
    · subst same
      simp only [if_true] at isLoaded depends
      exact own isLoaded before stored dependency depends
    · simp only [if_neg same] at isLoaded depends
      exact hold other before stored isLoaded dependency depends
  obtain ⟨target, registered, ready⟩ := served
  rw [plugin?_setState, registered]
  by_cases same : dependency = name
  · exact ⟨{ target with state }, by simp [same], serves⟩
  · exact ⟨target, by simp [same], ready⟩

theorem dependenciesHold_setState_iff (hold : DependenciesHold manager)
    (registered : manager.plugin? name = some plugin)
    (useless : state.isLoaded = false ∧ state ≠ .disabled)
    : DependenciesHold (manager.setState name state) ↔ manager.hasLoadedDependent name = false := by
  rw [dependenciesHold_iff] at hold ⊢
  rw [hasLoadedDependent_eq_false_iff]
  constructor
  · intro kept other dependent found distinct depends
    by_contra isLoaded
    have stored : (manager.setState name state).plugin? other = some dependent := by
      rw [plugin?_setState, found]
      simp [distinct]
    obtain ⟨target, known, ready⟩ :=
      kept other dependent stored (by simpa using isLoaded) name depends
    rw [plugin?_setState, registered] at known
    simp only [Option.map_some, if_true, Option.some.injEq] at known
    rw [← known] at ready
    rcases ready with serves | serves
    · simp [useless.1] at serves
    · exact useless.2 serves
  · intro none_ other dependent found isLoaded dependency depends
    rw [plugin?_setState] at found
    obtain ⟨before, stored, rfl⟩ := Option.map_eq_some_iff.mp found
    by_cases same : other = name
    · subst same
      simp [useless.1] at isLoaded
    · simp only [if_neg same] at isLoaded depends
      obtain ⟨target, known, ready⟩ := hold other before stored isLoaded dependency depends
      have different : dependency ≠ name := by
        intro itself
        subst itself
        rw [none_ other before stored same depends] at isLoaded
        cases isLoaded
      exact ⟨target, by rw [plugin?_setState, known]; simp [different], ready⟩

theorem dependenciesHold_setError_iff (hold : DependenciesHold manager)
    (registered : manager.plugin? name = some plugin)
    : DependenciesHold (manager.setState name .error) ↔ manager.hasLoadedDependent name = false :=
  dependenciesHold_setState_iff hold registered ⟨rfl, by simp⟩

theorem setState_setState (manager : Manager) (name : String) (first second : PluginState)
    : (manager.setState name first).setState name second = manager.setState name second := by
  simp only [Manager.setState, Table.update, List.map_map, Manager.mk.injEq, Table.mk.injEq,
    and_true]
  refine List.map_congr_left ?_
  intro plugin _
  by_cases same : plugin.name = name
  · simp [same]
  · simp [same]

-- Loading

/-- The loop sees of a dependency whether it is registered and loaded. Induction on the
dependencies.
-/
theorem resolve_congr {first second : Manager} (dependencies : List String)
    (same : ∀ name, (first.plugin? name).map (fun plugin => plugin.state.isLoaded)
      = (second.plugin? name).map (fun plugin => plugin.state.isLoaded))
    : resolve first dependencies = resolve second dependencies := by
  induction dependencies with
  | nil => rfl
  | cons dependency rest ih =>
      have here := same dependency
      unfold resolve
      cases left : first.plugin? dependency with
      | none =>
          cases right : second.plugin? dependency with
          | none => rfl
          | some other => simp [left, right] at here
      | some plugin =>
          cases right : second.plugin? dependency with
          | none => simp [left, right] at here
          | some other =>
              have states : plugin.state.isLoaded = other.state.isLoaded := by
                simpa [left, right] using here
              simp only [states, ih]

/-- What the loop comes to, by the dependencies before the first unregistered one. Induction on the
dependencies.
-/
theorem resolve_cases (manager : Manager) (dependencies : List String)
    : (resolve manager dependencies = .resolved
        ∧ ∀ dependency ∈ dependencies, LoadedIn manager dependency)
      ∨ (resolve manager dependencies = .unregistered
        ∧ (∀ dependency ∈ resolvable manager dependencies, LoadedIn manager dependency)
        ∧ ∃ dependency ∈ dependencies, manager.plugin? dependency = none)
      ∨ (resolve manager dependencies = .needsLoad
        ∧ ∃ dependency ∈ resolvable manager dependencies, ¬ LoadedIn manager dependency) := by
  induction dependencies with
  | nil => exact Or.inl ⟨rfl, by simp⟩
  | cons dependency rest ih =>
      unfold resolve resolvable
      cases found : manager.plugin? dependency with
      | none =>
          refine Or.inr (Or.inl ⟨rfl, ?_, dependency, List.mem_cons_self, found⟩)
          simp [found]
      | some plugin =>
          have kept : (dependency :: rest).takeWhile (fun name => (manager.plugin? name).isSome)
              = dependency :: resolvable manager rest := by
            simp [found, resolvable]
          rw [kept]
          by_cases isLoaded : plugin.state.isLoaded = true
          · have here : LoadedIn manager dependency := ⟨plugin, found, isLoaded⟩
            simp only [isLoaded, if_true, List.forall_mem_cons, here, true_and]
            rcases ih with ⟨is, all⟩ | ⟨is, all, missing, member, absent⟩ | ⟨is, waits, member, not⟩
            · exact Or.inl ⟨is, all⟩
            · exact Or.inr (Or.inl ⟨is, all, missing, List.mem_cons_of_mem _ member, absent⟩)
            · exact Or.inr (Or.inr ⟨is, waits, List.mem_cons_of_mem _ member, not⟩)
          · dsimp only
            rw [if_neg isLoaded]
            refine Or.inr (Or.inr ⟨rfl, dependency, List.mem_cons_self, ?_⟩)
            intro ⟨other, same, loaded⟩
            obtain rfl := Option.some.inj (found.symm.trans same)
            exact isLoaded loaded

theorem loaded_of_resolved (resolved : resolve manager dependencies = .resolved)
    : ∀ dependency ∈ dependencies, LoadedIn manager dependency := by
  rcases resolve_cases manager dependencies with ⟨-, all⟩ | ⟨is, -⟩ | ⟨is, -⟩
  · exact all
  · rw [is] at resolved
    cases resolved
  · rw [is] at resolved
    cases resolved

theorem missing_of_unregistered (unregistered : resolve manager dependencies = .unregistered)
    : ∃ dependency ∈ dependencies, manager.plugin? dependency = none := by
  rcases resolve_cases manager dependencies with ⟨is, -⟩ | ⟨-, -, missing⟩ | ⟨is, -⟩
  · rw [is] at unregistered
    cases unregistered
  · exact missing
  · rw [is] at unregistered
    cases unregistered

theorem resolve_updating {registry : Table String Plugin Plugin.name}
    (found : registry.find? name = some plugin) (unloaded : plugin.state.isLoaded = false)
    (dependencies : List String)
    : resolve (Manager.setState ⟨registry, true⟩ name .updating) dependencies
      = resolve ⟨registry, false⟩ dependencies := by
  refine resolve_congr _ ?_
  intro other
  rw [plugin?_setState]
  by_cases same : other = name
  · subst same
    have stored : (⟨registry, true⟩ : Manager).plugin? other = some plugin := found
    have stored' : (⟨registry, false⟩ : Manager).plugin? other = some plugin := found
    rw [stored, stored']
    simp only [Option.map_some, if_true, unloaded]
    rfl
  · have kept : (⟨registry, true⟩ : Manager).plugin? other
        = (⟨registry, false⟩ : Manager).plugin? other := rfl
    rw [kept]
    simp [same]

def loadEnding (manager : Manager) (name : String) (imports : Bool) : Resolution → Reply × Manager
  | .needsLoad => (.hangs, manager.setState name .updating)
  | .unregistered => (.raised .load, manager.setState name .error)
  | .resolved =>
      if imports then (.returned, manager.setState name .loaded)
      else (.raised .load, manager.setState name .error)

theorem load_cases (free : manager.locked = false) (name : String) (imports : Bool)
    : (manager.plugin? name = none ∧ load name imports manager = (.raised .notFound, manager))
      ∨ ∃ plugin, manager.plugin? name = some plugin
        ∧ ((plugin.state.isLoaded = true ∧ load name imports manager = (.returned, manager))
          ∨ (plugin.state = .error ∧ load name imports manager = (.raised .load, manager))
          ∨ (plugin.state.isLoaded = false ∧ plugin.state ≠ .error
            ∧ ((resolve manager plugin.dependencies = .needsLoad
                ∧ (load name imports manager).1 = .hangs)
              ∨ ((resolve manager plugin.dependencies = .unregistered
                  ∨ (resolve manager plugin.dependencies = .resolved ∧ imports = false))
                ∧ load name imports manager = (.raised .load, manager.setState name .error))
              ∨ (resolve manager plugin.dependencies = .resolved ∧ imports = true
                ∧ load name imports manager = (.returned, manager.setState name .loaded))))) := by
  obtain ⟨registry, locked⟩ := manager
  subst free
  have entered : ∀ reply after, loadBody name imports ⟨registry, true⟩ = (reply, after) →
      reply ≠ .hangs →
      load name imports ⟨registry, false⟩ = (reply, { after with locked := false }) := by
    intro reply after ran returned
    simp [load, withLock, ran, returned]
  cases found : (⟨registry, false⟩ : Manager).plugin? name with
  | none =>
      have found' : (⟨registry, true⟩ : Manager).plugin? name = none := found
      exact Or.inl ⟨rfl, entered _ ⟨registry, true⟩ (by simp [loadBody, found']) (by simp)⟩
  | some plugin =>
      have found' : (⟨registry, true⟩ : Manager).plugin? name = some plugin := found
      refine Or.inr ⟨plugin, rfl, ?_⟩
      by_cases isLoaded : plugin.state.isLoaded = true
      · refine Or.inl ⟨isLoaded, entered _ ⟨registry, true⟩ ?_ (by simp)⟩
        simp [loadBody, found', isLoaded]
      · by_cases error : plugin.state = .error
        · refine Or.inr (Or.inl ⟨error, entered _ ⟨registry, true⟩ ?_ (by simp)⟩)
          simp [loadBody, found', error, PluginState.isLoaded]
        · refine Or.inr (Or.inr ⟨by simpa using isLoaded, error, ?_⟩)
          have unloaded : plugin.state.isLoaded = false := by simpa using isLoaded
          have seen := resolve_updating found unloaded plugin.dependencies
          have ran : loadBody name imports ⟨registry, true⟩
              = loadEnding ⟨registry, true⟩ name imports
                (resolve ⟨registry, false⟩ plugin.dependencies) := by
            simp only [loadBody, found', unloaded, error, Bool.false_eq_true, if_false, seen,
              setState_setState]
            rfl
          cases resolution : resolve ⟨registry, false⟩ plugin.dependencies with
          | needsLoad =>
              rw [resolution] at ran
              exact Or.inl ⟨rfl, by simp [load, withLock, ran, loadEnding]⟩
          | unregistered =>
              rw [resolution] at ran
              exact Or.inr (Or.inl ⟨Or.inl rfl, entered _ _ ran (by simp)⟩)
          | resolved =>
              rw [resolution] at ran
              cases imports with
              | true => exact Or.inr (Or.inr ⟨rfl, rfl, entered _ _ ran (by simp)⟩)
              | false => exact Or.inr (Or.inl ⟨Or.inr ⟨rfl, rfl⟩, entered _ _ ran (by simp)⟩)

def Keeps (outcome : Reply × Manager) : Prop := outcome.1 ≠ .hangs ∧ DependenciesHold outcome.2

theorem resolvable_loaded (all : ∀ dependency ∈ dependencies, LoadedIn manager dependency)
    : (∀ dependency ∈ resolvable manager dependencies, LoadedIn manager dependency)
      ∧ ¬ ∃ dependency ∈ dependencies, manager.plugin? dependency = none := by
  constructor
  · intro dependency member
    exact all dependency ((List.takeWhile_sublist _).subset member)
  · intro ⟨dependency, member, absent⟩
    obtain ⟨plugin, found, -⟩ := all dependency member
    rw [absent] at found
    cases found

theorem DependenciesHold.setLoaded (hold : DependenciesHold manager)
    (found : manager.plugin? name = some plugin)
    (all : ∀ dependency ∈ plugin.dependencies, LoadedIn manager dependency)
    (isLoaded : state.isLoaded = true)
    : DependenciesHold (manager.setState name state) := by
  refine hold.setState (Or.inl isLoaded) ?_
  intro _ other stored dependency member
  obtain rfl := Option.some.inj (found.symm.trans stored)
  obtain ⟨target, registered, ready⟩ := all dependency member
  exact ⟨target, registered, Or.inl ready⟩

theorem keeps_load_iff (free : manager.locked = false) (hold : DependenciesHold manager)
    (name : String) (imports : Bool)
    : Keeps (load name imports manager) ↔ LoadKeeps manager name imports := by
  rcases load_cases free name imports with ⟨absent, loaded⟩ | ⟨plugin, found, ended⟩
  · rw [loaded]
    refine iff_of_true ⟨by simp, hold⟩ ?_
    intro plugin found
    rw [absent] at found
    cases found
  · have keeps_iff : LoadKeeps manager name imports
        ↔ (plugin.state.isLoaded = false → plugin.state ≠ .error →
          (∀ dependency ∈ resolvable manager plugin.dependencies, LoadedIn manager dependency)
          ∧ ((imports = false ∨ ∃ dependency ∈ plugin.dependencies,
              manager.plugin? dependency = none) →
            manager.hasLoadedDependent name = false)) := by
      unfold LoadKeeps
      rw [found]
      simp
    rw [keeps_iff]
    rcases ended with ⟨isLoaded, loaded⟩ | ⟨error, loaded⟩ | ⟨unloaded, sound, ended⟩
    · rw [loaded]
      refine iff_of_true ⟨by simp, hold⟩ (fun unloaded => ?_)
      rw [isLoaded] at unloaded
      cases unloaded
    · rw [loaded]
      exact iff_of_true ⟨by simp, hold⟩ (fun _ sound => absurd error sound)
    · have failing := dependenciesHold_setError_iff hold found
      simp only [unloaded, sound, ne_eq, not_false_eq_true, true_implies]
      rcases resolve_cases manager plugin.dependencies
        with ⟨is, all⟩ | ⟨is, all, missing⟩ | ⟨is, waits, member, not⟩
      · obtain ⟨before, complete⟩ := resolvable_loaded all
        rcases ended with ⟨waits, -⟩ | ⟨cause, loaded⟩ | ⟨-, imported, loaded⟩
        · rw [is] at waits
          cases waits
        · have failed : imports = false := by
            rcases cause with unregistered | ⟨-, failed⟩
            · rw [is] at unregistered
              cases unregistered
            · exact failed
          rw [loaded, Keeps]
          simp only [ne_eq, reduceCtorEq, not_false_eq_true, true_and, failing]
          exact ⟨fun none_ => ⟨before, fun _ => none_⟩, fun kept => kept.2 (Or.inl failed)⟩
        · rw [loaded]
          refine iff_of_true ⟨by simp, hold.setLoaded found all rfl⟩ ⟨before, ?_⟩
          intro fails
          rcases fails with failed | missing
          · rw [imported] at failed
            cases failed
          · exact absurd missing complete
      · rcases ended with ⟨waits, -⟩ | ⟨-, loaded⟩ | ⟨resolved, -⟩
        · rw [is] at waits
          cases waits
        · rw [loaded, Keeps]
          simp only [ne_eq, reduceCtorEq, not_false_eq_true, true_and, failing]
          exact ⟨fun none_ => ⟨all, fun _ => none_⟩, fun kept => kept.2 (Or.inr missing)⟩
        · rw [is] at resolved
          cases resolved
      · rcases ended with ⟨-, hung⟩ | ⟨cause, -⟩ | ⟨resolved, -⟩
        · exact iff_of_false (fun kept => kept.1 hung) (fun kept => not (kept.1 waits member))
        · rw [is] at cause
          rcases cause with unregistered | ⟨resolved, -⟩
          · cases unregistered
          · cases resolved
        · rw [is] at resolved
          cases resolved

-- The other calls

theorem withLock_eq (free : manager.locked = false) {body : Manager → Reply × Manager}
    {reply : Reply} {after : Manager} (ran : body { manager with locked := true } = (reply, after))
    (replies : reply ≠ .hangs)
    : withLock body manager = (reply, { after with locked := false }) := by
  simp [withLock, free, ran, replies]

theorem withLock_unchanged (free : manager.locked = false) {body : Manager → Reply × Manager}
    {reply : Reply}
    (ran : body { manager with locked := true } = (reply, { manager with locked := true }))
    (replies : reply ≠ .hangs)
    : withLock body manager = (reply, manager) := by
  rw [withLock_eq free ran replies, ← free]

theorem setState_unlocked (free : manager.locked = false) (name : String) (state : PluginState)
    : { Manager.setState { manager with locked := true } name state with locked := false }
      = manager.setState name state := by
  obtain ⟨registry, locked⟩ := manager
  subst free
  rfl

theorem enableBody_cases (free : manager.locked = false)
    (found : manager.plugin? name = some plugin) (enables : Bool)
    : (plugin.state = .enabled ∧ withLock (enableBody name enables) manager = (.returned, manager))
      ∨ (plugin.state ≠ .enabled ∧ enables = true
        ∧ withLock (enableBody name enables) manager
          = (.returned, manager.setState name .enabled))
      ∨ (plugin.state ≠ .enabled ∧ enables = false
        ∧ withLock (enableBody name enables) manager
          = (.raised .enable, manager.setState name .error)) := by
  have stored : Manager.plugin? { manager with locked := true } name = some plugin := found
  by_cases enabled : plugin.state = .enabled
  · refine Or.inl ⟨enabled, ?_⟩
    have ran : enableBody name enables { manager with locked := true }
        = (.returned, { manager with locked := true }) := by
      simp [enableBody, stored, enabled]
    refine (withLock_eq free ran (by simp)).trans ?_
    rw [← free]
  · cases enables with
    | true =>
        refine Or.inr (Or.inl ⟨enabled, rfl, ?_⟩)
        rw [← setState_unlocked free name .enabled]
        exact withLock_eq free (by simp [enableBody, stored, enabled]) (by simp)
    | false =>
        refine Or.inr (Or.inr ⟨enabled, rfl, ?_⟩)
        rw [← setState_unlocked free name .error]
        exact withLock_eq free (by simp [enableBody, stored, enabled]) (by simp)

theorem hasLoadedDependent_setState (manager : Manager) (name : String) (state : PluginState)
    : (manager.setState name state).hasLoadedDependent name = false
      ↔ manager.hasLoadedDependent name = false := by
  rw [hasLoadedDependent_eq_false_iff, hasLoadedDependent_eq_false_iff]
  refine forall_congr' (fun other => ?_)
  rw [plugin?_setState]
  by_cases same : other = name
  · simp [same]
  · simp [same]

theorem keeps_enableBody_iff (free : manager.locked = false) (hold : DependenciesHold manager)
    (found : manager.plugin? name = some plugin) (isLoaded : plugin.state.isLoaded = true)
    (enables : Bool)
    : Keeps (withLock (enableBody name enables) manager)
      ↔ (enables = false → plugin.state = .loaded → manager.hasLoadedDependent name = false) := by
  rcases enableBody_cases free found enables
    with ⟨enabled, ended⟩ | ⟨-, succeeds, ended⟩ | ⟨disabled, fails, ended⟩
  · rw [ended]
    refine iff_of_true ⟨by simp, hold⟩ (fun _ loaded => ?_)
    rw [enabled] at loaded
    cases loaded
  · rw [ended]
    refine iff_of_true ⟨by simp, hold.setState (Or.inl rfl) ?_⟩ (fun fails => ?_)
    · intro _ other stored
      obtain rfl := Option.some.inj (found.symm.trans stored)
      exact hold plugin (Table.find?_some found).1 isLoaded
    · rw [succeeds] at fails
      cases fails
  · have loaded : plugin.state = .loaded := by
      cases state : plugin.state with
      | loaded => rfl
      | enabled => exact absurd state disabled
      | _ =>
          rw [state] at isLoaded
          cases isLoaded
    rw [ended, Keeps]
    simp [dependenciesHold_setError_iff hold found, fails, loaded]

theorem enable_eq {after : Manager} {imports : Bool} {reply : Reply}
    (loading : load name imports manager = (reply, after)) (enables : Bool)
    : enable name imports enables manager
      = if reply = .returned then withLock (enableBody name enables) after else (reply, after) := by
  simp only [enable, loading]

/-- An enable keeps the dependencies exactly when its load does, and its hook does not fail for a
plugin that others use.
-/
theorem keeps_enable_iff (free : manager.locked = false) (hold : DependenciesHold manager)
    (name : String) (imports enables : Bool)
    : Keeps (enable name imports enables manager)
      ↔ KeepsDependencies manager (.enable name imports enables) := by
  have load_iff := keeps_load_iff free hold name imports
  simp only [KeepsDependencies]
  rcases load_cases free name imports with ⟨absent, loading⟩ | ⟨plugin, found, ended⟩
  · rw [enable_eq loading, if_neg (by simp)]
    rw [loading] at load_iff
    refine iff_of_true ⟨by simp, hold⟩ ⟨load_iff.mp ⟨by simp, hold⟩, ?_⟩
    intro _ plugin found
    rw [absent] at found
    cases found
  · simp only [found, Option.some.injEq, forall_eq']
    rcases ended with ⟨isLoaded, loading⟩ | ⟨error, loading⟩ | ⟨unloaded, sound, ended⟩
    · rw [enable_eq loading, if_pos rfl, keeps_enableBody_iff free hold found isLoaded]
      rw [loading] at load_iff
      have loads := load_iff.mp ⟨by simp, hold⟩
      simp [loads, isLoaded]
    · rw [enable_eq loading, if_neg (by simp)]
      rw [loading] at load_iff
      refine iff_of_true ⟨by simp, hold⟩ ⟨load_iff.mp ⟨by simp, hold⟩, ?_⟩
      intro _ cause
      rcases cause with loaded | ⟨-, sound, -⟩
      · rw [error] at loaded
        cases loaded
      · exact absurd error sound
    · rcases ended with ⟨-, hung⟩ | ⟨cause, loading⟩ | ⟨resolved, imported, loading⟩
      · refine iff_of_false ?_ (fun kept => (load_iff.mpr kept.1).1 hung)
        intro kept
        have loading : load name imports manager = (.hangs, (load name imports manager).2) :=
          Prod.ext hung rfl
        rw [enable_eq loading, if_neg (by simp)] at kept
        exact kept.1 rfl
      · rw [enable_eq loading, if_neg (by simp), ← loading, load_iff]
        refine ⟨fun loads => ⟨loads, ?_⟩, fun kept => kept.1⟩
        intro _ served
        have fails : ¬ (imports = true
            ∧ ∀ dependency ∈ plugin.dependencies, LoadedIn manager dependency) := by
          intro ⟨imported, all⟩
          rcases cause with unregistered | ⟨-, failed⟩
          · exact (resolvable_loaded all).2 (missing_of_unregistered unregistered)
          · rw [imported] at failed
            cases failed
        rcases served with loaded | ⟨-, -, served⟩
        · rw [loaded] at unloaded
          cases unloaded
        · exact absurd served fails
      · have all := loaded_of_resolved resolved
        have held : DependenciesHold (manager.setState name .loaded) := hold.setLoaded found all rfl
        have unlocked : (manager.setState name .loaded).locked = false := free
        have stored : (manager.setState name .loaded).plugin? name
            = some { plugin with state := .loaded } := by
          rw [plugin?_setState, found]
          simp
        rw [enable_eq loading, if_pos rfl, keeps_enableBody_iff unlocked held stored rfl,
          hasLoadedDependent_setState]
        rw [loading] at load_iff
        have loads := load_iff.mp ⟨by simp, held⟩
        simp only [loads, true_and, true_implies]
        refine imp_congr_right (fun _ => ?_)
        exact ⟨fun none_ _ => none_, fun kept => kept (Or.inr ⟨unloaded, sound, imported, all⟩)⟩

theorem keeps_disable_iff (free : manager.locked = false) (hold : DependenciesHold manager)
    (name : String) (disables : Bool)
    : Keeps (disable name disables manager)
      ↔ KeepsDependencies manager (.disable name disables) := by
  simp only [KeepsDependencies]
  have lookup : ({ manager with locked := true } : Manager).plugin? name
      = manager.plugin? name := rfl
  have idle : ({ manager with locked := false } : Manager) = manager := by
    rw [← free]
  cases found : manager.plugin? name with
  | none =>
      have ended : disable name disables manager = (.raised .notFound, manager) := by
        simp [disable, withLock, free, lookup, found, idle]
      rw [ended]
      refine iff_of_true ⟨by simp, hold⟩ ?_
      intro _ plugin absent
      cases absent
  | some plugin =>
      simp only [Option.some.injEq, forall_eq']
      by_cases enabled : plugin.state = .enabled
      · cases disables with
        | true =>
            have ended : disable name true manager
                = (.returned, manager.setState name .disabled) := by
              rw [← setState_unlocked free name .disabled]
              simp [disable, withLock, free, lookup, found, enabled]
            rw [ended]
            refine iff_of_true ⟨by simp, hold.setState (Or.inr rfl) ?_⟩ ?_
            · intro loaded
              cases loaded
            · intro fails
              cases fails
        | false =>
            have ended : disable name false manager
                = (.raised .disable, manager.setState name .error) := by
              rw [← setState_unlocked free name .error]
              simp [disable, withLock, free, lookup, found, enabled]
            rw [ended, Keeps]
            simp [dependenciesHold_setError_iff hold found, enabled]
      · have ended : disable name disables manager = (.returned, manager) := by
          simp [disable, withLock, free, lookup, found, enabled, idle]
        rw [ended]
        exact iff_of_true ⟨by simp, hold⟩ (fun _ is => absurd is enabled)

theorem keeps_unload_iff (free : manager.locked = false) (hold : DependenciesHold manager)
    (name : String) (disables : Bool)
    : Keeps (unload name disables manager) ↔ KeepsDependencies manager (.unload name disables) := by
  simp only [KeepsDependencies, unload]
  cases found : manager.plugin? name with
  | none =>
      refine iff_of_true ⟨by simp, hold⟩ ?_
      intro plugin absent
      cases absent
  | some plugin =>
      simp only [Option.some.injEq, forall_eq']
      by_cases enabled : plugin.state = .enabled
      · refine iff_of_false ?_ (fun disabled => disabled enabled)
        intro kept
        refine kept.1 ?_
        simp [withLock, free, unloadBody, enabled, disable]
      · cases used : manager.hasLoadedDependent name with
        | true =>
            have used' : Manager.hasLoadedDependent { manager with locked := true } name = true :=
              used
            have ended : withLock (unloadBody name plugin disables) manager
                = (.raised .dependency, manager) :=
              withLock_unchanged free (by simp [unloadBody, enabled, used']) (by simp)
            rw [ended]
            exact iff_of_true ⟨by simp, hold⟩ enabled
        | false =>
            have unused : Manager.hasLoadedDependent { manager with locked := true } name = false :=
              used
            have ended : withLock (unloadBody name plugin disables) manager
                = (.returned, manager.setState name .unloaded) := by
              rw [← setState_unlocked free name .unloaded]
              exact withLock_eq free (by simp [unloadBody, enabled, unused]) (by simp)
            rw [ended]
            refine iff_of_true ⟨by simp, ?_⟩ enabled
            exact (dependenciesHold_setState_iff hold found ⟨rfl, by simp⟩).mpr used

/-- An update of a registered plugin waits forever. -/
theorem keeps_update_iff (free : manager.locked = false) (hold : DependenciesHold manager)
    (name : String) (dependencies : List String) (disables imports enables : Bool)
    : Keeps (update name dependencies disables imports enables manager)
      ↔ KeepsDependencies manager (.update name dependencies disables imports enables) := by
  simp only [KeepsDependencies]
  have lookup : ({ manager with locked := true } : Manager).plugin? name
      = manager.plugin? name := rfl
  cases found : manager.plugin? name with
  | none =>
      have ended : update name dependencies disables imports enables manager
          = (.raised .notFound, manager) :=
        withLock_unchanged free (by simp [updateBody, lookup, found]) (by simp)
      rw [ended]
      exact iff_of_true ⟨by simp, hold⟩ rfl
  | some plugin =>
      refine iff_of_false (fun kept => kept.1 ?_) (by simp)
      -- the lock is held, by this very call, when the plugin is disabled or loaded
      have waits : (updateBody name dependencies disables imports enables
          { manager with locked := true }).1 = .hangs := by
        by_cases enabled : plugin.state = .enabled
        · have hung : ∀ body, withLock body { manager with locked := true }
              = (.hangs, { manager with locked := true }) :=
            fun body => withLock_of_locked body rfl
          simp [updateBody, lookup, found, enabled, disable, hung]
        · have hung : load name imports (Manager.replace { manager with locked := true } name
              dependencies) = (.hangs, Manager.replace { manager with locked := true } name
                dependencies) := withLock_of_locked _ rfl
          simp [updateBody, lookup, found, enabled, hung]
      exact (withLock_of_free _ free).1.trans waits

theorem keeps_register (free : manager.locked = false) (hold : DependenciesHold manager)
    (name : String) (dependencies : List String)
    : Keeps (register name dependencies manager) := by
  cases stored : manager.registry.insert? ⟨name, dependencies, .registered⟩ with
  | none =>
      have ended : register name dependencies manager
          = (.raised .alreadyRegistered, manager) :=
        withLock_unchanged free (by simp [stored]) (by simp)
      rw [ended]
      exact ⟨by simp, hold⟩
  | some registry =>
      have ended : register name dependencies manager = (.returned, ⟨registry, false⟩) := by
        simp [register, withLock, free, stored]
      rw [ended]
      refine ⟨by simp, ?_⟩
      have lookup : ∀ other, (⟨registry, false⟩ : Manager).plugin? other
          = if name = other then some ⟨name, dependencies, .registered⟩
            else manager.plugin? other :=
        Table.find?_of_insert? stored
      rw [dependenciesHold_iff] at hold ⊢
      intro other plugin found isLoaded dependency depends
      rw [lookup] at found
      by_cases new : name = other
      · obtain rfl := Option.some.inj ((if_pos new).symm.trans found)
        cases isLoaded
      · rw [if_neg new] at found
        obtain ⟨target, known, ready⟩ := hold other plugin found isLoaded dependency depends
        exact ⟨target, Table.find?_insert?_of_some stored known, ready⟩

-- Calls one after another

theorem keeps_step_iff (free : manager.locked = false) (hold : DependenciesHold manager)
    (call : PluginCall)
    : Keeps (pluginStep manager call) ↔ KeepsDependencies manager call := by
  cases call with
  | register name dependencies => exact iff_of_true (keeps_register free hold _ _) trivial
  | load name imports => exact keeps_load_iff free hold name imports
  | enable name imports enables => exact keeps_enable_iff free hold name imports enables
  | disable name disables => exact keeps_disable_iff free hold name disables
  | unload name disables => exact keeps_unload_iff free hold name disables
  | update name dependencies disables imports enables =>
      exact keeps_update_iff free hold name dependencies disables imports enables

theorem withLock_frees (free : manager.locked = false) (body : Manager → Reply × Manager)
    (replies : (withLock body manager).1 ≠ .hangs)
    : (withLock body manager).2.locked = false :=
  (withLock_of_free body free).2.2 replies

theorem step_frees (free : manager.locked = false) (call : PluginCall)
    (replies : (pluginStep manager call).1 ≠ .hangs)
    : (pluginStep manager call).2.locked = false := by
  cases call with
  | register name dependencies => exact withLock_frees free _ replies
  | load name imports => exact withLock_frees free _ replies
  | disable name disables => exact withLock_frees free _ replies
  | update name dependencies disables imports enables => exact withLock_frees free _ replies
  | unload name disables =>
      simp only [pluginStep, unload] at replies ⊢
      cases found : manager.plugin? name with
      | none => simpa [found] using free
      | some plugin =>
          simp only [found] at replies ⊢
          exact withLock_frees free _ replies
  | enable name imports enables =>
      simp only [pluginStep, enable] at replies ⊢
      have loading : (load name imports manager).1 ≠ .hangs →
          (load name imports manager).2.locked = false := withLock_frees free _
      by_cases returned : (load name imports manager).1 = .returned
      · have after := loading (by simp [returned])
        simp only [returned, if_true] at replies ⊢
        exact withLock_frees after _ replies
      · simp only [if_neg returned] at replies ⊢
        exact loading replies

/-- Every call of a sequence returns or raises and keeps the dependencies of the loaded plugins,
exactly when every call is one that does: no load or enable before a registered dependency, no
failure of a plugin that others use, no unload of an enabled plugin and no update.
-/
theorem pluginDependencies_iff (calls : List PluginCall)
    : (∀ visit ∈ visits pluginStep newManager calls, CallKeepsDependencies visit)
      ↔ ∀ visit ∈ visits pluginStep newManager calls,
        KeepsDependencies visit.before visit.call := by
  have exact_ : ∀ manager call, (manager.locked = false ∧ DependenciesHold manager) → True →
      (CallKeepsDependencies
        ⟨manager, call, (pluginStep manager call).1, (pluginStep manager call).2⟩
        ↔ KeepsDependencies manager call) :=
    fun manager call good _ => keeps_step_iff good.1 good.2 call
  have preserved : ∀ manager call, (manager.locked = false ∧ DependenciesHold manager) → True →
      KeepsDependencies manager call →
      ((pluginStep manager call).2.locked = false
        ∧ DependenciesHold (pluginStep manager call).2) := by
    intro manager call good _ allowed
    have kept := (keeps_step_iff good.1 good.2 call).mpr allowed
    exact ⟨step_frees good.1 call kept.1, kept.2⟩
  have start : newManager.locked = false ∧ DependenciesHold newManager := by
    refine ⟨rfl, ?_⟩
    intro plugin member
    cases member
  exact throughout_iff exact_ preserved start (fun _ _ => trivial)

def dependentFirst : List PluginCall :=
  [.register "base" [], .register "report" ["base"], .load "report" true]

/-- The load of the second plugin waits for the lock that it holds. -/
theorem pluginDependencies_hangs
    : ¬ ∀ visit ∈ visits pluginStep newManager dependentFirst, CallKeepsDependencies visit := by
  intro all
  have waits : ((visits pluginStep newManager dependentFirst).map (·.reply)).getLast?
      = some .hangs := by
    decide
  obtain ⟨visit, last, hung⟩ := List.mem_map.mp (List.mem_of_getLast? waits)
  exact (all visit last).1 hung

end RomaBridge.Properties
