import RomaBridge.Foundation.Table
import RomaBridge.Foundation.Trace

/-! `PluginManager` of `plugins/core/manager.py`: the life cycle of registered plugins under one
`asyncio.Lock`, which is not re-entrant. What entry points and hooks do is an argument of a call.
-/

namespace RomaBridge.Model.Plugins

open RomaBridge.Foundation

inductive PluginState where
  | registered
  | loaded
  | enabled
  | disabled
  | unloaded
  | error
  | updating
  deriving DecidableEq, Repr

/-- `state in (PluginState.LOADED, PluginState.ENABLED)`. -/
def PluginState.isLoaded : PluginState → Bool
  | .loaded | .enabled => true
  | _ => false

/-- A `PluginInstance` under its key in the registry. -/
structure Plugin where
  name : String
  dependencies : List String
  state : PluginState
  deriving DecidableEq, Repr

/-- The exceptions of the manager. -/
inductive PluginError where
  | alreadyRegistered
  | notFound
  | load
  | dependency
  | enable
  | disable
  deriving DecidableEq, Repr

/-- How a call ends; a call that `hangs` waits forever for the lock. -/
inductive Reply where
  | returned
  | raised (error : PluginError)
  | hangs
  deriving DecidableEq, Repr

/-- `_registry`, and whether `_lock` is held between the calls. -/
structure Manager where
  registry : Table String Plugin Plugin.name
  locked : Bool

/-- `self._registry.get(name)`. -/
def Manager.plugin? (manager : Manager) (name : String) : Option Plugin :=
  manager.registry.find? name

/-- `instance.state = state`. -/
def Manager.setState (manager : Manager) (name : String) (state : PluginState) : Manager :=
  { manager with
    registry := manager.registry.update (fun plugin => plugin.name = name)
      (fun plugin => { plugin with state }) (fun _ => rfl) }

/-- `async with self._lock:`. A body that hangs never gives the lock back. -/
def withLock (body : Manager → Reply × Manager) (manager : Manager) : Reply × Manager :=
  if manager.locked then
    (.hangs, manager)
  else
    let (reply, after) := body { manager with locked := true }
    if reply = .hangs then (.hangs, after) else (reply, { after with locked := false })

def register (name : String) (dependencies : List String) : Manager → Reply × Manager :=
  withLock (fun manager =>
    match manager.registry.insert? ⟨name, dependencies, .registered⟩ with
    | none => (.raised .alreadyRegistered, manager)
    | some registry => (.returned, { manager with registry }))

/-- What the loop over the dependencies comes to. -/
inductive Resolution where
  | resolved
  | unregistered
  | needsLoad
  deriving DecidableEq, Repr

/-- The loop over the dependencies up to the first that is missing or has to be loaded. -/
def resolve (manager : Manager) : List String → Resolution
  | [] => .resolved
  | dependency :: rest =>
      match manager.plugin? dependency with
      | none => .unregistered
      | some plugin => if plugin.state.isLoaded then resolve manager rest else .needsLoad

/-- `await self.load(dependency)` inside `load`: a section of the lock, whose body, that of `load`,
is not reached while the lock is held.
-/
def nestedLoad (manager : Manager) : Reply × Manager :=
  withLock (fun inside => (.returned, inside)) manager

/-- The body of `load`. `imports` says whether the entry point is imported, validated and called
without an exception.
-/
def loadBody (name : String) (imports : Bool) (manager : Manager) : Reply × Manager :=
  match manager.plugin? name with
  | none => (.raised .notFound, manager)
  | some plugin =>
      if plugin.state.isLoaded then
        (.returned, manager)
      else if plugin.state = .error then
        (.raised .load, manager)
      else
        let updating := manager.setState name .updating
        match resolve updating plugin.dependencies with
        | .needsLoad => nestedLoad updating
        | .unregistered => (.raised .load, updating.setState name .error)
        | .resolved =>
            if imports then
              (.returned, updating.setState name .loaded)
            else
              (.raised .load, updating.setState name .error)

def load (name : String) (imports : Bool) : Manager → Reply × Manager :=
  withLock (loadBody name imports)

/-- The locked part of `enable`; `enables` says whether `on_enable` ends without an exception. -/
def enableBody (name : String) (enables : Bool) (manager : Manager) : Reply × Manager :=
  match manager.plugin? name with
  | none => (.raised .notFound, manager)
  | some plugin =>
      if plugin.state = .enabled then
        (.returned, manager)
      else if enables then
        (.returned, manager.setState name .enabled)
      else
        (.raised .enable, manager.setState name .error)

def enable (name : String) (imports enables : Bool) (manager : Manager) : Reply × Manager :=
  let (reply, after) := load name imports manager
  if reply = .returned then withLock (enableBody name enables) after else (reply, after)

/-- `disable`; `disables` says whether `on_disable` ends without an exception. -/
def disable (name : String) (disables : Bool) : Manager → Reply × Manager :=
  withLock (fun manager =>
    match manager.plugin? name with
    | none => (.raised .notFound, manager)
    | some plugin =>
        if plugin.state ≠ .enabled then
          (.returned, manager)
        else if disables then
          (.returned, manager.setState name .disabled)
        else
          (.raised .disable, manager.setState name .error))

def Manager.hasLoadedDependent (manager : Manager) (name : String) : Bool :=
  manager.registry.rows.any (fun other =>
    other.name ≠ name && other.dependencies.contains name && other.state.isLoaded)

/-- The locked part of `unload`; an enabled plugin is disabled first, with the lock held. -/
def unloadBody (name : String) (plugin : Plugin) (disables : Bool) (manager : Manager)
    : Reply × Manager :=
  let (reply, after) :=
    if plugin.state = .enabled then disable name disables manager else (.returned, manager)
  if reply ≠ .returned then
    (reply, after)
  else if after.hasLoadedDependent name then
    (.raised .dependency, after)
  else
    (.returned, after.setState name .unloaded)

/-- `unload`; the plugin is looked up without the lock. -/
def unload (name : String) (disables : Bool) (manager : Manager) : Reply × Manager :=
  match manager.plugin? name with
  | none => (.raised .notFound, manager)
  | some plugin => withLock (unloadBody name plugin disables) manager

/-- `instance.manifest = new_manifest` with the state `UPDATING`. -/
def Manager.replace (manager : Manager) (name : String) (dependencies : List String) : Manager :=
  { manager with
    registry := manager.registry.update (fun plugin => plugin.name = name)
      (fun plugin => { plugin with dependencies, state := .updating }) (fun _ => rfl) }

/-- The locked part of `update`: the plugin is disabled, loaded and enabled with the lock held. -/
def updateBody (name : String) (dependencies : List String) (disables imports enables : Bool)
    (manager : Manager)
    : Reply × Manager :=
  match manager.plugin? name with
  | none => (.raised .notFound, manager)
  | some plugin =>
      let (disabling, after) :=
        if plugin.state = .enabled then disable name disables manager else (.returned, manager)
      if disabling ≠ .returned then
        (disabling, after)
      else
        let (loading, loaded) := load name imports (after.replace name dependencies)
        if loading ≠ .returned ∨ plugin.state ≠ .enabled then
          (loading, loaded)
        else
          enable name imports enables loaded

def update (name : String) (dependencies : List String) (disables imports enables : Bool)
    : Manager → Reply × Manager :=
  withLock (updateBody name dependencies disables imports enables)

/-- The calls, with what the plugin's own code does in them. -/
inductive PluginCall where
  | register (name : String) (dependencies : List String)
  | load (name : String) (imports : Bool)
  | enable (name : String) (imports enables : Bool)
  | disable (name : String) (disables : Bool)
  | unload (name : String) (disables : Bool)
  | update (name : String) (dependencies : List String) (disables imports enables : Bool)
  deriving DecidableEq, Repr

def pluginStep (manager : Manager) : PluginCall → Reply × Manager
  | .register name dependencies => register name dependencies manager
  | .load name imports => load name imports manager
  | .enable name imports enables => enable name imports enables manager
  | .disable name disables => disable name disables manager
  | .unload name disables => unload name disables manager
  | .update name dependencies disables imports enables =>
      update name dependencies disables imports enables manager

def newManager : Manager := ⟨.empty, false⟩

end RomaBridge.Model.Plugins
