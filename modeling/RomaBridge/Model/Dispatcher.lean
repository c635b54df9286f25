import RomaBridge.Foundation.Trace

/-! `backends/dispatcher.py`: the one slot that caches a backend, and the calls that ask for it. No
call of `get_backend` waits for anything, so that each is one step of the event loop. A backend
object is numbered when it is made.
-/

namespace RomaBridge.Model.Dispatcher

open RomaBridge.Foundation

inductive BackendKind where
  | localBackend
  | vastaiBackend
  | runpodBackend
  | gpuWorkerBackend
  deriving DecidableEq, Repr

structure Backend where
  id : ℕ
  kind : BackendKind
  deriving DecidableEq, Repr

/-- The environment: `ROMA_EXECUTION_BACKEND`, whether `VAST_KEY` or `VASTAI_API_KEY` is set,
whether `ROMA_RUNPOD_ENABLED` is `1`, and whether `RUNPOD_API_KEY` is set.
-/
structure Settings where
  executionBackend : Option String
  vastaiKey : Bool
  runpodEnabled : Bool
  runpodKey : Bool
  deriving DecidableEq, Repr

/-- `_backend` and `_backend_name`, the number of the next object, and the object that dispatched
each job last, which the code does not store.
-/
structure Registry where
  backend : Option Backend
  backendName : String
  next : ℕ
  dispatched : String → Option Backend

def imported : Registry := ⟨none, "", 0, fun _ => none⟩

/-- `name or os.getenv("ROMA_EXECUTION_BACKEND", "local") or "local"`. -/
def currentName (settings : Settings) (name : Option String) : String :=
  match name.filter (fun text => text ≠ "") with
  | some text => text
  | none => (settings.executionBackend.filter (fun text => text ≠ "")).getD "local"

/-- The class that a name selects, and the name that is cached with the object: a backend without
its key is replaced by the local one.
-/
def selected (settings : Settings) (current : String) : BackendKind × String :=
  if current = "vastai" then
    if settings.vastaiKey then (.vastaiBackend, current) else (.localBackend, "local")
  else if current = "runpod" ∧ settings.runpodEnabled then
    if settings.runpodKey then (.runpodBackend, current) else (.localBackend, "local")
  else if current = "gpu_worker" then
    (.gpuWorkerBackend, current)
  else
    (.localBackend, current)

def getBackend (settings : Settings) (registry : Registry) (name : Option String)
    : Backend × Registry :=
  let current := currentName settings name
  match registry.backend.filter (fun _ => registry.backendName = current) with
  | some backend => (backend, registry)
  | none =>
      let (kind, backendName) := selected settings current
      let backend : Backend := ⟨registry.next, kind⟩
      (backend,
        { registry with backend := some backend, backendName, next := registry.next + 1 })

/-- The calls that ask for the backend. `backend` is what the payload or the row of the job names;
the status and the cancel name none.
-/
inductive BackendCall where
  | dispatchJob (jobId : String) (backend : Option String)
  | getJobStatus (jobId : String)
  | backendCancelJob (jobId : String)
  | executeCommand (jobId : String) (backend : Option String)
  | getConfirmedDuration (jobId : String) (backend : Option String)
  | listBackends
  deriving DecidableEq, Repr

/-- The name that a call passes to `get_backend`. -/
def BackendCall.name : BackendCall → Option String
  | .dispatchJob _ backend | .executeCommand _ backend | .getConfirmedDuration _ backend => backend
  | .getJobStatus _ | .backendCancelJob _ | .listBackends => none

def BackendCall.asksAbout : BackendCall → Option String
  | .getJobStatus jobId | .backendCancelJob jobId | .executeCommand jobId _
  | .getConfirmedDuration jobId _ => some jobId
  | .dispatchJob _ _ | .listBackends => none

/-- A call with the object that serves it. -/
def serve (settings : Settings) (registry : Registry) (call : BackendCall) : Backend × Registry :=
  let (backend, after) := getBackend settings registry call.name
  match call with
  | .dispatchJob jobId _ =>
      (backend, { after with dispatched := Function.update after.dispatched jobId (some backend) })
  | _ => (backend, after)

end RomaBridge.Model.Dispatcher
