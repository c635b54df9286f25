import RomaBridge.Model.ControlPlane
import RomaBridge.Model.PyValues

/-! The file of `control_plane/job_store.py`. An operation changes the table in memory and then opens
the file for writing, which empties it, and writes the whole document into it.
-/

namespace RomaBridge.Model.ControlPlane

open RomaBridge.Foundation

/-- A job store with the payloads of its jobs. -/
structure Contents where
  store : JobStore
  payload : String → PyObj := fun _ => .none

def Contents.fresh : Contents := { store := .fresh }

/-- The file: a document, or the beginning of one, which `json.load` refuses as it lacks its closing
brace.
-/
inductive JobFile where
  | absent
  | cut
  | whole (document : Contents)

/-- `_load`: nothing where `json.load` raises. -/
def JobFile.load : JobFile → Option Contents
  | .absent => some .fresh
  | .cut => none
  | .whole document => some document

/-- How far a save got: not as far as to open the file, into the write, or to its end. -/
inductive SavePoint where
  | unopened
  | cut
  | whole
  deriving DecidableEq

/-- How a save ends: it returns, or an exception or a crash ends it at some point. -/
inductive SaveEnd where
  | done
  | raises (point : SavePoint)
  | crashes (point : SavePoint)
  deriving DecidableEq

inductive OpEnd where
  | returned
  | raised
  | crashed
  deriving DecidableEq

inductive Operation where
  | submit (suffix plugin : String) (payload : PyObj) (gpu ttl : ℚ) (maxRetries : ℤ)
  | schedule (jobId workerId : String) (now : ℚ)
  | start (jobId : String) (now : ℚ)
  | complete (jobId : String) (now : ℚ)
  | commit (jobId : String)
  | fail (jobId error : String) (now : ℚ)
  | requeue (jobId : String)
  | advancePending

def Operation.apply (contents : Contents) : Operation → Bool × Contents
  | .submit suffix plugin payload gpu ttl maxRetries =>
      let (job, store) := contents.store.submit suffix plugin gpu ttl maxRetries
      (true, { store, payload := Function.update contents.payload job.id payload })
  | .schedule jobId workerId now =>
      let (saves, store) := contents.store.schedule jobId workerId now
      (saves, { contents with store })
  | .start jobId now =>
      let (saves, store) := contents.store.start jobId now
      (saves, { contents with store })
  | .complete jobId now =>
      let (saves, store) := contents.store.complete jobId now
      (saves, { contents with store })
  | .commit jobId =>
      let (saves, store) := contents.store.commit jobId
      (saves, { contents with store })
  | .fail jobId error now =>
      let (saves, store) := contents.store.fail jobId error now
      (saves, { contents with store })
  | .requeue jobId =>
      -- a job that is not retryable is saved too
      ((contents.store.get jobId).isSome, { contents with store := (contents.store.requeue jobId).2 })
  | .advancePending =>
      let (ready, store) := contents.store.advancePending
      (!ready.isEmpty, { contents with store })

section File

variable (floatText : PyFloat → String)

/-- `json.dump` of the store, as it will be read, or nothing where a payload is refused. -/
def Contents.dump (contents : Contents) : Option Contents :=
  if contents.store.jobs.rows.all (fun job =>
      (jsonCopy floatText (contents.payload job.id)).isSome) then
    some { contents with
      payload := fun jobId => (jsonCopy floatText (contents.payload jobId)).getD .none }
  else
    none

/-- The end of a write that got to the end of the document. A refused payload ends it before. -/
def writeDocument (contents : Contents) (ends : OpEnd) : OpEnd × JobFile :=
  match contents.dump floatText with
  | some document => (ends, .whole document)
  | none => (.raised, .cut)

def save (contents : Contents) (file : JobFile) : SaveEnd → OpEnd × JobFile
  | .done => writeDocument floatText contents .returned
  | .raises .unopened => (.raised, file)
  | .raises .cut => (.raised, .cut)
  | .raises .whole => writeDocument floatText contents .raised
  | .crashes .unopened => (.crashed, file)
  | .crashes .cut => (.crashed, .cut)
  | .crashes .whole => writeDocument floatText contents .crashed

/-- The path and the process that has it open, if one lives. `issued` is the greatest number of a job
that `submit` returned, a record for the statements.
-/
structure StoreWorld where
  memory : Option Contents
  file : JobFile
  issued : ℕ

def StoreWorld.new : StoreWorld := ⟨some .fresh, .absent, 0⟩

/-- A call of an operation, with the end of its save, or the start of a new process. -/
inductive StoreAction where
  | call (operation : Operation) (ends : SaveEnd)
  | reopen

def Operation.number (contents : Contents) : Operation → Option ℕ
  | .submit _ _ _ _ _ _ => some (contents.store.seq + 1)
  | _ => none

/-- One step; a call needs a live process. -/
def StoreWorld.step (world : StoreWorld) : StoreAction → OpEnd × StoreWorld
  | .reopen =>
      match world.file.load with
      | some contents => (.returned, { world with memory := some contents })
      | none => (.raised, { world with memory := none })
  | .call operation ends =>
      match world.memory with
      | none => (.crashed, world)
      | some contents =>
          let (saves, after) := operation.apply contents
          if saves then
            let (ended, file) := save floatText after world.file ends
            (ended, {
              memory := if ended = .crashed then none else some after
              file
              issued :=
                if ended = .returned then (operation.number contents).getD world.issued
                else world.issued
            })
          else
            (.returned, { world with memory := some after })

end File

end RomaBridge.Model.ControlPlane
