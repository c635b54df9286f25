import RomaBridge.Foundation.Connection
import RomaBridge.Foundation.Trace
import RomaBridge.Model.PyValues
import Mathlib.Data.List.Sort

/-! `durability/event_store.py` and `durability/state_store.py`: the event log with a sequence
number per event, and the job states folded from it. Sequence numbers are counted up from the
stored ones and are taken to fit their column.
-/

namespace RomaBridge.Model.Durability

open RomaBridge.Foundation

inductive EventType where
  | jobSubmitted
  | jobQueued
  | jobDispatched
  | jobStarted
  | jobCompleted
  | jobFailed
  | jobCancelled
  | gpuLocked
  | gpuReleased
  | reconcilerSync
  | reconcilerRepair
  | systemStartup
  | systemShutdown
  deriving DecidableEq, Repr

def EventType.value : EventType → String
  | .jobSubmitted => "job.submitted"
  | .jobQueued => "job.queued"
  | .jobDispatched => "job.dispatched"
  | .jobStarted => "job.started"
  | .jobCompleted => "job.completed"
  | .jobFailed => "job.failed"
  | .jobCancelled => "job.cancelled"
  | .gpuLocked => "gpu.locked"
  | .gpuReleased => "gpu.released"
  | .reconcilerSync => "reconciler.sync"
  | .reconcilerRepair => "reconciler.repair"
  | .systemStartup => "system.startup"
  | .systemShutdown => "system.shutdown"

/-- `Event`; its type is any text, those of `EventType` among them. -/
structure Event where
  eventId : String
  eventType : String
  jobId : Option String
  payload : JsonDict
  timestamp : String
  sequence : ℤ

def Event.toDict (event : Event) : JsonDict :=
  JsonDict.ofList [("event_id", .str event.eventId), ("event_type", .str event.eventType),
    ("job_id", event.jobId.elim .null .str), ("payload", event.payload.toValue),
    ("timestamp", .str event.timestamp), ("sequence", .int event.sequence)]

abbrev EventTable := Table String Event Event.eventId

/-- `SELECT MAX(sequence) FROM events`, or 0. -/
def maxSequence (file : EventTable) : ℤ := ((file.rows.map Event.sequence).max?).getD 0

/-- `EventStore`: the connection, and the sequence number of the last event. -/
structure EventStore where
  conn : Connection String Event Event.eventId
  sequence : ℤ

/-- How an append ended: whether it returned, and the event object after it. -/
structure Appended where
  returned : Bool
  event : Event

namespace EventStore

/-- `EventStore(db_path)` on an existing file. -/
def open_ (file : EventTable) : EventStore := ⟨Connection.connect file, maxSequence file⟩

/-- `close()` and a new `EventStore` on the same file. -/
def reopen (store : EventStore) : EventStore := open_ store.conn.rollback.file

/-- `append`: the event object and the counter take the next number after the commit only, and a
call that raises rolls back.
-/
def append (store : EventStore) (event : Event) (fault : SqlFault) : Appended × EventStore :=
  let numbered := { event with sequence := store.sequence + 1 }
  let result := store.conn.insertAll (fun _ => true) [numbered] fault
  if result.2 then (⟨true, numbered⟩, ⟨result.1, store.sequence + 1⟩)
  else (⟨false, event⟩, ⟨result.1.rollback, store.sequence⟩)

/-- `Event(event_type=..., job_id=..., payload=payload or {})`, given what it draws. -/
def newEvent (eventType : EventType) (jobId : Option String) (payload : Option JsonDict)
    (uuid timestamp : String)
    : Event :=
  ⟨uuid, eventType.value, jobId, payload.getD Table.empty, timestamp, 0⟩

def emit (store : EventStore) (eventType : EventType) (jobId : Option String)
    (payload : Option JsonDict) (uuid timestamp : String) (fault : SqlFault)
    : Appended × EventStore :=
  store.append (newEvent eventType jobId payload uuid timestamp) fault

def rows (store : EventStore) : List Event := store.conn.view.rows

/-- The order of `ORDER BY sequence`. -/
def BySequence (left right : Event) : Prop := left.sequence ≤ right.sequence

instance : DecidableRel BySequence :=
  fun left right => inferInstanceAs (Decidable (left.sequence ≤ right.sequence))

instance : Std.Total BySequence := ⟨fun left right => Int.le_total left.sequence right.sequence⟩

instance : IsTrans Event BySequence := ⟨fun _ _ _ first second => Int.le_trans first second⟩

/-- `event_type IN (...)`; without a filter, or with an empty one, the clause is left out. -/
def passes (filter : Option (List String)) (eventType : String) : Bool :=
  match filter with
  | none | some [] => true
  | some types => eventType ∈ types

/-- `replay` on the rows of a table. -/
def replayRows (rows : List Event) (fromSequence : ℤ) (filter : Option (List String))
    : List Event :=
  (rows.filter (fun event => fromSequence < event.sequence
    && passes filter event.eventType)).insertionSort BySequence

def replay (store : EventStore) (fromSequence : ℤ) (filter : Option (List String)) : List Event :=
  replayRows store.rows fromSequence filter

def getEventsSince (store : EventStore) (since : ℤ) : List Event := store.replay since none

def getEventsForJob (store : EventStore) (jobId : String) : List Event :=
  (store.rows.filter (fun event => event.jobId = some jobId)).insertionSort BySequence

def getLatestSequence (store : EventStore) : ℤ := store.sequence

/-- The body of the loop of `replay_to_state`. -/
def replayEvent (state : JsonDict) (event : Event) : JsonDict :=
  let marked :=
    if event.eventType = EventType.jobCompleted.value then
      state.set "status" (.str "completed")
    else if event.eventType = EventType.jobFailed.value then
      (state.set "status" (.str "failed")).set "error"
        (event.payload.getOr "error" (.str "unknown"))
    else if event.eventType = EventType.jobCancelled.value then
      state.set "status" (.str "cancelled")
    else if event.eventType = EventType.jobStarted.value then
      state.set "status" (.str "running")
    else if event.eventType = EventType.gpuLocked.value then
      state.set "gpu_used" (.bool true)
    else state
  marked.set "final_state" event.payload.toValue

def replayToState (store : EventStore) (jobId : String) : JsonDict :=
  let events := store.getEventsForJob jobId
  events.foldl replayEvent
    (JsonDict.ofList [("job_id", .str jobId), ("status", .str "unknown"),
      ("gpu_used", .bool false),
      ("events", .list (events.map (fun event => event.toDict.toValue))),
      ("final_state", .dict [])])

end EventStore

/-- `StateStore`: its event store, the snapshots in memory and the snapshot file. -/
structure StateStore where
  events : EventStore
  snapshots : Table String (String × JsonDict) Prod.fst
  snapshotsFile : Table String (String × JsonDict) Prod.fst

namespace StateStore

/-- The body of the loop of `get_job_state`. -/
def stateEvent (state : JsonDict) (event : Event) : JsonDict :=
  let marked :=
    if event.eventType = EventType.jobSubmitted.value then
      (state.set "status" (.str "submitted")).set "priority"
        (event.payload.getOr "priority" (.int 5))
    else if event.eventType = EventType.jobQueued.value then
      state.set "status" (.str "queued")
    else if event.eventType = EventType.jobDispatched.value then
      ((state.set "status" (.str "dispatched")).set "manifest"
        (event.payload.getOr "manifest" .null)).set "execution_mode"
        (event.payload.getOr "mode" .null)
    else if event.eventType = EventType.jobStarted.value then
      (state.set "status" (.str "running")).set "started_at" (.str event.timestamp)
    else if event.eventType = EventType.jobCompleted.value then
      ((state.set "status" (.str "completed")).set "finished_at" (.str event.timestamp)).set
        "result" event.payload.toValue
    else if event.eventType = EventType.jobFailed.value then
      ((state.set "status" (.str "failed")).set "finished_at" (.str event.timestamp)).set
        "error" (event.payload.getOr "error" .null)
    else if event.eventType = EventType.jobCancelled.value then
      state.set "status" (.str "cancelled")
    else if event.eventType = EventType.gpuLocked.value then
      (state.set "gpu_used" (.bool true)).set "gpu_vram_mb"
        (event.payload.getOr "vram_mb" (.int 0))
    else if event.eventType = EventType.gpuReleased.value then
      state.set "gpu_used" (.bool false)
    else state
  marked.update event.payload

/-- The state from which `get_job_state` folds. -/
def initialState (jobId : String) : JsonDict :=
  JsonDict.ofList [("job_id", .str jobId), ("status", .str "unknown"), ("gpu_used", .bool false),
    ("attempts", .int 0)]

def getJobState (store : StateStore) (jobId : String) : JsonDict :=
  (store.events.getEventsForJob jobId).foldl stateEvent (initialState jobId)

/-- `save_job_state`; `false` when the emit raises. -/
def saveJobState (store : StateStore) (jobId : String) (state : JsonDict) (uuid timestamp : String)
    (fault : SqlFault)
    : Bool × StateStore :=
  let snapshots := store.snapshots.put (jobId, state)
  let result := store.events.emit .systemStartup (some jobId)
    (some (JsonDict.ofList [("type", .str "snapshot"), ("state", state.toValue)])) uuid timestamp
    fault
  (result.1.returned, ⟨result.2, snapshots, snapshots⟩)

/-- The body of the loop of `rollback_to_sequence`. -/
def rollbackEvent (state : JsonDict) (event : Event) : JsonDict :=
  if event.eventType = EventType.jobStarted.value then
    state.set "status" (.str "running")
  else if event.eventType = EventType.jobCompleted.value then
    state.set "status" (.str "completed")
  else if event.eventType = EventType.jobFailed.value then
    (state.set "status" (.str "failed")).set "error" (event.payload.getOr "error" .null)
  else state

/-- `rollback_to_sequence`; `none` when it raises. -/
def rollbackToSequence (store : StateStore) (jobId : String) (targetSequence : ℤ)
    (uuid timestamp : String) (fault : SqlFault)
    : Option Bool × StateStore :=
  let preEvents := (store.events.getEventsForJob jobId).filter
    (fun event => event.sequence ≤ targetSequence)
  if preEvents.isEmpty then (some false, store)
  else
    let tempState := preEvents.foldl rollbackEvent (JsonDict.ofList [("job_id", .str jobId)])
    let saved := store.saveJobState jobId tempState uuid timestamp fault
    (if saved.1 then some true else none, saved.2)

end StateStore

end RomaBridge.Model.Durability
