import RomaBridge.Foundation.Connection
import RomaBridge.Foundation.Paging
import RomaBridge.Foundation.Trace
import RomaBridge.Model.PyValues
import Mathlib.Data.List.Sort

/-! `durability/event_sourcing.py`: the append-only event log on one SQLite connection, its paged
replay, the job projection and the job aggregate.
-/

namespace RomaBridge.Model.EventSourcing

open RomaBridge.Foundation

inductive EventType where
  | jobSubmitted
  | jobQueued
  | jobScheduled
  | jobStarted
  | jobCompleted
  | jobFailed
  | jobCancelled
  | jobQueuedRejected
  | gpuAllocated
  | gpuReleased
  | queueEnqueued
  | queueDequeued
  | controllerStarted
  | controllerStopped
  | nodeRegistered
  | nodeUnregistered
  | reconciliationRun
  | selfHealApplied
  | backpressureTriggered
  | queueSaturationWarn
  | romataskCreated
  | romataskUpdated
  | romataskDeleted
  deriving DecidableEq, Repr

structure Event where
  eventId : String
  eventType : EventType
  aggregateId : String
  tick : ℤ
  timestampNs : ℤ
  payload : JsonDict
  metadata : JsonDict

/-- `Event.create`, given the identifier and the time that it draws. -/
def Event.create (eventType : EventType) (aggregateId : String) (tick : ℤ) (payload : JsonDict)
    (uuid : String) (timeNs : ℤ)
    : Event :=
  ⟨uuid, eventType, aggregateId, tick, timeNs, payload, Table.empty⟩

/-- The largest value of an SQLite `INTEGER`. -/
def maxInteger : ℤ := 9223372036854775807

/-- The smallest value of an SQLite `INTEGER`. -/
def minInteger : ℤ := -9223372036854775808

/-- A Python integer that can be bound to a statement; any other raises `OverflowError`. -/
def isInteger (value : ℤ) : Bool := minInteger ≤ value && value ≤ maxInteger

def Event.storable (event : Event) : Bool := isInteger event.tick && isInteger event.timestampNs

/-- `EventStore`: the connection, and the tick counter that lives in memory. -/
structure EventStore where
  conn : Connection String Event Event.eventId
  tickCounter : ℕ

namespace EventStore

/-- `EventStore(db_path)` on an existing file. -/
def open_ (file : Table String Event Event.eventId) : EventStore := ⟨Connection.connect file, 0⟩

/-- `close()` and a new `EventStore` on the same file. -/
def reopen (store : EventStore) : EventStore := open_ store.conn.rollback.file

def nextTick (store : EventStore) : ℤ × EventStore :=
  (store.tickCounter + 1, { store with tickCounter := store.tickCounter + 1 })

/-- `append_batch`; `false` when it raises. -/
def appendBatch (store : EventStore) (events : List Event) (fault : SqlFault) : Bool × EventStore :=
  let result := store.conn.insertAll Event.storable events fault
  (result.2, { store with conn := result.1 })

/-- `append`; `false` when it raises. -/
def append (store : EventStore) (event : Event) (fault : SqlFault) : Bool × EventStore :=
  store.appendBatch [event] fault

/-- The rows that the store's queries see, in the order of insertion. -/
def rows (store : EventStore) : List Event := store.conn.view.rows

/-- The order of `ORDER BY tick`. -/
def ByTick (left right : Event) : Prop := left.tick ≤ right.tick

instance : DecidableRel ByTick := fun left right => inferInstanceAs (Decidable (left.tick ≤ right.tick))

/-- `get_events_for_aggregate`. Rows with one tick come in the order of insertion. -/
def getEventsForAggregate (store : EventStore) (aggregateId : String) : List Event :=
  (store.rows.filter (fun event => event.aggregateId = aggregateId)).insertionSort ByTick

/-- The rows in the order of `idx_events_tick`. -/
def tickIndex (store : EventStore) : List Event := store.rows.insertionSort ByTick

/-- `get_events_since`: a scan of the index from a tick on. -/
def getEventsSince (store : EventStore) (tick : ℤ) (limit : ℕ) : Except PagingError (List Event) :=
  if isInteger tick then
    .ok ((store.tickIndex.filter (fun event => tick ≤ event.tick)).take limit)
  else .error .range

/-- The loop of `replay_from_tick`, from an offset on. -/
def replayPages (store : EventStore) (tick : ℤ) : ℕ → ℤ → Except PagingError (List Event)
  | 0, _ => .error .fuel
  | fuel + 1, offset => do
      let events ← store.getEventsSince (tick + offset) 100
      match events.getLast? with
      | none => pure []
      | some last =>
          let later ← store.replayPages tick fuel (last.tick - tick + 1)
          pure (events ++ later)

/-- `list(replay_from_tick(tick))`. -/
def replayFromTick (store : EventStore) (fuel : ℕ) (tick : ℤ) : Except PagingError (List Event) :=
  store.replayPages tick fuel 0

end EventStore

/-- The calls that write the log, and the end of one opening of the file. -/
inductive StoreCall where
  | append (event : Event) (fault : SqlFault)
  | appendBatch (events : List Event) (fault : SqlFault)
  | reopen

/-- One call; `false` when it raises. -/
def storeStep (store : EventStore) : StoreCall → Bool × EventStore
  | .append event fault => store.append event fault
  | .appendBatch events fault => store.appendBatch events fault
  | .reopen => (true, store.reopen)

/-- The values of `JobState.status`. -/
inductive JobStatus where
  | unknown
  | submitted
  | queued
  | scheduled
  | running
  | completed
  | failed
  | cancelled
  deriving DecidableEq, Repr

structure JobState where
  jobId : String
  status : JobStatus
  priority : JsonValue
  vramGb : JsonValue
  gpuNode : JsonValue
  createdTick : ℤ
  lastTick : ℤ
  retryCount : ℕ
  error : JsonValue

/-- `JobProjection._apply_event`. -/
def applyEvent (state : JobState) (event : Event) : JobState :=
  match event.eventType with
  | .jobSubmitted =>
      { state with
        status := .submitted
        priority := event.payload.getOr "priority" (.int 5)
        vramGb := event.payload.getOr "vram_gb" (.float 4) }
  | .jobQueued => { state with status := .queued }
  | .jobScheduled =>
      { state with status := .scheduled, gpuNode := event.payload.getOr "node" .null }
  | .jobStarted => { state with status := .running }
  | .jobCompleted => { state with status := .completed }
  | .jobFailed => { state with status := .failed, error := event.payload.getOr "error" .null }
  | .jobCancelled => { state with status := .cancelled }
  | _ => state

/-- The body of the loop of `build_state`. -/
def projectEvent (state : JobState) (event : Event) : JobState :=
  applyEvent { state with lastTick := event.tick } event

/-- `JobProjection.build_state`; the error is the text of the `ValueError`. -/
def buildState (store : EventStore) (jobId : String) : Except String JobState :=
  match store.getEventsForAggregate jobId with
  | [] => .error s!"No events for job {jobId}"
  | first :: rest =>
      .ok ((first :: rest).foldl projectEvent
        { jobId := jobId, status := .unknown, priority := .int 0, vramGb := .float 0,
          gpuNode := .null, createdTick := first.tick, lastTick := first.tick,
          retryCount := 0, error := .null })

/-- The commands of `JobAggregate`, without the job identifier that all of them take. -/
inductive JobCommand where
  | submitJob (priority : ℤ) (vramGb : ℚ) (gpuRequired : Bool)
  | enqueueJob
  | scheduleJob (node : String)
  | startJob
  | completeJob (result : JsonDict)
  | failJob (error : String)
  | allocateGpu (node : String) (vramGb : ℚ)
  | releaseGpu (node : String)

namespace JobCommand

def eventType : JobCommand → EventType
  | .submitJob .. => .jobSubmitted
  | .enqueueJob => .jobQueued
  | .scheduleJob _ => .jobScheduled
  | .startJob => .jobStarted
  | .completeJob _ => .jobCompleted
  | .failJob _ => .jobFailed
  | .allocateGpu .. => .gpuAllocated
  | .releaseGpu _ => .gpuReleased

def payload : JobCommand → JsonDict
  | .submitJob priority vramGb gpuRequired =>
      JsonDict.ofList [("priority", .int priority), ("vram_gb", .float vramGb),
        ("gpu_required", .bool gpuRequired)]
  | .enqueueJob => Table.empty
  | .scheduleJob node => JsonDict.ofList [("node", .str node)]
  | .startJob => Table.empty
  | .completeJob result => JsonDict.ofList [("result", result.toValue)]
  | .failJob error => JsonDict.ofList [("error", .str error)]
  | .allocateGpu node vramGb => JsonDict.ofList [("node", .str node), ("vram_gb", .float vramGb)]
  | .releaseGpu node => JsonDict.ofList [("node", .str node)]

end JobCommand

/-- A command of `JobAggregate`: draw a tick, create the event and append it. `none` when the
append raises.
-/
def issue (store : EventStore) (jobId : String) (command : JobCommand) (uuid : String) (timeNs : ℤ)
    : Option Event × EventStore :=
  let ticked := store.nextTick
  let event := Event.create command.eventType jobId ticked.1 command.payload uuid timeNs
  let result := ticked.2.append event .none
  (if result.1 then some event else none, result.2)

end RomaBridge.Model.EventSourcing
