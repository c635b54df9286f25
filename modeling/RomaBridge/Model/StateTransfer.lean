import RomaBridge.Model.EventStore

/-! `durability/state_store.py` and the `EventStore` below it with payloads and states that are any
Python values: what `json` makes of them in the log and in the snapshot file, and the way of a store
through `export_all` and `import_all`. The text of a float as a key is a parameter.
-/

namespace RomaBridge.Model.StateTransfer

open RomaBridge.Foundation

abbrev Entries := List (PyKey × PyObj)

def keyOf (text : String) : PyKey := .str (PyStr.of text)

def textOf (text : String) : PyObj := .str (PyStr.of text)

/-- `dict.get(key, default)`. -/
def Entries.getOr (entries : Entries) (key : String) (default : PyObj) : PyObj :=
  (getEntry entries (keyOf key)).getD default

/-- `dict[key] = value`. -/
def Entries.put (entries : Entries) (key : String) (value : PyObj) : Entries :=
  setEntry entries (keyOf key) value

/-- `dict.update(other)`. -/
def Entries.update (entries other : Entries) : Entries :=
  other.foldl (fun read entry => setEntry read entry.1 entry.2) entries

structure Event where
  eventId : String
  eventType : String
  jobId : Option String
  payload : Entries
  timestamp : String
  sequence : ℤ

def Event.toDict (event : Event) : Entries :=
  [(keyOf "event_id", textOf event.eventId), (keyOf "event_type", textOf event.eventType),
    (keyOf "job_id", event.jobId.elim .none textOf), (keyOf "payload", .dict event.payload),
    (keyOf "timestamp", textOf event.timestamp), (keyOf "sequence", .int event.sequence)]

/-- The characters of a text without surrogates. -/
def plainChars : PyStr → Option (List Char)
  | [] => some []
  | .char c :: rest => (plainChars rest).map (fun chars => c :: chars)
  | .surrogate _ :: _ => none

/-- A text that a field of the database takes. -/
def plainText : PyObj → Option String
  | .str text => (plainChars text).map String.ofList
  | _ => none

def optionalText : PyObj → Option (Option String)
  | .none => some none
  | value => (plainText value).map some

/-- `Event.from_dict` on a dictionary with the fields of an event, of their types. -/
def Event.fromDict (dict : Entries) : Option Event := do
  let eventId ← (getEntry dict (keyOf "event_id")).bind plainText
  let eventType ← (getEntry dict (keyOf "event_type")).bind plainText
  let jobId ← (getEntry dict (keyOf "job_id")).bind optionalText
  let timestamp ← (getEntry dict (keyOf "timestamp")).bind plainText
  match getEntry dict (keyOf "payload"), getEntry dict (keyOf "sequence") with
  | some (.dict payload), some (.int sequence) =>
      some { eventId, eventType, jobId, payload, timestamp, sequence }
  | _, _ => none

/-- The table `events`, with its payloads as they are read. -/
abbrev EventTable := Table String Event Event.eventId

/-- `SELECT MAX(sequence) FROM events`, or 0. -/
def maxSequence (file : EventTable) : ℤ := ((file.rows.map Event.sequence).max?).getD 0

/-- `EventStore`: the connection, and the sequence number of the last event. -/
structure EventStore where
  conn : Connection String Event Event.eventId
  sequence : ℤ

/-- The order of `ORDER BY sequence`. -/
def BySequence (left right : Event) : Prop := left.sequence ≤ right.sequence

instance : DecidableRel BySequence :=
  fun left right => inferInstanceAs (Decidable (left.sequence ≤ right.sequence))

instance : Std.Total BySequence := ⟨fun left right => Int.le_total left.sequence right.sequence⟩

instance : IsTrans Event BySequence := ⟨fun _ _ _ first second => Int.le_trans first second⟩

namespace EventStore

/-- `EventStore(db_path)` on an existing file. -/
def open_ (file : EventTable) : EventStore := ⟨Connection.connect file, maxSequence file⟩

/-- A new `EventStore` on the same file after the end of the process. -/
def reopen (store : EventStore) : EventStore := open_ store.conn.rollback.file

def rows (store : EventStore) : List Event := store.conn.view.rows

/-- `replay`, without a filter. -/
def replay (store : EventStore) (fromSequence : ℤ) : List Event :=
  (store.rows.filter (fun event => fromSequence < event.sequence)).insertionSort BySequence

def getEventsForJob (store : EventStore) (jobId : String) : List Event :=
  (store.rows.filter (fun event => event.jobId = some jobId)).insertionSort BySequence

def exportEvents (store : EventStore) (fromSeq : ℤ := 0) : List Entries :=
  (store.replay fromSeq).map Event.toDict

/-- `Event(event_type=..., job_id=..., payload=payload or {})`, given what it draws. -/
def newEvent (eventType : Durability.EventType) (jobId : Option String) (payload : Option Entries)
    (uuid timestamp : String)
    : Event :=
  ⟨uuid, eventType.value, jobId, payload.getD [], timestamp, 0⟩

section Json

variable (floatText : PyFloat → String)

/-- `append`: the event object that is returned, or nothing when the call raises and rolls back. -/
def append (store : EventStore) (event : Event) (fault : SqlFault) : Option Event × EventStore :=
  match jsonCopyEntries floatText [] event.payload with
  | none => (none, { store with conn := store.conn.rollback })
  | some copy =>
      let row := { event with payload := copy, sequence := store.sequence + 1 }
      let result := store.conn.insertAll (fun _ => true) [row] fault
      if result.2 then
        (some { event with sequence := store.sequence + 1 }, ⟨result.1, store.sequence + 1⟩)
      else
        (none, ⟨result.1.rollback, store.sequence⟩)

def emit (store : EventStore) (eventType : Durability.EventType) (jobId : Option String)
    (payload : Option Entries) (uuid timestamp : String) (fault : SqlFault)
    : Option Event × EventStore :=
  store.append floatText (newEvent eventType jobId payload uuid timestamp) fault

end Json

end EventStore

/-- The snapshot file: none, one whose writing was cut, or a document as it is read. -/
inductive SnapshotsFile where
  | absent
  | torn
  | json (document : PyObj)

/-- How the writing of the snapshot file ends, apart from `json`. -/
inductive WriteEnd where
  | done
  | unopened
  | cut

def loadSnapshots : SnapshotsFile → Entries
  | .json (.dict entries) =>
      match getEntry entries (keyOf "snapshots") with
      | some (.dict snapshots) => snapshots
      | _ => []
  | _ => []

/-- `_save_snapshots`; `false` when it raises. -/
def saveSnapshots (floatText : PyFloat → String) (snapshots : Entries) (file : SnapshotsFile)
    : WriteEnd → Bool × SnapshotsFile
  | .unopened => (false, file)
  | .cut => (false, .torn)
  | .done =>
      match jsonCopy floatText (.dict [(keyOf "snapshots", .dict snapshots)]) with
      | some document => (true, .json document)
      | none => (false, .torn)

/-- `StateStore`: its event store, the snapshots in memory and the snapshot file. -/
structure StateStore where
  eventStore : EventStore
  snapshots : Entries
  snapshotsFile : SnapshotsFile

structure Export where
  snapshots : Entries
  events : List Entries

namespace StateStore

/-- `StateStore(db_path)` on an empty path. -/
def new : StateStore := ⟨EventStore.open_ Table.empty, loadSnapshots .absent, .absent⟩

/-- A new `StateStore` on the same path after the end of the process. -/
def reopen (store : StateStore) : StateStore :=
  ⟨store.eventStore.reopen, loadSnapshots store.snapshotsFile, store.snapshotsFile⟩

/-- The body of the loop of `get_job_state`. -/
def stateEvent (state : Entries) (event : Event) : Entries :=
  let marked :=
    if event.eventType = Durability.EventType.jobSubmitted.value then
      (state.put "status" (textOf "submitted")).put "priority"
        (Entries.getOr event.payload "priority" (.int 5))
    else if event.eventType = Durability.EventType.jobQueued.value then
      state.put "status" (textOf "queued")
    else if event.eventType = Durability.EventType.jobDispatched.value then
      ((state.put "status" (textOf "dispatched")).put "manifest"
        (Entries.getOr event.payload "manifest" .none)).put "execution_mode"
        (Entries.getOr event.payload "mode" .none)
    else if event.eventType = Durability.EventType.jobStarted.value then
      (state.put "status" (textOf "running")).put "started_at" (textOf event.timestamp)
    else if event.eventType = Durability.EventType.jobCompleted.value then
      ((state.put "status" (textOf "completed")).put "finished_at" (textOf event.timestamp)).put
        "result" (.dict event.payload)
    else if event.eventType = Durability.EventType.jobFailed.value then
      ((state.put "status" (textOf "failed")).put "finished_at" (textOf event.timestamp)).put
        "error" (Entries.getOr event.payload "error" .none)
    else if event.eventType = Durability.EventType.jobCancelled.value then
      state.put "status" (textOf "cancelled")
    else if event.eventType = Durability.EventType.gpuLocked.value then
      (state.put "gpu_used" (.bool true)).put "gpu_vram_mb"
        (Entries.getOr event.payload "vram_mb" (.int 0))
    else if event.eventType = Durability.EventType.gpuReleased.value then
      state.put "gpu_used" (.bool false)
    else state
  marked.update event.payload

/-- The state from which `get_job_state` folds. -/
def initialState (jobId : String) : Entries :=
  [(keyOf "job_id", textOf jobId), (keyOf "status", textOf "unknown"),
    (keyOf "gpu_used", .bool false), (keyOf "attempts", .int 0)]

def getJobState (store : StateStore) (jobId : String) : Entries :=
  (store.eventStore.getEventsForJob jobId).foldl stateEvent (initialState jobId)

def exportAll (store : StateStore) : Export := ⟨store.snapshots, store.eventStore.exportEvents⟩

/-- The body of the loop of `rollback_to_sequence`. -/
def rollbackEvent (state : Entries) (event : Event) : Entries :=
  if event.eventType = Durability.EventType.jobStarted.value then
    state.put "status" (textOf "running")
  else if event.eventType = Durability.EventType.jobCompleted.value then
    state.put "status" (textOf "completed")
  else if event.eventType = Durability.EventType.jobFailed.value then
    (state.put "status" (textOf "failed")).put "error" (Entries.getOr event.payload "error" .none)
  else state

/-- The state that `rollback_to_sequence` saves, unless the job has no event so early. -/
def rolledBack (store : StateStore) (jobId : String) (targetSequence : ℤ) : Option Entries :=
  let preEvents := (store.eventStore.getEventsForJob jobId).filter
    (fun event => event.sequence ≤ targetSequence)
  if preEvents.isEmpty then none
  else some (preEvents.foldl rollbackEvent [(keyOf "job_id", textOf jobId)])

section Json

variable (floatText : PyFloat → String)

/-- `save_job_state`: the state is in memory before the file is written, and a call that cannot write
the file raises there. The event of a call that returns, or nothing.
-/
def saveJobState (store : StateStore) (jobId : String) (state : Entries) (ends : WriteEnd)
    (uuid timestamp : String) (fault : SqlFault)
    : Option Event × StateStore :=
  let snapshots := store.snapshots.put jobId (.dict state)
  let saved := saveSnapshots floatText snapshots store.snapshotsFile ends
  if saved.1 then
    let emitted := store.eventStore.emit floatText .systemStartup (some jobId)
      (some [(keyOf "type", textOf "snapshot"), (keyOf "state", .dict state)]) uuid timestamp fault
    (emitted.1, ⟨emitted.2, snapshots, saved.2⟩)
  else
    (none, ⟨store.eventStore, snapshots, saved.2⟩)

/-- `rollback_to_sequence`; nothing when it raises. -/
def rollbackToSequence (store : StateStore) (jobId : String) (targetSequence : ℤ) (ends : WriteEnd)
    (uuid timestamp : String) (fault : SqlFault)
    : Option Bool × StateStore :=
  match store.rolledBack jobId targetSequence with
  | none => (some false, store)
  | some tempState =>
      let saved := store.saveJobState floatText jobId tempState ends uuid timestamp fault
      (saved.1.map (fun _ => true), saved.2)

/-- The loop of `import_all`; `false` when an event is refused. -/
def appendDicts (store : EventStore) : List Entries → List SqlFault → Bool × EventStore
  | [], _ => (true, store)
  | dict :: rest, faults =>
      match Event.fromDict dict with
      | none => (false, store)
      | some event =>
          let appended := store.append floatText event (faults.headD .none)
          if appended.1.isSome then appendDicts appended.2 rest faults.tail
          else (false, appended.2)

/-- `import_all`; `false` when it raises. -/
def importAll (store : StateStore) (data : Export) (ends : WriteEnd) (faults : List SqlFault)
    : Bool × StateStore :=
  let saved := saveSnapshots floatText data.snapshots store.snapshotsFile ends
  if saved.1 then
    let appended := appendDicts floatText store.eventStore data.events faults
    (appended.1, ⟨appended.2, data.snapshots, saved.2⟩)
  else
    (false, ⟨store.eventStore, data.snapshots, saved.2⟩)

end Json

end StateStore

end RomaBridge.Model.StateTransfer
