import RomaBridge.Foundation.StableSort
import RomaBridge.Properties.EventSequence

/-! The two folds of a job's log, and rolling a job back. `replay_to_state` knows five event types,
`get_job_state` nine, and the latter merges every payload into the state. `rollback_to_sequence`
appends a snapshot event that no reader honours, so the job's state afterwards is the one before.
-/

namespace RomaBridge.Properties

open RomaBridge.Foundation RomaBridge.Model.Durability
open RomaBridge.Model (JsonDict JsonValue)

-- What an event writes

def lifecycleStatus (event : Event) : Option String :=
  if event.eventType = EventType.jobSubmitted.value then some "submitted"
  else if event.eventType = EventType.jobQueued.value then some "queued"
  else if event.eventType = EventType.jobDispatched.value then some "dispatched"
  else if event.eventType = EventType.jobStarted.value then some "running"
  else if event.eventType = EventType.jobCompleted.value then some "completed"
  else if event.eventType = EventType.jobFailed.value then some "failed"
  else if event.eventType = EventType.jobCancelled.value then some "cancelled"
  else none

/-- The statuses that only `get_job_state` knows. -/
def earlyStatuses : List String := ["submitted", "queued", "dispatched"]

def gpuMark (event : Event) : Option Bool :=
  if event.eventType = EventType.gpuLocked.value then some true
  else if event.eventType = EventType.gpuReleased.value then some false
  else none

/-- The events since the last lifecycle event, that one included; all of them if there is none. -/
def sinceLifecycle (events : List Event) : List Event :=
  events.foldl (fun kept event => if (lifecycleStatus event).isSome then [event] else kept ++ [event])
    []

def lastOverride (key : String) (events : List Event) : Option JsonValue :=
  (events.filterMap (fun event => event.payload.get? key)).getLast?

/-- The last word on the GPU: of a payload with the key `gpu_used`, else of the event itself. -/
def lastGpuWord (events : List Event) : Option JsonValue :=
  (events.filterMap (fun event =>
    (event.payload.get? "gpu_used").or ((gpuMark event).map .bool))).getLast?

def lastLifecycle (events : List Event) : Option String :=
  (events.filterMap lifecycleStatus).getLast?

/-- The events do not tell the two folds apart. -/
structure Indistinct (events : List Event) : Prop where
  /-- The last lifecycle event is no submission, queueing or dispatch. -/
  late : ∀ status, lastLifecycle events = some status → status ∉ earlyStatuses
  /-- No payload since then gives another status under the key `status`. -/
  unforced : ∀ value, lastOverride "status" (sinceLifecycle events) = some value
    → value = .str ((lastLifecycle events).getD "unknown")
  /-- The last word on the GPU is `true` if it was ever locked, else `false` if there is one. -/
  gpu : if events.any (fun event => event.eventType = EventType.gpuLocked.value)
    then lastGpuWord events = some (.bool true)
    else lastGpuWord events = none ∨ lastGpuWord events = some (.bool false)

-- The two folds, key by key

/-- A fold whose step overwrites a key holds the last value written, by induction on the events. -/
theorem get?_foldl {step : JsonDict → Event → JsonDict} {key : String}
    {write : Event → Option JsonValue}
    (writes : ∀ state event, (step state event).get? key = (write event).or (state.get? key))
    (events : List Event) (state : JsonDict)
    : (events.foldl step state).get? key
      = ((events.filterMap write).getLast?).or (state.get? key) := by
  induction events generalizing state with
  | nil => rfl
  | cons event rest ih =>
      rw [List.foldl_cons, ih, writes, List.filterMap_cons]
      cases write event with
      | none => rfl
      | some value =>
          rw [List.getLast?_cons]
          cases (rest.filterMap write).getLast? <;> rfl

/-- The status that `replay_to_state` gives to a lifecycle event. -/
def replayStatus (event : Event) : Option String :=
  if event.eventType = EventType.jobCompleted.value then some "completed"
  else if event.eventType = EventType.jobFailed.value then some "failed"
  else if event.eventType = EventType.jobCancelled.value then some "cancelled"
  else if event.eventType = EventType.jobStarted.value then some "running"
  else none

theorem replayEvent_status (state : JsonDict) (event : Event)
    : (EventStore.replayEvent state event).get? "status"
      = ((replayStatus event).map JsonValue.str).or (state.get? "status") := by
  unfold EventStore.replayEvent replayStatus
  split_ifs <;> simp only [JsonDict.get?_set, String.reduceEq, if_true, if_false, Option.map_some,
    Option.map_none, Option.some_or, Option.none_or]

theorem stateEvent_status (state : JsonDict) (event : Event)
    : (StateStore.stateEvent state event).get? "status"
      = ((event.payload.get? "status").or ((lifecycleStatus event).map .str)).or
        (state.get? "status") := by
  simp only [StateStore.stateEvent, lifecycleStatus, JsonDict.get?_update, Option.or_assoc,
    apply_ite (fun dict => JsonDict.get? dict "status"), JsonDict.get?_set, String.reduceEq,
    if_true, if_false, apply_ite (Option.map JsonValue.str), Option.map_some, Option.map_none,
    apply_ite (fun mark => Option.or mark (state.get? "status")), Option.some_or, Option.none_or,
    ite_self]

theorem replayEvent_gpu (state : JsonDict) (event : Event)
    : (EventStore.replayEvent state event).get? "gpu_used"
      = (if event.eventType = EventType.gpuLocked.value then some (.bool true) else none).or
        (state.get? "gpu_used") := by
  by_cases locked : event.eventType = EventType.gpuLocked.value
  · simp [EventStore.replayEvent, locked, EventType.value]
  · simp only [EventStore.replayEvent, locked, if_false, Option.none_or]
    split_ifs <;> simp only [JsonDict.get?_set, String.reduceEq, if_false]

theorem stateEvent_gpu (state : JsonDict) (event : Event)
    : (StateStore.stateEvent state event).get? "gpu_used"
      = ((event.payload.get? "gpu_used").or ((gpuMark event).map .bool)).or
        (state.get? "gpu_used") := by
  simp only [StateStore.stateEvent, JsonDict.get?_update, Option.or_assoc,
    apply_ite (fun dict => JsonDict.get? dict "gpu_used"), JsonDict.get?_set, String.reduceEq,
    if_true, if_false]
  by_cases locked : event.eventType = EventType.gpuLocked.value
  · simp [gpuMark, locked, EventType.value]
  · by_cases released : event.eventType = EventType.gpuReleased.value
    · simp [gpuMark, released, EventType.value]
    · simp only [gpuMark, locked, released, if_false, Option.map_none, Option.none_or, ite_self]

-- The status

theorem getLast?_filterMap_snoc {β : Type} {write : Event → Option β} (events : List Event)
    (event : Event)
    : ((events ++ [event]).filterMap write).getLast?
      = (write event).or ((events.filterMap write).getLast?) := by
  rw [List.filterMap_append, List.getLast?_append, List.filterMap_cons, List.filterMap_nil]
  cases write event <;> rfl

theorem lastLifecycle_snoc (events : List Event) (event : Event)
    : lastLifecycle (events ++ [event]) = (lifecycleStatus event).or (lastLifecycle events) :=
  getLast?_filterMap_snoc events event

theorem sinceLifecycle_snoc (events : List Event) (event : Event)
    : sinceLifecycle (events ++ [event])
      = if (lifecycleStatus event).isSome then [event] else sinceLifecycle events ++ [event] := by
  simp [sinceLifecycle]

/-- The last status that `get_job_state` writes is that of a payload since the last lifecycle
event, else that of the lifecycle event. Witness: induction on the events from the end.
-/
theorem lastStatus_eq (events : List Event)
    : (events.filterMap (fun event =>
        (event.payload.get? "status").or ((lifecycleStatus event).map .str))).getLast?
      = (lastOverride "status" (sinceLifecycle events)).or
        ((lastLifecycle events).map JsonValue.str) := by
  induction events using List.reverseRecOn with
  | nil => rfl
  | append_singleton events event ih =>
      rw [getLast?_filterMap_snoc, ih, lastLifecycle_snoc, sinceLifecycle_snoc]
      cases lifecycleStatus event with
      | some status =>
          simp only [Option.isSome_some, if_true, lastOverride, List.filterMap_cons,
            List.filterMap_nil]
          cases event.payload.get? "status" <;> simp
      | none =>
          simp only [Option.isSome_none, Bool.false_eq_true, if_false, lastOverride,
            getLast?_filterMap_snoc]
          cases event.payload.get? "status" <;> simp

theorem lifecycleStatus_cases (event : Event)
    : (∃ status ∈ earlyStatuses, lifecycleStatus event = some status ∧ replayStatus event = none)
      ∨ lifecycleStatus event = replayStatus event := by
  by_cases submitted : event.eventType = EventType.jobSubmitted.value
  · exact .inl ⟨"submitted", by decide, by simp [lifecycleStatus, submitted],
      by simp [replayStatus, submitted, EventType.value]⟩
  · by_cases queued : event.eventType = EventType.jobQueued.value
    · exact .inl ⟨"queued", by decide, by simp [lifecycleStatus, queued, EventType.value],
        by simp [replayStatus, queued, EventType.value]⟩
    · by_cases dispatched : event.eventType = EventType.jobDispatched.value
      · exact .inl ⟨"dispatched", by decide,
          by simp [lifecycleStatus, dispatched, EventType.value],
          by simp [replayStatus, dispatched, EventType.value]⟩
      · refine .inr ?_
        by_cases started : event.eventType = EventType.jobStarted.value
        · simp [lifecycleStatus, replayStatus, started, EventType.value]
        · simp only [lifecycleStatus, replayStatus, submitted, queued, dispatched, started,
            if_false]

theorem replayStatus_late {event : Event} {status : String}
    (given : replayStatus event = some status)
    : status ∉ earlyStatuses := by
  unfold replayStatus at given
  split_ifs at given <;> cases given <;> decide

/-- The last lifecycle event is early, or both folds take its status, by induction on the events
from the end.
-/
theorem lastLifecycle_cases (events : List Event)
    : (∃ status ∈ earlyStatuses, lastLifecycle events = some status)
      ∨ lastLifecycle events = (events.filterMap replayStatus).getLast? := by
  induction events using List.reverseRecOn with
  | nil => exact .inr rfl
  | append_singleton events event ih =>
      rw [lastLifecycle_snoc, getLast?_filterMap_snoc]
      rcases lifecycleStatus_cases event with ⟨status, early, life, _⟩ | same
      · exact .inl ⟨status, early, by simp [life]⟩
      · rw [same]
        cases replayed : replayStatus event with
        | some status => exact .inr rfl
        | none => simpa using ih

theorem late_iff (events : List Event)
    : ((events.filterMap replayStatus).getLast?).getD "unknown"
        = (lastLifecycle events).getD "unknown"
      ↔ ∀ status, lastLifecycle events = some status → status ∉ earlyStatuses := by
  have replayed : ((events.filterMap replayStatus).getLast?).getD "unknown" ∉ earlyStatuses := by
    cases found : (events.filterMap replayStatus).getLast? with
    | none => decide
    | some status =>
        obtain ⟨event, _, given⟩ := List.mem_filterMap.mp (List.mem_of_getLast? found)
        exact replayStatus_late given
  constructor
  · intro same status last early
    rw [same, last] at replayed
    exact replayed early
  · intro late
    rcases lastLifecycle_cases events with ⟨status, early, last⟩ | same
    · exact absurd early (late status last)
    · rw [same]

-- Both folds of one log

def replayFold (jobId : String) (events : List Event) : JsonDict :=
  events.foldl EventStore.replayEvent
    (JsonDict.ofList [("job_id", .str jobId), ("status", .str "unknown"),
      ("gpu_used", .bool false),
      ("events", .list (events.map (fun event => event.toDict.toValue))),
      ("final_state", .dict [])])

def stateFold (jobId : String) (events : List Event) : JsonDict :=
  events.foldl StateStore.stateEvent (StateStore.initialState jobId)

def withoutPayloads (events : List Event) : List Event :=
  events.map (fun event => { event with payload := Table.empty })

/-- The two folds of a job's log give one status and one GPU flag, and neither status changes when
the payloads are emptied.
-/
structure FoldsAgree (store : StateStore) (jobId : String) : Prop where
  status : (store.events.replayToState jobId).get? "status" = (store.getJobState jobId).get? "status"
  gpu : (store.events.replayToState jobId).get? "gpu_used"
    = (store.getJobState jobId).get? "gpu_used"
  replayed : (replayFold jobId (withoutPayloads (store.events.getEventsForJob jobId))).get? "status"
    = (store.events.replayToState jobId).get? "status"
  folded : (stateFold jobId (withoutPayloads (store.events.getEventsForJob jobId))).get? "status"
    = (store.getJobState jobId).get? "status"

theorem replayFold_status (jobId : String) (events : List Event)
    : (replayFold jobId events).get? "status"
      = some (.str (((events.filterMap replayStatus).getLast?).getD "unknown")) := by
  have strings : (events.filterMap (fun event => (replayStatus event).map JsonValue.str)).getLast?
      = ((events.filterMap replayStatus).getLast?).map JsonValue.str := by
    rw [← List.getLast?_map, List.map_filterMap]
  rw [replayFold, get?_foldl replayEvent_status, strings]
  cases (events.filterMap replayStatus).getLast? <;> rfl

theorem stateFold_status (jobId : String) (events : List Event)
    : (stateFold jobId events).get? "status"
      = some ((lastOverride "status" (sinceLifecycle events)).getD
        (.str ((lastLifecycle events).getD "unknown"))) := by
  rw [stateFold, get?_foldl stateEvent_status, lastStatus_eq]
  cases lastOverride "status" (sinceLifecycle events) <;> cases lastLifecycle events <;> rfl

theorem replayFold_gpu (jobId : String) (events : List Event)
    : (replayFold jobId events).get? "gpu_used"
      = some (.bool (events.any (fun event => event.eventType = EventType.gpuLocked.value))) := by
  rw [replayFold, get?_foldl replayEvent_gpu]
  cases found : (events.filterMap (fun event =>
      if event.eventType = EventType.gpuLocked.value then some (JsonValue.bool true)
      else none)).getLast? with
  | none =>
      rw [List.getLast?_eq_none_iff, List.filterMap_eq_nil_iff] at found
      have never : events.any (fun event => event.eventType = EventType.gpuLocked.value) = false := by
        rw [List.any_eq_false]
        intro event member locked
        have silent := found event member
        simp_all
      rw [never]
      rfl
  | some value =>
      obtain ⟨event, member, given⟩ := List.mem_filterMap.mp (List.mem_of_getLast? found)
      rw [Option.ite_none_right_eq_some] at given
      have once : events.any (fun event => event.eventType = EventType.gpuLocked.value) = true :=
        List.any_eq_true.mpr ⟨event, member, by simpa using given.1⟩
      rw [once, ← Option.some.inj given.2]
      rfl

theorem stateFold_gpu (jobId : String) (events : List Event)
    : (stateFold jobId events).get? "gpu_used" = some ((lastGpuWord events).getD (.bool false)) := by
  rw [stateFold, get?_foldl stateEvent_gpu, lastGpuWord]
  cases (events.filterMap (fun event =>
    (event.payload.get? "gpu_used").or ((gpuMark event).map .bool))).getLast? <;> rfl

theorem mem_sinceLifecycle {events : List Event} {event : Event}
    (member : event ∈ sinceLifecycle events)
    : event ∈ events := by
  induction events using List.reverseRecOn with
  | nil => exact member
  | append_singleton events last ih =>
      rw [sinceLifecycle_snoc] at member
      split at member
      · exact List.mem_append_right _ member
      · rcases List.mem_append.mp member with earlier | here
        · exact List.mem_append_left _ (ih earlier)
        · exact List.mem_append_right _ here

theorem stateFold_withoutPayloads (jobId : String) (events : List Event)
    : (stateFold jobId (withoutPayloads events)).get? "status"
      = some (.str ((lastLifecycle events).getD "unknown")) := by
  have life : lastLifecycle (withoutPayloads events) = lastLifecycle events := by
    unfold lastLifecycle withoutPayloads
    rw [List.filterMap_map]
    rfl
  have silent : lastOverride "status" (sinceLifecycle (withoutPayloads events)) = none := by
    rw [lastOverride, List.getLast?_eq_none_iff, List.filterMap_eq_nil_iff]
    intro event member
    obtain ⟨full, _, rfl⟩ := List.mem_map.mp (mem_sinceLifecycle member)
    rfl
  rw [stateFold_status, silent, life]
  rfl

theorem replayFold_withoutPayloads (jobId : String) (events : List Event)
    : (replayFold jobId (withoutPayloads events)).get? "status"
      = (replayFold jobId events).get? "status" := by
  rw [replayFold_status, replayFold_status, withoutPayloads, List.filterMap_map]
  rfl

theorem gpu_iff (events : List Event)
    : JsonValue.bool (events.any (fun event => event.eventType = EventType.gpuLocked.value))
        = (lastGpuWord events).getD (.bool false)
      ↔ if events.any (fun event => event.eventType = EventType.gpuLocked.value)
        then lastGpuWord events = some (.bool true)
        else lastGpuWord events = none ∨ lastGpuWord events = some (.bool false) := by
  cases events.any (fun event => event.eventType = EventType.gpuLocked.value) with
  | true =>
      cases lastGpuWord events <;> simp [eq_comm]
  | false =>
      cases lastGpuWord events <;> simp [eq_comm]

/-- For every event log and every job, the two folds give the same status and the same GPU flag,
with a status that no payload decides, if and only if the job's events do not tell them apart.
-/
theorem job_folds_agree_iff (store : StateStore) (jobId : String)
    : FoldsAgree store jobId ↔ Indistinct (store.events.getEventsForJob jobId) := by
  have replayed : store.events.replayToState jobId
      = replayFold jobId (store.events.getEventsForJob jobId) := rfl
  have folded : store.getJobState jobId = stateFold jobId (store.events.getEventsForJob jobId) := rfl
  constructor
  · intro ⟨status, gpu, _, own⟩
    rw [replayed, folded, replayFold_status, stateFold_status] at status
    rw [folded, stateFold_withoutPayloads, stateFold_status] at own
    rw [replayed, folded, replayFold_gpu, stateFold_gpu] at gpu
    refine ⟨(late_iff _).mp ?_, ?_, (gpu_iff _).mp (Option.some.inj gpu)⟩
    · exact JsonValue.str.inj (Option.some.inj (status.trans own.symm))
    · intro value forced
      rw [forced] at own
      exact (Option.some.inj own).symm
  · intro ⟨late, unforced, gpu⟩
    have own : (lastOverride "status" (sinceLifecycle (store.events.getEventsForJob jobId))).getD
          (.str ((lastLifecycle (store.events.getEventsForJob jobId)).getD "unknown"))
        = .str ((lastLifecycle (store.events.getEventsForJob jobId)).getD "unknown") := by
      cases forced : lastOverride "status" (sinceLifecycle (store.events.getEventsForJob jobId)) with
      | none => rfl
      | some value => exact unforced value forced
    constructor
    · rw [replayed, folded, replayFold_status, stateFold_status, own, (late_iff _).mpr late]
    · rw [replayed, folded, replayFold_gpu, stateFold_gpu, (gpu_iff _).mpr gpu]
    · exact replayFold_withoutPayloads jobId _
    · rw [folded, stateFold_withoutPayloads, stateFold_status, own]

/-- A state store over a log of events, given with the counter at its end. -/
def storeOf (file : EventTable) : StateStore := ⟨EventStore.open_ file, Table.empty, Table.empty⟩

def submittedLog : EventTable :=
  ⟨[{ EventStore.newEvent .jobSubmitted (some "job-1") none "a" "t0" with sequence := 1 }], by simp⟩

/-- `replay_to_state` does not know a submission, so the two folds differ on it. -/
theorem submitted_job_unknown
    : ((storeOf submittedLog).events.replayToState "job-1").get? "status" = some (.str "unknown")
      ∧ ((storeOf submittedLog).getJobState "job-1").get? "status" = some (.str "submitted")
      ∧ ¬ FoldsAgree (storeOf submittedLog) "job-1" := by
  have replayed : ((storeOf submittedLog).events.replayToState "job-1").get? "status"
      = some (.str "unknown") := rfl
  have folded : ((storeOf submittedLog).getJobState "job-1").get? "status"
      = some (.str "submitted") := rfl
  refine ⟨replayed, folded, fun agree => ?_⟩
  have same := agree.status
  rw [replayed, folded] at same
  simp at same

variable {key : String} {store : StateStore}

def restoredKeys : List String := ["status", "error", "priority", "gpu_used"]

/-- What `get_job_state` writes under a key for an event, its payload apart. -/
def markOf (key : String) (event : Event) : Option JsonValue :=
  if key = "status" then (lifecycleStatus event).map .str
  else if key = "gpu_used" then (gpuMark event).map .bool
  else if key = "priority" ∧ event.eventType = EventType.jobSubmitted.value then
    some (event.payload.getOr "priority" (.int 5))
  else if key = "error" ∧ event.eventType = EventType.jobFailed.value then
    some (event.payload.getOr "error" .null)
  else none

def lastWrite (key : String) (events : List Event) : Option JsonValue :=
  (events.filterMap (fun event => (event.payload.get? key).or (markOf key event))).getLast?

def eventsUpTo (store : StateStore) (jobId : String) (target : ℤ) : List Event :=
  (store.events.getEventsForJob jobId).filter (fun event => event.sequence ≤ target)

def eventsAfter (store : StateStore) (jobId : String) (target : ℤ) : List Event :=
  (store.events.getEventsForJob jobId).filter (fun event => target < event.sequence)

/-- A rollback that returns `True` leaves the restored keys as the job's events up to the target
give them, and one that returns `False` changes nothing.
-/
def RollbackRestores (store : StateStore) (jobId : String) (target : ℤ) (uuid timestamp : String)
    (fault : SqlFault)
    : Prop :=
  let ended := store.rollbackToSequence jobId target uuid timestamp fault
  (ended.1 = some true → ∀ key ∈ restoredKeys,
    (ended.2.getJobState jobId).get? key
      = (stateFold jobId (eventsUpTo store jobId target)).get? key)
  ∧ (ended.1 = some false → ended.2 = store)

/-- The snapshot event can be stored: its identifier is new and no error meets the append. -/
def SnapshotLands (store : StateStore) (uuid : String) (fault : SqlFault) : Prop :=
  uuid ∉ store.events.rows.map Event.eventId
  ∧ fault ≠ .prepare ∧ fault.atRow 0 = none ∧ fault.atCommit = none

def LaterAgree (store : StateStore) (jobId : String) (target : ℤ) : Prop :=
  ∀ key ∈ restoredKeys, ∀ value, lastWrite key (eventsAfter store jobId target) = some value
    → (lastWrite key (eventsUpTo store jobId target)).or
        ((StateStore.initialState jobId).get? key) = some value

/-- `get_job_state` takes the priority from a submission, and over it the payload's value. -/
theorem stateEvent_priority (state : JsonDict) (event : Event)
    : (StateStore.stateEvent state event).get? "priority"
      = ((event.payload.get? "priority").or (markOf "priority" event)).or
        (state.get? "priority") := by
  simp only [StateStore.stateEvent, JsonDict.get?_update, Option.or_assoc,
    apply_ite (fun dict => JsonDict.get? dict "priority"), JsonDict.get?_set, String.reduceEq, if_true,
    if_false]
  by_cases submitted : event.eventType = EventType.jobSubmitted.value
  · simp [markOf, submitted, JsonDict.getOr]
  · have silent : markOf "priority" event = none := by simp [markOf, submitted]
    simp only [silent, submitted, if_false, Option.none_or, ite_self]

/-- `get_job_state` takes the error from a failure, and over it the payload's value. -/
theorem stateEvent_error (state : JsonDict) (event : Event)
    : (StateStore.stateEvent state event).get? "error"
      = ((event.payload.get? "error").or (markOf "error" event)).or (state.get? "error") := by
  simp only [StateStore.stateEvent, JsonDict.get?_update, Option.or_assoc,
    apply_ite (fun dict => JsonDict.get? dict "error"), JsonDict.get?_set, String.reduceEq, if_true,
    if_false]
  by_cases failed : event.eventType = EventType.jobFailed.value
  · simp [markOf, failed, EventType.value, JsonDict.getOr]
  · have silent : markOf "error" event = none := by simp [markOf, failed]
    simp only [silent, failed, if_false, Option.none_or, ite_self]

theorem stateEvent_write (restored : key ∈ restoredKeys) (state : JsonDict) (event : Event)
    : (StateStore.stateEvent state event).get? key
      = ((event.payload.get? key).or (markOf key event)).or (state.get? key) := by
  simp only [restoredKeys, List.mem_cons, List.not_mem_nil, or_false] at restored
  rcases restored with rfl | rfl | rfl | rfl
  · exact stateEvent_status state event
  · exact stateEvent_error state event
  · exact stateEvent_priority state event
  · exact stateEvent_gpu state event

theorem stateFold_write (restored : key ∈ restoredKeys) (jobId : String) (events : List Event)
    : (stateFold jobId events).get? key
      = (lastWrite key events).or ((StateStore.initialState jobId).get? key) :=
  get?_foldl (stateEvent_write restored) events _

theorem lastWrite_append (key : String) (earlier later : List Event)
    : lastWrite key (earlier ++ later) = (lastWrite key later).or (lastWrite key earlier) := by
  simp only [lastWrite, List.filterMap_append, List.getLast?_append]

theorem lastWrite_filter (key : String) (events : List Event)
    : lastWrite key (events.filter (fun event =>
        ((event.payload.get? key).or (markOf key event)).isSome))
      = lastWrite key events := by
  simp only [lastWrite, List.filterMap_filter]
  congr 2
  funext event
  cases (event.payload.get? key).or (markOf key event) <;> rfl

/-- An event that does not write a key may be stored anywhere. Witness: the sort keeps the order of
the events that do.
-/
theorem lastWrite_insert {event : Event} (events : List Event)
    (silent : (event.payload.get? key).or (markOf key event) = none)
    : lastWrite key ((events ++ [event]).insertionSort EventStore.BySequence)
      = lastWrite key (events.insertionSort EventStore.BySequence) := by
  rw [← lastWrite_filter key ((events ++ [event]).insertionSort _), filter_insertionSort,
    List.filter_append, List.filter_cons_of_neg (by rw [silent]; simp), List.filter_nil,
    List.append_nil, ← filter_insertionSort, lastWrite_filter]

def snapshotEvent (jobId : String) (state : JsonDict) (uuid timestamp : String) (sequence : ℤ)
    : Event :=
  { EventStore.newEvent .systemStartup (some jobId)
      (some (JsonDict.ofList [("type", .str "snapshot"), ("state", state.toValue)])) uuid timestamp
    with sequence := sequence }

theorem snapshotEvent_silent (restored : key ∈ restoredKeys) (jobId : String) (state : JsonDict)
    (uuid timestamp : String) (sequence : ℤ)
    : ((snapshotEvent jobId state uuid timestamp sequence).payload.get? key).or
      (markOf key (snapshotEvent jobId state uuid timestamp sequence)) = none := by
  simp only [restoredKeys, List.mem_cons, List.not_mem_nil, or_false] at restored
  rcases restored with rfl | rfl | rfl | rfl <;> rfl

theorem getJobState_saved (restored : key ∈ restoredKeys) {jobId : String} {state : JsonDict}
    {uuid timestamp : String} {fault : SqlFault}
    (returned : (store.saveJobState jobId state uuid timestamp fault).1 = true)
    : ((store.saveJobState jobId state uuid timestamp fault).2.getJobState jobId).get? key
      = (store.getJobState jobId).get? key := by
  have rows : (store.saveJobState jobId state uuid timestamp fault).2.events.rows
      = store.events.rows
        ++ [snapshotEvent jobId state uuid timestamp (store.events.sequence + 1)] :=
    rows_of_returned returned
  have own : [snapshotEvent jobId state uuid timestamp (store.events.sequence + 1)].filter
      (fun event : Event => event.jobId = some jobId)
      = [snapshotEvent jobId state uuid timestamp (store.events.sequence + 1)] := by
    simp [snapshotEvent, EventStore.newEvent]
  have listed : (store.saveJobState jobId state uuid timestamp fault).2.events.getEventsForJob jobId
      = ((store.events.rows.filter (fun event : Event => event.jobId = some jobId))
        ++ [snapshotEvent jobId state uuid timestamp (store.events.sequence + 1)]).insertionSort
          EventStore.BySequence := by
    rw [EventStore.getEventsForJob, rows, List.filter_append, own]
  have same : lastWrite key ((store.saveJobState jobId state uuid timestamp fault).2.events.getEventsForJob
      jobId) = lastWrite key (store.events.getEventsForJob jobId) := by
    rw [listed]
    exact lastWrite_insert _ (snapshotEvent_silent restored jobId state uuid timestamp _)
  have before := stateFold_write restored jobId (store.events.getEventsForJob jobId)
  have after := stateFold_write restored jobId
    ((store.saveJobState jobId state uuid timestamp fault).2.events.getEventsForJob jobId)
  rw [same] at after
  exact after.trans before.symm

theorem saved_iff (store : StateStore) (jobId : String) (state : JsonDict)
    (uuid timestamp : String) (fault : SqlFault)
    : (store.saveJobState jobId state uuid timestamp fault).1 = true
      ↔ SnapshotLands store uuid fault :=
  append_returned_iff store.events _ fault

theorem getJobState_split (restored : key ∈ restoredKeys) (store : StateStore) (jobId : String)
    (target : ℤ)
    : (store.getJobState jobId).get? key
      = (lastWrite key (eventsAfter store jobId target)).or
        ((lastWrite key (eventsUpTo store jobId target)).or
          ((StateStore.initialState jobId).get? key)) := by
  have sorted : (store.events.getEventsForJob jobId).Pairwise
      (fun left right => left.sequence ≤ right.sequence) :=
    List.pairwise_insertionSort EventStore.BySequence _
  have split : eventsUpTo store jobId target ++ eventsAfter store jobId target
      = store.events.getEventsForJob jobId := filter_split sorted target
  have folded := stateFold_write restored jobId (store.events.getEventsForJob jobId)
  rw [← split, lastWrite_append, Option.or_assoc] at folded
  rw [split] at folded
  exact folded

theorem laterAgree_iff (store : StateStore) (jobId : String) (target : ℤ)
    : LaterAgree store jobId target
      ↔ ∀ key ∈ restoredKeys, (store.getJobState jobId).get? key
        = (stateFold jobId (eventsUpTo store jobId target)).get? key := by
  constructor
  · intro agree key restored
    rw [getJobState_split restored store jobId target, stateFold_write restored]
    cases later : lastWrite key (eventsAfter store jobId target) with
    | none => rfl
    | some value => exact (agree key restored value later).symm
  · intro same key restored value later
    have present := same key restored
    rw [getJobState_split restored store jobId target, stateFold_write restored, later] at present
    exact present.symm

def rolledBack (store : StateStore) (jobId : String) (target : ℤ) : JsonDict :=
  (eventsUpTo store jobId target).foldl StateStore.rollbackEvent
    (JsonDict.ofList [("job_id", .str jobId)])

theorem rollback_of_none {jobId : String} {target : ℤ} (none : eventsUpTo store jobId target = [])
    (uuid timestamp : String) (fault : SqlFault)
    : store.rollbackToSequence jobId target uuid timestamp fault = (some false, store) := by
  rw [eventsUpTo] at none
  simp [StateStore.rollbackToSequence, none]

theorem rollback_of_some {jobId : String} {target : ℤ} (some_ : eventsUpTo store jobId target ≠ [])
    (uuid timestamp : String) (fault : SqlFault)
    : store.rollbackToSequence jobId target uuid timestamp fault
      = (if (store.saveJobState jobId (rolledBack store jobId target) uuid timestamp fault).1 = true
          then some true else none,
        (store.saveJobState jobId (rolledBack store jobId target) uuid timestamp fault).2) := by
  have listed : ¬ (eventsUpTo store jobId target).isEmpty = true := by simpa using some_
  exact if_neg listed

/-- For every event log, job, target and snapshot event, a rollback does what it promises if and
only if no event of the job lies up to the target, or the snapshot event cannot be stored (the
rollback then returns `False`, or raises), or the events after the target agree with those before.
-/
theorem rollback_restores_iff (store : StateStore) (jobId : String) (target : ℤ)
    (uuid timestamp : String) (fault : SqlFault)
    : RollbackRestores store jobId target uuid timestamp fault
      ↔ eventsUpTo store jobId target = [] ∨ ¬ SnapshotLands store uuid fault
        ∨ LaterAgree store jobId target := by
  by_cases listed : eventsUpTo store jobId target = []
  · rw [RollbackRestores, rollback_of_none listed]
    simp [listed]
  rw [RollbackRestores, rollback_of_some listed]
  have saved := saved_iff store jobId (rolledBack store jobId target) uuid timestamp fault
  by_cases lands : SnapshotLands store uuid fault
  · have returned := saved.mpr lands
    simp only [returned, if_true]
    rw [laterAgree_iff]
    constructor
    · intro ⟨restores, _⟩
      refine .inr (.inr fun key restored => ?_)
      rw [← restores trivial key restored, getJobState_saved restored returned]
    · intro agree
      have past := (agree.resolve_left listed).resolve_left (not_not.mpr lands)
      refine ⟨fun _ key restored => ?_, fun impossible => ?_⟩
      · rw [getJobState_saved restored returned, past key restored]
      · cases impossible
  · have raised := mt saved.mp lands
    simp only [if_neg raised]
    simp [lands]

def completedLog : EventTable :=
  ⟨[{ EventStore.newEvent .jobStarted (some "job-1") none "a" "t0" with sequence := 1 },
    { EventStore.newEvent .jobCompleted (some "job-1") none "b" "t1" with sequence := 2 }], by decide⟩

/-- A rollback to the start returns `True`, and the job is still completed. -/
theorem rolled_back_job_completed
    : ((storeOf completedLog).rollbackToSequence "job-1" 1 "c" "t2" .none).1 = some true
      ∧ (((storeOf completedLog).rollbackToSequence "job-1" 1 "c" "t2" .none).2.getJobState
          "job-1").get? "status" = some (.str "completed")
      ∧ ¬ RollbackRestores (storeOf completedLog) "job-1" 1 "c" "t2" .none := by
  have returned : ((storeOf completedLog).rollbackToSequence "job-1" 1 "c" "t2" .none).1
      = some true := rfl
  have shown : (((storeOf completedLog).rollbackToSequence "job-1" 1 "c" "t2" .none).2.getJobState
      "job-1").get? "status" = some (.str "completed") := rfl
  have past : (stateFold "job-1" (eventsUpTo (storeOf completedLog) "job-1" 1)).get? "status"
      = some (.str "running") := rfl
  refine ⟨returned, shown, fun restores => ?_⟩
  have restored := restores.1 returned "status" (by simp [restoredKeys])
  rw [shown, past] at restored
  simp at restored

end RomaBridge.Properties
