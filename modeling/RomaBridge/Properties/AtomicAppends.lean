import RomaBridge.Model.EventSourcing

/-! The event log on one connection. `append` and `append_batch` never roll back, so a call that raises
after a row of it was inserted leaves that row in the open transaction. The log is read in pages of 100
rows that resume at the tick behind the page's last one. The tick counter starts from 0 at every opening
of the file, while the projection orders events by tick.
-/

namespace RomaBridge.Properties

open RomaBridge.Foundation RomaBridge.Model.EventSourcing

def StoreCall.events : StoreCall → List Event
  | .append event _ => [event]
  | .appendBatch events _ => events
  | .reopen => []

/-- The errors that a call meets. -/
def StoreCall.fault : StoreCall → SqlFault
  | .append _ fault => fault
  | .appendBatch _ fault => fault
  | .reopen => .none

def returnedEvents (run : List (Visit EventStore StoreCall Bool)) : List Event :=
  run.flatMap (fun visit => if visit.reply then StoreCall.events visit.call else [])

/-- The store's own queries, and those of a store that opens the file next, see exactly these
events.
-/
def Shows (store : EventStore) (events : List Event) : Prop :=
  (∀ event, event ∈ store.rows ↔ event ∈ events)
  ∧ ∀ event, event ∈ store.reopen.rows ↔ event ∈ events

def AppendsAtomic (calls : List StoreCall) : Prop :=
  ∀ past, past <+: calls
    → Shows (finalState storeStep (EventStore.open_ Table.empty) past)
      (returnedEvents (visits storeStep (EventStore.open_ Table.empty) past))

/-- The call raises behind a row of its own: a later row of it is refused or meets an error, or
its commit does, and SQLite does not drop the transaction by itself.
-/
def RaisesBehindRow (store : EventStore) (call : StoreCall) : Prop :=
  store.conn.LeavesRows Event.storable (StoreCall.events call) (StoreCall.fault call)

theorem rows_reopen (store : EventStore) : store.reopen.rows = store.conn.file.rows := by
  simp [EventStore.reopen, EventStore.rows, EventStore.open_, Connection.rollback]

theorem rows_of_clean {store : EventStore} (clean : store.conn.pending = [])
    : store.rows = store.conn.file.rows := by
  simp [EventStore.rows, Connection.view, clean]

theorem clean_of_shows {store : EventStore} {events : List Event} (shows_ : Shows store events)
    : store.conn.pending = [] := by
  rw [List.eq_nil_iff_forall_not_mem]
  intro event pending
  have seen : event ∈ store.rows := List.mem_append_right _ pending
  have stored := (shows_.2 event).mpr ((shows_.1 event).mp seen)
  rw [rows_reopen] at stored
  have distinct := store.conn.unique
  rw [List.map_append, List.nodup_append] at distinct
  exact distinct.2.2 _ (List.mem_map_of_mem stored) _ (List.mem_map_of_mem pending) rfl

/-- A call in a store without an open transaction adds its events when it returns and nothing
when it raises; it leaves the transaction open only behind a row.
-/
theorem storeStep_cases {store : EventStore} (clean : store.conn.pending = []) (call : StoreCall)
    : (storeStep store call).2.conn.file.rows
        = store.conn.file.rows
          ++ (if (storeStep store call).1 then StoreCall.events call else [])
      ∧ ((storeStep store call).2.conn.pending = [] ∨ RaisesBehindRow store call) := by
  have batch : ∀ events fault, (store.appendBatch events fault).2.conn.file.rows
        = store.conn.file.rows ++ (if (store.appendBatch events fault).1 then events else [])
      ∧ ((store.appendBatch events fault).2.conn.pending = []
        ∨ store.conn.LeavesRows Event.storable events fault) := by
    intro events fault
    rcases Connection.insertAll_cases Event.storable events fault clean
      with ⟨returned, stored, closed⟩ | ⟨raised, same, left⟩
    · simp [EventStore.appendBatch, returned, stored, closed]
    · simp only [EventStore.appendBatch, raised, same]
      exact ⟨by simp, left⟩
  cases call with
  | append event fault => exact batch [event] fault
  | appendBatch events fault => exact batch events fault
  | reopen =>
      refine ⟨?_, .inl rfl⟩
      simp [storeStep, StoreCall.events, EventStore.reopen, EventStore.open_, Connection.rollback]

theorem open_of_raisesBehindRow {store : EventStore} {call : StoreCall}
    (raises : RaisesBehindRow store call)
    : (storeStep store call).2.conn.pending ≠ [] := by
  have batch : ∀ events fault, store.conn.LeavesRows Event.storable events fault
      → (store.appendBatch events fault).2.conn.pending ≠ [] := by
    intro events fault leaves
    obtain ⟨_, inserted, some, pending⟩ := Connection.insertAll_of_leavesRows leaves
    simp [EventStore.appendBatch, pending, some]
  cases call with
  | append event fault => exact batch [event] fault raises
  | appendBatch events fault => exact batch events fault raises
  | reopen =>
      obtain ⟨_, inserted, some, _, _, ⟨same, _⟩ | ⟨row, rest, same, _⟩⟩ := raises
      · exact absurd same.symm some
      · simp [StoreCall.events] at same

/-- As long as no call raises behind a row, the file is the union of the calls that returned and
no transaction is open. Witness: induction on the calls.
-/
theorem clean_run {store : EventStore} (clean : store.conn.pending = []) {calls : List StoreCall}
    (behaves : ∀ visit ∈ visits storeStep store calls, ¬ RaisesBehindRow visit.before visit.call)
    : (finalState storeStep store calls).conn.pending = []
      ∧ (finalState storeStep store calls).conn.file.rows
        = store.conn.file.rows ++ returnedEvents (visits storeStep store calls) := by
  induction calls generalizing store with
  | nil => simp [finalState, visits, returnedEvents, clean]
  | cons call rest ih =>
      obtain ⟨stored, closed⟩ := storeStep_cases clean call
      have first : ¬ RaisesBehindRow store call :=
        behaves ⟨store, call, (storeStep store call).1, (storeStep store call).2⟩ (by simp [visits])
      have next : (storeStep store call).2.conn.pending = [] := closed.resolve_right first
      have later := ih next (fun visit member => behaves visit (by simp [visits, member]))
      refine ⟨later.1, ?_⟩
      rw [show finalState storeStep store (call :: rest)
        = finalState storeStep (storeStep store call).2 rest from rfl, later.2, stored]
      simp [visits, returnedEvents]

theorem call_of_mem_visits {store : EventStore} {calls : List StoreCall}
    {visit : Visit EventStore StoreCall Bool} (member : visit ∈ visits storeStep store calls)
    : ∃ past, past ++ [visit.call] <+: calls ∧ visit.before = finalState storeStep store past := by
  obtain ⟨earlier, later, split⟩ := List.append_of_mem member
  obtain ⟨past, future, rfl, _, found⟩ := visits_split split
  exact ⟨past, ⟨future, by simp⟩, found⟩

/-- For every sequence of appends, batches and reopenings and every pattern of errors, the log and
the file show exactly the events of the calls that returned, after every call, if and only if no
call raises behind a row of its own.
-/
theorem appends_atomic_iff (calls : List StoreCall)
    : AppendsAtomic calls
      ↔ ∀ visit ∈ visits storeStep (EventStore.open_ Table.empty) calls,
        ¬ RaisesBehindRow visit.before visit.call := by
  constructor
  · intro atomic visit member raises
    obtain ⟨past, reached, found⟩ := call_of_mem_visits member
    have closed := clean_of_shows (atomic _ reached)
    rw [show finalState storeStep (EventStore.open_ Table.empty) (past ++ [visit.call])
      = (storeStep visit.before visit.call).2 by simp [finalState, found]] at closed
    exact open_of_raisesBehindRow raises closed
  · intro behaves past reached
    obtain ⟨future, rfl⟩ := reached
    have empty : (EventStore.open_ Table.empty).conn.pending = [] := rfl
    obtain ⟨closed, stored⟩ := clean_run empty (fun visit (member : visit ∈ visits _ _ past) =>
      behaves visit (by simp [visits_append, member]))
    rw [show (EventStore.open_ Table.empty).conn.file.rows = [] from rfl, List.nil_append] at stored
    exact ⟨by simp [rows_of_clean closed, stored], by simp [rows_reopen, stored]⟩

def plainEvent (eventId : String) : Event :=
  Event.create .nodeRegistered "node-1" 1 Table.empty eventId 0

def leakingCalls : List StoreCall :=
  [.appendBatch [plainEvent "a", plainEvent "a"] .none, .append (plainEvent "b") .none]

/-- The batch raises, the append returns, and the file then holds an event of both. -/
theorem raised_batch_stored
    : (visits storeStep (EventStore.open_ Table.empty) leakingCalls).map Visit.reply = [false, true]
      ∧ (finalState storeStep (EventStore.open_ Table.empty) leakingCalls).reopen.rows.map
          Event.eventId = ["a", "b"]
      ∧ ¬ AppendsAtomic leakingCalls := by
  have replies : (visits storeStep (EventStore.open_ Table.empty) leakingCalls).map Visit.reply
      = [false, true] := by decide +kernel
  have stored : (finalState storeStep (EventStore.open_ Table.empty) leakingCalls).reopen.rows.map
      Event.eventId = ["a", "b"] := by decide +kernel
  refine ⟨replies, stored, fun atomic => ?_⟩
  have returned : (returnedEvents (visits storeStep (EventStore.open_ Table.empty)
      leakingCalls)).map Event.eventId = ["b"] := by decide +kernel
  have kept : "a" ∈ (finalState storeStep (EventStore.open_ Table.empty) leakingCalls).reopen.rows.map
      Event.eventId := by simp [stored]
  obtain ⟨event, member, named⟩ := List.mem_map.mp kept
  have claimed := ((atomic leakingCalls (List.prefix_refl _)).2 event).mp member
  have listed : "a" ∈ ["b"] := returned ▸ named ▸ List.mem_map_of_mem claimed
  simp at listed

def storeAfter (calls : List StoreCall) : EventStore :=
  finalState storeStep (EventStore.open_ Table.empty) calls

/-- The replay ends, holds every stored event from the tick on once and nothing else, and is
ordered by tick.
-/
def ReplayComplete (store : EventStore) (tick : ℤ) : Prop :=
  ∃ fuel events, (∀ more, fuel ≤ more → store.replayFromTick more tick = .ok events)
    ∧ events.Perm (store.rows.filter (fun event => tick ≤ event.tick))
    ∧ events.Pairwise (fun left right => left.tick ≤ right.tick)

def eventsFrom (store : EventStore) (tick : ℤ) : List Event :=
  fromKey Event.tick store.tickIndex tick

def NoTieAtPageEnd (store : EventStore) (tick : ℤ) : Prop :=
  CleanCuts Event.tick 100 (eventsFrom store tick)

theorem checked_step {store : EventStore} (checked : store.conn.Checked Event.storable)
    (call : StoreCall)
    : (storeStep store call).2.conn.Checked Event.storable := by
  cases call with
  | append event fault => exact checked.insertAll
  | appendBatch events fault => exact checked.insertAll
  | reopen => exact checked.rollback

theorem storeAfter_checked (calls : List StoreCall)
    : (storeAfter calls).conn.Checked Event.storable := by
  have steps : ∀ (rest : List StoreCall) (store : EventStore),
      store.conn.Checked Event.storable
      → (finalState storeStep store rest).conn.Checked Event.storable := by
    intro rest
    induction rest with
    | nil => exact fun _ checked => checked
    | cons call rest ih => exact fun store checked => ih _ (checked_step checked call)
  refine steps calls _ ?_
  intro row member
  simp [EventStore.open_, Table.empty] at member

theorem tickIndex_ordered (store : EventStore)
    : store.tickIndex.Pairwise (fun left right => left.tick ≤ right.tick) := by
  have total : Std.Total EventStore.ByTick := ⟨fun left right => Int.le_total left.tick right.tick⟩
  have transitive : IsTrans Event EventStore.ByTick :=
    ⟨fun _ _ _ first second => Int.le_trans first second⟩
  exact List.pairwise_insertionSort EventStore.ByTick store.rows

theorem eventsFrom_perm (store : EventStore) (tick : ℤ)
    : (eventsFrom store tick).Perm (store.rows.filter (fun event => tick ≤ event.tick)) :=
  (List.perm_insertionSort EventStore.ByTick store.rows).filter _

/-- The loop reads the pages of the tick index. Witness: the offset always stands for the next
tick to read, by induction on the fuel.
-/
theorem replayPages_eq (store : EventStore) (tick : ℤ) (fuel : ℕ) (offset : ℤ)
    : store.replayPages tick fuel offset
      = pages Event.tick minInteger maxInteger 100 store.tickIndex fuel (tick + offset) := by
  induction fuel generalizing offset with
  | zero => rfl
  | succ fuel ih =>
      rw [EventStore.replayPages, pages]
      by_cases asked : isInteger (tick + offset) = true
      · have inside : ¬ (tick + offset < minInteger ∨ maxInteger < tick + offset) := by
          simp only [isInteger, Bool.and_eq_true, decide_eq_true_eq] at asked
          omega
        rw [EventStore.getEventsSince, if_pos asked, if_neg inside]
        simp only [fromKey, bind, Except.bind]
        cases ((store.tickIndex.filter
            (fun event => decide (tick + offset ≤ event.tick))).take 100).getLast? with
        | none => rfl
        | some last =>
            simp only
            rw [ih, show tick + (last.tick - tick + 1) = last.tick + 1 by omega]
            cases pages Event.tick minInteger maxInteger 100 store.tickIndex fuel (last.tick + 1)
            · rfl
            · rfl
      · have outside : tick + offset < minInteger ∨ maxInteger < tick + offset := by
          simp only [isInteger, Bool.and_eq_true, decide_eq_true_eq] at asked
          omega
        rw [EventStore.getEventsSince, if_neg asked, if_pos outside]
        rfl

theorem replay_outside {store : EventStore} {tick : ℤ} (outside : ¬ isInteger tick = true)
    (fuel : ℕ)
    : ∃ error, store.replayFromTick fuel tick = .error error := by
  rw [EventStore.replayFromTick, replayPages_eq]
  cases fuel with
  | zero => exact ⟨_, rfl⟩
  | succ fuel =>
      refine ⟨.range, ?_⟩
      simp only [isInteger, Bool.and_eq_true, decide_eq_true_eq] at outside
      rw [pages, if_pos (by omega)]

theorem replay_cases {store : EventStore} (checked : store.conn.Checked Event.storable) {tick : ℤ}
    (asked : isInteger tick = true) {fuel : ℕ} (enough : (eventsFrom store tick).length < fuel)
    : ((∃ event ∈ eventsFrom store tick, event.tick = maxInteger)
        ∧ store.replayFromTick fuel tick = .error .range)
      ∨ ((∀ event ∈ eventsFrom store tick, event.tick ≠ maxInteger)
        ∧ ∃ events, store.replayFromTick fuel tick = .ok events
          ∧ events.Sublist (eventsFrom store tick)
          ∧ (events = eventsFrom store tick ↔ NoTieAtPageEnd store tick)) := by
  have bounded : ∀ event ∈ store.tickIndex, minInteger ≤ event.tick ∧ event.tick ≤ maxInteger := by
    intro event member
    have stored := checked event
      ((List.perm_insertionSort EventStore.ByTick store.rows).mem_iff.mp member)
    simp only [Event.storable, isInteger, Bool.and_eq_true, decide_eq_true_eq] at stored
    exact stored.1
  simp only [isInteger, Bool.and_eq_true, decide_eq_true_eq] at asked
  rw [EventStore.replayFromTick, replayPages_eq, Int.add_zero]
  exact pages_cases (by omega) (tickIndex_ordered store) bounded asked.1 asked.2 enough

theorem eq_eventsFrom {store : EventStore} {tick : ℤ} {events : List Event}
    (part : events.Sublist (eventsFrom store tick))
    (whole : events.Perm (store.rows.filter (fun event => tick ≤ event.tick)))
    : events = eventsFrom store tick :=
  part.eq_of_length (whole.trans (eventsFrom_perm store tick).symm).length_eq

theorem replayComplete_iff {store : EventStore} (checked : store.conn.Checked Event.storable)
    (tick : ℤ)
    : ReplayComplete store tick
      ↔ isInteger tick = true ∧ (∀ event ∈ store.rows, event.tick ≠ maxInteger)
        ∧ NoTieAtPageEnd store tick := by
  constructor
  · intro ⟨fuel, events, returns, whole, _⟩
    have asked : isInteger tick = true := by
      by_contra outside
      obtain ⟨error, raised⟩ := @replay_outside store tick outside fuel
      rw [returns fuel le_rfl] at raised
      cases raised
    have returned := returns (max fuel ((eventsFrom store tick).length + 1)) (by omega)
    have ends := @replay_cases store checked tick asked
      (max fuel ((eventsFrom store tick).length + 1)) (by omega)
    rw [returned] at ends
    rcases ends with ⟨_, raised⟩ | ⟨noTop, result, same, part, clean⟩
    · cases raised
    · cases same
      refine ⟨asked, ?_, clean.mp (eq_eventsFrom part whole)⟩
      intro event stored largest
      refine noTop event ((eventsFrom_perm store tick).mem_iff.mpr ?_) largest
      simp only [isInteger, Bool.and_eq_true, decide_eq_true_eq] at asked
      simp only [List.mem_filter, decide_eq_true_eq]
      exact ⟨stored, largest ▸ asked.2⟩
  · intro ⟨asked, noTop, clean⟩
    refine ⟨(eventsFrom store tick).length + 1, eventsFrom store tick, ?_,
      eventsFrom_perm store tick, (tickIndex_ordered store).sublist List.filter_sublist⟩
    intro more enough
    rcases @replay_cases store checked tick asked more enough with ⟨top, _⟩ | ⟨_, result, done, _, whole⟩
    · obtain ⟨event, member, largest⟩ := top
      have stored := (List.mem_filter.mp ((eventsFrom_perm store tick).mem_iff.mp member)).1
      exact absurd largest (noTop event stored)
    · rw [done, whole.mpr clean]

/-- For every log that appends, batches and reopenings can make and every start tick, the replay
is complete, duplicate-free and ordered exactly when the start tick is an integer of the database,
no stored tick is its largest one, and no page of 100 events ends inside a group with one tick.
-/
theorem paged_replay_complete_iff (calls : List StoreCall) (tick : ℤ)
    : ReplayComplete (storeAfter calls) tick
      ↔ isInteger tick = true ∧ (∀ event ∈ (storeAfter calls).rows, event.tick ≠ maxInteger)
        ∧ NoTieAtPageEnd (storeAfter calls) tick :=
  replayComplete_iff (storeAfter_checked calls) tick

def crowdedTick (count : ℕ) : List Event :=
  (List.range count).map (fun index =>
    Event.create .nodeRegistered "node-1" 1 Table.empty (String.ofList (List.replicate index 'e')) 0)

theorem rows_crowdedTick (count : ℕ)
    : (storeAfter [.appendBatch (crowdedTick count) .none]).rows = crowdedTick count := by
  have admitted : (EventStore.open_ Table.empty).conn.Admits Event.storable (crowdedTick count) := by
    constructor
    · intro event member
      obtain ⟨index, _, rfl⟩ := List.mem_map.mp member
      simp [Event.create, Event.storable, isInteger, minInteger, maxInteger]
    · simp only [EventStore.open_, Connection.connect, Table.empty, crowdedTick, List.nil_append,
        List.map_map]
      refine List.nodup_range.map ?_
      intro left right same
      have lengths := congrArg String.length same
      simpa [Event.create] using lengths
  simp only [storeAfter, finalState, List.foldl_cons, List.foldl_nil, storeStep,
    EventStore.appendBatch, EventStore.rows, Connection.insertAll_of_admits admitted,
    Connection.commit, Connection.view_connect]
  simp [Connection.view, Connection.extend, EventStore.open_, Connection.connect, Table.empty]

/-- A batch of 101 events at one tick is stored whole, but not replayed whole. -/
theorem crowded_tick_truncated
    : (storeAfter [.appendBatch (crowdedTick 101) .none]).rows = crowdedTick 101
      ∧ ¬ ReplayComplete (storeAfter [.appendBatch (crowdedTick 101) .none]) 1 := by
  have ticks : ∀ event ∈ crowdedTick 101, event.tick = 1 := by
    intro event member
    obtain ⟨index, _, rfl⟩ := List.mem_map.mp member
    rfl
  have stored := rows_crowdedTick 101
  have ordered : (crowdedTick 101).Pairwise EventStore.ByTick := by
    refine List.Pairwise.imp_of_mem (fun left right _ => ?_) (List.pairwise_of_forall (fun _ _ => trivial))
    exact le_of_eq ((ticks _ left).trans (ticks _ right).symm)
  have listed : eventsFrom (storeAfter [.appendBatch (crowdedTick 101) .none]) 1
      = crowdedTick 101 := by
    rw [eventsFrom, EventStore.tickIndex, stored, ordered.insertionSort_eq, fromKey,
      List.filter_eq_self]
    intro event member
    simp [ticks event member]
  refine ⟨stored, fun complete => ?_⟩
  have clean := ((replayComplete_iff (storeAfter_checked _) 1).mp complete).2.2
  rw [NoTieAtPageEnd, listed] at clean
  have bound : 99 < (crowdedTick 101).length := by simp [crowdedTick]
  have next : 100 < (crowdedTick 101).length := by simp [crowdedTick]
  refine clean 0 _ _ (List.getElem?_eq_getElem bound) (List.getElem?_eq_getElem next) ?_
  rw [ticks _ (List.getElem_mem bound), ticks _ (List.getElem_mem next)]

/-- The store of a process, and how many event identifiers were drawn so far. -/
structure Session where
  store : EventStore
  drawn : ℕ

/-- A command on a job at a time of the clock, or the file closed and opened again. -/
inductive SessionStep where
  | command (jobId : String) (command : JobCommand) (timeNs : Int64)
  | reopen

def newSession : Session := ⟨EventStore.open_ Table.empty, 0⟩

section Sessions

variable (uuid4 : ℕ → String)

def sessionStep (session : Session) : SessionStep → Option Event × Session
  | .command jobId command timeNs =>
      let issued := issue session.store jobId command (uuid4 session.drawn) timeNs.toInt
      (issued.1, ⟨issued.2, session.drawn + 1⟩)
  | .reopen => (none, { session with store := session.store.reopen })

def sessionAfter (steps : List SessionStep) : Session :=
  finalState (sessionStep uuid4) newSession steps

def sessionVisits (steps : List SessionStep) : List (Visit Session SessionStep (Option Event)) :=
  visits (sessionStep uuid4) newSession steps

def TicksIncrease (steps : List SessionStep) : Prop :=
  ∀ visit ∈ sessionVisits uuid4 steps, ∀ event, visit.reply = some event
    → ∀ stored ∈ visit.before.store.rows, stored.tick < event.tick

end Sessions

def commandStatus : JobCommand → Option JobStatus
  | .submitJob .. => some .submitted
  | .enqueueJob => some .queued
  | .scheduleJob _ => some .scheduled
  | .startJob => some .running
  | .completeJob _ => some .completed
  | .failJob _ => some .failed
  | .allocateGpu .. => none
  | .releaseGpu _ => none

def issuedStatus (jobId : String) (visit : Visit Session SessionStep (Option Event))
    : Option JobStatus :=
  match visit.call, visit.reply with
  | .command target command _, some _ => if target = jobId then commandStatus command else none
  | _, _ => none

def lastIssued (jobId : String) (run : List (Visit Session SessionStep (Option Event)))
    : Option JobStatus :=
  (run.filterMap (issuedStatus jobId)).getLast?

def StatusFollows (uuid4 : ℕ → String) (steps : List SessionStep) : Prop :=
  ∀ past, past <+: steps → ∀ jobId status,
    lastIssued jobId (sessionVisits uuid4 past) = some status
    → (buildState (sessionAfter uuid4 past).store jobId).map JobState.status = .ok status

/-- No reopening lies between two commands. -/
def OneOpening (steps : List SessionStep) : Prop :=
  ∀ past future, steps = past ++ .reopen :: future
    → (∀ step ∈ past, step = .reopen) ∨ (∀ step ∈ future, step = .reopen)

-- One step

section Steps

variable {uuid4 : ℕ → String}

/-- No transaction is open, and every stored identifier was drawn. -/
structure Settled (uuid4 : ℕ → String) (session : Session) : Prop where
  clean : session.store.conn.pending = []
  drawn : ∀ event ∈ session.store.rows, ∃ index < session.drawn, event.eventId = uuid4 index

def issuedEvent (uuid4 : ℕ → String) (session : Session) (jobId : String) (command : JobCommand)
    (timeNs : Int64)
    : Event :=
  Event.create command.eventType jobId session.store.nextTick.1 command.payload
    (uuid4 session.drawn) timeNs.toInt

theorem append_cases {store : EventStore} (clean : store.conn.pending = []) (event : Event)
    : (store.append event .none).2.conn.pending = []
      ∧ (store.append event .none).2.rows
        = store.rows ++ (if (store.append event .none).1 then [event] else []) := by
  have quiet : ¬ RaisesBehindRow store (.append event .none) := by
    intro ⟨_, inserted, nonempty, _, _, ends⟩
    rcases ends with ⟨_, commit⟩ | ⟨row, rest, split, _⟩
    · cases commit
    · have lengths := congrArg List.length split
      have positive := List.length_pos_iff.mpr nonempty
      simp only [StoreCall.events, List.length_append, List.length_cons, List.length_nil] at lengths
      omega
  obtain ⟨stored, closed⟩ := storeStep_cases clean (.append event .none)
  have after := closed.resolve_right quiet
  refine ⟨after, ?_⟩
  rw [rows_of_clean clean]
  exact (rows_of_clean after).trans stored

theorem sessionStep_command (session : Session) (jobId : String) (command : JobCommand)
    (timeNs : Int64)
    : sessionStep uuid4 session (.command jobId command timeNs)
      = (if ((session.store.nextTick).2.append
            (issuedEvent uuid4 session jobId command timeNs) .none).1 = true
          then some (issuedEvent uuid4 session jobId command timeNs) else none,
        ⟨((session.store.nextTick).2.append (issuedEvent uuid4 session jobId command timeNs)
          .none).2, session.drawn + 1⟩) := by
  simp only [sessionStep, issue]
  congr 2

theorem command_cases {session : Session} (settled : Settled uuid4 session) (jobId : String)
    (command : JobCommand) (timeNs : Int64)
    : Settled uuid4 (sessionStep uuid4 session (.command jobId command timeNs)).2
      ∧ (sessionStep uuid4 session (.command jobId command timeNs)).2.store.tickCounter
        = session.store.tickCounter + 1
      ∧ (sessionStep uuid4 session (.command jobId command timeNs)).2.store.rows
        = session.store.rows
          ++ (sessionStep uuid4 session (.command jobId command timeNs)).1.toList
      ∧ ∀ event, (sessionStep uuid4 session (.command jobId command timeNs)).1 = some event
        → event = issuedEvent uuid4 session jobId command timeNs := by
  have ticked : (session.store.nextTick).2.conn.pending = [] := settled.clean
  obtain ⟨clean, stored⟩ := append_cases ticked (issuedEvent uuid4 session jobId command timeNs)
  have named : (issuedEvent uuid4 session jobId command timeNs).eventId = uuid4 session.drawn := rfl
  have before : (session.store.nextTick).2.rows = session.store.rows := rfl
  have counter : ((session.store.nextTick).2.append
      (issuedEvent uuid4 session jobId command timeNs) .none).2.tickCounter
      = session.store.tickCounter + 1 := rfl
  rw [sessionStep_command]
  rw [before] at stored
  generalize (session.store.nextTick).2.append (issuedEvent uuid4 session jobId command timeNs) .none
    = result at clean stored counter ⊢
  generalize issuedEvent uuid4 session jobId command timeNs = event at named stored ⊢
  obtain ⟨returned, store⟩ := result
  have drawn : ∀ old ∈ session.store.rows, ∃ index < session.drawn + 1, old.eventId = uuid4 index := by
    intro old member
    obtain ⟨index, bound, same⟩ := settled.drawn old member
    exact ⟨index, Nat.lt_succ_of_lt bound, same⟩
  cases returned with
  | true =>
      simp only [if_true] at stored
      refine ⟨⟨clean, ?_⟩, counter, by simpa using stored, by simp⟩
      intro other member
      simp only [stored, List.mem_append, List.mem_singleton] at member
      rcases member with old | rfl
      · exact drawn other old
      · exact ⟨session.drawn, Nat.lt_succ_self _, named⟩
  | false =>
      simp only [Bool.false_eq_true, if_false, List.append_nil] at stored
      refine ⟨⟨clean, ?_⟩, counter, by simpa using stored, by simp⟩
      intro other member
      simp only [stored] at member
      exact drawn other member

theorem reopen_cases {session : Session} (settled : Settled uuid4 session)
    : Settled uuid4 (sessionStep uuid4 session .reopen).2
      ∧ (sessionStep uuid4 session .reopen).2.store.rows = session.store.rows
      ∧ (sessionStep uuid4 session .reopen).2.store.tickCounter = 0 := by
  have rows : (sessionStep uuid4 session .reopen).2.store.rows = session.store.rows :=
    (rows_reopen session.store).trans (rows_of_clean settled.clean).symm
  refine ⟨⟨rfl, ?_⟩, rows, rfl⟩
  intro event member
  rw [rows] at member
  exact settled.drawn event member

theorem sessionStep_rows {session : Session} (settled : Settled uuid4 session) (step : SessionStep)
    : Settled uuid4 (sessionStep uuid4 session step).2
      ∧ (sessionStep uuid4 session step).2.store.rows
        = session.store.rows ++ (sessionStep uuid4 session step).1.toList := by
  cases step with
  | command jobId command timeNs =>
      obtain ⟨next, _, rows, _⟩ := command_cases settled jobId command timeNs
      exact ⟨next, rows⟩
  | reopen =>
      obtain ⟨next, rows, _⟩ := reopen_cases settled
      exact ⟨next, by simpa [sessionStep] using rows⟩

theorem newSession_settled : Settled uuid4 newSession :=
  ⟨rfl, fun event member => by simp [newSession, EventStore.open_, EventStore.rows, Table.empty]
    at member⟩

/-- The rows of a session are the events of its replies, by induction on the steps. -/
theorem run_rows {session : Session} (settled : Settled uuid4 session) (steps : List SessionStep)
    : Settled uuid4 (finalState (sessionStep uuid4) session steps)
      ∧ (finalState (sessionStep uuid4) session steps).store.rows
        = session.store.rows
          ++ (visits (sessionStep uuid4) session steps).filterMap Visit.reply := by
  induction steps generalizing session with
  | nil => simp [finalState, visits, settled]
  | cons step rest ih =>
      obtain ⟨next, rows⟩ := sessionStep_rows settled step
      obtain ⟨final, later⟩ := ih next
      refine ⟨final, later.trans ?_⟩
      rw [rows, visits, List.filterMap_cons]
      cases (sessionStep uuid4 session step).1 <;> simp

theorem sessionAfter_rows (uuid4 : ℕ → String) (steps : List SessionStep)
    : Settled uuid4 (sessionAfter uuid4 steps)
      ∧ (sessionAfter uuid4 steps).store.rows
        = (sessionVisits uuid4 steps).filterMap Visit.reply := by
  obtain ⟨settled, rows⟩ := run_rows newSession_settled steps
  have empty : newSession.store.rows = [] := rfl
  rw [empty, List.nil_append] at rows
  exact ⟨settled, rows⟩

-- The projection

def eventStatus (event : Event) : Option JobStatus :=
  match event.eventType with
  | .jobSubmitted => some .submitted
  | .jobQueued => some .queued
  | .jobScheduled => some .scheduled
  | .jobStarted => some .running
  | .jobCompleted => some .completed
  | .jobFailed => some .failed
  | .jobCancelled => some .cancelled
  | _ => none

theorem status_projectEvent (state : JobState) (event : Event)
    : (projectEvent state event).status = (eventStatus event).getD state.status := by
  simp only [projectEvent, applyEvent, eventStatus]
  cases event.eventType <;> rfl

/-- The projected status is the last one given, by induction on the events. -/
theorem status_foldl (events : List Event) (state : JobState)
    : (events.foldl projectEvent state).status
      = ((events.filterMap eventStatus).getLast?).getD state.status := by
  induction events generalizing state with
  | nil => rfl
  | cons event rest ih =>
      rw [List.foldl_cons, ih, status_projectEvent, List.filterMap_cons]
      cases eventStatus event with
      | none => rfl
      | some status =>
          rw [List.getLast?_cons]
          cases (rest.filterMap eventStatus).getLast? <;> rfl

theorem buildState_status {store : EventStore} {jobId : String} {status : JobStatus}
    (last : ((store.getEventsForAggregate jobId).filterMap eventStatus).getLast? = some status)
    : (buildState store jobId).map JobState.status = .ok status := by
  unfold buildState
  cases found : store.getEventsForAggregate jobId with
  | nil => simp [found] at last
  | cons first rest =>
      simp only [Except.map, status_foldl]
      rw [← found, last]
      rfl

theorem eventStatus_issuedEvent (session : Session) (jobId : String) (command : JobCommand)
    (timeNs : Int64)
    : eventStatus (issuedEvent uuid4 session jobId command timeNs) = commandStatus command := by
  cases command <;> rfl

theorem settled_of_mem_visits {steps : List SessionStep}
    {visit : Visit Session SessionStep (Option Event)}
    (member : visit ∈ sessionVisits uuid4 steps)
    : Settled uuid4 visit.before :=
  (invariant_of_mem_visits (Settled uuid4) newSession_settled
    (fun _ step _ settled => (sessionStep_rows settled step).1) member).1

theorem reply_status {steps : List SessionStep} {visit : Visit Session SessionStep (Option Event)}
    (member : visit ∈ sessionVisits uuid4 steps) (jobId : String)
    : (visit.reply.filter (fun event => event.aggregateId = jobId)).bind eventStatus
      = issuedStatus jobId visit := by
  have settled := settled_of_mem_visits member
  have stepped := step_of_mem_visits member
  obtain ⟨before, call, reply, after⟩ := visit
  simp only at settled stepped ⊢
  cases reply with
  | none => cases call <;> rfl
  | some event =>
      cases call with
      | reopen => simp [sessionStep] at stepped
      | command target command timeNs =>
          obtain ⟨_, _, _, replied⟩ := command_cases settled target command timeNs
          have same := replied event (by rw [stepped])
          have owner : event.aggregateId = target := same ▸ rfl
          have given : eventStatus event = commandStatus command :=
            same ▸ eventStatus_issuedEvent before target command timeNs
          by_cases mine : target = jobId
          · simp [issuedStatus, Option.filter, owner, mine, given]
          · simp [issuedStatus, Option.filter, owner, mine]

theorem statuses_of_rows (steps : List SessionStep) (jobId : String)
    : (((sessionAfter uuid4 steps).store.rows.filter
          (fun event => event.aggregateId = jobId)).filterMap eventStatus)
      = (sessionVisits uuid4 steps).filterMap (issuedStatus jobId) := by
  rw [(sessionAfter_rows uuid4 steps).2, List.filter_filterMap, List.filterMap_filterMap]
  exact List.filterMap_congr (fun visit member => reply_status member jobId)

theorem TicksIncrease.past {past future : List SessionStep}
    (increase : TicksIncrease uuid4 (past ++ future))
    : TicksIncrease uuid4 past := by
  intro visit member
  refine increase visit ?_
  unfold sessionVisits at member ⊢
  simp [visits_append, member]

theorem mem_sessionVisits (past future : List SessionStep) (step : SessionStep)
    : ∃ visit ∈ sessionVisits uuid4 (past ++ step :: future),
      visit.before = sessionAfter uuid4 past
      ∧ visit.reply = (sessionStep uuid4 (sessionAfter uuid4 past) step).1 := by
  refine ⟨⟨sessionAfter uuid4 past, step, (sessionStep uuid4 (sessionAfter uuid4 past) step).1,
    (sessionStep uuid4 (sessionAfter uuid4 past) step).2⟩, ?_, rfl, rfl⟩
  simp [sessionVisits, visits_append, visits, sessionAfter]

/-- With increasing ticks the rows are in the order of their ticks, by induction on the steps. -/
theorem rows_ordered {steps : List SessionStep} (increase : TicksIncrease uuid4 steps)
    : (sessionAfter uuid4 steps).store.rows.Pairwise (fun left right => left.tick < right.tick) := by
  induction steps using List.reverseRecOn with
  | nil => exact List.Pairwise.nil
  | append_singleton past step ih =>
      have final : sessionAfter uuid4 (past ++ [step])
          = (sessionStep uuid4 (sessionAfter uuid4 past) step).2 := by
        simp [sessionAfter, finalState]
      obtain ⟨settled, _⟩ := sessionAfter_rows uuid4 past
      rw [final, (sessionStep_rows settled step).2, List.pairwise_append]
      refine ⟨ih increase.past, ?_, ?_⟩
      · cases (sessionStep uuid4 (sessionAfter uuid4 past) step).1 <;> simp
      · intro stored member event new
        obtain ⟨visit, visited, found, replied⟩ := @mem_sessionVisits uuid4 past [] step
        exact increase visit visited event (replied.trans (Option.mem_toList.mp new)) stored
          (found ▸ member)

theorem statusFollows_of_ticksIncrease {steps : List SessionStep}
    (increase : TicksIncrease uuid4 steps)
    : StatusFollows uuid4 steps := by
  intro past reached jobId status last
  obtain ⟨future, rfl⟩ := reached
  have ordered : ((sessionAfter uuid4 past).store.rows.filter
      (fun event => event.aggregateId = jobId)).Pairwise EventStore.ByTick :=
    ((rows_ordered increase.past).imp (fun below => Int.le_of_lt below)).sublist List.filter_sublist
  refine buildState_status ?_
  rw [EventStore.getEventsForAggregate, ordered.insertionSort_eq, statuses_of_rows]
  exact last

-- Restarts

theorem rows_of_reopens {steps : List SessionStep} (only : ∀ step ∈ steps, step = .reopen)
    : (sessionAfter uuid4 steps).store.rows = [] := by
  rw [(sessionAfter_rows uuid4 steps).2, List.filterMap_eq_nil_iff]
  intro visit member
  have stepped := step_of_mem_visits member
  have listed : visit.call ∈ steps := by
    have calls := map_call_visits (sessionStep uuid4) newSession steps
    exact calls ▸ List.mem_map_of_mem member
  rw [only visit.call listed] at stepped
  exact (congrArg Prod.fst stepped).symm

/-- Until a command follows a reopening, the counter is not below a stored tick. Witness: induction
on the steps; a reopening comes before every command and finds no row.
-/
theorem ticks_le_counter {steps : List SessionStep}
    (opened : ∀ past future, steps = past ++ .reopen :: future → ∀ step ∈ past, step = .reopen)
    : ∀ event ∈ (sessionAfter uuid4 steps).store.rows,
      event.tick ≤ (sessionAfter uuid4 steps).store.tickCounter := by
  induction steps using List.reverseRecOn with
  | nil => intro event member; exact absurd member (List.not_mem_nil)
  | append_singleton past step ih =>
      have final : sessionAfter uuid4 (past ++ [step])
          = (sessionStep uuid4 (sessionAfter uuid4 past) step).2 := by
        simp [sessionAfter, finalState]
      obtain ⟨settled, _⟩ := sessionAfter_rows uuid4 past
      cases step with
      | reopen =>
          intro event member
          rw [final, (reopen_cases settled).2.1, rows_of_reopens (opened past [] rfl)] at member
          exact absurd member List.not_mem_nil
      | command jobId command timeNs =>
          have before := ih (by
            rintro first last rfl
            exact opened first (last ++ [.command jobId command timeNs]) (by simp))
          obtain ⟨_, counter, rows, replied⟩ := command_cases settled jobId command timeNs
          intro event member
          rw [final, rows] at member
          rw [final, counter]
          rcases List.mem_append.mp member with old | new
          · have bound := before event old
            push_cast
            omega
          · rw [replied event (Option.mem_toList.mp new)]
            exact le_of_eq rfl

theorem first_command (distinct : Function.Injective uuid4) {session : Session}
    (settled : Settled uuid4 session) (opened : session.store.tickCounter = 0) (jobId : String)
    (command : JobCommand) (timeNs : Int64)
    : ∃ event, (sessionStep uuid4 session (.command jobId command timeNs)).1 = some event
      ∧ event.tick = 1 := by
  have tick : (issuedEvent uuid4 session jobId command timeNs).tick = 1 := by
    simp [issuedEvent, Event.create, EventStore.nextTick, opened]
  have admitted : (session.store.nextTick).2.conn.Admits Event.storable
      [issuedEvent uuid4 session jobId command timeNs] := by
    constructor
    · intro event member
      rw [List.mem_singleton.mp member]
      have low := timeNs.le_toInt
      have high := timeNs.toInt_lt
      have time : (issuedEvent uuid4 session jobId command timeNs).timestampNs = timeNs.toInt := rfl
      simp only [Event.storable, isInteger, Bool.and_eq_true, decide_eq_true_eq, tick, time,
        minInteger, maxInteger]
      omega
    · rw [← List.append_assoc, List.map_append, List.nodup_append]
      refine ⟨session.store.conn.unique, by simp, ?_⟩
      intro stored member other last same
      obtain ⟨event, seen, rfl⟩ := List.mem_map.mp member
      obtain ⟨index, bound, drawn⟩ := settled.drawn event seen
      rw [List.map_singleton, List.mem_singleton] at last
      have repeated : uuid4 index = uuid4 session.drawn := by
        rw [← drawn, same, last]
        rfl
      exact absurd (distinct repeated) (Nat.ne_of_lt bound)
  refine ⟨issuedEvent uuid4 session jobId command timeNs, ?_, tick⟩
  rw [sessionStep_command]
  simp only [EventStore.append, EventStore.appendBatch, Connection.insertAll_of_admits admitted,
    if_true]

theorem counter_of_reopens {session : Session} (opened : session.store.tickCounter = 0)
    {steps : List SessionStep} (only : ∀ step ∈ steps, step = .reopen)
    : (finalState (sessionStep uuid4) session steps).store.tickCounter = 0 := by
  induction steps generalizing session with
  | nil => exact opened
  | cons step rest ih =>
      have first : step = .reopen := only step (by simp)
      subst first
      exact ih rfl (fun step member => only step (by simp [member]))

theorem first_command_split {steps : List SessionStep} (some : ¬ ∀ step ∈ steps, step = .reopen)
    : ∃ front jobId command timeNs rest, steps = front ++ .command jobId command timeNs :: rest
      ∧ ∀ step ∈ front, step = .reopen := by
  induction steps with
  | nil => exact absurd (by simp) some
  | cons step rest ih =>
      cases step with
      | command jobId command timeNs => exact ⟨[], jobId, command, timeNs, rest, rfl, by simp⟩
      | reopen =>
          obtain ⟨front, jobId, command, timeNs, last, rfl, only⟩ := ih (by simpa using some)
          exact ⟨.reopen :: front, jobId, command, timeNs, last, rfl, by simpa using only⟩

/-- The ticks increase exactly when no reopening lies between two commands. -/
theorem ticksIncrease_iff (distinct : Function.Injective uuid4) (steps : List SessionStep)
    : TicksIncrease uuid4 steps ↔ OneOpening steps := by
  constructor
  · intro increase past future split
    by_contra both
    rw [not_or] at both
    obtain ⟨front, job, first, time, rest, rfl, only⟩ := first_command_split both.1
    obtain ⟨later, otherJob, second, otherTime, last, rfl, onlyLater⟩ := first_command_split both.2
    subst split
    obtain ⟨event, reply, tick⟩ := first_command distinct (sessionAfter_rows uuid4 front).1
      (counter_of_reopens rfl only) job first time
    have before : front ++ .command job first time :: rest ++ .reopen :: later
        = front ++ .command job first time :: (rest ++ .reopen :: later) := by simp
    have stored : event ∈ (sessionAfter uuid4
        (front ++ .command job first time :: rest ++ .reopen :: later)).store.rows := by
      obtain ⟨visit, member, _, replied⟩ := @mem_sessionVisits uuid4 front
        (rest ++ .reopen :: later) (.command job first time)
      rw [(sessionAfter_rows uuid4 _).2, before]
      exact List.mem_filterMap.mpr ⟨visit, member, replied.trans reply⟩
    have opened : (sessionAfter uuid4
        (front ++ .command job first time :: rest ++ .reopen :: later)).store.tickCounter = 0 := by
      rw [sessionAfter, finalState, List.foldl_append, List.foldl_cons]
      exact counter_of_reopens rfl onlyLater
    obtain ⟨again, replyAgain, tickAgain⟩ := first_command distinct (sessionAfter_rows uuid4 _).1
      opened otherJob second otherTime
    obtain ⟨visit, member, found, replied⟩ := @mem_sessionVisits uuid4
      (front ++ .command job first time :: rest ++ .reopen :: later) last
      (.command otherJob second otherTime)
    have whole : front ++ .command job first time :: rest
          ++ .reopen :: (later ++ .command otherJob second otherTime :: last)
        = front ++ .command job first time :: rest ++ .reopen :: later
          ++ .command otherJob second otherTime :: last := by simp
    rw [whole] at increase
    have above := increase visit member again (replied.trans replyAgain) event (found ▸ stored)
    omega
  · intro opening visit member event reply stored seen
    obtain ⟨earlier, remaining, split⟩ := List.append_of_mem member
    obtain ⟨past, future, rfl, _, found⟩ := visits_split split
    have stepped := step_of_mem_visits member
    have settled := settled_of_mem_visits member
    cases called : visit.call with
    | reopen =>
        rw [called, reply] at stepped
        cases stepped
    | command jobId command timeNs =>
        rw [called] at stepped opening
        have counted : stored.tick ≤ (visit.before).store.tickCounter := by
          rw [found] at seen ⊢
          refine ticks_le_counter ?_ stored seen
          rintro first last rfl
          refine (opening first (last ++ .command jobId command timeNs :: future)
            (by simp)).resolve_right ?_
          intro only
          exact SessionStep.noConfusion (only (.command jobId command timeNs) (by simp))
        obtain ⟨_, _, _, replied⟩ := command_cases settled jobId command timeNs
        rw [replied event (by rw [stepped, reply])]
        exact Int.lt_add_one_of_le counted

end Steps

/-- For every source of distinct identifiers and every sequence of job commands and reopenings of
the file, every new tick is above the stored ones and the projection always shows the last issued
status, if and only if no reopening lies between two commands.
-/
theorem history_followed_iff (uuid4 : ℕ → String) (distinct : Function.Injective uuid4)
    (steps : List SessionStep)
    : (TicksIncrease uuid4 steps ∧ StatusFollows uuid4 steps) ↔ OneOpening steps := by
  rw [← ticksIncrease_iff distinct steps]
  exact ⟨And.left, fun increase => ⟨increase, statusFollows_of_ticksIncrease increase⟩⟩

/-- A job submitted and enqueued in one opening of the file is followed. -/
theorem history_followed_once
    : TicksIncrease lengthUuid [.reopen, .command "job-1" (.submitJob 8 4 true) 0,
        .command "job-1" .enqueueJob 1]
      ∧ StatusFollows lengthUuid [.reopen, .command "job-1" (.submitJob 8 4 true) 0,
        .command "job-1" .enqueueJob 1] := by
  refine (history_followed_iff lengthUuid lengthUuid_injective _).mpr ?_
  intro past future split
  cases past with
  | nil => exact .inl (by simp)
  | cons first rest =>
      simp only [List.cons_append, List.cons.injEq] at split
      have listed : SessionStep.reopen ∈ [SessionStep.command "job-1" (.submitJob 8 4 true) 0,
          .command "job-1" .enqueueJob 1] := by simp [split.2]
      simp at listed

def restartedJob : List SessionStep :=
  [.command "job-1" (.submitJob 8 4 true) 0, .command "job-1" .enqueueJob 1, .reopen,
    .command "job-1" .startJob 2]

/-- The job was last started, but its projection shows it as queued. -/
theorem restarted_job_stale
    : lastIssued "job-1" (sessionVisits lengthUuid restartedJob) = some .running
      ∧ (buildState (sessionAfter lengthUuid restartedJob).store "job-1").map JobState.status
        = .ok .queued
      ∧ ¬ (TicksIncrease lengthUuid restartedJob ∧ StatusFollows lengthUuid restartedJob) := by
  have last : lastIssued "job-1" (sessionVisits lengthUuid restartedJob) = some .running := by
    decide +kernel
  have shown : (buildState (sessionAfter lengthUuid restartedJob).store "job-1").map JobState.status
      = .ok .queued := by decide +kernel
  refine ⟨last, shown, fun ⟨_, follows⟩ => ?_⟩
  have running := follows restartedJob (List.prefix_refl _) "job-1" .running last
  rw [shown] at running
  cases running

end RomaBridge.Properties
