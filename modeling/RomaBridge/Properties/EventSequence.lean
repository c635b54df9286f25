import RomaBridge.Model.EventStore

/-! Sequence numbers of the event log. The counter, the event object and the table move together after
the commit only, so the stored numbers are 1 to n in the order of the successful appends, through
failing calls and reopenings. A `DurabilityLayer` and a `StateStore` on one file have a counter each:
readers miss what a facade appends that is behind the file.
-/

namespace RomaBridge.Properties

open RomaBridge.Foundation RomaBridge.Model.Durability
open RomaBridge.Model (JsonDict)

/-- The calls that write the log, and the end of one opening of the file. -/
inductive LogCall where
  | append (event : Event) (fault : SqlFault)
  | emit (eventType : EventType) (jobId : Option String) (payload : Option JsonDict)
      (uuid timestamp : String) (fault : SqlFault)
  | reopen

def LogCall.event? : LogCall → Option Event
  | .append event _ => some event
  | .emit eventType jobId payload uuid timestamp _ =>
      some (EventStore.newEvent eventType jobId payload uuid timestamp)
  | .reopen => none

def logStep (store : EventStore) : LogCall → Option Appended × EventStore
  | .append event fault =>
      let appended := store.append event fault
      (some appended.1, appended.2)
  | .emit eventType jobId payload uuid timestamp fault =>
      let appended := store.emit eventType jobId payload uuid timestamp fault
      (some appended.1, appended.2)
  | .reopen => (none, store.reopen)

def logAfter (calls : List LogCall) : EventStore :=
  finalState logStep (EventStore.open_ Table.empty) calls

/-- The calls on a new file, with their replies. -/
def logVisits (calls : List LogCall) : List (Visit EventStore LogCall (Option Appended)) :=
  visits logStep (EventStore.open_ Table.empty) calls

def succeeded (visit : Visit EventStore LogCall (Option Appended)) : Option Event :=
  visit.reply.bind (fun appended => if appended.returned then some appended.event else none)

def successes (run : List (Visit EventStore LogCall (Option Appended))) : List Event :=
  run.filterMap succeeded

def numbersTo (count : ℕ) : List ℤ := (List.range count).map (fun index : ℕ => (index : ℤ) + 1)

/-- What the log keeps through every sequence of calls. -/
structure GapFree (calls : List LogCall) : Prop where
  /-- The log is the successful appends, in their order. -/
  stored : (logAfter calls).rows = successes (logVisits calls)
  /-- Their numbers are 1 to n. -/
  numbered : (logAfter calls).rows.map Event.sequence = numbersTo (successes (logVisits calls)).length
  /-- The latest number is n. -/
  latest : (logAfter calls).getLatestSequence = (successes (logVisits calls)).length
  /-- An append that returns numbers its event object and changes nothing else of it. -/
  returned : ∀ visit ∈ logVisits calls, ∀ event, succeeded visit = some event
    → ∃ given, visit.call.event? = some given ∧ event = { given with sequence := event.sequence }
  /-- An append that raises stores nothing and leaves its event object alone. -/
  raised : ∀ visit ∈ logVisits calls, ∀ appended, visit.reply = some appended
    → appended.returned = false
    → visit.call.event? = some appended.event ∧ visit.after.rows = visit.before.rows
  /-- A replay returns the later events of the wanted types, in the order of the log. -/
  replayed : ∀ fromSequence filter, (logAfter calls).replay fromSequence filter
    = (logAfter calls).rows.filter (fun event => fromSequence < event.sequence
      && EventStore.passes filter event.eventType)

/-- No transaction is open, the stored numbers are 1 to n and the counter is n. -/
structure Numbered (store : EventStore) : Prop where
  clean : store.conn.pending = []
  numbers : store.conn.file.rows.map Event.sequence = numbersTo store.conn.file.rows.length
  counter : store.sequence = store.conn.file.rows.length

theorem numbersTo_succ (count : ℕ) : numbersTo (count + 1) = numbersTo count ++ [(count : ℤ) + 1] := by
  simp [numbersTo, List.range_succ]

theorem max?_numbersTo (count : ℕ) : ((numbersTo count).max?).getD 0 = count := by
  cases count with
  | zero => rfl
  | succ count =>
      have largest : (numbersTo (count + 1)).max? = some ((count : ℤ) + 1) := by
        rw [List.max?_eq_some_iff]
        refine ⟨by simp [numbersTo_succ], ?_⟩
        intro number member
        obtain ⟨index, bound, rfl⟩ := List.mem_map.mp member
        rw [List.mem_range] at bound
        omega
      rw [largest]
      simp

theorem maxSequence_of_numbers {file : EventTable}
    (numbers : file.rows.map Event.sequence = numbersTo file.rows.length)
    : maxSequence file = file.rows.length := by
  rw [maxSequence, numbers, max?_numbersTo]

theorem rows_eq_file {store : EventStore} (clean : store.conn.pending = [])
    : store.rows = store.conn.file.rows := by
  simp [EventStore.rows, Connection.view, clean]

theorem append_returned (store : EventStore) (event : Event) (fault : SqlFault)
    : (store.append event fault).1.returned
      = (store.conn.insertAll (fun _ => true)
        [{ event with sequence := store.sequence + 1 }] fault).2 := by
  unfold EventStore.append
  cases ended : (store.conn.insertAll (fun _ => true)
      [{ event with sequence := store.sequence + 1 }] fault).2 <;> simp [ended]

theorem append_returned_iff (store : EventStore) (event : Event) (fault : SqlFault)
    : (store.append event fault).1.returned = true
      ↔ event.eventId ∉ store.rows.map Event.eventId
        ∧ fault ≠ .prepare ∧ fault.atRow 0 = none ∧ fault.atCommit = none := by
  rw [append_returned, Connection.insertAll_singleton, Connection.admits_singleton]
  simp only [true_and]
  exact and_comm

theorem rows_of_returned {store : EventStore} {event : Event} {fault : SqlFault}
    (returned : (store.append event fault).1.returned = true)
    : (store.append event fault).2.rows
      = store.rows ++ [{ event with sequence := store.sequence + 1 }] := by
  rw [append_returned] at returned
  have stored := Connection.view_of_returned returned
  simp only [EventStore.append, returned, if_true]
  exact stored

/-- An append returns with the next number stored, or raises with nothing changed. -/
theorem append_numbered {store : EventStore} (clean : store.conn.pending = []) (event : Event)
    (fault : SqlFault)
    : ((store.append event fault).1
          = ⟨true, { event with sequence := store.sequence + 1 }⟩
        ∧ (store.append event fault).2.conn.pending = []
        ∧ (store.append event fault).2.conn.file.rows
          = store.conn.file.rows ++ [{ event with sequence := store.sequence + 1 }]
        ∧ (store.append event fault).2.sequence = store.sequence + 1)
      ∨ ((store.append event fault).1 = ⟨false, event⟩ ∧ (store.append event fault).2 = store) := by
  rcases Connection.insertAll_cases (fun _ => true)
      [{ event with sequence := store.sequence + 1 }] fault clean
    with ⟨returned, stored, closed⟩ | ⟨raised, same, _⟩
  · left
    simp [EventStore.append, returned, stored, closed]
  · right
    have before : Connection.connect store.conn.file = store.conn := by
      obtain ⟨⟨file, pending, unique⟩, sequence⟩ := store
      simp only at clean
      subst clean
      rfl
    simp [EventStore.append, raised, Connection.rollback, same, before]

/-- What one call on a numbered store does: the store stays numbered, a success is appended and is
the call's event with a number, and a call that raises keeps its event and the rows.
-/
structure Logged (store : EventStore) (call : LogCall) (reply : Option Appended)
    (next : EventStore)
    : Prop where
  numbered : Numbered next
  appended : next.rows = store.rows ++ (succeeded ⟨store, call, reply, next⟩).toList
  replied : ∀ appended, reply = some appended → ∃ given, call.event? = some given
    ∧ appended.event = { given with sequence := appended.event.sequence }
    ∧ (appended.returned = false → appended.event = given ∧ next.rows = store.rows)

theorem append_logged {store : EventStore} (numbered : Numbered store) {call : LogCall}
    {event : Event} (given : call.event? = some event) (fault : SqlFault)
    : Logged store call (some (store.append event fault).1) (store.append event fault).2 := by
  rcases append_numbered numbered.clean event fault
    with ⟨reply, clean, stored, counter⟩ | ⟨reply, same⟩
  · have rows : (store.append event fault).2.rows
        = store.rows ++ [{ event with sequence := store.sequence + 1 }] := by
      rw [rows_eq_file clean, rows_eq_file numbered.clean, stored]
    rw [reply]
    refine ⟨⟨clean, ?_, ?_⟩, by simpa [succeeded] using rows, ?_⟩
    · rw [stored, List.map_append, numbered.numbers, List.length_append, List.length_singleton,
        numbersTo_succ]
      simp [numbered.counter]
    · rw [counter, stored, numbered.counter]
      simp
    · intro appended same
      rw [← Option.some.inj same]
      exact ⟨event, given, rfl, fun raised => Bool.noConfusion raised⟩
  · rw [reply, same]
    refine ⟨numbered, by simp [succeeded], ?_⟩
    intro appended same
    rw [← Option.some.inj same]
    exact ⟨event, given, rfl, fun _ => ⟨rfl, rfl⟩⟩

theorem reopen_logged {store : EventStore} (numbered : Numbered store)
    : Logged store .reopen none store.reopen := by
  have rows : store.reopen.rows = store.rows := by
    rw [rows_eq_file numbered.clean]
    simp [EventStore.reopen, EventStore.rows, EventStore.open_, Connection.rollback]
  refine ⟨⟨rfl, numbered.numbers, maxSequence_of_numbers numbered.numbers⟩, ?_, ?_⟩
  · simpa [succeeded] using rows
  · intro appended impossible
    cases impossible

theorem logStep_logged {store : EventStore} (numbered : Numbered store) (call : LogCall)
    : Logged store call (logStep store call).1 (logStep store call).2 := by
  cases call with
  | append event fault => exact append_logged numbered rfl fault
  | emit eventType jobId payload uuid timestamp fault => exact append_logged numbered rfl fault
  | reopen => exact reopen_logged numbered

theorem open_numbered : Numbered (EventStore.open_ Table.empty) := ⟨rfl, rfl, rfl⟩

theorem visit_logged {calls : List LogCall} {visit : Visit EventStore LogCall (Option Appended)}
    (member : visit ∈ logVisits calls)
    : Logged visit.before visit.call visit.reply visit.after := by
  have numbered := (invariant_of_mem_visits Numbered open_numbered
    (fun _ call _ numbered => (logStep_logged numbered call).numbered) member).1
  have logged := logStep_logged numbered visit.call
  rwa [step_of_mem_visits member] at logged

theorem run_numbered {store : EventStore} (numbered : Numbered store) (calls : List LogCall)
    : Numbered (finalState logStep store calls)
      ∧ (finalState logStep store calls).rows
        = store.rows ++ successes (visits logStep store calls) := by
  induction calls generalizing store with
  | nil => simp [finalState, visits, successes, numbered]
  | cons call rest ih =>
      have logged := logStep_logged numbered call
      obtain ⟨final, rows⟩ := ih logged.numbered
      refine ⟨final, rows.trans ?_⟩
      rw [logged.appended]
      simp only [successes, visits, List.filterMap_cons]
      cases succeeded ⟨store, call, (logStep store call).1, (logStep store call).2⟩ <;> simp

theorem replay_numbered {store : EventStore} (numbered : Numbered store) (fromSequence : ℤ)
    (filter : Option (List String))
    : store.replay fromSequence filter
      = store.rows.filter (fun event => fromSequence < event.sequence
        && EventStore.passes filter event.eventType) := by
  have increasing : (numbersTo store.conn.file.rows.length).Pairwise (fun left right => left ≤ right) := by
    rw [numbersTo, List.pairwise_map]
    exact List.pairwise_lt_range.imp (fun below => by omega)
  rw [← numbered.numbers, List.pairwise_map, ← rows_eq_file numbered.clean] at increasing
  have ordered : store.rows.Pairwise EventStore.BySequence := increasing
  rw [EventStore.replay, EventStore.replayRows, (ordered.sublist List.filter_sublist).insertionSort_eq]

/-- For every sequence of appends, emits and reopenings of one store per file, with any errors at
the inserts and commits, the stored numbers are 1 to n in the order of the n successful appends,
failed appends leave no trace, the latest number is n and replays are exact.
-/
theorem event_sequence_gap_free (calls : List LogCall) : GapFree calls := by
  obtain ⟨final, rows⟩ := run_numbered open_numbered calls
  have numbered : Numbered (logAfter calls) := final
  have stored : (logAfter calls).rows = successes (logVisits calls) := by
    have empty : (EventStore.open_ Table.empty).rows = [] := rfl
    rwa [empty, List.nil_append] at rows
  have length : (logAfter calls).conn.file.rows.length = (successes (logVisits calls)).length := by
    rw [← stored, rows_eq_file numbered.clean]
  refine ⟨stored, ?_, ?_, ?_, ?_, replay_numbered numbered⟩
  · rw [← length, rows_eq_file numbered.clean]
    exact numbered.numbers
  · rw [← length]
    exact numbered.counter
  · intro visit member event success
    obtain ⟨appended, replied, returned⟩ := Option.bind_eq_some_iff.mp success
    rw [Option.ite_none_right_eq_some, Option.some.injEq] at returned
    obtain ⟨given, called, numbered, _⟩ := (visit_logged member).replied appended replied
    exact ⟨given, called, returned.2 ▸ numbered⟩
  · intro visit member appended replied raised
    obtain ⟨given, called, _, kept⟩ := (visit_logged member).replied appended replied
    exact ⟨(kept raised).1 ▸ called, (kept raised).2⟩

/-- The two owners of an `EventStore` on the file. -/
inductive Facade where
  | durabilityLayer
  | stateStore
  deriving DecidableEq, Repr

/-- A reader that polls with the last sequence number it has seen. -/
structure LogReader where
  last : ℤ
  received : List Event

/-- The file, the counters in the memory of the facades, and the readers. -/
structure SharedLog where
  file : EventTable
  counter : Facade → ℤ
  reader : ℕ → LogReader

/-- A facade opens the file again, appends an event, or a reader polls. -/
inductive SharedCall where
  | open_ (facade : Facade)
  | append (facade : Facade) (event : Event) (fault : SqlFault)
  | poll (reader : ℕ)

/-- The event store of a facade; between two calls it has no open transaction. -/
def SharedLog.store (log : SharedLog) (facade : Facade) : EventStore :=
  ⟨Connection.connect log.file, log.counter facade⟩

/-- `get_events_since(last)`, and what the reader remembers of it. -/
def LogReader.poll (reader : LogReader) (rows : List Event) : LogReader :=
  let events := EventStore.replayRows rows reader.last none
  ⟨(events.getLast?.map Event.sequence).getD reader.last, reader.received ++ events⟩

/-- One call; `false` when an append raises. -/
def sharedStep (log : SharedLog) : SharedCall → Bool × SharedLog
  | .open_ facade =>
      (true, { log with
        counter := Function.update log.counter facade (EventStore.open_ log.file).sequence })
  | .append facade event fault =>
      let appended := (log.store facade).append event fault
      (appended.1.returned, { log with
        file := appended.2.conn.file
        counter := Function.update log.counter facade appended.2.sequence })
  | .poll reader =>
      (true, { log with
        reader := Function.update log.reader reader ((log.reader reader).poll log.file.rows) })

def newSharedLog : SharedLog := ⟨Table.empty, fun _ => 0, fun _ => ⟨0, []⟩⟩

def sharedVisits (calls : List SharedCall) : List (Visit SharedLog SharedCall Bool) :=
  visits sharedStep newSharedLog calls

/-- After every call the stored numbers are distinct, and after its poll a reader has received
every event that was stored before.
-/
def ReadersMissNothing (calls : List SharedCall) : Prop :=
  ∀ visit ∈ sharedVisits calls,
    (visit.after.file.rows.map Event.sequence).Nodup
    ∧ ∀ reader, visit.call = .poll reader
      → ∀ event ∈ visit.before.file.rows, event ∈ (visit.after.reader reader).received

/-- No error meets an append. -/
def Spared (fault : SqlFault) : Prop :=
  fault ≠ .prepare ∧ fault.atRow 0 = none ∧ fault.atCommit = none

/-- An append whose event is new to the file and that meets no error. -/
def Lands (file : EventTable) (event : Event) (fault : SqlFault) : Prop :=
  event.eventId ∉ file.rows.map Event.eventId ∧ Spared fault

def AppendersCurrent (calls : List SharedCall) : Prop :=
  ∀ visit ∈ sharedVisits calls, ∀ facade event fault, visit.call = .append facade event fault
    → Lands visit.before.file event fault
    → visit.before.counter facade = maxSequence visit.before.file

theorem le_maxSequence {file : EventTable} {event : Event} (member : event ∈ file.rows)
    : event.sequence ≤ maxSequence file := by
  unfold maxSequence
  cases found : (file.rows.map Event.sequence).max? with
  | none =>
      rw [List.max?_eq_none_iff, List.map_eq_nil_iff] at found
      simp [found] at member
  | some top => exact (List.max?_eq_some_iff.mp found).2 _ (List.mem_map_of_mem member)

theorem maxSequence_append {file next : EventTable} {event : Event}
    (rows : next.rows = file.rows ++ [event]) (positive : 0 ≤ event.sequence)
    : maxSequence next = max (maxSequence file) event.sequence := by
  unfold maxSequence
  rw [rows, List.map_append]
  cases file.rows.map Event.sequence with
  | nil => simpa using positive
  | cons first rest =>
      rw [List.map_singleton, List.cons_append, List.max?_cons', List.max?_cons',
        List.foldl_append]
      rfl

theorem shared_append_cases (log : SharedLog) (facade : Facade) (event : Event) (fault : SqlFault)
    : (Lands log.file event fault
        ∧ ((log.store facade).append event fault).1.returned = true
        ∧ ((log.store facade).append event fault).2.conn.file.rows
          = log.file.rows ++ [{ event with sequence := log.counter facade + 1 }]
        ∧ ((log.store facade).append event fault).2.sequence = log.counter facade + 1)
      ∨ (¬ Lands log.file event fault
        ∧ ((log.store facade).append event fault).2 = log.store facade) := by
  have returns : ((log.store facade).append event fault).1.returned = true
      ↔ Lands log.file event fault := by
    have seen : (log.store facade).rows = log.file.rows := @rows_eq_file (log.store facade) rfl
    rw [append_returned_iff, seen]
    rfl
  rcases @append_numbered (log.store facade) rfl event fault
    with ⟨reply, _, stored, counter⟩ | ⟨reply, same⟩
  · left
    have returned : ((log.store facade).append event fault).1.returned = true := by rw [reply]
    exact ⟨returns.mp returned, returned, stored, counter⟩
  · right
    have raised : ¬ ((log.store facade).append event fault).1.returned = true := by simp [reply]
    exact ⟨mt returns.mpr raised, same⟩

theorem sharedStep_append (log : SharedLog) (facade : Facade) (event : Event) (fault : SqlFault)
    : (Lands log.file event fault
        ∧ ∃ file : EventTable,
          file.rows = log.file.rows ++ [{ event with sequence := log.counter facade + 1 }]
          ∧ (sharedStep log (.append facade event fault)).2
            = ⟨file, Function.update log.counter facade (log.counter facade + 1), log.reader⟩)
      ∨ (¬ Lands log.file event fault ∧ (sharedStep log (.append facade event fault)).2 = log) := by
  rcases shared_append_cases log facade event fault with ⟨lands, _, stored, counter⟩ | ⟨misses, same⟩
  · refine .inl ⟨lands, _, stored, ?_⟩
    simp only [sharedStep, counter]
  · refine .inr ⟨misses, ?_⟩
    have counter : (log.store facade).sequence = log.counter facade := rfl
    have file : (log.store facade).conn.file = log.file := rfl
    simp only [sharedStep, same, counter, file, Function.update_eq_self]

/-- No counter is above the file's largest number, and all numbers up to it are stored. -/
structure Contiguous (log : SharedLog) : Prop where
  counter : ∀ facade, 0 ≤ log.counter facade ∧ log.counter facade ≤ maxSequence log.file
  covers : ∀ number, 1 ≤ number → number ≤ maxSequence log.file
    → number ∈ log.file.rows.map Event.sequence

theorem Contiguous.step {log : SharedLog} (contiguous : Contiguous log) (call : SharedCall)
    : Contiguous (sharedStep log call).2 := by
  cases call with
  | poll reader => exact ⟨contiguous.counter, contiguous.covers⟩
  | open_ facade =>
      have bounds := contiguous.counter facade
      refine ⟨fun other => ?_, contiguous.covers⟩
      simp only [sharedStep, EventStore.open_]
      by_cases same : other = facade
      · subst same
        rw [Function.update_self]
        omega
      · rw [Function.update_of_ne same]
        exact contiguous.counter other
  | append facade event fault =>
      rcases sharedStep_append log facade event fault with ⟨_, file, rows, next⟩ | ⟨_, same⟩
      · have bounds := contiguous.counter facade
        have top := maxSequence_append rows (by simp only; omega)
        simp only at top
        rw [next]
        constructor
        · intro other
          simp only [top]
          by_cases same : other = facade
          · subst same
            rw [Function.update_self]
            omega
          · have others := contiguous.counter other
            rw [Function.update_of_ne same]
            omega
        · intro number positive bounded
          simp only [top] at bounded
          simp only [rows, List.map_append, List.mem_append, List.map_singleton,
            List.mem_singleton]
          by_cases stored : number ≤ maxSequence log.file
          · exact .inl (contiguous.covers number positive stored)
          · exact .inr (by omega)
      · rw [same]
        exact contiguous

/-- Distinct numbers, and readers that received every event up to the last they have seen. -/
structure Tidy (log : SharedLog) : Prop where
  distinct : (log.file.rows.map Event.sequence).Nodup
  seen : ∀ reader, (log.reader reader).last ≤ maxSequence log.file
  received : ∀ reader, ∀ event ∈ log.file.rows, event.sequence ≤ (log.reader reader).last
    → event ∈ (log.reader reader).received

theorem Tidy.poll_complete {log : SharedLog} (tidy : Tidy log) (reader : ℕ) {event : Event}
    (member : event ∈ log.file.rows)
    : event ∈ ((log.reader reader).poll log.file.rows).received := by
  by_cases old : event.sequence ≤ (log.reader reader).last
  · exact List.mem_append_left _ (tidy.received reader event member old)
  · refine List.mem_append_right _ ((List.perm_insertionSort _ _).mem_iff.mpr ?_)
    simp only [List.mem_filter, Bool.and_eq_true, decide_eq_true_eq]
    exact ⟨member, by omega, rfl⟩

theorem Tidy.poll_seen {log : SharedLog} (tidy : Tidy log) (reader : ℕ)
    : ((log.reader reader).poll log.file.rows).last ≤ maxSequence log.file := by
  unfold LogReader.poll
  cases found : (EventStore.replayRows log.file.rows (log.reader reader).last none).getLast? with
  | none => simpa [found] using tidy.seen reader
  | some event =>
      have member := (List.perm_insertionSort _ _).mem_iff.mp (List.mem_of_getLast? found)
      simpa [found] using le_maxSequence (List.mem_of_mem_filter member)

theorem Tidy.step {log : SharedLog} (tidy : Tidy log) {call : SharedCall}
    (current : ∀ facade event fault, call = .append facade event fault → Lands log.file event fault
      → log.counter facade = maxSequence log.file)
    (positive : 0 ≤ maxSequence log.file)
    : Tidy (sharedStep log call).2 := by
  cases call with
  | open_ facade => exact ⟨tidy.distinct, tidy.seen, tidy.received⟩
  | poll reader =>
      refine ⟨tidy.distinct, fun other => ?_, fun other event member old => ?_⟩
      · simp only [sharedStep]
        by_cases same : other = reader
        · subst same
          rw [Function.update_self]
          exact tidy.poll_seen other
        · rw [Function.update_of_ne same]
          exact tidy.seen other
      · simp only [sharedStep] at member old ⊢
        by_cases same : other = reader
        · subst same
          rw [Function.update_self]
          exact tidy.poll_complete other member
        · rw [Function.update_of_ne same] at old ⊢
          exact tidy.received other event member old
  | append facade event fault =>
      rcases sharedStep_append log facade event fault with ⟨lands, file, rows, next⟩ | ⟨_, same⟩
      · have counter := current facade event fault rfl lands
        have top := maxSequence_append rows (by simp only; omega)
        simp only at top
        rw [next]
        refine ⟨?_, fun reader => ?_, fun reader stored member old => ?_⟩
        · simp only [rows, List.map_append, List.nodup_append]
          refine ⟨tidy.distinct, by simp, ?_⟩
          intro number member other last same
          obtain ⟨stored, storedMember, rfl⟩ := List.mem_map.mp member
          have below := le_maxSequence storedMember
          simp only [List.map_singleton, List.mem_singleton] at last
          omega
        · have bound := tidy.seen reader
          simp only [top]
          omega
        · simp only [rows, List.mem_append, List.mem_singleton] at member
          rcases member with earlier | rfl
          · exact tidy.received reader stored earlier old
          · have bound := tidy.seen reader
            simp only at old
            omega
      · rw [same]
        exact tidy

theorem newSharedLog_contiguous : Contiguous newSharedLog where
  counter := fun _ => ⟨le_rfl, le_rfl⟩
  covers := fun number positive bounded => by
    have top : maxSequence newSharedLog.file = 0 := rfl
    omega

theorem newSharedLog_tidy : Tidy newSharedLog where
  distinct := List.nodup_nil
  seen := fun _ => le_rfl
  received := fun _ _ member => absurd member List.not_mem_nil

theorem contiguous_of_mem_visits {calls : List SharedCall} {visit : Visit SharedLog SharedCall Bool}
    (member : visit ∈ sharedVisits calls)
    : Contiguous visit.before :=
  (invariant_of_mem_visits Contiguous newSharedLog_contiguous
    (fun _ call _ contiguous => contiguous.step call) member).1

/-- While the appenders are current every visited log is tidy. Witness: induction on the calls. -/
theorem tidy_of_mem_visits {log : SharedLog} (contiguous : Contiguous log) (tidy : Tidy log)
    {calls : List SharedCall}
    (current : ∀ visit ∈ visits sharedStep log calls, ∀ facade event fault,
      visit.call = .append facade event fault → Lands visit.before.file event fault
      → visit.before.counter facade = maxSequence visit.before.file)
    {visit : Visit SharedLog SharedCall Bool} (member : visit ∈ visits sharedStep log calls)
    : Tidy visit.before ∧ Tidy visit.after := by
  induction calls generalizing log with
  | nil => simp [visits] at member
  | cons call rest ih =>
      have positive : 0 ≤ maxSequence log.file := by
        have bounds := contiguous.counter .stateStore
        omega
      have first : Tidy (sharedStep log call).2 :=
        tidy.step (current ⟨log, call, (sharedStep log call).1, (sharedStep log call).2⟩
          (by simp [visits])) positive
      simp only [visits, List.mem_cons] at member
      rcases member with rfl | later
      · exact ⟨tidy, first⟩
      · exact ih (contiguous.step call) first
          (fun visit visited => current visit (by simp [visits, visited])) later

/-- For every interleaving of appends and openings of both facades and of polls of any readers, the
stored numbers stay distinct and no reader misses an event, if and only if every append that lands
is made by a facade whose counter is the file's largest number.
-/
theorem shared_readers_complete_iff (calls : List SharedCall)
    : ReadersMissNothing calls ↔ AppendersCurrent calls := by
  constructor
  · intro complete visit member facade event fault called lands
    by_contra behind
    have contiguous := contiguous_of_mem_visits member
    have bounds := contiguous.counter facade
    have distinct := (complete visit member).1
    have stepped := step_of_mem_visits member
    rw [called] at stepped
    have after : visit.after = (sharedStep visit.before (.append facade event fault)).2 := by
      rw [stepped]
    rcases sharedStep_append visit.before facade event fault with ⟨_, file, rows, next⟩ | ⟨misses, _⟩
    · rw [after, next] at distinct
      simp only [rows, List.map_append, List.nodup_append] at distinct
      have taken := contiguous.covers (visit.before.counter facade + 1) (by omega) (by omega)
      exact distinct.2.2 _ taken _ (by simp) rfl
    · exact misses lands
  · intro current visit member
    obtain ⟨before, after⟩ := tidy_of_mem_visits newSharedLog_contiguous newSharedLog_tidy current member
    refine ⟨after.distinct, fun reader called event stored => ?_⟩
    have stepped := step_of_mem_visits member
    rw [called] at stepped
    have polled : visit.after = (sharedStep visit.before (.poll reader)).2 := by rw [stepped]
    rw [polled]
    simp only [sharedStep, Function.update_self]
    exact before.poll_complete reader stored

/-- Both facades record one event each, and a reader polls after each of them. -/
def crossedAppends : List SharedCall :=
  [.append .durabilityLayer (EventStore.newEvent .jobSubmitted (some "job-1") none "a" "t0") .none,
    .poll 0,
    .append .stateStore (EventStore.newEvent .jobStarted (some "job-1") none "b" "t1") .none,
    .poll 0]

/-- Both events get the number 1, and the reader never receives the second. -/
theorem crossed_append_missed
    : (finalState sharedStep newSharedLog crossedAppends).file.rows.map
          (fun event => (event.eventId, event.sequence)) = [("a", 1), ("b", 1)]
      ∧ ((finalState sharedStep newSharedLog crossedAppends).reader 0).received.map Event.eventId
        = ["a"]
      ∧ ¬ ReadersMissNothing crossedAppends := by
  have stored : (finalState sharedStep newSharedLog crossedAppends).file.rows.map
      (fun event => (event.eventId, event.sequence)) = [("a", 1), ("b", 1)] := by decide +kernel
  have received : ((finalState sharedStep newSharedLog crossedAppends).reader 0).received.map
      Event.eventId = ["a"] := by decide +kernel
  refine ⟨stored, received, fun complete => ?_⟩
  have numbers : ∃ visit ∈ sharedVisits crossedAppends,
      visit.after.file.rows.map Event.sequence = [1, 1] := by decide +kernel
  obtain ⟨visit, member, same⟩ := numbers
  have distinct := (complete visit member).1
  rw [same] at distinct
  simp at distinct

end RomaBridge.Properties
