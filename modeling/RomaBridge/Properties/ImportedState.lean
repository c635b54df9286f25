import RomaBridge.Model.StateTransfer
import RomaBridge.Properties.EventSequence

/-! A store that is exported and imported elsewhere. The log comes through whole: its numbers have
no gaps, so the appends give the same ones again, and its payloads have been through `json` before.
The snapshots are exported from memory, where they are as they were given. What `json` reads back is
what it wrote from then on.
-/

namespace RomaBridge.Properties

open RomaBridge.Foundation RomaBridge.Model RomaBridge.Model.StateTransfer

-- Texts

/-- Two neighbours that are read as one character. -/
def IsPair : PyChar → PyChar → Prop
  | .surrogate high, .surrogate low => high.val < 1024 ∧ 1024 ≤ low.val
  | _, _ => False

theorem joinSurrogates_head (c : PyChar) (rest : PyStr)
    : (∃ tail, joinSurrogates (c :: rest) = c :: tail)
      ∨ ∃ joined tail, joinSurrogates (c :: rest) = .char joined :: tail := by
  cases c with
  | char c =>
      cases rest with
      | nil => exact .inl ⟨_, rfl⟩
      | cons next rest => exact .inl ⟨_, by rw [joinSurrogates]; simp⟩
  | surrogate high =>
      cases rest with
      | nil => exact .inl ⟨_, rfl⟩
      | cons next rest =>
          cases next with
          | char next => exact .inl ⟨_, by rw [joinSurrogates]; simp⟩
          | surrogate low =>
              by_cases pair : high.val < 1024 ∧ 1024 ≤ low.val
              · exact .inr ⟨_, _, by rw [joinSurrogates, if_pos pair]⟩
              · exact .inl ⟨_, by rw [joinSurrogates, if_neg pair]⟩

theorem not_isPair_head {c next : PyChar} (apart : ¬IsPair c next) (rest : PyStr)
    : ∀ head ∈ (joinSurrogates (next :: rest)).head?, ¬IsPair c head := by
  intro head first
  obtain ⟨tail, read⟩ | ⟨joined, tail, read⟩ := joinSurrogates_head next rest
  · rw [read] at first
    obtain rfl := Option.some.inj first
    exact apart
  · rw [read] at first
    obtain rfl := Option.some.inj first
    cases c <;> exact id

/-- No pairs are left in what is read, by the cases of the reading. -/
theorem joinSurrogates_chain (text : PyStr)
    : (joinSurrogates text).IsChain (fun left right => ¬IsPair left right) := by
  fun_induction joinSurrogates text with
  | case1 => exact .nil
  | case2 c => exact .singleton c
  | case3 high low rest pair ih =>
      refine List.isChain_cons.mpr ⟨?_, ih⟩
      intro head _
      exact id
  | case4 high low rest apart ih =>
      have unpaired : ¬IsPair (.surrogate high) (.surrogate low) := apart
      exact List.isChain_cons.mpr ⟨not_isPair_head unpaired rest, ih⟩
  | case5 c next rest plain ih =>
      refine List.isChain_cons.mpr ⟨not_isPair_head ?_ rest, ih⟩
      intro pair
      cases c with
      | char c => exact pair
      | surrogate high =>
          cases next with
          | char next => exact pair
          | surrogate low => exact plain high low rfl rfl

/-- A text without pairs is read as it is, by the cases of the reading. -/
theorem joinSurrogates_of_chain {text : PyStr}
    (apart : text.IsChain (fun left right => ¬IsPair left right))
    : joinSurrogates text = text := by
  fun_induction joinSurrogates text with
  | case1 => rfl
  | case2 c => rfl
  | case3 high low rest pair ih =>
      exact absurd pair (List.isChain_cons_cons.mp apart).1
  | case4 high low rest _ ih => rw [ih (List.isChain_cons_cons.mp apart).2]
  | case5 c next rest plain ih => rw [ih (List.isChain_cons_cons.mp apart).2]

@[simp]
theorem joinSurrogates_joinSurrogates (text : PyStr)
    : joinSurrogates (joinSurrogates text) = joinSurrogates text :=
  joinSurrogates_of_chain (joinSurrogates_chain text)

/-- A text without surrogates has no pairs, by induction on its characters. -/
theorem chain_of_plain (chars : List Char)
    : (chars.map PyChar.char).IsChain (fun left right => ¬IsPair left right) := by
  induction chars with
  | nil => exact .nil
  | cons c rest ih =>
      refine List.isChain_cons.mpr ⟨?_, ih⟩
      intro head _
      exact id

@[simp]
theorem joinSurrogates_of (text : String) : joinSurrogates (PyStr.of text) = PyStr.of text :=
  joinSurrogates_of_chain (chain_of_plain text.toList)

-- Dictionaries

section Copies

variable {floatText : PyFloat → String}

def IsCopy (floatText : PyFloat → String) (value : PyObj) : Prop :=
  jsonCopy floatText value = some value

/-- The keys are distinct texts as they are read, and the values are their own copies. -/
structure EntryCopies (floatText : PyFloat → String) (entries : List (PyKey × PyObj)) : Prop where
  distinct : (entries.map Prod.fst).Nodup
  keys : ∀ entry ∈ entries, ∃ text, entry.1 = .str text ∧ joinSurrogates text = text
  values : ∀ entry ∈ entries, IsCopy floatText entry.2

theorem EntryCopies.nil : EntryCopies floatText [] := ⟨.nil, by simp, by simp⟩

theorem EntryCopies.setEntry {entries : List (PyKey × PyObj)}
    (copies : EntryCopies floatText entries) {text : PyStr} (read : joinSurrogates text = text)
    {value : PyObj} (copy : IsCopy floatText value)
    : EntryCopies floatText (setEntry entries (.str text) value) := by
  unfold Model.setEntry
  split
  · have kept : ((entries.map (fun entry =>
        if entry.1 = .str text then ((.str text : PyKey), value) else entry)).map Prod.fst)
        = entries.map Prod.fst := by
      rw [List.map_map]
      refine List.map_congr_left ?_
      intro entry _
      by_cases same : entry.1 = .str text
      · simp [same]
      · simp [same]
    refine ⟨kept ▸ copies.distinct, ?_, ?_⟩
    · intro entry member
      obtain ⟨before, stored, rfl⟩ := List.mem_map.mp member
      split
      · exact ⟨text, rfl, read⟩
      · exact copies.keys before stored
    · intro entry member
      obtain ⟨before, stored, rfl⟩ := List.mem_map.mp member
      split
      · exact copy
      · exact copies.values before stored
  · rename_i fresh
    refine ⟨?_, ?_, ?_⟩
    · rw [List.map_append, List.nodup_append]
      refine ⟨copies.distinct, by simp, ?_⟩
      intro key stored other new same
      obtain ⟨entry, member, rfl⟩ := List.mem_map.mp stored
      simp only [List.map_cons, List.map_nil, List.mem_singleton] at new
      refine fresh (List.any_eq_true.mpr ⟨entry, member, ?_⟩)
      simp [same.trans new]
    · intro entry member
      obtain stored | new := List.mem_append.mp member
      · exact copies.keys entry stored
      · obtain rfl := List.mem_singleton.mp new
        exact ⟨text, rfl, read⟩
    · intro entry member
      obtain stored | new := List.mem_append.mp member
      · exact copies.values entry stored
      · obtain rfl := List.mem_singleton.mp new
        exact copy

theorem setEntry_of_fresh {β : Type} {entries : List (PyKey × β)} {key : PyKey} {value : β}
    (fresh : key ∉ entries.map Prod.fst)
    : setEntry entries key value = entries ++ [(key, value)] := by
  have absent : ¬entries.any (fun entry => entry.1 = key) = true := by
    intro found
    obtain ⟨entry, member, same⟩ := List.any_eq_true.mp found
    exact fresh (List.mem_map.mpr ⟨entry, member, of_decide_eq_true same⟩)
  rw [setEntry, if_neg absent]

theorem copyEntries_of_copies {entries read : List (PyKey × PyObj)}
    (copies : EntryCopies floatText (read ++ entries))
    : jsonCopyEntries floatText read entries = some (read ++ entries) := by
  induction entries generalizing read with
  | nil => rw [jsonCopyEntries, List.append_nil]
  | cons entry rest ih =>
      obtain ⟨key, value⟩ := entry
      obtain ⟨text, rfl, joined⟩ := copies.keys (key, value) (by simp)
      have copy : jsonCopy floatText value = some value := copies.values (.str text, value) (by simp)
      have fresh : PyKey.str text ∉ read.map Prod.fst := by
        have distinct := copies.distinct
        rw [List.map_append, List.nodup_append] at distinct
        exact fun stored => distinct.2.2 _ stored _ (by simp) rfl
      have later : EntryCopies floatText ((read ++ [(.str text, value)]) ++ rest) := by
        rwa [List.append_assoc, List.singleton_append]
      rw [jsonCopyEntries]
      simp only [PyKey.jsonText, copy, joined, Option.bind_eq_bind, Option.bind_some,
        setEntry_of_fresh fresh]
      rw [ih later, List.append_assoc, List.singleton_append]

-- Copies of copies

theorem isCopy_of_intText {value : ℤ} {text : PyStr} (found : intText value = some text)
    : IsCopy floatText (.int value) := by
  rw [IsCopy, jsonCopy, found]
  rfl

mutual

theorem isCopy_of_jsonCopy : ∀ value copy, jsonCopy floatText value = some copy →
    IsCopy floatText copy
  | .none, _, copied => by cases copied; rfl
  | .bool _, _, copied => by cases copied; rfl
  | .int value, _, copied => by
      rw [jsonCopy] at copied
      obtain ⟨text, found, rfl⟩ := Option.map_eq_some_iff.mp copied
      exact isCopy_of_intText found
  | .float _, _, copied => by cases copied; rfl
  | .str text, _, copied => by
      cases copied
      rw [IsCopy, jsonCopy, joinSurrogates_joinSurrogates]
  | .other _ _, _, copied => by cases copied
  | .list items, _, copied => by
      rw [jsonCopy] at copied
      obtain ⟨copies, found, rfl⟩ := Option.map_eq_some_iff.mp copied
      rw [IsCopy, jsonCopy, copies_of_jsonCopyItems items copies found]
      rfl
  | .tuple items, _, copied => by
      rw [jsonCopy] at copied
      obtain ⟨copies, found, rfl⟩ := Option.map_eq_some_iff.mp copied
      rw [IsCopy, jsonCopy, copies_of_jsonCopyItems items copies found]
      rfl
  | .dict entries, _, copied => by
      rw [jsonCopy] at copied
      obtain ⟨copies, found, rfl⟩ := Option.map_eq_some_iff.mp copied
      have own := entryCopies_of_jsonCopyEntries entries [] copies found .nil
      rw [IsCopy, jsonCopy, @copyEntries_of_copies _ copies [] own]
      rfl

theorem copies_of_jsonCopyItems : ∀ items copies, jsonCopyItems floatText items = some copies →
    jsonCopyItems floatText copies = some copies
  | [], _, copied => by cases copied; rfl
  | item :: rest, _, copied => by
      rw [jsonCopyItems] at copied
      obtain ⟨copy, first, copied⟩ := Option.bind_eq_some_iff.mp copied
      obtain ⟨copies, others, copied⟩ := Option.bind_eq_some_iff.mp copied
      cases copied
      have own : jsonCopy floatText copy = some copy := isCopy_of_jsonCopy item copy first
      rw [jsonCopyItems, own, copies_of_jsonCopyItems rest copies others]
      rfl

theorem entryCopies_of_jsonCopyEntries : ∀ entries read copies,
    jsonCopyEntries floatText read entries = some copies → EntryCopies floatText read →
    EntryCopies floatText copies
  | [], _, _, copied, before => by
      rw [jsonCopyEntries] at copied
      cases copied
      exact before
  | (key, value) :: rest, read, copies, copied, before => by
      rw [jsonCopyEntries] at copied
      obtain ⟨text, _, copied⟩ := Option.bind_eq_some_iff.mp copied
      obtain ⟨copy, first, copied⟩ := Option.bind_eq_some_iff.mp copied
      have own := isCopy_of_jsonCopy value copy first
      exact entryCopies_of_jsonCopyEntries rest _ copies copied
        (before.setEntry (joinSurrogates_joinSurrogates text) own)

end

end Copies

variable {log : StateTransfer.EventStore} {event : StateTransfer.Event}
  {store : StateTransfer.StateStore} {entries : Entries}

/-- The calls that write a store, and the end of one opening of its files. -/
inductive StateCall where
  | append (event : StateTransfer.Event) (fault : SqlFault)
  | emit (eventType : Durability.EventType) (jobId : Option String) (payload : Option Entries)
      (uuid timestamp : String) (fault : SqlFault)
  | saveJobState (jobId : String) (state : Entries) (ends : WriteEnd) (uuid timestamp : String)
      (fault : SqlFault)
  | rollbackToSequence (jobId : String) (targetSequence : ℤ) (ends : WriteEnd)
      (uuid timestamp : String) (fault : SqlFault)
  | importAll (data : Export) (ends : WriteEnd) (faults : List SqlFault)
  | reopen

section Transfer

variable {floatText : PyFloat → String}

def stateStep (floatText : PyFloat → String) (store : StateTransfer.StateStore)
    : StateCall → StateTransfer.StateStore
  | .append event fault =>
      { store with eventStore := (store.eventStore.append floatText event fault).2 }
  | .emit eventType jobId payload uuid timestamp fault =>
      { store with
        eventStore := (store.eventStore.emit floatText eventType jobId payload uuid timestamp fault).2 }
  | .saveJobState jobId state ends uuid timestamp fault =>
      (store.saveJobState floatText jobId state ends uuid timestamp fault).2
  | .rollbackToSequence jobId targetSequence ends uuid timestamp fault =>
      (store.rollbackToSequence floatText jobId targetSequence ends uuid timestamp fault).2
  | .importAll data ends faults => (store.importAll floatText data ends faults).2
  | .reopen => store.reopen

def stateAfter (floatText : PyFloat → String) (calls : List StateCall) : StateTransfer.StateStore :=
  calls.foldl (stateStep floatText) .new

/-- One store is another one again: its events with all their fields in their order, the state of
every job, and after a reopening the snapshots.
-/
structure Reproduces (target source : StateTransfer.StateStore) : Prop where
  log : target.eventStore.rows = source.eventStore.rows
  replayed : ∀ fromSequence,
    target.eventStore.replay fromSequence = source.eventStore.replay fromSequence
  latest : target.eventStore.sequence = source.eventStore.sequence
  states : ∀ jobId, target.getJobState jobId = source.getJobState jobId
  statesReopened : ∀ jobId, target.reopen.getJobState jobId = source.getJobState jobId
  snapshotsReopened : target.reopen.snapshots = source.snapshots

def Transfers (floatText : PyFloat → String) (source : StateTransfer.StateStore) : Prop :=
  ∃ target, StateStore.importAll floatText .new source.exportAll .done [] = (true, target)
    ∧ Reproduces target source

-- The log

/-- No transaction is open, the stored numbers are 1 to n, the counter is n and the payloads have
been through `json`.
-/
structure Recorded (floatText : PyFloat → String) (log : StateTransfer.EventStore) : Prop where
  clean : log.conn.pending = []
  numbers : log.conn.file.rows.map Event.sequence = numbersTo log.conn.file.rows.length
  counter : log.sequence = log.conn.file.rows.length
  payloads : ∀ event ∈ log.conn.file.rows, EntryCopies floatText event.payload

theorem maxSequence_of_recorded {file : StateTransfer.EventTable}
    (numbers : file.rows.map Event.sequence = numbersTo file.rows.length)
    : StateTransfer.maxSequence file = file.rows.length := by
  unfold StateTransfer.maxSequence
  rw [numbers, max?_numbersTo]

theorem eventRows_eq_file (clean : log.conn.pending = [])
    : log.rows = log.conn.file.rows := by
  simp [EventStore.rows, Connection.view, clean]

def storedRow (log : StateTransfer.EventStore) (event : StateTransfer.Event) (copy : Entries)
    : StateTransfer.Event :=
  { event with payload := copy, sequence := log.sequence + 1 }

/-- An append of a payload that `json` takes returns with the next number stored, or raises with
nothing changed.
-/
theorem appendEvent_cases (clean : log.conn.pending = []) {copy : Entries} (fault : SqlFault)
    (copied : jsonCopyEntries floatText [] event.payload = some copy)
    : ((log.append floatText event fault).1.isSome = true
        ∧ (log.append floatText event fault).2.conn.pending = []
        ∧ (log.append floatText event fault).2.conn.file.rows
          = log.conn.file.rows ++ [storedRow log event copy]
        ∧ (log.append floatText event fault).2.sequence = log.sequence + 1)
      ∨ ((log.append floatText event fault).1.isSome = false
        ∧ (log.append floatText event fault).2 = log
        ∧ (log.conn.insertAll (fun _ => true) [storedRow log event copy] fault).2 = false) := by
  have cases := Connection.insertAll_cases (fun _ => true) [storedRow log event copy] fault clean
  unfold storedRow at cases ⊢
  obtain ⟨returned, stored, closed⟩ | ⟨raised, same, _⟩ := cases
  · left
    simp [EventStore.append, copied, returned, stored, closed]
  · right
    have before : Connection.connect log.conn.file = log.conn := by
      obtain ⟨⟨file, pending, unique⟩, sequence⟩ := log
      simp only at clean
      subst clean
      rfl
    simp [EventStore.append, copied, raised, Connection.rollback, same, before]

theorem appendEvent_refused (clean : log.conn.pending = []) (fault : SqlFault)
    (refused : jsonCopyEntries floatText [] event.payload = none)
    : log.append floatText event fault = (none, log) := by
  obtain ⟨⟨file, pending, unique⟩, sequence⟩ := log
  simp only at clean
  subst clean
  simp only [EventStore.append, refused]
  rfl

theorem Recorded.extended {next : StateTransfer.EventStore} (recorded : Recorded floatText log)
    {copy : Entries} (copies : EntryCopies floatText copy) (clean : next.conn.pending = [])
    (stored : next.conn.file.rows = log.conn.file.rows ++ [storedRow log event copy])
    (counted : next.sequence = log.sequence + 1)
    : Recorded floatText next := by
  refine ⟨clean, ?_, ?_, ?_⟩
  · rw [stored, List.map_append, recorded.numbers, List.length_append, List.length_singleton,
      numbersTo_succ]
    simp [storedRow, recorded.counter]
  · rw [counted, stored, recorded.counter]
    simp
  · rw [stored]
    intro row member
    obtain old | new := List.mem_append.mp member
    · exact recorded.payloads row old
    · obtain rfl := List.mem_singleton.mp new
      exact copies

theorem Recorded.append (recorded : Recorded floatText log) (event : StateTransfer.Event)
    (fault : SqlFault)
    : Recorded floatText (log.append floatText event fault).2 := by
  cases copied : jsonCopyEntries floatText [] event.payload with
  | none =>
      rw [appendEvent_refused recorded.clean fault copied]
      exact recorded
  | some copy =>
      obtain ⟨-, clean, stored, counted⟩ | ⟨-, same, -⟩ :=
        appendEvent_cases recorded.clean fault copied
      · have copies := entryCopies_of_jsonCopyEntries event.payload [] copy copied .nil
        exact recorded.extended copies clean stored counted
      · rw [same]
        exact recorded

/-- The events of an import keep a log recorded, by induction on them. -/
theorem Recorded.appendDicts (recorded : Recorded floatText log) (dicts : List Entries)
    (faults : List SqlFault)
    : Recorded floatText (StateStore.appendDicts floatText log dicts faults).2 := by
  induction dicts generalizing log faults with
  | nil => exact recorded
  | cons dict rest ih =>
      rw [StateStore.appendDicts]
      cases Event.fromDict dict with
      | none => exact recorded
      | some event =>
          have next := recorded.append event (faults.headD .none)
          simp only
          split
          · exact ih next faults.tail
          · exact next

theorem recorded_new : Recorded floatText (StateTransfer.EventStore.open_ Table.empty) :=
  ⟨rfl, rfl, rfl, fun event member => by cases member⟩

theorem Recorded.reopen (recorded : Recorded floatText log)
    : log.reopen = log := by
  have counter := maxSequence_of_recorded recorded.numbers
  have same := recorded.counter
  have clean := recorded.clean
  obtain ⟨⟨file, pending, unique⟩, sequence⟩ := log
  simp only at clean counter same
  subst clean
  subst same
  simp only [EventStore.reopen, EventStore.open_, Connection.rollback, Connection.file_connect,
    counter]
  rfl

theorem Recorded.saveJobState (recorded : Recorded floatText store.eventStore) (jobId : String)
    (state : Entries) (ends : WriteEnd) (uuid timestamp : String) (fault : SqlFault)
    : Recorded floatText
        (store.saveJobState floatText jobId state ends uuid timestamp fault).2.eventStore := by
  unfold StateStore.saveJobState
  simp only
  split
  · exact recorded.append _ fault
  · exact recorded

theorem Recorded.step {store : StateTransfer.StateStore}
    (recorded : Recorded floatText store.eventStore) (call : StateCall)
    : Recorded floatText (stateStep floatText store call).eventStore := by
  cases call with
  | append event fault => exact recorded.append event fault
  | emit eventType jobId payload uuid timestamp fault => exact recorded.append _ fault
  | saveJobState jobId state ends uuid timestamp fault =>
      exact recorded.saveJobState jobId state ends uuid timestamp fault
  | rollbackToSequence jobId targetSequence ends uuid timestamp fault =>
      simp only [stateStep, StateStore.rollbackToSequence]
      cases store.rolledBack jobId targetSequence with
      | none => exact recorded
      | some tempState => exact recorded.saveJobState jobId tempState ends uuid timestamp fault
  | importAll data ends faults =>
      simp only [stateStep, StateStore.importAll]
      split
      · exact recorded.appendDicts data.events faults
      · exact recorded
  | reopen =>
      simp only [stateStep, StateStore.reopen]
      rw [recorded.reopen]
      exact recorded

/-- The log of every run is recorded, by induction on the calls. -/
theorem recorded_foldl (recorded : Recorded floatText store.eventStore) (calls : List StateCall)
    : Recorded floatText (calls.foldl (stateStep floatText) store).eventStore := by
  induction calls generalizing store with
  | nil => exact recorded
  | cons call rest ih => exact ih (recorded.step call)

theorem recorded_stateAfter (calls : List StateCall)
    : Recorded floatText (stateAfter floatText calls).eventStore :=
  recorded_foldl recorded_new calls

-- The dictionaries of an export

theorem plainChars_map (chars : List Char) : plainChars (chars.map PyChar.char) = some chars := by
  induction chars with
  | nil => rfl
  | cons c rest ih => rw [List.map_cons, plainChars, ih]; rfl

@[simp]
theorem plainText_textOf (text : String) : plainText (textOf text) = some text := by
  rw [textOf, plainText, PyStr.of, plainChars_map]
  simp

@[simp]
theorem optionalText_elim (text : Option String)
    : optionalText (text.elim .none textOf) = some text := by
  cases text with
  | none => rfl
  | some text =>
      have read := plainText_textOf text
      simp only [textOf] at read
      simp [optionalText, textOf, read]

@[simp]
theorem keyOf_inj {left right : String} : keyOf left = keyOf right ↔ left = right := by
  constructor
  · intro same
    have chars := PyKey.str.inj same
    have injective : Function.Injective PyChar.char := fun _ _ equal => PyChar.char.inj equal
    exact String.toList_inj.mp (injective.list_map chars)
  · exact congrArg keyOf

@[simp]
theorem fromDict_toDict (event : StateTransfer.Event) : Event.fromDict event.toDict = some event := by
  simp [Event.fromDict, Event.toDict, getEntry]

-- The import

theorem sequence_after {before rest : List StateTransfer.Event}
    (numbers : (before ++ event :: rest).map Event.sequence
      = numbersTo (before ++ event :: rest).length)
    : event.sequence = before.length + 1 := by
  have there : ((before ++ event :: rest).map Event.sequence)[before.length]?
      = some event.sequence := by simp
  rw [numbers] at there
  have number : (numbersTo (before ++ event :: rest).length)[before.length]?
      = some ((before.length : ℤ) + 1) := by
    simp [numbersTo]
  exact Option.some.inj (there.symm.trans number)

theorem appendEvent_same (recorded : Recorded floatText log)
    (payload : EntryCopies floatText event.payload) (next : event.sequence = log.sequence + 1)
    (fresh : event.eventId ∉ log.conn.file.rows.map Event.eventId)
    : (log.append floatText event .none).1.isSome = true
      ∧ (log.append floatText event .none).2.conn.file.rows = log.conn.file.rows ++ [event] := by
  have copied : jsonCopyEntries floatText [] event.payload = some event.payload :=
    @copyEntries_of_copies _ event.payload [] payload
  have same : storedRow log event event.payload = event := by
    rw [storedRow, ← next]
  obtain ⟨returned, -, stored, -⟩ | ⟨-, -, raised⟩ := appendEvent_cases recorded.clean .none copied
  · exact ⟨returned, stored.trans (by rw [same])⟩
  · have admitted : log.conn.Admits (fun _ => true) [storedRow log event event.payload] := by
      rw [Connection.admits_singleton, recorded.clean, List.append_nil, same]
      exact ⟨rfl, fresh⟩
    have quiet : SqlFault.none ≠ .prepare ∧ SqlFault.none.atRow 0 = none
        ∧ SqlFault.none.atCommit = none := ⟨nofun, rfl, rfl⟩
    rw [Connection.insertAll_singleton.mpr ⟨quiet, admitted⟩] at raised
    cases raised

/-- The rest of a log is imported behind its first events, by induction on the rest. -/
theorem appendDicts_same (recorded : Recorded floatText log) (rest : List StateTransfer.Event)
    (numbers : (log.conn.file.rows ++ rest).map Event.sequence
      = numbersTo (log.conn.file.rows ++ rest).length)
    (distinct : ((log.conn.file.rows ++ rest).map Event.eventId).Nodup)
    (payloads : ∀ event ∈ rest, EntryCopies floatText event.payload)
    : (StateStore.appendDicts floatText log (rest.map Event.toDict) []).1 = true
      ∧ (StateStore.appendDicts floatText log (rest.map Event.toDict) []).2.conn.file.rows
        = log.conn.file.rows ++ rest := by
  induction rest generalizing log with
  | nil => exact ⟨rfl, (List.append_nil _).symm⟩
  | cons event rest ih =>
      have next : event.sequence = log.sequence + 1 :=
        (sequence_after numbers).trans (by rw [recorded.counter])
      have fresh : event.eventId ∉ log.conn.file.rows.map Event.eventId := by
        rw [List.map_append, List.nodup_append] at distinct
        exact fun stored => distinct.2.2 _ stored _ (by simp) rfl
      obtain ⟨returned, stored⟩ := appendEvent_same recorded (payloads event (by simp)) next fresh
      have joined : (log.append floatText event .none).2.conn.file.rows ++ rest
          = log.conn.file.rows ++ event :: rest := by
        rw [stored, List.append_assoc, List.singleton_append]
      have others := ih (recorded.append event .none) (by rw [joined]; exact numbers)
        (by rw [joined]; exact distinct) (fun other member => payloads other (by simp [member]))
      rw [joined] at others
      simp only [List.map_cons, StateStore.appendDicts, fromDict_toDict, List.headD_nil,
        List.tail_nil, returned, if_true]
      exact others

theorem replay_recorded (recorded : Recorded floatText log) (fromSequence : ℤ)
    : log.replay fromSequence
      = log.conn.file.rows.filter (fun event => fromSequence < event.sequence) := by
  have increasing : (numbersTo log.conn.file.rows.length).Pairwise (fun left right => left ≤ right) := by
    rw [numbersTo, List.pairwise_map]
    exact List.pairwise_lt_range.imp (fun below => by omega)
  rw [← recorded.numbers, List.pairwise_map] at increasing
  have ordered : log.conn.file.rows.Pairwise StateTransfer.BySequence := increasing
  rw [EventStore.replay, eventRows_eq_file recorded.clean,
    (ordered.sublist List.filter_sublist).insertionSort_eq]

theorem exportEvents_recorded (recorded : Recorded floatText log)
    : log.exportEvents = log.conn.file.rows.map Event.toDict := by
  have positive : ∀ event ∈ log.conn.file.rows, 0 < event.sequence := by
    intro event member
    have number : event.sequence ∈ numbersTo log.conn.file.rows.length :=
      recorded.numbers ▸ List.mem_map_of_mem member
    obtain ⟨index, -, same⟩ := List.mem_map.mp number
    omega
  have whole : log.conn.file.rows.filter (fun event => 0 < event.sequence) = log.conn.file.rows :=
    List.filter_eq_self.mpr (fun event member => decide_eq_true (positive event member))
  rw [EventStore.exportEvents, replay_recorded recorded, whole]

theorem reproduces_of_rows {target source : StateTransfer.StateStore}
    (recordedTarget : Recorded floatText target.eventStore)
    (recordedSource : Recorded floatText source.eventStore)
    (rows : target.eventStore.conn.file.rows = source.eventStore.conn.file.rows)
    (snapshots : target.reopen.snapshots = source.snapshots)
    : Reproduces target source := by
  have log : target.eventStore.rows = source.eventStore.rows := by
    rw [eventRows_eq_file recordedTarget.clean, eventRows_eq_file recordedSource.clean, rows]
  have states : ∀ jobId, target.getJobState jobId = source.getJobState jobId := by
    intro jobId
    simp only [StateStore.getJobState, EventStore.getEventsForJob, log]
  refine ⟨log, ?_, ?_, states, ?_, snapshots⟩
  · intro fromSequence
    rw [replay_recorded recordedTarget, replay_recorded recordedSource, rows]
  · rw [recordedTarget.counter, recordedSource.counter, rows]
  · intro jobId
    rw [← states jobId]
    simp only [StateStore.getJobState, StateStore.reopen, recordedTarget.reopen]

-- The snapshots

theorem copyEntries_self_iff
    : jsonCopyEntries floatText [] entries = some entries ↔ EntryCopies floatText entries :=
  ⟨fun copied => entryCopies_of_jsonCopyEntries entries [] entries copied .nil,
    fun copies => @copyEntries_of_copies _ entries [] copies⟩

theorem saveSnapshots_done (snapshots : Entries) (file : SnapshotsFile)
    : saveSnapshots floatText snapshots file .done
      = match jsonCopyEntries floatText [] snapshots with
        | some copies => (true, .json (.dict [(keyOf "snapshots", .dict copies)]))
        | none => (false, .torn) := by
  have joined : joinSurrogates (PyStr.of "snapshots") = PyStr.of "snapshots" :=
    joinSurrogates_of "snapshots"
  cases copied : jsonCopyEntries floatText [] snapshots with
  | none => simp [saveSnapshots, jsonCopy, jsonCopyEntries, PyKey.jsonText, keyOf, copied]
  | some copies =>
      simp [saveSnapshots, jsonCopy, jsonCopyEntries, PyKey.jsonText, keyOf, copied, joined,
        setEntry]

theorem loadSnapshots_json (copies : Entries)
    : loadSnapshots (.json (.dict [(keyOf "snapshots", .dict copies)])) = copies := by
  simp [loadSnapshots, getEntry]

/-- A store with a recorded log is transferred exactly when the snapshots it has in memory are data
that `json` gives back as they are.
-/
theorem transfers_iff {source : StateTransfer.StateStore}
    (recorded : Recorded floatText source.eventStore)
    : Transfers floatText source ↔ EntryCopies floatText source.snapshots := by
  constructor
  · intro ⟨target, imported, reproduces⟩
    unfold StateStore.importAll at imported
    rw [saveSnapshots_done] at imported
    cases copied : jsonCopyEntries floatText [] source.snapshots with
    | none =>
        simp only [StateStore.exportAll, copied] at imported
        cases imported
    | some copies =>
        simp only [StateStore.exportAll, copied, if_true, Prod.mk.injEq] at imported
        obtain ⟨-, rfl⟩ := imported
        have same : copies = source.snapshots := by
          have loaded := reproduces.snapshotsReopened
          simpa only [StateStore.reopen, loadSnapshots_json] using loaded
        exact copyEntries_self_iff.mp (same ▸ copied)
  · intro copies
    have copied := copyEntries_self_iff.mpr copies
    have empty : (StateTransfer.EventStore.open_ Table.empty).conn.file.rows ++
        source.eventStore.conn.file.rows = source.eventStore.conn.file.rows := List.nil_append _
    have unique : (source.eventStore.conn.file.rows.map Event.eventId).Nodup :=
      source.eventStore.conn.file.unique
    obtain ⟨returned, stored⟩ := appendDicts_same (@recorded_new floatText)
      source.eventStore.conn.file.rows (by rw [empty]; exact recorded.numbers)
      (by rw [empty]; exact unique) recorded.payloads
    have log := (@recorded_new floatText).appendDicts
      (source.eventStore.conn.file.rows.map Event.toDict) []
    rw [empty] at stored
    refine ⟨⟨(StateStore.appendDicts floatText (StateTransfer.EventStore.open_ Table.empty)
        (source.eventStore.conn.file.rows.map Event.toDict) []).2, source.snapshots,
      .json (.dict [(keyOf "snapshots", .dict source.snapshots)])⟩, ?_,
      reproduces_of_rows log recorded stored (loadSnapshots_json source.snapshots)⟩
    unfold StateStore.importAll
    rw [saveSnapshots_done]
    simp only [StateStore.exportAll, copied, if_true, exportEvents_recorded recorded,
      StateStore.new, returned]

-- Runs on JSON data

end Transfer

/-- A store that is exported after any calls is transferred exactly when the snapshots it has in
memory are data that `json` gives back as they are.
-/
theorem import_reproduces_iff (floatText : PyFloat → String) (calls : List StateCall)
    : Transfers floatText (stateAfter floatText calls)
      ↔ EntryCopies floatText (stateAfter floatText calls).snapshots :=
  transfers_iff (recorded_stateAfter calls)

def datedState : List StateCall :=
  [.emit .jobSubmitted (some "job-1") none "event-1" "2026-01-01T00:00:00+00:00" .none,
    .saveJobState "job-1" [(keyOf "started_at", .other (PyStr.of "2026-01-01 00:00:00") [])] .done
      "event-2" "2026-01-01T00:00:01+00:00" .none]

def tupleState : List StateCall :=
  [.saveJobState "job-1" [(keyOf "gpus", .tuple [.int 0, .int 1])] .done "event-1"
    "2026-01-01T00:00:00+00:00" .none]

def plainFloatText : PyFloat → String
  | .finite value => toString value
  | .nan => "NaN"
  | .inf negative => if negative then "-Infinity" else "Infinity"

/-- The state with the date stays in memory, so that the export is not imported, although the save
raised; and the tuple comes back as a list.
-/
theorem unwritable_state_exported
    : ¬Transfers plainFloatText (stateAfter plainFloatText datedState)
      ∧ ¬Transfers plainFloatText (stateAfter plainFloatText tupleState) := by
  rw [transfers_iff (recorded_stateAfter datedState),
    transfers_iff (recorded_stateAfter tupleState)]
  constructor
  · intro copies
    have dated : (keyOf "job-1",
        PyObj.dict [(keyOf "started_at", .other (PyStr.of "2026-01-01 00:00:00") [])])
        ∈ (stateAfter plainFloatText datedState).snapshots := by
      exact List.mem_singleton.mpr rfl
    have copy := copies.values _ dated
    cases copy
  · intro copies
    have listed : (keyOf "job-1",
        PyObj.dict [(keyOf "gpus", .tuple [.int 0, .int 1])])
        ∈ (stateAfter plainFloatText tupleState).snapshots := by
      exact List.mem_singleton.mpr rfl
    have copy := copies.values _ listed
    cases copy

end RomaBridge.Properties
