import RomaBridge.Foundation.Trace
import RomaBridge.Model.PyValues
import Mathlib.Data.List.Sort

/-! `deploy/ops/lease.py`: the writer lease, a JSON file, and the markers of the sessions beside it.
Every command is one section under the `flock`; the commands differ in what they read before they
write.
-/

namespace RomaBridge.Model.WriterLease

open RomaBridge.Foundation
open RomaBridge.Model (JsonValue JsonDict pyStrip)

-- Values

/-- `bool(value)`. -/
def isTruthy : JsonValue → Bool
  | .null => false
  | .bool value => value
  | .int value => value ≠ 0
  | .float value => value ≠ 0
  | .str text => text ≠ ""
  | .list items => !items.isEmpty
  | .dict entries => !entries.isEmpty

/-- What a value is as a key of a dictionary. -/
inductive KeyForm where
  | null
  | text (value : String)
  | number (value : ℚ)
  deriving DecidableEq, Repr

/-- The key that a value is; a list or a dictionary is none. -/
def keyForm : JsonValue → Option KeyForm
  | .null => some .null
  | .str text => some (.text text)
  | .bool value => some (.number (if value then 1 else 0))
  | .int value => some (.number value)
  | .float value => some (.number value)
  | .list _ => none
  | .dict _ => none

def isHashable (value : JsonValue) : Bool := (keyForm value).isSome

def sameKey (left right : JsonValue) : Bool :=
  (keyForm left).isSome && keyForm left = keyForm right

/-- What `datetime.fromisoformat` makes of a text: seconds, with or without a time zone. -/
inductive IsoTime where
  | invalid
  | naive (seconds : ℚ)
  | aware (seconds : ℚ)
  deriving DecidableEq, Repr

/-- The file of a session's marker, by its stem. A file in a directory below `.sessions`, or
elsewhere, is not listed by `glob("*.json")`. No marker is the lease file.
-/
structure MarkerFile where
  stem : String
  listed : Bool
  deriving DecidableEq, Repr

/-- Texts of times, of values and of files. `parse` reads a text after `replace("Z", "+00:00")`,
`repr` is `str` of a value that is no text, `intOfText` is `int` of a text, and `path` is `sessions
/ f"{instance_id}.json"`.
-/
structure Texts where
  iso : ℚ → String
  parse : String → IsoTime
  repr : JsonValue → String
  intOfText : String → Option ℤ
  path : String → MarkerFile

/-- `str(value)`. -/
def strOf (texts : Texts) : JsonValue → String
  | .str text => text
  | value => texts.repr value

/-- `int(value or 0)`; `none` is an exception. -/
def intOrZero (texts : Texts) (value : JsonValue) : Option ℤ :=
  if isTruthy value then
    match value with
    | .bool _ => some 1
    | .int number => some number
    | .float number => some (number.num.tdiv number.den)
    | .str text => texts.intOfText text
    | _ => none
  else some 0

-- Files

/-- What the lease file holds. `unparsable` is a text that is no JSON, or a file that cannot be
read.
-/
inductive LeaseFile where
  | absent
  | undecodable
  | unparsable
  | nonObject
  | object (dict : JsonDict)

/-- What a marker file holds: an object, nothing that parses, a false value that is no object, or
what no reader survives (another value, or bytes that are no text).
-/
inductive MarkerText where
  | object (dict : JsonDict)
  | unparsable
  | falseValue
  | poison

/-- The lease file and the marker files. -/
structure Artifacts where
  lease : LeaseFile
  markers : Table MarkerFile (MarkerFile × MarkerText) Prod.fst

structure ProcessInfo where
  pid : ℤ
  host : String
  bootId : String

/-- The readings of `utcnow` of a command, one for each place that takes one. -/
structure Readings where
  age : ℚ
  fresh : ℚ
  started : ℚ
  beat : ℚ
  first : ℚ
  seen : ℚ

-- Markers

/-- What one listed file adds to `fresh_markers`: `none` is an exception, `some none` nothing. -/
def freshKey (texts : Texts) (ttlMin : ℤ) (now : ℚ) (entry : MarkerFile × MarkerText)
    : Option (Option JsonValue) :=
  match entry.2 with
  | .unparsable => some none
  | .falseValue => some none
  | .poison => none
  | .object dict =>
      match dict.get? "last_seen" with
      | none => some none
      | some value =>
          match texts.parse (strOf texts value) with
          | .invalid => some none
          | .naive _ => none
          | .aware seen =>
              if now - seen < ttlMin * 60 then
                if isHashable (dict.getOr "instance_id" (.str entry.1.stem)) then
                  some (some (dict.getOr "instance_id" (.str entry.1.stem)))
                else none
              else some none

/-- The keys of `fresh_markers` over some files; `none` is an exception. -/
def collectFresh (texts : Texts) (ttlMin : ℤ) (now : ℚ)
    : List (MarkerFile × MarkerText) → Option (List JsonValue)
  | [] => some []
  | entry :: rest =>
      match freshKey texts ttlMin now entry with
      | none => none
      | some none => collectFresh texts ttlMin now rest
      | some (some key) =>
          (collectFresh texts ttlMin now rest).map (fun later =>
            key :: later.filter (fun other => !sameKey other key))

/-- `sorted(sessions_dir.glob("*.json"))`. -/
def listedMarkers (artifacts : Artifacts) : List (MarkerFile × MarkerText) :=
  (artifacts.markers.rows.filter (fun entry => entry.1.listed)).insertionSort
    (fun left right => left.1.stem ++ ".json" ≤ right.1.stem ++ ".json")

/-- `fresh_markers`: the instances of the fresh markers. -/
def freshMarkers (texts : Texts) (ttlMin : ℤ) (now : ℚ) (artifacts : Artifacts)
    : Option (List JsonValue) :=
  collectFresh texts ttlMin now (listedMarkers artifacts)

/-- `read_json` of a marker; `none` is a value without `get`, or bytes that are no text. -/
def readMarker (artifacts : Artifacts) (file : MarkerFile) : Option JsonDict :=
  match (artifacts.markers.find? file).map Prod.snd with
  | none => some Table.empty
  | some .unparsable => some Table.empty
  | some .falseValue => none
  | some .poison => none
  | some (.object dict) => some dict

/-- `value or fallback`. -/
def orElse (value fallback : JsonValue) : JsonValue := if isTruthy value then value else fallback

/-- The payload of `write_marker`. -/
def markerPayload (texts : Texts) (instanceId conversationId : JsonValue) (previous : JsonDict)
    (process : ProcessInfo) (clock : Readings)
    : JsonDict :=
  JsonDict.ofList
    [("instance_id", instanceId),
     ("conversation_id", orElse conversationId (previous.getOr "conversation_id" (.str ""))),
     ("first_seen", orElse (previous.getOr "first_seen" .null) (.str (texts.iso clock.first))),
     ("last_seen", .str (texts.iso clock.seen)),
     ("pid", .int process.pid),
     ("host", .str process.host),
     ("boot_id", .str process.bootId)]

/-- `atomic_write` of a marker. -/
def saveMarker (artifacts : Artifacts) (file : MarkerFile) (payload : JsonDict) : Artifacts :=
  { artifacts with markers := artifacts.markers.put (file, .object payload) }

/-- `write_marker`; `none` is an exception, before the file is written. -/
def writeMarker (texts : Texts) (artifacts : Artifacts) (instanceId conversationId : JsonValue)
    (process : ProcessInfo) (clock : Readings)
    : Option Artifacts :=
  (readMarker artifacts (texts.path (strOf texts instanceId))).map (fun previous =>
    saveMarker artifacts (texts.path (strOf texts instanceId))
      (markerPayload texts instanceId conversationId previous process clock))

-- Commands

/-- The causes of a `CollisionError`. -/
inductive Refusal where
  | unreadableLease
  | leaseNotObject
  | badHeartbeat
  | liveLease
  | freshForeign
  | noLease
  deriving DecidableEq, Repr

/-- How a command ends. `crashed` is any other exception before the first write, `halfWritten` one
between the write of the lease and that of the marker.
-/
inductive WriterReply where
  | captured (instanceId : String) (fencingToken : ℤ)
  | renewed
  | allowed
  | refused (cause : Refusal)
  | crashed
  | halfWritten
  deriving DecidableEq, Repr

def readStateStrict : LeaseFile → Except WriterReply JsonDict
  | .absent => .ok Table.empty
  | .undecodable => .error .crashed
  | .unparsable => .error (.refused .unreadableLease)
  | .nonObject => .error (.refused .leaseNotObject)
  | .object dict => .ok dict

/-- `parse_heartbeat_at`; `none` refuses. -/
def parseHeartbeatAt (texts : Texts) (value : Option JsonValue) : Option ℚ :=
  match value with
  | some (.str text) =>
      if pyStrip text = "" then none
      else
        match texts.parse text with
        | .invalid => none
        | .naive seconds => some seconds
        | .aware seconds => some seconds
  | _ => none

def heartbeatAgeMin (now beat : ℚ) : ℚ := roundTo 1 ((now - beat) / 60)

/-- The fresh markers of third instances; `none` is an exception. -/
def foreignMarkers (fresh : List JsonValue) (holder : JsonValue) (iid : String)
    : Option (List JsonValue) :=
  if fresh ≠ [] ∧ isHashable holder = false then none
  else some (fresh.filter (fun key => !sameKey key holder && !sameKey key (.str iid)))

/-- The text of the refusal of a stale lease joins the foreign ids, which are all texts or raise. -/
def staleRefusal (foreign : List JsonValue) : WriterReply :=
  if foreign.all (fun key => match key with | .str _ => true | _ => false) then
    .refused .freshForeign
  else .crashed

/-- `_assert_capture_allowed`; `none` allows. -/
def captureVerdict (texts : Texts) (ttlMin : ℤ) (artifacts : Artifacts) (state : JsonDict)
    (requested : Option String) (iid : String) (clock : Readings)
    : Option WriterReply :=
  if state.rows = [] then none
  else
    match parseHeartbeatAt texts (state.get? "heartbeat_at") with
    | none => some (.refused .badHeartbeat)
    | some beat =>
        match (freshMarkers texts ttlMin clock.fresh artifacts).bind (fun fresh =>
            foreignMarkers fresh (state.getOr "instance_id" .null) iid) with
        | none => some .crashed
        | some foreign =>
            if heartbeatAgeMin clock.age beat ≤ ttlMin then
              if ∃ text, requested = some text ∧ text ≠ ""
                  ∧ sameKey (state.getOr "instance_id" .null) (.str text) = true then
                if foreign = [] then none else some (.refused .freshForeign)
              else some (.refused .liveLease)
            else if foreign = [] then none
            else some (staleRefusal foreign)

def defaultScope : JsonValue :=
  .list [.str "artifacts/**", .str "repo:roma-execution-bridge@branch:p1/pg-supervision-and-startup",
    .str "service:pg-watchdog"]

/-- The entries of the old lease that a capture keeps. -/
def keptEntries (old : JsonDict) : List (String × JsonValue) :=
  ["released_at", "released_by", "previous_status"].filterMap (fun key =>
    (old.get? key).map (fun value => (key, value)))

/-- The payload of `capture`. -/
def leasePayload (texts : Texts) (ttlMin : ℤ) (old : JsonDict) (iid : String) (token : ℤ)
    (task status : String) (process : ProcessInfo) (clock : Readings)
    : JsonDict :=
  JsonDict.ofList ([("conversation_id", old.getOr "conversation_id" (.str "")),
    ("instance_id", .str iid),
    ("fencing_token", .int token),
    ("boot_id", .str process.bootId),
    ("owner", old.getOr "owner" (.str "")),
    ("pid", .int process.pid),
    ("host", .str process.host),
    ("started_at", .str (texts.iso clock.started)),
    ("heartbeat_at", .str (texts.iso clock.beat)),
    ("ttl_min", .int ttlMin),
    ("scope", old.getOr "scope" defaultScope),
    ("task", orElse (.str task) (old.getOr "task" (.str ""))),
    ("status", orElse (.str status) (old.getOr "status" (.str "")))] ++ keptEntries old)

/-- The text of a `uuid.uuid4()`, which is never empty. -/
abbrev DrawnId := { text : String // text ≠ "" }

/-- `instance_id or str(uuid.uuid4())`. -/
def instanceOr (instanceId : Option String) (drawn : DrawnId) : String :=
  match instanceId with
  | none => drawn.1
  | some text => if text = "" then drawn.1 else text

/-- `capture` after its checks: the lease is written, then the marker. -/
def takeLease (texts : Texts) (ttlMin : ℤ) (artifacts : Artifacts) (old : JsonDict) (iid : String)
    (token : ℤ) (task status : String) (process : ProcessInfo) (clock : Readings)
    : WriterReply × Artifacts :=
  match writeMarker texts
      { artifacts with
        lease := .object (leasePayload texts ttlMin old iid token task status process clock) }
      (.str iid) (old.getOr "conversation_id" (.str "")) process clock with
  | some written => (.captured iid token, written)
  | none => (.halfWritten,
      { artifacts with
        lease := .object (leasePayload texts ttlMin old iid token task status process clock) })

/-- `Lease.capture`; `drawn` is the id of a session that names none. -/
def capture (texts : Texts) (ttlMin : ℤ) (artifacts : Artifacts) (instanceId : Option String)
    (drawn : DrawnId) (task status : String) (process : ProcessInfo) (clock : Readings)
    : WriterReply × Artifacts :=
  match readStateStrict artifacts.lease with
  | .error reply => (reply, artifacts)
  | .ok old =>
      match captureVerdict texts ttlMin artifacts old instanceId (instanceOr instanceId drawn)
          clock with
      | some reply => (reply, artifacts)
      | none =>
          match intOrZero texts (old.getOr "fencing_token" .null) with
          | none => (.crashed, artifacts)
          | some token =>
              takeLease texts ttlMin artifacts old (instanceOr instanceId drawn) (token + 1) task
                status process clock

/-- `read_json` of the lease; `none` is a value without `get`, or bytes that are no text. -/
def readState : LeaseFile → Option JsonDict
  | .absent => some Table.empty
  | .unparsable => some Table.empty
  | .undecodable => none
  | .nonObject => none
  | .object dict => some dict

/-- `guard`; `none` allows. -/
def guardVerdict (texts : Texts) (ttlMin : ℤ) (now : ℚ) (artifacts : Artifacts)
    (ownInstance : JsonValue)
    : Option WriterReply :=
  match freshMarkers texts ttlMin now artifacts with
  | none => some .crashed
  | some fresh =>
      if isTruthy ownInstance then
        if fresh.all (fun key => sameKey key ownInstance) then none
        else some (.refused .freshForeign)
      else if 1 < fresh.length then some (.refused .freshForeign)
      else none

/-- The lease that `heartbeat` writes. -/
def renewedState (texts : Texts) (state : JsonDict) (process : ProcessInfo) (clock : Readings)
    : JsonDict :=
  ((state.set "heartbeat_at" (.str (texts.iso clock.beat))).set "pid" (.int process.pid)).set
    "boot_id" (.str process.bootId)

/-- `Lease.heartbeat`, which takes its identity from the lease file. -/
def heartbeat (texts : Texts) (ttlMin : ℤ) (artifacts : Artifacts) (process : ProcessInfo)
    (clock : Readings)
    : WriterReply × Artifacts :=
  match readState artifacts.lease with
  | none => (.crashed, artifacts)
  | some state =>
      if isTruthy (state.getOr "instance_id" .null) = false then (.refused .noLease, artifacts)
      else
        match guardVerdict texts ttlMin clock.fresh artifacts (state.getOr "instance_id" .null) with
        | some reply => (reply, artifacts)
        | none =>
            match writeMarker texts
                { artifacts with lease := .object (renewedState texts state process clock) }
                (state.getOr "instance_id" .null) (state.getOr "conversation_id" (.str "")) process
                clock with
            | some written => (.renewed, written)
            | none => (.halfWritten,
                { artifacts with lease := .object (renewedState texts state process clock) })

/-- The command `guard`, with the identity that the lease file holds. -/
def guardCommand (texts : Texts) (ttlMin : ℤ) (artifacts : Artifacts) (now : ℚ) : WriterReply :=
  match readState artifacts.lease with
  | none => .crashed
  | some state =>
      (guardVerdict texts ttlMin now artifacts (state.getOr "instance_id" .null)).getD .allowed

inductive WriterCall where
  | capture (instanceId : Option String) (drawn : DrawnId) (task status : String)
      (process : ProcessInfo) (clock : Readings)
  | heartbeat (process : ProcessInfo) (clock : Readings)
  | guard (now : ℚ)

def writerStep (texts : Texts) (ttlMin : ℤ) (artifacts : Artifacts)
    : WriterCall → WriterReply × Artifacts
  | .capture instanceId drawn task status process clock =>
      capture texts ttlMin artifacts instanceId drawn task status process clock
  | .heartbeat process clock => heartbeat texts ttlMin artifacts process clock
  | .guard now => (guardCommand texts ttlMin artifacts now, artifacts)

end RomaBridge.Model.WriterLease
