import RomaBridge.Model.WriterLease

/-! Exclusion and fencing of the writer lease. A capture checks everything before its first write:
what refuses it leaves the files as they were, what lets another instance through is a heartbeat
whose age exceeds the time to live and no fresh marker of a third instance, and each capture numbers
the lease one higher. `heartbeat` and `guard` take their identity from the lease file, so a displaced
session is stopped only where the new holder would be.
-/

namespace RomaBridge.Properties

open RomaBridge.Foundation RomaBridge.Model.WriterLease
open RomaBridge.Model (JsonValue JsonDict)

variable {texts : Texts} {ttlMin : ℤ} {artifacts : Artifacts} {now : ℚ}
variable {keys : List JsonValue} {clock : Readings} {reply : WriterReply} {holder : String}
  {token : ℤ}

-- What is asked of the lease

def holderOf : LeaseFile → Option String
  | .object dict =>
      match dict.get? "instance_id" with
      | some (.str holder) => some holder
      | _ => none
  | _ => none

def tokenOf : LeaseFile → Option ℤ
  | .object dict =>
      match dict.get? "fencing_token" with
      | some (.int token) => some token
      | _ => none
  | _ => none

/-- A listed marker of the instance was refreshed less than the time to live ago. -/
def FreshMarker (texts : Texts) (ttlMin : ℤ) (now : ℚ) (artifacts : Artifacts)
    (instance_ : JsonValue)
    : Prop :=
  ∃ file dict value seen, (file, MarkerText.object dict) ∈ artifacts.markers.rows
    ∧ file.listed = true ∧ dict.get? "last_seen" = some value
    ∧ texts.parse (strOf texts value) = .aware seen ∧ now - seen < ttlMin * 60
    ∧ instance_ = dict.getOr "instance_id" (.str file.stem)

/-- The command was refused, or raised before its first write. -/
def Stopped (reply : WriterReply) : Prop := reply = .crashed ∨ ∃ cause, reply = .refused cause

@[simp]
theorem sameKey_str (key : JsonValue) (text : String)
    : sameKey key (.str text) = true ↔ key = .str text := by
  cases key <;> simp [sameKey, keyForm]

theorem sameKey_trans {first second third : JsonValue} (left : sameKey first second = true)
    (right : sameKey second third = true)
    : sameKey first third = true := by
  simp only [sameKey, Bool.and_eq_true, decide_eq_true_eq] at left right ⊢
  exact ⟨left.1, left.2.trans right.2⟩

theorem freshKey_eq_some {entry : MarkerFile × MarkerText} {key : JsonValue}
    : freshKey texts ttlMin now entry = some (some key)
      ↔ isHashable key = true ∧ ∃ dict value seen, entry.2 = .object dict
        ∧ dict.get? "last_seen" = some value
        ∧ texts.parse (strOf texts value) = .aware seen ∧ now - seen < ttlMin * 60
        ∧ key = dict.getOr "instance_id" (.str entry.1.stem) := by
  obtain ⟨file, text⟩ := entry
  cases text with
  | unparsable => simp [freshKey]
  | falseValue => simp [freshKey]
  | poison => simp [freshKey]
  | object dict =>
      cases value : dict.get? "last_seen" with
      | none => simp [freshKey, value]
      | some last =>
          cases parsed : texts.parse (strOf texts last) with
          | invalid => simp [freshKey, value, parsed]
          | naive seconds => simp [freshKey, value, parsed]
          | aware seen =>
              by_cases young : now - seen < ttlMin * 60
              · by_cases hashable : isHashable (dict.getOr "instance_id" (.str file.stem)) = true
                · simp only [freshKey, value, parsed, young, hashable, if_true,
                    Option.some.injEq]
                  constructor
                  · rintro rfl
                    exact ⟨hashable, dict, last, seen, rfl, value, parsed, young, rfl⟩
                  · intro ⟨_, stored, _, _, same, _, _, _, equal⟩
                    cases same
                    exact equal.symm
                · simp only [freshKey, value, parsed, young, hashable, if_true]
                  constructor
                  · intro impossible
                    cases impossible
                  · intro ⟨hashes, stored, _, _, same, _, _, _, equal⟩
                    cases same
                    exact absurd (equal ▸ hashes) hashable
              · simp only [freshKey, value, parsed, young, if_false]
                constructor
                · intro impossible
                  cases impossible
                · intro ⟨_, stored, other, time, same, isLast, parses, within, _⟩
                  cases same
                  cases value.symm.trans isLast
                  cases parsed.symm.trans parses
                  exact absurd within young

/-- Collected keys are those of the files, up to equal ones, by induction on the files. -/
theorem collectFresh_spec {entries : List (MarkerFile × MarkerText)}
    (collected : collectFresh texts ttlMin now entries = some keys)
    : (∀ entry ∈ entries, freshKey texts ttlMin now entry ≠ none)
      ∧ (∀ key ∈ keys, ∃ entry ∈ entries, freshKey texts ttlMin now entry = some (some key))
      ∧ ∀ entry ∈ entries, ∀ key, freshKey texts ttlMin now entry = some (some key) →
        ∃ kept ∈ keys, kept = key ∨ sameKey key kept = true := by
  induction entries generalizing keys with
  | nil =>
      cases collected
      simp
  | cons first rest ih =>
      unfold collectFresh at collected
      cases head : freshKey texts ttlMin now first with
      | none => simp [head] at collected
      | some found =>
          cases found with
          | none =>
              simp only [head] at collected
              obtain ⟨alive, sound, covers⟩ := ih collected
              refine ⟨?_, ?_, ?_⟩
              · intro entry member
                rcases List.mem_cons.mp member with rfl | later
                · simp [head]
                · exact alive entry later
              · intro key member
                obtain ⟨entry, later, fresh⟩ := sound key member
                exact ⟨entry, List.mem_cons_of_mem _ later, fresh⟩
              · intro entry member key fresh
                rcases List.mem_cons.mp member with rfl | later
                · cases head.symm.trans fresh
                · exact covers entry later key fresh
          | some front =>
              simp only [head, Option.map_eq_some_iff] at collected
              obtain ⟨others, collected, rfl⟩ := collected
              obtain ⟨alive, sound, covers⟩ := ih collected
              refine ⟨?_, ?_, ?_⟩
              · intro entry member
                rcases List.mem_cons.mp member with rfl | later
                · simp [head]
                · exact alive entry later
              · intro key member
                rcases List.mem_cons.mp member with rfl | later
                · exact ⟨first, List.mem_cons_self, head⟩
                · obtain ⟨entry, behind, fresh⟩ := sound key (List.mem_of_mem_filter later)
                  exact ⟨entry, List.mem_cons_of_mem _ behind, fresh⟩
              · intro entry member key fresh
                rcases List.mem_cons.mp member with rfl | later
                · cases head.symm.trans fresh
                  exact ⟨front, List.mem_cons_self, .inl rfl⟩
                · obtain ⟨kept, inOthers, same⟩ := covers entry later key fresh
                  by_cases again : sameKey kept front = true
                  · -- The file in front has the key already.
                    refine ⟨front, List.mem_cons_self, .inr ?_⟩
                    rcases same with rfl | same
                    · exact again
                    · exact sameKey_trans same again
                  · refine ⟨kept, List.mem_cons_of_mem _ (List.mem_filter.mpr ⟨inOthers, ?_⟩), same⟩
                    simpa using again

theorem mem_listedMarkers {entry : MarkerFile × MarkerText}
    : entry ∈ listedMarkers artifacts ↔ entry ∈ artifacts.markers.rows ∧ entry.1.listed = true := by
  unfold listedMarkers
  rw [List.mem_insertionSort, List.mem_filter]

theorem freshMarkers_covers {instance_ : JsonValue}
    (fresh : freshMarkers texts ttlMin now artifacts = some keys)
    (marker : FreshMarker texts ttlMin now artifacts instance_)
    : ∃ kept ∈ keys, kept = instance_ ∨ sameKey instance_ kept = true := by
  obtain ⟨alive, _, covers⟩ := collectFresh_spec fresh
  obtain ⟨file, dict, value, seen, stored, listed, last, parsed, young, same⟩ := marker
  have entry := mem_listedMarkers.mpr ⟨stored, listed⟩
  refine covers _ entry instance_ (freshKey_eq_some.mpr ⟨?_, dict, value, seen, rfl, last, parsed,
    young, same⟩)
  by_contra unhashable
  refine alive _ entry ?_
  rw [same] at unhashable
  simp [freshKey, last, parsed, young, unhashable]

theorem freshMarkers_sound {instance_ : JsonValue}
    (fresh : freshMarkers texts ttlMin now artifacts = some keys) (member : instance_ ∈ keys)
    : FreshMarker texts ttlMin now artifacts instance_ ∧ isHashable instance_ = true := by
  obtain ⟨_, sound, _⟩ := collectFresh_spec fresh
  obtain ⟨⟨file, text⟩, entry, found⟩ := sound instance_ member
  obtain ⟨stored, listed⟩ := mem_listedMarkers.mp entry
  obtain ⟨hashable, dict, value, seen, rfl, last, parsed, young, same⟩ :=
    freshKey_eq_some.mp found
  exact ⟨⟨file, dict, value, seen, stored, listed, last, parsed, young, same⟩, hashable⟩

-- Captures

theorem Stopped.ne_captured (stopped : Stopped reply) (iid : String) (token : ℤ)
    : reply ≠ .captured iid token := by
  rcases stopped with rfl | ⟨cause, rfl⟩ <;> simp

/-- The checks of a capture stop it or let it through. -/
theorem captureVerdict_some {state : JsonDict} {requested : Option String} {iid : String}
    (verdict : captureVerdict texts ttlMin artifacts state requested iid clock = some reply)
    : Stopped reply := by
  unfold captureVerdict at verdict
  split at verdict
  · cases verdict
  split at verdict
  · cases verdict
    exact .inr ⟨_, rfl⟩
  split at verdict
  · cases verdict
    exact .inl rfl
  split at verdict
  · split at verdict
    · split at verdict
      · cases verdict
      · cases verdict
        exact .inr ⟨_, rfl⟩
    · cases verdict
      exact .inr ⟨_, rfl⟩
  · split at verdict
    · cases verdict
    · cases verdict
      unfold staleRefusal
      split
      · exact .inr ⟨_, rfl⟩
      · exact .inl rfl

/-- What a capture does: it ends without a write, or takes the lease after its checks. -/
theorem capture_cases (texts : Texts) (ttlMin : ℤ) (artifacts : Artifacts)
    (instanceId : Option String) (drawn : DrawnId) (task status : String) (process : ProcessInfo)
    (clock : Readings)
    : ((capture texts ttlMin artifacts instanceId drawn task status process clock).2 = artifacts
        ∧ Stopped (capture texts ttlMin artifacts instanceId drawn task status process clock).1)
      ∨ ∃ old token, readStateStrict artifacts.lease = .ok old
        ∧ captureVerdict texts ttlMin artifacts old instanceId (instanceOr instanceId drawn) clock
          = none
        ∧ intOrZero texts (old.getOr "fencing_token" .null) = some token
        ∧ capture texts ttlMin artifacts instanceId drawn task status process clock
          = takeLease texts ttlMin artifacts old (instanceOr instanceId drawn) (token + 1) task
              status process clock := by
  unfold capture
  cases read : readStateStrict artifacts.lease with
  | error reply =>
      refine .inl ⟨rfl, ?_⟩
      cases lease : artifacts.lease with
      | absent => simp [lease, readStateStrict] at read
      | undecodable =>
          simp only [lease, readStateStrict, Except.error.injEq] at read
          exact .inl read.symm
      | unparsable =>
          simp only [lease, readStateStrict, Except.error.injEq] at read
          exact .inr ⟨_, read.symm⟩
      | nonObject =>
          simp only [lease, readStateStrict, Except.error.injEq] at read
          exact .inr ⟨_, read.symm⟩
      | object dict => simp [lease, readStateStrict] at read
  | ok old =>
      simp only
      cases verdict : captureVerdict texts ttlMin artifacts old instanceId
          (instanceOr instanceId drawn) clock with
      | some reply => exact .inl ⟨rfl, captureVerdict_some verdict⟩
      | none =>
          simp only
          cases number : intOrZero texts (old.getOr "fencing_token" .null) with
          | none => exact .inl ⟨rfl, .inl rfl⟩
          | some token => exact .inr ⟨old, token, rfl, verdict, number, rfl⟩

theorem writeMarker_lease {written : Artifacts} {instanceId conversationId : JsonValue}
    {process : ProcessInfo}
    (wrote : writeMarker texts artifacts instanceId conversationId process clock = some written)
    : written.lease = artifacts.lease := by
  unfold writeMarker at wrote
  obtain ⟨previous, _, rfl⟩ := Option.map_eq_some_iff.mp wrote
  rfl

theorem takeLease_spec (texts : Texts) (ttlMin : ℤ) (artifacts : Artifacts) (old : JsonDict)
    (iid : String) (token : ℤ) (task status : String) (process : ProcessInfo) (clock : Readings)
    : (takeLease texts ttlMin artifacts old iid token task status process clock).2.lease
        = .object (leasePayload texts ttlMin old iid token task status process clock)
      ∧ ((takeLease texts ttlMin artifacts old iid token task status process clock).1
          = .captured iid token
        ∨ (takeLease texts ttlMin artifacts old iid token task status process clock).1
          = .halfWritten) := by
  unfold takeLease
  split
  · rename_i written wrote
    exact ⟨writeMarker_lease wrote, .inl rfl⟩
  · exact ⟨rfl, .inr rfl⟩

-- What the lease file says

theorem get?_ofList (entries : List (String × JsonValue)) (key : String)
    : (JsonDict.ofList entries).get? key
      = (entries.filter (fun entry => entry.1 = key)).getLast?.map Prod.snd := by
  unfold JsonDict.ofList
  rw [JsonDict.get?_foldl_put]
  simp

theorem filter_keptEntries (old : JsonDict) {key : String} (first : key ≠ "released_at")
    (second : key ≠ "released_by") (third : key ≠ "previous_status")
    : (keptEntries old).filter (fun entry => entry.1 = key) = [] := by
  rw [List.filter_eq_nil_iff]
  intro entry member
  unfold keptEntries at member
  obtain ⟨name, known, found⟩ := List.mem_filterMap.mp member
  obtain ⟨value, _, rfl⟩ := Option.map_eq_some_iff.mp found
  simp only [List.mem_cons, List.not_mem_nil, or_false] at known
  rcases known with rfl | rfl | rfl
  · simpa using first.symm
  · simpa using second.symm
  · simpa using third.symm

theorem leasePayload_entries (old : JsonDict) (iid : String) (token : ℤ) (task status : String)
    (process : ProcessInfo) (clock : Readings)
    : (leasePayload texts ttlMin old iid token task status process clock).get? "instance_id"
        = some (.str iid)
      ∧ (leasePayload texts ttlMin old iid token task status process clock).get? "fencing_token"
        = some (.int token) := by
  unfold leasePayload
  rw [get?_ofList, get?_ofList, List.filter_append, List.filter_append,
    filter_keptEntries old (by decide) (by decide) (by decide),
    filter_keptEntries old (by decide) (by decide) (by decide)]
  simp

def Held (lease : LeaseFile) (holder : String) (token : ℤ) : Prop :=
  ∃ dict, lease = .object dict ∧ dict.get? "instance_id" = some (.str holder)
    ∧ dict.get? "fencing_token" = some (.int token)

theorem Held.reads {lease : LeaseFile} (held : Held lease holder token)
    : holderOf lease = some holder ∧ tokenOf lease = some token := by
  obtain ⟨dict, rfl, name, number⟩ := held
  simp [holderOf, tokenOf, name, number]

theorem held_leasePayload (old : JsonDict) (iid : String) (token : ℤ) (task status : String)
    (process : ProcessInfo) (clock : Readings)
    : Held (.object (leasePayload texts ttlMin old iid token task status process clock)) iid
        token :=
  ⟨_, rfl, leasePayload_entries old iid token task status process clock⟩

theorem Held.renewed {dict : JsonDict} (held : Held (.object dict) holder token)
    (process : ProcessInfo) (clock : Readings)
    : Held (.object (renewedState texts dict process clock)) holder token := by
  obtain ⟨stored, same, name, number⟩ := held
  cases same
  refine ⟨_, rfl, ?_, ?_⟩
  · simp [renewedState, name]
  · simp [renewedState, number]

theorem intOrZero_int (token : ℤ) : intOrZero texts (.int token) = some token := by
  by_cases zero : token = 0 <;> simp [intOrZero, isTruthy, zero]

theorem guardVerdict_some {ownInstance : JsonValue}
    (verdict : guardVerdict texts ttlMin now artifacts ownInstance = some reply)
    : Stopped reply := by
  unfold guardVerdict at verdict
  split at verdict
  · cases verdict
    exact .inl rfl
  · split at verdict
    · split at verdict
      · cases verdict
      · cases verdict
        exact .inr ⟨_, rfl⟩
    · split at verdict
      · cases verdict
        exact .inr ⟨_, rfl⟩
      · cases verdict

theorem heartbeat_cases (texts : Texts) (ttlMin : ℤ) (artifacts : Artifacts)
    (process : ProcessInfo) (clock : Readings)
    : ((heartbeat texts ttlMin artifacts process clock).2 = artifacts
        ∧ Stopped (heartbeat texts ttlMin artifacts process clock).1
        ∧ ∀ state, readState artifacts.lease = some state →
          isTruthy (state.getOr "instance_id" .null) = true →
          guardVerdict texts ttlMin clock.fresh artifacts (state.getOr "instance_id" .null) ≠ none)
      ∨ ∃ state, readState artifacts.lease = some state
        ∧ isTruthy (state.getOr "instance_id" .null) = true
        ∧ guardVerdict texts ttlMin clock.fresh artifacts (state.getOr "instance_id" .null) = none
        ∧ (heartbeat texts ttlMin artifacts process clock).2.lease
          = .object (renewedState texts state process clock)
        ∧ ((heartbeat texts ttlMin artifacts process clock).1 = .renewed
          ∨ (heartbeat texts ttlMin artifacts process clock).1 = .halfWritten) := by
  unfold heartbeat
  cases read : readState artifacts.lease with
  | none => exact .inl ⟨rfl, .inl rfl, fun state found => by cases found⟩
  | some state =>
      simp only
      split
      · rename_i nobody
        refine .inl ⟨rfl, .inr ⟨_, rfl⟩, ?_⟩
        intro found same truthy
        cases same
        cases nobody.symm.trans truthy
      · rename_i somebody
        cases verdict : guardVerdict texts ttlMin clock.fresh artifacts
            (state.getOr "instance_id" .null) with
        | some reply =>
            refine .inl ⟨rfl, guardVerdict_some verdict, ?_⟩
            intro found same _ none_
            cases same
            cases verdict.symm.trans none_
        | none =>
            refine .inr ⟨state, rfl, by simpa using somebody, verdict, ?_⟩
            simp only
            split
            · rename_i written wrote
              exact ⟨writeMarker_lease wrote, .inl rfl⟩
            · exact ⟨rfl, .inr rfl⟩

theorem heartbeat_ne_captured (process : ProcessInfo) (clock : Readings) (iid : String)
    (token : ℤ)
    : (heartbeat texts ttlMin artifacts process clock).1 ≠ .captured iid token := by
  rcases heartbeat_cases texts ttlMin artifacts process clock with
    ⟨_, stopped, _⟩ | ⟨state, _, _, _, _, renewed | halfWritten⟩
  · exact stopped.ne_captured iid token
  · simp [renewed]
  · simp [halfWritten]

theorem guardCommand_cases (texts : Texts) (ttlMin : ℤ) (artifacts : Artifacts) (now : ℚ)
    : Stopped (guardCommand texts ttlMin artifacts now)
      ∨ guardCommand texts ttlMin artifacts now = .allowed
        ∧ ∀ state, readState artifacts.lease = some state →
          guardVerdict texts ttlMin now artifacts (state.getOr "instance_id" .null) = none := by
  unfold guardCommand
  cases read : readState artifacts.lease with
  | none => exact .inl (.inl rfl)
  | some state =>
      simp only
      cases verdict : guardVerdict texts ttlMin now artifacts
          (state.getOr "instance_id" .null) with
      | some reply => exact .inl (guardVerdict_some verdict)
      | none =>
          refine .inr ⟨rfl, ?_⟩
          intro found same
          cases same
          exact verdict

-- One command

theorem held_step (texts : Texts) (ttlMin : ℤ) (held : Held artifacts.lease holder token)
    (call : WriterCall)
    : (Held (writerStep texts ttlMin artifacts call).2.lease holder token
        ∧ ∀ iid number, (writerStep texts ttlMin artifacts call).1 ≠ .captured iid number)
      ∨ ∃ instanceId drawn task status process clock,
        call = .capture instanceId drawn task status process clock
        ∧ Held (writerStep texts ttlMin artifacts call).2.lease (instanceOr instanceId drawn)
          (token + 1)
        ∧ ∀ other number, (writerStep texts ttlMin artifacts call).1 = .captured other number →
          other = instanceOr instanceId drawn ∧ number = token + 1 := by
  cases call with
  | capture instanceId drawn task status process clock =>
      simp only [writerStep]
      rcases capture_cases texts ttlMin artifacts instanceId drawn task status process clock with
        ⟨same, failed⟩ | ⟨old, previous, read, _, number, result⟩
      · rw [same]
        exact .inl ⟨held, failed.ne_captured⟩
      · obtain ⟨dict, lease, _, stored⟩ := held
        have same : dict = old := by
          rw [lease] at read
          exact Except.ok.inj read
        subst same
        have counted : previous = token := by
          rw [JsonDict.getOr, stored, Option.getD_some, intOrZero_int] at number
          exact (Option.some.inj number).symm
        subst counted
        obtain ⟨written, ends⟩ := takeLease_spec texts ttlMin artifacts dict
          (instanceOr instanceId drawn) (previous + 1) task status process clock
        rw [← result] at written ends
        refine .inr ⟨instanceId, drawn, task, status, process, clock, rfl, ?_, ?_⟩
        · rw [written]
          exact held_leasePayload ..
        · intro other shown captured
          rcases ends with taken | halfWritten
          · rw [captured, WriterReply.captured.injEq] at taken
            exact taken
          · rw [captured] at halfWritten
            cases halfWritten
  | heartbeat process clock =>
      simp only [writerStep]
      rcases heartbeat_cases texts ttlMin artifacts process clock with
        ⟨same, _⟩ | ⟨state, read, _, _, lease, ends⟩
      · rw [same]
        exact .inl ⟨held, heartbeat_ne_captured process clock⟩
      · obtain ⟨dict, object, names⟩ := held
        have same : dict = state := by
          rw [object] at read
          exact Option.some.inj read
        subst same
        rw [lease]
        exact .inl ⟨Held.renewed ⟨dict, rfl, names⟩ process clock,
          heartbeat_ne_captured process clock⟩
  | guard now =>
      refine .inl ⟨held, ?_⟩
      intro iid number captured
      simp only [writerStep] at captured
      rcases guardCommand_cases texts ttlMin artifacts now with stopped | ⟨allowed, _⟩
      · exact stopped.ne_captured iid number captured
      · rw [allowed] at captured
        cases captured

def twoDigits (number : ℕ) : String := toString (number / 10) ++ toString (number % 10)

/-- The texts of times in the first hour of the epoch, and markers named by their instance. -/
def firstHour : Texts where
  iso time := "1970-01-01T00:" ++ twoDigits (time.floor.toNat / 60) ++ ":"
    ++ twoDigits (time.floor.toNat % 60) ++ "Z"
  parse text :=
    if text.toList.take 14 = "1970-01-01T00:".toList then
      match text.toList.drop 14 with
      | [tens, units, ':', tenSeconds, seconds, 'Z'] =>
          .aware (((tens.toNat - 48) * 10 + (units.toNat - 48)) * 60
            + ((tenSeconds.toNat - 48) * 10 + (seconds.toNat - 48)) : ℕ)
      | _ => .invalid
    else .invalid
  repr _ := ""
  intOfText _ := none
  path instanceId := ⟨instanceId, true⟩

def readingsAt (time : ℚ) : Readings := ⟨time, time, time, time, time, time⟩

def someProcess : ProcessInfo := ⟨1, "host", "boot"⟩

variable {texts : Texts} {ttlMin : ℤ} {artifacts : Artifacts} {now : ℚ} {holder : String}
  {token : ℤ}

/-- A command with the instance whose session issued it, which the program never sees. -/
structure SessionCommand where
  issuer : String
  call : WriterCall

def writerSessionStep (texts : Texts) (ttlMin : ℤ) (artifacts : Artifacts) (command : SessionCommand)
    : WriterReply × Artifacts :=
  writerStep texts ttlMin artifacts command.call

def capturedBy (visit : Visit Artifacts SessionCommand WriterReply) : Option String :=
  match visit.reply with
  | .captured iid _ => some iid
  | _ => none

def Displaced (instance_ : String) (earlier : List (Visit Artifacts SessionCommand WriterReply))
    : Prop :=
  instance_ ∈ earlier.filterMap capturedBy
    ∧ (earlier.filterMap capturedBy).getLast? ≠ some instance_

def writingTime : WriterCall → Option ℚ
  | .capture .. => none
  | .heartbeat _ clock => some clock.fresh
  | .guard now => some now

/-- The command extends no lease, refreshes no marker and does not allow writing. -/
structure LockedOut (visit : Visit Artifacts SessionCommand WriterReply) : Prop where
  unchanged : visit.after = visit.before
  stopped : Stopped visit.reply

/-- There is a fresh marker of an instance that is not the holder, or a marker file that makes
`fresh_markers` raise.
-/
def Blocked (texts : Texts) (ttlMin : ℤ) (now : ℚ) (artifacts : Artifacts) : Prop :=
  freshMarkers texts ttlMin now artifacts = none
  ∨ ∃ instance_, FreshMarker texts ttlMin now artifacts instance_
    ∧ ∀ holder, holderOf artifacts.lease = some holder → instance_ ≠ .str holder

theorem guardVerdict_eq_none (nonempty : holder ≠ "")
    : guardVerdict texts ttlMin now artifacts (.str holder) = none
      ↔ freshMarkers texts ttlMin now artifacts ≠ none
        ∧ ∀ instance_, FreshMarker texts ttlMin now artifacts instance_ →
          instance_ = .str holder := by
  unfold guardVerdict
  have truthy : isTruthy (.str holder) = true := by simp [isTruthy, nonempty]
  cases fresh : freshMarkers texts ttlMin now artifacts with
  | none => simp
  | some keys =>
      simp only [truthy, if_true, ne_eq, reduceCtorEq, not_false_eq_true, true_and]
      constructor
      · intro allowed instance_ marker
        split at allowed
        · rename_i all
          obtain ⟨kept, member, same⟩ := freshMarkers_covers fresh marker
          have own := (sameKey_str _ _).mp (List.all_eq_true.mp all kept member)
          rcases same with rfl | same
          · exact own
          · rw [own] at same
            exact (sameKey_str _ _).mp same
        · cases allowed
      · intro only
        rw [if_pos]
        rw [List.all_eq_true]
        intro key member
        exact (sameKey_str _ _).mpr (only key (freshMarkers_sound fresh member).1)

theorem blocked_iff (held : Held artifacts.lease holder token) (nonempty : holder ≠ "")
    : Blocked texts ttlMin now artifacts
      ↔ guardVerdict texts ttlMin now artifacts (.str holder) ≠ none := by
  rw [ne_eq, guardVerdict_eq_none nonempty]
  unfold Blocked
  simp only [held.reads.1, Option.some.injEq, forall_eq']
  constructor
  · intro blocked ⟨readable, own⟩
    rcases blocked with raises | ⟨instance_, marker, other⟩
    · exact readable raises
    · exact other (own instance_ marker)
  · intro stopped
    by_cases raises : freshMarkers texts ttlMin now artifacts = none
    · exact .inl raises
    · refine .inr ?_
      by_contra nobody
      refine stopped ⟨raises, ?_⟩
      intro instance_ marker
      by_contra other
      exact nobody ⟨instance_, marker, other⟩

theorem lockedOut_iff (texts : Texts) (ttlMin : ℤ) (held : Held artifacts.lease holder token)
    (nonempty : holder ≠ "") (command : SessionCommand) (writes : writingTime command.call = some now)
    : LockedOut ⟨artifacts, command, (writerSessionStep texts ttlMin artifacts command).1,
        (writerSessionStep texts ttlMin artifacts command).2⟩
      ↔ Blocked texts ttlMin now artifacts := by
  rw [blocked_iff held nonempty]
  obtain ⟨dict, lease, name, _⟩ := held
  have read : readState artifacts.lease = some dict := by
    rw [lease]
    rfl
  have identity : dict.getOr "instance_id" .null = .str holder := by
    rw [JsonDict.getOr, name, Option.getD_some]
  obtain ⟨issuer, call⟩ := command
  cases call with
  | capture => cases writes
  | heartbeat process clock =>
      cases writes
      rcases heartbeat_cases texts ttlMin artifacts process clock with
        ⟨same, stopped, refuses⟩ | ⟨state, readAgain, _, allowed, _, ends⟩
      · have verdict := refuses dict read (by rw [identity]; simp [isTruthy, nonempty])
        rw [identity] at verdict
        exact iff_of_true ⟨same, stopped⟩ verdict
      · cases read.symm.trans readAgain
        rw [identity] at allowed
        refine iff_of_false ?_ (fun refuses => refuses allowed)
        rintro ⟨-, stopped⟩
        simp only [writerSessionStep, writerStep] at stopped
        rcases ends with renewed | halfWritten
        · simp [renewed, Stopped] at stopped
        · simp [halfWritten, Stopped] at stopped
  | guard time =>
      cases writes
      rcases guardCommand_cases texts ttlMin artifacts now with stopped | ⟨allowed, passes⟩
      · refine iff_of_true ⟨rfl, stopped⟩ ?_
        intro verdict
        have allows : guardCommand texts ttlMin artifacts now = .allowed := by
          simp [guardCommand, read, identity, verdict]
        simp [allows, Stopped] at stopped
      · have verdict := passes dict read
        rw [identity] at verdict
        refine iff_of_false ?_ (fun refuses => refuses verdict)
        rintro ⟨-, stopped⟩
        simp [writerSessionStep, writerStep, allowed, Stopped] at stopped

def SomeoneHolds (artifacts : Artifacts) : Prop :=
  ∃ holder token, holder ≠ "" ∧ Held artifacts.lease holder token

theorem instanceOr_ne_empty (instanceId : Option String) (drawn : DrawnId)
    : instanceOr instanceId drawn ≠ "" := by
  cases instanceId with
  | none => exact drawn.2
  | some text =>
      simp only [instanceOr]
      split
      · exact drawn.2
      · assumption

/-- A capture leaves its instance as the holder. -/
theorem held_of_captured {command : SessionCommand} {iid : String}
    (captured : (writerSessionStep texts ttlMin artifacts command).1 = .captured iid token)
    : iid ≠ "" ∧ Held (writerSessionStep texts ttlMin artifacts command).2.lease iid token := by
  obtain ⟨issuer, call⟩ := command
  cases call with
  | capture instanceId drawn task status process clock =>
      simp only [writerSessionStep, writerStep] at captured ⊢
      rcases capture_cases texts ttlMin artifacts instanceId drawn task status process clock with
        ⟨_, stopped⟩ | ⟨old, previous, _, _, _, result⟩
      · exact absurd captured (stopped.ne_captured iid token)
      · rw [result] at captured ⊢
        obtain ⟨lease, ends⟩ := takeLease_spec texts ttlMin artifacts old
          (instanceOr instanceId drawn) (previous + 1) task status process clock
        rcases ends with taken | halfWritten
        · rw [captured, WriterReply.captured.injEq] at taken
          obtain ⟨rfl, rfl⟩ := taken
          rw [lease]
          exact ⟨instanceOr_ne_empty _ _, held_leasePayload ..⟩
        · cases captured.symm.trans halfWritten
  | heartbeat process clock => exact absurd captured (heartbeat_ne_captured process clock iid token)
  | guard now =>
      simp only [writerSessionStep, writerStep] at captured
      rcases guardCommand_cases texts ttlMin artifacts now with stopped | ⟨allowed, _⟩
      · exact absurd captured (stopped.ne_captured iid token)
      · cases allowed.symm.trans captured

theorem SomeoneHolds.step (holds : SomeoneHolds artifacts) (command : SessionCommand)
    : SomeoneHolds (writerSessionStep texts ttlMin artifacts command).2 := by
  obtain ⟨holder, token, nonempty, held⟩ := holds
  rcases held_step texts ttlMin held command.call with
    ⟨after, _⟩ | ⟨instanceId, drawn, _, _, _, _, _, after, _⟩
  · exact ⟨holder, token, nonempty, after⟩
  · exact ⟨_, token + 1, instanceOr_ne_empty instanceId drawn, after⟩

/-- In any run of any sessions from any files, a heartbeat or a guard of an instance that captured
the lease and lost it to another one is locked out exactly when a fresh marker of an instance other
than the present holder, or an unreadable marker, is there.
-/
theorem displaced_writer_locked_out_iff (texts : Texts) (ttlMin : ℤ) (start : Artifacts)
    (commands : List SessionCommand)
    {earlier later : List (Visit Artifacts SessionCommand WriterReply)}
    {visit : Visit Artifacts SessionCommand WriterReply}
    (split : visits (writerSessionStep texts ttlMin) start commands = earlier ++ visit :: later)
    (displaced : Displaced visit.call.issuer earlier) {now : ℚ}
    (writes : writingTime visit.call.call = some now)
    : LockedOut visit ↔ Blocked texts ttlMin now visit.before := by
  obtain ⟨past, future, _, earlierVisits, before⟩ := visits_split split
  have step : writerSessionStep texts ttlMin visit.before visit.call = (visit.reply, visit.after) :=
    step_of_mem_visits (by rw [split]; simp)
  obtain ⟨capturing, visited, shown⟩ := List.mem_filterMap.mp displaced.1
  have holds : SomeoneHolds visit.before := by
    rw [before]
    rw [earlierVisits] at visited
    refine finalState_of_mem_visits SomeoneHolds
      (fun current command holding => holding.step command) visited ?_
    have capture := step_of_mem_visits visited
    unfold capturedBy at shown
    split at shown
    · rename_i iid number captured
      have left : (writerSessionStep texts ttlMin capturing.before capturing.call).1
          = .captured iid number := by rw [capture, captured]
      obtain ⟨nonempty, held⟩ := held_of_captured left
      rw [capture] at held
      exact ⟨iid, number, nonempty, held⟩
    · cases shown
  obtain ⟨holder, token, nonempty, held⟩ := holds
  have iff_ := lockedOut_iff texts ttlMin held nonempty visit.call writes
  rw [step] at iff_
  exact iff_

theorem drawn_nonempty : "drawn" ≠ "" := by decide

def captureOf (instance_ : String) (time : ℚ) : SessionCommand :=
  ⟨instance_,
    .capture (some instance_) ⟨"drawn", drawn_nonempty⟩ "" "" someProcess (readingsAt time)⟩

/-- No lease yet, and one more marker of `writer-a`, last seen when the argument says. -/
def markerOfA (seen : ℚ) : Artifacts where
  lease := .absent
  markers := Table.put Table.empty (⟨"other", true⟩, .object (JsonDict.ofList
    [("instance_id", .str "writer-a"), ("last_seen", .str (firstHour.iso seen))]))

/-- `writer-a` captures, falls silent, loses the lease to `writer-b`, and sends a heartbeat. -/
def lateHeartbeat : List SessionCommand :=
  [captureOf "writer-a" 0, captureOf "writer-b" 1000,
    ⟨"writer-a", .heartbeat someProcess (readingsAt 1100)⟩]

/-- The heartbeat of the displaced writer renews the lease of the other one. -/
theorem lateHeartbeat_renews
    : ∃ earlier visit, visits (writerSessionStep firstHour 15) ⟨.absent, Table.empty⟩ lateHeartbeat
        = earlier ++ [visit]
      ∧ Displaced visit.call.issuer earlier ∧ (writingTime visit.call.call).isSome
      ∧ ¬ LockedOut visit := by
  refine ⟨[_, _], _, rfl, ⟨by decide +kernel, by decide +kernel⟩, rfl, ?_⟩
  intro ⟨_, stopped⟩
  have renewed : (visits (writerSessionStep firstHour 15) ⟨.absent, Table.empty⟩ lateHeartbeat).map
      Visit.reply = [.captured "writer-a" 1, .captured "writer-b" 2, .renewed] := by
    decide +kernel
  simp only [lateHeartbeat, visits, List.map_cons, List.map_nil, List.cons.injEq] at renewed
  simp [renewed.2.2.1, Stopped] at stopped

/-- While another fresh marker of the displaced writer is there, its heartbeat is locked out. -/
theorem displaced_writer_locked_out_marked
    : ∃ earlier visit, visits (writerSessionStep firstHour 15) (markerOfA 3000) lateHeartbeat
        = earlier ++ [visit]
      ∧ LockedOut visit := by
  have split : visits (writerSessionStep firstHour 15) (markerOfA 3000) lateHeartbeat
      = [_, _] ++ _ :: [] := rfl
  refine ⟨_, _, split, ?_⟩
  refine (displaced_writer_locked_out_iff firstHour 15 (markerOfA 3000) lateHeartbeat split
    ⟨by decide +kernel, by decide +kernel⟩ rfl).mpr ?_
  have second : (writerSessionStep firstHour 15
      (writerSessionStep firstHour 15 (markerOfA 3000) (captureOf "writer-a" 0)).2
      (captureOf "writer-b" 1000)).1 = .captured "writer-b" 2 := by
    decide +kernel
  obtain ⟨nonempty, held⟩ := held_of_captured second
  refine (blocked_iff held nonempty).mpr ?_
  decide +kernel

end RomaBridge.Properties
