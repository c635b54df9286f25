import RomaBridge.Model.JevVerdicts

/-! The adapter of a provider fails closed: it returns a verdict, executes on sound numbers only, and
hands no secret to the client. Some values of the state raise, numbers that are not finite pass the
comparisons, and keys are not searched for secret values.
-/

namespace RomaBridge.Properties

open RomaBridge.Foundation RomaBridge.Model RomaBridge.Model.Jev

variable {py : Interpreter} {client : JevClient} {rawState : PyObj} {questionIds : List PyStr}
  {domain : Option PyStr} {state : Entries}

mutual

/-- A test of the keys and one of what holds no others, at any depth. -/
def allOf (onKey : PyKey → Bool) (onLeaf : PyObj → Bool) : PyObj → Bool
  | .list items => allItems onKey onLeaf items
  | .tuple items => allItems onKey onLeaf items
  | .dict entries => allEntries onKey onLeaf entries
  | leaf => onLeaf leaf

def allItems (onKey : PyKey → Bool) (onLeaf : PyObj → Bool) : List PyObj → Bool
  | [] => true
  | item :: rest => allOf onKey onLeaf item && allItems onKey onLeaf rest

/-- The tests on the entries of a dictionary. -/
def allEntries (onKey : PyKey → Bool) (onLeaf : PyObj → Bool) : List (PyKey × PyObj) → Bool
  | [] => true
  | (key, item) :: rest => onKey key && allOf onKey onLeaf item && allEntries onKey onLeaf rest

end

def namesNoSecret (py : Interpreter) (key : PyKey) : Bool :=
  match keyText py key with
  | .ok text => !searchPattern keyDeny text
  | .error _ => true

def keyNoSecret : PyKey → Bool
  | .str text => !searchPattern valueDeny text
  | _ => true

def textNoSecret : PyObj → Bool
  | .str text => !searchPattern valueDeny text
  | _ => true

/-- A value is one of those that `json` knows, so that its texts are all seen. -/
def isJson : PyObj → Bool
  | .other _ _ => false
  | _ => true

def NoSecrets (py : Interpreter) (state : Entries) : Prop :=
  allEntries (fun key => namesNoSecret py key && keyNoSecret key)
    (fun leaf => textNoSecret leaf && isJson leaf) state = true

/-- A finite number that is no `bool`. -/
def IsFinite (value : PyObj) (number : ℚ) : Prop :=
  value = .float (.finite number) ∨ ∃ whole : ℤ, value = .int whole ∧ number = whole

/-- The number of a risk: a finite number that is no `bool`, or a text of one. -/
def IsRisk (py : Interpreter) (value : PyObj) (number : ℚ) : Prop :=
  IsFinite value number
  ∨ ∃ text, value = .str text ∧ strip text ≠ []
    ∧ py.floatOfText (strip text) = some (.finite number)

/-- The answers justify an execution. -/
structure Justified (py : Interpreter) (gate next risk : JevAnswer) : Prop where
  gateKind : gate.kind = .str (PyStr.of "noul")
  nextKind : next.kind = .str (PyStr.of "choice")
  riskKind : risk.kind = .str (PyStr.of "score")
  gateValue : gate.value = .bool true ∨ ∃ number, IsFinite gate.value number ∧ gateExecute ≤ number
  confidence : ∃ number, IsFinite next.confidence number ∧ confidenceFloor ≤ number
  choice : next.value = .str (PyStr.of "run")
  probability : ∃ value number, getEntry next.probabilities (.str (PyStr.of "run")) = some value
    ∧ IsFinite value number ∧ choiceExecute ≤ number
  level : ∃ number, IsRisk py risk.value number ∧ riskMin ≤ number ∧ number ≤ riskMax
    ∧ (⌊number + 1 / 2⌋ : ℚ) ≤ riskConfirm

def PayloadJustifies (py : Interpreter) (payload : PyObj) : Prop :=
  ∃ answers gate next risk, normalizeAnswers py payload = .ok answers
    ∧ getEntry answers (.str (PyStr.of "gate")) = some gate
    ∧ getEntry answers (.str (PyStr.of "next")) = some next
    ∧ getEntry answers (.str (PyStr.of "risk")) = some risk
    ∧ Justified py gate next risk

/-- The adapter returns a verdict, executes on answers that justify it, does not call the client about
a forbidden domain, and hands no secret to it.
-/
structure FailsClosed (py : Interpreter) (client : JevClient) (rawState : PyObj)
    (questionIds : List PyStr) (domain : Option PyStr) : Prop where
  returns : ∃ verdict, (client.decide py rawState questionIds domain).2 = .ok verdict
  justified : ∀ verdict, (client.decide py rawState questionIds domain).2 = .ok verdict →
    verdict.decision = .execute →
    ∃ payload, client.ends = .returns payload ∧ PayloadJustifies py payload
  forbidden : isForbidden questionIds (effectiveDomain rawState domain) = true →
    (client.decide py rawState questionIds domain).1 = none
  secrets : ∀ state, (client.decide py rawState questionIds domain).1 = some state →
    NoSecrets py state

def FitsField (py : Interpreter) (value : PyObj) : Prop :=
  ∃ text, fieldText py value = .ok text ∧ text.length ≤ stateValueMaxChars

/-- Every field can be written, as long as those before it fit; and if all fit, the whole state can be
written, without surrogates.
-/
def StateWritable (py : Interpreter) (state : Entries) : Prop :=
  (∀ front key value back, state = front ++ (key, value) :: back →
    (∀ entry ∈ front, FitsField py entry.2) → ∃ text, fieldText py value = .ok text)
  ∧ ((∀ entry ∈ state, FitsField py entry.2) →
    ∃ text, jsonDumps py py.dumpFrames (.dict state) = .ok text
      ∧ ∀ c ∈ text, ∀ index, c ≠ .surrogate index)

def GetsThrough (py : Interpreter) (client : JevClient) (questionIds : List PyStr) (state : Entries)
    : Prop :=
  (∀ entry ∈ state, FitsField py entry.2)
  ∧ (∀ text bytes, jsonDumps py py.dumpFrames (.dict state) = .ok text → encode text = .ok bytes →
    bytes.utf8ByteSize ≤ stateMaxBytes)
  ∧ client.enabled = true
  ∧ ∀ id ∈ questionIds, ∃ known ∈ catalogIds, id = PyStr.of known

/-- An integer that `float` takes. -/
def FloatTakes (value : PyObj) : Prop := ∀ whole, value = .int whole → floatOverflows whole = false

/-- The numbers of three answers are read, and where they are enough to execute, they are finite and no
`bool`, but for the gate.
-/
def NumbersSound (py : Interpreter) (gate next risk : JevAnswer) : Prop :=
  ∀ confidence, numberOf next.confidence = some confidence →
    isBelow confidence confidenceFloor = false →
    FloatTakes gate.value ∧ FloatTakes risk.value
    ∧ (∀ choice value, next.value = .str choice →
        getEntry next.probabilities (.str choice) = some value → FloatTakes value)
    ∧ ∀ probability value runProbability number,
        numberOf gate.value = some probability → atLeast probability gateExecute = true →
        next.value = .str (PyStr.of "run") →
        getEntry next.probabilities (.str (PyStr.of "run")) = some value →
        numberOf value = some runProbability → atLeast runProbability choiceExecute = true →
        IsRisk py risk.value number → riskMin ≤ number → number ≤ riskMax →
        (⌊number + 1 / 2⌋ : ℚ) ≤ riskConfirm →
        probability ≠ .inf false ∧ (∃ number, IsFinite next.confidence number)
          ∧ ∃ number, IsFinite value number

def PayloadSound (py : Interpreter) (payload : PyObj) : Prop :=
  ∃ answers, normalizeAnswers py payload = .ok answers
    ∧ ∀ gate next risk, answerTo answers "gate" "noul" isGate = some gate →
      answerTo answers "next" "choice" isOption = some next →
      answerTo answers "risk" "score" isScore = some risk → NumbersSound py gate next risk

/-- What the adapter can be given: outside the forbidden domains, a state that is built or refused, that
can be written, and whose keys are no secrets; and a payload that is read.
-/
def JevHandles (py : Interpreter) (client : JevClient) (rawState : PyObj)
    (questionIds : List PyStr) (domain : Option PyStr) : Prop :=
  isForbidden questionIds (effectiveDomain rawState domain) = false →
    (∀ error, buildState py rawState = .error error → error = .typeError ∨ error = .valueError)
    ∧ ∀ state, buildState py rawState = .ok state →
      StateWritable py state
      ∧ (GetsThrough py client questionIds state →
        allEntries keyNoSecret (fun _ => true) state = true
        ∧ ∀ payload, client.ends = .returns payload → client.attempts ≤ maxAttempts →
          PayloadSound py payload)

-- Values at any depth

section Depth

variable {onKey onKey' : PyKey → Bool} {onLeaf onLeaf' : PyObj → Bool}

theorem allEntries_iff {entries : Entries}
    : allEntries onKey onLeaf entries = true
      ↔ ∀ entry ∈ entries, onKey entry.1 = true ∧ allOf onKey onLeaf entry.2 = true := by
  induction entries with
  | nil => simp [allEntries]
  | cons entry rest ih => simp [allEntries, ih]

mutual

/-- Two tests at any depth are both tests. One case per kind of value. -/
theorem allOf_and : ∀ value,
    allOf (fun key => onKey key && onKey' key) (fun leaf => onLeaf leaf && onLeaf' leaf) value
      = (allOf onKey onLeaf value && allOf onKey' onLeaf' value)
  | .none => rfl
  | .bool _ => rfl
  | .int _ => rfl
  | .float _ => rfl
  | .str _ => rfl
  | .other _ _ => rfl
  | .list items => allItems_and items
  | .tuple items => allItems_and items
  | .dict entries => allEntries_and entries

theorem allItems_and : ∀ items,
    allItems (fun key => onKey key && onKey' key) (fun leaf => onLeaf leaf && onLeaf' leaf) items
      = (allItems onKey onLeaf items && allItems onKey' onLeaf' items)
  | [] => rfl
  | item :: rest => by
      rw [allItems, allItems, allItems, allOf_and item, allItems_and rest]
      ac_rfl

theorem allEntries_and : ∀ entries,
    allEntries (fun key => onKey key && onKey' key) (fun leaf => onLeaf leaf && onLeaf' leaf) entries
      = (allEntries onKey onLeaf entries && allEntries onKey' onLeaf' entries)
  | [] => rfl
  | (key, item) :: rest => by
      rw [allEntries, allEntries, allEntries, allOf_and item, allEntries_and rest]
      ac_rfl

end

end Depth

theorem bind_eq_ok {α β : Type} {first : Except PyError α} {next : α → Except PyError β} {result : β}
    : first >>= next = .ok result ↔ ∃ value, first = .ok value ∧ next value = .ok result := by
  cases first with
  | error error =>
      refine iff_of_false (fun ended => by cases ended) ?_
      rintro ⟨value, ended, -⟩
      cases ended
  | ok value => simp [bind, Except.bind]

theorem map_eq_ok {α β : Type} {first : Except PyError α} {change : α → β} {result : β}
    : first.map change = .ok result ↔ ∃ value, first = .ok value ∧ change value = result := by
  cases first with
  | error error =>
      refine iff_of_false (fun ended => by cases ended) ?_
      rintro ⟨value, ended, -⟩
      cases ended
  | ok value => simp [Except.map]

theorem redacted_noSecret : searchPattern valueDeny (PyStr.of "<redacted>") = false := by decide

mutual

theorem walk_noSecret : ∀ (frames : ℕ) (node clean : PyObj), walk py frames node = .ok clean →
    allOf (namesNoSecret py) textNoSecret clean = true
  | 0, _, _, ended => by
      rw [walk] at ended
      cases ended
  | _ + 1, .none, _, ended => by cases ended; rfl
  | _ + 1, .bool _, _, ended => by cases ended; rfl
  | _ + 1, .int _, _, ended => by cases ended; rfl
  | _ + 1, .float _, _, ended => by cases ended; rfl
  | _ + 1, .other _ _, _, ended => by cases ended; rfl
  | _ + 1, .str text, _, ended => by
      cases ended
      by_cases secret : searchPattern valueDeny text = true
      · rw [if_pos secret]
        simp only [allOf, textNoSecret, redacted_noSecret, Bool.not_false]
      · rw [if_neg secret]
        simpa [allOf, textNoSecret] using secret
  | frames + 1, .list items, _, ended => by
      obtain ⟨cleaned, walked, rfl⟩ := map_eq_ok.mp ended
      exact walkItems_noSecret frames items cleaned walked
  | frames + 1, .tuple items, _, ended => by
      obtain ⟨cleaned, walked, rfl⟩ := map_eq_ok.mp ended
      exact walkItems_noSecret frames items cleaned walked
  | frames + 1, .dict entries, _, ended => by
      obtain ⟨cleaned, walked, rfl⟩ := map_eq_ok.mp ended
      exact walkEntries_noSecret frames entries cleaned walked

theorem walkItems_noSecret : ∀ (frames : ℕ) (items cleaned : List PyObj),
    walkItems py frames items = .ok cleaned →
    allItems (namesNoSecret py) textNoSecret cleaned = true
  | _, [], _, ended => by cases ended; rfl
  | frames, item :: rest, _, ended => by
      obtain ⟨clean, first, ended⟩ := bind_eq_ok.mp ended
      obtain ⟨cleaned, later, ended⟩ := bind_eq_ok.mp ended
      cases ended
      exact Bool.and_eq_true_iff.mpr
        ⟨walk_noSecret frames item clean first, walkItems_noSecret frames rest cleaned later⟩

theorem walkEntries_noSecret : ∀ (frames : ℕ) (entries cleaned : Entries),
    walkEntries py frames entries = .ok cleaned →
    allEntries (namesNoSecret py) textNoSecret cleaned = true
  | _, [], _, ended => by cases ended; rfl
  | frames, (key, item) :: rest, left, ended => by
      obtain ⟨text, named, ended⟩ := bind_eq_ok.mp ended
      by_cases secret : searchPattern keyDeny text = true
      · rw [if_pos secret] at ended
        exact walkEntries_noSecret frames rest left ended
      · rw [if_neg secret] at ended
        obtain ⟨clean, first, ended⟩ := bind_eq_ok.mp ended
        obtain ⟨cleaned, later, ended⟩ := bind_eq_ok.mp ended
        cases ended
        have own : namesNoSecret py key = true := by simpa [namesNoSecret, named] using secret
        simp only [allEntries, own, walk_noSecret frames item clean first,
          walkEntries_noSecret frames rest cleaned later, Bool.and_self]

end

mutual

/-- What is written holds no value that `json` does not know. One case per kind of value. -/
theorem jsonDumps_isJson : ∀ (frames : ℕ) (value : PyObj) (text : PyStr),
    jsonDumps py frames value = .ok text → allOf (fun _ => true) isJson value = true
  | _, .none, _, _ => rfl
  | _, .bool _, _, _ => rfl
  | _, .int _, _, _ => rfl
  | _, .float _, _, _ => rfl
  | _, .str _, _, _ => rfl
  | _, .other _ _, _, ended => by simp [jsonDumps] at ended
  | 0, .list _, _, ended => by simp [jsonDumps] at ended
  | 0, .tuple _, _, ended => by simp [jsonDumps] at ended
  | 0, .dict _, _, ended => by simp [jsonDumps] at ended
  | frames + 1, .list items, _, ended => by
      rw [jsonDumps] at ended
      obtain ⟨texts, dumped, -⟩ := bind_eq_ok.mp ended
      exact dumpItems_isJson frames items texts dumped
  | frames + 1, .tuple items, _, ended => by
      rw [jsonDumps] at ended
      obtain ⟨texts, dumped, -⟩ := bind_eq_ok.mp ended
      exact dumpItems_isJson frames items texts dumped
  | frames + 1, .dict entries, _, ended => by
      rw [jsonDumps] at ended
      split at ended
      · cases ended
      · obtain ⟨texts, dumped, -⟩ := bind_eq_ok.mp ended
        exact dumpEntries_isJson frames entries texts dumped

theorem dumpItems_isJson : ∀ (frames : ℕ) (items : List PyObj) (texts : List PyStr),
    dumpItems py frames items = .ok texts → allItems (fun _ => true) isJson items = true
  | _, [], _, _ => rfl
  | frames, item :: rest, _, ended => by
      obtain ⟨text, first, ended⟩ := bind_eq_ok.mp ended
      obtain ⟨texts, later, -⟩ := bind_eq_ok.mp ended
      exact Bool.and_eq_true_iff.mpr
        ⟨jsonDumps_isJson frames item text first, dumpItems_isJson frames rest texts later⟩

theorem dumpEntries_isJson : ∀ (frames : ℕ) (entries : Entries) (texts : List (PyKey × PyStr)),
    dumpEntries py frames entries = .ok texts → allEntries (fun _ => true) isJson entries = true
  | _, [], _, _ => rfl
  | frames, (key, item) :: rest, _, ended => by
      obtain ⟨name, -, ended⟩ := bind_eq_ok.mp ended
      obtain ⟨text, first, ended⟩ := bind_eq_ok.mp ended
      obtain ⟨texts, later, -⟩ := bind_eq_ok.mp ended
      simp only [allEntries, jsonDumps_isJson frames item text first,
        dumpEntries_isJson frames rest texts later, Bool.and_self]

end

-- The state

theorem mem_of_getEntry {β : Type} {entries : List (PyKey × β)} {key : PyKey} {value : β}
    (found : getEntry entries key = some value) : (key, value) ∈ entries := by
  obtain ⟨entry, there, rfl⟩ := Option.map_eq_some_iff.mp found
  have same : entry.1 = key := by simpa using List.find?_some there
  rw [← same]
  exact List.mem_of_find?_eq_some there

theorem mem_setEntry {β : Type} {entries : List (PyKey × β)} {key : PyKey} {value : β}
    {entry : PyKey × β} (member : entry ∈ setEntry entries key value)
    : entry = (key, value) ∨ entry ∈ entries := by
  unfold setEntry at member
  split at member
  · obtain ⟨old, there, rfl⟩ := List.mem_map.mp member
    split
    · exact .inl rfl
    · exact .inr there
  · rcases List.mem_append.mp member with old | new
    · exact .inr old
    · exact .inl (List.mem_singleton.mp new)

theorem allEntries_setEntry {onKey : PyKey → Bool} {onLeaf : PyObj → Bool} {key : PyKey}
    {value : PyObj} (old : allEntries onKey onLeaf state = true) (own : onKey key = true)
    (new : allOf onKey onLeaf value = true)
    : allEntries onKey onLeaf (setEntry state key value) = true := by
  refine allEntries_iff.mpr fun entry member => ?_
  rcases mem_setEntry member with rfl | there
  · exact ⟨own, new⟩
  · exact allEntries_iff.mp old entry there

/-- The letters of a reference to a tenant. -/
def referenceChars : List Char := "t_0123456789abcdef".toList

theorem one_mem_word {c : Char} {text : String} (member : c ∈ text.toList)
    : .one (fun item => decide (foldCase item = some c)) ∈ word text :=
  List.mem_map_of_mem member

theorem valueDeny_letters : ∀ pieces ∈ valueDeny, ∃ c : Char,
    (.one (fun item => decide (foldCase item = some c)) ∈ pieces)
    ∧ referenceChars.all (fun d => foldCase (.char d) ≠ some c) = true := by
  simp only [valueDeny, List.forall_mem_cons]
  refine ⟨⟨'w', one_mem_word (by decide), by decide⟩, ⟨'k', one_mem_word (by decide), by decide⟩,
    ⟨'k', one_mem_word (by decide), by decide⟩, ⟨'k', one_mem_word (by decide), by decide⟩,
    ⟨'r', List.mem_append_left _ (one_mem_word (by decide)), by decide⟩,
    ⟨'p', one_mem_word (by decide), by decide⟩, ⟨'p', one_mem_word (by decide), by decide⟩,
    ⟨'m', one_mem_word (by decide), by decide⟩, ⟨'r', one_mem_word (by decide), by decide⟩,
    ⟨'g', one_mem_word (by decide), by decide⟩, ?_⟩
  exact fun pieces member => absurd member List.not_mem_nil

theorem tenantRef_noSecret {value : PyObj} {reference : PyStr}
    (referred : tenantRef py value = .ok reference)
    : searchPattern valueDeny reference = false := by
  obtain ⟨text, -, referred⟩ := bind_eq_ok.mp referred
  obtain ⟨bytes, -, referred⟩ := bind_eq_ok.mp referred
  cases referred
  have hex : ∀ digit : Fin 16, Nat.digitChar digit ∈ referenceChars := by decide
  refine searchPattern_eq_false fun pieces member => ?_
  obtain ⟨c, single, absent⟩ := valueDeny_letters pieces member
  have absent : ∀ d ∈ referenceChars, foldCase (.char d) ≠ some c :=
    fun d member => of_decide_eq_true (List.all_eq_true.mp absent d member)
  refine ⟨_, single, fun item there => decide_eq_false ?_⟩
  rcases List.mem_append.mp there with start | digit
  · obtain ⟨d, member, rfl⟩ := List.mem_map.mp start
    exact absent d (List.mem_append_left "0123456789abcdef".toList member)
  · obtain ⟨d, member, rfl⟩ := List.mem_map.mp digit
    obtain ⟨place, -, rfl⟩ := List.mem_map.mp (List.mem_of_mem_take member)
    exact absent _ (hex _)

theorem buildState_noSecret (built : buildState py rawState = .ok state)
    : allEntries (namesNoSecret py) textNoSecret state = true := by
  cases rawState with
  | dict entries =>
      obtain ⟨cleaned, walked, built⟩ := bind_eq_ok.mp built
      have clean := walk_noSecret _ _ _ walked
      cases cleaned with
      | dict clean' =>
          simp only [stateOf] at built
          split at built
          · cases built
          · obtain ⟨hidden, hides, built⟩ := bind_eq_ok.mp built
            split at built
            · cases built
            · cases built
              have allowed : allEntries (namesNoSecret py) textNoSecret (allowedFields clean')
                  = true := by
                refine allEntries_iff.mpr fun entry member => ?_
                obtain ⟨name, -, found⟩ := List.mem_filterMap.mp member
                obtain ⟨value, there, rfl⟩ := Option.map_eq_some_iff.mp found
                exact allEntries_iff.mp clean _ (mem_of_getEntry there)
              have hiddenClean : allEntries (namesNoSecret py) textNoSecret hidden = true := by
                unfold hideTenant at hides
                split at hides
                · obtain ⟨reference, referred, rfl⟩ := map_eq_ok.mp hides
                  refine allEntries_setEntry allowed ?_ ?_
                  · exact (by decide : (!searchPattern keyDeny (PyStr.of "tenant_ref")) = true)
                  · simp only [allOf, textNoSecret, tenantRef_noSecret referred, Bool.not_false]
                · cases hides
                  exact allowed
              exact allEntries_setEntry hiddenClean
                (by decide : (!searchPattern keyDeny (PyStr.of "state_version")) = true) rfl
      | _ => cases built
  | _ => cases built

theorem fieldText_isJson {value : PyObj} {text : PyStr} (written : fieldText py value = .ok text)
    : allOf (fun _ => true) isJson value = true := by
  cases value with
  | str own => rfl
  | _ => exact @jsonDumps_isJson py py.dumpFrames _ text written

theorem noSecrets_iff (built : buildState py rawState = .ok state)
    (fits : ∀ entry ∈ state, FitsField py entry.2)
    : NoSecrets py state ↔ allEntries keyNoSecret (fun _ => true) state = true := by
  have known : allEntries (fun _ => true) isJson state = true := by
    refine allEntries_iff.mpr fun entry member => ?_
    obtain ⟨text, written, -⟩ := fits entry member
    exact ⟨rfl, fieldText_isJson written⟩
  have parts : allEntries (fun key => namesNoSecret py key && keyNoSecret key)
      (fun leaf => textNoSecret leaf && isJson leaf) state
      = (allEntries (namesNoSecret py) textNoSecret state
        && allEntries keyNoSecret isJson state) := allEntries_and state
  have keys : allEntries (fun key => true && keyNoSecret key) (fun leaf => isJson leaf && true) state
      = (allEntries (fun _ => true) isJson state
        && allEntries keyNoSecret (fun _ => true) state) := allEntries_and state
  simp only [Bool.true_and, Bool.and_true] at keys
  rw [NoSecrets, parts, buildState_noSecret built, Bool.true_and, keys, known, Bool.true_and]

theorem oversizedField_none_iff
    : oversizedField py state = .ok none ↔ ∀ entry ∈ state, FitsField py entry.2 := by
  induction state with
  | nil => simp [oversizedField]
  | cons entry rest ih =>
      obtain ⟨key, value⟩ := entry
      rw [List.forall_mem_cons, ← ih, oversizedField]
      cases written : fieldText py value with
      | error error =>
          refine iff_of_false (fun ended => by cases ended) ?_
          rintro ⟨⟨text, ended, -⟩, -⟩
          rw [written] at ended
          cases ended
      | ok text =>
          by_cases long : stateValueMaxChars < text.length
          · refine iff_of_false ?_ ?_
            · simp [bind, Except.bind, long]
            · rintro ⟨⟨own, ended, short⟩, -⟩
              rw [written] at ended
              cases ended
              exact absurd long (Nat.not_lt.mpr short)
          · have fits : FitsField py value := ⟨text, written, Nat.not_lt.mp long⟩
            simp [bind, Except.bind, long, fits]

theorem oversizedField_returns_iff
    : (∃ found, oversizedField py state = .ok found)
      ↔ ∀ front key value back, state = front ++ (key, value) :: back →
        (∀ entry ∈ front, FitsField py entry.2) → ∃ text, fieldText py value = .ok text := by
  induction state with
  | nil => simp [oversizedField]
  | cons entry rest ih =>
      obtain ⟨key, value⟩ := entry
      rw [oversizedField]
      cases written : fieldText py value with
      | error error =>
          refine iff_of_false (fun ⟨found, ended⟩ => by cases ended) ?_
          intro all
          obtain ⟨text, ended⟩ := all [] key value rest rfl (by simp)
          rw [written] at ended
          cases ended
      | ok text =>
          by_cases long : stateValueMaxChars < text.length
          · simp only [bind, Except.bind, long, if_true]
            refine iff_of_true ⟨_, rfl⟩ ?_
            intro front key' value' back split fits
            cases front with
            | nil =>
                cases split
                exact ⟨text, written⟩
            | cons first others =>
                cases split
                obtain ⟨own, ended, short⟩ := fits _ List.mem_cons_self
                rw [written] at ended
                cases ended
                exact absurd long (Nat.not_lt.mpr short)
          · simp only [bind, Except.bind, long, if_false]
            rw [ih]
            constructor
            · intro all front key' value' back split fits
              cases front with
              | nil =>
                  cases split
                  exact ⟨text, written⟩
              | cons first others =>
                  cases split
                  exact all others key' value' back rfl
                    (fun entry member => fits entry (List.mem_cons_of_mem _ member))
            · intro all front key' value' back split fits
              refine all ((key, value) :: front) key' value' back (by rw [split]; rfl) ?_
              rw [List.forall_mem_cons]
              exact ⟨⟨text, written, Nat.not_lt.mp long⟩, fits⟩

theorem encode_returns_iff {text : PyStr}
    : (∃ bytes, encode text = .ok bytes) ↔ ∀ c ∈ text, ∀ index, c ≠ .surrogate index := by
  have scalars : text.all (fun c => (scalar c).isSome) = true
      ↔ ∀ c ∈ text, ∀ index, c ≠ .surrogate index := by
    rw [List.all_eq_true]
    refine forall₂_congr fun c _ => ?_
    cases c with
    | char c => simp [scalar]
    | surrogate index => simp [scalar]
  rw [← scalars]
  unfold encode
  by_cases whole : text.all (fun c => (scalar c).isSome) = true
  · rw [if_pos whole]
    exact iff_of_true ⟨_, rfl⟩ whole
  · rw [if_neg whole]
    exact iff_of_false (fun ⟨bytes, ended⟩ => by cases ended) whole

theorem stateFits_returns_iff
    : (∃ fits, stateFits py state = .ok fits)
      ↔ ∃ text, jsonDumps py py.dumpFrames (.dict state) = .ok text
        ∧ ∀ c ∈ text, ∀ index, c ≠ .surrogate index := by
  constructor
  · rintro ⟨fits, ended⟩
    obtain ⟨text, written, ended⟩ := bind_eq_ok.mp ended
    obtain ⟨bytes, encoded, -⟩ := bind_eq_ok.mp ended
    exact ⟨text, written, encode_returns_iff.mp ⟨bytes, encoded⟩⟩
  · rintro ⟨text, written, whole⟩
    obtain ⟨bytes, encoded⟩ := encode_returns_iff.mpr whole
    exact ⟨_, bind_eq_ok.mpr ⟨text, written, bind_eq_ok.mpr ⟨bytes, encoded, rfl⟩⟩⟩

theorem stateFits_true_iff
    : stateFits py state = .ok true
      ↔ ∃ text bytes, jsonDumps py py.dumpFrames (.dict state) = .ok text
        ∧ encode text = .ok bytes ∧ bytes.utf8ByteSize ≤ stateMaxBytes := by
  constructor
  · intro ended
    obtain ⟨text, written, ended⟩ := bind_eq_ok.mp ended
    obtain ⟨bytes, encoded, ended⟩ := bind_eq_ok.mp ended
    exact ⟨text, bytes, written, encoded, by simpa using Except.ok.inj ended⟩
  · rintro ⟨text, bytes, written, encoded, short⟩
    refine bind_eq_ok.mpr ⟨text, written, bind_eq_ok.mpr ⟨bytes, encoded, ?_⟩⟩
    simp [pure, Except.pure, short]

-- The answers

theorem isText_iff {value : PyObj} {text : String}
    : isText value text = true ↔ value = .str (PyStr.of text) := by
  cases value with
  | str own => simp [isText]
  | _ => simp [isText]

theorem answerTo_eq_some_iff {answers : List (PyKey × JevAnswer)} {question kind : String}
    {passes : PyObj → Bool} {answer : JevAnswer}
    : answerTo answers question kind passes = some answer
      ↔ getEntry answers (.str (PyStr.of question)) = some answer
        ∧ answer.kind = .str (PyStr.of kind) ∧ passes answer.value = true := by
  unfold answerTo
  cases getEntry answers (.str (PyStr.of question)) with
  | none => simp
  | some found =>
      by_cases usable : isText found.kind kind && passes found.value
      · have parts := Bool.and_eq_true_iff.mp usable
        rw [isText_iff] at parts
        simp only [usable, if_true, Option.some.injEq]
        constructor
        · rintro rfl
          exact ⟨rfl, parts⟩
        · exact fun same => same.1
      · simp only [usable, Option.some.injEq]
        refine iff_of_false (by simp) ?_
        rintro ⟨rfl, kind, passes⟩
        exact usable (Bool.and_eq_true_iff.mpr ⟨isText_iff.mpr kind, passes⟩)

theorem floatTakes_int_iff {whole : ℤ} : FloatTakes (.int whole) ↔ floatOverflows whole = false := by
  constructor
  · exact fun takes => takes whole rfl
  · rintro small other ⟨rfl⟩
    exact small

theorem floatTakes_of_ne {value : PyObj} (differs : ∀ whole, value ≠ .int whole)
    : FloatTakes value :=
  fun whole same => absurd same (differs whole)

theorem toFloat_of_number {value : PyObj} {number : PyFloat} (given : numberOf value = some number)
    : (FloatTakes value → toFloat py value = .ok number)
      ∧ (¬ FloatTakes value → toFloat py value = .error .overflowError) := by
  cases value with
  | int whole =>
      cases given
      rw [floatTakes_int_iff]
      cases large : floatOverflows whole with
      | false => simp [toFloat, large]
      | true => simp [toFloat, large]
  | bool value =>
      cases given
      exact ⟨fun _ => rfl, fun refused => absurd (floatTakes_of_ne (by simp)) refused⟩
  | float value =>
      cases given
      exact ⟨fun _ => rfl, fun refused => absurd (floatTakes_of_ne (by simp)) refused⟩
  | _ => cases given

theorem floatTakes_of_toFloat {value : PyObj} {number read : PyFloat}
    (given : numberOf value = some number) (ended : toFloat py value = .ok read)
    : FloatTakes value := by
  by_contra large
  rw [(toFloat_of_number given).2 large] at ended
  cases ended

theorem numberOf_of_isFinite {value : PyObj} {number : ℚ} (finite : IsFinite value number)
    : numberOf value = some (.finite number) := by
  rcases finite with rfl | ⟨whole, rfl, rfl⟩ <;> rfl

theorem isFinite_of_numberOf {value : PyObj} {number : ℚ}
    (given : numberOf value = some (.finite number))
    : IsFinite value number ∨ ∃ truth, value = .bool truth ∧ number = if truth then 1 else 0 := by
  cases value with
  | int whole =>
      cases given
      exact .inl (.inr ⟨whole, rfl, rfl⟩)
  | float value =>
      cases given
      exact .inl (.inl rfl)
  | bool truth =>
      cases given
      exact .inr ⟨truth, rfl, rfl⟩
  | _ => cases given

theorem riskLevel_eq_some_iff {value : PyFloat} {level : ℤ}
    : riskLevel value = some level
      ↔ ∃ number, value = .finite number ∧ riskMin ≤ number ∧ number ≤ riskMax
        ∧ level = ⌊number + 1 / 2⌋ := by
  cases value with
  | finite number =>
      by_cases off : number < riskMin ∨ riskMax < number
      · refine iff_of_false (by simp [riskLevel, off]) ?_
        rintro ⟨other, ⟨rfl⟩, above, below, -⟩
        rcases off with low | high
        · exact absurd low (not_lt.mpr above)
        · exact absurd high (not_lt.mpr below)
      · obtain ⟨above, below⟩ := not_or.mp off
        simp only [riskLevel, if_neg off, Option.some.injEq]
        constructor
        · rintro rfl
          exact ⟨number, rfl, not_lt.mp above, not_lt.mp below, rfl⟩
        · rintro ⟨other, ⟨rfl⟩, -, -, rfl⟩
          rfl
  | nan => simp [riskLevel]
  | inf negative => simp [riskLevel]

theorem floatLevel_eq_some_iff {value : PyObj} {level : ℤ}
    : floatLevel py value = .ok (some level)
      ↔ ∃ number, toFloat py value = .ok (.finite number) ∧ riskMin ≤ number ∧ number ≤ riskMax
        ∧ level = ⌊number + 1 / 2⌋ := by
  unfold floatLevel
  cases read : toFloat py value with
  | ok found => simp only [Except.ok.injEq, riskLevel_eq_some_iff]
  | error error => cases error <;> simp

theorem riskValue_eq_some_iff {value : PyObj} {level : ℤ}
    : riskValue py value = .ok (some level)
      ↔ FloatTakes value ∧ ∃ number, IsRisk py value number ∧ riskMin ≤ number
        ∧ number ≤ riskMax ∧ level = ⌊number + 1 / 2⌋ := by
  cases value with
  | int whole =>
      simp only [riskValue, floatLevel_eq_some_iff, toFloat, floatTakes_int_iff]
      cases large : floatOverflows whole with
      | true => simp
      | false => simp [IsRisk, IsFinite]
  | float value =>
      simp only [riskValue, floatLevel_eq_some_iff, toFloat]
      rw [and_iff_right (floatTakes_of_ne (by simp))]
      simp [IsRisk, IsFinite]
  | str text =>
      rw [and_iff_right (floatTakes_of_ne (by simp))]
      by_cases blank : strip text = []
      · simp [riskValue, blank, IsRisk, IsFinite]
      · have full : (strip text).isEmpty = false := by simpa using blank
        simp only [riskValue, full, Bool.false_eq_true, if_false, floatLevel_eq_some_iff, toFloat]
        cases read : py.floatOfText (strip text) with
        | none => simp [IsRisk, IsFinite, read]
        | some found => simp [IsRisk, IsFinite, read, blank]
  | none => simp [riskValue, IsRisk, IsFinite]
  | bool truth => simp [riskValue, IsRisk, IsFinite]
  | list items => simp [riskValue, floatLevel, toFloat, IsRisk, IsFinite]
  | tuple items => simp [riskValue, floatLevel, toFloat, IsRisk, IsFinite]
  | dict entries => simp [riskValue, floatLevel, toFloat, IsRisk, IsFinite]
  | other text attributes => simp [riskValue, floatLevel, toFloat, IsRisk, IsFinite]

theorem riskValue_returns_iff {value : PyObj}
    : (∃ level, riskValue py value = .ok level) ↔ FloatTakes value := by
  cases value with
  | int whole =>
      rw [floatTakes_int_iff]
      cases large : floatOverflows whole with
      | true => simp [riskValue, floatLevel, toFloat, large]
      | false => simp [riskValue, floatLevel, toFloat, large]
  | str text =>
      refine iff_of_true ?_ (floatTakes_of_ne (by simp))
      simp only [riskValue, floatLevel, toFloat]
      split
      · exact ⟨_, rfl⟩
      · cases py.floatOfText (strip text) with
        | none => exact ⟨_, rfl⟩
        | some found => exact ⟨_, rfl⟩
  | _ => exact iff_of_true ⟨_, rfl⟩ (floatTakes_of_ne (by simp))

theorem probabilityOf_eq_some_iff {probabilities : Entries} {choice : PyStr} {number : PyFloat}
    : probabilityOf py probabilities choice = .ok (some number)
      ↔ ∃ value, getEntry probabilities (.str choice) = some value ∧ FloatTakes value
        ∧ numberOf value = some number := by
  unfold probabilityOf
  cases getEntry probabilities (.str choice) with
  | none => simp
  | some value =>
      simp only [Option.some.injEq, exists_eq_left']
      cases given : numberOf value with
      | none => simp
      | some found =>
          obtain ⟨takes, refused⟩ := @toFloat_of_number py value found given
          by_cases small : FloatTakes value
          · simp [takes small, small, Except.map]
          · simp [refused small, small, Except.map]

theorem probabilityOf_returns_iff {probabilities : Entries} {choice : PyStr}
    : (∃ found, probabilityOf py probabilities choice = .ok found)
      ↔ ∀ value, getEntry probabilities (.str choice) = some value → FloatTakes value := by
  unfold probabilityOf
  cases getEntry probabilities (.str choice) with
  | none => simp
  | some value =>
      simp only [Option.some.injEq, forall_eq']
      cases given : numberOf value with
      | none =>
          refine iff_of_true ⟨none, by simp⟩ ?_
          rintro whole rfl
          cases given
      | some found =>
          obtain ⟨takes, refused⟩ := @toFloat_of_number py value found given
          by_cases small : FloatTakes value
          · simp [takes small, small, Except.map]
          · simp [refused small, small, Except.map]

theorem judgeNumbers_execute_iff {probability : PyFloat} {choice : PyObj}
    {runProbability : Option PyFloat} {level : ℤ}
    : (judgeNumbers probability choice runProbability level).decision = .execute
      ↔ (level : ℚ) ≤ riskConfirm ∧ atLeast probability gateExecute = true
        ∧ choice = .str (PyStr.of "run")
        ∧ ∃ number, runProbability = some number ∧ atLeast number choiceExecute = true := by
  have run : runProbability.any (atLeast · choiceExecute) = true
      ↔ ∃ number, runProbability = some number ∧ atLeast number choiceExecute = true := by
    cases runProbability <;> simp
  rw [← run, ← isText_iff, ← not_lt]
  unfold judgeNumbers
  by_cases risky : riskConfirm < level
  · simp [risky]
  · rw [if_neg risky]
    by_cases passes : (atLeast probability gateExecute && isText choice "run"
        && runProbability.any (atLeast · choiceExecute)) = true
    · rw [if_pos passes]
      simp only [Bool.and_eq_true] at passes
      exact iff_of_true rfl ⟨risky, passes.1.1, passes.1.2, passes.2⟩
    · rw [if_neg passes]
      simp only [Bool.and_eq_true] at passes
      refine iff_of_false ?_ (fun all => passes ⟨⟨all.2.1, all.2.2.1⟩, all.2.2.2⟩)
      split <;> simp

section Judged

variable {gate next risk : JevAnswer} {probability : PyFloat} {choice : PyStr}

theorem judgeAnswers_eq_ok_iff (chosen : next.value = .str choice) {verdict : JevVerdict}
    : judgeAnswers py gate next risk = .ok verdict
      ↔ ∃ probability runProbability level, toFloat py gate.value = .ok probability
        ∧ probabilityOf py next.probabilities choice = .ok runProbability
        ∧ riskValue py risk.value = .ok level
        ∧ verdict = match level with
          | none => skipFor "bad_answer"
          | some level => judgeNumbers probability (.str choice) runProbability level := by
  unfold judgeAnswers
  rw [chosen]
  constructor
  · intro ended
    obtain ⟨probability, first, ended⟩ := bind_eq_ok.mp ended
    obtain ⟨runProbability, second, ended⟩ := bind_eq_ok.mp ended
    obtain ⟨level, third, ended⟩ := bind_eq_ok.mp ended
    exact ⟨probability, runProbability, level, first, second, third, (Except.ok.inj ended).symm⟩
  · rintro ⟨probability, runProbability, level, first, second, third, rfl⟩
    exact bind_eq_ok.mpr ⟨probability, first, bind_eq_ok.mpr ⟨runProbability, second,
      bind_eq_ok.mpr ⟨level, third, rfl⟩⟩⟩

theorem judgeAnswers_returns_iff (given : numberOf gate.value = some probability)
    (chosen : next.value = .str choice)
    : (∃ verdict, judgeAnswers py gate next risk = .ok verdict)
      ↔ FloatTakes gate.value ∧ FloatTakes risk.value
        ∧ ∀ value, getEntry next.probabilities (.str choice) = some value → FloatTakes value := by
  have takes := (@toFloat_of_number py gate.value probability given).1
  rw [← @probabilityOf_returns_iff py, ← @riskValue_returns_iff py risk.value]
  constructor
  · rintro ⟨verdict, ended⟩
    obtain ⟨read, runProbability, level, first, second, third, -⟩ :=
      (judgeAnswers_eq_ok_iff chosen).mp ended
    exact ⟨floatTakes_of_toFloat given first, ⟨level, third⟩, ⟨runProbability, second⟩⟩
  · rintro ⟨small, ⟨level, third⟩, ⟨runProbability, second⟩⟩
    exact ⟨_, (judgeAnswers_eq_ok_iff chosen).mpr
      ⟨probability, runProbability, level, takes small, second, third, rfl⟩⟩

theorem judgeAnswers_executes_iff (given : numberOf gate.value = some probability)
    (chosen : next.value = .str choice)
    : (∃ verdict, judgeAnswers py gate next risk = .ok verdict ∧ verdict.decision = .execute)
      ↔ FloatTakes gate.value ∧ FloatTakes risk.value
        ∧ atLeast probability gateExecute = true ∧ next.value = .str (PyStr.of "run")
        ∧ (∃ value number, getEntry next.probabilities (.str choice) = some value
          ∧ FloatTakes value ∧ numberOf value = some number
          ∧ atLeast number choiceExecute = true)
        ∧ ∃ number, IsRisk py risk.value number ∧ riskMin ≤ number ∧ number ≤ riskMax
          ∧ (⌊number + 1 / 2⌋ : ℚ) ≤ riskConfirm := by
  have takes := (@toFloat_of_number py gate.value probability given).1
  constructor
  · rintro ⟨verdict, ended, executes⟩
    obtain ⟨read, runProbability, level, first, second, third, rfl⟩ :=
      (judgeAnswers_eq_ok_iff chosen).mp ended
    have small := floatTakes_of_toFloat given first
    obtain rfl := Except.ok.inj (first.symm.trans (takes small))
    cases level with
    | none => cases executes
    | some level =>
        obtain ⟨low, gateHigh, run, number, rfl, runHigh⟩ := judgeNumbers_execute_iff.mp executes
        obtain ⟨value, found, valueSmall, read⟩ := probabilityOf_eq_some_iff.mp second
        obtain ⟨riskSmall, scale, isRisk, above, below, rfl⟩ := riskValue_eq_some_iff.mp third
        exact ⟨small, riskSmall, gateHigh, chosen.trans run,
          ⟨value, number, found, valueSmall, read, runHigh⟩, scale, isRisk, above, below, low⟩
  · rintro ⟨small, riskSmall, gateHigh, run, ⟨value, number, found, valueSmall, read, runHigh⟩,
      scale, isRisk, above, below, low⟩
    have second := (@probabilityOf_eq_some_iff py _ _ _).mpr ⟨value, found, valueSmall, read⟩
    have third := (@riskValue_eq_some_iff py _ _).mpr
      ⟨riskSmall, scale, isRisk, above, below, rfl⟩
    refine ⟨_, (judgeAnswers_eq_ok_iff chosen).mpr
      ⟨probability, some number, some _, takes small, second, third, rfl⟩, ?_⟩
    exact judgeNumbers_execute_iff.mpr
      ⟨low, gateHigh, chosen.symm.trans run, number, rfl, runHigh⟩

theorem atLeast_cases {number : PyFloat} {bound : ℚ} (high : atLeast number bound = true)
    : number = .inf false ∨ ∃ value, number = .finite value ∧ bound ≤ value := by
  cases number with
  | finite value => exact .inr ⟨value, rfl, by simpa [atLeast] using high⟩
  | nan => cases high
  | inf negative =>
      cases negative with
      | true => cases high
      | false => exact .inl rfl

theorem Justified.gateValue_finite (right : Justified py gate next risk)
    : numberOf gate.value ≠ some (.inf false) := by
  rcases right.gateValue with truth | ⟨number, finite, -⟩
  · rw [truth]
    simp [numberOf]
  · rw [numberOf_of_isFinite finite]
    simp

theorem gateValue_of_finite (given : numberOf gate.value = some probability)
    (high : atLeast probability gateExecute = true) (bounded : probability ≠ .inf false)
    : gate.value = .bool true
      ∨ ∃ number, IsFinite gate.value number ∧ gateExecute ≤ number := by
  rcases atLeast_cases high with rfl | ⟨number, rfl, above⟩
  · exact absurd rfl bounded
  · rcases isFinite_of_numberOf given with finite | ⟨truth, same, rfl⟩
    · exact .inr ⟨number, finite, above⟩
    · cases truth with
      | true => exact .inl same
      | false => exact absurd above (by norm_num [gateExecute])

theorem numbersSound_iff (gateKind : gate.kind = .str (PyStr.of "noul"))
    (nextKind : next.kind = .str (PyStr.of "choice"))
    (riskKind : risk.kind = .str (PyStr.of "score"))
    (given : numberOf gate.value = some probability) (chosen : next.value = .str choice)
    : ((∃ verdict, judgeUsable py gate next risk = .ok verdict)
        ∧ ∀ verdict, judgeUsable py gate next risk = .ok verdict → verdict.decision = .execute →
          Justified py gate next risk)
      ↔ NumbersSound py gate next risk := by
  unfold judgeUsable NumbersSound
  cases sure : numberOf next.confidence with
  | none =>
      refine iff_of_true ⟨⟨_, rfl⟩, fun verdict ended executes => ?_⟩ (by simp)
      cases ended
      cases executes
  | some confidence =>
      simp only [Option.some.injEq, forall_eq']
      cases low : isBelow confidence confidenceFloor with
      | true =>
          refine iff_of_true ⟨⟨_, rfl⟩, fun verdict ended executes => ?_⟩ (by simp)
          cases ended
          cases executes
      | false =>
          simp only [Bool.false_eq_true, if_false, true_implies]
          rw [judgeAnswers_returns_iff given chosen]
          constructor
          · rintro ⟨⟨small, riskSmall, valuesSmall⟩, justified⟩
            refine ⟨small, riskSmall, fun other value same found => ?_, ?_⟩
            · obtain rfl : choice = other := by simpa using chosen.symm.trans same
              exact valuesSmall value found
            · intro other value runProbability number given' gateHigh run found read runHigh isRisk
                above below low
              obtain rfl := Option.some.inj (given.symm.trans given')
              obtain rfl : choice = PyStr.of "run" := by simpa using chosen.symm.trans run
              obtain ⟨verdict, ended, executes⟩ := (judgeAnswers_executes_iff given chosen).mpr
                ⟨small, riskSmall, gateHigh, run,
                  ⟨value, runProbability, found, valuesSmall value found, read, runHigh⟩,
                  number, isRisk, above, below, low⟩
              have right := justified verdict ended executes
              refine ⟨?_, ?_, ?_⟩
              · rintro rfl
                exact right.gateValue_finite given
              · obtain ⟨sureness, finite, -⟩ := right.confidence
                exact ⟨sureness, finite⟩
              · obtain ⟨other, share, found', finite, -⟩ := right.probability
                obtain rfl := Option.some.inj (found.symm.trans found')
                exact ⟨share, finite⟩
          · rintro ⟨small, riskSmall, valuesSmall, finite⟩
            refine ⟨⟨small, riskSmall, fun value found => valuesSmall choice value chosen found⟩,
              fun verdict ended executes => ?_⟩
            obtain ⟨-, -, gateHigh, run, ⟨value, runProbability, found, -, read, runHigh⟩, number,
              isRisk, above, below, low'⟩ :=
              (judgeAnswers_executes_iff given chosen).mp ⟨verdict, ended, executes⟩
            obtain rfl : choice = PyStr.of "run" := by simpa using chosen.symm.trans run
            obtain ⟨bounded, ⟨sureness, isSure⟩, ⟨share, isShare⟩⟩ :=
              finite probability value runProbability number given gateHigh run found read runHigh
                isRisk above below low'
            obtain rfl := Option.some.inj (sure.symm.trans (numberOf_of_isFinite isSure))
            obtain rfl := Option.some.inj (read.symm.trans (numberOf_of_isFinite isShare))
            exact {
              gateKind, nextKind, riskKind
              gateValue := gateValue_of_finite given gateHigh bounded
              confidence := ⟨sureness, isSure, by simpa [isBelow] using low⟩
              choice := run
              probability := ⟨value, share, found, isShare, by simpa [atLeast] using runHigh⟩
              level := ⟨number, isRisk, above, below, low'⟩
            }

end Judged

theorem judge_iff {answers : List (PyKey × JevAnswer)}
    : ((∃ verdict, judge py answers = .ok verdict)
        ∧ ∀ verdict, judge py answers = .ok verdict → verdict.decision = .execute →
          ∃ gate next risk, getEntry answers (.str (PyStr.of "gate")) = some gate
            ∧ getEntry answers (.str (PyStr.of "next")) = some next
            ∧ getEntry answers (.str (PyStr.of "risk")) = some risk
            ∧ Justified py gate next risk)
      ↔ ∀ gate next risk, answerTo answers "gate" "noul" isGate = some gate →
        answerTo answers "next" "choice" isOption = some next →
        answerTo answers "risk" "score" isScore = some risk → NumbersSound py gate next risk := by
  have skips : ∀ reason, judge py answers = .ok (skipFor reason) →
      (∃ verdict, judge py answers = .ok verdict)
      ∧ ∀ verdict, judge py answers = .ok verdict → verdict.decision = .execute →
          ∃ gate next risk, getEntry answers (.str (PyStr.of "gate")) = some gate
            ∧ getEntry answers (.str (PyStr.of "next")) = some next
            ∧ getEntry answers (.str (PyStr.of "risk")) = some risk
            ∧ Justified py gate next risk := by
    intro reason skipped
    refine ⟨⟨_, skipped⟩, fun verdict ended executes => ?_⟩
    obtain rfl := Except.ok.inj (ended.symm.trans skipped)
    cases executes
  cases gateAnswer : answerTo answers "gate" "noul" isGate with
  | none => exact iff_of_true (skips "bad_answer" (by simp [judge, gateAnswer])) (by simp)
  | some gate =>
      cases nextAnswer : answerTo answers "next" "choice" isOption with
      | none =>
          exact iff_of_true (skips "bad_answer" (by simp [judge, gateAnswer, nextAnswer])) (by simp)
      | some next =>
          cases riskAnswer : answerTo answers "risk" "score" isScore with
          | none =>
              exact iff_of_true
                (skips "bad_answer" (by simp [judge, gateAnswer, nextAnswer, riskAnswer]))
                (by simp)
          | some risk =>
              have judged : judge py answers = judgeUsable py gate next risk := by
                simp only [judge, gateAnswer, nextAnswer, riskAnswer]
              obtain ⟨gateFound, gateKind, isNumber⟩ := answerTo_eq_some_iff.mp gateAnswer
              obtain ⟨nextFound, nextKind, isChoice⟩ := answerTo_eq_some_iff.mp nextAnswer
              obtain ⟨riskFound, riskKind, -⟩ := answerTo_eq_some_iff.mp riskAnswer
              obtain ⟨probability, given⟩ := Option.isSome_iff_exists.mp isNumber
              obtain ⟨option, -, chosen⟩ := List.any_eq_true.mp isChoice
              have sound := @numbersSound_iff py gate next risk probability _ gateKind nextKind
                riskKind given (isText_iff.mp chosen)
              have only : (∀ gate' next' risk', some gate = some gate' → some next = some next' →
                  some risk = some risk' → NumbersSound py gate' next' risk')
                  ↔ NumbersSound py gate next risk := by
                refine ⟨fun all => all gate next risk rfl rfl rfl, ?_⟩
                intro right gate' next' risk' first second third
                rwa [← Option.some.inj first, ← Option.some.inj second, ← Option.some.inj third]
              rw [judged, only, ← sound]
              refine and_congr_right fun _ => forall₃_congr fun verdict _ _ => ?_
              constructor
              · rintro ⟨gate', next', risk', first, second, third, right⟩
                obtain rfl := Option.some.inj (gateFound.symm.trans first)
                obtain rfl := Option.some.inj (nextFound.symm.trans second)
                obtain rfl := Option.some.inj (riskFound.symm.trans third)
                exact right
              · exact fun right => ⟨gate, next, risk, gateFound, nextFound, riskFound, right⟩

theorem payloadSound_iff {payload : PyObj}
    : ((∃ verdict, (normalizeAnswers py payload >>= judge py) = .ok verdict)
        ∧ ∀ verdict, (normalizeAnswers py payload >>= judge py) = .ok verdict →
          verdict.decision = .execute → PayloadJustifies py payload)
      ↔ PayloadSound py payload := by
  unfold PayloadSound PayloadJustifies
  cases read : normalizeAnswers py payload with
  | error error =>
      refine iff_of_false (fun right => ?_) (fun sound => ?_)
      · obtain ⟨verdict, ended⟩ := right.1
        cases ended
      · obtain ⟨answers, ended, -⟩ := sound
        cases ended
  | ok answers =>
      have judged := @judge_iff py answers
      simp only [bind, Except.bind, Except.ok.injEq, exists_eq_left', exists_and_left]
      rw [← judged]
      simp only [exists_and_left]

-- The call

theorem failsClosed_of_skip {reason : String}
    (skipped : client.decide py rawState questionIds domain = (none, .ok (skipFor reason)))
    : FailsClosed py client rawState questionIds domain where
  returns := ⟨_, by rw [skipped]⟩
  justified := by
    intro verdict ended executes
    rw [skipped] at ended
    obtain rfl := Except.ok.inj ended
    cases executes
  forbidden := fun _ => by rw [skipped]
  secrets := by
    intro state handed
    rw [skipped] at handed
    cases handed

theorem not_failsClosed_of_raise {handed : Option Entries} {error : PyError}
    (raised : client.decide py rawState questionIds domain = (handed, .error error))
    : ¬ FailsClosed py client rawState questionIds domain := by
  intro right
  obtain ⟨verdict, ended⟩ := right.returns
  rw [raised] at ended
  cases ended

theorem failsClosed_of_call
    (permitted : isForbidden questionIds (effectiveDomain rawState domain) = false)
    (called : client.decide py rawState questionIds domain = (some state, afterCall py client))
    : FailsClosed py client rawState questionIds domain
      ↔ NoSecrets py state
        ∧ ∀ payload, client.ends = .returns payload → client.attempts ≤ maxAttempts →
          PayloadSound py payload := by
  have split : FailsClosed py client rawState questionIds domain
      ↔ NoSecrets py state ∧ (∃ verdict, afterCall py client = .ok verdict)
        ∧ ∀ verdict, afterCall py client = .ok verdict → verdict.decision = .execute →
          ∃ payload, client.ends = .returns payload ∧ PayloadJustifies py payload := by
    constructor
    · rintro ⟨returns, justified, -, secrets⟩
      rw [called] at returns justified secrets
      exact ⟨secrets state rfl, returns, justified⟩
    · rintro ⟨secrets, returns, justified⟩
      refine ⟨by rwa [called], by rwa [called], fun forbidden => ?_, fun other handed => ?_⟩
      · rw [permitted] at forbidden
        cases forbidden
      · rw [called] at handed
        exact Option.some.inj handed ▸ secrets
  rw [split]
  refine and_congr_right fun _ => ?_
  unfold afterCall
  cases ends : client.ends with
  | raises error =>
      refine iff_of_true ⟨⟨_, rfl⟩, fun verdict ended executes => ?_⟩ (by simp)
      obtain rfl := Except.ok.inj ended
      cases executes
  | returns payload =>
      by_cases often : maxAttempts < client.attempts
      · simp only [if_pos often]
        refine iff_of_true ⟨⟨_, rfl⟩, fun verdict ended executes => ?_⟩ ?_
        · obtain rfl := Except.ok.inj ended
          cases executes
        · exact fun _ _ few => absurd often (Nat.not_lt.mpr few)
      · simp only [if_neg often, ClientEnd.returns.injEq, exists_eq_left', forall_eq',
          Nat.not_lt.mp often, true_implies]
        exact payloadSound_iff

theorem getsThrough_iff (fits : ∀ entry ∈ state, FitsField py entry.2) {inLimit : Bool}
    (told : stateFits py state = .ok inLimit)
    : GetsThrough py client questionIds state
      ↔ inLimit = true ∧ client.enabled = true
        ∧ questionIds.all (fun id => catalogIds.any (id = PyStr.of ·)) = true := by
  obtain ⟨text, written, whole⟩ := stateFits_returns_iff.mp ⟨inLimit, told⟩
  obtain ⟨bytes, encoded⟩ := encode_returns_iff.mpr whole
  have size : inLimit = true ↔ ∀ text bytes, jsonDumps py py.dumpFrames (.dict state) = .ok text →
      encode text = .ok bytes → bytes.utf8ByteSize ≤ stateMaxBytes := by
    constructor
    · rintro rfl text' bytes' written' encoded'
      obtain ⟨text'', bytes'', written'', encoded'', short⟩ := stateFits_true_iff.mp told
      obtain rfl := Except.ok.inj (written'.symm.trans written'')
      obtain rfl := Except.ok.inj (encoded'.symm.trans encoded'')
      exact short
    · intro all
      have small := stateFits_true_iff.mpr ⟨text, bytes, written, encoded, all _ _ written encoded⟩
      exact Except.ok.inj (told.symm.trans small)
  have ids : questionIds.all (fun id => catalogIds.any (id = PyStr.of ·)) = true
      ↔ ∀ id ∈ questionIds, ∃ known ∈ catalogIds, id = PyStr.of known := by
    simp
  rw [GetsThrough, and_iff_right fits, ← size, ids]

theorem decide_skips {inLimit : Bool}
    (permitted : isForbidden questionIds (effectiveDomain rawState domain) = false)
    (built : buildState py rawState = .ok state) (fits : oversizedField py state = .ok none)
    (told : stateFits py state = .ok inLimit)
    (stops : ¬ (inLimit = true ∧ client.enabled = true
      ∧ questionIds.all (fun id => catalogIds.any (id = PyStr.of ·)) = true))
    : ∃ reason, client.decide py rawState questionIds domain = (none, .ok (skipFor reason)) := by
  simp only [JevClient.decide, permitted, built, fits, told, Bool.false_eq_true, if_false]
  cases inLimit with
  | false => exact ⟨_, rfl⟩
  | true =>
      cases enabled : client.enabled with
      | false => exact ⟨_, rfl⟩
      | true =>
          have unknown : questionIds.all (fun id => catalogIds.any (id = PyStr.of ·)) = false :=
            Bool.eq_false_iff.mpr fun ids => stops ⟨rfl, enabled, ids⟩
          simp only [Bool.not_true, Bool.false_eq_true, if_false, unknown, Bool.not_false, if_true]
          exact ⟨_, rfl⟩

theorem decide_built_iff
    (permitted : isForbidden questionIds (effectiveDomain rawState domain) = false)
    (built : buildState py rawState = .ok state)
    : FailsClosed py client rawState questionIds domain
      ↔ StateWritable py state
        ∧ (GetsThrough py client questionIds state →
          allEntries keyNoSecret (fun _ => true) state = true
          ∧ ∀ payload, client.ends = .returns payload → client.attempts ≤ maxAttempts →
            PayloadSound py payload) := by
  unfold StateWritable
  rw [← @oversizedField_returns_iff py state, ← @oversizedField_none_iff py state,
    ← @stateFits_returns_iff py state]
  cases oversized : oversizedField py state with
  | error error =>
      have raised : client.decide py rawState questionIds domain = (none, .error error) := by
        simp only [JevClient.decide, permitted, built, oversized, Bool.false_eq_true, if_false]
      refine iff_of_false (not_failsClosed_of_raise raised) ?_
      rintro ⟨⟨⟨found, returned⟩, -⟩, -⟩
      cases returned
  | ok found =>
      cases found with
      | some key =>
          have skipped : client.decide py rawState questionIds domain
              = (none, .ok (skipFor "state_too_large")) := by
            simp only [JevClient.decide, permitted, built, oversized, Bool.false_eq_true, if_false]
          refine iff_of_true (failsClosed_of_skip skipped)
            ⟨⟨⟨_, rfl⟩, fun none_ => by cases none_⟩, fun through => ?_⟩
          rw [oversizedField_none_iff.mpr through.1] at oversized
          cases oversized
      | none =>
          have fits := oversizedField_none_iff.mp oversized
          cases told : stateFits py state with
          | error error =>
              have raised : client.decide py rawState questionIds domain
                  = (none, .error error) := by
                simp only [JevClient.decide, permitted, built, oversized, told,
                  Bool.false_eq_true, if_false]
              refine iff_of_false (not_failsClosed_of_raise raised) ?_
              rintro ⟨⟨-, returns⟩, -⟩
              obtain ⟨inLimit, returned⟩ := returns rfl
              cases returned
          | ok inLimit =>
              have writable : (∃ found, Except.ok (none : Option PyKey) = (.ok found : Except PyError _))
                  ∧ (Except.ok (none : Option PyKey) = (.ok none : Except PyError _) →
                    ∃ fits, Except.ok inLimit = (.ok fits : Except PyError _)) :=
                ⟨⟨_, rfl⟩, fun _ => ⟨_, rfl⟩⟩
              rw [and_iff_right writable, getsThrough_iff fits told]
              by_cases through : inLimit = true ∧ client.enabled = true
                  ∧ questionIds.all (fun id => catalogIds.any (id = PyStr.of ·)) = true
              · obtain ⟨rfl, enabled, ids⟩ := through
                have called : client.decide py rawState questionIds domain
                    = (some state, afterCall py client) := by
                  simp only [JevClient.decide, permitted, built, oversized, told, enabled, ids,
                    Bool.false_eq_true, if_false, Bool.not_true]
                rw [failsClosed_of_call permitted called, noSecrets_iff built fits]
                exact ⟨fun right _ => right, fun right => right ⟨rfl, enabled, ids⟩⟩
              · refine iff_of_true ?_ (fun holds => absurd holds through)
                obtain ⟨reason, skipped⟩ := decide_skips permitted built oversized told through
                exact failsClosed_of_skip skipped

theorem decide_unbuilt {error : PyError}
    (permitted : isForbidden questionIds (effectiveDomain rawState domain) = false)
    (built : buildState py rawState = .error error)
    : (error = .typeError ∨ error = .valueError)
        ∧ client.decide py rawState questionIds domain = (none, .ok (skipFor "bad_state"))
      ∨ ¬ (error = .typeError ∨ error = .valueError)
        ∧ client.decide py rawState questionIds domain = (none, .error error) := by
  simp only [JevClient.decide, permitted, built, Bool.false_eq_true, if_false]
  cases error with
  | typeError => exact .inl ⟨.inl rfl, rfl⟩
  | valueError => exact .inl ⟨.inr rfl, rfl⟩
  | overflowError => exact .inr ⟨by simp, rfl⟩
  | recursionError => exact .inr ⟨by simp, rfl⟩

/-- The adapter fails closed on any state, question ids, domain and end of its client exactly if it
handles them.
-/
theorem decide_fails_closed_iff (py : Interpreter) (client : JevClient) (rawState : PyObj)
    (questionIds : List PyStr) (domain : Option PyStr)
    : FailsClosed py client rawState questionIds domain
      ↔ JevHandles py client rawState questionIds domain := by
  unfold JevHandles
  cases permitted : isForbidden questionIds (effectiveDomain rawState domain) with
  | true =>
      have skipped : client.decide py rawState questionIds domain
          = (none, .ok (skipFor "forbidden_domain")) := by
        simp only [JevClient.decide, permitted, if_true]
      exact iff_of_true (failsClosed_of_skip skipped) (by simp)
  | false =>
      simp only [true_implies]
      cases built : buildState py rawState with
      | error error =>
          simp only [Except.error.injEq, forall_eq', reduceCtorEq, false_implies, implies_true,
            and_true]
          rcases @decide_unbuilt _ client _ _ _ error permitted built with
            ⟨handled, skipped⟩ | ⟨unhandled, raised⟩
          · exact iff_of_true (failsClosed_of_skip skipped) handled
          · exact iff_of_false (not_failsClosed_of_raise raised) unhandled
      | ok state =>
          simp only [Except.ok.injEq, forall_eq', reduceCtorEq, false_implies, implies_true,
            true_and]
          exact decide_built_iff permitted built

/-- An interpreter for short values. -/
def plainInterpreter : Interpreter where
  floatText := fun _ => "1.0"
  jsonFloat := fun _ => "1.0"
  floatOfText := fun _ => none
  strOf := fun _ => .ok []
  sortable := fun _ => false
  walkFrames := 1000
  dumpFrames := 1000
  sha256 := fun _ _ => 0

def payloadAnswer (kind : String) (value : PyObj) (others : Entries) : PyObj :=
  .dict ([(.str "type", .str kind), (.str kind, value)] ++ others)

def nanPayload : PyObj :=
  .dict [(.str "answers", .dict [
    (.str "gate", payloadAnswer "noul" (.float (.finite (9 / 10))) []),
    (.str "next", payloadAnswer "choice" (.str "run")
      [(.str "probabilities", .dict [(.str "run", .float (.finite (9 / 10)))]),
        (.str "confidence", .float .nan)]),
    (.str "risk", payloadAnswer "score" (.float (.finite 1)) [])])]

theorem nanPayload_confidence
    : ∃ answers next, normalizeAnswers plainInterpreter nanPayload = .ok answers
      ∧ getEntry answers (.str (PyStr.of "next")) = some next ∧ next.confidence = .float .nan :=
  ⟨_, _, rfl, rfl, rfl⟩

/-- A confidence that is no number executes. -/
theorem nan_confidence_executes
    : ¬ FailsClosed plainInterpreter ⟨true, .returns nanPayload, 1⟩
        (.dict [(.str "act", .str "inference")]) ["gate", "next", "risk"] none := by
  intro right
  have executes : (JevClient.decide plainInterpreter ⟨true, .returns nanPayload, 1⟩
      (.dict [(.str "act", .str "inference")]) ["gate", "next", "risk"] none).2
      = .ok ⟨.execute, "gate_and_choice"⟩ := by decide +kernel
  obtain ⟨payload, ends, answers, gate, next, risk, read, -, found, -, justified⟩ :=
    right.justified _ executes rfl
  obtain ⟨answers', next', read', found', confidence⟩ := nanPayload_confidence
  cases ends
  obtain rfl := Except.ok.inj (read.symm.trans read')
  obtain rfl := Option.some.inj (found.symm.trans found')
  obtain ⟨number, finite, -⟩ := justified.confidence
  rw [confidence] at finite
  rcases finite with same | ⟨whole, same, -⟩
  · cases same
  · cases same

end RomaBridge.Properties
