import RomaBridge.Model.JevAdapter

/-! The answers of the provider, and the verdict that `JevAdapter.decide` comes to. -/

namespace RomaBridge.Model.Jev

open RomaBridge.Foundation

inductive JevDecision where
  | execute
  | confirm
  | abort
  | skip
  deriving DecidableEq

structure JevVerdict where
  decision : JevDecision
  reason : String
  deriving DecidableEq

/-- An exception of the client, by its class. -/
inductive ClientError where
  | jevError
  | jevDisabled
  | jevTimeout
  | jevRateLimited
  | jevBadResponse
  | other
  deriving DecidableEq

/-- How `evaluate` ends. -/
inductive ClientEnd where
  | returns (payload : PyObj)
  | raises (error : ClientError)

/-- A client: whether it may call, how its call ends, and its count of attempts after that. -/
structure JevClient where
  enabled : Bool
  ends : ClientEnd
  attempts : ℕ

/-- An answer in one shape. -/
structure JevAnswer where
  kind : PyObj
  value : PyObj
  probabilities : Entries
  confidence : PyObj

def gateExecute : ℚ := 70 / 100

def gateConfirm : ℚ := 45 / 100

def choiceExecute : ℚ := 60 / 100

/-- The threshold on the probability of the choice to ask for a confirmation. -/
def choiceConfirm : ℚ := 45 / 100

def riskConfirm : ℚ := 35 / 10

def confidenceFloor : ℚ := 50 / 100

def riskMin : ℚ := 1

def riskMax : ℚ := 5

/-- `LIMITS["max_calls_per_run"] + LIMITS["retries"]`. -/
def maxAttempts : ℕ := 1 + 1

/-- An integer is too large for a float: it would be rounded to 2 ^ 1024. -/
def floatOverflows (value : ℤ) : Bool := 2 ^ 1024 - 2 ^ 970 ≤ value.natAbs

/-- `value == text`. -/
def isText (value : PyObj) (text : String) : Bool :=
  match value with
  | .str own => own = PyStr.of text
  | _ => false

def numberOf : PyObj → Option PyFloat
  | .bool value => some (.finite (if value then 1 else 0))
  | .int value => some (.finite value)
  | .float value => some value
  | _ => none

/-- `value >= bound`. -/
def atLeast (value : PyFloat) (bound : ℚ) : Bool :=
  match value with
  | .finite number => bound ≤ number
  | .nan => false
  | .inf negative => !negative

/-- `value < bound`. -/
def isBelow (value : PyFloat) (bound : ℚ) : Bool :=
  match value with
  | .finite number => number < bound
  | .nan => false
  | .inf negative => negative

def asMapping : PyObj → Entries
  | .dict entries => entries
  | .other _ attributes =>
      ["type", "choice", "noul", "score", "probabilities", "confidence", "legend", "options",
        "criteria"].filterMap fun name =>
          (attributes.find? (·.1 = PyStr.of name)).map fun found => (.str (PyStr.of name), found.2)
  | _ => []

/-- An answer of a provider, in one shape. -/
def normalizeAnswer (answer : PyObj) : JevAnswer :=
  let data := asMapping answer
  let get (name : PyStr) : PyObj := (getEntry data (.str name)).getD .none
  let has (name : String) : Bool := (getEntry data (.str (PyStr.of name))).isSome
  let named := get (PyStr.of "type")
  let kind : PyObj :=
    if ["choice", "noul", "score"].any (isText named ·) then named
    else if has "choice" then .str (PyStr.of "choice")
    else if has "noul" then .str (PyStr.of "noul")
    else if has "score" then .str (PyStr.of "score")
    else named
  {
    kind
    value := match kind with
      | .str name => get name
      | _ => .none
    probabilities := match get (PyStr.of "probabilities") with
      | .dict entries => entries
      | _ => []
    confidence := get (PyStr.of "confidence")
  }

section Interpreted

variable (py : Interpreter)

def normalizeAnswers : PyObj → Except PyError (List (PyKey × JevAnswer))
  | .dict payload =>
      match getEntry payload (.str (PyStr.of "answers")) with
      | some (.dict raw) =>
          raw.foldlM (fun normalized (questionId, answer) => do
            let text ← keyText py questionId
            return setEntry normalized (.str text) (normalizeAnswer answer)) []
      | _ => .ok []
  | _ => .ok []

/-- `float(value)`. -/
def toFloat : PyObj → Except PyError PyFloat
  | .bool value => .ok (.finite (if value then 1 else 0))
  | .int value => if floatOverflows value then .error .overflowError else .ok (.finite value)
  | .float value => .ok value
  | .str text =>
      match py.floatOfText text with
      | some value => .ok value
      | none => .error .valueError
  | _ => .error .typeError

def probabilityOf (probabilities : Entries) (choice : PyStr) : Except PyError (Option PyFloat) :=
  match getEntry probabilities (.str choice) with
  | some value => if (numberOf value).isSome then (toFloat py value).map some else .ok none
  | none => .ok none

/-- The level of a number on the scale, half up. -/
def riskLevel : PyFloat → Option ℤ
  | .finite value => if value < riskMin ∨ riskMax < value then none else some ⌊value + 1 / 2⌋
  | _ => none

/-- `float(raw)` with its type and value errors caught, then the level. -/
def floatLevel (raw : PyObj) : Except PyError (Option ℤ) :=
  match toFloat py raw with
  | .ok value => .ok (riskLevel value)
  | .error .typeError | .error .valueError => .ok none
  | .error error => .error error

def riskValue (raw : PyObj) : Except PyError (Option ℤ) :=
  match raw with
  | .bool _ | .none => .ok none
  | .str text => if (strip text).isEmpty then .ok none else floatLevel py (.str (strip text))
  | raw => floatLevel py raw

def skipFor (reason : String) : JevVerdict := ⟨.skip, reason⟩

def answerTo (answers : List (PyKey × JevAnswer)) (question kind : String) (passes : PyObj → Bool)
    : Option JevAnswer :=
  match getEntry answers (.str (PyStr.of question)) with
  | some answer => if isText answer.kind kind && passes answer.value then some answer else none
  | none => none

def judgeNumbers (probability : PyFloat) (choice : PyObj) (runProbability : Option PyFloat)
    (level : ℤ) : JevVerdict :=
  if riskConfirm < level then ⟨.confirm, "risk_above_execute"⟩
  else if atLeast probability gateExecute && isText choice "run"
      && runProbability.any (atLeast · choiceExecute) then
    ⟨.execute, "gate_and_choice"⟩
  else if atLeast probability gateConfirm || isText choice "ask"
      || runProbability.any (atLeast · choiceConfirm) then
    ⟨.confirm, "insufficient_signal"⟩
  else ⟨.abort, "gate_below_floor"⟩

def judgeAnswers (gate next risk : JevAnswer) : Except PyError JevVerdict := do
  let probability ← toFloat py gate.value
  let choice := match next.value with
    | .str text => text
    | _ => []
  let runProbability ← probabilityOf py next.probabilities choice
  let level ← riskValue py risk.value
  return match level with
    | none => skipFor "bad_answer"
    | some level => judgeNumbers probability next.value runProbability level

def judgeUsable (gate next risk : JevAnswer) : Except PyError JevVerdict :=
  match numberOf next.confidence with
  | none => .ok (skipFor "bad_answer")
  | some confidence =>
      if isBelow confidence confidenceFloor then .ok (skipFor "low_confidence")
      else judgeAnswers py gate next risk

def isGate (value : PyObj) : Bool := (numberOf value).isSome

def isOption (value : PyObj) : Bool := ["run", "ask", "abort"].any (isText value ·)

def isScore : PyObj → Bool
  | .none => false
  | _ => true

def judge (answers : List (PyKey × JevAnswer)) : Except PyError JevVerdict :=
  match answerTo answers "gate" "noul" isGate, answerTo answers "next" "choice" isOption,
    answerTo answers "risk" "score" isScore with
  | some gate, some next, some risk => judgeUsable py gate next risk
  | _, _, _ => .ok (skipFor "bad_answer")

/-- `_transport_reason`; an exception of another class is internal. -/
def transportReason : ClientError → String
  | .jevError => "transport_error"
  | .jevDisabled => "disabled"
  | .jevTimeout => "timeout"
  | .jevRateLimited => "rate_limited"
  | .jevBadResponse => "bad_answer"
  | .other => "internal_error"

/-- The domain of a task: the given one, or the `act` of its state. -/
def effectiveDomain (rawState : PyObj) : Option PyStr → Option PyStr
  | some domain => some domain
  | none =>
      match rawState with
      | .dict entries =>
          match getEntry entries (.str (PyStr.of "act")) with
          | some (.str act) => some act
          | _ => none
      | _ => none

def isForbidden (questionIds : List PyStr) (domain : Option PyStr) : Bool :=
  ((questionIds ++ domain.toList).map lower).any fun item =>
    forbiddenDomains.any fun forbidden => containsText item (PyStr.of forbidden)

def afterCall (client : JevClient) : Except PyError JevVerdict :=
  match client.ends with
  | .raises error => .ok (skipFor (transportReason error))
  | .returns payload =>
      if maxAttempts < client.attempts then .ok (skipFor "call_limit")
      else do
        let answers ← normalizeAnswers py payload
        judge py answers

/-- `JevAdapter.decide`: the state that was handed to the client, if it was called, and the verdict. -/
def JevClient.decide (client : JevClient) (rawState : PyObj) (questionIds : List PyStr)
    (domain : Option PyStr) : Option Entries × Except PyError JevVerdict :=
  if isForbidden questionIds (effectiveDomain rawState domain) then
    (none, .ok (skipFor "forbidden_domain"))
  else
    match buildState py rawState with
    | .error .typeError | .error .valueError => (none, .ok (skipFor "bad_state"))
    | .error error => (none, .error error)
    | .ok state =>
        match oversizedField py state with
        | .error error => (none, .error error)
        | .ok (some _) => (none, .ok (skipFor "state_too_large"))
        | .ok none =>
            match stateFits py state with
            | .error error => (none, .error error)
            | .ok false => (none, .ok (skipFor "state_too_large"))
            | .ok true =>
                if !client.enabled then (none, .ok (skipFor "disabled"))
                -- `questions` raises ValueError for an id that is not in the catalog
                else if !questionIds.all (fun id => catalogIds.any (id = PyStr.of ·)) then
                  (none, .ok (skipFor "internal_error"))
                else (some state, afterCall py client)

end Interpreted

end RomaBridge.Model.Jev
