import RomaBridge.Foundation.Patterns
import RomaBridge.Model.PyValues
import Mathlib.Data.List.Sort

/-! `adapters/jev`: the state of a task is redacted, a provider is asked about it once, and its answers
become a verdict. The evidence of a verdict, which nothing reads, is left out.
-/

namespace RomaBridge.Model.Jev

open RomaBridge.Foundation

inductive PyError where
  | typeError
  | valueError
  | overflowError
  | recursionError
  deriving DecidableEq

abbrev Entries := List (PyKey × PyObj)

/-- What depends on the interpreter: texts of floats, the `str` of what is no text, whether keys of other
kinds can be sorted, how deep `walk` and `json.dumps` can go, and the digits of a digest.
-/
structure Interpreter where
  floatText : PyFloat → String
  jsonFloat : PyFloat → String
  floatOfText : PyStr → Option PyFloat
  strOf : PyObj → Except PyError PyStr
  sortable : List PyStr → Bool
  walkFrames : ℕ
  dumpFrames : ℕ
  sha256 : String → Fin 64 → Fin 16

-- Texts

/-- `char.isspace()`. -/
def isBlankChar : PyChar → Bool
  | .char c => isPySpace c
  | .surrogate _ => false

/-- The ASCII character that a character is taken for under `re.IGNORECASE`. -/
def foldCase : PyChar → Option Char
  | .char c =>
      if c = '\u0130' || c = '\u0131' then some 'i'
      else if c = '\u017f' then some 's'
      else if c = '\u212a' then some 'k'
      else some c.toLower
  | .surrogate _ => none

/-- `text.lower()`, for comparison with ASCII texts: the other characters become none of these. -/
def lower (text : PyStr) : PyStr :=
  text.flatMap fun
    | .char c =>
        if c = '\u0130' then [.char 'i', .char '\u0307']
        else if c = '\u212a' then [.char 'k']
        else [.char c.toLower]
    | .surrogate index => [.surrogate index]

/-- `part in text`. -/
def containsText (text part : PyStr) : Bool := text.tails.any (part.isPrefixOf ·)

def word (text : String) : List (Piece PyChar) := text.toList.map fun c => .one (foldCase · = some c)

/-- `[_-]?`. -/
def dash : Piece PyChar := .opt fun c => c = .char '_' || c = .char '-'

def keyDeny : List (List (Piece PyChar)) := [
  word "api" ++ [dash] ++ word "key", word "secret", word "token", word "password", word "passwd",
  word "credential", word "authorization", word "bearer", word "cookie", word "dsn", word "hmac",
  word "private" ++ [dash] ++ word "key", word "session" ++ [dash] ++ word "id"
]

def valueDeny : List (List (Piece PyChar)) := [
  word "whsec_", word "sk_live_", word "sk_test_", word "pk_live_",
  word "bearer" ++ [.one isBlankChar, .star isBlankChar, .one fun c => !isBlankChar c],
  word "postgres://", word "postgresql://", word "mysql://", word "redis://", word "-----begin"
]

/-- The character, unless it is a surrogate. -/
def scalar : PyChar → Option Char
  | .char c => some c
  | .surrogate _ => none

/-- `text.encode("utf-8")`, as the text that has these bytes: a surrogate is refused. -/
def encode (text : PyStr) : Except PyError String :=
  if text.all (fun c => (scalar c).isSome) then .ok (String.ofList (text.filterMap scalar))
  else .error .valueError

/-- `text.strip()`. -/
def strip (text : PyStr) : PyStr :=
  ((text.dropWhile isBlankChar).reverse.dropWhile isBlankChar).reverse

-- State

def stateMaxBytes : ℕ := 24 * 1024

def stateMaxKeys : ℕ := 40

def stateValueMaxChars : ℕ := 4000

def stateAllowlist : List String := [
  "act", "job_id", "tenant_ref", "plan_tier", "queue", "region", "gpu_type", "priority",
  "requested_seconds", "est_cost_units", "spend_cap_remaining_units", "worker_availability",
  "retry_count", "last_failure_class", "deadline_seconds"
]

def forbiddenDomains : List String := ["payment", "billing", "deploy", "delete", "quota"]

/-- `QUESTION_IDS`, the ids of the catalog of `questions`. -/
def catalogIds : List String := ["gate", "next", "risk"]

section Interpreted

variable (py : Interpreter)

/-- `str(key)`. -/
def keyText : PyKey → Except PyError PyStr
  | .str text => .ok text
  | .int value =>
      match intText value with
      | some text => .ok text
      | none => .error .valueError
  | .float value => .ok (PyStr.of (py.floatText value))
  | .bool value => .ok (PyStr.of (if value then "True" else "False"))
  | .none => .ok (PyStr.of "None")
  | .other text => .ok text

mutual

def walk : ℕ → PyObj → Except PyError PyObj
  | 0, _ => .error .recursionError
  | frames + 1, .dict entries => (walkEntries frames entries).map .dict
  | frames + 1, .list items => (walkItems frames items).map .list
  | frames + 1, .tuple items => (walkItems frames items).map .list
  | _ + 1, .str text =>
      .ok (.str (if searchPattern valueDeny text then PyStr.of "<redacted>" else text))
  | _ + 1, node => .ok node

def walkItems (frames : ℕ) : List PyObj → Except PyError (List PyObj)
  | [] => .ok []
  | item :: rest => do
      let clean ← walk frames item
      let cleaned ← walkItems frames rest
      return clean :: cleaned

/-- The entries of a dictionary, without those whose key names a secret. -/
def walkEntries (frames : ℕ) : Entries → Except PyError Entries
  | [] => .ok []
  | (key, item) :: rest => do
      let text ← keyText py key
      if searchPattern keyDeny text then
        walkEntries frames rest
      else
        let clean ← walk frames item
        let cleaned ← walkEntries frames rest
        return (key, clean) :: cleaned

end

def keyNumber : PyKey → Option PyFloat
  | .int value => some (.finite value)
  | .float value => some value
  | .bool value => some (.finite (if value then 1 else 0))
  | _ => none

def otherText : PyKey → Option PyStr
  | .other text => some text
  | _ => none

/-- `sorted` of keys does not raise: they are of kinds that are compared. -/
def sortableKeys (keys : List PyKey) : Bool :=
  keys.length ≤ 1 || keys.all (fun | .str _ => true | _ => false)
    || keys.all (fun key => (keyNumber key).isSome)
    || keys.all (fun key => (otherText key).isSome) && py.sortable (keys.filterMap otherText)

/-- `str(value)`. -/
def strText : PyObj → Except PyError PyStr
  | .str text => .ok text
  | value => py.strOf value

/-- `tenant_ref(str(value))`. -/
def tenantRef (value : PyObj) : Except PyError PyStr := do
  let text ← strText py value
  let bytes ← encode text
  let digits := (List.finRange 64).map fun place => Nat.digitChar (py.sha256 bytes place)
  return PyStr.of "t_" ++ (digits.take 12).map .char

def fieldKey (name : String) : PyKey := .str (PyStr.of name)

def allowedFields (clean : Entries) : Entries :=
  stateAllowlist.filterMap fun name =>
    (getEntry clean (fieldKey name)).map fun value => (fieldKey name, value)

def hideTenant (state : Entries) : Except PyError Entries :=
  match getEntry state (fieldKey "tenant_ref") with
  | some value =>
      (tenantRef py value).map fun reference =>
        setEntry state (fieldKey "tenant_ref") (.str reference)
  | none => .ok state

/-- The state that is sent, from the redacted one. -/
def stateOf (clean : Entries) : Except PyError Entries :=
  let unknown := (clean.map Prod.fst).filter fun key => !stateAllowlist.any (key = fieldKey ·)
  if !sortableKeys py unknown then .error .typeError
  else do
    let hidden ← hideTenant py (allowedFields clean)
    let state := setEntry hidden (fieldKey "state_version") (.int 1)
    if stateMaxKeys < state.length then .error .valueError else .ok state

def buildState : PyObj → Except PyError Entries
  | .dict entries => do
      match ← walk py py.walkFrames (.dict entries) with
      | .dict clean => stateOf py clean
      | _ => .error .typeError
  | _ => .error .typeError

/-- The order of keys that are sorted. -/
def keyLe : PyKey → PyKey → Bool
  | .str left, .str right =>
      !(right.map code < left.map code : Bool)
  | left, right =>
      match keyNumber left, keyNumber right with
      | some (.finite small), some (.finite large) => small ≤ large
      | _, _ => true
where
  /-- The code point of a character. -/
  code : PyChar → ℕ
    | .char c => c.toNat
    | .surrogate index => 0xd800 + index

/-- A character in a JSON text. -/
def jsonChar : PyChar → PyStr
  | .surrogate index => [.surrogate index]
  | .char c =>
      if c = '\x22' then PyStr.of "\x5c\x22"
      else if c = '\x5c' then PyStr.of "\x5c\x5c"
      else if c = '\n' then PyStr.of "\x5cn"
      else if c = '\r' then PyStr.of "\x5cr"
      else if c = '\t' then PyStr.of "\x5ct"
      else if c.toNat = 8 then PyStr.of "\x5cb"
      else if c.toNat = 12 then PyStr.of "\x5cf"
      else if c.toNat < 32 then
        PyStr.of "\x5cu00" ++ [.char (Nat.digitChar (c.toNat / 16)), .char (Nat.digitChar (c.toNat % 16))]
      else [.char c]

def jsonString (text : PyStr) : PyStr := PyStr.of "\x22" ++ text.flatMap jsonChar ++ PyStr.of "\x22"

def keyName (key : PyKey) : Except PyError PyStr :=
  match key.jsonText py.jsonFloat, key with
  | some name, _ => .ok name
  | none, .int _ => .error .valueError
  | none, _ => .error .typeError

mutual

/-- `json.dumps(value, ensure_ascii=False, sort_keys=True)`, with the frames that are left. -/
def jsonDumps : ℕ → PyObj → Except PyError PyStr
  | _, .none => .ok (PyStr.of "null")
  | _, .bool value => .ok (PyStr.of (if value then "true" else "false"))
  | _, .int value =>
      match intText value with
      | some text => .ok text
      | none => .error .valueError
  | _, .float value => .ok (PyStr.of (py.jsonFloat value))
  | _, .str text => .ok (jsonString text)
  | 0, .list _ | 0, .tuple _ | 0, .dict _ => .error .recursionError
  | frames + 1, .list items | frames + 1, .tuple items => do
      let texts ← dumpItems frames items
      return PyStr.of "[" ++ List.intercalate (PyStr.of ", ") texts ++ PyStr.of "]"
  | frames + 1, .dict entries =>
      if !sortableKeys py (entries.map Prod.fst) then .error .typeError
      else do
        let texts ← dumpEntries frames entries
        let sorted := texts.insertionSort fun left right => keyLe left.1 right.1
        return PyStr.of "\x7b" ++ List.intercalate (PyStr.of ", ") (sorted.map Prod.snd)
          ++ PyStr.of "\x7d"
  | _, .other _ _ => .error .typeError

def dumpItems (frames : ℕ) : List PyObj → Except PyError (List PyStr)
  | [] => .ok []
  | item :: rest => do
      let text ← jsonDumps frames item
      let texts ← dumpItems frames rest
      return text :: texts

def dumpEntries (frames : ℕ) : Entries → Except PyError (List (PyKey × PyStr))
  | [] => .ok []
  | (key, item) :: rest => do
      let name ← keyName py key
      let text ← jsonDumps frames item
      let texts ← dumpEntries frames rest
      return (key, jsonString name ++ PyStr.of ": " ++ text) :: texts

end

/-- The text of a field, whose length is limited. -/
def fieldText : PyObj → Except PyError PyStr
  | .str text => .ok text
  | value => jsonDumps py py.dumpFrames value

def oversizedField : Entries → Except PyError (Option PyKey)
  | [] => .ok none
  | (key, value) :: rest => do
      let serialized ← fieldText py value
      if stateValueMaxChars < serialized.length then .ok (some key) else oversizedField rest

def stateFits (state : Entries) : Except PyError Bool := do
  let text ← jsonDumps py py.dumpFrames (.dict state)
  let bytes ← encode text
  return bytes.utf8ByteSize ≤ stateMaxBytes

end Interpreted

end RomaBridge.Model.Jev
