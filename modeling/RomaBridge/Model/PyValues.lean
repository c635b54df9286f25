import RomaBridge.Foundation.Decimal
import RomaBridge.Foundation.Table

/-! Values of the dictionaries that Python code receives from JSON, and of the texts in them. -/

namespace RomaBridge.Model

open RomaBridge.Foundation

/-- A value of a dictionary. A number is the decimal that its text prints as; `other` is a list,
a dictionary or another object that is compared with nothing.
-/
inductive PyValue where
  | none
  | bool (value : Bool)
  | int (value : ℤ)
  | float (value : ℚ)
  | str (value : String)
  | other (truthy : Bool)
  deriving DecidableEq, Repr

/-- `bool(value)`. -/
def PyValue.truthy : PyValue → Bool
  | .none => false
  | .bool value => value
  | .int value => value ≠ 0
  | .float value => value ≠ 0
  | .str value => value ≠ ""
  | .other truthy => truthy

/-- `value or fallback`. -/
def PyValue.orElse (value fallback : PyValue) : PyValue :=
  if value.truthy then value else fallback

/-- A dictionary, by its keys. -/
abbrev PyDict := String → Option PyValue

/-- `dict.get(key)`. -/
def PyDict.get (dict : PyDict) (key : String) : PyValue := (dict key).getD .none

/-- `dict.get(key, default)`. -/
def PyDict.getOr (dict : PyDict) (key : String) (default : PyValue) : PyValue :=
  (dict key).getD default

/-- `str.isspace` of one character. -/
def isPySpace (c : Char) : Bool :=
  (9 ≤ c.toNat && c.toNat ≤ 13) || (28 ≤ c.toNat && c.toNat ≤ 32) || c.toNat == 0x85
    || c.toNat == 0xa0 || c.toNat == 0x1680 || (0x2000 ≤ c.toNat && c.toNat ≤ 0x200a)
    || c.toNat == 0x2028 || c.toNat == 0x2029 || c.toNat == 0x202f || c.toNat == 0x205f
    || c.toNat == 0x3000

/-- `str.strip()`. -/
def pyStrip (text : String) : String :=
  String.ofList (((text.toList.dropWhile isPySpace).reverse.dropWhile isPySpace).reverse)

/-- `Decimal(text)` when it is finite. Underscores are skipped. -/
def decimalOfText (text : String) : Option ℚ :=
  parseDecimal ((pyStrip text).toList.filter (fun c => c ≠ '_'))

/-! The text operations of Python that the scripts read command output and SQL files with. -/

/-- The characters that `str.splitlines` breaks lines at. -/
def isPyLineBreak (c : Char) : Bool :=
  (10 ≤ c.toNat && c.toNat ≤ 13) || (28 ≤ c.toNat && c.toNat ≤ 30) || c.toNat == 0x85
    || c.toNat == 0x2028 || c.toNat == 0x2029

/-- The lines of a text that goes on after the start of one, which is given reversed. -/
def splitLinesFrom (line : List Char) : List Char → List (List Char)
  | [] => if line.isEmpty then [] else [line.reverse]
  | '\r' :: '\n' :: rest => line.reverse :: splitLinesFrom [] rest
  | c :: rest =>
      if isPyLineBreak c then line.reverse :: splitLinesFrom [] rest
      else splitLinesFrom (c :: line) rest

/-- `str.splitlines()`. -/
def pySplitLines (text : String) : List String :=
  (splitLinesFrom [] text.toList).map String.ofList

/-- `text[:count]`. -/
def pyTake (text : String) (count : ℕ) : String := String.ofList (text.toList.take count)

/-- `text or fallback`. -/
def pyOr (text fallback : String) : String := if text = "" then fallback else text

/-! Python values of any nesting, and what `json` makes of them. -/

/-- A character of a Python text: surrogates can stand in it alone. -/
inductive PyChar where
  | char (c : Char)
  | surrogate (index : Fin 2048)
  deriving DecidableEq

abbrev PyStr := List PyChar

def PyStr.of (text : String) : PyStr := text.toList.map .char

instance : Coe String PyStr := ⟨PyStr.of⟩

inductive PyFloat where
  | finite (value : ℚ)
  | nan
  | inf (negative : Bool)
  deriving DecidableEq

/-- A dictionary key. `other` stands for the keys `json` refuses, with their `str`. -/
inductive PyKey where
  | str (text : PyStr)
  | int (value : ℤ)
  | float (value : PyFloat)
  | bool (value : Bool)
  | none
  | other (text : PyStr)
  deriving DecidableEq

/-- A value. `other` stands for all that `json` refuses: sets, bytes, objects, with their `str` and the
attributes they have.
-/
inductive PyObj where
  | none
  | bool (value : Bool)
  | int (value : ℤ)
  | float (value : PyFloat)
  | str (text : PyStr)
  | list (items : List PyObj)
  | tuple (items : List PyObj)
  | dict (entries : List (PyKey × PyObj))
  | other (text : PyStr) (attributes : List (PyStr × PyObj))

def PyFloat.isZero : PyFloat → Bool
  | .finite value => value = 0
  | _ => false

/-- `bool(value)`. -/
def PyObj.truthy : PyObj → Bool
  | .none => false
  | .bool value => value
  | .int value => value ≠ 0
  | .float value => !value.isZero
  | .str text => !text.isEmpty
  | .list items | .tuple items => !items.isEmpty
  | .dict entries => !entries.isEmpty
  | .other _ _ => true

/-- `dict.get(key)`. -/
def getEntry {β : Type} (entries : List (PyKey × β)) (key : PyKey) : Option β :=
  (entries.find? (fun entry => entry.1 = key)).map Prod.snd

/-- `dict[key] = value` on the entries of a dictionary. -/
def setEntry {β : Type} (entries : List (PyKey × β)) (key : PyKey) (value : β)
    : List (PyKey × β) :=
  if entries.any (fun entry => entry.1 = key) then
    entries.map (fun entry => if entry.1 = key then (key, value) else entry)
  else
    entries ++ [(key, value)]

/-- The most digits of an integer that has a `str`. -/
def maxStrDigits : ℕ := 4300

/-- The text of an integer, unless it is refused. -/
def intText (value : ℤ) : Option PyStr :=
  if (Nat.toDigits 10 value.natAbs).length ≤ maxStrDigits then some (PyStr.of (toString value))
  else none

/-- A text as it is read back from its escapes: two surrogates that make a pair come back as the
character of the pair.
-/
def joinSurrogates : PyStr → PyStr
  | [] => []
  | [c] => [c]
  | .surrogate high :: .surrogate low :: rest =>
      if high.val < 1024 ∧ 1024 ≤ low.val then
        .char (Char.ofNat (0x10000 + high.val * 1024 + (low.val - 1024))) :: joinSurrogates rest
      else
        .surrogate high :: joinSurrogates (.surrogate low :: rest)
  | c :: next :: rest => c :: joinSurrogates (next :: rest)

section Json

variable (floatText : PyFloat → String)

def PyKey.jsonText : PyKey → Option PyStr
  | .str text => some text
  | .int value => intText value
  | .float value => some (PyStr.of (floatText value))
  | .bool value => some (PyStr.of (if value then "true" else "false"))
  | .none => some (PyStr.of "null")
  | .other _ => Option.none

mutual

/-- `json.loads(json.dumps(value))`, or nothing where `json.dumps` raises. Tuples come back as lists,
and keys as texts.
-/
def jsonCopy : PyObj → Option PyObj
  | .none => some .none
  | .bool value => some (.bool value)
  | .int value => (intText value).map fun _ => .int value
  | .float value => some (.float value)
  | .str text => some (.str (joinSurrogates text))
  | .list items => (jsonCopyItems items).map .list
  | .tuple items => (jsonCopyItems items).map .list
  | .dict entries => (jsonCopyEntries [] entries).map .dict
  | .other _ _ => Option.none

def jsonCopyItems : List PyObj → Option (List PyObj)
  | [] => some []
  | item :: rest => do
      let copy ← jsonCopy item
      let copies ← jsonCopyItems rest
      return copy :: copies

/-- The copies of the entries of a dictionary, read into one in their order. -/
def jsonCopyEntries (read : List (PyKey × PyObj))
    : List (PyKey × PyObj) → Option (List (PyKey × PyObj))
  | [] => some read
  | (key, value) :: rest => do
      let text ← key.jsonText floatText
      let copy ← jsonCopy value
      jsonCopyEntries (setEntry read (.str (joinSurrogates text)) copy) rest

end

end Json

/-! Values that `json.dumps` writes and `json.loads` reads back, and the dictionaries of them that
the durability layer folds its events into.
-/

/-- A JSON value. A float is the decimal that its text prints as. -/
inductive JsonValue where
  | null
  | bool (value : Bool)
  | int (value : ℤ)
  | float (value : ℚ)
  | str (value : String)
  | list (items : List JsonValue)
  | dict (entries : List (String × JsonValue))

/-- `bool(value)`. -/
def JsonValue.truthy : JsonValue → Bool
  | .null => false
  | .bool value => value
  | .int value => value ≠ 0
  | .float value => value ≠ 0
  | .str value => value ≠ ""
  | .list items => !items.isEmpty
  | .dict entries => !entries.isEmpty

/-- A dictionary: its entries in insertion order, no key twice. -/
abbrev JsonDict := Table String (String × JsonValue) Prod.fst

namespace JsonDict

/-- `dict.get(key)`, when the key is there. -/
def get? (dict : JsonDict) (key : String) : Option JsonValue := (dict.find? key).map Prod.snd

/-- `dict.get(key, default)`. -/
def getOr (dict : JsonDict) (key : String) (default : JsonValue) : JsonValue :=
  (dict.get? key).getD default

/-- `dict[key] = value`. -/
def set (dict : JsonDict) (key : String) (value : JsonValue) : JsonDict := dict.put (key, value)

/-- `dict.update(other)`. -/
def update (dict other : JsonDict) : JsonDict :=
  other.rows.foldl (fun current entry => current.put entry) dict

/-- The dictionary display of some entries. -/
def ofList (entries : List (String × JsonValue)) : JsonDict :=
  entries.foldl (fun current entry => current.put entry) Table.empty

def toValue (dict : JsonDict) : JsonValue := .dict dict.rows

@[simp]
theorem get?_empty (key : String) : get? Table.empty key = none := rfl

@[simp]
theorem get?_set (dict : JsonDict) (key other : String) (value : JsonValue)
    : (dict.set key value).get? other = if key = other then some value else dict.get? other := by
  unfold set get?
  rw [Table.find?_put]
  split <;> rfl

/-- After assignments in a row a key holds the last value assigned to it, by induction on the
entries.
-/
theorem get?_foldl_put (entries : List (String × JsonValue)) (dict : JsonDict) (key : String)
    : get? (entries.foldl (fun current entry => current.put entry) dict) key
      = ((entries.filter (fun entry => entry.1 = key)).getLast?.map Prod.snd).or
        (dict.get? key) := by
  induction entries generalizing dict with
  | nil => simp
  | cons entry rest ih =>
      have one : get? (dict.put entry) key
          = if entry.1 = key then some entry.2 else dict.get? key := get?_set dict entry.1 key entry.2
      rw [List.foldl_cons, ih, one, List.filter_cons]
      by_cases same : entry.1 = key
      · simp only [same, if_true, decide_true, List.getLast?_cons]
        cases (rest.filter (fun entry => decide (entry.1 = key))).getLast? <;> simp
      · simp [same]

theorem getLast?_filter (dict : JsonDict) (key : String)
    : (dict.rows.filter (fun entry => entry.1 = key)).getLast? = dict.find? key := by
  cases found : dict.find? key with
  | none =>
      rw [List.getLast?_eq_none_iff, List.filter_eq_nil_iff]
      intro entry member
      simpa using Table.find?_none.mp found entry member
  | some entry =>
      obtain ⟨stored, same⟩ := Table.find?_some found
      cases last : (dict.rows.filter (fun entry => entry.1 = key)).getLast? with
      | none =>
          rw [List.getLast?_eq_none_iff, List.filter_eq_nil_iff] at last
          exact absurd (by simpa using same) (last entry stored)
      | some other =>
          have member := List.mem_filter.mp (List.mem_of_getLast? last)
          have otherKey : other.1 = key := by simpa using member.2
          exact congrArg some (Table.eq_of_key member.1 stored (otherKey.trans same.symm))

@[simp]
theorem get?_update (dict other : JsonDict) (key : String)
    : (dict.update other).get? key = (other.get? key).or (dict.get? key) := by
  rw [update, get?_foldl_put, getLast?_filter]
  rfl

end JsonDict

end RomaBridge.Model
