import RomaBridge.Model.PyValues

/-! `uuid.UUID` of a text, and its `str`. -/

namespace RomaBridge.Model

/-- A UUID by its number. -/
abbrev Uuid := Fin (2 ^ 128)

/-- `'%0*x' % (width, number)`, for a number of at most so many digits. -/
def hexText : ℕ → ℕ → List Char
  | 0, _ => []
  | width + 1, number => hexText width (number / 16) ++ [Nat.digitChar (number % 16)]

/-- The five groups of 32 digits, with hyphens between them. -/
def hyphenate (hex : List Char) : List Char :=
  hex.take 8 ++ '-' :: ((hex.drop 8).take 4 ++ '-' :: ((hex.drop 12).take 4
    ++ '-' :: ((hex.drop 16).take 4 ++ '-' :: hex.drop 20)))

/-- `str(uuid)`. -/
def Uuid.str (uuid : Uuid) : String := String.ofList (hyphenate (hexText 32 uuid.val))

/-- `text.replace(pattern, "")`; so many characters are still to be passed by. -/
def removeText (pattern : List Char) : ℕ → List Char → List Char
  | _, [] => []
  | skip + 1, _ :: rest => removeText pattern skip rest
  | 0, c :: rest =>
      if pattern.isPrefixOf (c :: rest) then removeText pattern (pattern.length - 1) rest
      else c :: removeText pattern 0 rest

/-- `text.strip('\x7b\x7d')`. -/
def stripBraces (text : List Char) : List Char :=
  let isBrace := fun c => c == '\x7b' || c == '\x7d'
  ((text.dropWhile isBrace).reverse.dropWhile isBrace).reverse

/-- The code points of the decimal zeros. -/
def decimalZeros : List ℕ :=
  [0x30, 0x660, 0x6f0, 0x7c0, 0x966, 0x9e6, 0xa66, 0xae6, 0xb66, 0xbe6, 0xc66, 0xce6, 0xd66,
    0xde6, 0xe50, 0xed0, 0xf20, 0x1040, 0x1090, 0x17e0, 0x1810, 0x1946, 0x19d0, 0x1a80, 0x1a90,
    0x1b50, 0x1bb0, 0x1c40, 0x1c50, 0xa620, 0xa8d0, 0xa900, 0xa9d0, 0xa9f0, 0xaa50, 0xabf0,
    0xff10, 0x104a0, 0x10d30, 0x11066, 0x110f0, 0x11136, 0x111d0, 0x112f0, 0x11450, 0x114d0,
    0x11650, 0x116c0, 0x11730, 0x118e0, 0x11950, 0x11c50, 0x11d50, 0x11da0, 0x16a60, 0x16ac0,
    0x16b50, 0x1d7ce, 0x1d7d8, 0x1d7e2, 0x1d7ec, 0x1d7f6, 0x1e140, 0x1e2f0, 0x1e950, 0x1fbf0]

def decimalDigit (c : Char) : Option ℕ :=
  (decimalZeros.find? (fun first => first ≤ c.toNat && c.toNat < first + 10)).map
    (fun first => c.toNat - first)

def hexDigit (c : Char) : Option ℕ :=
  if 'a' ≤ c && c ≤ 'f' then some (c.toNat - 'a'.toNat + 10)
  else if 'A' ≤ c && c ≤ 'F' then some (c.toNat - 'A'.toNat + 10)
  else decimalDigit c

/-- Digits with single underscores between them. `digit` tells whether one comes right before. -/
def hexValue (digit : Bool) (value : ℕ) : List Char → Option ℕ
  | [] => if digit then some value else none
  | c :: rest =>
      if c = '_' then
        if digit then hexValue false value rest else none
      else
        match hexDigit c with
        | some next => hexValue true (16 * value + next) rest
        | none => none

/-- Digits, maybe after `0x` and an underscore. -/
def hexOf : List Char → Option ℕ
  | '0' :: 'x' :: '_' :: rest | '0' :: 'X' :: '_' :: rest => hexValue false 0 rest
  | '0' :: 'x' :: rest | '0' :: 'X' :: rest => hexValue false 0 rest
  | text => hexValue false 0 text

/-- `int(text, 16)`, where the text has no minus sign. -/
def intOfHex (text : List Char) : Option ℕ :=
  match ((text.dropWhile isPySpace).reverse.dropWhile isPySpace).reverse with
  | '+' :: rest => hexOf rest
  | rest => hexOf rest

/-- `UUID(text)`; `none` is a `ValueError`. -/
def Uuid.ofText (text : String) : Option Uuid :=
  let hex := (stripBraces (removeText "uuid:".toList 0 (removeText "urn:".toList 0 text.toList))).filter
    (fun c => c ≠ '-')
  if hex.length = 32 then
    (intOfHex hex).bind (fun number =>
      if bound : number < 2 ^ 128 then some ⟨number, bound⟩ else none)
  else
    none

-- The text of a UUID

/-- What a digit of `str(uuid)` is to the readers. -/
structure PlainDigit (c : Char) : Prop where
  value : (hexDigit c).isSome
  notSpace : isPySpace c = false
  plain : c ≠ '_' ∧ c ≠ '-' ∧ c ≠ '+' ∧ c ≠ 'x' ∧ c ≠ 'X' ∧ c ≠ 'u' ∧ c ≠ '\x7b' ∧ c ≠ '\x7d'

theorem hexDigit_digitChar {digit : ℕ} (small : digit < 16)
    : hexDigit (Nat.digitChar digit) = some digit := by
  revert small
  revert digit
  decide

theorem plainDigit_digitChar {digit : ℕ} (small : digit < 16) : PlainDigit (Nat.digitChar digit) := by
  refine ⟨by rw [hexDigit_digitChar small]; rfl, ?_, ?_⟩
  · revert small
    revert digit
    decide
  · revert small
    revert digit
    decide

theorem plainDigit_hexText {width number : ℕ} {c : Char} (member : c ∈ hexText width number)
    : PlainDigit c := by
  induction width generalizing number with
  | zero => cases member
  | succ width ih =>
      rcases List.mem_append.mp member with front | last
      · exact ih front
      · rw [List.mem_singleton.mp last]
        exact plainDigit_digitChar (Nat.mod_lt _ (by decide))

theorem length_hexText (width number : ℕ) : (hexText width number).length = width := by
  induction width generalizing number with
  | zero => rfl
  | succ width ih => simp [hexText, ih]

theorem hexValue_of_digits {text : List Char} (digits : ∀ c ∈ text, PlainDigit c) (digit : Bool)
    (value : ℕ) (some_ : digit = true ∨ text ≠ [])
    : hexValue digit value text
      = some (text.foldl (fun value c => 16 * value + (hexDigit c).getD 0) value) := by
  induction text generalizing digit value with
  | nil => simp [hexValue, some_.resolve_right]
  | cons c rest ih =>
      obtain ⟨first, later⟩ := List.forall_mem_cons.mp digits
      obtain ⟨next, found⟩ := Option.isSome_iff_exists.mp first.value
      simp only [hexValue, if_neg first.plain.1, found, List.foldl_cons, Option.getD_some]
      exact ih later true _ (.inl rfl)

theorem foldl_hexText {width number : ℕ} (small : number < 16 ^ width)
    : (hexText width number).foldl (fun value c => 16 * value + (hexDigit c).getD 0) 0 = number := by
  induction width generalizing number with
  | zero =>
      rw [Nat.pow_zero, Nat.lt_one_iff] at small
      rw [small]
      rfl
  | succ width ih =>
      have front : number / 16 < 16 ^ width := by
        rw [Nat.pow_succ] at small
        exact Nat.div_lt_of_lt_mul (by rwa [Nat.mul_comm])
      have digit : number % 16 < 16 := Nat.mod_lt _ (by decide)
      rw [hexText, List.foldl_append, ih front, List.foldl_cons, List.foldl_nil,
        hexDigit_digitChar digit, Option.getD_some, Nat.div_add_mod]

theorem strip_of_none {taken : Char → Bool} {text : List Char} (none_ : ∀ c ∈ text, taken c = false)
    : ((text.dropWhile taken).reverse.dropWhile taken).reverse = text := by
  have keep : ∀ text : List Char, (∀ c ∈ text, taken c = false) → text.dropWhile taken = text := by
    intro text none_
    cases text with
    | nil => rfl
    | cons c rest => simp [none_ c (by simp)]
  rw [keep text none_, keep text.reverse (fun c member => none_ c (List.mem_reverse.mp member)),
    List.reverse_reverse]

theorem removeText_of_lacks {first : Char} {pattern text : List Char} (lacks : first ∉ text)
    : removeText (first :: pattern) 0 text = text := by
  induction text with
  | nil => rfl
  | cons c rest ih =>
      rw [List.mem_cons, not_or] at lacks
      have other : (first :: pattern).isPrefixOf (c :: rest) = false := by
        simp [List.isPrefixOf, lacks.1]
      simp only [removeText, other, Bool.false_eq_true, if_false, ih lacks.2]

theorem intOfHex_of_digits {text : List Char} (digits : ∀ c ∈ text, PlainDigit c)
    (some_ : text ≠ [])
    : intOfHex text
      = some (text.foldl (fun value c => 16 * value + (hexDigit c).getD 0) 0) := by
  have hex : hexOf text = hexValue false 0 text := by
    unfold hexOf
    split
    · exact absurd rfl (digits 'x' (by simp)).plain.2.2.2.1
    · exact absurd rfl (digits 'X' (by simp)).plain.2.2.2.2.1
    · exact absurd rfl (digits 'x' (by simp)).plain.2.2.2.1
    · exact absurd rfl (digits 'X' (by simp)).plain.2.2.2.2.1
    · rfl
  unfold intOfHex
  rw [strip_of_none (fun c member => (digits c member).notSpace)]
  split
  · exact absurd rfl (digits '+' (by simp)).plain.2.2.1
  · rw [hex, hexValue_of_digits digits false 0 (.inr some_)]

theorem groups_append (hex : List Char)
    : hex.take 8 ++ ((hex.drop 8).take 4 ++ ((hex.drop 12).take 4
        ++ ((hex.drop 16).take 4 ++ hex.drop 20)))
      = hex := by
  have join : ∀ first, (hex.drop first).take 4 ++ hex.drop (first + 4) = hex.drop first := by
    intro first
    rw [← List.drop_drop, List.take_append_drop]
  rw [join 16, join 12, join 8, List.take_append_drop]

theorem mem_hyphenate {hex : List Char} {c : Char} (member : c ∈ hyphenate hex)
    : c = '-' ∨ c ∈ hex := by
  simp only [hyphenate, List.mem_append, List.mem_cons] at member
  rcases member with group | hyphen | group | hyphen | group | hyphen | group | hyphen | group
  · exact .inr (List.mem_of_mem_take group)
  · exact .inl hyphen
  · exact .inr (List.mem_of_mem_drop (List.mem_of_mem_take group))
  · exact .inl hyphen
  · exact .inr (List.mem_of_mem_drop (List.mem_of_mem_take group))
  · exact .inl hyphen
  · exact .inr (List.mem_of_mem_drop (List.mem_of_mem_take group))
  · exact .inl hyphen
  · exact .inr (List.mem_of_mem_drop group)

theorem filter_hyphenate {hex : List Char} (digits : ∀ c ∈ hex, c ≠ '-')
    : (hyphenate hex).filter (fun c => c ≠ '-') = hex := by
  have whole : hex.filter (fun c => (c ≠ '-' : Bool)) = hex :=
    List.filter_eq_self.mpr (fun c member => decide_eq_true (digits c member))
  have hyphen : ∀ rest : List Char, ('-' :: rest).filter (fun c => (c ≠ '-' : Bool))
      = rest.filter (fun c => (c ≠ '-' : Bool)) := fun rest => List.filter_cons_of_neg (by decide)
  simp only [hyphenate, List.filter_append, hyphen]
  simp only [← List.filter_append]
  rw [groups_append, whole]

theorem Uuid.ofText_str (uuid : Uuid) : Uuid.ofText uuid.str = some uuid := by
  have digits : ∀ c ∈ hexText 32 uuid.val, PlainDigit c := fun _ => plainDigit_hexText
  have lacks : 'u' ∉ hyphenate (hexText 32 uuid.val) := by
    intro member
    rcases mem_hyphenate member with hyphen | digit
    · exact absurd hyphen (by decide)
    · exact absurd rfl (digits 'u' digit).plain.2.2.2.2.2.1
  have braces : ∀ c ∈ hyphenate (hexText 32 uuid.val),
      (c == '\x7b' || c == '\x7d') = false := by
    intro c member
    rcases mem_hyphenate member with rfl | digit
    · decide
    · obtain ⟨_, _, _, _, _, _, opening, closing⟩ := (digits c digit).plain
      simp [opening, closing]
  have hex : (stripBraces (removeText "uuid:".toList 0 (removeText "urn:".toList 0
      uuid.str.toList))).filter (fun c => (c ≠ '-' : Bool)) = hexText 32 uuid.val := by
    have text : uuid.str.toList = hyphenate (hexText 32 uuid.val) := String.toList_ofList
    have urn : "urn:".toList = 'u' :: ['r', 'n', ':'] := rfl
    have uuid_ : "uuid:".toList = 'u' :: ['u', 'i', 'd', ':'] := rfl
    rw [text, urn, uuid_, removeText_of_lacks lacks, removeText_of_lacks lacks, stripBraces,
      strip_of_none braces]
    exact filter_hyphenate (fun c member => (digits c member).plain.2.1)
  have small : uuid.val < 16 ^ 32 := uuid.isLt.trans_le (by decide)
  have nonempty : hexText 32 uuid.val ≠ [] := by
    intro empty
    have length := length_hexText 32 uuid.val
    rw [empty] at length
    cases length
  unfold Uuid.ofText
  rw [hex, if_pos (length_hexText 32 uuid.val), intOfHex_of_digits digits nonempty,
    foldl_hexText small, Option.bind_some, dif_pos uuid.isLt]

theorem Uuid.str_injective : Function.Injective Uuid.str := by
  intro first second same
  have read := congrArg Uuid.ofText same
  rw [Uuid.ofText_str, Uuid.ofText_str] at read
  exact Option.some.inj read

end RomaBridge.Model
