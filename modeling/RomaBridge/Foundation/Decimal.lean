import Mathlib.Data.Rat.Floor
import Mathlib.Data.List.TakeWhile
import Mathlib.Tactic.Positivity

/-! Decimal rounding and decimal text of rational numbers.
Numbers are exact; `roundTo` rounds half to even on a decimal grid, `fixedText` prints a grid
number with a fixed number of decimals and `parseDecimal` reads decimal text back.
-/

namespace RomaBridge.Foundation

/-- The nearest integer, ties to the even one. -/
def roundHalfEven (x : ℚ) : ℤ :=
  if x - ⌊x⌋ < 1 / 2 then ⌊x⌋
  else if 1 / 2 < x - ⌊x⌋ then ⌊x⌋ + 1
  else if ⌊x⌋ % 2 = 0 then ⌊x⌋ else ⌊x⌋ + 1

/-- Rounding to a number of decimals, ties to even. -/
def roundTo (digits : ℕ) (x : ℚ) : ℚ := roundHalfEven (x * 10 ^ digits) / 10 ^ digits

/-- The number has at most the given number of decimals. -/
def OnGrid (digits : ℕ) (x : ℚ) : Prop := ∃ units : ℤ, x = units / 10 ^ digits

theorem roundHalfEven_intCast (n : ℤ) : roundHalfEven n = n := by
  simp [roundHalfEven]

/-- Rounding a nonnegative number gives a nonnegative number, by cases of the tie rule. -/
theorem roundHalfEven_nonneg {x : ℚ} (nonneg : 0 ≤ x) : 0 ≤ roundHalfEven x := by
  have floor : 0 ≤ ⌊x⌋ := Int.floor_nonneg.mpr nonneg
  unfold roundHalfEven
  split
  · exact floor
  · split
    · omega
    · split <;> omega

theorem roundTo_onGrid (digits : ℕ) (x : ℚ) : OnGrid digits (roundTo digits x) := ⟨_, rfl⟩

theorem roundTo_of_onGrid {digits : ℕ} {x : ℚ} (grid : OnGrid digits x)
    : roundTo digits x = x := by
  obtain ⟨units, rfl⟩ := grid
  have scale : (units : ℚ) / 10 ^ digits * 10 ^ digits = units := by field_simp
  rw [roundTo, scale, roundHalfEven_intCast]

@[simp]
theorem roundTo_roundTo (digits : ℕ) (x : ℚ)
    : roundTo digits (roundTo digits x) = roundTo digits x :=
  roundTo_of_onGrid (roundTo_onGrid digits x)

@[simp]
theorem roundTo_zero (digits : ℕ) : roundTo digits 0 = 0 :=
  roundTo_of_onGrid ⟨0, by simp⟩

theorem roundTo_nonneg {digits : ℕ} {x : ℚ} (nonneg : 0 ≤ x) : 0 ≤ roundTo digits x := by
  have units := roundHalfEven_nonneg (x := x * 10 ^ digits) (by positivity)
  unfold roundTo
  positivity

/-- The decimal digits of `n`, padded with zeros on the left. -/
def paddedDigits (width n : ℕ) : List Char :=
  List.replicate (width - (Nat.toDigits 10 n).length) '0' ++ Nat.toDigits 10 n

/-- Fixed-point text with `digits` decimals, as `format(x, ".<digits>f")` prints it. -/
def fixedText (digits : ℕ) (x : ℚ) : String :=
  let units := roundHalfEven (x * 10 ^ digits)
  let size := units.natAbs
  String.ofList
    ((if units < 0 then ['-'] else [])
      ++ (Nat.toDigits 10 (size / 10 ^ digits)
        ++ '.' :: paddedDigits digits (size % 10 ^ digits)))

/-- Digits with single underscores between them; the digits alone are returned. -/
def digitRun (text : List Char) : Option (List Char) :=
  let groups := text.splitOn '_'
  if groups.all (fun group => !group.isEmpty && group.all Char.isDigit) then
    some groups.flatten
  else
    none

def splitSign : List Char → Bool × List Char
  | '-' :: rest => (true, rest)
  | '+' :: rest => (false, rest)
  | text => (false, text)

/-- `digits`, `digits.`, `.digits` or `digits.digits`, without sign and exponent. -/
def parseMantissa (text : List Char) : Option ℚ :=
  let whole := text.takeWhile (· ≠ '.')
  match text.dropWhile (· ≠ '.') with
  | [] => (digitRun whole).map (fun run => (Nat.ofDigitChars 10 run 0 : ℚ))
  | _ :: fraction =>
      if fraction.isEmpty then
        (digitRun whole).map (fun run => (Nat.ofDigitChars 10 run 0 : ℚ))
      else if whole.isEmpty then
        (digitRun fraction).map (fun run => (Nat.ofDigitChars 10 run 0 : ℚ) / 10 ^ run.length)
      else
        (digitRun whole).bind (fun run =>
          (digitRun fraction).map (fun more =>
            (Nat.ofDigitChars 10 run 0 : ℚ)
            + (Nat.ofDigitChars 10 more 0 : ℚ) / 10 ^ more.length))

/-- The decimal exponent after `e` or `E`. -/
def parseExponent (text : List Char) : Option ℤ :=
  let (negative, rest) := splitSign text
  (digitRun rest).map (fun run =>
    if negative then -(Nat.ofDigitChars 10 run 0 : ℤ) else (Nat.ofDigitChars 10 run 0 : ℤ))

/-- Finite decimal text as `float(text)` reads it; `none` for anything else. -/
def parseDecimal (text : List Char) : Option ℚ :=
  let trimmed := ((text.dropWhile Char.isWhitespace).reverse.dropWhile Char.isWhitespace).reverse
  let (negative, unsigned) := splitSign trimmed
  let mantissa := unsigned.takeWhile (fun c => c ≠ 'e' && c ≠ 'E')
  let scaled :=
    match unsigned.dropWhile (fun c => c ≠ 'e' && c ≠ 'E') with
    | [] => parseMantissa mantissa
    | _ :: exponent =>
        (parseMantissa mantissa).bind (fun size =>
          (parseExponent exponent).map (fun power => size * (10 : ℚ) ^ power))
  scaled.map (fun size => if negative then -size else size)

/-- A digit is none of the characters that structure decimal text. -/
theorem Char.plain_of_isDigit {c : Char} (digit : c.isDigit = true)
    : c ≠ '_' ∧ c ≠ '.' ∧ c ≠ 'e' ∧ c ≠ 'E' ∧ c ≠ '-' ∧ c ≠ '+' ∧ c.isWhitespace = false := by
  refine ⟨?_, ?_, ?_, ?_, ?_, ?_, ?_⟩
  all_goals first
    | (rintro rfl; revert digit; decide)
    | (by_contra blank
       simp only [Bool.not_eq_false, Char.isWhitespace, Bool.or_eq_true, decide_eq_true_eq]
         at blank
       rcases blank with ((rfl | rfl) | rfl) | rfl <;> (revert digit; decide))

theorem digitRun_of_digits {run : List Char} (digits : ∀ c ∈ run, c.isDigit = true)
    (nonempty : run ≠ [])
    : digitRun run = some run := by
  have single : run.splitOn '_' = [run] := by
    apply List.splitOnP_eq_singleton
    intro c member
    simpa using (Char.plain_of_isDigit (digits c member)).1
  have good : run.all Char.isDigit = true := List.all_eq_true.mpr digits
  simp [digitRun, single, nonempty, good]

theorem isDigit_of_mem_toDigits {n : ℕ} {c : Char} (member : c ∈ Nat.toDigits 10 n)
    : c.isDigit = true :=
  Nat.isDigit_of_mem_toDigits (by omega) (by omega) member

/-- Padding adds zeros only: the characters are digits and read back as the number. -/
theorem paddedDigits_spec {width n : ℕ} (positive : 0 < width) (bound : n < 10 ^ width)
    : (∀ c ∈ paddedDigits width n, c.isDigit = true)
      ∧ (paddedDigits width n).length = width
      ∧ Nat.ofDigitChars 10 (paddedDigits width n) 0 = n := by
  have short : (Nat.toDigits 10 n).length ≤ width :=
    (Nat.length_toDigits_le_iff (by omega) positive).mpr bound
  refine ⟨?_, ?_, ?_⟩
  · intro c member
    rcases List.mem_append.mp member with zero | digit
    · rw [List.eq_of_mem_replicate zero]
      rfl
    · exact isDigit_of_mem_toDigits digit
  · simp only [paddedDigits, List.length_append, List.length_replicate]
    omega
  · simp [paddedDigits, Nat.ofDigitChars_append]

theorem parseMantissa_point {whole fraction : List Char}
    (wholeDigits : ∀ c ∈ whole, c.isDigit = true) (wholeNonempty : whole ≠ [])
    (fractionDigits : ∀ c ∈ fraction, c.isDigit = true) (fractionNonempty : fraction ≠ [])
    : parseMantissa (whole ++ '.' :: fraction)
      = some
          ((Nat.ofDigitChars 10 whole 0 : ℚ)
            + (Nat.ofDigitChars 10 fraction 0 : ℚ) / 10 ^ fraction.length) := by
  have beforePoint : ∀ c ∈ whole, decide (c ≠ '.') = true := by
    intro c member
    simpa using (Char.plain_of_isDigit (wholeDigits c member)).2.1
  have taken : (whole ++ '.' :: fraction).takeWhile (· ≠ '.') = whole := by
    rw [List.takeWhile_append_of_pos beforePoint]
    simp
  have dropped : (whole ++ '.' :: fraction).dropWhile (· ≠ '.') = '.' :: fraction := by
    rw [List.dropWhile_append_of_pos beforePoint]
    simp
  simp only [parseMantissa, taken, dropped]
  simp [wholeNonempty, fractionNonempty, digitRun_of_digits wholeDigits wholeNonempty,
    digitRun_of_digits fractionDigits fractionNonempty]

/-- Text without blanks, signs and exponents is read as a mantissa. -/
theorem parseDecimal_of_plain {text : List Char}
    (plain
      : ∀ c ∈ text, c.isWhitespace = false ∧ c ≠ '-' ∧ c ≠ '+' ∧ c ≠ 'e' ∧ c ≠ 'E')
    : parseDecimal text = parseMantissa text := by
  have noBlank : ∀ list : List Char, (∀ c ∈ list, c.isWhitespace = false)
      → list.dropWhile Char.isWhitespace = list := by
    intro list blanks
    cases list with
    | nil => rfl
    | cons head tail => simp [blanks head (by simp)]
  have trimmed : ((text.dropWhile Char.isWhitespace).reverse.dropWhile
      Char.isWhitespace).reverse = text := by
    rw [noBlank text (fun c member => (plain c member).1),
      noBlank text.reverse (fun c member => (plain c (List.mem_reverse.mp member)).1),
      List.reverse_reverse]
  have unsigned : splitSign text = (false, text) := by
    cases text with
    | nil => rfl
    | cons head tail =>
        obtain ⟨_, minus, plus, _, _⟩ := plain head (by simp)
        unfold splitSign
        split
        · rename_i same
          exact absurd (List.cons.inj same).1 minus
        · rename_i same
          exact absurd (List.cons.inj same).1 plus
        · rfl
  have noExponent : ∀ c ∈ text, (decide (c ≠ 'e') && decide (c ≠ 'E')) = true := by
    intro c member
    obtain ⟨_, _, _, lower, upper⟩ := plain c member
    simp [lower, upper]
  unfold parseDecimal
  simp only [trimmed, unsigned]
  rw [List.dropWhile_eq_nil_iff.mpr noExponent, List.takeWhile_eq_self_iff.mpr noExponent]
  simp

/-- Fixed-point text of a nonnegative number reads back as the number rounded to the printed
decimals. Witness: the integer part and the padded decimals are digit runs around one point.
-/
theorem parseDecimal_fixedText {digits : ℕ} {x : ℚ} (nonneg : 0 ≤ x) (positive : 0 < digits)
    : parseDecimal (fixedText digits x).toList = some (roundTo digits x) := by
  have unitsNonneg : 0 ≤ roundHalfEven (x * 10 ^ digits) :=
    roundHalfEven_nonneg (by positivity)
  obtain ⟨size, units⟩ := Int.eq_ofNat_of_zero_le unitsNonneg
  have power : 0 < 10 ^ digits := by positivity
  obtain ⟨fractionDigits, fractionLength, fractionValue⟩ :=
    paddedDigits_spec positive (Nat.mod_lt size power)
  have wholeDigits : ∀ c ∈ Nat.toDigits 10 (size / 10 ^ digits), c.isDigit = true :=
    fun c member => isDigit_of_mem_toDigits member
  have fractionNonempty : paddedDigits digits (size % 10 ^ digits) ≠ [] := by
    intro empty
    rw [empty] at fractionLength
    simp at fractionLength
    omega
  have text : (fixedText digits x).toList
      = Nat.toDigits 10 (size / 10 ^ digits)
        ++ '.' :: paddedDigits digits (size % 10 ^ digits) := by
    simp [fixedText, units]
  have plain : ∀ c ∈ (fixedText digits x).toList,
      c.isWhitespace = false ∧ c ≠ '-' ∧ c ≠ '+' ∧ c ≠ 'e' ∧ c ≠ 'E' := by
    intro c member
    rw [text] at member
    rcases List.mem_append.mp member with whole | rest
    · have shape := Char.plain_of_isDigit (wholeDigits c whole)
      exact ⟨shape.2.2.2.2.2.2, shape.2.2.2.2.1, shape.2.2.2.2.2.1, shape.2.2.1, shape.2.2.2.1⟩
    · rcases List.mem_cons.mp rest with rfl | fraction
      · decide
      · have shape := Char.plain_of_isDigit (fractionDigits c fraction)
        exact ⟨shape.2.2.2.2.2.2, shape.2.2.2.2.1, shape.2.2.2.2.2.1, shape.2.2.1,
          shape.2.2.2.1⟩
  rw [parseDecimal_of_plain plain, text,
    parseMantissa_point wholeDigits Nat.toDigits_ne_nil fractionDigits fractionNonempty,
    Nat.ofDigitChars_ten_toDigits, fractionValue, fractionLength, roundTo, units]
  congr 1
  have split : (size : ℚ)
      = (10 ^ digits : ℕ) * ((size / 10 ^ digits : ℕ) : ℚ) + ((size % 10 ^ digits : ℕ) : ℚ) := by
    exact_mod_cast (Nat.div_add_mod size (10 ^ digits)).symm
  push_cast at split ⊢
  field_simp
  linarith

end RomaBridge.Foundation
