import Mathlib.Algebra.Order.Ring.Abs
import Mathlib.Data.List.Induction
import Mathlib.Data.List.Perm.Subperm
import Mathlib.Tactic.Linarith
import RomaBridge.Model.HostBench

/-! The benchmark is exact. A sum of some products of an entry is at most 64 times their number, so
arithmetic that is exact up to `2 ^ 24` adds them up exactly in any order: that of `float32`, and
that of the integers of numpy, which therefore leave the bytes of the pure Python path.
-/

namespace RomaBridge.Properties

open RomaBridge.Model.HostBench

variable {sha256 : String → Vector UInt8 32} {seed label : String} {inputs : List ℤ × List ℤ}
  {n i j : ℕ} {order : List ℕ}

/-- The values of binary floating point with 24 bits of precision and 8 of exponent. -/
def IsFloat32 (value : ℚ) : Prop :=
  ∃ m e : ℤ, |m| < 2 ^ 24 ∧ -149 ≤ e ∧ e ≤ 104 ∧ value = m * 2 ^ e

/-- A rounding to `float32`, in any direction. -/
structure Float32Rounding where
  round : ℚ → ℚ
  exact_ : ∀ value, IsFloat32 value → round value = value

/-- The sum that a device accumulates in `float32`, product by product. -/
def float32Sum (rounding : Float32Rounding) (inputs : List ℤ × List ℤ) (n i j : ℕ)
    (order : List ℕ) : ℚ :=
  order.foldl
    (fun sum k => rounding.round (sum + rounding.round (product inputs n i j k))) 0

def partialSum (inputs : List ℤ × List ℤ) (n i j : ℕ) (order : List ℕ) : ℤ :=
  (order.map (product inputs n i j)).sum

-- The inputs

theorem digestValues_bound (ctr : ℕ) : ∀ value ∈ digestValues sha256 seed label ctr,
    -8 ≤ value ∧ value ≤ 8 := by
  intro value member
  obtain ⟨b, -, rfl⟩ := List.mem_map.mp member
  simp only [valueRange]
  omega

/-- The loop ends with enough values, all of them in range. Induction along the loop. -/
theorem fill_spec (sha256 : String → Vector UInt8 32) (seed label : String) (count ctr : ℕ) (out : List ℤ) (bounded : ∀ value ∈ out, -8 ≤ value ∧ value ≤ 8)
    : count ≤ (fill sha256 seed label count ctr out).length
      ∧ ∀ value ∈ fill sha256 seed label count ctr out, -8 ≤ value ∧ value ≤ 8 := by
  induction ctr, out using fill.induct sha256 seed label count with
  | case1 ctr out short ih =>
      rw [fill, if_pos short]
      refine ih fun value member => ?_
      rcases List.mem_append.mp member with earlier | new
      · exact bounded value earlier
      · exact digestValues_bound ctr value new
  | case2 ctr out long =>
      rw [fill, if_neg long]
      exact ⟨not_lt.mp long, bounded⟩

theorem values_spec (sha256 : String → Vector UInt8 32) (seed label : String) (count : ℕ)
    : (values sha256 seed label count).length = count
      ∧ ∀ value ∈ values sha256 seed label count, -8 ≤ value ∧ value ≤ 8 := by
  obtain ⟨enough, bounded⟩ := fill_spec sha256 seed label count 0 [] (by simp)
  exact ⟨List.length_take_of_le enough, fun value member => bounded value (List.mem_of_mem_take member)⟩

-- Sums of products

def InRange (inputs : List ℤ × List ℤ) : Prop :=
  ∀ value ∈ inputs.1 ++ inputs.2, -8 ≤ value ∧ value ≤ 8

theorem product_bound (range : InRange inputs) (k : ℕ) : |product inputs n i j k| ≤ 64 := by
  have small : ∀ list : List ℤ, list ⊆ inputs.1 ++ inputs.2 → ∀ index, |list.getD index 0| ≤ 8 := by
    intro list inside index
    rw [List.getD_eq_getElem?_getD]
    cases found : list[index]? with
    | none => simp
    | some value => exact abs_le.mpr (range value (inside (List.mem_of_getElem? found)))
  rw [product, abs_mul]
  exact mul_le_mul (small _ (List.subset_append_left _ _) _) (small _ (List.subset_append_right _ _) _)
    (abs_nonneg _) (by norm_num)

theorem partialSum_le_length (range : InRange inputs) (order : List ℕ)
    : |partialSum inputs n i j order| ≤ 64 * order.length := by
  induction order with
  | nil => simp [partialSum]
  | cons k rest ih =>
      have first := product_bound (n := n) (i := i) (j := j) range k
      have both := abs_add_le (product inputs n i j k) (partialSum inputs n i j rest)
      simp only [partialSum, List.map_cons, List.sum_cons, List.length_cons] at ih both ⊢
      push_cast
      linarith

theorem partialSum_bound (range : InRange inputs) (bound : n ≤ maxExactN) (distinct : order.Nodup)
    (inside : ∀ k ∈ order, k < n)
    : |partialSum inputs n i j order| ≤ 2 ^ 24 := by
  have few : order.length ≤ n := by
    have within : order ⊆ List.range n := fun k member => List.mem_range.mpr (inside k member)
    have fewer := (distinct.subperm within).length_le
    rwa [List.length_range] at fewer
  have sum := partialSum_le_length (n := n) (i := i) (j := j) range order
  have most : order.length ≤ 2 ^ 18 := few.trans bound
  have : (order.length : ℤ) ≤ 2 ^ 18 := by exact_mod_cast most
  linarith

/-- Arithmetic that is exact up to `2 ^ 24` adds up products of an entry exactly. Induction on the
products, from the last one on.
-/
theorem accumulated_eq {R : Type} [Ring R] (round : R → R)
    (exact_ : ∀ value : ℤ, |value| ≤ 2 ^ 24 → round value = value) (range : InRange inputs)
    (bound : n ≤ maxExactN) (distinct : order.Nodup) (inside : ∀ k ∈ order, k < n)
    : order.foldl (fun sum k => round (sum + round (product inputs n i j k))) 0
      = (partialSum inputs n i j order : R) := by
  induction order using List.reverseRecOn with
  | nil => simp [partialSum]
  | append_singleton order k ih =>
      have earlier := ih (List.nodup_append.mp distinct).1
        (fun other member => inside other (List.mem_append_left _ member))
      have sum := partialSum_bound (i := i) (j := j) range bound distinct inside
      have small : |product inputs n i j k| ≤ 2 ^ 24 :=
        (product_bound range k).trans (by norm_num)
      have total : partialSum inputs n i j (order ++ [k])
          = partialSum inputs n i j order + product inputs n i j k := by simp [partialSum]
      rw [List.foldl_append, earlier, List.foldl_cons, List.foldl_nil, exact_ _ small,
        ← Int.cast_add, ← total, exact_ _ sum]

theorem isFloat32_of_le {value : ℤ} (small : |value| ≤ 2 ^ 24) : IsFloat32 value := by
  rcases lt_or_eq_of_le small with below | top
  · exact ⟨value, 0, below, by norm_num, by norm_num, by simp⟩
  · rcases eq_or_eq_neg_of_abs_eq top with rfl | rfl
    · exact ⟨1, 24, by norm_num, by norm_num, by norm_num, by norm_num⟩
    · exact ⟨-1, 24, by norm_num, by norm_num, by norm_num, by norm_num⟩

theorem wrapped_of_le {bits : ℕ} {value : ℤ} (wide : 32 ≤ bits) (small : |value| ≤ 2 ^ 24)
    : wrapped bits value = value := by
  have room : (2 : ℤ) ^ 32 ≤ 2 ^ bits := pow_le_pow_right₀ (by norm_num) wide
  rw [abs_le] at small
  refine Int.bmod_eq_of_le ?_ ?_ <;> push_cast <;> omega

-- The benchmark

theorem range_partialSum (range : InRange inputs) (bound : n ≤ maxExactN)
    : |partialSum inputs n i j (List.range n)| ≤ 2 ^ 24 :=
  partialSum_bound range bound List.nodup_range (fun _ => List.mem_range.mp)

theorem int64Entry_eq (range : InRange inputs) (bound : n ≤ maxExactN)
    : wrapped 32 (int64Entry inputs n i j) = partialSum inputs n i j (List.range n) := by
  have exact_ := accumulated_eq (R := ℤ) (i := i) (j := j) (wrapped 64)
    (fun value small => wrapped_of_le (by norm_num) small) range bound List.nodup_range
    (fun _ => List.mem_range.mp)
  simp only [Int.cast_id] at exact_
  rw [int64Entry, exact_, wrapped_of_le le_rfl (range_partialSum range bound)]

theorem benchmark_exact (sha256 : String → Vector UInt8 32) (seed : String) {n : ℕ}
    (bound : n ≤ maxExactN)
    : let inputs := makeInputs sha256 seed n
      (inputs.1.length = n * n ∧ inputs.2.length = n * n ∧ InRange inputs)
      ∧ (∀ (i j : ℕ) (order : List ℕ), order.Nodup → (∀ k ∈ order, k < n) →
          |partialSum inputs n i j order| ≤ 2 ^ 24
          ∧ (-2 ^ 31 ≤ partialSum inputs n i j order ∧ partialSum inputs n i j order < 2 ^ 31)
          ∧ ∀ rounding : Float32Rounding,
            float32Sum rounding inputs n i j order = partialSum inputs n i j order)
      ∧ (referenceBytes sha256 false seed n).isSome
      ∧ referenceBytes sha256 false seed n = referenceBytes sha256 true seed n := by
  intro inputs
  have left := values_spec sha256 seed "A" (n * n)
  have right := values_spec sha256 seed "B" (n * n)
  have range : InRange inputs := by
    intro value member
    rcases List.mem_append.mp member with first | second
    · exact left.2 value first
    · exact right.2 value second
  have python : pythonBytes inputs n = some (numpyBytes inputs n) := by
    have same : rowMajor n (fun i j => wrapped 32 (int64Entry inputs n i j))
        = rowMajor n (fun i j => partialSum inputs n i j (List.range n)) := by
      simp only [int64Entry_eq range bound]
    rw [numpyBytes, same]
    refine if_pos (List.all_eq_true.mpr ?_)
    intro value member
    simp only [rowMajor, List.mem_flatMap, List.mem_map] at member
    obtain ⟨i, -, j, -, rfl⟩ := member
    have small := abs_le.mp (range_partialSum (i := i) (j := j) range bound)
    simp only [partialSum] at small
    simp only [Bool.and_eq_true, decide_eq_true_eq]
    omega
  have bytes : referenceBytes sha256 false seed n = some (hashedBytes n (numpyBytes inputs n)) :=
    congrArg (Option.map (hashedBytes n)) python
  refine ⟨⟨left.1, right.1, range⟩, ?_, by rw [bytes]; rfl, bytes⟩
  intro i j order distinct inside
  have small := partialSum_bound (i := i) (j := j) range bound distinct inside
  refine ⟨small, ?_, fun rounding => ?_⟩
  · rw [abs_le] at small
    omega
  · exact accumulated_eq rounding.round
      (fun value small => rounding.exact_ value (isFloat32_of_le small)) range bound distinct inside

theorem benchmark_exact_ones
    : (referenceBytes (fun _ => Vector.replicate 32 1) true "seed" 2).map List.length = some 34
      ∧ referenceBytes (fun _ => Vector.replicate 32 1) false "seed" 2
        = referenceBytes (fun _ => Vector.replicate 32 1) true "seed" 2 :=
  ⟨by decide +kernel, (benchmark_exact _ "seed" (by decide)).2.2.2⟩

end RomaBridge.Properties
