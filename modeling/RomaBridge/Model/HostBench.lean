import Mathlib.Algebra.Order.Ring.Int

/-! `gpu_worker/host_bench.py`: the inputs of the benchmark, and the bytes that ROMA hashes as its
reference result, with numpy and without. SHA-256 is a parameter.
-/

namespace RomaBridge.Model.HostBench

def valueRange : ℤ := 8

def maxExactN : ℕ := 2 ^ 18

section Inputs

variable (sha256 : String → Vector UInt8 32) (seed label : String)

/-- The values that `_values` makes of one digest. -/
def digestValues (ctr : ℕ) : List ℤ :=
  (sha256 (seed ++ "|" ++ label ++ "|" ++ toString ctr)).toList.map
    (fun b => (b.toNat : ℤ) % (2 * valueRange + 1) - valueRange)

/-- The loop of `_values`. -/
def fill (count ctr : ℕ) (out : List ℤ) : List ℤ :=
  if out.length < count then fill count (ctr + 1) (out ++ digestValues sha256 seed label ctr)
  else out
termination_by count - out.length
decreasing_by
  rw [List.length_append, digestValues, List.length_map, Vector.length_toList]
  omega

def values (count : ℕ) : List ℤ := (fill sha256 seed label count 0 []).take count

def makeInputs (n : ℕ) : List ℤ × List ℤ :=
  (values sha256 seed "A" (n * n), values sha256 seed "B" (n * n))

end Inputs

def product (inputs : List ℤ × List ℤ) (n i j k : ℕ) : ℤ :=
  inputs.1.getD (i * n + k) 0 * inputs.2.getD (k * n + j) 0

def rowMajor (n : ℕ) (entry : ℕ → ℕ → ℤ) : List ℤ :=
  (List.range n).flatMap (fun i => (List.range n).map (entry i))

/-- Four bytes of a value, the lowest first. -/
def littleEndian (value : ℤ) : List UInt8 :=
  [0, 8, 16, 24].map (fun shift => UInt8.ofNat ((value % 2 ^ 32).toNat >>> shift))

/-- `struct.pack` of values as signed integers of 32 bits, or a `struct.error`. -/
def structPack (flat : List ℤ) : Option (List UInt8) :=
  if flat.all (fun value => -2 ^ 31 ≤ value && value < 2 ^ 31) then some (flat.flatMap littleEndian)
  else none

/-- An integer of numpy, with some bits. -/
def wrapped (bits : ℕ) (value : ℤ) : ℤ := value.bmod (2 ^ bits)

/-- An entry of `A @ B` on `np.int64`. -/
def int64Entry (inputs : List ℤ × List ℤ) (n i j : ℕ) : ℤ :=
  (List.range n).foldl
    (fun sum k => wrapped 64 (sum + wrapped 64 (product inputs n i j k))) 0

/-- `(A @ B).astype("<i4").tobytes()`. -/
def numpyBytes (inputs : List ℤ × List ℤ) (n : ℕ) : List UInt8 :=
  (rowMajor n (fun i j => wrapped 32 (int64Entry inputs n i j))).flatMap littleEndian

def pythonBytes (inputs : List ℤ × List ℤ) (n : ℕ) : Option (List UInt8) :=
  structPack (rowMajor n (fun i j => ((List.range n).map (product inputs n i j)).sum))

/-- What `_hash_result` hashes. -/
def hashedBytes (n : ℕ) (flatInt32 : List UInt8) : List UInt8 :=
  "roma-bench-v1|".toList.map (fun c => UInt8.ofNat c.toNat) ++ littleEndian n ++ flatInt32

/-- The bytes that `reference_hash` hashes, by whether numpy is installed. -/
def referenceBytes (sha256 : String → Vector UInt8 32) (numpy : Bool) (seed : String) (n : ℕ)
    : Option (List UInt8) :=
  let inputs := makeInputs sha256 seed n
  if numpy then some (hashedBytes n (numpyBytes inputs n))
  else (pythonBytes inputs n).map (hashedBytes n)

end RomaBridge.Model.HostBench
