import Mathlib.Data.Int.Notation
import Mathlib.Data.Nat.Notation

/-! `consistency/global_state_model.py`: records of the global state, and the choice between two of
them. A value is of any type.
-/

namespace RomaBridge.Model.GlobalState

inductive TruthSource where
  | kubernetes
  | redis
  | eventStore
  | stateSnapshot
  deriving DecidableEq, Repr

structure GlobalStateRecord (V : Type) where
  jobId : String
  field : String
  value : V
  source : TruthSource
  timestamp : String
  sequence : ℤ := 0
  version : ℤ := 0
  deriving DecidableEq, Repr

variable {V : Type}

def GlobalStateRecord.isStale (record other : GlobalStateRecord V) : Bool :=
  if record.sequence ≠ 0 ∧ other.sequence ≠ 0 then record.sequence < other.sequence
  else record.timestamp < other.timestamp

def sourceOrder : TruthSource → ℕ
  | .kubernetes => 0
  | .redis => 1
  | .eventStore => 2
  | .stateSnapshot => 3

def resolveConflict (recordA recordB : GlobalStateRecord V) : GlobalStateRecord V :=
  if sourceOrder recordA.source < sourceOrder recordB.source then recordA else recordB

end RomaBridge.Model.GlobalState
