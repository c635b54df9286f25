import Mathlib.Algebra.Order.Field.Rat
import Mathlib.Data.Finset.Card
import RomaBridge.Foundation.Table
import RomaBridge.Foundation.Trace

/-! `ha/split_brain_protection.py`: one instance, fed by heartbeats at the times of its clock.
-/

namespace RomaBridge.Model.SplitBrain

open RomaBridge.Foundation

/-- An entry of `node_status` with its key. A date is in seconds. -/
structure NodeStatus where
  nodeId : String
  lastSeen : ℚ
  alive : Bool
  deriving DecidableEq, Repr

structure SplitBrainProtection where
  majority : ℕ
  nodeStatus : Table String NodeStatus NodeStatus.nodeId
  activeNodes : Finset String

def SplitBrainProtection.init (clusterNodes : ℕ) : SplitBrainProtection :=
  { majority := clusterNodes / 2 + 1, nodeStatus := .empty, activeNodes := ∅ }

namespace SplitBrainProtection

def isMajority (protection : SplitBrainProtection) : Bool :=
  protection.majority ≤ protection.activeNodes.card

/-- `can_write`. It asks no clock. -/
def canWrite (protection : SplitBrainProtection) : Bool := protection.isMajority

/-- `s["alive"] and now - s["last_seen"] < 15`. -/
def counts (now : ℚ) (status : NodeStatus) : Bool := status.alive && now - status.lastSeen < 15

/-- `register_heartbeat` at a time. Any string is an id. -/
def registerHeartbeat (protection : SplitBrainProtection) (nodeId : String) (now : ℚ)
    : Bool × SplitBrainProtection :=
  let nodeStatus := protection.nodeStatus.put ⟨nodeId, now, true⟩
  let next := { protection with
    nodeStatus := nodeStatus
    activeNodes := ((nodeStatus.rows.filter (counts now)).map NodeStatus.nodeId).toFinset }
  (next.isMajority, next)

end SplitBrainProtection

/-- A heartbeat and when it arrives. -/
structure Beat where
  nodeId : String
  time : ℚ
  deriving DecidableEq

def beatStep (protection : SplitBrainProtection) (beat : Beat) : Bool × SplitBrainProtection :=
  protection.registerHeartbeat beat.nodeId beat.time

/-- A new instance for a cluster of a size, after some heartbeats. -/
def afterBeats (clusterNodes : ℕ) (beats : List Beat) : SplitBrainProtection :=
  finalState beatStep (.init clusterNodes) beats

end RomaBridge.Model.SplitBrain
