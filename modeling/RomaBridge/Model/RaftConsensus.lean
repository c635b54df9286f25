import RomaBridge.Foundation.Quorum
import RomaBridge.Foundation.Table
import RomaBridge.Foundation.Trace

/-! `ha/raft_consensus.py`: `start_election` of the nodes and `elect_leader` of their cluster, as
threads. A vote request asks nobody: its answer is a random number, told from outside here.
-/

namespace RomaBridge.Model.RaftConsensus

open RomaBridge.Foundation

inductive Role where
  | follower
  | candidate
  | leader
  deriving DecidableEq, Repr

/-- `NodeState`, as far as elections see it. -/
structure NodeState where
  role : Role := .follower
  term : ℕ := 0
  votedFor : Option String := none

/-- `ROMARaftCluster`: its ids, which all its nodes share. -/
structure ROMARaftCluster where
  clusterIds : List String
  distinct : clusterIds.Nodup
  nonempty : clusterIds ≠ []

/-- `needed = (len(self.cluster_nodes) // 2) + 1`. -/
def ROMARaftCluster.needed (cluster : ROMARaftCluster) : ℕ := cluster.clusterIds.length / 2 + 1

/-- How far a call of `start_election` is. -/
inductive ElectionPhase where
  /-- Before the lock. -/
  | called
  /-- A candidate; `term = self.state.term`, outside the lock, comes next. -/
  | begun
  /-- In the loop, with the votes it has and the nodes it has not asked. -/
  | asking (term : ℕ) (votes : Finset String) (rest : List String)
  /-- It has the votes it needs; `_become_leader` comes next. -/
  | elected (term : ℕ) (votes : Finset String)
  /-- After `_become_leader`. -/
  | leading (term : ℕ) (votes : Finset String)
  | returned (votes : Finset String) (won : Bool)

/-- A call of `start_election`. -/
structure Election where
  node : String
  phase : ElectionPhase

/-- How far a call of `elect_leader` is: nodes to start, or nodes to look at. -/
inductive Electing where
  | starting (rest : List String)
  | looking (rest : List String)

/-- The cluster and all calls. `votes` records every vote that was granted; the code keeps no such
record.
-/
structure World where
  nodes : String → NodeState := fun _ => {}
  elections : List Election := []
  electing : Option Electing := none
  leaderId : Option String := none
  votes : List (Vote String ℕ) := []

/-- One scheduling decision. `granted` is the answer of the vote request that an election makes next,
where it makes one.
-/
inductive Action where
  | startElection (node : String)
  | electLeader
  | step (index : ℕ) (granted : Bool)
  | electStep

variable (cluster : ROMARaftCluster)

/-- `with self._lock` of `start_election`. -/
def begin_ (world : World) (node : String) : World :=
  let state := world.nodes node
  { world with
    nodes := Function.update world.nodes node
      { role := .candidate, term := state.term + 1, votedFor := some node }
    votes := ⟨node, state.term + 1, node⟩ :: world.votes }

def becomeLeader (world : World) (node : String) : World :=
  { world with
    nodes := Function.update world.nodes node { world.nodes node with role := .leader } }

/-- One step of `start_election`: the world without the call's new phase, and that phase. -/
def electionStep (world : World) (node : String) (granted : Bool)
    : ElectionPhase → World × ElectionPhase
  | .called => (begin_ world node, .begun)
  | .begun => (world, .asking (world.nodes node).term {node} cluster.clusterIds)
  | .asking _ votes [] => (world, .returned votes false)
  | .asking term votes (peer :: rest) =>
      if peer = node then
        (world, .asking term votes rest)
      else if granted then
        let more := insert peer votes
        ({ world with votes := ⟨peer, term, node⟩ :: world.votes },
          if cluster.needed ≤ more.card then .elected term more else .asking term more rest)
      else
        (world, .asking term votes rest)
  | .elected term votes => (becomeLeader world node, .leading term votes)
  | .leading _ votes => (world, .returned votes true)
  | .returned votes won => (world, .returned votes won)

/-- One step of `elect_leader`, under the lock of the cluster. -/
def electStep (world : World) : Electing → World
  | .starting (node :: rest) =>
      { world with
        elections := world.elections ++ [⟨node, .called⟩]
        electing := some (.starting rest) }
  -- `time.sleep(0.1)` lasts as long as it lasts
  | .starting [] => { world with electing := some (.looking cluster.clusterIds) }
  | .looking (node :: rest) =>
      if (world.nodes node).role = .leader then
        { world with leaderId := some node, electing := none }
      else
        { world with electing := some (.looking rest) }
  | .looking [] => { world with electing := none }

def step (world : World) : Action → Unit × World
  | .startElection node =>
      if node ∈ cluster.clusterIds then
        ((), { world with elections := world.elections ++ [⟨node, .called⟩] })
      else
        ((), world)
  | .electLeader =>
      -- the lock of the cluster admits one call
      match world.electing with
      | none => ((), { world with electing := some (.starting cluster.clusterIds) })
      | some _ => ((), world)
  | .step index granted =>
      match world.elections[index]? with
      | none => ((), world)
      | some election =>
          let (next, phase) := electionStep cluster world election.node granted election.phase
          ((), { next with elections := next.elections.set index { election with phase } })
  | .electStep =>
      match world.electing with
      | none => ((), world)
      | some electing => ((), electStep cluster world electing)

end RomaBridge.Model.RaftConsensus

/-! `ha/raft_consensus.py`: the log of one `ROMARaftNode`, one call after another. The answers of the
simulated requests are told from outside.
-/

namespace RomaBridge.Model.RaftLog

open RomaBridge.Foundation RomaBridge.Model.RaftConsensus

structure LogEntry (κ : Type) where
  index : ℕ
  term : ℕ
  command : κ
  committed : Bool := false
  deriving DecidableEq

/-- `ROMARaftNode` with its `NodeState`. The ids of a cluster are distinct, and stay so. -/
structure ROMARaftNode (κ : Type) where
  nodeId : String
  clusterNodes : List String
  distinct : clusterNodes.Nodup
  role : Role := .follower
  term : ℕ := 0
  votedFor : Option String := none
  log : List (LogEntry κ) := []
  commitIndex : ℕ := 0
  lastApplied : ℤ := 0
  nextIndex : String → Option ℕ
  matchIndex : String → Option ℕ

namespace ROMARaftNode

variable {κ : Type}

def init (nodeId : String) (clusterNodes : List String) (distinct : clusterNodes.Nodup)
    : ROMARaftNode κ :=
  { nodeId, clusterNodes, distinct
    nextIndex := fun peer => if peer ∈ clusterNodes then some 1 else none
    matchIndex := fun peer => if peer ∈ clusterNodes then some 0 else none }

def needed (node : ROMARaftNode κ) : ℕ := node.clusterNodes.length / 2 + 1

def becomeLeader (node : ROMARaftNode κ) : ROMARaftNode κ :=
  { node with
    role := .leader
    nextIndex := fun peer =>
      if peer ∈ node.clusterNodes then some (node.log.length + 1) else node.nextIndex peer
    matchIndex := fun peer => if peer ∈ node.clusterNodes then some 0 else node.matchIndex peer }

/-- The loop of `start_election` over the nodes: whether it gets the votes it needs. -/
def canvass (node : ROMARaftNode κ) (grants : String → Bool) : List String → Finset String → Bool
  | [], _ => false
  | peer :: rest, votes =>
      if peer = node.nodeId then
        canvass node grants rest votes
      else if grants peer then
        if node.needed ≤ (insert peer votes).card then true
        else canvass node grants rest (insert peer votes)
      else
        canvass node grants rest votes

def startElection (node : ROMARaftNode κ) (grants : String → Bool) : Bool × ROMARaftNode κ :=
  let candidate := { node with
    role := .candidate, term := node.term + 1, votedFor := some node.nodeId }
  if canvass candidate grants node.clusterNodes {node.nodeId} then
    (true, candidate.becomeLeader)
  else
    (false, candidate)

/-- `_send_append_entries`; `none` is a `KeyError`. -/
def sendAppendEntries (node : ROMARaftNode κ) (peer : String) (lastEntryIndex : ℕ)
    (acknowledged : Bool)
    : Option Bool × ROMARaftNode κ :=
  match node.nextIndex peer with
  | none => (none, node)
  | some next =>
      if node.log.length < next then
        (some false, node)
      else
        (some acknowledged,
          { node with matchIndex := Function.update node.matchIndex peer (some lastEntryIndex) })

/-- The loop of `_replicate_and_commit` over the peers. -/
def replicate (entryIndex : ℕ) (acknowledges : String → Bool)
    : ROMARaftNode κ → List String → Finset String → Option (Finset String) × ROMARaftNode κ
  | node, [], replicated => (some replicated, node)
  | node, peer :: rest, replicated =>
      if peer = node.nodeId then
        replicate entryIndex acknowledges node rest replicated
      else
        match node.sendAppendEntries peer entryIndex (acknowledges peer) with
        | (none, sent) => (none, sent)
        | (some true, sent) => replicate entryIndex acknowledges sent rest (insert peer replicated)
        | (some false, sent) => replicate entryIndex acknowledges sent rest replicated

/-- `e.committed = True`. -/
def commitUpTo (entryIndex : ℕ) (entry : LogEntry κ) : LogEntry κ :=
  if entry.index ≤ entryIndex then { entry with committed := true } else entry

/-- `_replicate_and_commit`. Nobody sets `on_apply`. -/
def replicateAndCommit (node : ROMARaftNode κ) (entryIndex : ℕ) (acknowledges : String → Bool)
    : Option Bool × ROMARaftNode κ :=
  if node.role = .leader then
    match replicate entryIndex acknowledges node node.clusterNodes {node.nodeId} with
    | (none, sent) => (none, sent)
    | (some replicated, sent) =>
        if node.needed ≤ replicated.card then
          (some true,
            { sent with log := sent.log.map (commitUpTo entryIndex), commitIndex := entryIndex })
        else
          (some false, sent)
  else
    (some false, node)

/-- The entry that `append_entry` makes. -/
def newEntry (node : ROMARaftNode κ) (command : κ) : LogEntry κ :=
  { index := node.log.length + 1, term := node.term, command }

def appendEntry (node : ROMARaftNode κ) (command : κ) (acknowledges : String → Bool)
    : Option Bool × ROMARaftNode κ :=
  replicateAndCommit { node with log := node.log ++ [node.newEntry command] }
    (node.newEntry command).index acknowledges

def addNode (node : ROMARaftNode κ) (nodeId : String) : Bool × ROMARaftNode κ :=
  if node.role = .leader then
    if absent : nodeId ∉ node.clusterNodes then
      (true,
        { node with
          clusterNodes := node.clusterNodes ++ [nodeId]
          distinct := List.nodup_append.mpr
            ⟨node.distinct, List.nodup_singleton nodeId, fun _ member _ single same =>
              absent (List.mem_singleton.mp single ▸ same ▸ member)⟩
          nextIndex := Function.update node.nextIndex nodeId (some 1)
          matchIndex := Function.update node.matchIndex nodeId (some 0) })
    else
      (false, node)
  else
    (false, node)

/-- `remove_node`; `none` is a `KeyError` of a `del`. -/
def removeNode (node : ROMARaftNode κ) (nodeId : String) : Option Bool × ROMARaftNode κ :=
  if node.role = .leader ∧ nodeId ≠ node.nodeId ∧ nodeId ∈ node.clusterNodes then
    let removed := { node with
      clusterNodes := node.clusterNodes.erase nodeId
      distinct := node.distinct.erase nodeId }
    match removed.nextIndex nodeId with
    | none => (none, removed)
    | some _ =>
        let forgotten := { removed with nextIndex := Function.update removed.nextIndex nodeId none }
        match forgotten.matchIndex nodeId with
        | none => (none, forgotten)
        | some _ =>
            (some true,
              { forgotten with matchIndex := Function.update forgotten.matchIndex nodeId none })
  else
    (some false, node)

def snapshot (node : ROMARaftNode κ) (lastIncludedIndex : ℤ) : Bool × ROMARaftNode κ :=
  if lastIncludedIndex ≤ node.commitIndex then
    (true,
      { node with
        log := node.log.filter (fun entry => lastIncludedIndex ≤ entry.index)
        lastApplied := lastIncludedIndex })
  else
    (false, node)

end ROMARaftNode

/-- A call of a node, with the answers its requests get. -/
inductive RaftCall (κ : Type) where
  | appendEntry (command : κ) (acknowledges : String → Bool)
  | snapshot (lastIncludedIndex : ℤ)
  | startElection (grants : String → Bool)
  | addNode (nodeId : String)
  | removeNode (nodeId : String)

/-- A node with what became of it: the entries it ever appended, as they were then, and those that were
ever committed in its log. The code keeps no such record.
-/
structure RaftHistory (κ : Type) where
  node : ROMARaftNode κ
  appended : List (LogEntry κ) := []
  committed : List (LogEntry κ) := []

def nodeStep {κ : Type} (node : ROMARaftNode κ) : RaftCall κ → Option Bool × ROMARaftNode κ
  | .appendEntry command acknowledges => node.appendEntry command acknowledges
  | .snapshot lastIncludedIndex =>
      let (taken, next) := node.snapshot lastIncludedIndex
      (some taken, next)
  | .startElection grants =>
      let (won, next) := node.startElection grants
      (some won, next)
  | .addNode nodeId =>
      let (added, next) := node.addNode nodeId
      (some added, next)
  | .removeNode nodeId => node.removeNode nodeId

def entryOf {κ : Type} (node : ROMARaftNode κ) : RaftCall κ → List (LogEntry κ)
  | .appendEntry command _ => [node.newEntry command]
  | _ => []

def RaftHistory.step {κ : Type} (history : RaftHistory κ) (call : RaftCall κ)
    : Option Bool × RaftHistory κ :=
  let (reply, node) := nodeStep history.node call
  (reply,
    { node
      appended := history.appended ++ entryOf history.node call
      committed := history.committed ++ node.log.filter LogEntry.committed })

end RomaBridge.Model.RaftLog
