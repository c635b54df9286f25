import RomaBridge.Model.RaftConsensus
import RomaBridge.Model.SplitBrain

/-! Elections of a raft cluster whose votes are not shared, the log of one node, and the write quorum. A
vote request leaves no trace at the node that is asked, so that one node may vote for two candidates.
An index is the length of the log, which a snapshot makes shorter. An instance counts the ids of its
last heartbeat, whoever sent theirs and however long ago that was.
-/

namespace RomaBridge.Properties

open RomaBridge.Foundation RomaBridge.Model.RaftConsensus RomaBridge.Model.RaftLog

variable {cluster : ROMARaftCluster} {world next : World}
variable {node : String} {phase : ElectionPhase}

/-- At most one node leads in any one term, over a whole run. -/
def OneLeaderPerTerm (states : List World) : Prop :=
  ∀ first ∈ states, ∀ second ∈ states, ∀ node other,
    (first.nodes node).role = .leader → (second.nodes other).role = .leader →
    (first.nodes node).term = (second.nodes other).term → node = other

def MajorityLeads (cluster : ROMARaftCluster) (visit : Visit World Action Unit) : Prop :=
  ∀ (index : ℕ) (election : Election) (votes : Finset String) won, visit.before.elections[index]? = some election →
    (∀ votes won, election.phase ≠ .returned votes won) →
    visit.after.elections[index]? = some ⟨election.node, .returned votes won⟩ →
    cluster.clusterIds.length < 2 * votes.card →
    (visit.after.nodes election.node).role = .leader

/-- Election safety of a run from the new cluster. -/
structure ElectionSafe (cluster : ROMARaftCluster) (actions : List Action) : Prop where
  oneLeader : OneLeaderPerTerm ((visits (step cluster) {} actions).map Visit.after)
  majority : ∀ visit ∈ visits (step cluster) {} actions, MajorityLeads cluster visit

def VotesFor (world : World) (voter : String) (term : ℕ) (candidate : String) : Prop :=
  ∀ vote ∈ world.votes, vote.voter = voter → vote.term = term → vote.candidate = candidate

/-- What an election may do next. It makes its node a candidate where the node has not voted for
another one in the new term, and no other election of the node has just made it leader; it is granted
the vote of a node that has not voted for another candidate in the term; it makes its node leader in
the term it asked for; and it does not come to its end without asking anybody.
-/
def PhaseAllowed (cluster : ROMARaftCluster) (world : World) (node : String) (granted : Bool)
    : ElectionPhase → Prop
  | .called =>
      VotesFor world node ((world.nodes node).term + 1) node
      ∧ ∀ other ∈ world.elections, other.node = node →
        ∀ term votes, other.phase ≠ .leading term votes
  | .asking term _ (peer :: _) => granted → peer ≠ node → VotesFor world peer term node
  | .asking _ _ [] => 2 ≤ cluster.clusterIds.length
  | .elected term _ => (world.nodes node).term = term
  | _ => True

def Allowed (cluster : ROMARaftCluster) (world : World) : Action → Prop
  | .step index granted =>
      ∀ election, world.elections[index]? = some election →
        PhaseAllowed cluster world election.node granted election.phase
  | _ => True

-- The invariant

/-- The votes of an election are votes of members that were granted. -/
structure VotesSound (cluster : ROMARaftCluster) (world : World) (node : String) (term : ℕ)
    (votes : Finset String) : Prop where
  members : votes ⊆ cluster.clusterIds.toFinset
  granted : ∀ voter ∈ votes, ⟨voter, term, node⟩ ∈ world.votes

def PhaseSound (cluster : ROMARaftCluster) (world : World) (node : String)
    : ElectionPhase → Prop
  | .called => True
  | .begun => 1 ≤ (world.nodes node).term
  | .asking term votes rest =>
      VotesSound cluster world node term votes
      ∧ (∀ peer ∈ rest, peer ∈ cluster.clusterIds)
      ∧ (2 ≤ cluster.clusterIds.length → votes.card < cluster.needed)
  | .elected term votes =>
      VotesSound cluster world node term votes ∧ cluster.needed ≤ votes.card
  | .leading _ _ => (world.nodes node).role = .leader
  | .returned _ _ => True

/-- Votes are single, every node voted for itself in each of its terms, and a leader has a majority.
-/
structure ElectionInv (cluster : ROMARaftCluster) (world : World) : Prop where
  single : SingleVotes world.votes
  own : ∀ node term, 1 ≤ term → term ≤ (world.nodes node).term → ⟨node, term, node⟩ ∈ world.votes
  leads : ∀ node, (world.nodes node).role = .leader →
    Wins cluster.clusterIds.toFinset world.votes (world.nodes node).term node
  elections : ∀ election ∈ world.elections,
    election.node ∈ cluster.clusterIds ∧ PhaseSound cluster world election.node election.phase
  electing : ∀ rest, world.electing = some (.starting rest) →
    ∀ node ∈ rest, node ∈ cluster.clusterIds

theorem electionInv_new : ElectionInv cluster {} where
  single := by simp [SingleVotes]
  own := by
    intro node term first last
    exact absurd (first.trans last) (by simp)
  leads := by
    intro node leads
    cases leads
  elections := by simp
  electing := by simp

theorem PhaseSound.mono (sound : PhaseSound cluster world node phase)
    (votes : world.votes ⊆ next.votes) (terms : (world.nodes node).term ≤ (next.nodes node).term)
    (roles : (∃ term votes, phase = .leading term votes) → (world.nodes node).role = .leader →
      (next.nodes node).role = .leader)
    : PhaseSound cluster next node phase := by
  cases phase with
  | called => trivial
  | begun => exact Nat.le_trans sound terms
  | asking term granted rest =>
      obtain ⟨⟨members, voted⟩, peers, few⟩ := sound
      exact ⟨⟨members, fun voter member => votes (voted voter member)⟩, peers, few⟩
  | elected term granted =>
      obtain ⟨⟨members, voted⟩, enough⟩ := sound
      exact ⟨⟨members, fun voter member => votes (voted voter member)⟩, enough⟩
  | leading term granted => exact roles ⟨_, _, rfl⟩ sound
  | returned granted won => trivial

theorem VotesSound.wins {term : ℕ} {votes : Finset String}
    (sound : VotesSound cluster world node term votes) (enough : cluster.needed ≤ votes.card)
    : Wins cluster.clusterIds.toFinset world.votes term node := by
  refine ⟨votes, sound.members, ?_, sound.granted⟩
  rw [List.toFinset_card_of_nodup cluster.distinct]
  unfold ROMARaftCluster.needed at enough
  omega

/-- What a step of an election keeps of the rest: the invariant without the calls, and what holds of
the other calls.
-/
structure StepKeeps (cluster : ROMARaftCluster) (world next : World) : Prop where
  single : SingleVotes next.votes
  own : ∀ node term, 1 ≤ term → term ≤ (next.nodes node).term → ⟨node, term, node⟩ ∈ next.votes
  leads : ∀ node, (next.nodes node).role = .leader →
    Wins cluster.clusterIds.toFinset next.votes (next.nodes node).term node
  others : ∀ election ∈ world.elections,
    PhaseSound cluster next election.node election.phase
  electing : next.electing = world.electing

theorem ElectionInv.same (inv : ElectionInv cluster world) : StepKeeps cluster world world :=
  ⟨inv.single, inv.own, inv.leads, fun election member => (inv.elections election member).2, rfl⟩

/-- A new candidate: its term is new, and so is its vote for itself. -/
theorem ElectionInv.begins (inv : ElectionInv cluster world)
    (free : VotesFor world node ((world.nodes node).term + 1) node)
    (unled : ∀ other ∈ world.elections, other.node = node →
      ∀ term votes, other.phase ≠ .leading term votes)
    : StepKeeps cluster world (begin_ world node) := by
  have grown : world.votes ⊆ (begin_ world node).votes := List.subset_cons_self _ _
  refine ⟨inv.single.vote free, ?_, ?_, ?_, rfl⟩
  · intro voter term first last
    by_cases moved : voter = node
    · subst moved
      simp only [begin_, Function.update_self] at last
      rcases Nat.lt_or_ge (world.nodes voter).term term with new | old
      · have last : term = (world.nodes voter).term + 1 := by omega
        subst last
        exact List.mem_cons_self
      · exact grown (inv.own voter term first old)
    · simp only [begin_, Function.update_of_ne moved] at last
      exact grown (inv.own voter term first last)
  · intro leader leads
    by_cases moved : leader = node
    · subst moved
      simp [begin_] at leads
    · simp only [begin_, Function.update_of_ne moved] at leads ⊢
      exact (inv.leads leader leads).mono grown
  · intro election member
    refine (inv.elections election member).2.mono grown ?_ ?_
    · by_cases moved : election.node = node
      · simp [begin_, moved]
      · simp [begin_, Function.update_of_ne moved]
    · rintro ⟨term, votes, leading⟩ leads
      by_cases moved : election.node = node
      · exact absurd leading (unled election member moved term votes)
      · simpa [begin_, Function.update_of_ne moved] using leads

theorem ElectionInv.grants (inv : ElectionInv cluster world) {peer : String} {term : ℕ}
    (free : VotesFor world peer term node)
    : StepKeeps cluster world { world with votes := ⟨peer, term, node⟩ :: world.votes } := by
  have grown : world.votes ⊆ ⟨peer, term, node⟩ :: world.votes := List.subset_cons_self _ _
  refine ⟨inv.single.vote free, ?_, ?_, ?_, rfl⟩
  · exact fun voter term first last => grown (inv.own voter term first last)
  · exact fun leader leads => (inv.leads leader leads).mono grown
  · intro election member
    exact (inv.elections election member).2.mono grown (Nat.le_refl _) (fun _ leads => leads)

theorem ElectionInv.leader (inv : ElectionInv cluster world)
    (wins : Wins cluster.clusterIds.toFinset world.votes (world.nodes node).term node)
    : StepKeeps cluster world (becomeLeader world node) := by
  have terms : ∀ other, ((becomeLeader world node).nodes other).term = (world.nodes other).term := by
    intro other
    by_cases moved : other = node
    · subst moved
      simp [becomeLeader]
    · simp [becomeLeader, Function.update_of_ne moved]
  refine ⟨inv.single, ?_, ?_, ?_, rfl⟩
  · intro voter term first last
    rw [terms] at last
    exact inv.own voter term first last
  · intro leader leads
    rw [terms]
    by_cases moved : leader = node
    · subst moved
      exact wins
    · simp only [becomeLeader, Function.update_of_ne moved] at leads
      exact inv.leads leader leads
  · intro election member
    refine (inv.elections election member).2.mono (List.Subset.refl _) (terms _).ge ?_
    intro _ leads
    by_cases moved : election.node = node
    · simp [becomeLeader, moved]
    · simpa [becomeLeader, Function.update_of_ne moved] using leads

theorem VotesSound.grant {peer : String} {term : ℕ} {votes : Finset String}
    (sound : VotesSound cluster world node term votes) (member : peer ∈ cluster.clusterIds)
    : VotesSound cluster { world with votes := ⟨peer, term, node⟩ :: world.votes } node term
        (insert peer votes) := by
  constructor
  · exact Finset.insert_subset (List.mem_toFinset.mpr member) sound.members
  · intro voter there
    rcases Finset.mem_insert.mp there with rfl | old
    · exact List.mem_cons_self
    · exact List.mem_cons_of_mem _ (sound.granted voter old)

theorem ElectionInv.advances (inv : ElectionInv cluster world) {granted : Bool}
    (member : node ∈ cluster.clusterIds) (sound : PhaseSound cluster world node phase)
    (allowed : PhaseAllowed cluster world node granted phase)
    : StepKeeps cluster world (electionStep cluster world node granted phase).1
      ∧ PhaseSound cluster (electionStep cluster world node granted phase).1 node
          (electionStep cluster world node granted phase).2 := by
  cases phase with
  | called =>
      refine ⟨inv.begins allowed.1 allowed.2, ?_⟩
      simp [electionStep, PhaseSound, begin_]
  | begun =>
      refine ⟨inv.same, ⟨?_, ?_⟩, fun peer there => there, ?_⟩
      · simpa using member
      · intro voter self
        rw [Finset.mem_singleton.mp self]
        exact inv.own node _ sound (Nat.le_refl _)
      · intro several
        unfold ROMARaftCluster.needed
        rw [Finset.card_singleton]
        omega
  | asking term votes rest =>
      obtain ⟨votesSound, peers, few⟩ := sound
      cases rest with
      | nil => exact ⟨inv.same, trivial⟩
      | cons peer rest =>
          obtain ⟨peerMember, peers⟩ := List.forall_mem_cons.mp peers
          have skips : StepKeeps cluster world world
              ∧ PhaseSound cluster world node (.asking term votes rest) :=
            ⟨inv.same, votesSound, peers, few⟩
          simp only [electionStep]
          by_cases self : peer = node
          · rw [if_pos self]
            exact skips
          · rw [if_neg self]
            cases granted with
            | false => exact skips
            | true =>
                have free : VotesFor world peer term node := allowed rfl self
                have sound := votesSound.grant peerMember
                refine ⟨inv.grants free, ?_⟩
                simp only [if_true]
                split
                · rename_i enough
                  exact ⟨sound, enough⟩
                · rename_i few
                  exact ⟨sound, peers, fun _ => not_le.mp few⟩
  | elected term votes =>
      obtain ⟨votesSound, enough⟩ := sound
      have wins := votesSound.wins enough
      rw [← (allowed : (world.nodes node).term = term)] at wins
      refine ⟨inv.leader wins, ?_⟩
      simp [electionStep, PhaseSound, becomeLeader]
  | leading term votes => exact ⟨inv.same, trivial⟩
  | returned votes won => exact ⟨inv.same, trivial⟩

-- Steps

theorem ElectionInv.call (inv : ElectionInv cluster world) (member : node ∈ cluster.clusterIds)
    {electing : Option Electing}
    (starting : ∀ rest, electing = some (.starting rest) → ∀ node ∈ rest,
      node ∈ cluster.clusterIds)
    : ElectionInv cluster
        { world with elections := world.elections ++ [⟨node, .called⟩], electing } where
  single := inv.single
  own := inv.own
  leads := inv.leads
  elections := by
    intro election there
    rcases List.mem_append.mp there with old | new
    · obtain ⟨within, sound⟩ := inv.elections election old
      exact ⟨within, sound.mono (List.Subset.refl _) (Nat.le_refl _) (fun _ leads => leads)⟩
    · rw [List.mem_singleton.mp new]
      exact ⟨member, trivial⟩
  electing := starting

theorem ElectionInv.notes (inv : ElectionInv cluster world) {electing : Option Electing}
    {leaderId : Option String}
    (starting : ∀ rest, electing = some (.starting rest) → ∀ node ∈ rest,
      node ∈ cluster.clusterIds)
    : ElectionInv cluster { world with electing, leaderId } where
  single := inv.single
  own := inv.own
  leads := inv.leads
  elections := by
    intro election there
    obtain ⟨within, sound⟩ := inv.elections election there
    exact ⟨within, sound.mono (List.Subset.refl _) (Nat.le_refl _) (fun _ leads => leads)⟩
  electing := starting

/-- A step of `elect_leader` keeps the invariant. -/
theorem ElectionInv.elects (inv : ElectionInv cluster world) {electing : Electing}
    (found : world.electing = some electing)
    : ElectionInv cluster (electStep cluster world electing) := by
  cases electing with
  | starting rest =>
      have peers := inv.electing rest found
      cases rest with
      | nil => exact inv.notes (by simp)
      | cons node rest =>
          obtain ⟨member, later⟩ := List.forall_mem_cons.mp peers
          refine inv.call member ?_
          intro others same
          cases same
          exact later
  | looking rest =>
      cases rest with
      | nil => exact inv.notes (by simp)
      | cons node rest =>
          simp only [electStep]
          split
          · exact inv.notes (by simp)
          · exact inv.notes (by simp)

theorem electionStep_frame (world : World) (node : String) (granted : Bool)
    (phase : ElectionPhase)
    : (electionStep cluster world node granted phase).1.elections = world.elections
      ∧ world.votes ⊆ (electionStep cluster world node granted phase).1.votes := by
  unfold electionStep
  split
  · exact ⟨rfl, List.subset_cons_self _ _⟩
  · exact ⟨rfl, List.Subset.refl _⟩
  · exact ⟨rfl, List.Subset.refl _⟩
  · split
    · exact ⟨rfl, List.Subset.refl _⟩
    · split
      · exact ⟨rfl, List.subset_cons_self _ _⟩
      · exact ⟨rfl, List.Subset.refl _⟩
  · exact ⟨rfl, List.Subset.refl _⟩
  · exact ⟨rfl, List.Subset.refl _⟩
  · exact ⟨rfl, List.Subset.refl _⟩

theorem step_election {index : ℕ} {election : Election} (granted : Bool)
    (found : world.elections[index]? = some election)
    : (step cluster world (.step index granted)).2
      = { (electionStep cluster world election.node granted election.phase).1 with
          elections := world.elections.set index
            { election with
              phase := (electionStep cluster world election.node granted election.phase).2 } } := by
  simp only [step, found, (electionStep_frame world election.node granted election.phase).1]

/-- No vote is taken back. -/
theorem votes_step (world : World) (action : Action)
    : world.votes ⊆ (step cluster world action).2.votes := by
  cases action with
  | startElection node =>
      simp only [step]
      split <;> exact List.Subset.refl _
  | electLeader =>
      simp only [step]
      split <;> exact List.Subset.refl _
  | electStep =>
      simp only [step]
      split
      · exact List.Subset.refl _
      · unfold electStep
        split
        · exact List.Subset.refl _
        · exact List.Subset.refl _
        · split <;> exact List.Subset.refl _
        · exact List.Subset.refl _
  | step index granted =>
      cases found : world.elections[index]? with
      | none =>
          simp only [step, found]
          exact List.Subset.refl _
      | some election =>
          rw [step_election granted found]
          exact (electionStep_frame world election.node granted election.phase).2

theorem ElectionInv.moves (inv : ElectionInv cluster world) {action : Action}
    (allowed : Allowed cluster world action)
    : ElectionInv cluster (step cluster world action).2 := by
  cases action with
  | startElection node =>
      simp only [step]
      split
      · rename_i member
        exact inv.call member inv.electing
      · exact inv
  | electLeader =>
      simp only [step]
      cases found : world.electing with
      | none =>
          refine inv.notes ?_
          intro rest same
          cases same
          exact fun node member => member
      | some electing => exact inv
  | electStep =>
      simp only [step]
      cases found : world.electing with
      | none => exact inv
      | some electing => exact inv.elects found
  | step index granted =>
      cases found : world.elections[index]? with
      | none =>
          simp only [step, found]
          exact inv
      | some election =>
          rw [step_election granted found]
          obtain ⟨within, sound⟩ := inv.elections election (List.mem_of_getElem? found)
          obtain ⟨keeps, phase⟩ := inv.advances within sound (allowed election found)
          refine ⟨keeps.single, keeps.own, keeps.leads, ?_, ?_⟩
          · refine forall_mem_set (fun other there => ⟨(inv.elections other there).1,
              (keeps.others other there).mono (List.Subset.refl _) (Nat.le_refl _)
                (fun _ leads => leads)⟩) index ⟨within, ?_⟩
            exact phase.mono (List.Subset.refl _) (Nat.le_refl _) (fun _ leads => leads)
          · intro rest starting
            exact inv.electing rest (keeps.electing.symm.trans starting)

theorem electionStep_returns {granted : Bool} {votes : Finset String} {won : Bool}
    (unreturned : ∀ votes won, phase ≠ .returned votes won)
    (returns : (electionStep cluster world node granted phase).2 = .returned votes won)
    : (electionStep cluster world node granted phase).1 = world
      ∧ ((∃ term, phase = .asking term votes []) ∨ ∃ term, phase = .leading term votes) := by
  cases phase with
  | called => cases returns
  | begun => cases returns
  | asking term asked rest =>
      cases rest with
      | nil =>
          cases returns
          exact ⟨rfl, .inl ⟨term, rfl⟩⟩
      | cons peer rest =>
          simp only [electionStep] at returns
          split at returns
          · cases returns
          · split at returns
            · split at returns
              · cases returns
              · cases returns
            · cases returns
  | elected term asked => cases returns
  | leading term asked =>
      cases returns
      exact ⟨rfl, .inr ⟨term, rfl⟩⟩
  | returned asked result => exact absurd rfl (unreturned asked result)

/-- Only a step of a call moves it; new calls come last. -/
theorem elections_kept {action : Action} (others : ∀ index granted, action ≠ .step index granted)
    {index : ℕ} {election : Election} (before : world.elections[index]? = some election)
    : (step cluster world action).2.elections[index]? = some election := by
  cases action with
  | startElection node =>
      simp only [step]
      split
      · exact getElem?_append_some before _
      · exact before
  | electLeader =>
      simp only [step]
      split
      · exact before
      · exact before
  | electStep =>
      simp only [step]
      split
      · exact before
      · unfold electStep
        split
        · exact getElem?_append_some before _
        · exact before
        · split <;> exact before
        · exact before
  | step index granted => exact absurd rfl (others index granted)

theorem ElectionInv.majority (inv : ElectionInv cluster world) {action : Action}
    (allowed : Allowed cluster world action)
    : MajorityLeads cluster ⟨world, action, (step cluster world action).1,
        (step cluster world action).2⟩ := by
  intro index election votes won before unreturned after majority
  dsimp only at before after ⊢
  -- a call that nobody moved has not returned
  have unmoved : (step cluster world action).2.elections[index]? = some election → False := by
    intro same
    exact unreturned votes won (congrArg Election.phase (Option.some.inj (same.symm.trans after)))
  cases action with
  | startElection node => exact (unmoved (elections_kept (by simp) before)).elim
  | electLeader => exact (unmoved (elections_kept (by simp) before)).elim
  | electStep => exact (unmoved (elections_kept (by simp) before)).elim
  | step moved granted =>
      cases found : world.elections[moved]? with
      | none =>
          refine (unmoved ?_).elim
          simp only [step, found]
          exact before
      | some acting =>
          rw [step_election granted found] at after ⊢
          rcases getElem?_set_cases after with ⟨rfl, same⟩ | ⟨other, stays⟩
          · cases found.symm.trans before
            have returns := (congrArg Election.phase same).symm
            obtain ⟨idle, ended⟩ := electionStep_returns unreturned returns
            have sound := (inv.elections election (List.mem_of_getElem? before)).2
            have permitted := allowed election before
            rw [idle]
            rcases ended with ⟨term, asked⟩ | ⟨term, leading⟩
            · rw [asked] at sound permitted
              have few := sound.2.2 permitted
              unfold ROMARaftCluster.needed at few
              omega
            · rw [leading] at sound
              exact sound
          · have same := Option.some.inj (before.symm.trans stays)
            exact absurd (congrArg Election.phase same) (unreturned votes won)

-- Runs

/-- Elections are safe in every run of a cluster whose steps are all allowed: any calls, interleavings
and answers.
-/
theorem elections_safe (cluster : ROMARaftCluster) (actions : List Action)
    (allowed : ∀ visit ∈ visits (step cluster) {} actions,
      Allowed cluster visit.before visit.call)
    : ElectionSafe cluster actions := by
  obtain ⟨invariant, final⟩ := invariant_of_allowed (ElectionInv cluster) (Allowed cluster)
    (fun world action inv allowed => inv.moves allowed) electionInv_new allowed
  -- who leads in some state has won in the last one
  have wins : ∀ visit ∈ visits (step cluster) {} actions, ∀ node,
      (visit.after.nodes node).role = .leader →
      Wins cluster.clusterIds.toFinset (finalState (step cluster) {} actions).votes
        (visit.after.nodes node).term node := by
    intro visit member node leads
    exact finalState_of_mem_visits
      (fun world => Wins cluster.clusterIds.toFinset world.votes (visit.after.nodes node).term node)
      (fun world action wins => wins.mono (votes_step world action)) member
      ((invariant visit member).2.leads node leads)
  constructor
  · intro first memberFirst second memberSecond node other leads leads' same
    obtain ⟨visit, member, rfl⟩ := List.mem_map.mp memberFirst
    obtain ⟨visit', member', rfl⟩ := List.mem_map.mp memberSecond
    have won := wins visit member node leads
    rw [same] at won
    exact won.unique final.single (wins visit' member' other leads')
  · intro visit member
    have majority := (invariant visit member).1.majority (allowed visit member)
    rw [step_of_mem_visits member] at majority
    exact majority

def threeNodes : ROMARaftCluster :=
  ⟨["node-0", "node-1", "node-2"], by decide, by decide⟩

/-- `node-0` asks `node-1` and wins. -/
def oneElection : List Action :=
  .startElection "node-0" :: List.replicate 6 (.step 0 true)

/-- One election alone is safe. -/
theorem elections_safe_alone : ElectionSafe threeNodes oneElection := by
  refine elections_safe threeNodes oneElection ?_
  simp [oneElection, List.replicate, visits, Allowed, step, electionStep, begin_, PhaseAllowed,
    VotesFor, threeNodes, becomeLeader, ROMARaftCluster.needed]

def crossedVotes : List Action :=
  .startElection "node-0" :: .startElection "node-1"
    :: List.replicate 5 (.step 0 true) ++ List.replicate 4 (.step 1 true)

theorem crossedVotes_length : 10 < (visits (step threeNodes) {} crossedVotes).length := by
  decide +kernel

/-- Both lead in term 1. -/
theorem two_leaders_in_one_term : ¬ ElectionSafe threeNodes crossedVotes := by
  intro safe
  have last := List.mem_map_of_mem (f := Visit.after) (List.getElem_mem crossedVotes_length)
  have same := safe.oneLeader _ last _ last "node-0" "node-1" (by decide +kernel)
    (by decide +kernel) (by decide +kernel)
  exact absurd same (by decide)

variable {κ : Type} {node : ROMARaftNode κ} {history : RaftHistory κ}
variable {appended : List (LogEntry κ)}

/-- What an entry is, whether it is committed or not. -/
def content (entry : LogEntry κ) : ℕ × ℕ × κ := (entry.index, entry.term, entry.command)

/-- What a call should do to the log. -/
structure LogSound (visit : Visit (RaftHistory κ) (RaftCall κ) (Option Bool)) : Prop where
  /-- The indices of the log are distinct and increase. -/
  increasing : (visit.after.node.log.map LogEntry.index).Pairwise (· < ·)
  /-- A new index is beyond all indices there ever were. -/
  fresh : ∀ entry ∈ entryOf visit.before.node visit.call, ∀ earlier ∈ visit.before.appended,
    earlier.index < entry.index
  /-- The commit index does not decrease. -/
  monotone : visit.before.node.commitIndex ≤ visit.after.node.commitIndex
  /-- Whatever has the index of an entry that was ever committed is that entry. -/
  kept : ∀ old ∈ visit.after.committed, ∀ entry ∈ visit.after.node.log,
    entry.index = old.index → content entry = content old
  /-- A leader whose followers all acknowledge commits. -/
  commits : ∀ command acknowledges, visit.call = .appendEntry command acknowledges →
    visit.before.node.role = .leader →
    (∀ peer ∈ visit.before.node.clusterNodes, peer ≠ visit.before.node.nodeId →
      acknowledges peer = true) →
    visit.reply = some true
      ∧ visit.after.node.commitIndex = (visit.before.node.newEntry command).index

/-- An entry is appended only to a log that still holds all entries there ever were. -/
def LogCallAllowed (history : RaftHistory κ) : RaftCall κ → Prop
  | .appendEntry _ _ => history.node.log.length = history.appended.length
  | _ => True

theorem LogCallAllowed.whole {call : RaftCall κ} (allowed : LogCallAllowed history call) {command : κ}
    {acknowledges : String → Bool} (same : call = .appendEntry command acknowledges)
    : history.node.log.length = history.appended.length := by
  subst same
  exact allowed

-- What the loop over the peers does

/-- The requests change what is known to be replicated and nothing else. Induction on the peers. -/
theorem replicate_leaves (entryIndex : ℕ) (acknowledges : String → Bool) (node : ROMARaftNode κ)
    (peers : List String) (replicated : Finset String)
    : ∃ matchIndex, (node.replicate entryIndex acknowledges peers replicated).2
        = { node with matchIndex := matchIndex } := by
  induction peers generalizing node replicated with
  | nil => exact ⟨node.matchIndex, rfl⟩
  | cons peer rest ih =>
      simp only [ROMARaftNode.replicate, ROMARaftNode.sendAppendEntries]
      by_cases self : peer = node.nodeId
      · rw [if_pos self]
        exact ih node replicated
      rw [if_neg self]
      cases node.nextIndex peer with
      | none => exact ⟨node.matchIndex, rfl⟩
      | some next =>
          by_cases short : node.log.length < next
          · simp only [if_pos short]
            exact ih node replicated
          simp only [if_neg short]
          cases acknowledges peer with
          | false => exact ih _ replicated
          | true => exact ih _ (insert peer replicated)

theorem replicate_all {entryIndex : ℕ} {acknowledges : String → Bool} (node : ROMARaftNode κ)
    {peers : List String} (replicated : Finset String)
    (known : ∀ peer ∈ peers, ∃ next, node.nextIndex peer = some next ∧ next ≤ node.log.length)
    (acks : ∀ peer ∈ peers, peer ≠ node.nodeId → acknowledges peer = true)
    : ∃ all, (node.replicate entryIndex acknowledges peers replicated).1 = some all
        ∧ replicated ⊆ all ∧ ∀ peer ∈ peers, peer ≠ node.nodeId → peer ∈ all := by
  induction peers generalizing node replicated with
  | nil => exact ⟨replicated, rfl, subset_rfl, by simp⟩
  | cons peer rest ih =>
      obtain ⟨⟨next, found, short⟩, knownRest⟩ := List.forall_mem_cons.mp known
      obtain ⟨ack, ackRest⟩ := List.forall_mem_cons.mp acks
      simp only [ROMARaftNode.replicate, ROMARaftNode.sendAppendEntries]
      by_cases self : peer = node.nodeId
      · rw [if_pos self]
        obtain ⟨all, result, more, counted⟩ := ih node replicated knownRest ackRest
        refine ⟨all, result, more, List.forall_mem_cons.mpr ⟨?_, counted⟩⟩
        exact fun other => absurd self other
      · simp only [if_neg self, found, if_neg (not_lt.mpr short), ack self]
        obtain ⟨all, result, more, counted⟩ :=
          ih { node with matchIndex := Function.update node.matchIndex peer (some entryIndex) }
            (insert peer replicated) knownRest ackRest
        refine ⟨all, result, (Finset.subset_insert peer replicated).trans more, ?_⟩
        exact List.forall_mem_cons.mpr ⟨fun _ => more (Finset.mem_insert_self _ _), counted⟩

theorem appendEntry_cases (node : ROMARaftNode κ) (command : κ) (acknowledges : String → Bool)
    : ∃ matchIndex,
        (node.appendEntry command acknowledges).2
          = { node with log := node.log ++ [node.newEntry command], matchIndex := matchIndex }
        ∨ (node.appendEntry command acknowledges).2
          = { node with
              log := (node.log ++ [node.newEntry command]).map
                (ROMARaftNode.commitUpTo (node.newEntry command).index)
              commitIndex := (node.newEntry command).index
              matchIndex := matchIndex } := by
  unfold ROMARaftNode.appendEntry ROMARaftNode.replicateAndCommit
  split
  · obtain ⟨matchIndex, leaves⟩ := replicate_leaves (node.newEntry command).index acknowledges
      { node with log := node.log ++ [node.newEntry command] } node.clusterNodes {node.nodeId}
    refine ⟨matchIndex, ?_⟩
    split
    · rename_i raised
      rw [raised] at leaves
      exact .inl leaves
    · rename_i sent
      rw [sent] at leaves
      dsimp only at leaves
      split
      · exact .inr (by rw [leaves])
      · exact .inl leaves
  · exact ⟨node.matchIndex, .inl rfl⟩

theorem appendEntry_commits {command : κ} {acknowledges : String → Bool}
    (leads : node.role = .leader)
    (known : ∀ peer ∈ node.clusterNodes,
      ∃ next, node.nextIndex peer = some next ∧ next ≤ node.log.length + 1)
    (acks : ∀ peer ∈ node.clusterNodes, peer ≠ node.nodeId → acknowledges peer = true)
    : (node.appendEntry command acknowledges).1 = some true
      ∧ (node.appendEntry command acknowledges).2.commitIndex
          = (node.newEntry command).index := by
  obtain ⟨all, result, more, counted⟩ := replicate_all
    { node with log := node.log ++ [node.newEntry command] } {node.nodeId}
    (fun peer member => by simpa using known peer member) acks
  have everyone : insert node.nodeId node.clusterNodes.toFinset ⊆ all := by
    intro peer member
    by_cases self : peer = node.nodeId
    · exact more (Finset.mem_singleton.mpr self)
    · rcases Finset.mem_insert.mp member with same | listed
      · exact absurd same self
      · exact counted peer (List.mem_toFinset.mp listed) self
  have enough : node.needed ≤ all.card := by
    have cluster : node.clusterNodes.length ≤ all.card := by
      rw [← List.toFinset_card_of_nodup node.distinct]
      exact Finset.card_le_card ((Finset.subset_insert _ _).trans everyone)
    have self : 0 < all.card :=
      Finset.card_pos.mpr ⟨_, everyone (Finset.mem_insert_self _ _)⟩
    unfold ROMARaftNode.needed
    omega
  unfold ROMARaftNode.appendEntry ROMARaftNode.replicateAndCommit
  rw [if_pos leads]
  split
  · rename_i raised
    rw [raised] at result
    cases result
  · rename_i sent
    rw [sent] at result
    cases result
    have enough' : ({ node with log := node.log ++ [node.newEntry command] }
        : ROMARaftNode κ).needed ≤ all.card := enough
    rw [if_pos enough']
    exact ⟨rfl, rfl⟩

-- A log that counts its entries

/-- The log holds some of the entries that were appended, in their order; nothing beyond them is
committed or sent.
-/
structure NodeKept (appended : List (LogEntry κ)) (node : ROMARaftNode κ) : Prop where
  within : (node.log.map content).Sublist (appended.map content)
  bound : node.commitIndex ≤ appended.length
  peers : ∀ peer ∈ node.clusterNodes,
    ∃ next, node.nextIndex peer = some next ∧ next ≤ appended.length + 1

/-- The appended entries are numbered from one, and what is committed is among them. -/
structure LogKept (history : RaftHistory κ) : Prop where
  numbered : history.appended.map LogEntry.index = List.range' 1 history.appended.length
  node : NodeKept history.appended history.node
  committed : ∀ old ∈ history.committed, content old ∈ history.appended.map content

theorem map_content_commit (log : List (LogEntry κ)) (entryIndex : ℕ)
    : (log.map (ROMARaftNode.commitUpTo entryIndex)).map content = log.map content := by
  rw [List.map_map]
  apply List.map_congr_left
  intro entry _
  simp only [Function.comp, ROMARaftNode.commitUpTo]
  split <;> rfl

theorem NodeKept.length_le (kept : NodeKept appended node)
    : node.log.length ≤ appended.length := by
  simpa using kept.within.length_le

theorem NodeKept.append (kept : NodeKept appended node) (whole : node.log.length = appended.length)
    (command : κ) (acknowledges : String → Bool)
    : NodeKept (appended ++ [node.newEntry command])
        (node.appendEntry command acknowledges).2 := by
  have longer : ((node.log ++ [node.newEntry command]).map content).Sublist
      ((appended ++ [node.newEntry command]).map content) := by
    rw [List.map_append, List.map_append]
    exact kept.within.append (List.Sublist.refl _)
  have known : ∀ peer ∈ node.clusterNodes, ∃ next, node.nextIndex peer = some next
      ∧ next ≤ (appended ++ [node.newEntry command]).length + 1 := by
    intro peer member
    obtain ⟨next, found, bounded⟩ := kept.peers peer member
    refine ⟨next, found, ?_⟩
    rw [List.length_append]
    omega
  obtain ⟨matchIndex, after | after⟩ := appendEntry_cases node command acknowledges
  · rw [after]
    refine ⟨longer, ?_, known⟩
    exact kept.bound.trans (by simp)
  · rw [after]
    refine ⟨?_, ?_, known⟩
    · rw [map_content_commit]
      exact longer
    · simp [ROMARaftNode.newEntry, whole]

theorem NodeKept.snapshot (kept : NodeKept appended node) (lastIncludedIndex : ℤ)
    : NodeKept appended (node.snapshot lastIncludedIndex).2 := by
  unfold ROMARaftNode.snapshot
  split
  · exact ⟨(List.filter_sublist.map content).trans kept.within, kept.bound, kept.peers⟩
  · exact kept

theorem NodeKept.election (kept : NodeKept appended node) (grants : String → Bool)
    : NodeKept appended (node.startElection grants).2 := by
  simp only [ROMARaftNode.startElection]
  split
  · refine ⟨kept.within, kept.bound, ?_⟩
    intro peer member
    refine ⟨node.log.length + 1, if_pos member, ?_⟩
    exact Nat.succ_le_succ kept.length_le
  · exact ⟨kept.within, kept.bound, kept.peers⟩

theorem NodeKept.addNode (kept : NodeKept appended node) (nodeId : String)
    : NodeKept appended (node.addNode nodeId).2 := by
  unfold ROMARaftNode.addNode
  split
  · split
    · rename_i absent
      refine ⟨kept.within, kept.bound, ?_⟩
      intro peer member
      by_cases same : peer = nodeId
      · subst same
        exact ⟨1, Function.update_self .., by omega⟩
      · have old : peer ∈ node.clusterNodes := by simpa [same] using member
        obtain ⟨next, found, bounded⟩ := kept.peers peer old
        exact ⟨next, (Function.update_of_ne same ..).trans found, bounded⟩
    · exact kept
  · exact kept

theorem NodeKept.removeNode (kept : NodeKept appended node) (nodeId : String)
    : NodeKept appended (node.removeNode nodeId).2 := by
  have others : ∀ peer ∈ node.clusterNodes.erase nodeId, peer ≠ nodeId ∧ peer ∈ node.clusterNodes :=
    fun peer member => (List.Nodup.mem_erase_iff node.distinct).mp member
  have remaining : ∀ peer ∈ node.clusterNodes.erase nodeId, ∃ next,
      node.nextIndex peer = some next ∧ next ≤ appended.length + 1 :=
    fun peer member => kept.peers peer (others peer member).2
  have forgotten : ∀ peer ∈ node.clusterNodes.erase nodeId, ∃ next,
      Function.update node.nextIndex nodeId none peer = some next
        ∧ next ≤ appended.length + 1 := by
    intro peer member
    obtain ⟨next, found, bounded⟩ := remaining peer member
    exact ⟨next, (Function.update_of_ne (others peer member).1 ..).trans found, bounded⟩
  unfold ROMARaftNode.removeNode
  split
  · dsimp only
    split
    · exact ⟨kept.within, kept.bound, remaining⟩
    · split
      · exact ⟨kept.within, kept.bound, forgotten⟩
      · exact ⟨kept.within, kept.bound, forgotten⟩
  · exact kept

theorem NodeKept.step {appended : List (LogEntry κ)} (kept : NodeKept appended node)
    {call : RaftCall κ}
    (whole : ∀ command acknowledges, call = .appendEntry command acknowledges →
      node.log.length = appended.length)
    : NodeKept (appended ++ entryOf node call) (nodeStep node call).2 := by
  cases call with
  | appendEntry command acknowledges => exact kept.append (whole _ _ rfl) command acknowledges
  | snapshot lastIncludedIndex => simpa [entryOf, nodeStep] using kept.snapshot lastIncludedIndex
  | startElection grants => simpa [entryOf, nodeStep] using kept.election grants
  | addNode nodeId => simpa [entryOf, nodeStep] using kept.addNode nodeId
  | removeNode nodeId => simpa [entryOf, nodeStep] using kept.removeNode nodeId

theorem LogKept.step (kept : LogKept history) {call : RaftCall κ}
    (allowed : LogCallAllowed history call)
    : LogKept (history.step call).2 := by
  have whole := fun command acknowledges => @LogCallAllowed.whole _ _ _ allowed command acknowledges
  have node := kept.node.step whole
  refine ⟨?_, node, ?_⟩
  · simp only [RaftHistory.step, List.map_append, List.length_append]
    cases call with
    | appendEntry command acknowledges =>
        rw [kept.numbered, entryOf, List.length_singleton, List.range'_1_concat, List.map_singleton,
          ROMARaftNode.newEntry, whole _ _ rfl, Nat.add_comm 1]
    | _ => simpa [entryOf] using kept.numbered
  · intro old member
    rcases List.mem_append.mp member with before | now
    · have known := kept.committed old before
      simp only [RaftHistory.step, List.map_append]
      exact List.mem_append_left _ known
    · exact node.within.subset (List.mem_map_of_mem (List.mem_of_mem_filter now))

theorem LogKept.content_eq (kept : LogKept history) {first second : LogEntry κ}
    (member : content first ∈ history.appended.map content)
    (member' : content second ∈ history.appended.map content) (same : first.index = second.index)
    : content first = content second := by
  obtain ⟨entry, appended, equal⟩ := List.mem_map.mp member
  obtain ⟨entry', appended', equal'⟩ := List.mem_map.mp member'
  have distinct : (history.appended.map LogEntry.index).Nodup := by
    rw [kept.numbered]
    exact List.nodup_range'
  have index : entry.index = entry'.index := by
    have left : entry.index = first.index := congrArg Prod.fst equal
    have right : entry'.index = second.index := congrArg Prod.fst equal'
    rw [left, right, same]
  rw [← equal, ← equal', List.inj_on_of_nodup_map distinct appended appended' index]

theorem NodeKept.commitIndex_le (kept : NodeKept appended node) {call : RaftCall κ}
    (whole : ∀ command acknowledges, call = .appendEntry command acknowledges →
      node.log.length = appended.length)
    : node.commitIndex ≤ (nodeStep node call).2.commitIndex := by
  cases call with
  | appendEntry command acknowledges =>
      have bound := kept.bound
      obtain ⟨matchIndex, same | same⟩ := appendEntry_cases node command acknowledges
      · simp only [nodeStep, same]
        exact le_rfl
      · have length := whole _ _ rfl
        simp only [nodeStep, same, ROMARaftNode.newEntry]
        omega
  | snapshot lastIncludedIndex =>
      simp only [nodeStep, ROMARaftNode.snapshot]
      split <;> exact le_rfl
  | startElection grants =>
      simp only [nodeStep, ROMARaftNode.startElection]
      split <;> exact le_rfl
  | addNode nodeId =>
      simp only [nodeStep, ROMARaftNode.addNode]
      split
      · split <;> exact le_rfl
      · exact le_rfl
  | removeNode nodeId =>
      simp only [nodeStep, ROMARaftNode.removeNode]
      split
      · split
        · exact le_rfl
        · split <;> exact le_rfl
      · exact le_rfl

/-- A call is right exactly if it is allowed: an entry appended to a log that lost some gets an index
there was before.
-/
theorem LogKept.right_iff (kept : LogKept history) (call : RaftCall κ)
    : LogSound ⟨history, call, (history.step call).1, (history.step call).2⟩
      ↔ LogCallAllowed history call := by
  constructor
  · intro right
    cases call with
    | appendEntry command acknowledges =>
        have shorter := kept.node.length_le
        by_contra short
        have longer : 0 < history.appended.length := by
          have different : history.node.log.length ≠ history.appended.length := short
          omega
        have last : history.appended.length ∈ history.appended.map LogEntry.index := by
          rw [kept.numbered, List.mem_range'_1]
          omega
        obtain ⟨earlier, member, index⟩ := List.mem_map.mp last
        have fresh := right.fresh _ (List.mem_singleton_self _) earlier member
        have different : history.node.log.length ≠ history.appended.length := short
        simp only [ROMARaftNode.newEntry] at fresh
        omega
    | _ => trivial
  · intro allowed
    have after := kept.step allowed
    have whole := fun command acknowledges => @LogCallAllowed.whole _ _ _ allowed command acknowledges
    have indices : ((history.step call).2.node.log.map LogEntry.index).Sublist
        (List.range' 1 (history.step call).2.appended.length) := by
      have mapped := after.node.within.map Prod.fst
      rw [List.map_map, List.map_map] at mapped
      rw [← after.numbered]
      exact mapped
    refine ⟨List.Pairwise.sublist indices List.pairwise_lt_range', ?_, ?_, ?_, ?_⟩
    · intro entry new earlier member
      cases call with
      | appendEntry command acknowledges =>
          have index := List.mem_map_of_mem (f := LogEntry.index) member
          rw [kept.numbered, List.mem_range'_1] at index
          rw [List.mem_singleton.mp new]
          have length := whole _ _ rfl
          simp only [ROMARaftNode.newEntry]
          omega
      | _ => exact absurd new List.not_mem_nil
    · exact kept.node.commitIndex_le whole
    · intro old member entry logged same
      exact after.content_eq (after.node.within.subset (List.mem_map_of_mem logged))
        (after.committed old member) same
    · intro command acknowledges same leads acks
      subst same
      have known : ∀ peer ∈ history.node.clusterNodes, ∃ next,
          history.node.nextIndex peer = some next ∧ next ≤ history.node.log.length + 1 := by
        rw [whole _ _ rfl]
        exact kept.node.peers
      exact appendEntry_commits leads known acks

def newHistory (nodeId : String) (clusterNodes : List String) (distinct : clusterNodes.Nodup)
    : RaftHistory κ :=
  { node := .init nodeId clusterNodes distinct }

theorem logKept_new (nodeId : String) (clusterNodes : List String)
    (distinct : clusterNodes.Nodup)
    : LogKept (newHistory nodeId clusterNodes distinct : RaftHistory κ) := by
  refine ⟨rfl, ⟨List.Sublist.refl _, le_rfl, ?_⟩, by simp [newHistory]⟩
  intro peer member
  exact ⟨1, if_pos member, le_rfl⟩

/-- Over every sequence of calls of a node, the log is sound exactly if no entry is appended after a
snapshot has dropped one.
-/
theorem log_sound_iff (nodeId : String) (clusterNodes : List String)
    (distinct : clusterNodes.Nodup) (calls : List (RaftCall κ))
    : (∀ visit ∈ visits RaftHistory.step (newHistory nodeId clusterNodes distinct) calls,
        LogSound visit)
      ↔ ∀ visit ∈ visits RaftHistory.step (newHistory nodeId clusterNodes distinct) calls,
          LogCallAllowed visit.before visit.call :=
  @throughout_iff _ _ _ RaftHistory.step LogKept (fun _ _ => True) LogCallAllowed LogSound
    (fun _ call kept _ => kept.right_iff call) (fun _ _ kept _ allowed => kept.step allowed)
    _ calls (logKept_new nodeId clusterNodes distinct) (fun _ _ => trivial)

def twoNodes : RaftHistory String := newHistory "node-0" ["node-0", "node-1"] (by decide)

def electedThenSnapshot : List (RaftCall String) :=
  [.startElection (fun _ => true), .appendEntry "a" (fun _ => true),
    .appendEntry "b" (fun _ => true), .snapshot 2]

/-- It is elected, commits two entries and drops the first of them. -/
theorem log_sound_snapshot
    : (∀ visit ∈ visits RaftHistory.step twoNodes electedThenSnapshot, LogSound visit)
      ∧ (finalState RaftHistory.step twoNodes electedThenSnapshot).node.log
        = [⟨2, 1, "b", true⟩] := by
  refine ⟨(log_sound_iff "node-0" ["node-0", "node-1"] (by decide) _).mpr ?_, by decide⟩
  simp only [electedThenSnapshot, visits, List.forall_mem_cons]
  exact ⟨trivial, rfl, rfl, trivial, by simp⟩

/-- It is elected, commits two entries, drops the first of them and appends one more. -/
def appendAfterSnapshot : List (RaftCall String) :=
  [.startElection (fun _ => true), .appendEntry "a" (fun _ => true),
    .appendEntry "b" (fun _ => true), .snapshot 2, .appendEntry "c" (fun _ => true)]

theorem appendAfterSnapshot_length
    : 4 < (visits RaftHistory.step twoNodes appendAfterSnapshot).length := by
  decide

/-- The new entry gets the index of a committed one. -/
theorem index_used_twice
    : ¬ ∀ visit ∈ visits RaftHistory.step twoNodes appendAfterSnapshot, LogSound visit := by
  intro right
  have last := right _ (List.getElem_mem appendAfterSnapshot_length)
  have fresh := last.fresh ⟨2, 1, "c", false⟩ (by decide) ⟨2, 1, "b", false⟩ (by decide)
  exact absurd fresh (by decide)

section WriteQuorum

open RomaBridge.Model.SplitBrain

variable {cluster : Finset String} {beats first second : List Beat} {now : ℚ} {id : String}
  {size : ℕ}

/-- The ids that sent a heartbeat less than 15 seconds before a time. -/
def heardFrom (beats : List Beat) (now : ℚ) : Finset String :=
  ((beats.filter (fun beat => now - beat.time < 15)).map Beat.nodeId).toFinset

/-- A majority of the cluster sent a heartbeat less than 15 seconds ago. -/
def QuorumHeard (cluster : Finset String) (beats : List Beat) (now : ℚ) : Prop :=
  cluster.card / 2 + 1 ≤ (cluster ∩ heardFrom beats now).card

def senders (beats : List Beat) : Finset String := (beats.map Beat.nodeId).toFinset

/-- An instance writes only with a current quorum, and two of them that listen to different nodes do
not both write.
-/
structure WritesWithQuorum (cluster : Finset String) (first second : List Beat) (now : ℚ) : Prop
    where
  current : (afterBeats cluster.card first).canWrite → QuorumHeard cluster first now
  current' : (afterBeats cluster.card second).canWrite → QuorumHeard cluster second now
  alone : Disjoint (senders first) (senders second) →
    ¬ ((afterBeats cluster.card first).canWrite ∧ (afterBeats cluster.card second).canWrite)

/-- The ids an instance counts: those heard less than 15 seconds before its last heartbeat. -/
def counted (beats : List Beat) : Finset String :=
  match beats.getLast? with
  | none => ∅
  | some last => heardFrom beats last.time

/-- The counted ids make a majority, and without those that are no nodes of the cluster or have since
been silent for 15 seconds they do not.
-/
def TippedByStrangers (cluster : Finset String) (beats : List Beat) (now : ℚ) : Prop :=
  cluster.card / 2 + 1 ≤ (counted beats).card
  ∧ ((counted beats).filter (fun id => id ∈ cluster ∧ id ∈ heardFrom beats now)).card
      < cluster.card / 2 + 1

/-- Heartbeats in the order of their times, none after the query. -/
structure InOrder (beats : List Beat) (now : ℚ) : Prop where
  ordered : beats.Pairwise (fun earlier later => earlier.time ≤ later.time)
  past : ∀ beat ∈ beats, beat.time ≤ now

-- What an instance counts

theorem mem_heardFrom
    : id ∈ heardFrom beats now ↔ ∃ beat ∈ beats, beat.nodeId = id ∧ now - beat.time < 15 := by
  simp only [heardFrom, List.mem_toFinset, List.mem_map, List.mem_filter, decide_eq_true_eq]
  constructor
  · intro ⟨beat, ⟨member, recent⟩, same⟩
    exact ⟨beat, member, same, recent⟩
  · intro ⟨beat, member, same, recent⟩
    exact ⟨beat, ⟨member, recent⟩, same⟩

theorem afterBeats_append (size : ℕ) (beats : List Beat) (last : Beat)
    : afterBeats size (beats ++ [last])
      = ((afterBeats size beats).registerHeartbeat last.nodeId last.time).2 := by
  simp only [afterBeats, finalState_append]
  rfl

theorem majority_afterBeats (size : ℕ) (beats : List Beat)
    : (afterBeats size beats).majority = size / 2 + 1 := by
  induction beats using List.reverseRecOn with
  | nil => rfl
  | append_singleton beats last ih =>
      rw [afterBeats_append]
      exact ih

/-- What `node_status` knows: every row is a heartbeat, and no heartbeat of its id came later. -/
structure StatusKept (protection : SplitBrainProtection) (beats : List Beat) : Prop where
  sent : ∀ status ∈ protection.nodeStatus.rows,
    status.alive = true ∧ ⟨status.nodeId, status.lastSeen⟩ ∈ beats
  known : ∀ beat ∈ beats, ∃ status ∈ protection.nodeStatus.rows,
    status.nodeId = beat.nodeId ∧ beat.time ≤ status.lastSeen

theorem StatusKept.beat {protection : SplitBrainProtection} (kept : StatusKept protection beats)
    {last : Beat} (latest : ∀ beat ∈ beats, beat.time ≤ last.time)
    : StatusKept (protection.registerHeartbeat last.nodeId last.time).2 (beats ++ [last]) := by
  constructor
  · intro status member
    rcases Table.mem_put.mp member with rfl | ⟨old, _⟩
    · exact ⟨rfl, by simp⟩
    · obtain ⟨alive, sent⟩ := kept.sent status old
      exact ⟨alive, List.mem_append_left _ sent⟩
  · intro beat member
    have stored : (⟨last.nodeId, last.time, true⟩ : NodeStatus)
        ∈ (protection.registerHeartbeat last.nodeId last.time).2.nodeStatus.rows :=
      Table.mem_put.mpr (.inl rfl)
    rcases List.mem_append.mp member with old | new
    · by_cases same : beat.nodeId = last.nodeId
      · exact ⟨_, stored, same.symm, latest beat old⟩
      · obtain ⟨status, row, name, seen⟩ := kept.known beat old
        have other : status.nodeId ≠ last.nodeId := by rwa [name]
        exact ⟨status, Table.mem_put.mpr (.inr ⟨row, other⟩), name, seen⟩
    · rw [List.mem_singleton.mp new]
      exact ⟨_, stored, rfl, le_rfl⟩

/-- After heartbeats in order `node_status` is right. Induction on the heartbeats. -/
theorem statusKept_afterBeats (size : ℕ)
    (ordered : beats.Pairwise (fun earlier later => earlier.time ≤ later.time))
    : StatusKept (afterBeats size beats) beats := by
  induction beats using List.reverseRecOn with
  | nil => exact ⟨by simp [afterBeats, finalState, SplitBrainProtection.init, Table.empty], by simp⟩
  | append_singleton beats last ih =>
      obtain ⟨before, _, latest⟩ := List.pairwise_append.mp ordered
      rw [afterBeats_append]
      exact (ih before).beat (fun beat member => latest beat member last (by simp))

/-- After heartbeats in order an instance counts the ids heard less than 15 seconds before the last of
them.
-/
theorem activeNodes_afterBeats (size : ℕ)
    (ordered : beats.Pairwise (fun earlier later => earlier.time ≤ later.time))
    : (afterBeats size beats).activeNodes = counted beats := by
  induction beats using List.reverseRecOn with
  | nil => rfl
  | append_singleton beats last ih =>
      have kept := statusKept_afterBeats size ordered
      rw [afterBeats_append] at kept ⊢
      ext id
      simp only [counted, List.getLast?_append, List.getLast?_singleton, Option.some_or,
        mem_heardFrom]
      simp only [SplitBrainProtection.registerHeartbeat, List.mem_toFinset, List.mem_map,
        List.mem_filter, SplitBrainProtection.counts, Bool.and_eq_true, decide_eq_true_eq]
      constructor
      · intro ⟨status, ⟨row, _, recent⟩, name⟩
        exact ⟨_, (kept.sent status row).2, name, recent⟩
      · intro ⟨beat, member, name, recent⟩
        obtain ⟨status, row, same, seen⟩ := kept.known beat member
        have nearer : last.time - status.lastSeen ≤ last.time - beat.time :=
          sub_le_sub_left seen last.time
        exact ⟨status, ⟨row, (kept.sent status row).1, nearer.trans_lt recent⟩, same.trans name⟩

theorem canWrite_iff (size : ℕ)
    (ordered : beats.Pairwise (fun earlier later => earlier.time ≤ later.time))
    : (afterBeats size beats).canWrite = true ↔ size / 2 + 1 ≤ (counted beats).card := by
  simp only [SplitBrainProtection.canWrite, SplitBrainProtection.isMajority,
    activeNodes_afterBeats size ordered, majority_afterBeats, decide_eq_true_eq]

-- When the quorum is current

theorem heardFrom_subset_counted (order : InOrder beats now)
    : heardFrom beats now ⊆ counted beats := by
  intro id heard
  obtain ⟨beat, member, name, recent⟩ := mem_heardFrom.mp heard
  cases ends : beats.getLast? with
  | none =>
      rw [List.getLast?_eq_none_iff.mp ends] at member
      simp at member
  | some last =>
      have past := order.past last (List.mem_of_getLast? ends)
      have nearer : last.time - beat.time ≤ now - beat.time := sub_le_sub_right past beat.time
      simp only [counted, ends]
      exact mem_heardFrom.mpr ⟨beat, member, name, nearer.trans_lt recent⟩

theorem filter_counted (order : InOrder beats now)
    : (counted beats).filter (fun id => id ∈ cluster ∧ id ∈ heardFrom beats now)
      = cluster ∩ heardFrom beats now := by
  ext id
  simp only [Finset.mem_filter, Finset.mem_inter]
  constructor
  · exact fun both => both.2
  · exact fun both => ⟨heardFrom_subset_counted order both.2, both⟩

theorem current_iff (order : InOrder beats now)
    : ((afterBeats cluster.card beats).canWrite → QuorumHeard cluster beats now)
      ↔ ¬ TippedByStrangers cluster beats now := by
  rw [canWrite_iff _ order.ordered, TippedByStrangers, filter_counted order, QuorumHeard, not_and,
    not_lt]

theorem not_disjoint_of_quorums (quorum : QuorumHeard cluster first now)
    (quorum' : QuorumHeard cluster second now)
    : ¬ Disjoint (senders first) (senders second) := by
  have overlap : cluster.card
      < (cluster ∩ heardFrom first now).card + (cluster ∩ heardFrom second now).card := by
    unfold QuorumHeard at quorum quorum'
    omega
  obtain ⟨id, shared⟩ := Finset.inter_nonempty_of_card_lt_card_add_card
    Finset.inter_subset_left Finset.inter_subset_left overlap
  simp only [Finset.mem_inter, mem_heardFrom] at shared
  obtain ⟨⟨_, beat, member, name, _⟩, _, beat', member', name', _⟩ := shared
  have sent : id ∈ senders first := List.mem_toFinset.mpr (List.mem_map.mpr ⟨beat, member, name⟩)
  have sent' : id ∈ senders second :=
    List.mem_toFinset.mpr (List.mem_map.mpr ⟨beat', member', name'⟩)
  exact fun apart => Finset.disjoint_left.mp apart sent sent'

/-- For every cluster, every two instances of it and every time: they write only with current quorums,
and not both if they listen to different nodes, exactly if strangers tip neither majority.
-/
theorem writes_with_quorum_iff (cluster : Finset String) (first second : List Beat) (now : ℚ)
    (order : InOrder first now) (order' : InOrder second now)
    : WritesWithQuorum cluster first second now
      ↔ ¬ TippedByStrangers cluster first now ∧ ¬ TippedByStrangers cluster second now := by
  rw [← current_iff order, ← current_iff order']
  constructor
  · exact fun right => ⟨right.current, right.current'⟩
  · intro ⟨current, current'⟩
    refine ⟨current, current', ?_⟩
    intro apart ⟨writes, writes'⟩
    exact not_disjoint_of_quorums (current writes) (current' writes') apart

def writerNodes : Finset String := {"node-0", "node-1", "node-2"}

def twoHeard : List Beat := [⟨"node-0", 0⟩, ⟨"node-1", 1⟩]

/-- The third is heard a minute later, under its name and another one. -/
def thirdHeard : List Beat := [⟨"node-2", 60⟩, ⟨"monitor", 60⟩]

/-- While two nodes are heard, one side writes. -/
theorem one_side_writes : WritesWithQuorum writerNodes twoHeard [⟨"node-2", 2⟩] 2 := by
  refine (writes_with_quorum_iff _ _ _ _ ⟨by decide, by decide⟩ ⟨by decide, by decide⟩).mpr ?_
  simp only [TippedByStrangers]
  decide +kernel

/-- A minute later both sides write, neither with a current quorum. -/
theorem both_sides_write : ¬ WritesWithQuorum writerNodes twoHeard thirdHeard 60 := by
  intro right
  exact right.alone (by decide +kernel) ⟨by decide +kernel, by decide +kernel⟩

end WriteQuorum

end RomaBridge.Properties
