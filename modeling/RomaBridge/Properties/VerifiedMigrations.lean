import RomaBridge.Foundation.Trace
import RomaBridge.Model.DeployAgent

/-! No restart on unverified migrations, and HEAD is what the service runs. An unreadable ledger and an
empty one both count as nothing pending; only the first read is checked for the flag that tells them
apart. A deployment that fails after the fast-forward resets the tree to `deployed_sha`, which is what
the service runs only while every deployment before it ended well and no restart that reported a
failure started a process.
-/

namespace RomaBridge.Properties

open RomaBridge.Foundation RomaBridge.Model RomaBridge.Model.DeployAgent

variable {commands tail : List Command} {files : List String}

def readSince (read : Option Ran) : Command → Option Ran
  | .readLedger ran => some ran
  | .migrate => none
  | _ => read

/-- The last read of the ledger that no migration run followed. -/
def lastRead (commands : List Command) : Option Ran := commands.foldl readSince none

def LedgerVerified (files : List String) (commands : List Command) : Prop :=
  ∃ ran, lastRead commands = some ran ∧ ran.rc = 0 ∧ ∀ file ∈ files, file ∈ appliedMigrations ran

/-- Every restart follows a verified ledger, and without one the service keeps running and the tree
is where it was or at `deployed_sha`.
-/
structure RestartsVerified (files : List String) (host : Host) (deployed : Deployed) : Prop where
  verified : ∀ earlier later, deployed.commands = earlier ++ .restart :: later →
    LedgerVerified files earlier
  otherwise : .restart ∉ deployed.commands → deployed.host.running = host.running
    ∧ (deployed.host.head = host.head ∨ deployed.host.head = host.deployedSha)

/-- The deployment gets to the second read of the ledger. -/
def readsAgain (files : List String) (outcomes : Outcomes) (sha : String) (host : Host) : Bool :=
  fastForwards outcomes sha host && outcomes.merge.rc = 0 && outcomes.compileall.rc = 0
    && (pendingMigrations files outcomes.ledgerBefore).2
    && (pendingMigrations files outcomes.ledgerBefore).1 ≠ []
    && outcomes.adminDsn && outcomes.migrate.rc = 0

/-- The second read succeeds and is not empty, and a tree that has to go back goes back. -/
structure ReadsAndResets (migrationFiles : String → List String) (rollbackOnUnhealthy : Bool)
    (outcomes : Outcomes) (sha : String) (host : Host)
    : Prop where
  reads : readsAgain (migrationFiles sha) outcomes sha host = true →
    appliedMigrations outcomes.ledgerAfter ≠ []
  merge : deployExit migrationFiles rollbackOnUnhealthy outcomes sha host = .mergeFailed →
    outcomes.mergeMoved = true → sha = host.head ∨ sha = host.deployedSha
  reset : deployExit migrationFiles rollbackOnUnhealthy outcomes sha host = .aborted →
    outcomes.resets = false → sha = host.head ∨ sha = host.deployedSha

-- The commands of a deployment

theorem commands_abort (outcomes : Outcomes) (sha : String) (commands : List Command) (host : Host)
    (reason detail : String) (verdict : Verdict)
    : ∃ tail, (abort outcomes sha commands host reason detail verdict).commands = commands ++ tail
      ∧ ∀ command ∈ tail, command = .reset := by
  unfold abort rollbackTree
  by_cases unknown : host.deployedSha = ""
  · exact ⟨[], by simp [unknown], by simp⟩
  · exact ⟨[.reset], by simp [unknown], by simp⟩

theorem host_abort {outcomes : Outcomes} {sha : String} {commands : List Command} {host : Host}
    {reason detail : String} {verdict : Verdict} (known : host.deployedSha ≠ "")
    : (abort outcomes sha commands host reason detail verdict).host.running = host.running
      ∧ (abort outcomes sha commands host reason detail verdict).host.head
        = if outcomes.resets then host.deployedSha else host.head := by
  have left : (abort outcomes sha commands host reason detail verdict).host.forget
      = (resetTo outcomes host.deployedSha host).forget := abort_forget known
  refine ⟨(congrArg Host.running left).trans ?_, (congrArg Host.head left).trans ?_⟩
  · unfold resetTo Host.forget
    split <;> rfl
  · unfold resetTo Host.forget
    split <;> rfl

theorem commands_deployRestart (rollbackOnUnhealthy : Bool) (outcomes : Outcomes) (sha : String)
    (commands : List Command) (host : Host)
    : ∃ tail, (deployRestart rollbackOnUnhealthy outcomes sha commands host).commands
        = commands ++ .restart :: tail
      ∧ ∀ command ∈ tail, command = .reset ∨ command = .restart := by
  unfold deployRestart
  dsimp only
  split
  · obtain ⟨tail, same, resets⟩ := commands_abort outcomes sha (commands ++ [.restart])
      (restartService outcomes.restart host).2 "restart_failed"
      (restartDetail outcomes.restart.ran) ⟨"failure", "рестарт сервиса не удался"⟩
    exact ⟨tail, by simpa using same, fun command member => .inl (resets command member)⟩
  · split
    · split
      · exact ⟨[.reset, .restart], by simp, by simp⟩
      · exact ⟨[], rfl, by simp⟩
    · exact ⟨[], rfl, by simp⟩

theorem lastRead_append (quiet : ∀ command ∈ tail, command = .reset ∨ command = .restart)
    : lastRead (commands ++ tail) = lastRead commands := by
  unfold lastRead
  rw [List.foldl_append]
  induction tail generalizing commands with
  | nil => rfl
  | cons command rest ih =>
      rw [List.forall_mem_cons] at quiet
      rcases quiet with ⟨rfl | rfl, quiet⟩
      · exact ih quiet
      · exact ih quiet

theorem split_at_restart {earlier later : List Command} (early : .restart ∉ commands)
    (split : commands ++ .restart :: tail = earlier ++ .restart :: later)
    : ∃ more, earlier = commands ++ more ∧ ∀ command ∈ more, command ∈ Command.restart :: tail := by
  rcases List.append_eq_append_iff.mp split with ⟨more, same, rest⟩ | ⟨more, same, rest⟩
  · exact ⟨more, same, fun command member => by rw [rest]; exact List.mem_append_left _ member⟩
  · cases more with
    | nil => exact ⟨[], by simpa using same.symm, by simp⟩
    | cons command more =>
        rw [List.cons_append, List.cons.injEq] at rest
        refine absurd ?_ early
        rw [same, ← rest.1]
        simp

theorem verified_iff (early : .restart ∉ commands)
    (quiet : ∀ command ∈ tail, command = .reset ∨ command = .restart)
    : (∀ earlier later, commands ++ .restart :: tail = earlier ++ .restart :: later →
        LedgerVerified files earlier)
      ↔ LedgerVerified files commands := by
  constructor
  · exact fun verified => verified commands tail rfl
  · intro ⟨ran, read, facts⟩ earlier later split
    obtain ⟨more, rfl, late⟩ := split_at_restart early split
    refine ⟨ran, ?_, facts⟩
    rw [lastRead_append, read]
    intro command member
    rcases List.mem_cons.mp (late command member) with rfl | later
    · exact .inr rfl
    · exact quiet command later

-- The ledger

theorem pendingMigrations_flag (files : List String) (ledger : Ran)
    : (pendingMigrations files ledger).2 = true ↔ appliedMigrations ledger ≠ [] := by
  unfold pendingMigrations
  split <;> simp_all

theorem pendingMigrations_eq_nil {ledger : Ran} (read : appliedMigrations ledger ≠ [])
    : (pendingMigrations files ledger).1 = []
      ↔ ∀ file ∈ files, file ∈ appliedMigrations ledger := by
  simp [pendingMigrations, read, List.filter_eq_nil_iff]

theorem rc_of_applied {ledger : Ran} (read : appliedMigrations ledger ≠ []) : ledger.rc = 0 := by
  by_contra failed
  simp [appliedMigrations, failed] at read

/-- The ledger is verified before the restart exactly when the second read, if there is one, found
something.
-/
theorem ledgerVerified_iff {outcomes : Outcomes}
    (readable : (pendingMigrations files outcomes.ledgerBefore).2 = true)
    (current : migrates files outcomes = true)
    : LedgerVerified files (commands ++ ledgerCommands files outcomes)
      ↔ ((pendingMigrations files outcomes.ledgerBefore).1 ≠ [] →
        appliedMigrations outcomes.ledgerAfter ≠ []) := by
  rw [pendingMigrations_flag] at readable
  unfold LedgerVerified lastRead ledgerCommands
  rw [List.foldl_append]
  by_cases nothing : (pendingMigrations files outcomes.ledgerBefore).1 = []
  · refine iff_of_true ?_ (fun pending => absurd nothing pending)
    rw [if_pos nothing]
    exact ⟨_, rfl, rc_of_applied readable, (pendingMigrations_eq_nil readable).mp nothing⟩
  · simp only [migrates, nothing, decide_false, Bool.false_or, Bool.and_eq_true,
      decide_eq_true_eq] at current
    rw [if_neg nothing]
    simp only [List.foldl_cons, List.foldl_nil, readSince, Option.some.injEq, exists_eq_left']
    constructor
    · rintro ⟨-, contained⟩ - empty
      rw [empty] at contained
      apply nothing
      rw [pendingMigrations_eq_nil readable]
      exact fun file member => absurd (contained file member) (by simp)
    · intro filled
      exact ⟨rc_of_applied (filled nothing),
        (pendingMigrations_eq_nil (filled nothing)).mp current.2⟩

-- The exits of a deployment

section Exits

variable {migrationFiles : String → List String} {rollbackOnUnhealthy : Bool} {outcomes : Outcomes}
  {sha : String} {host : Host}

theorem restartsVerified_unrestarted {deployed : Deployed} (quiet : .restart ∉ deployed.commands)
    : RestartsVerified files host deployed
      ↔ deployed.host.running = host.running
        ∧ (deployed.host.head = host.head ∨ deployed.host.head = host.deployedSha) := by
  constructor
  · exact fun right => right.otherwise quiet
  · intro kept
    refine ⟨fun earlier later split => absurd ?_ quiet, fun _ => kept⟩
    rw [split]
    simp

theorem readsAndResets_refused (refuses : fastForwards outcomes sha host = false)
    : ReadsAndResets migrationFiles rollbackOnUnhealthy outcomes sha host where
  reads := by simp [readsAgain, refuses]
  merge := by simp [deployExit, refuses]
  reset := by simp [deployExit, refuses]

theorem readsAndResets_mergeFailed (forwards : fastForwards outcomes sha host = true)
    (failed : outcomes.merge.rc ≠ 0)
    : ReadsAndResets migrationFiles rollbackOnUnhealthy outcomes sha host
      ↔ (outcomes.mergeMoved = true → sha = host.head ∨ sha = host.deployedSha) := by
  have exit : deployExit migrationFiles rollbackOnUnhealthy outcomes sha host = .mergeFailed := by
    simp [deployExit, forwards, failed]
  constructor
  · exact fun resets => resets.merge exit
  · intro kept
    exact ⟨by simp [readsAgain, failed], fun _ => kept, by simp [exit]⟩

theorem readsAndResets_aborted (forwards : fastForwards outcomes sha host = true)
    (merged : outcomes.merge.rc = 0) (fails : restarts (migrationFiles sha) outcomes = false)
    : ReadsAndResets migrationFiles rollbackOnUnhealthy outcomes sha host
      ↔ (outcomes.resets = false → sha = host.head ∨ sha = host.deployedSha) := by
  have exit : deployExit migrationFiles rollbackOnUnhealthy outcomes sha host = .aborted := by
    simp [deployExit, forwards, merged, fails]
  constructor
  · exact fun resets => resets.reset exit
  · intro kept
    refine ⟨?_, by simp [exit], fun _ => kept⟩
    intro again empty
    have nothing : (pendingMigrations (migrationFiles sha) outcomes.ledgerAfter).1 = [] := by
      simp [pendingMigrations, empty]
    simp only [readsAgain, Bool.and_eq_true, decide_eq_true_eq] at again
    simp [restarts, migrates, again, nothing] at fails

theorem readsAndResets_restarted (forwards : fastForwards outcomes sha host = true)
    (merged : outcomes.merge.rc = 0) (passes : restarts (migrationFiles sha) outcomes = true)
    : ReadsAndResets migrationFiles rollbackOnUnhealthy outcomes sha host
      ↔ ((pendingMigrations (migrationFiles sha) outcomes.ledgerBefore).1 ≠ [] →
        appliedMigrations outcomes.ledgerAfter ≠ []) := by
  have exit : deployExit migrationFiles rollbackOnUnhealthy outcomes sha host
      = restartExit rollbackOnUnhealthy outcomes := by
    simp [deployExit, forwards, merged, passes]
  have elsewhere : restartExit rollbackOnUnhealthy outcomes ≠ .mergeFailed
      ∧ restartExit rollbackOnUnhealthy outcomes ≠ .aborted := by
    unfold restartExit
    constructor <;> (repeat' split) <;> simp
  obtain ⟨compiled, readable, current⟩ : outcomes.compileall.rc = 0
      ∧ (pendingMigrations (migrationFiles sha) outcomes.ledgerBefore).2 = true
      ∧ migrates (migrationFiles sha) outcomes = true := by
    simpa [restarts, and_assoc] using passes
  constructor
  · intro needed pending
    have ran : outcomes.adminDsn = true ∧ outcomes.migrate.rc = 0 := by
      simp only [migrates, pending, decide_false, Bool.false_or, Bool.and_eq_true,
        decide_eq_true_eq] at current
      exact current.1
    apply needed.reads
    simp [readsAgain, forwards, merged, compiled, readable, pending, ran]
  · intro filled
    refine ⟨?_, by simp [exit, elsewhere.1], by simp [exit, elsewhere.2]⟩
    intro again
    simp only [readsAgain, Bool.and_eq_true, decide_eq_true_eq] at again
    exact filled again.1.1.2

theorem restartsVerified_mergeFailed {reason detail : String} {verdict : Verdict}
    (quiet : .restart ∉ commands)
    : RestartsVerified files host
        (refuse sha commands (if outcomes.mergeMoved then { host with head := sha } else host)
          reason detail verdict)
      ↔ (outcomes.mergeMoved = true → sha = host.head ∨ sha = host.deployedSha) := by
  rw [restartsVerified_unrestarted quiet]
  cases moved : outcomes.mergeMoved with
  | false => simp [refuse, fail]
  | true => simp [refuse, fail]

/-- An abort after the merge leaves the tree at `deployed_sha`, unless its reset fails. -/
theorem restartsVerified_aborted {reason detail : String} {verdict : Verdict}
    (known : host.deployedSha ≠ "") (quiet : .restart ∉ commands)
    : RestartsVerified files host
        (abort outcomes sha commands { host with head := sha } reason detail verdict)
      ↔ (outcomes.resets = false → sha = host.head ∨ sha = host.deployedSha) := by
  obtain ⟨tail, same, resets⟩ := commands_abort outcomes sha commands { host with head := sha }
    reason detail verdict
  obtain ⟨running, head⟩ := @host_abort outcomes sha commands { host with head := sha } reason
    detail verdict known
  have silent : .restart ∉ (abort outcomes sha commands { host with head := sha } reason detail
      verdict).commands := by
    rw [same, List.mem_append]
    rintro (early | late)
    · exact quiet early
    · cases resets .restart late
  rw [restartsVerified_unrestarted silent, running, head]
  cases takes : outcomes.resets with
  | false => simp
  | true => simp

theorem restart_not_mem_ledgerCommands (files : List String) (outcomes : Outcomes)
    : Command.restart ∉ ledgerCommands files outcomes := by
  unfold ledgerCommands
  split
  · simp
  · simp

theorem restartsVerified_restarted {merged : Host} (early : .restart ∉ commands)
    : RestartsVerified files host
        (deployRestart rollbackOnUnhealthy outcomes sha commands merged)
      ↔ LedgerVerified files commands := by
  obtain ⟨tail, same, quiet⟩ :=
    commands_deployRestart rollbackOnUnhealthy outcomes sha commands merged
  rw [← verified_iff early quiet, ← same]
  constructor
  · exact fun right => right.verified
  · intro verified
    refine ⟨verified, fun silent => absurd ?_ silent⟩
    rw [same]
    simp

end Exits

/-- No restart on unverified migrations, and the tree back where it was, exactly when the second
read finds something and the resets that are needed take effect. One case per exit.
-/
theorem restartsVerified_iff (migrationFiles : String → List String) (rollbackOnUnhealthy : Bool)
    (outcomes : Outcomes) (sha : String) (host : Host)
    : RestartsVerified (migrationFiles sha) host
        (doDeploy migrationFiles rollbackOnUnhealthy outcomes sha host)
      ↔ ReadsAndResets migrationFiles rollbackOnUnhealthy outcomes sha host := by
  rcases doDeploy_cases migrationFiles rollbackOnUnhealthy outcomes sha host with
    ⟨refuses, commands, reason, detail, verdict, same, quiet⟩ | ⟨forwards, known, same⟩
  · rw [same, restartsVerified_unrestarted quiet]
    exact iff_of_true ⟨rfl, .inl rfl⟩ (readsAndResets_refused refuses)
  rcases deployMerge_cases migrationFiles rollbackOnUnhealthy outcomes sha
    [.fetch, .mergeBase, .diff] host with ⟨failed, reason, detail, verdict, merges⟩
    | ⟨merged, fails, more, reason, detail, verdict, aborts, quiet⟩ | ⟨merged, passes, goes⟩
  · rw [same, merges, readsAndResets_mergeFailed forwards failed]
    exact restartsVerified_mergeFailed (by simp)
  · rw [same, aborts, readsAndResets_aborted forwards merged fails]
    exact restartsVerified_aborted known (by simp [quiet])
  · obtain ⟨readable, current⟩ :
        (pendingMigrations (migrationFiles sha) outcomes.ledgerBefore).2 = true
        ∧ migrates (migrationFiles sha) outcomes = true := by
      simp only [restarts, Bool.and_eq_true] at passes
      exact ⟨passes.1.2, passes.2⟩
    have early : .restart ∉ [.fetch, .mergeBase, .diff] ++ [.merge, .compileall]
        ++ ledgerCommands (migrationFiles sha) outcomes := by
      rw [List.mem_append, not_or]
      exact ⟨by simp, restart_not_mem_ledgerCommands _ _⟩
    rw [same, goes, readsAndResets_restarted forwards merged passes,
      restartsVerified_restarted early, ledgerVerified_iff readable current]

def secondReadFails : Outcomes where
  fetch := returned 0 ""
  mergeBase := returned 0 ""
  diff := returned 0 ""
  merge := returned 0 ""
  mergeMoved := true
  compileall := returned 0 ""
  ledgerBefore := returned 0 "001.sql"
  adminDsn := true
  migrate := returned 0 ""
  ledgerAfter := returned 2 ""
  restart := ⟨returned 0 "", .started⟩
  health := (true, "ok")
  resets := true
  restartAgain := ⟨returned 0 "", .started⟩
  healthAgain := (true, "ok")

/-- The service is restarted on a ledger that was not read after the migrations. -/
theorem unread_ledger_restarts
    : ¬ RestartsVerified ["001.sql", "002.sql"] (bootstrapped "b")
      (doDeploy (fun _ => ["001.sql", "002.sql"]) false secondReadFails "a"
        (bootstrapped "b")) := by
  intro right
  obtain ⟨ran, read, rc, -⟩ := right.verified
    [.fetch, .mergeBase, .diff, .merge, .compileall, .readLedger (returned 0 "001.sql"), .migrate,
      .readLedger (returned 2 "")] [] rfl
  cases read
  cases rc

/-- A run of the agent: a cycle, with whether the service is healthy after it, or `--retry-all`. -/
inductive AgentCall where
  | cycle (dryRun rollbackOnUnhealthy : Bool) (met : Surroundings) (healthy : Bool)
  | retryAll

def agentStep (migrationFiles : String → List String) (host : Host) : AgentCall → Unit × Host
  | .cycle dryRun rollbackOnUnhealthy met _ =>
      ((), DeployAgent.cycle migrationFiles dryRun rollbackOnUnhealthy met host)
  | .retryAll => ((), DeployAgent.retryAll host)

def HealthyAfter : AgentCall → Prop
  | .cycle _ _ _ healthy => healthy = true
  | .retryAll => False

def Runs (host : Host) (commit : String) : Prop :=
  ∀ running, host.running = some running → running = commit

/-- The commit at HEAD is the one that the service runs, and `deployed_sha` is too when it is
healthy.
-/
def Synced (host : Host) (healthy : Prop) : Prop :=
  Runs host host.head ∧ (healthy → Runs host host.deployedSha)

def HeadRuns (visit : Visit Host AgentCall Unit) : Prop :=
  Synced visit.after (HealthyAfter visit.call)

/-- The tree is reset to what the service runs, or stays at it, and that was deployed last if the
service is healthy.
-/
def ResetsToRunning (outcomes : Outcomes) (sha : String) (host : Host) (healthy : Bool) : Prop :=
  Runs host (if outcomes.resets then host.deployedSha else sha)
  ∧ (healthy = true → Runs host host.deployedSha)

def EndsInSync (outcomes : Outcomes) (sha : String) (host : Host) (healthy : Bool)
    : DeployExit → Prop
  | .refused => healthy = true → Runs host host.deployedSha
  | .mergeFailed =>
      (outcomes.mergeMoved = true → Runs host sha)
      ∧ (healthy = true → Runs host host.deployedSha)
  | .aborted => ResetsToRunning outcomes sha host healthy
  | .restartFailed =>
      match outcomes.restart.left with
      | .kept => ResetsToRunning outcomes sha host healthy
      | .stopped => True
      | .started => outcomes.resets = false ∧ healthy = false
  | .unhealthy => healthy = false
  | .rolledBack =>
      match outcomes.restartAgain.left with
      | .kept => outcomes.resets = false ∧ healthy = false
      | .stopped => True
      | .started => healthy = true → outcomes.resets = true
  | .deployed => True

/-- What a run has to meet: its deployment if it makes one, or else that a healthy service runs what
was deployed last.
-/
def StaysInSync (migrationFiles : String → List String) (host : Host) : AgentCall → Prop
  | .cycle dryRun rollbackOnUnhealthy met healthy =>
      match cycleTarget dryRun met host with
      | .inl _ => healthy = true → Runs host host.deployedSha
      | .inr sha =>
          EndsInSync met.outcomes sha host healthy
            (deployExit migrationFiles rollbackOnUnhealthy met.outcomes sha host)
  | .retryAll => True

theorem synced_congr {host other : Host} (same : host.forget = other.forget) (healthy : Prop)
    : Synced host healthy ↔ Synced other healthy := by
  have whole : Synced host.forget healthy ↔ Synced other.forget healthy := by rw [same]
  exact whole

theorem leaves_synced_iff {outcomes : Outcomes} {sha : String} {host : Host}
    (inSync : Runs host host.head) (other : sha ≠ host.deployedSha) (healthy : Bool)
    (exit : DeployExit)
    : Synced (leaves outcomes sha host exit) (healthy = true)
      ↔ EndsInSync outcomes sha host healthy exit := by
  unfold Synced
  cases exit with
  | refused => exact and_iff_right inSync
  | mergeFailed =>
      cases moved : outcomes.mergeMoved with
      | true => simp [leaves, EndsInSync, moved, Runs]
      | false => simpa [leaves, EndsInSync, moved] using fun _ => inSync
  | aborted =>
      cases resets : outcomes.resets <;>
        simp [leaves, EndsInSync, ResetsToRunning, resetTo, resets, Runs]
  | restartFailed =>
      simp only [leaves, EndsInSync, restartService_left]
      cases outcomes.restart.left <;> cases resets : outcomes.resets <;>
        simp [ResetsToRunning, resetTo, resets, Runs, other]
  | unhealthy => simp [leaves, EndsInSync, Runs, other]
  | rolledBack =>
      simp only [leaves, EndsInSync, restartService_left]
      cases outcomes.restartAgain.left <;> cases resets : outcomes.resets <;>
        simp [resetTo, resets, Runs, other]
  | deployed => simp [leaves, EndsInSync, Runs]

theorem headRuns_iff {migrationFiles : String → List String} {host : Host} {call : AgentCall}
    (inSync : Runs host host.head)
    : HeadRuns ⟨host, call, (agentStep migrationFiles host call).1,
        (agentStep migrationFiles host call).2⟩
      ↔ StaysInSync migrationFiles host call := by
  cases call with
  | retryAll => exact iff_of_true ⟨inSync, fun healthy => healthy.elim⟩ trivial
  | cycle dryRun rollbackOnUnhealthy met healthy =>
      simp only [HeadRuns, StaysInSync, agentStep, HealthyAfter, DeployAgent.cycle]
      cases target : cycleTarget dryRun met host with
      | inl unchanged =>
          exact (synced_congr (cycleTarget_forget target) _).trans (and_iff_right inSync)
      | inr sha =>
          have other : sha ≠ host.deployedSha := deployedSha_of_cycleTarget target
          have left := doDeploy_leaves migrationFiles rollbackOnUnhealthy met.outcomes sha host
          exact (synced_congr left _).trans (leaves_synced_iff inSync other healthy _)

/-- HEAD is what the service runs after every run of the agent exactly when all runs meet what they
have to.
-/
theorem headIsDeployed_iff (migrationFiles : String → List String) (commit : String)
    (calls : List AgentCall)
    : (∀ visit ∈ visits (agentStep migrationFiles) (bootstrapped commit) calls, HeadRuns visit)
      ↔ ∀ visit ∈ visits (agentStep migrationFiles) (bootstrapped commit) calls,
        StaysInSync migrationFiles visit.before visit.call := by
  have exact_ : ∀ host call, Runs host host.head → True →
      (HeadRuns ⟨host, call, (agentStep migrationFiles host call).1,
        (agentStep migrationFiles host call).2⟩ ↔ StaysInSync migrationFiles host call) :=
    fun _ _ inSync _ => headRuns_iff inSync
  refine throughout_iff exact_ ?_ ?_ (fun _ _ => trivial)
  · intro host call inSync _ stays
    exact ((headRuns_iff inSync).mpr stays).1
  · rintro running ⟨⟩
    rfl

/-- A deployment without migrations whose restart timed out after the new process had started. -/
def lateRestart : Outcomes where
  fetch := returned 0 ""
  mergeBase := returned 0 ""
  diff := returned 0 ""
  merge := returned 0 ""
  mergeMoved := true
  compileall := returned 0 ""
  ledgerBefore := returned 0 "001.sql"
  adminDsn := true
  migrate := returned 0 ""
  ledgerAfter := returned 0 "001.sql"
  restart := ⟨⟨124, "", "timeout after 90s"⟩, .started⟩
  health := (true, "ok")
  resets := true
  restartAgain := ⟨returned 0 "", .started⟩
  healthAgain := (true, "ok")

/-- The tree is reset to the old commit while the service runs the new one. -/
theorem late_restart_runs_other_commit
    : ¬ ∀ visit ∈ visits (agentStep (fun _ => ["001.sql"])) (bootstrapped "b")
        [.cycle false false
          ⟨returned 0 "a", some [⟨"a", "completed", "success"⟩], returned 0 "", lateRestart⟩ true],
      HeadRuns visit := by
  intro all
  have last := all _ (List.mem_of_getLast? rfl)
  have same : "a" = "b" := last.1 "a" rfl
  exact absurd same (by decide)

end RomaBridge.Properties
