import RomaBridge.Properties.CurrentCopies

/-! Suspensions and challenges of hosts that several processes share. Every write of a host is a whole
copy of one process, so a suspension holds as long as every step works on a copy that no other process
has overtaken. A reloaded host takes its newest unanswered verification, which is an old one while
another process has reserved the host and not yet issued its own.
-/

namespace RomaBridge.Properties

open RomaBridge.Foundation RomaBridge.Model.Hosts

def isSuspension (hostId : String) (event : ClusterEvent) : Bool := event = .suspended hostId

def sinceSuspension (hostId : String) (log : List ClusterEvent) : List ClusterEvent :=
  since (isSuspension hostId) log

def StartedSince (log : List ClusterEvent) (hostId : String) (spec : VerificationJobSpec) : Prop :=
  ∃ token, [.reserved hostId token, .issued token spec].Sublist (sinceSuspension hostId log)

def RestoredSince (log : List ClusterEvent) (hostId : String) : Prop :=
  ∃ token spec, [.reserved hostId token, .issued token spec, .judged spec .passed].Sublist
    (sinceSuspension hostId log)

/-- The host was suspended, and no verification started behind that has passed. -/
def StillSuspended (log : List ClusterEvent) (hostId : String) : Prop :=
  .suspended hostId ∈ log ∧ ¬ RestoredSince log hostId

variable {log : List ClusterEvent} {hostId : String} {event : ClusterEvent}

theorem not_suspension_of_quiet (quiet : event.changesStatus hostId = false)
    : isSuspension hostId event = false := by
  unfold isSuspension
  by_contra suspended
  obtain rfl : event = .suspended hostId := by simpa using suspended
  simp [ClusterEvent.changesStatus] at quiet

theorem sinceSuspension_snoc (other : isSuspension hostId event = false)
    : sinceSuspension hostId (log ++ [event]) = sinceSuspension hostId log ++ [event] :=
  since_snoc_of_not other

/-- What a current copy tells about the time since the last suspension. -/
def suspensionReading : Reading where
  reserved log hostId token := .reserved hostId token ∈ sinceSuspension hostId log
  challenged := StartedSince
  active := RestoredSince
  verifying _ _ := True
  loadable := StartedSince
  quiet := by
    intro log hostId event quiet
    have snoc := @sinceSuspension_snoc log hostId event (not_suspension_of_quiet quiet)
    refine ⟨?_, ?_, ?_, fun _ => trivial⟩
    · intro token reserved
      rw [snoc]
      exact List.mem_append_left _ reserved
    · intro spec started
      obtain ⟨token, sublist⟩ := started
      exact ⟨token, snoc ▸ sublist.trans (List.sublist_append_left _ _)⟩
    · intro restored
      obtain ⟨token, spec, sublist⟩ := restored
      exact ⟨token, spec, snoc ▸ sublist.trans (List.sublist_append_left _ _)⟩
  start := by
    intro log hostId token
    refine ⟨?_, trivial⟩
    rw [sinceSuspension_snoc (by simp [isSuspension])]
    simp
  issue := by
    intro log hostId token reserved spec
    refine ⟨token, ?_⟩
    rw [sinceSuspension_snoc (by simp [isSuspension])]
    exact List.Sublist.append (List.singleton_sublist.mpr reserved) (List.Sublist.refl [_])
  pass := by
    intro log hostId spec started
    obtain ⟨token, sublist⟩ := started
    refine ⟨token, spec, ?_⟩
    rw [sinceSuspension_snoc (by simp [isSuspension])]
    exact List.Sublist.append sublist (List.Sublist.refl [_])
  activate := by
    intro log hostId restored spec
    obtain ⟨token, passed, sublist⟩ := restored
    refine ⟨token, passed, ?_⟩
    rw [sinceSuspension_snoc (by simp [isSuspension])]
    exact sublist.trans (List.sublist_append_left _ _)
  load := fun _ started => started

/-- The suspension of a suspended host holds: its row is not active, and no heartbeat was answered
with an active host.
-/
def SuspensionsHold (cluster : Cluster) : Prop :=
  (∀ hostId row, cluster.db.hosts.find? hostId = some row → StillSuspended cluster.log hostId
    → row.status ≠ .active)
  ∧ Throughout (fun before event => ∀ hostId status accepted,
      event = .reported hostId status accepted → StillSuspended before hostId → status ≠ .active)
    cluster.log

/-- A step works on current copies: whatever it writes as active, reports as active or issues is
read from a copy that no other process has overtaken, and a load takes no verification that was
started before the last suspension.
-/
def WorksOnCurrentCopies (cluster : Cluster) (call : ClusterCall) : Prop :=
  Timely StartedSince cluster call
  ∧ ∀ pid tid object accepted copy, call = .report pid tid
    → (cluster.procs pid).threads tid = .beaten object accepted
    → (cluster.procs pid).objects[object]? = some copy → copy.record.status = .active
    → UpToDate cluster.log copy

/-- Suspensions hold in every state of every run whose steps all work on current copies. -/
theorem suspensions_hold_on_current_copies (sha256 : String → String) (bench : Bench)
    (calls : List ClusterCall) (current : AllSteps sha256 bench WorksOnCurrentCopies calls)
    : ∀ past, past <+: calls → SuspensionsHold (clusterRun sha256 bench past) := by
  intro past reached
  obtain ⟨future, rfl⟩ := reached
  have inv : ∀ before, before <+: past
      → ClusterInv suspensionReading (clusterRun sha256 bench before) := by
    rintro before ⟨rest, rfl⟩
    exact .run suspensionReading (fun _ _ step => step.1) current.init.init
  constructor
  · intro hostId row found suspended active
    exact suspended.2 (((inv past (List.prefix_refl _)).rows hostId row found).1 active)
  · refine throughout_run ?_
    intro before call after split event explained hostId status accepted same suspended active
    subst same
    obtain ⟨pid, tid, object, copy, rfl, standing, stored, rfl, rfl⟩ := explained
    have fresh := (current before _ (after ++ future) (by simp [split])).2 pid tid object accepted
      copy rfl standing stored active
    have known := ((inv before ⟨_, split.symm⟩).procs pid).objects copy (List.mem_of_getElem? stored)
    exact suspended.2 (known.active active fresh)

theorem worksOnCurrentCopies_of_timely {cluster : Cluster} {call : ClusterCall}
    (timely : Timely StartedSince cluster call) (silent : ∀ pid tid, call ≠ .report pid tid)
    : WorksOnCurrentCopies cluster call :=
  ⟨timely, fun pid tid _ _ _ same => absurd same (silent pid tid)⟩

/-- Hashes that differ whenever their texts do. -/
def taggedHash (text : String) : String := "sha256:" ++ text

/-- An operator registers and suspends a host, which then asks a server for a heartbeat. -/
def heartbeatBehindSuspension : List ClusterCall :=
  [.apply 0 "ref" "rtx" 1 24 "eu" false "host-1" 0, .suspend 0 "host-1" "abuse",
    .readRow 1 0 "host-1", .install 1 0, .getHost 1 0, .heartbeat 1 0 2, .report 1 0]

/-- The heartbeat of a suspended host is not accepted, and answered with its status. -/
theorem suspension_seen_by_heartbeat
    : (clusterRun taggedHash flatBench heartbeatBehindSuspension).log
        = [.registered "host-1", .suspended "host-1", .reported "host-1" .suspended false]
      ∧ ∀ past, past <+: heartbeatBehindSuspension
        → SuspensionsHold (clusterRun taggedHash flatBench past) := by
  refine ⟨by decide +kernel, suspensions_hold_on_current_copies taggedHash flatBench _ ?_⟩
  have loaded : AllSteps taggedHash flatBench WorksOnCurrentCopies
      (heartbeatBehindSuspension.take 5) := by
    refine ((((AllSteps.nil _ _ _).snoc ?_).snoc ?_).snoc ?_ |>.snoc ?_).snoc ?_
    all_goals exact worksOnCurrentCopies_of_timely trivial (fun _ _ impossible => by cases impossible)
  refine (loaded.snoc (worksOnCurrentCopies_of_timely ?_ ?_)).snoc ⟨trivial, ?_⟩
  · intro hostId got object copy standing found active
    obtain ⟨rfl, rfl⟩ : "host-1" = hostId ∧ 0 = got := by
      simpa using (show ApiThread.beating "host-1" 0 = .beating hostId got from standing)
    have suspended : (((clusterRun taggedHash flatBench (heartbeatBehindSuspension.take 5)).procs
        1).registered "host-1").map (fun found => found.2.record.status) = some .suspended := by
      decide +kernel
    rw [found, Option.map_some, active] at suspended
    cases suspended
  · intro pid tid impossible
    cases impossible
  · intro pid tid object accepted copy same standing stored active
    obtain ⟨rfl, rfl⟩ := ClusterCall.report.inj same
    obtain ⟨rfl, rfl⟩ : 0 = object ∧ false = accepted := by
      simpa using (show ApiThread.beaten 0 false = .beaten object accepted from standing)
    have suspended : (((clusterRun taggedHash flatBench (heartbeatBehindSuspension.take 6)).procs
        1).objects[0]?).map (fun copy => copy.record.status) = some .suspended := by
      decide +kernel
    rw [show ((clusterRun taggedHash flatBench (heartbeatBehindSuspension.take 6)).procs
      1).objects[0]? = some copy from stored, Option.map_some, active] at suspended
    cases suspended

def serverRefresh : List ClusterCall :=
  [.readRow 1 0 "host-1", .readSpec 1 0, .install 1 0]

def serverFetch : List ClusterCall :=
  [.fetchJob 1 0, .checkJob 1 0, .putJobToken 1 0 "job-token"]

/-- The host submits the expected hash and a score inside the bounds. -/
def serverSubmit : List ClusterCall :=
  [.consumeJobToken 1 0 "verify-1" (some "job-token"),
    .submitVerification 1 0 "hash" (some 1) 1, .persistVerification 1]

def issuedChallenge : List ClusterCall :=
  [.apply 0 "ref" "rtx" 1 24 "eu" false "host-1" 0,
    .startVerification 0 0 "host-1" "token-1" "seed-1" (fun _ => some (1, 10))
      "roma/host-bench:pinned" 4096 20,
    .hashComputed 0 0 "verify-1"]

def fetchedChallenge : List ClusterCall := issuedChallenge ++ serverRefresh ++ serverFetch

def suspendedBehindRefresh : List ClusterCall :=
  [.readRow 1 1 "host-1", .install 1 1, .getHost 1 1, .readRow 2 0 "host-1", .install 2 0,
    .suspend 2 "host-1" "abuse", .heartbeat 1 1 2, .report 1 1]

/-- The host passes and asks for a heartbeat; another process suspends it behind the refresh. -/
def overtakenHeartbeat : List ClusterCall :=
  fetchedChallenge ++ serverRefresh ++ serverSubmit ++ suspendedBehindRefresh

/-- The heartbeat writes the suspended host as active and says so. -/
theorem suspended_host_restored
    : StillSuspended (clusterRun taggedHash flatBench overtakenHeartbeat).log "host-1"
      ∧ (clusterRun taggedHash flatBench overtakenHeartbeat).db.hosts.rows.map HostRow.status
        = [.active]
      ∧ sinceSuspension "host-1" (clusterRun taggedHash flatBench overtakenHeartbeat).log
        = [.reported "host-1" .active true]
      ∧ ¬ SuspensionsHold (clusterRun taggedHash flatBench overtakenHeartbeat) := by
  have behind : sinceSuspension "host-1" (clusterRun taggedHash flatBench overtakenHeartbeat).log
      = [.reported "host-1" .active true] := by decide +kernel
  have suspended : StillSuspended (clusterRun taggedHash flatBench overtakenHeartbeat).log
      "host-1" := by
    refine ⟨by decide +kernel, ?_⟩
    intro ⟨token, spec, sublist⟩
    rw [behind] at sublist
    have short := sublist.length_le
    simp at short
  have stored : (((clusterRun taggedHash flatBench overtakenHeartbeat).db.hosts.find? "host-1").map
      HostRow.status) = some .active := by decide +kernel
  refine ⟨suspended, by decide +kernel, behind, fun holds => ?_⟩
  obtain ⟨row, found, active⟩ := Option.map_eq_some_iff.mp stored
  exact holds.1 "host-1" row found suspended active

def isStart (hostId : String) : ClusterEvent → Bool
  | .reserved host _ => host = hostId
  | _ => false

/-- What happened since the latest `start_verification` of the host. -/
def sinceStart (hostId : String) (log : List ClusterEvent) : List ClusterEvent :=
  since (isStart hostId) log

/-- The specification was created by the latest `start_verification` of the host. -/
def NewestSpec (log : List ClusterEvent) (hostId : String) (spec : VerificationJobSpec) : Prop :=
  ∃ token, lastOf (isStart hostId) log = some (.reserved hostId token)
    ∧ .issued token spec ∈ sinceStart hostId log

def NotSuspendedSince (log : List ClusterEvent) (hostId : String) : Prop :=
  ∀ event ∈ sinceStart hostId log, isSuspension hostId event = false

variable {log : List ClusterEvent} {hostId : String} {event : ClusterEvent}
  {spec : VerificationJobSpec}

theorem not_start_of_quiet (quiet : event.changesStatus hostId = false)
    : isStart hostId event = false := by
  cases event <;> simp_all [isStart, ClusterEvent.changesStatus]

theorem sinceStart_snoc (other : isStart hostId event = false)
    : sinceStart hostId (log ++ [event]) = sinceStart hostId log ++ [event] :=
  since_snoc_of_not other

theorem lastStart_snoc (other : isStart hostId event = false)
    : lastOf (isStart hostId) (log ++ [event]) = lastOf (isStart hostId) log := by
  rw [lastOf_snoc, other]
  rfl

theorem NewestSpec.snoc (newest : NewestSpec log hostId spec) (other : isStart hostId event = false)
    : NewestSpec (log ++ [event]) hostId spec := by
  obtain ⟨token, latest, issued⟩ := newest
  refine ⟨token, ?_, ?_⟩
  · rw [lastStart_snoc other]
    exact latest
  · rw [sinceStart_snoc other]
    exact List.mem_append_left _ issued

theorem NotSuspendedSince.snoc (unsuspended : NotSuspendedSince log hostId)
    (other : isStart hostId event = false) (harmless : isSuspension hostId event = false)
    : NotSuspendedSince (log ++ [event]) hostId := by
  intro later member
  rw [sinceStart_snoc other] at member
  rcases List.mem_append.mp member with old | new
  · exact unsuspended later old
  · exact List.mem_singleton.mp new ▸ harmless

def IssuedSince (log : List ClusterEvent) (hostId : String) (spec : VerificationJobSpec) : Prop :=
  ∃ token, .issued token spec ∈ sinceSuspension hostId log

theorem NewestSpec.issuedSince (newest : NewestSpec log hostId spec)
    (unsuspended : NotSuspendedSince log hostId)
    : IssuedSince log hostId spec := by
  obtain ⟨token, _, issued⟩ := newest
  exact ⟨token, mem_since_of_quiet unsuspended issued⟩

def NewestPassed (log : List ClusterEvent) (hostId : String) : Prop :=
  ∃ spec, NewestSpec log hostId spec ∧ .judged spec .passed ∈ sinceStart hostId log

theorem NewestPassed.snoc (passed : NewestPassed log hostId) (other : isStart hostId event = false)
    : NewestPassed (log ++ [event]) hostId := by
  obtain ⟨spec, newest, judged⟩ := passed
  refine ⟨spec, newest.snoc other, ?_⟩
  rw [sinceStart_snoc other]
  exact List.mem_append_left _ judged

/-- What a current copy tells about the latest start. -/
def startReading : Reading where
  reserved log hostId token :=
    lastOf (isStart hostId) log = some (.reserved hostId token) ∧ NotSuspendedSince log hostId
  challenged log hostId spec := NewestSpec log hostId spec ∧ NotSuspendedSince log hostId
  active := NewestPassed
  verifying := NotSuspendedSince
  loadable := NewestSpec
  quiet := by
    intro log hostId event quiet
    have other := not_start_of_quiet quiet
    have harmless := not_suspension_of_quiet quiet
    refine ⟨?_, ?_, fun passed => passed.snoc other, fun kept => kept.snoc other harmless⟩
    · intro token ⟨latest, kept⟩
      exact ⟨(lastStart_snoc other).trans latest, kept.snoc other harmless⟩
    · intro spec ⟨newest, kept⟩
      exact ⟨newest.snoc other, kept.snoc other harmless⟩
  start := by
    intro log hostId token
    have nothing : sinceStart hostId (log ++ [ClusterEvent.reserved hostId token]) = [] :=
      since_snoc_of_stops (by simp [isStart])
    have kept : NotSuspendedSince (log ++ [ClusterEvent.reserved hostId token]) hostId := by
      intro event member
      rw [nothing] at member
      simp at member
    exact ⟨⟨by simp [lastOf_snoc, isStart], kept⟩, kept⟩
  issue := by
    intro log hostId token ⟨latest, kept⟩ spec
    refine ⟨⟨token, (lastStart_snoc rfl).trans latest, ?_⟩, kept.snoc rfl (by simp [isSuspension])⟩
    rw [sinceStart_snoc rfl]
    simp
  pass := by
    intro log hostId spec ⟨newest, _⟩
    refine ⟨spec, newest.snoc rfl, ?_⟩
    rw [sinceStart_snoc rfl]
    simp
  activate := fun passed spec => passed.snoc rfl
  load := fun kept newest => ⟨newest, kept⟩

/-- Only the newest challenge counts: an active host passed it, no other passes, and what is handed
out or judged was issued since the last suspension.
-/
def NewestOnly (cluster : Cluster) : Prop :=
  (∀ hostId row, cluster.db.hosts.find? hostId = some row → row.status = .active
    → NewestPassed cluster.log hostId)
  ∧ Throughout (fun before event => ∀ spec,
      (event = .handedOut spec → IssuedSince before spec.hostId spec)
      ∧ (∀ verdict, event = .judged spec verdict → IssuedSince before spec.hostId spec)
      ∧ (event = .judged spec .passed → NewestSpec before spec.hostId spec))
    cluster.log

/-- A step answers from current copies: besides writing no status from an overtaken copy, it hands
out and judges specifications of current copies only, and a load takes no row but that of the latest
start.
-/
def AnswersFromCurrentCopies (cluster : Cluster) (call : ClusterCall) : Prop :=
  Timely NewestSpec cluster call
  ∧ (∀ pid tid jobToken hostId spec asOf, call = .putJobToken pid tid jobToken
    → (cluster.procs pid).threads tid = .fetched hostId spec asOf
    → Current (ClusterEvent.changesStatus hostId) cluster.log asOf)
  ∧ ∀ pid tid output elapsed now hostId jobId object copy,
    call = .submitVerification pid tid output elapsed now
    → (cluster.procs pid).threads tid = .submitting hostId jobId
    → (cluster.procs pid).registered hostId = some (object, copy)
    → copy.record.pendingVerification.isSome = true → UpToDate cluster.log copy

/-- Only the newest challenge counts in every state of every run whose steps all answer from current
copies.
-/
theorem newest_only_from_current_copies (sha256 : String → String) (bench : Bench)
    (calls : List ClusterCall) (current : AllSteps sha256 bench AnswersFromCurrentCopies calls)
    : ∀ past, past <+: calls → NewestOnly (clusterRun sha256 bench past) := by
  intro past reached
  obtain ⟨future, rfl⟩ := reached
  have inv : ∀ before, before <+: past
      → ClusterInv startReading (clusterRun sha256 bench before) := by
    rintro before ⟨rest, rfl⟩
    exact .run startReading (fun _ _ step => step.1) current.init.init
  constructor
  · intro hostId row found active
    exact ((inv past (List.prefix_refl _)).rows hostId row found).1 active
  · refine throughout_run ?_
    intro before call after split event explained spec
    have here := inv before ⟨_, split.symm⟩
    obtain ⟨_, handing, judging⟩ := current before call (after ++ future) (by simp [split])
    have judged : ∀ verdict, event = .judged spec verdict
        → NewestSpec (clusterRun sha256 bench before).log spec.hostId spec
          ∧ NotSuspendedSince (clusterRun sha256 bench before).log spec.hostId := by
      intro verdict same
      subst same
      obtain ⟨pid, tid, output, elapsed, now, hostId, jobId, object, copy, judged, rfl, standing,
        found, submitted, rfl, _⟩ := explained
      obtain ⟨_, _, known⟩ := (here.procs pid).registered found
      obtain ⟨pending, _⟩ := submit_cases submitted
      have fresh := judging pid tid output elapsed now hostId jobId object copy rfl standing found
        (by simp [pending])
      have outstanding := known.pending judged.spec pending
      rw [outstanding.own]
      exact outstanding.challenged fresh
    refine ⟨?_, ?_, ?_⟩
    · intro same
      subst same
      obtain ⟨pid, tid, jobToken, hostId, asOf, rfl, standing⟩ := explained
      have known := (here.procs pid).threads tid
      rw [standing] at known
      have outstanding : SpecInv startReading _ hostId asOf spec := known
      obtain ⟨newest, kept⟩ :=
        outstanding.challenged (handing pid tid jobToken hostId spec asOf rfl standing)
      rw [outstanding.own]
      exact newest.issuedSince kept
    · intro verdict same
      obtain ⟨newest, kept⟩ := judged verdict same
      exact newest.issuedSince kept
    · intro same
      exact (judged .passed same).1

theorem answersFromCurrentCopies_of_timely {cluster : Cluster} {call : ClusterCall}
    (timely : Timely NewestSpec cluster call)
    (kept : ∀ pid tid jobToken, call ≠ .putJobToken pid tid jobToken)
    (unjudged : ∀ pid tid output elapsed now,
      call ≠ .submitVerification pid tid output elapsed now)
    : AnswersFromCurrentCopies cluster call :=
  ⟨timely, fun pid tid jobToken _ _ _ same => absurd same (kept pid tid jobToken),
    fun pid tid output elapsed now _ _ _ _ same => absurd same (unjudged pid tid output elapsed now)⟩

def firstChallenge : VerificationJobSpec :=
  { jobId := "verify-1", hostId := "host-1", image := "roma/host-bench:pinned",
    command := "roma-bench --seed seed-1 --n 4096 --reps 20", seed := "seed-1", n := 4096,
    reps := 20, expectedSha256 := "hash", minTflops := 1, maxTflops := 10, timeoutS := 900 }

/-- A challenge that was just issued is handed out. -/
theorem challenge_handed_out
    : (clusterRun taggedHash flatBench fetchedChallenge).log
        = [.registered "host-1", .reserved "host-1" "token-1", .issued "token-1" firstChallenge,
          .handedOut firstChallenge]
      ∧ ∀ past, past <+: fetchedChallenge
        → NewestOnly (clusterRun taggedHash flatBench past) := by
  refine ⟨by decide +kernel, newest_only_from_current_copies taggedHash flatBench _ ?_⟩
  have reserved : AllSteps taggedHash flatBench AnswersFromCurrentCopies
      (fetchedChallenge.take 2) := by
    refine ((AllSteps.nil _ _ _).snoc ?_).snoc ?_
    all_goals
      refine answersFromCurrentCopies_of_timely trivial ?_ ?_
      all_goals
        intros
        simp
  have issued : AllSteps taggedHash flatBench AnswersFromCurrentCopies
      (fetchedChallenge.take 3) := by
    refine reserved.snoc (answersFromCurrentCopies_of_timely ?_ (by simp) (by simp))
    intro waiting object copy standing stored held
    have dated : ((clusterRun taggedHash flatBench (fetchedChallenge.take 2)).procs 0).objects.map
        Copy.asOf = [2] := by decide +kernel
    have member := List.mem_map_of_mem (f := Copy.asOf) (List.mem_of_getElem? stored)
    rw [dated, List.mem_singleton] at member
    intro event behind
    rw [member] at behind
    have nothing : (clusterRun taggedHash flatBench (fetchedChallenge.take 2)).log.drop 2 = [] := by
      decide +kernel
    rw [nothing] at behind
    simp at behind
  have read : AllSteps taggedHash flatBench AnswersFromCurrentCopies
      (fetchedChallenge.take 5) := by
    refine (AllSteps.snoc issued ?_).snoc
      (answersFromCurrentCopies_of_timely ?_ (by simp) (by simp))
    · exact answersFromCurrentCopies_of_timely trivial (by simp) (by simp)
    intro row asOf verification standing found
    have taken : (clusterRun taggedHash flatBench (fetchedChallenge.take 4)).db.verifications.map
        (fun row => (row.hostId, row.spec)) = [("host-1", firstChallenge)] := by decide +kernel
    have member := (List.mem_filter.mp (List.mem_of_getLast? found))
    have pair := List.mem_map_of_mem (f := fun row => (row.hostId, row.spec)) member.1
    rw [show (clusterRun taggedHash flatBench (fetchedChallenge.take 3 ++ [.readRow 1 0 "host-1"]))
      = clusterRun taggedHash flatBench (fetchedChallenge.take 4) from rfl, taken,
      List.mem_singleton] at pair
    obtain ⟨host, spec⟩ := Prod.mk.inj pair
    have own : row.hostId = "host-1" := by
      have same := member.2
      simp only [Bool.decide_and, Bool.and_eq_true, decide_eq_true_eq] at same
      exact same.1.symm.trans host
    rw [own, spec]
    exact ⟨"token-1", by decide +kernel, by decide +kernel⟩
  have checked : AllSteps taggedHash flatBench AnswersFromCurrentCopies
      (fetchedChallenge.take 8) := by
    refine ((read.snoc ?_).snoc ?_).snoc ?_
    all_goals
      refine answersFromCurrentCopies_of_timely trivial ?_ ?_
      all_goals
        intros
        simp
  refine checked.snoc ⟨trivial, ?_, ?_⟩
  · intro pid tid jobToken hostId spec asOf same standing
    obtain ⟨rfl, rfl, rfl⟩ := ClusterCall.putJobToken.inj same
    have fetched : ((clusterRun taggedHash flatBench (fetchedChallenge.take 8)).procs 1).threads 0
        = .fetched "host-1" firstChallenge 3 := by decide +kernel
    obtain ⟨rfl, rfl, rfl⟩ := ApiThread.fetched.inj (fetched.symm.trans standing)
    unfold Current
    decide +kernel
  · intro pid tid output elapsed now hostId jobId object copy impossible
    cases impossible

def reservedAgain : List ClusterCall :=
  [.suspend 0 "host-1" "abuse",
    .startVerification 0 0 "host-1" "token-2" "seed-2" (fun _ => some (1, 10))
      "roma/host-bench:pinned" 4096 20]

/-- The first challenge is left unanswered before a suspension; while the operator's second
`start_verification` computes its reference hash, the server hands the first one out and accepts it.
-/
def leftoverChallenge : List ClusterCall :=
  issuedChallenge ++ reservedAgain ++ serverRefresh ++ serverFetch ++ serverRefresh ++ serverSubmit

/-- The host is active through a challenge from before its suspension. -/
theorem leftover_challenge_accepted
    : (clusterRun taggedHash flatBench leftoverChallenge).log
        = [.registered "host-1", .reserved "host-1" "token-1", .issued "token-1" firstChallenge,
          .suspended "host-1", .reserved "host-1" "token-2", .handedOut firstChallenge,
          .judged firstChallenge .passed, .activated firstChallenge]
      ∧ (clusterRun taggedHash flatBench leftoverChallenge).db.hosts.rows.map HostRow.status
        = [.active]
      ∧ ¬ NewestOnly (clusterRun taggedHash flatBench leftoverChallenge) := by
  have happened : (clusterRun taggedHash flatBench leftoverChallenge).log
      = ([.registered "host-1", .reserved "host-1" "token-1", .issued "token-1" firstChallenge,
          .suspended "host-1", .reserved "host-1" "token-2"] : List ClusterEvent)
        ++ ClusterEvent.handedOut firstChallenge
          :: [ClusterEvent.judged firstChallenge .passed, .activated firstChallenge] := by
    decide +kernel
  refine ⟨happened, by decide +kernel, fun holds => ?_⟩
  obtain ⟨token, issued⟩ := (holds.2 _ _ _ happened firstChallenge).1 rfl
  simp [sinceSuspension, since, isSuspension, firstChallenge] at issued

end RomaBridge.Properties
