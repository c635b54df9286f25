import RomaBridge.Model.HostRegistry

/-! `gpu_worker/host_store.py` and `gpu_worker/host_api.py` over PostgreSQL: any number of
processes, each with its own `HostRegistry` and its own threads, that share the tables of a
`PgHostStore`. Every query is a step of its own, and so is every section of a registry's lock. A
process that starts loads and installs its hosts one by one.
-/

namespace RomaBridge.Model.Hosts

open RomaBridge.Foundation
open RomaBridge.Model (pyStrip)

-- The tables

/-- A row of `hosts`. -/
structure HostRow where
  hostId : String
  ownerContactRef : String
  gpuModel : String
  gpuCount : ℤ
  vramGb : ℚ
  region : String
  ownHost : Bool
  status : HostStatus
  trustTier : TrustTier
  benchmarkScore : Option ℚ
  lastHeartbeat : Option ℚ
  createdAt : ℚ
  deriving DecidableEq, Repr

/-- A row of `host_verifications`; rows are kept in the order of `created_at`. -/
structure VerificationRow where
  jobId : String
  hostId : String
  seed : String
  expectedSha256 : String
  n : ℤ
  reps : ℤ
  minTflops : ℚ
  maxTflops : ℚ
  image : String
  passed : Option Bool
  deriving DecidableEq, Repr

/-- A row of `host_job_tokens`. -/
structure JobToken where
  hostId : String
  tokenSha256 : String
  used : Bool
  deriving DecidableEq, Repr

/-- The tables of `PgHostStore` that its queries read. -/
structure HostDb where
  hosts : Table String HostRow HostRow.hostId
  verifications : List VerificationRow
  jobTokens : String → Option JobToken

namespace HostDb

/-- The row that `save_host` inserts. -/
def newRow (h : HostRecord) : HostRow :=
  { hostId := h.hostId, ownerContactRef := h.ownerContactRef, gpuModel := h.gpuModel,
    gpuCount := h.gpuCount, vramGb := h.vramGb, region := h.region, ownHost := h.ownHost,
    status := h.status, trustTier := h.trustTier, benchmarkScore := h.benchmarkScore,
    lastHeartbeat := h.lastHeartbeat, createdAt := h.createdAt }

/-- The row that `save_host` leaves: an inserted one, or the stored one with four columns set. -/
def savedRow (db : HostDb) (h : HostRecord) : HostRow :=
  match db.hosts.find? h.hostId with
  | none => newRow h
  | some row =>
      { row with
        status := h.status
        trustTier := h.trustTier
        benchmarkScore := h.benchmarkScore
        lastHeartbeat := h.lastHeartbeat }

def saveHost (db : HostDb) (h : HostRecord) : HostDb :=
  { db with hosts := db.hosts.put (db.savedRow h) }

def startVerification (db : HostDb) (spec : VerificationJobSpec) : HostDb :=
  { db with verifications := db.verifications ++ [
    { jobId := spec.jobId, hostId := spec.hostId, seed := spec.seed,
      expectedSha256 := spec.expectedSha256, n := spec.n, reps := spec.reps,
      minTflops := spec.minTflops, maxTflops := spec.maxTflops, image := spec.image,
      passed := none }] }

def finishVerification (db : HostDb) (jobId : String) (passed : Bool) : HostDb :=
  { db with verifications := db.verifications.map (fun row =>
    if row.jobId = jobId ∧ row.passed = none then { row with passed := some passed } else row) }

/-- The second query of `load_hosts`: the newest unfinished verification of a host. -/
def unfinished (db : HostDb) (hostId : String) : Option VerificationRow :=
  (db.verifications.filter (fun row => row.hostId = hostId ∧ row.passed = none)).getLast?

def putJobToken (db : HostDb) (jobId hostId tokenSha256 : String) : HostDb :=
  { db with jobTokens := Function.update db.jobTokens jobId (some ⟨hostId, tokenSha256, false⟩) }

def consumeJobToken (db : HostDb) (jobId : String) : Option JobToken × HostDb :=
  match db.jobTokens jobId with
  | none => (none, db)
  | some token =>
      if token.used then (none, db)
      else (some token,
        { db with jobTokens := Function.update db.jobTokens jobId (some { token with used := true }) })

end HostDb

/-- The specification that `load_hosts` makes of a row. -/
def VerificationRow.spec (row : VerificationRow) : VerificationJobSpec :=
  { jobId := row.jobId
    hostId := row.hostId
    image := row.image
    command := s!"roma-bench --seed {row.seed} --n {row.n} --reps {row.reps}"
    seed := row.seed
    n := row.n
    reps := row.reps
    expectedSha256 := row.expectedSha256
    minTflops := row.minTflops
    maxTflops := row.maxTflops
    timeoutS := 900 }

/-- The record that `load_hosts` makes of a row and its unfinished verification. -/
def HostRow.record (row : HostRow) (pending : Option VerificationJobSpec) : HostRecord :=
  { hostId := row.hostId, ownerContactRef := row.ownerContactRef, gpuModel := row.gpuModel,
    gpuCount := row.gpuCount, vramGb := row.vramGb, region := row.region, ownHost := row.ownHost,
    status := row.status, trustTier := row.trustTier, benchmarkScore := row.benchmarkScore,
    lastHeartbeat := row.lastHeartbeat, createdAt := row.createdAt, history := [],
    pendingVerification := pending, verifyReservation := none }

-- The processes

/-- A `HostRecord` object of a process. `asOf` counts the events behind which its row was read or
its status was written; no step reads it.
-/
structure Copy where
  record : HostRecord
  asOf : ℕ
  deriving DecidableEq, Repr

/-- Where a thread stands. An object is named by its place in the memory of the process. -/
inductive ApiThread where
  | idle
  /-- A load between its two queries. -/
  | rowRead (row : HostRow) (asOf : ℕ)
  /-- A load that has not been installed. -/
  | loaded (hostId : String) (fresh : Option Copy)
  /-- `handle` behind its refresh. -/
  | refreshed (hostId : String)
  /-- `_heartbeat` with the object it got. -/
  | beating (hostId : String) (object : ℕ)
  /-- `_heartbeat` behind the registry's heartbeat. -/
  | beaten (object : ℕ) (accepted : Bool)
  /-- `_fetch_job` with the object it got and the specification it read from it. -/
  | fetching (hostId : String) (object : ℕ) (spec : Option VerificationJobSpec) (asOf : ℕ)
  /-- `_fetch_job` behind the check of the status. -/
  | fetched (hostId : String) (spec : VerificationJobSpec) (asOf : ℕ)
  /-- `_submit` with its job token consumed. -/
  | submitting (hostId jobId : String)
  /-- `start_verification` between its sections, with the object it reserved. -/
  | hashing (waiting : Reservation) (object : ℕ)
  deriving DecidableEq

/-- A process: the objects made so far, `_hosts`, its threads, and the object that a
`submit_verification` is about to persist while it holds the lock.
-/
structure Process where
  objects : List Copy
  hosts : String → Option ℕ
  threads : ℕ → ApiThread
  writing : Option (ℕ × VerificationJobSpec)

def Process.start : Process := ⟨[], fun _ => none, fun _ => .idle, none⟩

/-- What was done to the hosts. -/
inductive ClusterEvent where
  | registered (hostId : String)
  | reserved (hostId token : String)
  | released (hostId : String)
  | issued (token : String) (spec : VerificationJobSpec)
  | handedOut (spec : VerificationJobSpec)
  | judged (spec : VerificationJobSpec) (verdict : HostRecord.Verdict)
  /-- The record of a passing submission was stored. -/
  | activated (spec : VerificationJobSpec)
  /-- The record of a failing submission was stored. -/
  | rejected (spec : VerificationJobSpec)
  | suspended (hostId : String)
  /-- The reply of a heartbeat. -/
  | reported (hostId : String) (status : HostStatus) (accepted : Bool)
  deriving DecidableEq, Repr

def ClusterEvent.changesStatus (hostId : String) : ClusterEvent → Bool
  | .registered host => host = hostId
  | .reserved host _ => host = hostId
  | .released host => host = hostId
  | .activated spec => spec.hostId = hostId
  | .rejected spec => spec.hostId = hostId
  | .suspended host => host = hostId
  | _ => false

/-- The tables, the processes and what happened so far. -/
structure Cluster where
  db : HostDb
  procs : ℕ → Process
  log : List ClusterEvent

def newCluster : Cluster := ⟨⟨Table.empty, [], fun _ => none⟩, fun _ => .start, []⟩

/-- The steps of the processes and their threads. -/
inductive ClusterCall where
  | readRow (pid tid : ℕ) (hostId : String)
  | readSpec (pid tid : ℕ)
  | install (pid tid : ℕ)
  | getHost (pid tid : ℕ)
  | heartbeat (pid tid : ℕ) (now : ℚ)
  | report (pid tid : ℕ)
  | fetchJob (pid tid : ℕ)
  | checkJob (pid tid : ℕ)
  | putJobToken (pid tid : ℕ) (jobToken : String)
  | consumeJobToken (pid tid : ℕ) (jobId : String) (jobToken : Option String)
  | submitVerification (pid tid : ℕ) (output : String) (elapsed : Option ℚ) (now : ℚ)
  | persistVerification (pid : ℕ)
  | apply (pid : ℕ) (ownerContactRef gpuModel : String) (gpuCount : ℤ) (vramGb : ℚ)
      (region : String) (ownHost : Bool) (hostId : String) (now : ℚ)
  | startVerification (pid tid : ℕ) (hostId token seed : String)
      (thresholds : String → Option (ℚ × ℚ)) (image : String) (n reps : ℤ)
  | hashFailed (pid tid : ℕ)
  | hashComputed (pid tid : ℕ) (jobId : String)
  | promote (pid : ℕ) (hostId : String)
  | suspend (pid : ℕ) (hostId reason : String)
  | sweepSla (pid : ℕ) (hostId : String) (now sla : ℚ)

-- The steps

namespace Process

def goto (process : Process) (tid : ℕ) (thread : ApiThread) : Process :=
  { process with threads := Function.update process.threads tid thread }

def change (process : Process) (object : ℕ) (copy : Copy) : Process :=
  { process with objects := process.objects.set object copy }

def registered (process : Process) (hostId : String) : Option (ℕ × Copy) :=
  (process.hosts hostId).bind (fun object =>
    (process.objects[object]?).map (fun copy => (object, copy)))

/-- Whether the registered object holds a reservation. -/
def reserving (process : Process) (hostId : String) : Bool :=
  (process.registered hostId).any (fun found => found.2.record.verifyReservation.isSome)

def install (process : Process) (hostId : String) (copy : Copy) : Process :=
  { process with
    objects := process.objects ++ [copy]
    hosts := Function.update process.hosts hostId (some process.objects.length) }

end Process

namespace Cluster

def within (cluster : Cluster) (pid : ℕ) (process : Process) : Cluster :=
  { cluster with procs := Function.update cluster.procs pid process }

def persist (cluster : Cluster) (pid object : ℕ) (record : HostRecord) (event : ClusterEvent)
    : Cluster :=
  { db := cluster.db.saveHost record
    procs := Function.update cluster.procs pid
      ((cluster.procs pid).change object ⟨record, cluster.log.length + 1⟩)
    log := cluster.log ++ [event] }

/-- A record is changed and persisted with the status it had. -/
def rewrite (cluster : Cluster) (pid object : ℕ) (copy : Copy) (record : HostRecord) : Cluster :=
  { cluster with
    db := cluster.db.saveHost record
    procs := Function.update cluster.procs pid
      ((cluster.procs pid).change object { copy with record := record }) }

/-- The first query of `load_host`. -/
def readRow (cluster : Cluster) (pid tid : ℕ) (hostId : String) : Cluster :=
  let process := cluster.procs pid
  match process.threads tid, cluster.db.hosts.find? hostId with
  | .idle, none => cluster.within pid (process.goto tid (.loaded hostId none))
  | .idle, some row =>
      if row.status = .verifying then
        cluster.within pid (process.goto tid (.rowRead row cluster.log.length))
      else
        cluster.within pid
          (process.goto tid (.loaded hostId (some ⟨row.record none, cluster.log.length⟩)))
  | _, _ => cluster

/-- The second query of `load_host`. -/
def readSpec (cluster : Cluster) (pid tid : ℕ) : Cluster :=
  let process := cluster.procs pid
  match process.threads tid with
  | .rowRead row asOf =>
      let pending := (cluster.db.unfinished row.hostId).map VerificationRow.spec
      cluster.within pid
        (process.goto tid (.loaded row.hostId (some ⟨row.record pending, asOf⟩)))
  | _ => cluster

def install (cluster : Cluster) (pid tid : ℕ) : Cluster :=
  let process := cluster.procs pid
  match process.threads tid with
  | .loaded hostId fresh =>
      let next := process.goto tid (.refreshed hostId)
      if process.reserving hostId then cluster.within pid next
      else
        match fresh with
        | none =>
            cluster.within pid { next with hosts := Function.update process.hosts hostId none }
        | some copy => cluster.within pid (next.install hostId copy)
  | _ => cluster

/-- `_heartbeat` gets the registered object. -/
def getHost (cluster : Cluster) (pid tid : ℕ) : Cluster :=
  let process := cluster.procs pid
  match process.threads tid with
  | .refreshed hostId =>
      match process.registered hostId with
      | none => cluster.within pid (process.goto tid .idle)
      | some (object, _) => cluster.within pid (process.goto tid (.beating hostId object))
  | _ => cluster

/-- `HostRegistry.heartbeat`, called by `_heartbeat`. -/
def heartbeat (cluster : Cluster) (pid tid : ℕ) (now : ℚ) : Cluster :=
  let process := cluster.procs pid
  match process.threads tid with
  | .beating hostId got =>
      match process.registered hostId with
      | none => cluster.within pid (process.goto tid (.beaten got false))
      | some (object, copy) =>
          match copy.record.heartbeat now with
          | none => cluster.within pid (process.goto tid (.beaten got false))
          | some beaten =>
              (cluster.within pid (process.goto tid (.beaten got true))).rewrite pid object copy
                beaten
  | _ => cluster

/-- The reply of `_heartbeat`. -/
def report (cluster : Cluster) (pid tid : ℕ) : Cluster :=
  let process := cluster.procs pid
  match process.threads tid with
  | .beaten object accepted =>
      match process.objects[object]? with
      | none => cluster
      | some copy =>
          { cluster.within pid (process.goto tid .idle) with
            log := cluster.log
              ++ [.reported copy.record.hostId copy.record.status accepted] }
  | _ => cluster

/-- `_fetch_job` gets the registered object and reads its specification. -/
def fetchJob (cluster : Cluster) (pid tid : ℕ) : Cluster :=
  let process := cluster.procs pid
  match process.threads tid with
  | .refreshed hostId =>
      match process.registered hostId with
      | none => cluster.within pid (process.goto tid .idle)
      | some (object, copy) =>
          cluster.within pid (process.goto tid
            (.fetching hostId object copy.record.pendingVerification copy.asOf))
  | _ => cluster

def checkJob (cluster : Cluster) (pid tid : ℕ) : Cluster :=
  let process := cluster.procs pid
  match process.threads tid with
  | .fetching hostId object (some spec) asOf =>
      if (process.objects[object]?).map (fun copy => copy.record.status) = some .verifying then
        cluster.within pid (process.goto tid (.fetched hostId spec asOf))
      else cluster.within pid (process.goto tid .idle)
  | .fetching _ _ none _ => cluster.within pid (process.goto tid .idle)
  | _ => cluster

/-- `_fetch_job` stores the hash of a new job token and replies with the specification. -/
def putJobToken (sha256 : String → String) (cluster : Cluster) (pid tid : ℕ) (jobToken : String)
    : Cluster :=
  let process := cluster.procs pid
  match process.threads tid with
  | .fetched hostId spec _ =>
      { db := cluster.db.putJobToken spec.jobId hostId (sha256 jobToken)
        procs := (cluster.within pid (process.goto tid .idle)).procs
        log := cluster.log ++ [.handedOut spec] }
  | _ => cluster

/-- `_submit` consumes the job token of the request, which is absent when it is not a text. -/
def consumeJobToken (sha256 : String → String) (cluster : Cluster) (pid tid : ℕ) (jobId : String)
    (jobToken : Option String)
    : Cluster :=
  let process := cluster.procs pid
  match process.threads tid with
  | .refreshed hostId =>
      let consumed := cluster.db.consumeJobToken jobId
      let valid := consumed.1.any (fun token =>
        token.hostId = hostId && jobToken.map sha256 = some token.tokenSha256)
      let next := if valid then ApiThread.submitting hostId jobId else .idle
      { cluster.within pid (process.goto tid next) with db := consumed.2 }
  | _ => cluster

/-- `submit_verification`, called by `_submit`, up to the finished row of the verification. An error
behind the specification leaves the section.
-/
def submitVerification (bench : Bench) (cluster : Cluster) (pid tid : ℕ) (output : String)
    (elapsed : Option ℚ) (now : ℚ)
    : Cluster :=
  let process := cluster.procs pid
  match process.threads tid with
  | .submitting hostId jobId =>
      let done := process.goto tid .idle
      match process.registered hostId with
      | none => cluster.within pid done
      | some (object, copy) =>
          match copy.record.submit bench jobId output elapsed now with
          | none => cluster.within pid done
          | some judged =>
              let changed := done.change object { copy with record := judged.record }
              let log := cluster.log ++ [.judged judged.spec judged.verdict]
              if judged.verdict = .raised then { cluster.within pid changed with log := log }
              else
                { cluster.within pid { changed with writing := some (object, judged.spec) } with
                  db := cluster.db.finishVerification jobId (judged.verdict = .passed)
                  log := log }
  | _ => cluster

/-- The end of `submit_verification`: the record is persisted and the lock released. -/
def persistVerification (cluster : Cluster) (pid : ℕ) : Cluster :=
  let process := cluster.procs pid
  match process.writing with
  | none => cluster
  | some (object, spec) =>
      match process.objects[object]? with
      | none => cluster
      | some copy =>
          (cluster.within pid { process with writing := none }).persist pid object copy.record
            (if copy.record.status = .active then .activated spec else .rejected spec)

def apply (cluster : Cluster) (pid : ℕ) (ownerContactRef gpuModel : String) (gpuCount : ℤ)
    (vramGb : ℚ) (region : String) (ownHost : Bool) (hostId : String) (now : ℚ)
    : Cluster :=
  let process := cluster.procs pid
  if gpuCount < 1 ∨ vramGb ≤ 0 ∨ pyStrip gpuModel = "" ∨ isHostId hostId = false
      ∨ (process.registered hostId).isSome then cluster
  else
    let record : HostRecord :=
      { hostId := hostId, ownerContactRef := ownerContactRef, gpuModel := pyStrip gpuModel,
        gpuCount := gpuCount, vramGb := vramGb, region := region, ownHost := ownHost,
        status := .pending, trustTier := .none, benchmarkScore := none, lastHeartbeat := none,
        createdAt := now, history := [], pendingVerification := none, verifyReservation := none }
    { db := cluster.db.saveHost record
      procs := (cluster.within pid
        (process.install hostId ⟨record, cluster.log.length + 1⟩)).procs
      log := cluster.log ++ [.registered hostId] }

/-- The first section of `start_verification`, with the seed drawn behind it. -/
def startVerification (cluster : Cluster) (pid tid : ℕ) (hostId token seed : String)
    (thresholds : String → Option (ℚ × ℚ)) (image : String) (n reps : ℤ)
    : Cluster :=
  let process := cluster.procs pid
  match process.threads tid with
  | .idle =>
      if n < 1 ∨ maxExactN < n then cluster
      else
        match process.registered hostId with
        | none => cluster
        | some (object, copy) =>
            match copy.record.reserve (thresholds copy.record.gpuModel) token with
            | none => cluster
            | some reserved =>
                let bounds := (thresholds copy.record.gpuModel).getD (0, 0)
                let waiting : Reservation := ⟨token, copy.record.hostId, copy.record.status,
                  bounds.1, bounds.2, image, n, reps, seed⟩
                (cluster.within pid (process.goto tid (.hashing waiting object))).persist pid object
                  reserved (.reserved copy.record.hostId token)
  | _ => cluster

/-- The section of `start_verification` after its reference hash failed. -/
def hashFailed (cluster : Cluster) (pid tid : ℕ) : Cluster :=
  let process := cluster.procs pid
  match process.threads tid with
  | .hashing waiting object =>
      let done := process.goto tid .idle
      match process.objects[object]? with
      | none => cluster
      | some copy =>
          let released := copy.record.release waiting.token waiting.prevStatus
          if copy.record.verifyReservation = some waiting.token
              ∧ copy.record.status = .verifying then
            (cluster.within pid done).persist pid object released (.released copy.record.hostId)
          else cluster.within pid (done.change object { copy with record := released })
  | _ => cluster

/-- The last section of `start_verification`, with an identifier that no row has yet. -/
def hashComputed (bench : Bench) (cluster : Cluster) (pid tid : ℕ) (jobId : String) : Cluster :=
  let process := cluster.procs pid
  match process.threads tid with
  | .hashing waiting object =>
      let done := process.goto tid .idle
      let spec := Registry.newSpec bench waiting jobId
      if jobId ∈ cluster.db.verifications.map VerificationRow.jobId then cluster
      else
        match process.objects[object]? with
        | none => cluster
        | some copy =>
            match copy.record.complete waiting.token spec with
            | none => cluster.within pid done
            | some completed =>
                { db := cluster.db.startVerification spec
                  procs := (cluster.within pid
                    (done.change object { copy with record := completed })).procs
                  log := cluster.log ++ [.issued waiting.token spec] }
  | _ => cluster

def promote (cluster : Cluster) (pid : ℕ) (hostId : String) : Cluster :=
  match (cluster.procs pid).registered hostId with
  | none => cluster
  | some (object, copy) =>
      match copy.record.promote with
      | none => cluster
      | some promoted => cluster.rewrite pid object copy promoted

def suspend (cluster : Cluster) (pid : ℕ) (hostId reason : String) : Cluster :=
  match (cluster.procs pid).registered hostId with
  | none => cluster
  | some (object, copy) =>
      match copy.record.suspend reason with
      | none => cluster
      | some suspended =>
          cluster.persist pid object suspended (.suspended copy.record.hostId)

/-- The body of the loop of `sweep_sla` for one host. -/
def sweepSla (cluster : Cluster) (pid : ℕ) (hostId : String) (now sla : ℚ) : Cluster :=
  match (cluster.procs pid).registered hostId with
  | none => cluster
  | some (object, copy) =>
      if copy.record.misses now sla then
        cluster.persist pid object copy.record.swept (.suspended copy.record.hostId)
      else cluster

def free (cluster : Cluster) (pid : ℕ) : Bool := (cluster.procs pid).writing.isNone

end Cluster

/-- One step; a section waits while the lock of its process is held. -/
def clusterStep (sha256 : String → String) (bench : Bench) (cluster : Cluster)
    : ClusterCall → Cluster
  | .readRow pid tid hostId => cluster.readRow pid tid hostId
  | .readSpec pid tid => cluster.readSpec pid tid
  | .install pid tid => if cluster.free pid then cluster.install pid tid else cluster
  | .getHost pid tid => cluster.getHost pid tid
  | .heartbeat pid tid now => if cluster.free pid then cluster.heartbeat pid tid now else cluster
  | .report pid tid => cluster.report pid tid
  | .fetchJob pid tid => cluster.fetchJob pid tid
  | .checkJob pid tid => cluster.checkJob pid tid
  | .putJobToken pid tid jobToken => cluster.putJobToken sha256 pid tid jobToken
  | .consumeJobToken pid tid jobId jobToken =>
      cluster.consumeJobToken sha256 pid tid jobId jobToken
  | .submitVerification pid tid output elapsed now =>
      if cluster.free pid then cluster.submitVerification bench pid tid output elapsed now
      else cluster
  | .persistVerification pid => cluster.persistVerification pid
  | .apply pid ownerContactRef gpuModel gpuCount vramGb region ownHost hostId now =>
      if cluster.free pid then
        cluster.apply pid ownerContactRef gpuModel gpuCount vramGb region ownHost hostId now
      else cluster
  | .startVerification pid tid hostId token seed thresholds image n reps =>
      if cluster.free pid then
        cluster.startVerification pid tid hostId token seed thresholds image n reps
      else cluster
  | .hashFailed pid tid => if cluster.free pid then cluster.hashFailed pid tid else cluster
  | .hashComputed pid tid jobId =>
      if cluster.free pid then cluster.hashComputed bench pid tid jobId else cluster
  | .promote pid hostId => if cluster.free pid then cluster.promote pid hostId else cluster
  | .suspend pid hostId reason =>
      if cluster.free pid then cluster.suspend pid hostId reason else cluster
  | .sweepSla pid hostId now sla =>
      if cluster.free pid then cluster.sweepSla pid hostId now sla else cluster

def clusterRun (sha256 : String → String) (bench : Bench) (calls : List ClusterCall) : Cluster :=
  calls.foldl (clusterStep sha256 bench) newCluster

end RomaBridge.Model.Hosts
