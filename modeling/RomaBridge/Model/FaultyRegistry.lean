import RomaBridge.Model.HostCluster

/-! `gpu_worker/host_registry.py` over a store whose calls may raise. Every operation changes the
shared record first and persists it last, so an exception of the store leaves what was changed so
far. The calls of one registry follow each other.
-/

namespace RomaBridge.Model.Hosts

open RomaBridge.Foundation
open RomaBridge.Model (pyStrip)

/-- How a call of the store goes: it takes effect and returns, it raises without effect, or it takes
effect and raises.
-/
inductive StoreOutcome where
  | done
  | failed
  | lost
  deriving DecidableEq, Repr

/-- A `HostRegistry` and its store: the records, `_persisted_events`, the tables of the store with
`host_status_events` by host, and the number of identifiers drawn.
-/
structure FaultyRegistry where
  hosts : Table String HostRecord HostRecord.hostId
  persisted : String → ℕ
  db : HostDb
  events : String → List StatusChange
  drawn : ℕ

/-- The calls, with the outcome of each call of the store that they come to. A `sweepSla` is the
body of the loop for one host.
-/
inductive FaultyCall where
  | apply (ownerContactRef gpuModel : String) (gpuCount : ℤ) (vramGb : ℚ) (region : String)
      (ownHost : Bool) (hostId : Option String) (now : ℚ) (save : StoreOutcome)
  | startVerification (hostId : String) (thresholds : String → Option (ℚ × ℚ)) (image : String)
      (n reps : ℤ) (hashFails : Bool) (save last : StoreOutcome)
  | submitVerification (hostId jobId output : String) (elapsed : Option ℚ) (now : ℚ)
      (finish save : StoreOutcome)
  | promote (hostId : String) (save : StoreOutcome)
  | suspend (hostId reason : String) (save : StoreOutcome)
  | heartbeat (hostId : String) (now : ℚ) (save : StoreOutcome)
  | sweepSla (hostId : String) (now sla : ℚ) (save : StoreOutcome)

namespace FaultyRegistry

def new : FaultyRegistry := ⟨Table.empty, fun _ => 0, ⟨Table.empty, [], fun _ => none⟩, fun _ => [], 0⟩

def put (registry : FaultyRegistry) (h : HostRecord) : FaultyRegistry :=
  { registry with hosts := registry.hosts.put h }

def draw (registry : FaultyRegistry) : FaultyRegistry :=
  { registry with drawn := registry.drawn + 2 }

/-- The effect of `save_host` with the events that were not persisted. -/
def saveHost (registry : FaultyRegistry) (h : HostRecord) : FaultyRegistry :=
  { registry with
    db := registry.db.saveHost h
    events := Function.update registry.events h.hostId
      (registry.events h.hostId ++ h.history.drop (registry.persisted h.hostId)) }

/-- `_persist`: whether it raises, and what it leaves. -/
def persist (registry : FaultyRegistry) (h : HostRecord) : StoreOutcome → Bool × FaultyRegistry
  | .done =>
      (false, { registry.saveHost h with
        persisted := Function.update registry.persisted h.hostId h.history.length })
  | .failed => (true, registry)
  | .lost => (true, registry.saveHost h)

/-- A call of the store besides `save_host`. -/
def storeCall (registry : FaultyRegistry) (effect : HostDb → HostDb)
    : StoreOutcome → Bool × FaultyRegistry
  | .done => (false, { registry with db := effect registry.db })
  | .failed => (true, registry)
  | .lost => (true, { registry with db := effect registry.db })

def applied (ownerContactRef gpuModel : String) (gpuCount : ℤ) (vramGb : ℚ) (region : String)
    (ownHost : Bool) (hostId : String) (now : ℚ)
    : HostRecord :=
  { hostId := hostId, ownerContactRef := ownerContactRef, gpuModel := pyStrip gpuModel,
    gpuCount := gpuCount, vramGb := vramGb, region := region, ownHost := ownHost,
    status := .pending, trustTier := .none, benchmarkScore := none, lastHeartbeat := none,
    createdAt := now, history := [], pendingVerification := none, verifyReservation := none }

def apply (names : Names) (registry : FaultyRegistry) (ownerContactRef gpuModel : String)
    (gpuCount : ℤ) (vramGb : ℚ) (region : String) (ownHost : Bool) (hostId : Option String) (now : ℚ)
    (save : StoreOutcome)
    : Bool × FaultyRegistry :=
  let chosen := hostId.getD (names.hostId registry.drawn)
  if gpuCount < 1 ∨ vramGb ≤ 0 ∨ pyStrip gpuModel = "" then (true, registry)
  else if hostId.map isHostId = some false then (true, registry)
  else if (registry.hosts.find? chosen).isSome then (true, registry.draw)
  else
    let h := applied ownerContactRef gpuModel gpuCount vramGb region ownHost chosen now
    (registry.draw.put h).persist h save

/-- The record while it is released: `verify_reservation` is cleared behind the persisted status. -/
def releasing (reserved : HostRecord) (prevStatus : HostStatus) : HostRecord :=
  { reserved with
    history := reserved.history
      ++ [⟨.verifying, prevStatus, "verification reservation released"⟩]
    status := prevStatus }

/-- `start_verification` behind its first section: the reference hash fails, or the specification is
stored.
-/
def concludeVerification (registry : FaultyRegistry) (reserved : HostRecord)
    (prevStatus : HostStatus) (spec : VerificationJobSpec) (hashFails : Bool) (last : StoreOutcome)
    : Bool × FaultyRegistry :=
  if hashFails then
    let released := releasing reserved prevStatus
    let (raised, next) := (registry.put released).persist released last
    if raised then (true, next) else (true, next.put { released with verifyReservation := none })
  else
    (registry.put { reserved with
        verifyReservation := none
        pendingVerification := some spec }).storeCall (fun db => db.startVerification spec) last

/-- The reservation that `start_verification` makes. -/
def reservation (names : Names) (registry : FaultyRegistry) (h : HostRecord)
    (thresholds : String → Option (ℚ × ℚ)) (image : String) (n reps : ℤ)
    : Reservation :=
  let bounds := (thresholds h.gpuModel).getD (0, 0)
  ⟨names.hex registry.drawn, h.hostId, h.status, bounds.1, bounds.2, image, n, reps,
    names.hex (registry.drawn + 1)⟩

def startVerification (names : Names) (bench : Bench) (registry : FaultyRegistry) (hostId : String)
    (thresholds : String → Option (ℚ × ℚ)) (image : String) (n reps : ℤ) (hashFails : Bool)
    (save last : StoreOutcome)
    : Bool × FaultyRegistry :=
  if n < 1 ∨ maxExactN < n then (true, registry)
  else
    match registry.hosts.find? hostId with
    | none => (true, registry.draw)
    | some h =>
        match h.reserve (thresholds h.gpuModel) (names.hex registry.drawn) with
        | none => (true, registry.draw)
        | some reserved =>
            let (raised, next) := (registry.draw.put reserved).persist reserved save
            if raised then (true, next)
            else
              next.concludeVerification reserved h.status
                (Registry.newSpec bench (registry.reservation names h thresholds image n reps)
                  (names.jobId registry.drawn)) hashFails last

def submitVerification (bench : Bench) (registry : FaultyRegistry) (hostId jobId output : String)
    (elapsed : Option ℚ) (now : ℚ) (finish save : StoreOutcome)
    : Bool × FaultyRegistry :=
  match (registry.hosts.find? hostId).bind (fun h => h.submit bench jobId output elapsed now) with
  | none => (true, registry)
  | some judged =>
      let changed := registry.put judged.record
      if judged.verdict = .raised then (true, changed)
      else
        let (raised, finished) := changed.storeCall
          (fun db => db.finishVerification jobId (judged.verdict = HostRecord.Verdict.passed)) finish
        if raised then (true, finished) else finished.persist judged.record save

/-- The operations that change one record and persist it. `refused` tells whether they raise when
they do not apply.
-/
def rewrite (registry : FaultyRegistry) (hostId : String) (write : HostRecord → Option HostRecord)
    (refused : Bool) (save : StoreOutcome)
    : Bool × FaultyRegistry :=
  match (registry.hosts.find? hostId).bind write with
  | none => (refused, registry)
  | some h => (registry.put h).persist h save

def promote (registry : FaultyRegistry) (hostId : String) (save : StoreOutcome)
    : Bool × FaultyRegistry :=
  registry.rewrite hostId HostRecord.promote true save

def suspend (registry : FaultyRegistry) (hostId reason : String) (save : StoreOutcome)
    : Bool × FaultyRegistry :=
  registry.rewrite hostId (fun h => h.suspend reason) true save

/-- `heartbeat`, which returns `False` when it is not accepted. -/
def heartbeat (registry : FaultyRegistry) (hostId : String) (now : ℚ) (save : StoreOutcome)
    : Bool × FaultyRegistry :=
  registry.rewrite hostId (fun h => h.heartbeat now) false save

/-- The body of the loop of `sweep_sla` for one host. -/
def sweepSla (registry : FaultyRegistry) (hostId : String) (now sla : ℚ) (save : StoreOutcome)
    : Bool × FaultyRegistry :=
  registry.rewrite hostId (fun h => if h.misses now sla then some h.swept else none) false save

end FaultyRegistry

/-- One call: whether it raised, and what it left. -/
def faultyStep (names : Names) (bench : Bench) (registry : FaultyRegistry)
    : FaultyCall → Bool × FaultyRegistry
  | .apply ownerContactRef gpuModel gpuCount vramGb region ownHost hostId now save =>
      registry.apply names ownerContactRef gpuModel gpuCount vramGb region ownHost hostId now save
  | .startVerification hostId thresholds image n reps hashFails save last =>
      registry.startVerification names bench hostId thresholds image n reps hashFails save last
  | .submitVerification hostId jobId output elapsed now finish save =>
      registry.submitVerification bench hostId jobId output elapsed now finish save
  | .promote hostId save => registry.promote hostId save
  | .suspend hostId reason save => registry.suspend hostId reason save
  | .heartbeat hostId now save => registry.heartbeat hostId now save
  | .sweepSla hostId now sla save => registry.sweepSla hostId now sla save

end RomaBridge.Model.Hosts
