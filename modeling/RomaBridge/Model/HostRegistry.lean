import RomaBridge.Foundation.Trace
import RomaBridge.Model.PyValues

/-! `gpu_worker/host_registry.py`: the records of external hosts, what each operation does to a
record under the registry's lock, and the registry of one process.
-/

namespace RomaBridge.Model.Hosts

open RomaBridge.Foundation
open RomaBridge.Model (pyStrip)

-- Records

inductive HostStatus where
  | pending
  | verifying
  | active
  | suspended
  deriving DecidableEq, Repr

def allowedTransitions : HostStatus → List HostStatus
  | .pending => [.verifying, .suspended]
  | .verifying => [.active, .suspended]
  | .active => [.suspended]
  | .suspended => [.verifying]

/-- `TRUST_TIERS`. -/
inductive TrustTier where
  | none
  | probation
  | verified
  deriving DecidableEq, Repr

structure VerificationJobSpec where
  jobId : String
  hostId : String
  image : String
  command : String
  seed : String
  n : ℤ
  reps : ℤ
  expectedSha256 : String
  minTflops : ℚ
  maxTflops : ℚ
  timeoutS : ℕ
  deriving DecidableEq, Repr

/-- An entry of `HostRecord.history`. -/
structure StatusChange where
  source : HostStatus
  target : HostStatus
  reason : String
  deriving DecidableEq, Repr

/-- `HostRecord`; times are seconds. -/
structure HostRecord where
  hostId : String
  ownerContactRef : String
  gpuModel : String
  gpuCount : ℤ
  vramGb : ℚ
  region : String
  ownHost : Bool
  status : HostStatus
  trustTier : TrustTier
  benchmarkScore : Option ℚ
  lastHeartbeat : Option ℚ
  createdAt : ℚ
  history : List StatusChange
  pendingVerification : Option VerificationJobSpec
  verifyReservation : Option String
  deriving DecidableEq, Repr

/-- What `host_bench` computes: the reference hash of a seed and a size, and the score of a run,
`none` when the floating-point arithmetic overflows.
-/
structure Bench where
  referenceHash : String → ℤ → String
  tflops : ℤ → ℤ → ℚ → Option ℚ

/-- `host_bench.MAX_EXACT_N`. -/
def maxExactN : ℤ := 2 ^ 18

/-- `HOST_ID_RE.fullmatch(host_id)`. -/
def isHostId (text : String) : Bool :=
  3 ≤ text.length && text.length ≤ 64
  && text.toList.all (fun c => ('a' ≤ c && c ≤ 'z') || c.isDigit || c = '_' || c = '-')

-- Operations on one record

namespace HostRecord

/-- `_transition`; `none` is `InvalidTransition`. -/
def transition (h : HostRecord) (target : HostStatus) (reason : String) : Option HostRecord :=
  if target ∈ allowedTransitions h.status then
    some { h with history := h.history ++ [⟨h.status, target, reason⟩], status := target }
  else none

/-- The first section of `start_verification`: the host is reserved, if the benchmark bounds of its
model are configured.
-/
def reserve (h : HostRecord) (bounds : Option (ℚ × ℚ)) (token : String) : Option HostRecord :=
  match bounds with
  | none => none
  | some (lo, hi) =>
      if 0 < lo ∧ lo < hi then
        (h.transition .verifying "verification reserved").map (fun reserved =>
          { reserved with verifyReservation := some token, pendingVerification := none })
      else none

/-- The section of `start_verification` after a failed reference hash. -/
def release (h : HostRecord) (token : String) (prevStatus : HostStatus) : HostRecord :=
  if h.verifyReservation = some token then
    if h.status = .verifying then
      { h with
        history := h.history ++ [⟨.verifying, prevStatus, "verification reservation released"⟩]
        status := prevStatus
        verifyReservation := none }
    else { h with verifyReservation := none }
  else h

/-- The last section of `start_verification`; `none` is a lost reservation. -/
def complete (h : HostRecord) (token : String) (spec : VerificationJobSpec) : Option HostRecord :=
  if h.verifyReservation ≠ some token ∨ h.status ≠ .verifying then none
  else some { h with verifyReservation := none, pendingVerification := some spec }

/-- How a submission was judged. `raised` is an error after the specification was taken: an output
that is not ASCII, or a score that overflows.
-/
inductive Verdict where
  | passed
  | hashMismatch
  | outsideBounds
  | raised
  deriving DecidableEq, Repr

/-- A judged submission: the specification it was judged by, its score, and the record after it. -/
structure Judged where
  spec : VerificationJobSpec
  score : Option ℚ
  verdict : Verdict
  record : HostRecord

/-- `host_bench.tflops` of a reported time; `none` when the arithmetic raises. -/
def scoreOf (bench : Bench) (spec : VerificationJobSpec) (elapsed : Option ℚ) : Option (Option ℚ) :=
  match elapsed with
  | some seconds => if 0 < seconds then (bench.tflops spec.n spec.reps seconds).map some else some none
  | none => some none

/-- `submit_verification`; `none` is `InvalidTransition`. The elapsed time is absent when it is not
a number.
-/
def submit (h : HostRecord) (bench : Bench) (jobId output : String) (elapsed : Option ℚ) (now : ℚ)
    : Option Judged :=
  match h.pendingVerification with
  | none => none
  | some spec =>
      if h.status ≠ .verifying ∨ spec.jobId ≠ jobId then none
      else
        let taken := { h with pendingVerification := none }
        if ¬ (output.toList.all (fun c => c.toNat < 128)) then some ⟨spec, none, .raised, taken⟩
        else
          match scoreOf bench spec elapsed with
          | none => some ⟨spec, none, .raised, taken⟩
          | some score =>
              let okScore := match score with
                | some value => decide (spec.minTflops ≤ value) && decide (value ≤ spec.maxTflops)
                | none => false
              if output = spec.expectedSha256 then
                if okScore then
                  let passed := { taken with
                    benchmarkScore := score
                    trustTier := if h.ownHost then .verified else .probation
                    lastHeartbeat := some now
                    history := h.history ++ [⟨.verifying, .active, "verification passed"⟩]
                    status := .active }
                  some ⟨spec, score, .passed, passed⟩
                else
                  some ⟨spec, score, .outsideBounds, { taken with
                    trustTier := .none
                    history := h.history
                      ++ [⟨.verifying, .suspended, "benchmark outside bounds"⟩]
                    status := .suspended }⟩
              else
                some ⟨spec, score, .hashMismatch, { taken with
                  trustTier := .none
                  history := h.history ++ [⟨.verifying, .suspended, "hash mismatch"⟩]
                  status := .suspended }⟩

def promote (h : HostRecord) : Option HostRecord :=
  if h.status = .active then some { h with trustTier := .verified } else none

def suspend (h : HostRecord) (reason : String) : Option HostRecord :=
  (h.transition .suspended reason).map (fun suspended =>
    { suspended with
      trustTier := .none
      verifyReservation := none
      pendingVerification := none })

/-- `heartbeat`; `none` when it is not accepted. -/
def heartbeat (h : HostRecord) (now : ℚ) : Option HostRecord :=
  if h.status = .active then some { h with lastHeartbeat := some now } else none

/-- The condition of `sweep_sla`. -/
def misses (h : HostRecord) (now sla : ℚ) : Bool :=
  h.status = .active
  && match h.lastHeartbeat with
    | none => true
    | some last => now - last > sla

/-- The body of the loop of `sweep_sla` for a host that missed its heartbeat. -/
def swept (h : HostRecord) : HostRecord :=
  { h with
    history := h.history ++ [⟨h.status, .suspended, "heartbeat SLA missed"⟩]
    status := .suspended
    trustTier := .none }

end HostRecord

-- The registry of one process

/-- A `start_verification` between its sections. -/
structure Reservation where
  token : String
  hostId : String
  prevStatus : HostStatus
  minTflops : ℚ
  maxTflops : ℚ
  image : String
  n : ℤ
  reps : ℤ
  seed : String
  deriving DecidableEq, Repr

/-- What `uuid.uuid4()` gives: the drawn tokens and seeds, and the identifiers made from them. -/
structure Names where
  hex : ℕ → String
  jobId : ℕ → String
  hostId : ℕ → String

/-- `HostRegistry` with a store that keeps nothing, the reservations under way, and the number of
identifiers drawn.
-/
structure Registry where
  hosts : Table String HostRecord HostRecord.hostId
  inflight : List Reservation
  drawn : ℕ

/-- What a section of the registry did to a host, as far as verification is concerned. -/
inductive HostEvent where
  | reserved (hostId : String)
  | issued (spec : VerificationJobSpec)
  | judged (spec : VerificationJobSpec) (jobId output : String) (score : Option ℚ)
      (verdict : HostRecord.Verdict)
  | suspended (hostId : String)
  deriving DecidableEq, Repr

def HostEvent.hostId : HostEvent → String
  | .reserved hostId => hostId
  | .issued spec => spec.hostId
  | .judged spec .. => spec.hostId
  | .suspended hostId => hostId

/-- The calls of the registry. A `start_verification` is three of them: its reservation, and the
section after its reference hash was computed or failed.
-/
inductive RegistryCall where
  | apply (ownerContactRef gpuModel : String) (gpuCount : ℤ) (vramGb : ℚ) (region : String)
      (ownHost : Bool) (hostId : Option String) (now : ℚ)
  | startVerification (hostId : String) (thresholds : String → Option (ℚ × ℚ)) (image : String)
      (n reps : ℤ)
  | hashFailed (token : String)
  | hashComputed (token : String)
  | submitVerification (hostId jobId output : String) (elapsed : Option ℚ) (now : ℚ)
  | promote (hostId : String)
  | suspend (hostId reason : String)
  | heartbeat (hostId : String) (now : ℚ)
  | sweepSla (now sla : ℚ)

namespace Registry

def save (registry : Registry) (h : HostRecord) : Registry :=
  { registry with hosts := registry.hosts.put h }

def apply (names : Names) (registry : Registry) (ownerContactRef gpuModel : String) (gpuCount : ℤ)
    (vramGb : ℚ) (region : String) (ownHost : Bool) (hostId : Option String) (now : ℚ)
    : Registry :=
  let drawn := { registry with drawn := registry.drawn + 1 }
  let chosen := hostId.getD (names.hostId registry.drawn)
  if gpuCount < 1 ∨ vramGb ≤ 0 ∨ pyStrip gpuModel = "" then registry
  else if hostId.map isHostId = some false then registry
  else if (registry.hosts.find? chosen).isSome then drawn
  else
    drawn.save
      { hostId := chosen, ownerContactRef := ownerContactRef, gpuModel := pyStrip gpuModel,
        gpuCount := gpuCount, vramGb := vramGb, region := region, ownHost := ownHost,
        status := .pending, trustTier := .none, benchmarkScore := none, lastHeartbeat := none,
        createdAt := now, history := [], pendingVerification := none, verifyReservation := none }

/-- The first section of `start_verification`, with the seed drawn behind it. -/
def startVerification (names : Names) (registry : Registry) (hostId : String)
    (thresholds : String → Option (ℚ × ℚ)) (image : String) (n reps : ℤ)
    : List HostEvent × Registry :=
  if n < 1 ∨ maxExactN < n then ([], registry)
  else
    let drawn := { registry with drawn := registry.drawn + 2 }
    match registry.hosts.find? hostId with
    | none => ([], drawn)
    | some h =>
        match h.reserve (thresholds h.gpuModel) (names.hex registry.drawn) with
        | none => ([], drawn)
        | some reserved =>
            let bounds := (thresholds h.gpuModel).getD (0, 0)
            ([.reserved hostId],
              { drawn.save reserved with
                inflight := registry.inflight
                  ++ [⟨names.hex registry.drawn, hostId, h.status, bounds.1, bounds.2, image, n,
                    reps, names.hex (registry.drawn + 1)⟩] })

/-- The reservations under way without those of a token. -/
def forget (registry : Registry) (token : String) : Registry :=
  { registry with inflight := registry.inflight.filter (fun waiting => waiting.token ≠ token) }

/-- The section of `start_verification` after its reference hash failed. -/
def hashFailed (registry : Registry) (token : String) : Registry :=
  match registry.inflight.find? (fun waiting => waiting.token = token) with
  | none => registry
  | some waiting =>
      match registry.hosts.find? waiting.hostId with
      | none => registry.forget token
      | some h => (registry.forget token).save (h.release token waiting.prevStatus)

/-- The specification that `start_verification` makes. -/
def newSpec (bench : Bench) (waiting : Reservation) (jobId : String) : VerificationJobSpec :=
  { jobId := jobId
    hostId := waiting.hostId
    image := waiting.image
    command := s!"roma-bench --seed {waiting.seed} --n {waiting.n} --reps {waiting.reps}"
    seed := waiting.seed
    n := waiting.n
    reps := waiting.reps
    expectedSha256 := bench.referenceHash waiting.seed waiting.n
    minTflops := waiting.minTflops
    maxTflops := waiting.maxTflops
    timeoutS := 900 }

/-- The last section of `start_verification`. -/
def hashComputed (names : Names) (bench : Bench) (registry : Registry) (token : String)
    : List HostEvent × Registry :=
  match registry.inflight.find? (fun waiting => waiting.token = token) with
  | none => ([], registry)
  | some waiting =>
      let spec := newSpec bench waiting (names.jobId registry.drawn)
      let drawn := { registry.forget token with drawn := registry.drawn + 1 }
      match (registry.hosts.find? waiting.hostId).bind (fun h => h.complete token spec) with
      | none => ([], drawn)
      | some completed => ([.issued spec], drawn.save completed)

def submitVerification (bench : Bench) (registry : Registry) (hostId jobId output : String)
    (elapsed : Option ℚ) (now : ℚ)
    : List HostEvent × Registry :=
  match (registry.hosts.find? hostId).bind (fun h => h.submit bench jobId output elapsed now) with
  | none => ([], registry)
  | some judged =>
      ([.judged judged.spec jobId output judged.score judged.verdict], registry.save judged.record)

def suspend (registry : Registry) (hostId reason : String) : List HostEvent × Registry :=
  match (registry.hosts.find? hostId).bind (fun h => h.suspend reason) with
  | none => ([], registry)
  | some suspended => ([.suspended hostId], registry.save suspended)

/-- `promote` and `heartbeat`, which write a record and say nothing of its verification. -/
def rewrite (registry : Registry) (hostId : String) (write : HostRecord → Option HostRecord)
    : Registry :=
  match (registry.hosts.find? hostId).bind write with
  | none => registry
  | some h => registry.save h

def sweepSla (registry : Registry) (now sla : ℚ) : List HostEvent × Registry :=
  ((registry.hosts.rows.filter (fun h => h.misses now sla)).map (fun h => .suspended h.hostId),
    { registry with
      hosts := registry.hosts.update (fun h => h.misses now sla) HostRecord.swept (fun _ => rfl) })

end Registry

def registryStep (names : Names) (bench : Bench) (registry : Registry)
    : RegistryCall → List HostEvent × Registry
  | .apply ownerContactRef gpuModel gpuCount vramGb region ownHost hostId now =>
      ([], registry.apply names ownerContactRef gpuModel gpuCount vramGb region ownHost hostId now)
  | .startVerification hostId thresholds image n reps =>
      registry.startVerification names hostId thresholds image n reps
  | .hashFailed token => ([], registry.hashFailed token)
  | .hashComputed token => registry.hashComputed names bench token
  | .submitVerification hostId jobId output elapsed now =>
      registry.submitVerification bench hostId jobId output elapsed now
  | .promote hostId => ([], registry.rewrite hostId HostRecord.promote)
  | .suspend hostId reason => registry.suspend hostId reason
  | .heartbeat hostId now => ([], registry.rewrite hostId (fun h => h.heartbeat now))
  | .sweepSla now sla => registry.sweepSla now sla

def newRegistry : Registry := ⟨Table.empty, [], 0⟩

end RomaBridge.Model.Hosts
