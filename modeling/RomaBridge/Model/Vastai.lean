import Mathlib.Data.List.Infix
import RomaBridge.Foundation.Table
import RomaBridge.Foundation.Trace

/-! `backends/vastai.py`: renting, cancelling and monitoring contracts. `dispatch`, `get_status` and
`cancel_job` await nothing, so that each is one step of the event loop; the monitor gives way while
its callback runs. What the provider does at a call is an argument of the step.
-/

namespace RomaBridge.Model.Vastai

open RomaBridge.Foundation

-- The retry loops of `dispatch`

def gpuFallbackChain : List String := ["RTX_4090", "RTX_4080", "RTX_3090"]

/-- `gpu_chain`: from the requested model on, or the requested one before the whole chain. -/
def gpuChain (instanceType defaultGpu : String) : List String :=
  let requestedGpu := if instanceType ≠ "any" then instanceType else defaultGpu
  if requestedGpu ∈ gpuFallbackChain then
    gpuFallbackChain.dropWhile (fun model => model ≠ requestedGpu)
  else
    requestedGpu :: gpuFallbackChain

/-- What becomes of a `rent_instance` call: an error before or after the contract exists, a reply
without a contract id, or the id of the new contract. The error is its text in lower case.
-/
inductive RentOutcome where
  | refused (errorText : String)
  | lost (errorText : String)
  | unnamed (created : Bool)
  | rented
  deriving DecidableEq, Repr

/-- What the provider does in one attempt. -/
inductive Attempt where
  | searchFails (errorText : String)
  | noOffers
  | rent (outcome : RentOutcome)
  deriving DecidableEq, Repr

/-- `part in text`. -/
def mentions (text part : String) : Bool := decide (part.toList <:+: text.toList)

/-- A stale offer, which is searched for again. -/
def noSuchAsk (errorText : String) : Bool :=
  mentions errorText "no_such_ask" || mentions errorText "not available"

/-- A rate limit; the second one ends the attempts with the model. -/
def rateLimited (errorText : String) : Bool :=
  mentions errorText "429" || mentions errorText "too frequent" || mentions errorText "rate"
  || mentions errorText "too many requests"

/-- The rate limit hits after an error, or `none` when it ends the attempts with the model. -/
def hitsAfter (rateLimitHits : ℕ) (errorText : String) : Option ℕ :=
  if noSuchAsk errorText then
    some rateLimitHits
  else if rateLimited errorText then
    if rateLimitHits + 1 ≥ 2 then none else some (rateLimitHits + 1)
  else
    some rateLimitHits

def RentOutcome.hitsAfter (rateLimitHits : ℕ) : RentOutcome → Option ℕ
  | .refused errorText | .lost errorText => Vastai.hitsAfter rateLimitHits errorText
  | .unnamed _ | .rented => some rateLimitHits

/-- The rents of the attempts with one model, and whether one of them succeeded; `rateLimitHits`
are those before the attempts that are left.
-/
def modelRents (rateLimitHits : ℕ) : List Attempt → List RentOutcome × Bool
  | [] => ([], false)
  | .noOffers :: _ => ([], false)
  | .searchFails errorText :: rest =>
      match hitsAfter rateLimitHits errorText with
      | none => ([], false)
      | some hits => modelRents hits rest
  | .rent outcome :: rest =>
      if outcome = .rented then
        ([.rented], true)
      else
        match outcome.hitsAfter rateLimitHits with
        | none => ([outcome], false)
        | some hits => (outcome :: (modelRents hits rest).1, (modelRents hits rest).2)

/-- The rents of a dispatch: up to four attempts for each model of the chain. `provider` says what
happens at an attempt with a model.
-/
def chainRents (provider : String → ℕ → Attempt) : List String → List RentOutcome
  | [] => []
  | model :: rest =>
      let (rents, done) := modelRents 0 ((List.range 4).map (provider model))
      if done then rents else rents ++ chainRents provider rest

-- The backend

/-- Where the monitor is: asleep, or in the callback of a job, with the contracts it has yet to look
at.
-/
inductive Monitor where
  | asleep
  | inCallback (jobId : String) (rest : List ℕ)
  deriving DecidableEq, Repr

/-- The backend object and the provider: `_job_instance_map`, the next contract id, and the jobs of
the contracts that are not destroyed.
-/
structure Vastai where
  enabled : Bool
  defaultGpu : String
  jobInstanceMap : Table String (String × ℕ) Prod.fst
  nextContract : ℕ
  live : ℕ → Option String
  monitor : Monitor

/-- `_job_instance_map.get(job_id)`. -/
def Vastai.contract? (backend : Vastai) (jobId : String) : Option ℕ :=
  (backend.jobInstanceMap.find? jobId).map Prod.snd

/-- `_job_instance_map.pop(job_id, None)`. -/
def Vastai.forget (backend : Vastai) (jobId : String) : Vastai :=
  { backend with jobInstanceMap := backend.jobInstanceMap.keep (fun entry => entry.1 ≠ jobId) }

def Vastai.create (backend : Vastai) (jobId : String) : Vastai :=
  { backend with
    nextContract := backend.nextContract + 1
    live := Function.update backend.live backend.nextContract (some jobId) }

/-- A rent of a job, and `_job_instance_map[ctx.job_id] = contract_id` when it returns the id. -/
def Vastai.rent (jobId : String) (backend : Vastai) : RentOutcome → Vastai
  | .refused _ => backend
  | .lost _ => backend.create jobId
  | .unnamed created => if created then backend.create jobId else backend
  | .rented =>
      { backend.create jobId with
        jobInstanceMap := backend.jobInstanceMap.put (jobId, backend.nextContract) }

def Vastai.findJobByContract (backend : Vastai) (contractId : ℕ) : Option String :=
  (backend.jobInstanceMap.rows.find? (fun entry => entry.2 = contractId)).map Prod.fst

/-- The loop over the instances up to the next callback. -/
def Vastai.look (backend : Vastai) : List ℕ → Vastai
  | [] => { backend with monitor := .asleep }
  | contractId :: rest =>
      match backend.findJobByContract contractId with
      | some jobId => { backend with monitor := .inCallback jobId rest }
      | none => backend.look rest

/-- An instance of the provider's list: its contract and its `actual_status`. -/
structure Instance where
  contractId : ℕ
  actualStatus : String
  deriving DecidableEq, Repr

/-- `status in ("stopped", "completed", "exited")`. -/
def Instance.ended (instance' : Instance) : Bool :=
  ["stopped", "completed", "exited"].contains instance'.actualStatus

/-- The steps. `instances` is `none` when `get_instances`, or the cost that is computed from it,
raises; `destroyed` says whether the provider destroys the contract, whatever it replies.
-/
inductive VastaiCall where
  | dispatch (jobId instanceType : String) (provider : String → ℕ → Attempt)
  | getStatus (jobId : String) (instanceId : Option ℕ) (instances : Option (List Instance))
  | cancelJob (jobId : String) (instances : Option (List Instance)) (destroyed : Bool)
  | monitorTick (instances : Option (List Instance))
  | callbackEnds

inductive Reply where
  | provisioning (contractId : ℕ)
  | failed
  | notConfigured
  | status (contractId : Option ℕ) (text : String)
  | cancelled (contractId : ℕ)
  | noop
  | raised
  | monitoring
  deriving DecidableEq, Repr

def dispatch (backend : Vastai) (jobId instanceType : String) (provider : String → ℕ → Attempt)
    : Reply × Vastai :=
  if backend.enabled then
    let rents := chainRents provider (gpuChain instanceType backend.defaultGpu)
    let after := rents.foldl (Vastai.rent jobId) backend
    if rents.contains .rented then
      (.provisioning (after.nextContract - 1), after)
    else
      (.failed, after)
  else
    (.notConfigured, backend)

def getStatus (backend : Vastai) (jobId : String) (instanceId : Option ℕ)
    (instances : Option (List Instance))
    : Reply :=
  match (backend.contract? jobId).or instanceId with
  | none => .status none "unknown"
  | some contractId =>
      match instances with
      | none => .raised
      | some listed =>
          match listed.find? (fun instance' => instance'.contractId = contractId) with
          | some instance' => .status (some contractId) instance'.actualStatus
          | none => .status (some contractId) "unknown"

/-- `cancel_job`: the map forgets the contract before the provider is asked. -/
def cancelJob (backend : Vastai) (jobId : String) (instances : Option (List Instance))
    (destroyed : Bool)
    : Reply × Vastai :=
  match backend.contract? jobId with
  | none => (.noop, backend.forget jobId)
  | some contractId =>
      let forgotten := backend.forget jobId
      match instances with
      | none => (.raised, forgotten)
      | some _ =>
          if destroyed then
            (.cancelled contractId,
              { forgotten with live := Function.update forgotten.live contractId none })
          else
            (.cancelled contractId, forgotten)

def vastaiStep (backend : Vastai) : VastaiCall → Reply × Vastai
  | .dispatch jobId instanceType provider => dispatch backend jobId instanceType provider
  | .getStatus jobId instanceId instances =>
      (getStatus backend jobId instanceId instances, backend)
  | .cancelJob jobId instances destroyed => cancelJob backend jobId instances destroyed
  | .monitorTick instances =>
      match backend.monitor, instances with
      | .asleep, some listed =>
          (.monitoring, backend.look ((listed.filter Instance.ended).map Instance.contractId))
      | _, _ => (.monitoring, backend)
  | .callbackEnds =>
      match backend.monitor with
      | .asleep => (.monitoring, backend)
      | .inCallback jobId rest => (.monitoring, (backend.forget jobId).look rest)

/-- A new backend object: no contract, the first id is `1`. -/
def newBackend (enabled : Bool) (defaultGpu : String) : Vastai :=
  ⟨enabled, defaultGpu, .empty, 1, fun _ => none, .asleep⟩

end RomaBridge.Model.Vastai
