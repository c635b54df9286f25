import RomaBridge.Model.HostCluster

/-! `gpu_worker/host_store.py`: the tables of both stores that hold tokens, and what the requests of
`gpu_worker/host_api.py` do to the job tokens. Every access is one step: `MemoryHostStore` holds its
lock over it, and `PgHostStore` sends one statement.
-/

namespace RomaBridge.Model.Hosts

open RomaBridge.Foundation

/-- `MemoryHostStore`. The records it keeps are read only when a registry starts. -/
structure MemoryHostStore where
  tokenHash : String → Option String
  jobTokens : String → Option (String × String)

namespace MemoryHostStore

def new : MemoryHostStore := ⟨fun _ => none, fun _ => none⟩

def putJobToken (store : MemoryHostStore) (jobId hostId tokenSha256 : String) : MemoryHostStore :=
  { store with jobTokens := Function.update store.jobTokens jobId (some (hostId, tokenSha256)) }

def consumeJobToken (store : MemoryHostStore) (jobId : String)
    : Option (String × String) × MemoryHostStore :=
  (store.jobTokens jobId,
    { store with jobTokens := Function.update store.jobTokens jobId none })

end MemoryHostStore

/-- `PgHostStore`: the tables of the hosts, and the rows of `host_tokens` that are not revoked. -/
structure PgHostStore where
  db : HostDb
  hostTokens : String → Option String

namespace PgHostStore

def new : PgHostStore := ⟨⟨Table.empty, [], fun _ => none⟩, fun _ => none⟩

def putJobToken (store : PgHostStore) (jobId hostId tokenSha256 : String) : PgHostStore :=
  { store with db := store.db.putJobToken jobId hostId tokenSha256 }

def consumeJobToken (store : PgHostStore) (jobId : String)
    : Option (String × String) × PgHostStore :=
  let consumed := store.db.consumeJobToken jobId
  (consumed.1.map (fun token => (token.hostId, token.tokenSha256)),
    { store with db := consumed.2 })

end PgHostStore

/-- What `store_from_env` returns. -/
inductive HostStore where
  | memory (store : MemoryHostStore)
  | pg (store : PgHostStore)

namespace HostStore

def liveJobToken : HostStore → String → Option (String × String)
  | .memory store, jobId => store.jobTokens jobId
  | .pg store, jobId => (store.db.jobTokens jobId).bind (fun token =>
      if token.used then none else some (token.hostId, token.tokenSha256))

def putJobToken : HostStore → String → String → String → HostStore
  | .memory store, jobId, hostId, tokenSha256 => .memory (store.putJobToken jobId hostId tokenSha256)
  | .pg store, jobId, hostId, tokenSha256 => .pg (store.putJobToken jobId hostId tokenSha256)

def consumeJobToken : HostStore → String → Option (String × String) × HostStore
  | .memory store, jobId =>
      ((store.consumeJobToken jobId).1, .memory (store.consumeJobToken jobId).2)
  | .pg store, jobId => ((store.consumeJobToken jobId).1, .pg (store.consumeJobToken jobId).2)

end HostStore

/-- The check of `_submit`: a token was consumed, it belongs to the host, and the request shows a
text with its hash.
-/
def validJobToken (sha256 : String → String) (hostId : String) (jobToken : Option String)
    (entry : Option (String × String))
    : Bool :=
  entry.any (fun found => found.1 = hostId && jobToken.map sha256 = some found.2)

/-- The accesses to the job tokens by the requests of authenticated hosts, in any process:
`_fetch_job` stores the hash of the token it drew, and `_submit` consumes the token of the job that
the request names. The token of a request is absent when it is not a text.
-/
inductive TokenCall where
  | fetchJob (hostId jobId jobToken : String)
  | submitResult (hostId jobId : String) (jobToken : Option String)
  deriving DecidableEq, Repr

/-- What follows: the drawn token is returned, or `submit_verification` is called, or the request is
refused.
-/
inductive TokenReply where
  | handedOut
  | accepted
  | refused
  deriving DecidableEq, Repr

def tokenStep (sha256 : String → String) (store : HostStore) : TokenCall → TokenReply × HostStore
  | .fetchJob hostId jobId jobToken =>
      (.handedOut, store.putJobToken jobId hostId (sha256 jobToken))
  | .submitResult hostId jobId jobToken =>
      let consumed := store.consumeJobToken jobId
      (if validJobToken sha256 hostId jobToken consumed.1 then .accepted else .refused, consumed.2)

end RomaBridge.Model.Hosts

/-! `gpu_worker/host_api.py`: one request of a host agent, over the registry of the process and
either store. The registry and the API share one store, as `get_host_api` sets them up.
-/

namespace RomaBridge.Model.Hosts

open RomaBridge.Foundation
open RomaBridge.Model (PyDict PyValue)

/-- `load_host`: both queries in a row. -/
def HostDb.loadHost (db : HostDb) (hostId : String) : Option HostRecord :=
  (db.hosts.find? hostId).map (fun row =>
    row.record (if row.status = .verifying then (db.unfinished row.hostId).map VerificationRow.spec
      else none))

namespace HostStore

def getHostTokenHash : HostStore → String → Option String
  | .memory store, hostId => store.tokenHash hostId
  | .pg store, hostId => store.hostTokens hostId

def saveHost : HostStore → HostRecord → HostStore
  | .memory store, _ => .memory store
  | .pg store, h => .pg { store with db := store.db.saveHost h }

def finishVerification : HostStore → String → Bool → HostStore
  | .memory store, _, _ => .memory store
  | .pg store, jobId, passed => .pg { store with db := store.db.finishVerification jobId passed }

def hostRow : HostStore → String → Option HostRow
  | .memory _, _ => none
  | .pg store, hostId => store.db.hosts.find? hostId

def unfinished : HostStore → String → List VerificationRow
  | .memory _, _ => []
  | .pg store, hostId =>
      store.db.verifications.filter (fun row => row.hostId = hostId ∧ row.passed = none)

end HostStore

/-- What a request finds around it: the feature flag, `str` of a value, SHA-256, the benchmark, the
limit of requests, both clocks, and the token that a fetch draws.
-/
structure ApiEnv where
  enabled : Bool
  str : PyValue → String
  sha256 : String → String
  bench : Bench
  rpm : ℕ
  clock : ℚ
  now : ℚ
  drawnToken : String

/-- A reply of `handle`. `raised` is an exception that `handle` does not catch. -/
inductive ApiReply where
  | error (code : ℕ) (error : String)
  | heartbeat (status : HostStatus) (accepted : Bool)
  | noJob
  | job (spec : VerificationJobSpec) (jobToken : String)
  | judged (status : HostStatus) (trustTier : TrustTier)
  | raised
  deriving DecidableEq, Repr

/-- `HostApi`: the records of its registry, the store, and `_hits`. -/
structure HostApi where
  hosts : Table String HostRecord HostRecord.hostId
  store : HostStore
  hits : String → List ℚ

namespace HostApi

/-- `str(req.get(key) or "")`. -/
def text (env : ApiEnv) (req : PyDict) (key : String) : String :=
  env.str ((req.get key).orElse (.str ""))

def shownJobToken (req : PyDict) : Option String :=
  match req.get "job_token" with
  | .str jobToken => some jobToken
  | _ => none

/-- `elapsed_s`, if it is a number; a Boolean is one. -/
def elapsed (req : PyDict) : Option ℚ :=
  match req.get "elapsed_s" with
  | .bool value => some (if value then 1 else 0)
  | .int value => some value
  | .float value => some value
  | _ => none

/-- `_authenticated`. A stored text that is empty counts as the dummy hash. -/
def authenticated (env : ApiEnv) (api : HostApi) (hostId : String) (token : PyValue) : Bool :=
  match token with
  | .str token =>
      token ≠ "" && (api.store.getHostTokenHash hostId).any (fun stored =>
        env.sha256 token = if stored = "" then env.sha256 "roma-no-such-host" else stored)
  | _ => false

/-- The window of a host without the requests that left it. -/
def window (env : ApiEnv) (api : HostApi) (hostId : String) : List ℚ :=
  (api.hits hostId).dropWhile (fun hit => 60 ≤ env.clock - hit)

def allow (env : ApiEnv) (api : HostApi) (hostId : String) : Bool × HostApi :=
  let recent := api.window env hostId
  if env.rpm ≤ recent.length then
    (false, { api with hits := Function.update api.hits hostId recent })
  else (true, { api with hits := Function.update api.hits hostId (recent ++ [env.clock]) })

/-- `HostRegistry.refresh`. -/
def refresh (api : HostApi) (hostId : String) : HostApi :=
  match api.store with
  | .memory _ => api
  | .pg store =>
      if (api.hosts.find? hostId).any (fun h => h.verifyReservation.isSome) then api
      else
        match store.db.loadHost hostId with
        | none => { api with hosts := api.hosts.keep (fun h => h.hostId ≠ hostId) }
        | some fresh => { api with hosts := api.hosts.put fresh }

def persist (api : HostApi) (h : HostRecord) : HostApi :=
  { api with hosts := api.hosts.put h, store := api.store.saveHost h }

def heartbeat (env : ApiEnv) (api : HostApi) (hostId : String) : ApiReply × HostApi :=
  match api.hosts.find? hostId with
  | none => (.error 409 "KeyError", api)
  | some h =>
      match h.heartbeat env.now with
      | none => (.heartbeat h.status false, api)
      | some beaten => (.heartbeat beaten.status true, api.persist beaten)

/-- The specification that `_fetch_job` hands out. -/
def fetchable (api : HostApi) (hostId : String) : Option VerificationJobSpec :=
  (api.hosts.find? hostId).bind (fun h =>
    if h.status = .verifying then h.pendingVerification else none)

def fetchJob (env : ApiEnv) (api : HostApi) (hostId : String) : ApiReply × HostApi :=
  if (api.hosts.find? hostId).isNone then (.error 409 "KeyError", api)
  else
    match api.fetchable hostId with
    | none => (.noJob, api)
    | some spec =>
        (.job spec env.drawnToken,
          { api with
            store := api.store.putJobToken spec.jobId hostId (env.sha256 env.drawnToken) })

/-- `HostRegistry.submit_verification` of the output and the time in a request. -/
def judge (env : ApiEnv) (api : HostApi) (hostId : String) (req : PyDict)
    : Option HostRecord.Judged :=
  (api.hosts.find? hostId).bind (fun h =>
    h.submit env.bench (text env req "job_id") (text env req "output_sha256") (elapsed req) env.now)

/-- What follows the check of the job token in `_submit`. An exception behind the specification
leaves it taken and stores nothing.
-/
def submitVerification (env : ApiEnv) (api : HostApi) (hostId : String) (req : PyDict)
    : ApiReply × HostApi :=
  if (api.hosts.find? hostId).isNone then (.error 409 "KeyError", api)
  else
    match api.judge env hostId req with
    | none => (.error 409 "InvalidTransition", api)
    | some judged =>
        if judged.verdict = .raised then (.raised, { api with hosts := api.hosts.put judged.record })
        else
          (.judged judged.record.status judged.record.trustTier,
            { api with
              store := api.store.finishVerification (text env req "job_id")
                (judged.verdict = HostRecord.Verdict.passed) }.persist judged.record)

/-- Whether the job token in a request is good. -/
def validSubmit (env : ApiEnv) (api : HostApi) (hostId : String) (req : PyDict) : Bool :=
  validJobToken env.sha256 hostId (shownJobToken req)
    (api.store.consumeJobToken (text env req "job_id")).1

def submit (env : ApiEnv) (api : HostApi) (hostId : String) (req : PyDict) : ApiReply × HostApi :=
  let consumed := { api with store := (api.store.consumeJobToken (text env req "job_id")).2 }
  if api.validSubmit env hostId req then consumed.submitVerification env hostId req
  else (.error 409 "invalid_or_used_job_token", consumed)

/-- The part of `handle` behind the refresh. -/
def act (env : ApiEnv) (api : HostApi) (hostId : String) (req : PyDict) : ApiReply × HostApi :=
  if req.get "action" = .str "heartbeat" then api.heartbeat env hostId
  else if req.get "action" = .str "fetch_job" then api.fetchJob env hostId
  else if req.get "action" = .str "submit_result" then api.submit env hostId req
  else (.error 400 "unknown_action", api)

/-- `handle`; a request that is not a dictionary is `none`. -/
def handle (env : ApiEnv) (api : HostApi) (req : Option PyDict) : ApiReply × HostApi :=
  if env.enabled = false then (.error 503 "hosts_disabled", api)
  else
    match req with
    | none => (.error 400 "bad_request", api)
    | some req =>
        let hostId := text env req "host_id"
        if api.authenticated env hostId (req.get "token") then
          let (allowed, counted) := api.allow env hostId
          if allowed then (counted.refresh hostId).act env hostId req
          else (.error 429 "rate_limited", counted)
        else (.error 401 "unauthorized", api)

end HostApi
end RomaBridge.Model.Hosts
