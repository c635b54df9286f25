import RomaBridge.Foundation.Trace
import RomaBridge.Model.PyValues

/-! The `/ws/worker` endpoint of `main.py`: its connections, the jobs of the demo path and the rows
of `workers`. What a handler does between two awaits is one step of any number of connections; an
exception runs into the `finally` of its handler without an await.
-/

namespace RomaBridge.Model.WorkerSockets

open RomaBridge.Foundation

/-- A value as the key of a Python dictionary. Numbers and truth values are one kind. -/
inductive DictKey where
  | none
  | number (value : ℚ)
  | text (value : String)
  deriving DecidableEq

/-- The key that a value is. A list or a dictionary raises `TypeError`. -/
def dictKey : JsonValue → Option DictKey
  | .null => some .none
  | .bool value => some (.number (if value then 1 else 0))
  | .int value => some (.number value)
  | .float value => some (.number value)
  | .str value => some (.text value)
  | .list _ | .dict _ => none

structure Job where
  jobId : String
  tenantId : String
  status : JsonValue
  output : Option JsonValue
  error : Option JsonValue

abbrev Jobs := Table String Job Job.jobId

/-- A row of `workers`. A date is in seconds. -/
structure WorkerRow where
  id : String
  tenantId : String
  status : String
  capabilities : JsonValue
  lastHeartbeat : ℚ
  updatedAt : ℚ

abbrev Workers := Table String WorkerRow WorkerRow.id

/-- What `lookup_key` answers for a key. -/
inductive KeyAnswer where
  | raised
  | unknown
  | tenant (tenantId : String)

/-- How a call of the database ends: an exception may come after its commit. -/
inductive DbAnswer where
  | done
  | raised (applied : Bool)

/-- What surrounds a message: the keys, the database and the clock. `columnText` is the text that a
value is stored as in a `TEXT` column, `none` where the statement raises.
-/
structure World where
  resolve : JsonValue → KeyAnswer
  pgEnabled : Bool
  database : DbAnswer
  columnText : JsonValue → Option String
  now : ℚ

def lookupKey (world : World) (rawKey : JsonValue) : KeyAnswer :=
  if rawKey.truthy then world.resolve rawKey else .unknown

/-- A call of the database with what its statement would leave: whether it returned, and the rows.
Without PostgreSQL there is no such table and nothing happens.
-/
def dbCall (world : World) (workers : Workers) (statement : Option Workers) : Bool × Workers :=
  if world.pgEnabled then
    match statement, world.database with
    | none, _ => (false, workers)
    | some after, .done => (true, after)
    | some after, .raised applied => (false, if applied then after else workers)
  else
    (true, workers)

def registerWorker (world : World) (workers : Workers) (workerId : JsonValue) (tenantId : String)
    (capabilities : JsonValue)
    : Bool × Workers :=
  dbCall world workers ((world.columnText workerId).map (fun id =>
    workers.put ⟨id, tenantId, "idle",
      if capabilities.truthy then capabilities else .dict [], world.now, world.now⟩))

/-- `UPDATE workers SET .. WHERE id=%s`. A null id selects no row; another value than a text cannot
be compared with the column.
-/
def updateWhere (workers : Workers) (workerId : JsonValue) (write : WorkerRow → WorkerRow)
    (keeps : ∀ row, (write row).id = row.id)
    : Option Workers :=
  match workerId with
  | .str id => some (workers.update (fun row => row.id = id) write keeps)
  | .null => some workers
  | _ => none

def updateWorkerHeartbeat (world : World) (workers : Workers) (workerId : JsonValue)
    : Bool × Workers :=
  dbCall world workers (updateWhere workers workerId
    (fun row => { row with lastHeartbeat := world.now, updatedAt := world.now }) (fun _ => rfl))

def releaseWorker (world : World) (workers : Workers) (workerId : JsonValue) : Bool × Workers :=
  dbCall world workers (updateWhere workers workerId
    (fun row => { row with status := "idle", updatedAt := world.now }) (fun _ => rfl))

-- Handlers

/-- The variables of `ws_worker`. -/
structure Handler where
  workerId : JsonValue
  tenantId : Option String

/-- Where a connection stands. A refused one awaits its `send_json` and `close`. -/
inductive SocketPhase where
  | absent
  | serving (handler : Handler)
  | refused (handler : Handler)
  | ended

/-- The endpoint: its connections, `active_ws_workers`, `jobs` and `workers`. -/
structure Endpoint where
  phases : ℕ → SocketPhase
  activeWsWorkers : DictKey → Option ℕ
  jobs : Jobs
  workers : Workers

/-- What is sent to a connection. -/
inductive SocketReply where
  | nothing
  | registered (workerId : JsonValue) (tenantId : String)
  | invalidApiKey
  | heartbeatAck (workerId : JsonValue)

/-- How the handling of a message ends. -/
inductive Outcome where
  | served (reply : SocketReply)
  | refused
  | raised

/-- The messages of type `register`. -/
def register (world : World) (connection : ℕ) (endpoint : Endpoint) (handler : Handler)
    (data : JsonDict)
    : Outcome × Handler × Endpoint :=
  match data.get? "worker_id" with
  | none => (.raised, handler, endpoint)
  | some workerId =>
      let named := { handler with workerId := workerId }
      match lookupKey world (data.getOr "api_key" (.str "")) with
      | .raised => (.raised, named, endpoint)
      | .unknown => (.refused, named, endpoint)
      | .tenant tenantId =>
          let known := { named with tenantId := some tenantId }
          let (returned, workers) := registerWorker world endpoint.workers workerId tenantId
            (data.getOr "capabilities" (.dict []))
          let endpoint := { endpoint with workers := workers }
          match returned, dictKey workerId with
          | true, some key =>
              (.served (.registered workerId tenantId), known,
                { endpoint with
                  activeWsWorkers :=
                    Function.update endpoint.activeWsWorkers key (some connection) })
          | _, _ => (.raised, known, endpoint)

/-- The messages of type `heartbeat`. -/
def heartbeat (world : World) (endpoint : Endpoint) (handler : Handler)
    : Outcome × Handler × Endpoint :=
  let (returned, workers) := updateWorkerHeartbeat world endpoint.workers handler.workerId
  (if returned then .served (.heartbeatAck handler.workerId) else .raised, handler,
    { endpoint with workers := workers })

/-- `status in ("completed", "failed")`. -/
def finishes : JsonValue → Bool
  | .str status => status = "completed" || status = "failed"
  | _ => false

/-- What a status update writes to its job: the status and, when the worker was released, the output
and the error of the message.
-/
def Job.report (job : Job) (data : JsonDict) (released : Bool) : Job :=
  { job with
    status := data.getOr "status" .null
    output := if released then (data.get? "output").or job.output else job.output
    error := if released then (data.get? "error").or job.error else job.error }

@[simp]
theorem Job.jobId_report (job : Job) (data : JsonDict) (released : Bool)
    : (job.report data released).jobId = job.jobId := rfl

def Jobs.report (jobs : Jobs) (jobId : String) (data : JsonDict) (released : Bool) : Jobs :=
  jobs.update (fun job => job.jobId = jobId) (fun job => job.report data released)
    (fun job => job.jobId_report data released)

theorem Jobs.find?_report (jobs : Jobs) (jobId other : String) (data : JsonDict) (released : Bool)
    : (jobs.report jobId data released).find? other
      = if other = jobId then (jobs.find? other).map (fun job => job.report data released)
        else jobs.find? other := by
  unfold report
  rw [Table.find?_update]
  cases found : jobs.find? other with
  | none => simp
  | some job =>
      have own : job.jobId = other := (Table.find?_some found).2
      by_cases same : other = jobId
      · simp [own, same]
      · simp [own, same]

/-- The messages of type `status_update`. -/
def statusUpdate (world : World) (endpoint : Endpoint) (handler : Handler) (data : JsonDict)
    : Outcome × Handler × Endpoint :=
  match data.getOr "job_id" .null with
  | .list _ | .dict _ => (.raised, handler, endpoint)
  | .str jobId =>
      if (endpoint.jobs.find? jobId).isSome then
        if finishes (data.getOr "status" .null) then
          let (returned, workers) := releaseWorker world endpoint.workers handler.workerId
          (if returned then .served .nothing else .raised, handler,
            { endpoint with jobs := endpoint.jobs.report jobId data returned, workers := workers })
        else
          (.served .nothing, handler,
            { endpoint with jobs := endpoint.jobs.report jobId data false })
      else
        (.served .nothing, handler, endpoint)
  | _ => (.served .nothing, handler, endpoint)

def dispatch (world : World) (connection : ℕ) (endpoint : Endpoint) (handler : Handler)
    (data : JsonDict)
    : Outcome × Handler × Endpoint :=
  match data.getOr "type" .null with
  | .str "register" => register world connection endpoint handler data
  | .str "heartbeat" => heartbeat world endpoint handler
  | .str "status_update" => statusUpdate world endpoint handler data
  | _ => (.served .nothing, handler, endpoint)

/-- One message. Without data it is no JSON object and reading it raises. -/
def process (world : World) (connection : ℕ) (endpoint : Endpoint) (handler : Handler)
    : Option JsonDict → Outcome × Handler × Endpoint
  | none => (.raised, handler, endpoint)
  | some data => dispatch world connection endpoint handler data

/-- The key that the end of a handler removes, when it removes one. -/
def Handler.named (handler : Handler) : Option DictKey :=
  if handler.workerId.truthy then dictKey handler.workerId else none

/-- The `finally` of `ws_worker`. -/
def finish (endpoint : Endpoint) (connection : ℕ) (handler : Handler) : Endpoint :=
  { endpoint with
    phases := Function.update endpoint.phases connection .ended
    activeWsWorkers := fun key =>
      if handler.named = some key then none else endpoint.activeWsWorkers key }

-- Steps

/-- A step: a submission of the demo path, a new connection, a message that one receives, or what
ends one at an await.
-/
inductive SocketCall where
  | submit (jobId tenantId : String)
  | accept (connection : ℕ)
  | receive (connection : ℕ) (data : Option JsonDict) (world : World)
  | leave (connection : ℕ)

/-- A message that was handled: the handler goes on, awaits its closing, or has ended. -/
def settle (connection : ℕ) : Outcome × Handler × Endpoint → SocketReply × Endpoint
  | (.served reply, handler, endpoint) =>
      (reply, { endpoint with
        phases := Function.update endpoint.phases connection (.serving handler) })
  | (.refused, handler, endpoint) =>
      (.invalidApiKey, { endpoint with
        phases := Function.update endpoint.phases connection (.refused handler) })
  | (.raised, handler, endpoint) => (.nothing, finish endpoint connection handler)

def socketStep (endpoint : Endpoint) : SocketCall → SocketReply × Endpoint
  | .submit jobId tenantId =>
      (.nothing, { endpoint with
        jobs := (endpoint.jobs.insert? ⟨jobId, tenantId, .str "queued", none, none⟩).getD
          endpoint.jobs })
  | .accept connection =>
      match endpoint.phases connection with
      | .absent =>
          (.nothing, { endpoint with
            phases := Function.update endpoint.phases connection (.serving ⟨.null, none⟩) })
      | _ => (.nothing, endpoint)
  | .receive connection data world =>
      match endpoint.phases connection with
      | .serving handler => settle connection (process world connection endpoint handler data)
      | _ => (.nothing, endpoint)
  | .leave connection =>
      match endpoint.phases connection with
      | .serving handler | .refused handler => (.nothing, finish endpoint connection handler)
      | _ => (.nothing, endpoint)

def newEndpoint (workers : Workers) : Endpoint :=
  ⟨fun _ => .absent, fun _ => none, Table.empty, workers⟩

end RomaBridge.Model.WorkerSockets
