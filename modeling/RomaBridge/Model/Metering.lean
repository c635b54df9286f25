import RomaBridge.Model.PlanSource
import RomaBridge.Model.Service

/-! `PGMeteringEngine.record` with all its arguments, and the threads that meter usage: any number
of `_increment_usage` and `record` calls over one database.
-/

namespace RomaBridge.Model

open RomaBridge.Foundation

/-- `UsageEvent.__post_init__`: dollars per unit, where no cost is given. -/
def EventType.rate : EventType → ℚ
  | .gpuUsage => 1 / 100000
  | .cpuUsage => 1 / 1000000
  | .storageUsage => 1 / 10000000
  | .pluginExec => 1 / 1000
  | .tokenUsage => 1
  | .gpuExecution | .cpuExecution => 0

/-- The arguments of `record`. The empty job id stands for `None` too: neither has a conflict. -/
structure RecordArgs where
  eventType : EventType
  tenant : String
  jobId : String := "manual"
  gpuSeconds : ℚ := 0
  cpuSeconds : ℚ := 0
  gbSeconds : ℚ := 0
  pluginCount : ℤ := 0
  billed : Bool := false
  costUsd : Option ℚ := none
  value : Option ℚ := none

namespace RecordArgs

/-- `val`: the value, or the first amount that is not zero. -/
def val (args : RecordArgs) : ℚ :=
  args.value.getD
    (if args.gpuSeconds ≠ 0 then args.gpuSeconds
    else if args.cpuSeconds ≠ 0 then args.cpuSeconds
    else if args.gbSeconds ≠ 0 then args.gbSeconds
    else args.pluginCount)

def row (args : RecordArgs) : UsageRow where
  tenantId := args.tenant
  eventType := args.eventType
  value := args.val
  costUsd := roundTo 8 (args.costUsd.getD (args.val * args.eventType.rate))
  jobId := args.jobId
  billed := args.billed

end RecordArgs

/-- `PGMeteringEngine.record`. -/
def recordUsage (args : RecordArgs) : Action Bool :=
  ask .usageRecord (.usageInsert args.row args.gpuSeconds args.cpuSeconds args.gbSeconds)

/-- The calls of `_increment_usage` are calls of `record`. -/
theorem record_eq_recordUsage (eventType : EventType) (tenant jobId : String)
    (gpuSeconds value costUsd : ℚ)
    : record eventType tenant jobId gpuSeconds value costUsd
      = recordUsage {
          eventType, tenant, jobId, gpuSeconds,
          billed := true, costUsd := some costUsd, value := some value } := rfl

/-- What a metering thread runs. -/
inductive MeteringTask where
  | incrementUsage (tenantId : String) (gpuSec : ℚ) (inputTokens outputTokens : ℤ)
    (planName : String) (jobId : JobId) (backend : Option String)
  | record (args : RecordArgs)

/-- The program of a metering thread. -/
def meteringBody : MeteringTask → Action Unit
  | .incrementUsage tenantId gpuSec inputTokens outputTokens planName jobId backend =>
      (incrementUsage tenantId gpuSec inputTokens outputTokens planName jobId backend).bind
        (fun _ => .done ())
  | .record args => (recordUsage args).bind (fun _ => .done ())

/-- The metering threads over the bridge's database. -/
@[reducible]
def metering : Machine bridge Db MeteringTask Unit := bridgeMachine meteringBody (fun _ _ => [])

/-- One scheduling decision; a label that does not apply leaves everything. -/
def meteringStep (config : Config bridge Db MeteringTask Unit) (label : Label MeteringTask)
    : Unit × Config bridge Db MeteringTask Unit :=
  ((), (metering.step config label).getD config)

end RomaBridge.Model

/-! `_increment_usage` as far as the counters of `ledger_consumption` see it: which events a billing
call records after its DEBIT, one transaction an event, and the jobs that were billed.
-/

namespace RomaBridge.Model.Plans

open RomaBridge.Foundation

/-- A call of `_increment_usage`: its arguments, whether its DEBIT is durable, and how many of its
events are stored before the call ends or its process dies.
-/
structure BillingCall where
  tenantId : String
  gpuSec : ℚ
  inputTokens : ℤ
  outputTokens : ℤ
  jobId : JobId
  backend : Option String
  debited : Bool
  written : ℕ

/-- A billed job with the GPU seconds it was billed for. -/
structure BilledJob where
  tenantId : String
  jobId : JobId
  gpuSeconds : ℚ

def BilledJob.key (job : BilledJob) : String × JobId := (job.tenantId, job.jobId)

/-- The database and the jobs whose DEBIT is durable. -/
structure Meter where
  db : Db
  billed : Table (String × JobId) BilledJob BilledJob.key

namespace BillingCall

/-- The events of the two `metering_engine.record` calls, with their `gpu_seconds` argument. -/
def events (call : BillingCall) : List (UsageRow × ℚ) :=
  (if call.gpuSec > 0 then
    [({
        tenantId := call.tenantId
        eventType := eventTypeOf call.backend
        value := call.gpuSec
        costUsd := roundTo 8 (gpuCost call.gpuSec)
        jobId := call.jobId.text
        billed := true
      }, call.gpuSec)]
  else [])
  ++ (if call.inputTokens > 0 || call.outputTokens > 0 then
    [({
        tenantId := call.tenantId
        eventType := .tokenUsage
        value := call.inputTokens + call.outputTokens
        costUsd := roundTo 8 (tokenCost call.inputTokens call.outputTokens)
        jobId := call.jobId.text
        billed := true
      }, 0)]
  else [])

/-- A call without a tenant, without a cost or without funds records nothing. -/
def bills (call : BillingCall) : Bool :=
  call.tenantId ≠ "" && decide (0 < totalCost call.gpuSec call.inputTokens call.outputTokens)
    && call.debited

def gpuSeconds (call : BillingCall) : ℚ :=
  if eventTypeOf call.backend = .gpuExecution ∧ 0 < call.gpuSec then call.gpuSec else 0

def job (call : BillingCall) : BilledJob := ⟨call.tenantId, call.jobId, call.gpuSeconds⟩

end BillingCall

def recordEvent (db : Db) (event : UsageRow × ℚ) : Db := (db.usageInsert event.1 event.2 0 0).2

def Meter.hasBilled (meter : Meter) (call : BillingCall) : Bool :=
  (meter.billed.find? (call.tenantId, call.jobId)).isSome

/-- One billing call; a retry of a billed job bills no further job. -/
def bill (meter : Meter) (call : BillingCall) : Unit × Meter :=
  if call.bills then
    ((), {
      db := (call.events.take call.written).foldl recordEvent meter.db
      billed := (meter.billed.insert? call.job).getD meter.billed
    })
  else
    ((), meter)

end RomaBridge.Model.Plans

/-! `billing/aggregator.py`: the GPU seconds of a tenant's billing events, by calendar months. -/

namespace RomaBridge.Model.UsageAggregator

inductive BillingEventType where
  | jobSubmitted
  | jobStarted
  | gpuAllocated
  | gpuReleased
  | jobCompleted
  | jobFailed
  | pluginExecuted
  | quotaExceeded
  | invoiceFinalized
  | paymentSucceeded
  | paymentFailed
  deriving DecidableEq

/-- `BillingEvent`, as far as the aggregator reads it. -/
structure BillingEvent where
  tenantId : String
  eventType : BillingEventType
  timestamp : ℚ
  gpuSeconds : ℚ := 0

structure BillingEventStore where
  events : List BillingEvent := []
  byTenant : String → Option (List BillingEvent) := fun _ => none

namespace BillingEventStore

def append (store : BillingEventStore) (event : BillingEvent) : BillingEventStore where
  events := store.events ++ [event]
  byTenant tenantId :=
    if tenantId = event.tenantId then some ((store.byTenant tenantId).getD [] ++ [event])
    else store.byTenant tenantId

end BillingEventStore

/-- The year and the month of a `datetime`. -/
structure YearMonth where
  year : ℤ
  month : ℕ
  deriving DecidableEq

/-- The year and the month that `monthly_summary` ends a month with. -/
def YearMonth.next (dt : YearMonth) : YearMonth :=
  if dt.month = 12 then ⟨dt.year + 1, 1⟩ else ⟨dt.year, dt.month + 1⟩

end RomaBridge.Model.UsageAggregator
