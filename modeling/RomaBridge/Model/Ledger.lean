import RomaBridge.Model.Database

/-! Database calls and the places of the source that issue them.
A call is a transaction together with its site. The site has no effect; it lets a statement
speak about one writer among the dozen that share the `status` column.
-/

namespace RomaBridge.Model

open RomaBridge.Foundation

/-- The statement of the source a call comes from. -/
inductive Site where
  -- billing/pg_ledger.py and billing/pg_metering.py
  | ledgerDebit
  | ledgerIdemLookup
  | ledgerCredit
  | ledgerCreditLookup
  | usageRecord
  -- billing/finalize.py
  | finalizeRead
  -- billing/execution_worker.py
  | workerDispatchFailed
  | workerNotReady
  | workerRunning
  | workerDispatchError
  | workerFinal
  | workerReread
  | workerRefundMarker
  | workerDrain
  | sweepList
  | sweepBilled
  | sweepNoFunds
  | sweepMismatch
  | sweepSkip
  | refundList
  | refundClear
  | orphanSweep
  | claim
  -- routers/public_jobs.py
  | cancelRead
  | cancelWrite
  | cancelReread
  | completeRead
  | completeWrite
  | completeReread
  -- router_jobs.py
  | retryRead
  | retryWrite
  | jobsCancelRead
  | jobsCancelWrite
  | jobsCancelReread
  | jobsCompleteRead
  | jobsCompleteWrite
  | ackRead
  | ackWrite
  -- routers/submit.py
  | submitReplayFind
  | submitReplayRead
  | submitReserve
  | submitWinnerFind
  | submitWinnerRead
  | submitInsert
  | submitBackend
  -- router_decisions.py
  | decisionInsert
  -- time passes on the database server
  | databaseClock
  deriving DecidableEq, Repr

/-- A transaction issued at a place of the source. -/
structure Call where
  site : Site
  query : Query

/-- Ledger and metering calls wrap every failure in `PGUnavailableError`; `db_adapter` lets
the driver's error through.
-/
def Call.failure (call : Call) (reason : String) : Exn :=
  match call.query with
  | .debitInsert _ => .pgUnavailable reason
  | .creditInsert _ => .pgUnavailable reason
  | .ledgerSelect _ _ => .pgUnavailable reason
  | .usageInsert _ _ _ _ => .pgUnavailable reason
  | _ => .database reason

@[reducible]
def bridge : Signature where
  Call := Call
  Reply := fun call => call.query.Reply
  Exn := Exn

/-- A function of the bridge that talks to the database. -/
abbrev Action (α : Type) := Program bridge α

/-- Run one transaction from a place of the source. -/
def ask (site : Site) (query : Query) : Action query.Reply :=
  Program.perform (S := bridge) { site, query }

/-- `try: body except Exception as exc: handler`. -/
def catchException {α : Type} (body : Action α) (handler : Exn → Action α) : Action α :=
  body.handle (fun exn => if exn.isException then handler exn else .raised exn)

/-- `try: body except Exception: pass`. -/
def suppress (body : Action Unit) : Action Unit := catchException body (fun _ => .done ())

end RomaBridge.Model

/-! `billing/pg_ledger.py` and the write path of `billing/pg_metering.py`.
The per-process `_entries` mirror is not modelled: only the degraded reads fall back to it.
-/

namespace RomaBridge.Model

open RomaBridge.Foundation

/-- `led-` plus the digest of `f"{tenant_id}:{idempotency_key}"`. -/
def ledgerIdFor (tenantId idempotencyKey : String) : LedgerId :=
  .keyed (tenantId ++ ":" ++ idempotencyKey)

/-- `f"job:{job_id}"`, the key of a job's DEBIT. -/
def jobKey (jobId : JobId) : String := "job:" ++ jobId.text

/-- `f"refund:{job_id}"`, the key of a job's refund CREDIT. -/
def refundKey (jobId : JobId) : String := "refund:" ++ jobId.text

/-- `reject_invalid_money_amount` on an exact number: only the sign can be wrong. -/
def rejectInvalidMoneyAmount (amount : ℚ) : Action Unit :=
  if amount < 0 then
    throw (.valueError "ledger_entries.amount: денежная сумма должна быть конечной и >= 0")
  else
    pure ()

/-- The comparison of `_ledger_idem_lookup` between a stored entry and the expected debit. -/
def idemMatches (entry : LedgerEntry) (amount : ℚ) (currency : String)
    (jobId : Option String)
    : Bool :=
  entry.entryType = .debit
  && roundTo 8 entry.amount = roundTo 8 amount
  && entry.currency = currency
  && entry.metadata.jobId = jobId

/-- `PGBillingLedger._ledger_idem_lookup`. -/
def ledgerIdemLookup (ledgerId : LedgerId) (tenantId : String) (amount : ℚ)
    (currency : String) (metadata : Metadata)
    : Action (Option LedgerId) := do
  match ← ask .ledgerIdemLookup (.ledgerSelect ledgerId tenantId) with
  | none => return none
  | some entry =>
      if idemMatches entry amount currency metadata.jobId then
        return some ledgerId
      else
        throw (.ledgerIdemMismatch ledgerId tenantId amount currency metadata.jobId)

/-- The row `debit_if_funds` tries to insert. -/
def debitEntry (tenantId : String) (amount : ℚ) (currency idempotencyKey : String)
    (metadata : Metadata)
    : LedgerEntry where
  ledgerId := ledgerIdFor tenantId idempotencyKey
  tenantId := tenantId
  entryType := .debit
  amount := amount
  currency := currency
  metadata := { metadata with idempotencyKey := some idempotencyKey }

/-- `PGBillingLedger.debit_if_funds`. An error of the transaction is looked up again, because
its COMMIT may have taken effect.
-/
def debitIfFunds (tenantId : String) (amount : ℚ) (currency : String)
    (idempotencyKey : Option String) (metadata : Metadata)
    : Action (Option LedgerId × Bool) := do
  if amount < 0 then
    throw (.valueError "debit amount must be >= 0")
  rejectInvalidMoneyAmount amount
  match idempotencyKey.filter (· ≠ "") with
  | none => throw (.valueError "debit_if_funds requires idempotency_key (or job_id)")
  | some key =>
      let entry := debitEntry tenantId amount currency key metadata
      match ← (ask .ledgerDebit (.debitInsert entry)).attempt with
      | .error exn =>
          match ← ledgerIdemLookup entry.ledgerId tenantId amount currency entry.metadata with
          | some ledgerId => return (some ledgerId, true)
          | none => throw exn
      | .ok (some ledgerId) => return (some ledgerId, true)
      | .ok none =>
          return (← ledgerIdemLookup entry.ledgerId tenantId amount currency entry.metadata, false)

/-- The row `credit` inserts. -/
def creditEntry (ledgerId : LedgerId) (tenantId : String) (amount : ℚ) (currency : String)
    (metadata : Metadata)
    : LedgerEntry where
  ledgerId := ledgerId
  tenantId := tenantId
  entryType := .credit
  amount := amount
  currency := currency
  metadata := metadata

/-- `credit` under an idempotency key: a conflict returns the existing id. -/
def creditKeyed (tenantId : String) (amount : ℚ) (currency key : String) (metadata : Metadata)
    : Action LedgerId := do
  let ledgerId := ledgerIdFor tenantId key
  match ← ask .ledgerCredit (.creditInsert (creditEntry ledgerId tenantId amount currency
      { metadata with idempotencyKey := some key })) with
  | some inserted => return inserted
  | none =>
      match ← ask .ledgerCreditLookup (.ledgerSelect ledgerId tenantId) with
      | some existing => return existing.ledgerId
      | none => throw (.pgUnavailable "ledger credit conflict")

/-- `credit` without a key: a fresh id cannot collide, so a conflict is an error. -/
def creditFresh (tenantId : String) (amount : ℚ) (currency nonce : String)
    (metadata : Metadata)
    : Action LedgerId := do
  match ← ask .ledgerCredit
      (.creditInsert (creditEntry (.fresh nonce) tenantId amount currency metadata)) with
  | some inserted => return inserted
  | none => throw (.pgUnavailable "ledger credit conflict")

/-- `PGBillingLedger.credit`; `nonce` names the entry when there is no idempotency key. -/
def credit (tenantId : String) (amount : ℚ) (currency : String)
    (idempotencyKey : Option String) (nonce : String) (metadata : Metadata)
    : Action LedgerId := do
  rejectInvalidMoneyAmount amount
  match idempotencyKey.filter (· ≠ "") with
  | some key => creditKeyed tenantId amount currency key metadata
  | none => creditFresh tenantId amount currency nonce metadata

/-- `PGBillingLedger.refund`, idempotent by `refund:<job_id>`. -/
def refund (tenantId : String) (amount : ℚ) (jobId : JobId) (reason : String)
    : Action LedgerId :=
  credit tenantId amount "USD" (some (refundKey jobId)) ""
    { refundFor := some jobId.text, reason := some reason }

/-- `PGMeteringEngine.record` with an authoritative cost. -/
def record (eventType : EventType) (tenantId jobId : String) (gpuSeconds value costUsd : ℚ)
    : Action Bool :=
  ask .usageRecord
    (.usageInsert
      { tenantId, eventType, value, costUsd := roundTo 8 costUsd, jobId, billed := true }
      gpuSeconds 0 0)

end RomaBridge.Model
