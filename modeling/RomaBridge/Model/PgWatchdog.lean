import Mathlib.Data.Rat.Floor

/-! `deploy/ops/pg_watchdog.py`: the main loop of a process, step by step, and its state file. What a
command answers, and what `clear_stale_lock` does, comes with the step. The sleeps are part of the
time between two steps.
-/

namespace RomaBridge.Model.PgWatchdog

def restartBudgetPerHour : ℕ := 5

def budgetAlertPeriodS : ℚ := 3600

/-- `state`, as far as the loop reads it. A time is the whole second that `now_iso` notes. No baseline
at all is a missing key.
-/
structure WatchdogState where
  restarts : List ℤ := []
  restartsTotal : ℕ := 0
  ledgerBaseline : Option (Option ℕ) := none
  wasDown : Bool := false
  budgetAlertedAt : Option ℤ := none
  pgUp : Bool := false

inductive WatchdogEvent where
  | watchdogStart (ledgerBaseline : Option ℕ)
  | pgRecovered (restartsLastHour : ℕ)
  | pgDownBudgetExceeded (restartsLastHour : ℕ)
  | pgDown
  | staleLockCleared (reason : String)
  | staleLockSkipped (reason : String)
  | pgRestartOk (started : Bool) (restartsTotal restartsLastHour : ℕ)
  | pgRestartFailed (started : Bool)
  | ledgerIntegrityViolation (pgUp : Bool) (ledgerRows ledgerBaseline : ℕ)
  deriving DecidableEq

def nowIso (now : ℚ) : ℤ := ⌊now⌋

def pruneRestarts (now : ℚ) (restarts : List ℤ) : List ℤ :=
  restarts.filter (fun ts => now - 3600 ≤ ts)

def budgetAlertDue (now : ℚ) (state : WatchdogState) : Bool :=
  state.budgetAlertedAt.all (fun ts => budgetAlertPeriodS ≤ now - ts)

/-- Where a process is in the loop. -/
inductive Phase where
  | probing
  | restarting
  | starting
  | waiting (started : Bool)
  | checking
  | writing
  deriving DecidableEq

structure Process where
  state : WatchdogState
  phase : Phase

/-- The state file, when there is one, and the running process. -/
structure Watchdog where
  file : Option WatchdogState
  process : Option Process

/-- A step of a process, with what it gets from outside. -/
inductive WatchdogStep where
  | boot (readable : Bool) (rows : Option ℕ)
  | probe (up : Bool)
  | noteRestart (cleared : Bool) (reason : String)
  | startCluster (started : Bool)
  | waitReady (recovered : Bool)
  | checkLedger (rows : Option ℕ)
  | writeState
  | die

def readState (file : Option WatchdogState) (readable : Bool) : WatchdogState :=
  if readable then file.getD {} else {}

/-- `main` before the loop. The rows are counted when the state has no baseline. -/
def boot (state : WatchdogState) (rows : Option ℕ) : List WatchdogEvent × Process :=
  let ledgerBaseline := state.ledgerBaseline.getD rows
  ([.watchdogStart ledgerBaseline],
    ⟨{ state with ledgerBaseline := some ledgerBaseline }, .probing⟩)

/-- The loop up to its decision. -/
def probe (now : ℚ) (state : WatchdogState) (up : Bool) : List WatchdogEvent × Process :=
  let restarts := pruneRestarts now state.restarts
  let state := { state with restarts, pgUp := up }
  if up then
    if state.wasDown then
      ([.pgRecovered restarts.length],
        ⟨{ state with wasDown := false, budgetAlertedAt := none }, .checking⟩)
    else ([], ⟨state, .checking⟩)
  else
    let state := { state with wasDown := true }
    if restarts.length ≥ restartBudgetPerHour then
      if budgetAlertDue now state then
        ([.pgDownBudgetExceeded restarts.length],
          ⟨{ state with budgetAlertedAt := some (nowIso now) }, .checking⟩)
      else ([], ⟨state, .checking⟩)
    else ([.pgDown], ⟨state, .restarting⟩)

/-- The lines from `clear_stale_lock` to `start_cluster`. -/
def noteRestart (now : ℚ) (state : WatchdogState) (cleared : Bool) (reason : String)
    : List WatchdogEvent × Process :=
  (if cleared then [.staleLockCleared reason]
    else if reason ≠ "no_lock" then [.staleLockSkipped reason]
    else [],
    ⟨{ state with
        restarts := state.restarts ++ [nowIso now]
        restartsTotal := state.restartsTotal + 1 }, .starting⟩)

/-- The lines after `wait_ready`. -/
def afterWait (state : WatchdogState) (started recovered : Bool) : List WatchdogEvent × Process :=
  (if recovered then [.pgRestartOk started state.restartsTotal state.restarts.length]
    else [.pgRestartFailed started],
    ⟨state, .checking⟩)

/-- The lines from `ledger_rows` to `write_state`. -/
def checkLedger (state : WatchdogState) (rows : Option ℕ) : List WatchdogEvent × Process :=
  match rows, state.ledgerBaseline.join with
  | none, _ => ([], ⟨state, .writing⟩)
  | some rows, none => ([], ⟨{ state with ledgerBaseline := some (some rows) }, .writing⟩)
  | some rows, some baseline =>
      if rows < baseline then
        ([.ledgerIntegrityViolation state.pgUp rows baseline], ⟨state, .writing⟩)
      else
        ([], ⟨{ state with ledgerBaseline := some (some (max baseline rows)) }, .writing⟩)

/-- A step; one that is not next changes nothing. -/
def Watchdog.step (watchdog : Watchdog) (now : ℚ) (step : WatchdogStep)
    : List WatchdogEvent × Watchdog :=
  let goOn := fun (result : List WatchdogEvent × Process) =>
    (result.1, { watchdog with process := some result.2 })
  match watchdog.process, step with
  | none, .boot readable rows => goOn (boot (readState watchdog.file readable) rows)
  | some ⟨state, .probing⟩, .probe up => goOn (probe now state up)
  | some ⟨state, .restarting⟩, .noteRestart cleared reason =>
      goOn (noteRestart now state cleared reason)
  | some ⟨state, .starting⟩, .startCluster started => goOn ([], ⟨state, .waiting started⟩)
  | some ⟨state, .waiting started⟩, .waitReady recovered => goOn (afterWait state started recovered)
  | some ⟨state, .checking⟩, .checkLedger rows => goOn (checkLedger state rows)
  | some ⟨state, .writing⟩, .writeState => ([], ⟨some state, some ⟨state, .probing⟩⟩)
  | some _, .die => ([], { watchdog with process := none })
  | _, _ => ([], watchdog)

end RomaBridge.Model.PgWatchdog
