import RomaBridge.Model.PyValues

/-! `deploy/ops/zo_deploy_agent.py`: one deployment, with the outcome of every command it runs, and
the cycle around it. Each command that touches the machine says what it left there, whatever it
reported.
-/

namespace RomaBridge.Model.DeployAgent

open RomaBridge.Foundation

/-- What `run` returns: the exit code, the output and the error text. A timeout is 124 and another
exception 125.
-/
structure Ran where
  rc : ℤ
  out : String
  err : String

/-- A command that wrote no error. -/
def returned (rc : ℤ) (out : String) : Ran := ⟨rc, out, ""⟩

/-- What a restart that reported a failure left: the old process, none, or the new one. -/
inductive Fate where
  | kept
  | stopped
  | started
  deriving DecidableEq

/-- A `supervisorctl restart`. One that reports success started a process. -/
structure Restart where
  ran : Ran
  fate : Fate

def Restart.left (restart : Restart) : Fate :=
  if restart.ran.rc = 0 then .started else restart.fate

/-- The outcomes of the commands of one deployment. `mergeMoved` is whether a merge that reported a
failure moved HEAD, and `resets` whether `git reset --hard` takes effect.
-/
structure Outcomes where
  fetch : Ran
  mergeBase : Ran
  diff : Ran
  merge : Ran
  mergeMoved : Bool
  compileall : Ran
  ledgerBefore : Ran
  adminDsn : Bool
  migrate : Ran
  ledgerAfter : Ran
  restart : Restart
  health : Bool × String
  resets : Bool
  restartAgain : Restart
  healthAgain : Bool × String

structure Failure where
  sha : String
  reason : String
  detail : String

/-- The machine: the commit at HEAD, the commit that the service process was started from, and the
state of the agent. An empty `deployed_sha` is an unknown one.
-/
structure Host where
  head : String
  running : Option String
  deployedSha : String
  failed : Table String Failure Failure.sha

/-- A command of a deployment. A read of the ledger keeps what it returned. -/
inductive Command where
  | fetch
  | mergeBase
  | diff
  | merge
  | compileall
  | readLedger (ran : Ran)
  | migrate
  | reset
  | restart

structure Verdict where
  state : String
  description : String

/-- A deployment: what `do_deploy` returns, the status it posts last, its commands and the machine
after it.
-/
structure Deployed where
  ok : Bool
  verdict : Verdict
  commands : List Command
  host : Host

-- Migrations

def filledLines (out : String) : List String :=
  ((pySplitLines out).map pyStrip).filter (fun line => line ≠ "")

def appliedMigrations (ledger : Ran) : List String :=
  if ledger.rc = 0 then filledLines ledger.out else []

/-- `pending_migrations` in a tree with these migration files. -/
def pendingMigrations (files : List String) (ledger : Ran) : List String × Bool :=
  if appliedMigrations ledger = [] then
    ([], false)
  else
    (files.filter (fun file => file ∉ appliedMigrations ledger), true)

-- Texts

def afterPrefix : List Char → List Char → Option (List Char)
  | [], text => some text
  | _ :: _, [] => none
  | expected :: more, c :: rest =>
      if c.toLower = expected ∨ (expected = 's' ∧ c = 'ſ') then afterPrefix more rest else none

def afterDsn (text : List Char) : Option (List Char) := do
  let rest ← afterPrefix "postgresql://".toList text
    <|> afterPrefix "postgres://".toList text <|> afterPrefix "psql://".toList text
  match rest with
  | c :: more => if isPySpace c then none else some (more.dropWhile (fun c => !isPySpace c))
  | [] => none

/-- A text without its DSNs. No replacement is longer than its text. -/
def redactFrom : ℕ → List Char → List Char
  | 0, text => text
  | _ + 1, [] => []
  | fuel + 1, c :: rest =>
      match afterDsn (c :: rest) with
      | some after => "<dsn>".toList ++ redactFrom fuel after
      | none => c :: redactFrom fuel rest

def redact (text : String) (limit : ℕ) : String :=
  pyTake (String.ofList (redactFrom text.length text.toList)) limit

/-- `deps_changed`: the changed files, or why they could not be compared. -/
def depsChanged (base sha : String) (diff : Ran) : Except String (List String) :=
  if diff.rc ≠ 0 then
    .error ("git diff " ++ pyTake base 8 ++ ".." ++ pyTake sha 8 ++ " rc=" ++ toString diff.rc
      ++ ": " ++ pyTake diff.err 200)
  else
    .ok (filledLines diff.out)

/-- The detail that `restart_service` returns. -/
def restartDetail (ran : Ran) : String :=
  let line := (pyStrip (pyOr ran.out ran.err)).toList.map (fun c => if c = '\n' then ' ' else c)
  let detail := pyTake (String.ofList line) 200
  if ran.rc ≠ 0 then "rc=" ++ toString ran.rc ++ " " ++ detail else detail

-- A deployment

def fail (host : Host) (sha reason detail : String) : Host :=
  { host with failed := host.failed.put ⟨sha, reason, pyTake detail 500⟩ }

/-- HEAD after `git reset --hard`, which is not asked whether it took effect. -/
def resetTo (outcomes : Outcomes) (previous : String) (host : Host) : Host :=
  if outcomes.resets then { host with head := previous } else host

def rollbackTree (outcomes : Outcomes) (previous : String) (host : Host) : List Command × Host :=
  if previous = "" then ([], host) else ([.reset], resetTo outcomes previous host)

/-- `restart_service`: a new process starts from HEAD. -/
def restartService (restart : Restart) (host : Host) : Bool × Host :=
  if restart.ran.rc = 0 then
    (true, { host with running := some host.head })
  else
    (false, match restart.fate with
      | .kept => host
      | .stopped => { host with running := none }
      | .started => { host with running := some host.head })

theorem restartService_left (restart : Restart) (host : Host)
    : (restartService restart host).2 = match restart.left with
      | .kept => host
      | .stopped => { host with running := none }
      | .started => { host with running := some host.head } := by
  unfold restartService Restart.left
  split <;> rfl

/-- A refusal after the fast-forward: the failure is remembered and the tree rolled back. -/
def abort (outcomes : Outcomes) (sha : String) (commands : List Command) (host : Host)
    (reason detail : String) (verdict : Verdict)
    : Deployed :=
  let (reset, after) := rollbackTree outcomes host.deployedSha (fail host sha reason detail)
  ⟨false, verdict, commands ++ reset, after⟩

/-- The end of `do_deploy`, from the restart on. -/
def deployRestart (rollbackOnUnhealthy : Bool) (outcomes : Outcomes) (sha : String)
    (commands : List Command) (host : Host)
    : Deployed :=
  let previous := host.deployedSha
  let (restarted, host) := restartService outcomes.restart host
  let commands := commands ++ [.restart]
  if !restarted then
    abort outcomes sha commands host "restart_failed" (restartDetail outcomes.restart.ran)
      ⟨"failure", "рестарт сервиса не удался"⟩
  else if !outcomes.health.1 then
    if rollbackOnUnhealthy && previous ≠ "" then
      let (again, host) := restartService outcomes.restartAgain (resetTo outcomes previous host)
      let health := if again then outcomes.healthAgain.2 else "restart failed"
      ⟨false, ⟨"failure", "выкат откачен: сервис не поднялся"⟩, commands ++ [.reset, .restart],
        fail host sha "health_failed_rolled_back"
          (outcomes.health.2 ++ " | rollback health=" ++ health)⟩
    else
      ⟨false, ⟨"failure", "сервис не поднялся после выката"⟩, commands,
        fail host sha "health_failed" outcomes.health.2⟩
  else
    ⟨true, ⟨"success", "выкат на машину Zo выполнен, /health ok"⟩, commands,
      { host with
        deployedSha := sha
        failed := host.failed.keep (fun failure => failure.sha ≠ sha) }⟩

/-- The part of `do_deploy` from the migrations on, after the first read of the ledger. -/
def deployMigrations (files : List String) (rollbackOnUnhealthy : Bool) (outcomes : Outcomes)
    (sha : String) (commands : List Command) (host : Host)
    : Deployed :=
  let (pendingBefore, ledgerOk) := pendingMigrations files outcomes.ledgerBefore
  let commands := commands ++ [.readLedger outcomes.ledgerBefore]
  if !ledgerOk then
    abort outcomes sha commands host "migration_ledger_unreadable"
      "не читается schema_migrations — вердикт по миграциям невозможен"
      ⟨"error", "ledger миграций не читается"⟩
  else if pendingBefore = [] then
    deployRestart rollbackOnUnhealthy outcomes sha commands host
  else if !outcomes.adminDsn then
    abort outcomes sha commands host "migration_failed"
      "нет admin DSN: /root/.sealed/roma-pg-dsn.txt"
      ⟨"failure", "нет admin DSN для миграций"⟩
  else if outcomes.migrate.rc ≠ 0 then
    abort outcomes sha (commands ++ [.migrate]) host "migration_failed"
      (pyOr (redact (pyOr outcomes.migrate.err outcomes.migrate.out) 200) "apply_migrations rc!=0")
      ⟨"failure", "миграции не применились"⟩
  else
    -- the flag of the second read is not looked at
    let (pendingAfter, _) := pendingMigrations files outcomes.ledgerAfter
    let commands := commands ++ [.migrate, .readLedger outcomes.ledgerAfter]
    if pendingAfter ≠ [] then
      abort outcomes sha commands host "migration_not_applied"
        ("не отмечены: " ++ String.intercalate "," (pendingAfter.take 6))
        ⟨"failure", "миграции не отмечены в ledger"⟩
    else
      deployRestart rollbackOnUnhealthy outcomes sha commands host

/-- A refusal that rolls nothing back. -/
def refuse (sha : String) (commands : List Command) (host : Host) (reason detail : String)
    (verdict : Verdict)
    : Deployed :=
  ⟨false, verdict, commands, fail host sha reason detail⟩

/-- The part of `do_deploy` from the fast-forward on. -/
def deployMerge (migrationFiles : String → List String) (rollbackOnUnhealthy : Bool)
    (outcomes : Outcomes) (sha : String) (commands : List Command) (host : Host)
    : Deployed :=
  let commands := commands ++ [.merge]
  if outcomes.merge.rc ≠ 0 then
    refuse sha commands (if outcomes.mergeMoved then { host with head := sha } else host)
      "ff_failed" (pyTake (pyOr outcomes.merge.out outcomes.merge.err) 300)
      ⟨"failure", "fast-forward не удался"⟩
  else
    let host := { host with head := sha }
    let commands := commands ++ [.compileall]
    if outcomes.compileall.rc ≠ 0 then
      abort outcomes sha commands host "compile_failed" (pyOr outcomes.compileall.err "compileall")
        ⟨"failure", "предпроверка синтаксиса провалилась"⟩
    else
      deployMigrations (migrationFiles host.head) rollbackOnUnhealthy outcomes sha commands host

/-- The part of `do_deploy` from the comparison of the dependencies on. -/
def deployCompared (migrationFiles : String → List String) (rollbackOnUnhealthy : Bool)
    (outcomes : Outcomes) (sha : String) (host : Host)
    : Except String (List String) → Deployed
  | .error detail =>
      refuse sha [.fetch, .mergeBase, .diff] host "deps_diff_unreadable" detail
        ⟨"error", "не удалось сравнить зависимости — выкат не начат"⟩
  | .ok [] =>
      deployMerge migrationFiles rollbackOnUnhealthy outcomes sha [.fetch, .mergeBase, .diff] host
  | .ok changed =>
      refuse sha [.fetch, .mergeBase, .diff] host "deps_changed"
        ("изменены " ++ String.intercalate "," changed ++ " относительно "
          ++ pyTake host.deployedSha 8 ++ "; venv агент не пересобирает")
        ⟨"error", "изменились зависимости — нужен venv, выкат не начат"⟩

/-- `do_deploy`, when it is not dry. `migrationFiles` are the names of `migrations/*.sql` in the
tree of a commit, sorted.
-/
def doDeploy (migrationFiles : String → List String) (rollbackOnUnhealthy : Bool)
    (outcomes : Outcomes) (sha : String) (host : Host)
    : Deployed :=
  let previous := host.deployedSha
  if outcomes.fetch.rc ≠ 0 then
    refuse sha [.fetch] host "fetch_failed" outcomes.fetch.err ⟨"failure", "git fetch не удался"⟩
  else if outcomes.mergeBase.rc ≠ 0 then
    refuse sha [.fetch, .mergeBase] host "history_diverged"
      "HEAD не предок remote — история разошлась"
      ⟨"error", "история разошлась, fast-forward невозможен"⟩
  else if previous = "" then
    refuse sha [.fetch, .mergeBase] host "deps_base_unknown"
      "deployed_sha пуст — не с чем сравнить зависимости venv"
      ⟨"error", "неизвестен выкаченный SHA — зависимости не сравнить, выкат не начат"⟩
  else
    deployCompared migrationFiles rollbackOnUnhealthy outcomes sha host
      (depsChanged previous sha outcomes.diff)

-- Exits

inductive DeployExit where
  | refused
  | mergeFailed
  | aborted
  | restartFailed
  | unhealthy
  | rolledBack
  | deployed
  deriving DecidableEq

def fastForwards (outcomes : Outcomes) (sha : String) (host : Host) : Bool :=
  outcomes.fetch.rc = 0 && outcomes.mergeBase.rc = 0 && host.deployedSha ≠ ""
    && (depsChanged host.deployedSha sha outcomes.diff matches .ok [])

/-- Nothing was pending, or the migrations ran and nothing is pending in the second read. -/
def migrates (files : List String) (outcomes : Outcomes) : Bool :=
  (pendingMigrations files outcomes.ledgerBefore).1 = []
    || (outcomes.adminDsn && outcomes.migrate.rc = 0
      && (pendingMigrations files outcomes.ledgerAfter).1 = [])

/-- Everything between the fast-forward and the restart agrees to the restart. -/
def restarts (files : List String) (outcomes : Outcomes) : Bool :=
  outcomes.compileall.rc = 0 && (pendingMigrations files outcomes.ledgerBefore).2
    && migrates files outcomes

def restartExit (rollbackOnUnhealthy : Bool) (outcomes : Outcomes) : DeployExit :=
  if outcomes.restart.ran.rc ≠ 0 then .restartFailed
  else if outcomes.health.1 then .deployed
  else if rollbackOnUnhealthy then .rolledBack
  else .unhealthy

def deployExit (migrationFiles : String → List String) (rollbackOnUnhealthy : Bool)
    (outcomes : Outcomes) (sha : String) (host : Host)
    : DeployExit :=
  if !fastForwards outcomes sha host then .refused
  else if outcomes.merge.rc ≠ 0 then .mergeFailed
  else if !restarts (migrationFiles sha) outcomes then .aborted
  else restartExit rollbackOnUnhealthy outcomes

/-- The machine that a deployment leaves, but for its memory of failures. -/
def leaves (outcomes : Outcomes) (sha : String) (host : Host) : DeployExit → Host
  | .refused => host
  | .mergeFailed => if outcomes.mergeMoved then { host with head := sha } else host
  | .aborted => resetTo outcomes host.deployedSha { host with head := sha }
  | .restartFailed =>
      resetTo outcomes host.deployedSha
        (restartService outcomes.restart { host with head := sha }).2
  | .unhealthy => { host with head := sha, running := some sha }
  | .rolledBack =>
      (restartService outcomes.restartAgain
        (resetTo outcomes host.deployedSha { host with head := sha, running := some sha })).2
  | .deployed => { host with head := sha, running := some sha, deployedSha := sha }

def Host.forget (host : Host) : Host := { host with failed := Table.empty }

@[simp]
theorem fail_forget (host : Host) (sha reason detail : String)
    : (fail host sha reason detail).forget = host.forget := rfl

theorem abort_forget {outcomes : Outcomes} {sha : String} {commands : List Command} {host : Host}
    {reason detail : String} {verdict : Verdict} (known : host.deployedSha ≠ "")
    : (abort outcomes sha commands host reason detail verdict).host.forget
      = (resetTo outcomes host.deployedSha host).forget := by
  have same : (fail host sha reason detail).deployedSha = host.deployedSha := rfl
  simp only [abort, rollbackTree, if_neg known]
  unfold resetTo
  split <;> rfl

@[simp]
theorem restartService_deployedSha (restart : Restart) (host : Host)
    : (restartService restart host).2.deployedSha = host.deployedSha := by
  unfold restartService
  split
  · rfl
  · cases restart.fate <;> rfl

theorem deployRestart_leaves {rollbackOnUnhealthy : Bool} {outcomes : Outcomes} {sha : String}
    {commands : List Command} {host : Host} (known : host.deployedSha ≠ "")
    : (deployRestart rollbackOnUnhealthy outcomes sha commands
        { host with head := sha }).host.forget
      = (leaves outcomes sha host (restartExit rollbackOnUnhealthy outcomes)).forget := by
  unfold deployRestart restartExit
  by_cases restarted : outcomes.restart.ran.rc = 0
  · have started : restartService outcomes.restart { host with head := sha }
        = (true, { host with head := sha, running := some sha }) := by
      simp [restartService, restarted]
    cases healthy : outcomes.health.1 with
    | true => simp [started, restarted, leaves, Host.forget]
    | false =>
        cases rollbackOnUnhealthy with
        | true => simp [started, restarted, known, leaves]
        | false => simp [started, restarted, leaves]
  · have failed : (restartService outcomes.restart { host with head := sha }).1 = false := by
      simp [restartService, restarted]
    have kept := restartService_deployedSha outcomes.restart { host with head := sha }
    rw [if_pos restarted]
    simp only [failed, leaves]
    refine (abort_forget (by rw [kept]; exact known)).trans ?_
    rw [kept]

def ledgerCommands (files : List String) (outcomes : Outcomes) : List Command :=
  .readLedger outcomes.ledgerBefore ::
    if (pendingMigrations files outcomes.ledgerBefore).1 = [] then []
    else [.migrate, .readLedger outcomes.ledgerAfter]

theorem deployMigrations_cases (files : List String) (rollbackOnUnhealthy : Bool)
    (outcomes : Outcomes) (sha : String) (commands : List Command) (host : Host)
    : ((pendingMigrations files outcomes.ledgerBefore).2 && migrates files outcomes) = true
        ∧ deployMigrations files rollbackOnUnhealthy outcomes sha commands host
          = deployRestart rollbackOnUnhealthy outcomes sha
            (commands ++ ledgerCommands files outcomes) host
      ∨ ((pendingMigrations files outcomes.ledgerBefore).2 && migrates files outcomes) = false
        ∧ ∃ more reason detail verdict,
          deployMigrations files rollbackOnUnhealthy outcomes sha commands host
            = abort outcomes sha (commands ++ more) host reason detail verdict
          ∧ .restart ∉ more := by
  unfold deployMigrations migrates ledgerCommands
  cases readable : (pendingMigrations files outcomes.ledgerBefore).2 with
  | false => exact .inr ⟨rfl, [_], _, _, _, by simp [readable]; rfl, by simp⟩
  | true =>
      by_cases current : (pendingMigrations files outcomes.ledgerBefore).1 = []
      · exact .inl ⟨by simp [current], by simp [readable, current]⟩
      · cases dsn : outcomes.adminDsn with
        | false =>
            exact .inr ⟨by simp [current], [_], _, _, _, by simp [readable, current]; rfl,
              by simp⟩
        | true =>
            by_cases ran : outcomes.migrate.rc = 0
            · by_cases after : (pendingMigrations files outcomes.ledgerAfter).1 = []
              · exact .inl ⟨by simp [ran, after], by simp [readable, current, ran, after]⟩
              · exact .inr ⟨by simp [current, after], [_, _, _], _, _, _,
                  by simp [readable, current, ran, after]; rfl, by simp⟩
            · exact .inr ⟨by simp [current, ran], [_, _], _, _, _,
                by simp [readable, current, ran]; rfl, by simp⟩

/-- The fast-forward fails, or leads to an abort or to the restart. -/
theorem deployMerge_cases (migrationFiles : String → List String) (rollbackOnUnhealthy : Bool)
    (outcomes : Outcomes) (sha : String) (commands : List Command) (host : Host)
    : outcomes.merge.rc ≠ 0
        ∧ (∃ reason detail verdict,
          deployMerge migrationFiles rollbackOnUnhealthy outcomes sha commands host
            = refuse sha (commands ++ [.merge])
              (if outcomes.mergeMoved then { host with head := sha } else host) reason detail
              verdict)
      ∨ outcomes.merge.rc = 0 ∧ restarts (migrationFiles sha) outcomes = false
        ∧ (∃ more reason detail verdict,
          deployMerge migrationFiles rollbackOnUnhealthy outcomes sha commands host
            = abort outcomes sha (commands ++ more) { host with head := sha } reason detail verdict
          ∧ .restart ∉ more)
      ∨ outcomes.merge.rc = 0 ∧ restarts (migrationFiles sha) outcomes = true
        ∧ deployMerge migrationFiles rollbackOnUnhealthy outcomes sha commands host
          = deployRestart rollbackOnUnhealthy outcomes sha
            (commands ++ [.merge, .compileall] ++ ledgerCommands (migrationFiles sha) outcomes)
            { host with head := sha } := by
  unfold deployMerge restarts
  by_cases merged : outcomes.merge.rc = 0
  · refine .inr ?_
    by_cases compiled : outcomes.compileall.rc = 0
    · rcases deployMigrations_cases (migrationFiles sha) rollbackOnUnhealthy outcomes sha
        (commands ++ [.merge, .compileall]) { host with head := sha } with
        ⟨passes, goes⟩ | ⟨fails, more, reason, detail, verdict, aborts, quiet⟩
      · exact .inr ⟨merged, by simpa [compiled] using passes,
          by simpa [merged, compiled] using goes⟩
      · refine .inl ⟨merged, by simpa [compiled] using fails, [.merge, .compileall] ++ more, reason,
          detail, verdict, ?_, by simpa using quiet⟩
        simpa [merged, compiled] using aborts
    · exact .inl ⟨merged, by simp [compiled], [.merge, .compileall], _, _, _,
        by simp [merged, compiled]; rfl, by simp⟩
  · exact .inl ⟨merged, _, _, _, by simp [merged]; rfl⟩

theorem doDeploy_cases (migrationFiles : String → List String) (rollbackOnUnhealthy : Bool)
    (outcomes : Outcomes) (sha : String) (host : Host)
    : fastForwards outcomes sha host = false
        ∧ (∃ commands reason detail verdict,
          doDeploy migrationFiles rollbackOnUnhealthy outcomes sha host
            = refuse sha commands host reason detail verdict
          ∧ .restart ∉ commands)
      ∨ fastForwards outcomes sha host = true ∧ host.deployedSha ≠ ""
        ∧ doDeploy migrationFiles rollbackOnUnhealthy outcomes sha host
          = deployMerge migrationFiles rollbackOnUnhealthy outcomes sha [.fetch, .mergeBase, .diff]
            host := by
  unfold doDeploy fastForwards
  by_cases fetched : outcomes.fetch.rc = 0
  · by_cases based : outcomes.mergeBase.rc = 0
    · by_cases known : host.deployedSha = ""
      · exact .inl ⟨by simp [known], [_, _], _, _, _, by simp [fetched, based, known]; rfl, by simp⟩
      · cases compared : depsChanged host.deployedSha sha outcomes.diff with
        | error detail =>
            exact .inl ⟨by simp, [_, _, _], _, _, _,
              by simp [fetched, based, known, compared, deployCompared]; rfl, by simp⟩
        | ok changed =>
            cases changed with
            | nil =>
                exact .inr ⟨by simp [fetched, based, known], known,
                  by simp [fetched, based, known, compared, deployCompared]⟩
            | cons =>
                exact .inl ⟨by simp, [_, _, _], _, _, _,
                  by simp [fetched, based, known, compared, deployCompared]; rfl, by simp⟩
    · exact .inl ⟨by simp [based], [_, _], _, _, _, by simp [fetched, based]; rfl, by simp⟩
  · exact .inl ⟨by simp [fetched], [_], _, _, _, by simp [fetched]; rfl, by simp⟩

theorem doDeploy_leaves (migrationFiles : String → List String) (rollbackOnUnhealthy : Bool)
    (outcomes : Outcomes) (sha : String) (host : Host)
    : (doDeploy migrationFiles rollbackOnUnhealthy outcomes sha host).host.forget
      = (leaves outcomes sha host
        (deployExit migrationFiles rollbackOnUnhealthy outcomes sha host)).forget := by
  unfold deployExit
  rcases doDeploy_cases migrationFiles rollbackOnUnhealthy outcomes sha host with
    ⟨refuses, _, _, _, _, same, -⟩ | ⟨forwards, known, same⟩
  · rw [same]
    simp [refuses, refuse, leaves]
  · rw [same]
    rcases deployMerge_cases migrationFiles rollbackOnUnhealthy outcomes sha
      [.fetch, .mergeBase, .diff] host with ⟨failed, _, _, _, same⟩
      | ⟨merged, fails, _, _, _, _, same, -⟩ | ⟨merged, passes, same⟩
    · rw [same]
      simp [forwards, failed, refuse, leaves]
    · rw [same]
      refine Eq.trans (abort_forget ?_) ?_
      · exact known
      · simp [forwards, merged, fails, leaves]
    · rw [same]
      simpa [forwards, merged, passes] using deployRestart_leaves known

-- Cycles

structure CiRun where
  headSha : String
  status : String
  conclusion : String

inductive CiState where
  | green
  | pending
  | red (detail : String)
  | unknown
  deriving DecidableEq

/-- `ci_state` of a commit. Without runs the command failed or its output was no JSON. -/
def ciState (runs : Option (List CiRun)) (sha : String) : CiState :=
  match runs with
  | none => .unknown
  | some runs =>
      match runs.find? (fun item => item.headSha = sha) with
      | none => .pending
      | some item =>
          if item.status ≠ "completed" then .pending
          else if item.conclusion = "success" then .green
          else .red item.conclusion

/-- What a cycle meets before it deploys: `git ls-remote`, the CI runs and `git status`. -/
structure Surroundings where
  remote : Ran
  runs : Option (List CiRun)
  status : Ran
  outcomes : Outcomes

/-- `remote_sha`: the first word of the output. -/
def remoteSha (remote : Ran) : String :=
  if remote.rc ≠ 0 then ""
  else String.ofList ((remote.out.toList.dropWhile isPySpace).takeWhile (fun c => !isPySpace c))

/-- `tree_dirty`, as a truth value. -/
def treeDirty (status : Ran) : Bool := status.rc ≠ 0 || status.out ≠ ""

/-- The commit that a cycle deploys, or the machine that it leaves without deploying. -/
def cycleTarget (dryRun : Bool) (met : Surroundings) (host : Host) : Host ⊕ String :=
  let sha := remoteSha met.remote
  if sha = "" ∨ sha = host.deployedSha ∨ (host.failed.find? sha).isSome then
    .inl host
  else
    match ciState met.runs sha with
    | .pending | .unknown => .inl host
    | .red detail => .inl (fail host sha "ci_red" ("CI по SHA завершился: " ++ detail))
    | .green => if dryRun || treeDirty met.status then .inl host else .inr sha

theorem cycleTarget_forget {dryRun : Bool} {met : Surroundings} {host unchanged : Host}
    (target : cycleTarget dryRun met host = .inl unchanged)
    : unchanged.forget = host.forget := by
  unfold cycleTarget at target
  dsimp only at target
  split at target
  · cases target
    rfl
  · split at target
    · cases target
      rfl
    · cases target
      rfl
    · cases target
      rfl
    · split at target
      · cases target
        rfl
      · cases target

theorem deployedSha_of_cycleTarget {dryRun : Bool} {met : Surroundings} {host : Host} {sha : String}
    (target : cycleTarget dryRun met host = .inr sha)
    : sha ≠ host.deployedSha := by
  unfold cycleTarget at target
  dsimp only at target
  split at target
  · cases target
  · rename_i deploys
    rw [not_or, not_or] at deploys
    split at target
    · cases target
    · cases target
    · cases target
    · split at target
      · cases target
      · cases target
        exact deploys.2.1

def cycle (migrationFiles : String → List String) (dryRun rollbackOnUnhealthy : Bool)
    (met : Surroundings) (host : Host)
    : Host :=
  match cycleTarget dryRun met host with
  | .inl unchanged => unchanged
  | .inr sha => (doDeploy migrationFiles rollbackOnUnhealthy met.outcomes sha host).host

def retryAll (host : Host) : Host := { host with failed := Table.empty }

/-- A machine on which the agent starts for the first time: the service runs HEAD, which is taken as
`deployed_sha`.
-/
def bootstrapped (sha : String) : Host := ⟨sha, some sha, sha, Table.empty⟩

end RomaBridge.Model.DeployAgent
