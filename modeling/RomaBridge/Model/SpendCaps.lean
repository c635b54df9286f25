import RomaBridge.Model.PlanSource

/-! `_check_spend_cap` of `main.py` over `plan_config`, the money policy and the ledger's balance,
and the reconciliation of ledger and usage in `billing/pg_ledger.py`. The `drifted_top` list of the
reconciliation is for the log and left out.
-/

namespace RomaBridge.Model.Plans

open RomaBridge.Foundation

/-- An entry of `MONEY_POLICY`. -/
structure MoneyPolicy where
  spendCapUsd : ℚ
  overageRate : ℚ
  deriving DecidableEq, Repr

def moneyPolicies : List (String × MoneyPolicy) :=
  [("free", ⟨1 / 2, 0⟩), ("start", ⟨5, 5 / 1000000⟩), ("pro", ⟨50, 3 / 1000000⟩),
    ("enterprise", ⟨-1, 0⟩)]

/-- The dictionary that `plan_config` returns. -/
structure PlanConfig where
  maxJobsPerMonth : ℤ
  gpuSPerJob : ℤ
  gpuSPerMonth : ℤ
  gpuHoursPerMonth : ℤ
  spendCapUsd : ℚ
  overageRate : ℚ
  deriving DecidableEq, Repr

/-- `plan_config`; a tier without a money policy gets zeros. -/
def planConfig (lower : String → String) (file : PlansFile) (plan : Option String)
    : Except PlanSourceError PlanConfig :=
  (planLimits lower file plan).map (fun limits =>
    let money := (moneyPolicies.lookup (planKey lower plan)).getD ⟨0, 0⟩
    {
      maxJobsPerMonth := limits.jobsPerMonth
      gpuSPerJob := limits.gpuSPerJob
      gpuSPerMonth := limits.gpuSPerMonth
      gpuHoursPerMonth := limits.gpuHoursPerMonth
      spendCapUsd := money.spendCapUsd
      overageRate := money.overageRate
    })

/-- The ledger as the process reaches it: `is_persistent`, whether a query gets through, and the
rows of `ledger_entries`.
-/
structure LedgerView where
  isPersistent : Bool
  reachable : Bool
  entries : List LedgerEntry

def entriesOf (tenantId : String) (entries : List LedgerEntry) : List LedgerEntry :=
  entries.filter (fun entry => entry.tenantId = tenantId)

def balanceOf (tenantId : String) (entries : List LedgerEntry) : ℚ :=
  ((entriesOf tenantId entries).map LedgerEntry.signed).sum

/-- `get_tenant_balance`; `none` is `PGUnavailableError`. -/
def getTenantBalance (ledger : LedgerView) (tenantId : String) : Option ℚ :=
  if ledger.reachable then some (balanceOf tenantId ledger.entries) else none

/-- Why `_check_spend_cap` refuses. -/
inductive SpendRefusal where
  | gateUnavailable (error : PlanSourceError)
  | zeroCap
  | nonPersistent
  | balanceUnavailable
  | capExceeded (balance cap estimatedCost : ℚ)
  deriving DecidableEq, Repr

/-- `_check_spend_cap`, without the alerts it sends. -/
def checkSpendCap (lower : String → String) (file : PlansFile) (ledger : LedgerView)
    (tenantId : String) (estimatedCost : ℚ) (plan : Option String)
    : Except SpendRefusal Unit :=
  match planConfig lower file plan with
  | .error error => .error (.gateUnavailable error)
  | .ok config =>
      let cap := config.spendCapUsd
      if cap < 0 then
        .ok ()
      else if cap = 0 then
        .error .zeroCap
      else if ledger.isPersistent = false then
        .error .nonPersistent
      else
        match getTenantBalance ledger tenantId with
        | none => .error .balanceUnavailable
        | some balance =>
            if balance + estimatedCost > cap then
              .error (.capExceeded balance cap estimatedCost)
            else
              .ok ()

def debitsOf (tenantId : String) (entries : List LedgerEntry) : ℚ :=
  (((entriesOf tenantId entries).filter (fun entry => entry.entryType = .debit)).map
    LedgerEntry.amount).sum

def costOf (tenantId : String) (usage : List UsageRow) : ℚ :=
  ((usageOf tenantId usage).map UsageRow.costUsd).sum

/-- A row of `diff`: the debits of a tenant and how far its usage is from them. -/
structure DiffRow where
  tenantId : String
  debit : ℚ
  d : ℚ
  deriving DecidableEq, Repr

/-- `diff`: a row for each tenant with entries or usage. -/
def diffRows (entries : List LedgerEntry) (usage : List UsageRow) : List DiffRow :=
  (entries.map LedgerEntry.tenantId ++ usage.map UsageRow.tenantId).dedup.map (fun tenantId =>
    ⟨tenantId, debitsOf tenantId entries,
      |debitsOf tenantId entries - costOf tenantId usage|⟩)

/-- `%s::jsonb ->> tn.plan` in the spend caps of the policy. -/
def reconciledCap (plan : Option String) : Option ℚ :=
  plan.bind (fun name => (moneyPolicies.lookup name).map MoneyPolicy.spendCapUsd)

/-- The last condition of `_LEDGER_SUMMARY_SQL`. -/
def exceeds (debit : ℚ) (plan : Option String) : Bool :=
  match reconciledCap plan with
  | some cap => 0 < cap && cap ≤ debit
  | none => false

/-- The rows of `tenants` that the summary counts. -/
def exceededTenants (tenants : List TenantRecord) (entries : List LedgerEntry)
    (usage : List UsageRow)
    : List TenantRecord :=
  (diffRows entries usage).flatMap (fun row =>
    tenants.filter (fun tenant => tenant.id = row.tenantId && exceeds row.debit tenant.plan))

end RomaBridge.Model.Plans

/-! `GET /spend-cap` of `routers/billing.py`, and `_check_spend_cap` of `main.py` for whatever
`plan_config` says of the plan and for every float as the cost. The framework that writes the body
of the answer is a parameter, which says of a body whether it can be written.
-/

namespace RomaBridge.Model.Plans

open RomaBridge.Foundation

/-- `balance + estimated_cost`. -/
def projectedSpend (balance : ℚ) : PyFloat → PyFloat
  | .finite cost => .finite (balance + cost)
  | .nan => .nan
  | .inf negative => .inf negative

/-- `projected > cap`. -/
def isAbove (cap : ℚ) : PyFloat → Bool
  | .finite projected => cap < projected
  | .nan => false
  | .inf negative => !negative

/-- `projected <= cap`. -/
def isWithin (cap : ℚ) : PyFloat → Bool
  | .finite projected => projected ≤ cap
  | .nan => false
  | .inf negative => negative

/-- Why `_check_spend_cap` refuses a cost. -/
inductive SpendDenial where
  | gateUnavailable (error : PlanSourceError)
  | zeroCap
  | nonPersistent
  | balanceUnavailable
  | capExceeded (balance cap : ℚ) (estimatedCost : PyFloat)
  deriving DecidableEq

/-- `_check_spend_cap` for what `plan_config` gives, without the alerts it sends. -/
def admitSpend (plan : Except PlanSourceError PlanConfig) (ledger : LedgerView) (tenantId : String)
    (estimatedCost : PyFloat)
    : Except SpendDenial Unit :=
  match plan with
  | .error error => .error (.gateUnavailable error)
  | .ok config =>
      let cap := config.spendCapUsd
      if cap < 0 then
        .ok ()
      else if cap = 0 then
        .error .zeroCap
      else if ledger.isPersistent = false then
        .error .nonPersistent
      else
        match getTenantBalance ledger tenantId with
        | none => .error .balanceUnavailable
        | some balance =>
            if isAbove cap (projectedSpend balance estimatedCost) then
              .error (.capExceeded balance cap estimatedCost)
            else
              .ok ()

/-- The `remaining` of an answer. -/
inductive RemainingSpend where
  | unlimited
  | usd (amount : ℚ)
  deriving DecidableEq, Repr

/-- The `reason` of an answer: none, an absent cap, or a cap that the job exceeds. -/
inductive PreviewReason where
  | empty
  | noSpendCap
  | capExceeded (balance cap pct : ℚ) (estimatedCost : PyFloat)
  deriving DecidableEq

structure SpendPreview where
  tenantId : String
  plan : Option String
  spendCapUsd : ℚ
  currentBalance : ℚ
  estimatedCost : PyFloat
  allowed : Bool
  reason : PreviewReason
  remaining : RemainingSpend
  usagePct : Option ℚ
  deriving DecidableEq

/-- An answer without a body: a 503, or the 500 for a body that cannot be written. -/
inductive PreviewFailure where
  | planRefused (error : PlanSourceError)
  | billingUnavailable
  | unwritable
  deriving DecidableEq

/-- The dictionary that `check_spend_cap_endpoint` returns. -/
def checkSpendCapEndpoint (config : Except PlanSourceError PlanConfig) (ledger : LedgerView)
    (tenantId : String) (plan : Option String) (estimatedCost : PyFloat)
    : Except PreviewFailure SpendPreview :=
  match config with
  | .error error => .error (.planRefused error)
  | .ok config =>
      let cap := config.spendCapUsd
      if cap ≤ 0 then
        .ok {
          tenantId, plan, estimatedCost
          spendCapUsd := cap
          currentBalance := 0
          allowed := true
          reason := .noSpendCap
          remaining := .unlimited
          usagePct := none }
      else
        match getTenantBalance ledger tenantId with
        | none => .error .billingUnavailable
        | some balance =>
            let allowed := isWithin cap (projectedSpend balance estimatedCost)
            let pct := if 0 < cap then roundTo 1 (balance / cap * 100) else 0
            .ok {
              tenantId, plan, estimatedCost, allowed
              spendCapUsd := cap
              currentBalance := roundTo 6 balance
              reason := if allowed then .empty else .capExceeded balance cap pct estimatedCost
              remaining := .usd (roundTo 6 (max 0 (cap - balance)))
              usagePct := some pct }

/-- `GET /spend-cap`: the dictionary, if its body can be written. -/
def getSpendCap (writable : SpendPreview → Bool) (config : Except PlanSourceError PlanConfig)
    (ledger : LedgerView) (tenantId : String) (plan : Option String) (estimatedCost : PyFloat)
    : Except PreviewFailure SpendPreview :=
  match checkSpendCapEndpoint config ledger tenantId plan estimatedCost with
  | .ok preview => if writable preview then .ok preview else .error .unwritable
  | .error failure => .error failure

end RomaBridge.Model.Plans
