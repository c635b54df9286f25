import RomaBridge.Model.QuotaVerdict

/-! The gate, `_check_limits` and the quota step of the decision store read one file of plans. They agree on
a tenant whose plan is written as the file writes it. Earlier months stay in the counters of a quota
that is named per month. Both refusals over GPU seconds divide by the limit, which can be zero.
-/

namespace RomaBridge.Properties

open RomaBridge.Foundation RomaBridge.Model RomaBridge.Model.Plans

section Lowering

variable (lower : String → String) (file : PlansFile)

def knownLimit (plan : Option String) : Option ℤ :=
  (planLimits lower file plan).toOption.map PlanLimits.jobsPerMonth

def NamedInFile (plan : Option String) : Prop :=
  ∃ name loaded fields, plan = some name ∧ loadPlans file = .ok loaded
    ∧ loaded.get? name = some (.dict fields)

/-- The plan stands in the file as it is written, or else the tier `free` happens to deny exactly
where the plan's own limit does. A plan without a limit needs `free` to be used up.
-/
def ReadAsWritten (jobs : ℕ) (plan : Option String) : Prop :=
  match knownLimit lower file plan with
  | some limit => NamedInFile file plan ∨ deniedBy (fallbackLimit lower file) jobs = deniedBy limit jobs
  | none => deniedBy (fallbackLimit lower file) jobs = true

theorem planLimits_spelling {plan spelling : Option String}
    (same : planKey lower spelling = planKey lower plan)
    : (planLimits lower file spelling).toOption = (planLimits lower file plan).toOption := by
  unfold planLimits
  rw [same]
  split
  · rfl
  · cases loadPlans file with
    | error error => rfl
    | ok plans =>
        simp only [Except.bind, tierLimits]
        split
        · split
          · rfl
          · rfl
        · rfl

theorem knownLimit_spelling {plan spelling : Option String}
    (same : planKey lower spelling = planKey lower plan)
    : knownLimit lower file spelling = knownLimit lower file plan := by
  unfold knownLimit
  rw [planLimits_spelling lower file same]

theorem loadedPlans_eq_some_iff (name : String) (limit : ℤ)
    : loadedPlans lower file name = some limit
      ↔ NamedInFile file (some name) ∧ knownLimit lower file (some name) = some limit := by
  have listed_iff : NamedInFile file (some name)
      ↔ ∃ loaded fields, loadPlans file = .ok loaded ∧ loaded.get? name = some (.dict fields) := by
    simp [NamedInFile]
  rw [listed_iff]
  unfold loadedPlans knownLimit
  cases loadPlans file with
  | error error => simp
  | ok loaded =>
      cases entry : loaded.get? name with
      | none => simp [entry]
      | some cfg =>
          cases cfg with
          | dict fields =>
              cases limits : planLimits lower file (some name) with
              | error error => simp [entry, keptLimit, limits, Except.toOption]
              | ok found => simp [keptLimit, limits, Except.toOption, entry]
          | _ => simp [keptLimit, entry]

theorem gateLimit_cases (plan : Option String)
    : (∃ limit, knownLimit lower file plan = some limit ∧ NamedInFile file plan
        ∧ gateLimit lower file plan = limit)
      ∨ ((knownLimit lower file plan = none ∨ ¬ NamedInFile file plan)
        ∧ gateLimit lower file plan = fallbackLimit lower file) := by
  cases plan with
  | none =>
      refine Or.inr ⟨Or.inr ?_, rfl⟩
      intro ⟨_, _, _, absent, _⟩
      cases absent
  | some name =>
      cases kept : loadedPlans lower file name with
      | some limit =>
          obtain ⟨listed, known⟩ := (loadedPlans_eq_some_iff lower file name limit).mp kept
          exact Or.inl ⟨limit, known, listed, by simp [gateLimit, kept]⟩
      | none =>
          refine Or.inr ⟨?_, by simp [gateLimit, kept]⟩
          cases known : knownLimit lower file (some name) with
          | none => exact Or.inl rfl
          | some limit =>
              refine Or.inr ?_
              intro listed
              have found := (loadedPlans_eq_some_iff lower file name limit).mpr ⟨listed, known⟩
              rw [kept] at found
              cases found

theorem deniedBy_gateLimit_iff (jobs : ℕ) (plan : Option String)
    : deniedBy (gateLimit lower file plan) jobs
        = (knownLimit lower file plan).elim true (fun limit => deniedBy limit jobs)
      ↔ ReadAsWritten lower file jobs plan := by
  unfold ReadAsWritten
  rcases gateLimit_cases lower file plan with ⟨limit, known, listed, read⟩ | ⟨unread, read⟩
  · simp [known, read, listed]
  · rw [read]
    cases known : knownLimit lower file plan with
    | none => simp
    | some limit =>
        have unlisted : ¬ NamedInFile file plan := by simpa [known] using unread
        simp [unlisted]

theorem evaluate_allowed (tenantId : String) (record : TenantRecord) (jobs : ℕ) (gpu : Bool)
    : (evaluate lower file tenantId (some record) jobs gpu).allowed
      = !deniedBy (gateLimit lower file record.plan) jobs := by
  simp only [evaluate]
  cases deniedBy (gateLimit lower file record.plan) jobs with
  | true => rfl
  | false => rfl

theorem checkLimits_isOk (tenant : Option TenantRecord) (jobs : ℕ)
    : (checkLimits lower file tenant jobs).isOk
      = !(knownLimit lower file (tenant.bind TenantRecord.plan)).elim true
          (fun limit => deniedBy limit jobs) := by
  unfold checkLimits knownLimit deniedBy
  cases planLimits lower file (tenant.bind TenantRecord.plan) with
  | error error => rfl
  | ok limits =>
      simp only [Except.toOption, Option.map_some, Option.elim_some]
      split
      · rename_i negative
        simp [Except.isOk, Except.toBool, Int.not_le.mpr negative]
      · rename_i counted
        split
        · rename_i reached
          simp [Except.isOk, Except.toBool, Int.not_lt.mp counted, reached]
        · rename_i below
          simp [Except.isOk, Except.toBool, below]

theorem quotaStep_isOk (tenantId : String) (record : TenantRecord) (jobs : ℕ)
    : (quotaStep lower file tenantId (some record) jobs).isOk
      = !(knownLimit lower file record.plan).elim true
          (fun limit => limit ≠ -1 && decide (limit ≤ jobs)) := by
  simp only [quotaStep, knownLimit]
  cases planLimits lower file record.plan with
  | error error => rfl
  | ok limits =>
      simp only [Except.toOption, Option.map_some, Option.elim_some]
      split
      · rename_i reached
        simp [Except.isOk, Except.toBool, reached.1, reached.2]
      · rename_i below
        by_cases unlimited : limits.jobsPerMonth = -1
        · simp [Except.isOk, Except.toBool, unlimited]
        · have above : ¬ limits.jobsPerMonth ≤ jobs := fun reached => below ⟨unlimited, reached⟩
          simp [Except.isOk, Except.toBool, above]

theorem stepDenies_iff (limit : ℤ) (jobs : ℕ)
    : (limit ≠ -1 && decide (limit ≤ jobs)) = deniedBy limit jobs ↔ -1 ≤ limit := by
  unfold deniedBy
  by_cases negative : limit < 0
  · have counted : limit ≤ jobs := by omega
    simp [Int.not_le.mpr negative, counted]
    omega
  · have positive : limit ≠ -1 := by omega
    simp [positive, Int.not_lt.mp negative]
    omega

/-- The three paths decide alike on a tenant: they refuse without a limit, admit without a bound,
and another spelling of the plan changes nothing.
-/
structure QuotaPathsAgree (tenantId : String) (tenant : Option TenantRecord) (jobs : ℕ)
    (gpu : Bool) (spelling : Option String)
    : Prop where
  same : (evaluate lower file tenantId tenant jobs gpu).allowed
      = (checkLimits lower file tenant jobs).isOk
    ∧ (evaluate lower file tenantId tenant jobs gpu).allowed
      = (quotaStep lower file tenantId tenant jobs).isOk
  closed : (∀ limits, planLimits lower file (tenant.bind TenantRecord.plan) ≠ .ok limits) →
    (evaluate lower file tenantId tenant jobs gpu).allowed = false
    ∧ (checkLimits lower file tenant jobs).isOk = false
    ∧ (quotaStep lower file tenantId tenant jobs).isOk = false
  spelled :
    let respelled := tenant.map (fun record => { record with plan := spelling })
    (evaluate lower file tenantId respelled jobs gpu).allowed
      = (evaluate lower file tenantId tenant jobs gpu).allowed
    ∧ (checkLimits lower file respelled jobs).isOk = (checkLimits lower file tenant jobs).isOk
    ∧ (quotaStep lower file tenantId respelled jobs).isOk
      = (quotaStep lower file tenantId tenant jobs).isOk
  unlimited : ∀ limits, tenant.isSome →
    planLimits lower file (tenant.bind TenantRecord.plan) = .ok limits →
    limits.jobsPerMonth < 0 →
    (evaluate lower file tenantId tenant jobs gpu).allowed = true
    ∧ (checkLimits lower file tenant jobs).isOk = true
    ∧ (quotaStep lower file tenantId tenant jobs).isOk = true

/-- What the limit of the file decides: nothing is admitted without one. -/
def admittedBy (jobs : ℕ) (limit : Option ℤ) : Bool :=
  !limit.elim true (fun limit => deniedBy limit jobs)

theorem verdicts_eq (tenantId : String) (record : TenantRecord) (jobs : ℕ) (gpu : Bool)
    (bounded : ∀ limit, knownLimit lower file record.plan = some limit → -1 ≤ limit)
    (written : ReadAsWritten lower file jobs record.plan)
    : (evaluate lower file tenantId (some record) jobs gpu).allowed
        = admittedBy jobs (knownLimit lower file record.plan)
      ∧ (checkLimits lower file (some record) jobs).isOk
        = admittedBy jobs (knownLimit lower file record.plan)
      ∧ (quotaStep lower file tenantId (some record) jobs).isOk
        = admittedBy jobs (knownLimit lower file record.plan) := by
  refine ⟨?_, checkLimits_isOk lower file (some record) jobs, ?_⟩
  · rw [evaluate_allowed, (deniedBy_gateLimit_iff lower file jobs record.plan).mpr written]
    rfl
  · rw [quotaStep_isOk]
    unfold admittedBy
    cases known : knownLimit lower file record.plan with
    | none => rfl
    | some limit =>
        simp only [Option.elim_some]
        rw [(stepDenies_iff limit jobs).mpr (bounded limit known)]

theorem knownLimit_eq_none {plan : Option String}
    (unknown : ∀ limits, planLimits lower file plan ≠ .ok limits)
    : knownLimit lower file plan = none := by
  unfold knownLimit
  cases found : planLimits lower file plan with
  | error error => rfl
  | ok limits => exact absurd found (unknown limits)

theorem admittedBy_of_negative (jobs : ℕ) {limit : ℤ} (negative : limit < 0)
    : admittedBy jobs (some limit) = true := by
  simp [admittedBy, deniedBy, Int.not_le.mpr negative]

theorem quotaPaths_agree_none (emptyText : lower "" = "") (tenantId : String) (jobs : ℕ)
    (gpu : Bool) (spelling : Option String)
    : QuotaPathsAgree lower file tenantId none jobs gpu spelling := by
  have unnamed : planLimits lower file none = .error .emptyName := if_pos emptyText
  have refused : (checkLimits lower file none jobs).isOk = false := by
    simp [checkLimits, unnamed, Except.isOk, Except.toBool]
  constructor
  · exact ⟨refused.symm, rfl⟩
  · intro _
    exact ⟨rfl, refused, rfl⟩
  · exact ⟨rfl, rfl, rfl⟩
  · intro _ present
    cases present

/-- The three paths agree on a tenant, under its own and another spelling of its plan, exactly when
the file's limit is not below `-1` and each spelling is one that the gate reads the limit under, or
the tier `free` gives the same verdict.
-/
theorem quotaPaths_agree_iff (emptyText : lower "" = "") (tenantId : String)
    (tenant : Option TenantRecord) (jobs : ℕ) (gpu : Bool) {spelling : Option String}
    (same : planKey lower spelling = planKey lower (tenant.bind TenantRecord.plan))
    : QuotaPathsAgree lower file tenantId tenant jobs gpu spelling
      ↔ ∀ record, tenant = some record →
        (∀ limit, knownLimit lower file record.plan = some limit → -1 ≤ limit)
        ∧ ReadAsWritten lower file jobs record.plan
        ∧ ReadAsWritten lower file jobs spelling := by
  cases tenant with
  | none =>
      have agree := quotaPaths_agree_none lower file emptyText tenantId jobs gpu spelling
      exact iff_of_true agree (fun _ absent => by cases absent)
  | some record =>
      have known : knownLimit lower file spelling = knownLimit lower file record.plan :=
        knownLimit_spelling lower file same
      constructor
      · intro agree _ itself
        obtain rfl := Option.some.inj itself
        obtain ⟨gateCheck, gateStep⟩ := agree.same
        obtain ⟨gateSpelled, -, -⟩ := agree.spelled
        rw [evaluate_allowed, checkLimits_isOk, Bool.not_inj_iff] at gateCheck
        rw [Option.map_some, evaluate_allowed, evaluate_allowed, Bool.not_inj_iff] at gateSpelled
        refine ⟨?_, (deniedBy_gateLimit_iff lower file jobs record.plan).mp gateCheck, ?_⟩
        · intro limit found
          rw [evaluate_allowed, quotaStep_isOk, Bool.not_inj_iff, gateCheck] at gateStep
          simp only [Option.bind_some, found, Option.elim_some] at gateStep
          exact (stepDenies_iff limit jobs).mp gateStep.symm
        · refine (deniedBy_gateLimit_iff lower file jobs spelling).mp ?_
          rw [known]
          exact gateSpelled.trans gateCheck
      · intro conditions
        obtain ⟨bounded, written, respelled⟩ := conditions record rfl
        obtain ⟨gate, check, step⟩ := verdicts_eq lower file tenantId record jobs gpu bounded written
        obtain ⟨gate', check', step'⟩ := verdicts_eq lower file tenantId
          { record with plan := spelling } jobs gpu (by rw [known]; exact bounded) respelled
        rw [known] at gate' check' step'
        constructor
        · exact ⟨gate.trans check.symm, gate.trans step.symm⟩
        · intro unknown
          have none' : knownLimit lower file record.plan = none := knownLimit_eq_none lower file unknown
          rw [gate, check, step, none']
          exact ⟨rfl, rfl, rfl⟩
        · exact ⟨gate'.trans gate.symm, check'.trans check.symm, step'.trans step.symm⟩
        · intro limits _ found negative
          have limit : knownLimit lower file record.plan = some limits.jobsPerMonth := by
            unfold knownLimit
            rw [show planLimits lower file record.plan = .ok limits from found]
            rfl
          rw [gate, check, step, limit, admittedBy_of_negative jobs negative]
          exact ⟨rfl, rfl, rfl⟩

end Lowering

def asciiLower (text : String) : String := String.ofList (text.toList.map Char.toLower)

/-- The shipped file lists `pro`, and the paths agree on it. -/
theorem quotaPaths_agree_pro
    : QuotaPathsAgree asciiLower shippedPlans "acme" (some ⟨"acme", some "pro"⟩) 60 false
      (some "pro") := by
  have known : knownLimit asciiLower shippedPlans (some "pro") = some 1000 := by decide
  have listed : NamedInFile shippedPlans (some "pro") :=
    ⟨"pro", _, _, rfl, rfl, rfl⟩
  have written : ReadAsWritten asciiLower shippedPlans 60 (some "pro") := by
    unfold ReadAsWritten
    rw [known]
    exact Or.inl listed
  refine (quotaPaths_agree_iff asciiLower shippedPlans (by decide) "acme" _ 60 false rfl).mpr ?_
  intro record itself
  obtain rfl := Option.some.inj itself
  refine ⟨?_, written, written⟩
  intro limit found
  rw [known] at found
  obtain rfl := Option.some.inj found
  decide

/-- Without the file the gate admits ten jobs, and the other paths none. -/
theorem quotaPaths_disagree
    : ¬ QuotaPathsAgree asciiLower .missing "acme" (some ⟨"acme", some "pro"⟩) 0 false
      (some "pro") := by
  intro agree
  exact absurd agree.same.1 (by decide)

def monthJobs (month : ℕ) (tenantId : String) (history : History) : List (Dated String) :=
  history.jobs.filter (fun job => job.row = tenantId && job.month = month)

def monthUsage (month : ℕ) (tenantId : String) (history : History) : List (Dated UsageRow) :=
  history.usage.filter (fun event => event.row.tenantId = tenantId && event.month = month)

def olderJobs (month : ℕ) (tenantId : String) (history : History) : List (Dated String) :=
  history.jobs.filter (fun job => job.row = tenantId && job.month ≠ month)

def olderUsage (month : ℕ) (tenantId : String) (history : History) : List (Dated UsageRow) :=
  history.usage.filter (fun event => event.row.tenantId = tenantId && event.month ≠ month)

/-- The sum of the `value` column. -/
def totalValue (events : List (Dated UsageRow)) : ℚ :=
  (events.map (fun event => event.row.value)).sum

/-- The histories hold the same jobs and the same usage of the tenant in the month. -/
structure AgreeOnMonth (month : ℕ) (tenantId : String) (first second : History) : Prop where
  jobs : (monthJobs month tenantId first).Perm (monthJobs month tenantId second)
  usage : (monthUsage month tenantId first).Perm (monthUsage month tenantId second)

/-- The quota decisions and the consumption of a tenant are the same after both histories. -/
structure SameQuota (lower : String → String) (file : PlansFile) (tenantId : String)
    (tenant : Option TenantRecord) (gpu : Bool) (first second : History)
    : Prop where
  gate : (evaluate lower file tenantId tenant (countJobsForTenantTotal first tenantId) gpu).allowed
    = (evaluate lower file tenantId tenant (countJobsForTenantTotal second tenantId) gpu).allowed
  check : (checkLimits lower file tenant (countJobsForTenantTotal first tenantId)).isOk
    = (checkLimits lower file tenant (countJobsForTenantTotal second tenantId)).isOk
  consumption : ledgerConsumption (first.usage.map Dated.row) tenantId
    = ledgerConsumption (second.usage.map Dated.row) tenantId

def UsesUp (limit : ℤ) (current older : ℕ) : Prop := current < limit ∧ limit ≤ current + older

instance (limit : ℤ) (current older : ℕ) : Decidable (UsesUp limit current older) :=
  inferInstanceAs (Decidable (_ ∧ _))

/-- What two histories that agree on a month have to share of the other months: for each limit that
is read, both or neither use up the rest, the usage has as many rows, and its values sum up to the
same whole seconds with those of the month.
-/
structure SameLeftovers (lower : String → String) (file : PlansFile) (month : ℕ)
    (tenantId : String) (tenant : Option TenantRecord) (first second : History)
    : Prop where
  gate : ∀ record, tenant = some record →
    (UsesUp (gateLimit lower file record.plan) (monthJobs month tenantId first).length
        (olderJobs month tenantId first).length
      ↔ UsesUp (gateLimit lower file record.plan) (monthJobs month tenantId first).length
        (olderJobs month tenantId second).length)
  check : ∀ limit, knownLimit lower file (tenant.bind TenantRecord.plan) = some limit →
    (UsesUp limit (monthJobs month tenantId first).length (olderJobs month tenantId first).length
      ↔ UsesUp limit (monthJobs month tenantId first).length
        (olderJobs month tenantId second).length)
  rows : (olderUsage month tenantId first).length = (olderUsage month tenantId second).length
  seconds :
    truncated (totalValue (monthUsage month tenantId first)
        + totalValue (olderUsage month tenantId first))
      = truncated (totalValue (monthUsage month tenantId first)
        + totalValue (olderUsage month tenantId second))

theorem countJobsForTenantTotal_eq (month : ℕ) (tenantId : String) (history : History)
    : countJobsForTenantTotal history tenantId
      = (monthJobs month tenantId history).length + (olderJobs month tenantId history).length := by
  unfold countJobsForTenantTotal monthJobs olderJobs
  induction history.jobs with
  | nil => rfl
  | cons job rest ih =>
      rw [List.countP_cons, List.filter_cons, List.filter_cons, ih]
      by_cases own : job.row = tenantId
      · by_cases current : job.month = month
        · simp [own, current]
          omega
        · simp [own, current]
          omega
      · simp [own]

theorem usageOf_split (month : ℕ) (tenantId : String) (history : History)
    : (usageOf tenantId (history.usage.map Dated.row)).length
        = (monthUsage month tenantId history).length + (olderUsage month tenantId history).length
      ∧ ((usageOf tenantId (history.usage.map Dated.row)).map UsageRow.value).sum
        = totalValue (monthUsage month tenantId history)
          + totalValue (olderUsage month tenantId history) := by
  unfold usageOf monthUsage olderUsage totalValue
  induction history.usage with
  | nil => simp
  | cons event rest ih =>
      obtain ⟨count, sum⟩ := ih
      rw [List.map_cons, List.filter_cons, List.filter_cons, List.filter_cons]
      by_cases own : event.row.tenantId = tenantId
      · by_cases current : event.month = month
        · simp [own, current, count, sum]
          constructor
          · omega
          · ring
        · simp [own, current, count, sum]
          constructor
          · omega
          · ring
      · simp [own, count, sum]

theorem deniedBy_add (limit : ℤ) (current older : ℕ)
    : deniedBy limit (current + older) = true
      ↔ deniedBy limit current = true ∨ UsesUp limit current older := by
  simp only [deniedBy, UsesUp, Bool.and_eq_true, decide_eq_true_eq, Nat.cast_add]
  omega

theorem deniedBy_add_eq_iff (limit : ℤ) (current older others : ℕ)
    : deniedBy limit (current + older) = deniedBy limit (current + others)
      ↔ (UsesUp limit current older ↔ UsesUp limit current others) := by
  rw [Bool.eq_iff_iff, deniedBy_add, deniedBy_add]
  by_cases denied : deniedBy limit current = true
  · have full : limit ≤ current := by
      simp only [deniedBy, Bool.and_eq_true, decide_eq_true_eq] at denied
      exact denied.2
    have never : ∀ older, ¬ UsesUp limit current older :=
      fun _ used => absurd full (Int.not_le.mpr used.1)
    simp [denied, never]
  · simp [denied]

theorem ledgerConsumption_eq_iff (month : ℕ) (tenantId : String) (first second : History)
    : ledgerConsumption (first.usage.map Dated.row) tenantId
        = ledgerConsumption (second.usage.map Dated.row) tenantId
      ↔ (monthUsage month tenantId first).length + (olderUsage month tenantId first).length
          = (monthUsage month tenantId second).length + (olderUsage month tenantId second).length
        ∧ truncated (totalValue (monthUsage month tenantId first)
            + totalValue (olderUsage month tenantId first))
          = truncated (totalValue (monthUsage month tenantId second)
            + totalValue (olderUsage month tenantId second)) := by
  obtain ⟨firstCount, firstSum⟩ := usageOf_split month tenantId first
  obtain ⟨secondCount, secondSum⟩ := usageOf_split month tenantId second
  rw [← firstCount, ← secondCount, ← firstSum, ← secondSum]
  simp [ledgerConsumption]

section Lowering

variable (lower : String → String) (file : PlansFile)

theorem evaluate_allowed_eq_iff (tenantId : String) (tenant : Option TenantRecord) (gpu : Bool)
    (jobs others : ℕ)
    : (evaluate lower file tenantId tenant jobs gpu).allowed
        = (evaluate lower file tenantId tenant others gpu).allowed
      ↔ ∀ record, tenant = some record →
        deniedBy (gateLimit lower file record.plan) jobs
          = deniedBy (gateLimit lower file record.plan) others := by
  cases tenant with
  | none => exact iff_of_true rfl (fun _ absent => by cases absent)
  | some record =>
      rw [evaluate_allowed, evaluate_allowed, Bool.not_inj_iff]
      simp

theorem checkLimits_isOk_eq_iff (tenant : Option TenantRecord) (jobs others : ℕ)
    : (checkLimits lower file tenant jobs).isOk = (checkLimits lower file tenant others).isOk
      ↔ ∀ limit, knownLimit lower file (tenant.bind TenantRecord.plan) = some limit →
        deniedBy limit jobs = deniedBy limit others := by
  rw [checkLimits_isOk, checkLimits_isOk, Bool.not_inj_iff]
  cases knownLimit lower file (tenant.bind TenantRecord.plan) with
  | none => simp
  | some limit => simp

/-- After two histories that agree on a month, the quotas of a tenant are the same exactly when the
other months leave the same in the counters.
-/
theorem monthlyQuotas_iff (tenant : Option TenantRecord) (gpu : Bool) {month : ℕ}
    {tenantId : String} {first second : History} (agree : AgreeOnMonth month tenantId first second)
    : SameQuota lower file tenantId tenant gpu first second
      ↔ SameLeftovers lower file month tenantId tenant first second := by
  have jobs := agree.jobs.length_eq
  have rows := agree.usage.length_eq
  have seconds : totalValue (monthUsage month tenantId first)
      = totalValue (monthUsage month tenantId second) :=
    (agree.usage.map (fun event : Dated UsageRow => event.row.value)).sum_eq
  have gate_iff := evaluate_allowed_eq_iff lower file tenantId tenant gpu
    (countJobsForTenantTotal first tenantId) (countJobsForTenantTotal second tenantId)
  have check_iff := checkLimits_isOk_eq_iff lower file tenant
    (countJobsForTenantTotal first tenantId) (countJobsForTenantTotal second tenantId)
  have consumption_iff := ledgerConsumption_eq_iff month tenantId first second
  rw [countJobsForTenantTotal_eq month, countJobsForTenantTotal_eq month, ← jobs]
    at gate_iff check_iff
  rw [← rows, ← seconds, Nat.add_left_cancel_iff] at consumption_iff
  simp only [deniedBy_add_eq_iff] at gate_iff check_iff
  constructor
  · intro same
    have gate := same.gate
    have check := same.check
    rw [countJobsForTenantTotal_eq month, countJobsForTenantTotal_eq month, ← jobs] at gate check
    obtain ⟨count, sum⟩ := consumption_iff.mp same.consumption
    exact ⟨gate_iff.mp gate, check_iff.mp check, count, sum⟩
  · intro leftovers
    refine ⟨?_, ?_, consumption_iff.mpr ⟨leftovers.rows, leftovers.seconds⟩⟩
    · rw [countJobsForTenantTotal_eq month, countJobsForTenantTotal_eq month, ← jobs]
      exact gate_iff.mpr leftovers.gate
    · rw [countJobsForTenantTotal_eq month, countJobsForTenantTotal_eq month, ← jobs]
      exact check_iff.mpr leftovers.check

end Lowering

def lastMonth (jobs : ℕ) : History := ⟨List.replicate jobs ⟨0, "acme"⟩, []⟩

/-- Fewer jobs of last month than the tier has leave its quota alone. -/
theorem monthlyQuotas_same
    : SameQuota asciiLower shippedPlans "acme" (some ⟨"acme", some "start"⟩) false (lastMonth 1)
      (lastMonth 2) := by
  have known : knownLimit asciiLower shippedPlans (some "start") = some 50 := by decide
  have read : gateLimit asciiLower shippedPlans (some "start") = 50 := by decide
  have agree : AgreeOnMonth 1 "acme" (lastMonth 1) (lastMonth 2) := ⟨.nil, .nil⟩
  refine (monthlyQuotas_iff asciiLower shippedPlans _ false agree).mpr ?_
  constructor
  · intro record itself
    obtain rfl := Option.some.inj itself
    rw [read]
    decide
  · intro limit found
    simp only [Option.bind_some] at found
    rw [known] at found
    obtain rfl := Option.some.inj found
    decide
  · rfl
  · rfl

/-- Fifty jobs of last month lock a `start` tenant out of this one. -/
theorem monthlyQuotas_differ
    : ∃ first second, AgreeOnMonth 1 "acme" first second
      ∧ ¬ SameQuota asciiLower shippedPlans "acme" (some ⟨"acme", some "start"⟩) false first
        second := by
  refine ⟨lastMonth 50, lastMonth 0, ⟨.nil, .nil⟩, ?_⟩
  intro same
  exact absurd same.gate (by decide)

variable {verdict : QuotaVerdict}

section Verdict

variable {limits : PlanLimits} {consumption : Consumption} {estimateGpuS : ℚ}

def JobsSpent (limits : PlanLimits) (consumption : Consumption) : Prop :=
  0 ≤ limits.jobsPerMonth ∧ limits.jobsPerMonth ≤ consumption.jobsUsed

/-- The whole seconds are more than a job may take. -/
def OverPerJob (limits : PlanLimits) (estimate : ℤ) : Prop :=
  0 ≤ limits.gpuSPerJob ∧ limits.gpuSPerJob < estimate

def OverMonth (limits : PlanLimits) (consumption : Consumption) (estimate : ℤ) : Prop :=
  0 ≤ limits.gpuSPerMonth ∧ limits.gpuSPerMonth < consumption.gpuSecondsUsed + estimate

def LimitsRespected (limits : PlanLimits) (consumption : Consumption) (estimateGpuS : ℚ) : Prop :=
  (0 ≤ limits.jobsPerMonth → (consumption.jobsUsed : ℤ) < limits.jobsPerMonth)
    ∧ (0 ≤ limits.gpuSPerJob → estimateGpuS ≤ limits.gpuSPerJob)
    ∧ (0 ≤ limits.gpuSPerMonth → consumption.gpuSecondsUsed + estimateGpuS ≤ limits.gpuSPerMonth)

/-- A verdict is returned, it approves exactly within the limits, and a rejection stays one when
more is consumed or asked for.
-/
structure VerdictSound (limits : PlanLimits) (consumption : Consumption) (estimateGpuS : ℚ)
    : Prop where
  returned : ∃ verdict, freeQuotaVerdict limits consumption estimateGpuS = .ok verdict
    ∧ (verdict.decision = approvedDecision ↔ LimitsRespected limits consumption estimateGpuS)
  kept : ∀ (verdict more : QuotaVerdict) (raised : Consumption) (estimate : ℚ),
    consumption.jobsUsed ≤ raised.jobsUsed → consumption.gpuSecondsUsed ≤ raised.gpuSecondsUsed →
    estimateGpuS ≤ estimate →
    freeQuotaVerdict limits consumption estimateGpuS = .ok verdict →
    verdict.decision = rejectedDecision →
    freeQuotaVerdict limits raised estimate = .ok more → more.decision ≠ approvedDecision

def HasText (value : ℤ) : Prop := value.natAbs < 10 ^ maxStrDigits

/-- The quotient of the numbers is a float. -/
def HasQuotient (a b : ℤ) : Prop := b ≠ 0 ∧ a.natAbs < (2 ^ 1024 - 2 ^ 970) * b.natAbs

/-- What the inputs have to meet, in the order of the tests: the largest numbers of the reason have
a text, a limit that is passed divides, and within the limits the estimate is whole or below them.
-/
structure QuotaInputs (limits : PlanLimits) (consumption : Consumption) (estimateGpuS : ℚ)
    (estimate : ℤ)
    : Prop where
  spent : JobsSpent limits consumption → HasText consumption.jobsUsed
  perJob : ¬JobsSpent limits consumption → OverPerJob limits estimate →
    HasText estimate ∧ HasQuotient estimate limits.gpuSPerJob
  month : ¬JobsSpent limits consumption → ¬OverPerJob limits estimate →
    OverMonth limits consumption estimate →
    HasText consumption.gpuSecondsUsed ∧ HasText limits.gpuSPerMonth
      ∧ HasQuotient (consumption.gpuSecondsUsed + estimate) limits.gpuSPerMonth
  within : ¬JobsSpent limits consumption → ¬OverPerJob limits estimate →
    ¬OverMonth limits consumption estimate →
    (HasText (if limits.jobsPerMonth < 0 then consumption.jobsUsed else limits.jobsPerMonth)
      ∧ HasText (if limits.gpuSPerJob < 0 then estimate else limits.gpuSPerJob)
      ∧ HasText (if limits.gpuSPerMonth < 0 then consumption.gpuSecondsUsed + estimate
          else limits.gpuSPerMonth))
    ∧ (estimateGpuS ≠ estimate → estimate ≠ limits.gpuSPerJob
      ∧ consumption.gpuSecondsUsed + estimate ≠ limits.gpuSPerMonth)

-- Texts and quotients

theorem printed_isOk {value : ℤ} : (∃ text, printed value = .ok text) ↔ HasText value := by
  have digits : (Nat.toDigits 10 value.natAbs).length ≤ maxStrDigits
      ↔ value.natAbs < 10 ^ maxStrDigits :=
    Nat.length_toDigits_le_iff (by decide) (by decide)
  by_cases short : (Nat.toDigits 10 value.natAbs).length ≤ maxStrDigits
  · have text : intText value = some (PyStr.of (toString value)) := if_pos short
    simp only [printed, text]
    exact ⟨fun _ => digits.mp short, fun _ => ⟨_, rfl⟩⟩
  · have missing : intText value = none := if_neg short
    simp only [printed, missing]
    exact ⟨fun ⟨_, impossible⟩ => (by cases impossible), fun text => absurd (digits.mpr text) short⟩

theorem printedLimit_isOk {limit : ℤ}
    : (∃ text, printedLimit limit = .ok text) ↔ (limit < 0 ∨ HasText limit) := by
  unfold printedLimit unlimited
  by_cases negative : limit < 0
  · simp [negative]
  · simp only [negative, decide_false, Bool.false_eq_true, if_false, false_or]
    exact printed_isOk

theorem divided_isOk {a b : ℤ} : (∃ ratio, divided a b = .ok ratio) ↔ HasQuotient a b := by
  by_cases zero : b = 0
  · simp only [divided, if_pos zero]
    exact ⟨fun ⟨_, impossible⟩ => (by cases impossible), fun divides => absurd zero divides.1⟩
  · by_cases large : (2 ^ 1024 - 2 ^ 970) * b.natAbs ≤ a.natAbs
    · have missing : Admission.trueDiv a b = none := by
        rw [Admission.trueDiv, if_neg zero, if_pos large]
      simp only [divided, if_neg zero, missing]
      exact ⟨fun ⟨_, impossible⟩ => (by cases impossible),
        fun divides => absurd large (not_le.mpr divides.2)⟩
    · have found : Admission.trueDiv a b = some ((a : ℚ) / b) := by
        rw [Admission.trueDiv, if_neg zero, if_neg large]
      simp only [divided, if_neg zero, found]
      exact ⟨fun _ => ⟨zero, not_le.mp large⟩, fun _ => ⟨_, rfl⟩⟩

theorem HasText.of_le {value larger : ℤ} (text : HasText larger)
    (le : value.natAbs ≤ larger.natAbs)
    : HasText value :=
  lt_of_le_of_lt le text

theorem one_lt_floatRange : 1 < 2 ^ 1024 - 2 ^ 970 := by
  decide +kernel

theorem ratioTo_isOk {value limit : ℤ} (nonneg : 0 ≤ value) (within : 0 ≤ limit → value ≤ limit)
    : ∃ ratios, ratioTo value limit = .ok ratios := by
  by_cases asked : (!unlimited limit && decide (limit ≠ 0)) = true
  · simp only [Bool.and_eq_true, Bool.not_eq_true', unlimited, decide_eq_false_iff_not, not_lt,
      decide_eq_true_eq] at asked
    have divides : HasQuotient value limit := by
      refine ⟨asked.2, ?_⟩
      have le : value.natAbs ≤ limit.natAbs := by
        have := within asked.1
        omega
      have positive : 0 < limit.natAbs := Int.natAbs_pos.mpr asked.2
      exact lt_of_le_of_lt le (lt_mul_of_one_lt_left positive one_lt_floatRange)
    obtain ⟨ratio, found⟩ := divided_isOk.mpr divides
    have taken : (!unlimited limit && decide (limit ≠ 0)) = true := by simp [unlimited, asked]
    exact ⟨[ratio], by rw [ratioTo, if_pos taken, found]; rfl⟩
  · exact ⟨[], by rw [ratioTo, if_neg asked]⟩

-- The four verdicts

theorem sequence_eq_ok {α β : Type} {first : Except QuotaError α} {next : α → Except QuotaError β}
    {result : β}
    : first >>= next = .ok result ↔ ∃ value, first = .ok value ∧ next value = .ok result := by
  cases first with
  | error raised =>
      exact iff_of_false (fun impossible => by cases impossible)
        (fun ⟨_, impossible, _⟩ => by cases impossible)
  | ok value =>
      exact ⟨fun returned => ⟨value, rfl, returned⟩,
        fun ⟨_, same, returned⟩ => by cases same; exact returned⟩

theorem bind_isOk {α β : Type} {first : Except QuotaError α} {next : α → Except QuotaError β}
    : (∃ result, first >>= next = .ok result)
      ↔ ∃ value, first = .ok value ∧ ∃ result, next value = .ok result := by
  simp only [sequence_eq_ok]
  rw [exists_comm]
  simp only [exists_and_left]

theorem jobsExhausted_isOk {estimate : ℤ}
    : (∃ verdict, jobsExhaustedVerdict limits consumption estimate = .ok verdict)
      ↔ HasText consumption.jobsUsed ∧ HasText limits.jobsPerMonth
        ∧ HasText (limits.jobsPerMonth - consumption.jobsUsed) := by
  simp only [jobsExhaustedVerdict, bind_isOk, exists_and_right, printed_isOk, pure, Except.pure,
    Except.ok.injEq, exists_eq', and_true]

theorem perJobExceeded_isOk {estimate : ℤ}
    : (∃ verdict, perJobExceededVerdict limits consumption estimate = .ok verdict)
      ↔ HasText estimate ∧ HasText limits.gpuSPerJob ∧ HasText (estimate - limits.gpuSPerJob)
        ∧ HasQuotient estimate limits.gpuSPerJob := by
  simp only [perJobExceededVerdict, bind_isOk, exists_and_right, printed_isOk, divided_isOk, pure,
    Except.pure, Except.ok.injEq, exists_eq', and_true]

theorem monthlyExhausted_isOk {estimate : ℤ}
    : (∃ verdict, monthlyExhaustedVerdict limits consumption estimate = .ok verdict)
      ↔ HasText consumption.gpuSecondsUsed ∧ HasText estimate ∧ HasText limits.gpuSPerMonth
        ∧ HasText (consumption.gpuSecondsUsed + estimate - limits.gpuSPerMonth)
        ∧ HasQuotient (consumption.gpuSecondsUsed + estimate) limits.gpuSPerMonth := by
  simp only [monthlyExhaustedVerdict, bind_isOk, exists_and_right, printed_isOk, divided_isOk, pure,
    Except.pure, Except.ok.injEq, exists_eq', and_true]

theorem withinQuota_isOk {estimate : ℤ}
    : (∃ verdict, withinQuotaVerdict limits consumption estimate = .ok verdict)
      ↔ (∃ ratios, ratioTo (consumption.jobsUsed + 1) limits.jobsPerMonth = .ok ratios)
        ∧ (∃ ratios,
          ratioTo (consumption.gpuSecondsUsed + estimate) limits.gpuSPerMonth = .ok ratios)
        ∧ HasText consumption.jobsUsed
        ∧ (limits.jobsPerMonth < 0 ∨ HasText limits.jobsPerMonth)
        ∧ HasText estimate ∧ (limits.gpuSPerJob < 0 ∨ HasText limits.gpuSPerJob)
        ∧ HasText (consumption.gpuSecondsUsed + estimate)
        ∧ (limits.gpuSPerMonth < 0 ∨ HasText limits.gpuSPerMonth) := by
  simp only [withinQuotaVerdict, bind_isOk, exists_and_right, printed_isOk, printedLimit_isOk, pure,
    Except.pure, Except.ok.injEq, exists_eq', and_true]

theorem jobsExhausted_rejects {estimate : ℤ}
    (returned : jobsExhaustedVerdict limits consumption estimate = .ok verdict)
    : verdict.decision = rejectedDecision := by
  simp only [jobsExhaustedVerdict, sequence_eq_ok, pure, Except.pure, Except.ok.injEq] at returned
  obtain ⟨_, -, _, -, _, -, rfl⟩ := returned
  rfl

theorem perJobExceeded_rejects {estimate : ℤ}
    (returned : perJobExceededVerdict limits consumption estimate = .ok verdict)
    : verdict.decision = rejectedDecision := by
  simp only [perJobExceededVerdict, sequence_eq_ok, pure, Except.pure, Except.ok.injEq] at returned
  obtain ⟨_, -, _, -, _, -, _, -, rfl⟩ := returned
  rfl

theorem monthlyExhausted_rejects {estimate : ℤ}
    (returned : monthlyExhaustedVerdict limits consumption estimate = .ok verdict)
    : verdict.decision = rejectedDecision := by
  simp only [monthlyExhaustedVerdict, sequence_eq_ok, pure, Except.pure, Except.ok.injEq] at returned
  obtain ⟨_, -, _, -, _, -, _, -, _, -, rfl⟩ := returned
  rfl

theorem withinQuota_approves {estimate : ℤ}
    (returned : withinQuotaVerdict limits consumption estimate = .ok verdict)
    : verdict.decision = approvedDecision := by
  simp only [withinQuotaVerdict, sequence_eq_ok, pure, Except.pure, Except.ok.injEq] at returned
  obtain ⟨_, -, _, -, _, -, _, -, _, -, _, -, _, -, _, -, rfl⟩ := returned
  rfl

-- The tests

/-- The verdict is one of the four, by the first test that the inputs meet. -/
theorem freeQuotaVerdict_cases (limits : PlanLimits) (consumption : Consumption) (estimateGpuS : ℚ)
    : (JobsSpent limits consumption
        ∧ freeQuotaVerdict limits consumption estimateGpuS
          = jobsExhaustedVerdict limits consumption (truncated estimateGpuS))
      ∨ (¬JobsSpent limits consumption ∧ OverPerJob limits (truncated estimateGpuS)
        ∧ freeQuotaVerdict limits consumption estimateGpuS
          = perJobExceededVerdict limits consumption (truncated estimateGpuS))
      ∨ (¬JobsSpent limits consumption ∧ ¬OverPerJob limits (truncated estimateGpuS)
        ∧ OverMonth limits consumption (truncated estimateGpuS)
        ∧ freeQuotaVerdict limits consumption estimateGpuS
          = monthlyExhaustedVerdict limits consumption (truncated estimateGpuS))
      ∨ (¬JobsSpent limits consumption ∧ ¬OverPerJob limits (truncated estimateGpuS)
        ∧ ¬OverMonth limits consumption (truncated estimateGpuS)
        ∧ freeQuotaVerdict limits consumption estimateGpuS
          = withinQuotaVerdict limits consumption (truncated estimateGpuS)) := by
  have test : ∀ limit value : ℤ,
      ((!unlimited limit && decide (limit < value)) = true ↔ 0 ≤ limit ∧ limit < value) := by
    intro limit value
    simp [unlimited]
  have reached : ∀ limit value : ℤ,
      ((!unlimited limit && decide (limit ≤ value)) = true ↔ 0 ≤ limit ∧ limit ≤ value) := by
    intro limit value
    simp [unlimited]
  unfold freeQuotaVerdict
  simp only [reached, test]
  by_cases spent : JobsSpent limits consumption
  · exact .inl ⟨spent, if_pos spent⟩
  · by_cases perJob : OverPerJob limits (truncated estimateGpuS)
    · exact .inr (.inl ⟨spent, perJob, (if_neg spent).trans (if_pos perJob)⟩)
    · by_cases month : OverMonth limits consumption (truncated estimateGpuS)
      · exact .inr (.inr (.inl
          ⟨spent, perJob, month, (if_neg spent).trans ((if_neg perJob).trans (if_pos month))⟩))
      · exact .inr (.inr (.inr
          ⟨spent, perJob, month, (if_neg spent).trans ((if_neg perJob).trans (if_neg month))⟩))

theorem decision_of_returned
    (returned : freeQuotaVerdict limits consumption estimateGpuS = .ok verdict)
    : (verdict.decision = approvedDecision ∧ ¬JobsSpent limits consumption
        ∧ ¬OverPerJob limits (truncated estimateGpuS)
        ∧ ¬OverMonth limits consumption (truncated estimateGpuS))
      ∨ (verdict.decision = rejectedDecision ∧ (JobsSpent limits consumption
        ∨ OverPerJob limits (truncated estimateGpuS)
        ∨ OverMonth limits consumption (truncated estimateGpuS))) := by
  obtain ⟨spent, same⟩ | ⟨-, perJob, same⟩ | ⟨-, -, month, same⟩ | ⟨spent, perJob, month, same⟩ :=
    freeQuotaVerdict_cases limits consumption estimateGpuS
  · exact .inr ⟨jobsExhausted_rejects (same ▸ returned), .inl spent⟩
  · exact .inr ⟨perJobExceeded_rejects (same ▸ returned), .inr (.inl perJob)⟩
  · exact .inr ⟨monthlyExhausted_rejects (same ▸ returned), .inr (.inr month)⟩
  · exact .inl ⟨withinQuota_approves (same ▸ returned), spent, perJob, month⟩

theorem truncated_eq_floor {value : ℚ} (nonneg : 0 ≤ value) : truncated value = ⌊value⌋ := by
  rw [truncated, Rat.floor_def', Int.tdiv_eq_ediv_of_nonneg (Rat.num_nonneg.mpr nonneg)]

theorem tests_mono {raised : Consumption} {estimate : ℚ} (nonneg : 0 ≤ estimateGpuS)
    (jobs : consumption.jobsUsed ≤ raised.jobsUsed)
    (seconds : consumption.gpuSecondsUsed ≤ raised.gpuSecondsUsed)
    (asked : estimateGpuS ≤ estimate)
    (met : JobsSpent limits consumption ∨ OverPerJob limits (truncated estimateGpuS)
      ∨ OverMonth limits consumption (truncated estimateGpuS))
    : JobsSpent limits raised ∨ OverPerJob limits (truncated estimate)
      ∨ OverMonth limits raised (truncated estimate) := by
  have whole : truncated estimateGpuS ≤ truncated estimate := by
    rw [truncated_eq_floor nonneg, truncated_eq_floor (nonneg.trans asked)]
    exact Int.floor_le_floor asked
  obtain spent | perJob | month := met
  · have used : (consumption.jobsUsed : ℤ) ≤ raised.jobsUsed := by exact_mod_cast jobs
    exact .inl ⟨spent.1, spent.2.trans used⟩
  · exact .inr (.inl ⟨perJob.1, lt_of_lt_of_le perJob.2 whole⟩)
  · exact .inr (.inr ⟨month.1, lt_of_lt_of_le month.2 (add_le_add seconds whole)⟩)

theorem rejected_mono {more : QuotaVerdict} {raised : Consumption} {estimate : ℚ}
    (nonneg : 0 ≤ estimateGpuS) (jobs : consumption.jobsUsed ≤ raised.jobsUsed)
    (seconds : consumption.gpuSecondsUsed ≤ raised.gpuSecondsUsed) (asked : estimateGpuS ≤ estimate)
    (returned : freeQuotaVerdict limits consumption estimateGpuS = .ok verdict)
    (rejected : verdict.decision = rejectedDecision)
    (returnedMore : freeQuotaVerdict limits raised estimate = .ok more)
    : more.decision ≠ approvedDecision := by
  have apart : approvedDecision ≠ rejectedDecision := by decide
  obtain ⟨approved, -⟩ | ⟨-, met⟩ := decision_of_returned returned
  · exact absurd (approved.symm.trans rejected) apart
  · have still := tests_mono nonneg jobs seconds asked met
    obtain ⟨-, spent, perJob, month⟩ | ⟨rejectedMore, -⟩ := decision_of_returned returnedMore
    · obtain now | now | now := still
      · exact absurd now spent
      · exact absurd now perJob
      · exact absurd now month
    · exact fun approved => apart (approved.symm.trans rejectedMore)

-- Sound inputs

theorem perJob_le_perMonth (spent : ¬JobsSpent limits consumption)
    (limited : 0 ≤ limits.gpuSPerMonth)
    : 0 ≤ limits.gpuSPerJob ∧ limits.gpuSPerJob ≤ limits.gpuSPerMonth := by
  unfold PlanLimits.gpuSPerMonth at limited ⊢
  split at limited
  · omega
  · rename_i both
    rw [not_or, not_lt, not_lt] at both
    have some_ : 1 ≤ limits.jobsPerMonth := by
      by_contra none_
      exact spent ⟨both.1, by omega⟩
    rw [if_neg (by omega)]
    exact ⟨both.2, le_mul_of_one_le_left both.2 some_⟩

theorem respected_iff {estimate : ℤ} (nonneg : 0 ≤ estimate) (used : 0 ≤ consumption.gpuSecondsUsed)
    (le : (estimate : ℚ) ≤ estimateGpuS) (lt : estimateGpuS < estimate + 1)
    (spent : ¬JobsSpent limits consumption) (perJob : ¬OverPerJob limits estimate)
    (month : ¬OverMonth limits consumption estimate)
    : LimitsRespected limits consumption estimateGpuS
      ↔ (estimateGpuS ≠ estimate → estimate ≠ limits.gpuSPerJob
        ∧ consumption.gpuSecondsUsed + estimate ≠ limits.gpuSPerMonth) := by
  unfold JobsSpent at spent
  unfold OverPerJob at perJob
  unfold OverMonth at month
  constructor
  · intro respected fraction
    have above : (estimate : ℚ) < estimateGpuS := lt_of_le_of_ne le (Ne.symm fraction)
    refine ⟨fun same => ?_, fun same => ?_⟩
    · have within := respected.2.1 (same ▸ nonneg)
      rw [← same] at within
      exact absurd above (not_lt.mpr within)
    · have within := respected.2.2 (by omega)
      rw [← same] at within
      push_cast at within
      linarith
  · intro whole
    refine ⟨fun limited => by omega, fun limited => ?_, fun limited => ?_⟩
    · have below : estimate ≤ limits.gpuSPerJob := by omega
      by_cases same : estimateGpuS = estimate
      · rw [same]
        exact_mod_cast below
      · have next : estimate + 1 ≤ limits.gpuSPerJob := by
          have := (whole same).1
          omega
        have nextCast : (estimate : ℚ) + 1 ≤ limits.gpuSPerJob := by exact_mod_cast next
        linarith
    · have below : consumption.gpuSecondsUsed + estimate ≤ limits.gpuSPerMonth := by omega
      by_cases same : estimateGpuS = estimate
      · rw [same]
        exact_mod_cast below
      · have next : consumption.gpuSecondsUsed + estimate + 1 ≤ limits.gpuSPerMonth := by
          have := (whole same).2
          omega
        have nextCast : (consumption.gpuSecondsUsed : ℚ) + estimate + 1 ≤ limits.gpuSPerMonth := by
          exact_mod_cast next
        linarith

theorem not_respected_of_test {estimate : ℤ} (le : (estimate : ℚ) ≤ estimateGpuS)
    (met : JobsSpent limits consumption ∨ OverPerJob limits estimate
      ∨ OverMonth limits consumption estimate)
    : ¬LimitsRespected limits consumption estimateGpuS := by
  intro respected
  obtain ⟨limited, reached⟩ | ⟨limited, passed⟩ | ⟨limited, passed⟩ := met
  · exact absurd (respected.1 limited) (not_lt.mpr reached)
  · have cast : (limits.gpuSPerJob : ℚ) < estimate := by exact_mod_cast passed
    have within := respected.2.1 limited
    linarith
  · have cast : (limits.gpuSPerMonth : ℚ) < consumption.gpuSecondsUsed + estimate := by
      exact_mod_cast passed
    have within := respected.2.2 limited
    linarith

def VerdictGiven (limits : PlanLimits) (consumption : Consumption) (estimateGpuS : ℚ) : Prop :=
  ∃ verdict,
    freeQuotaVerdict limits consumption estimateGpuS = .ok verdict
    ∧ (verdict.decision = approvedDecision ↔ LimitsRespected limits consumption estimateGpuS)

theorem right_of_rejected {result : Except QuotaError QuotaVerdict}
    (same : freeQuotaVerdict limits consumption estimateGpuS = result)
    (rejects : ∀ {verdict : QuotaVerdict}, result = .ok verdict →
      verdict.decision = rejectedDecision)
    (outside : ¬LimitsRespected limits consumption estimateGpuS)
    : VerdictGiven limits consumption estimateGpuS ↔ ∃ verdict, result = .ok verdict := by
  rw [VerdictGiven, same]
  constructor
  · intro ⟨verdict, returned, _⟩
    exact ⟨verdict, returned⟩
  · intro ⟨verdict, returned⟩
    refine ⟨verdict, returned, iff_of_false ?_ outside⟩
    rw [rejects returned]
    decide

theorem returned_iff_of_spent {estimate : ℤ} (le : (estimate : ℚ) ≤ estimateGpuS)
    (spent : JobsSpent limits consumption)
    (same : freeQuotaVerdict limits consumption estimateGpuS
      = jobsExhaustedVerdict limits consumption (truncated estimateGpuS))
    : VerdictGiven limits consumption estimateGpuS ↔ QuotaInputs limits consumption estimateGpuS estimate := by
  rw [right_of_rejected same jobsExhausted_rejects (not_respected_of_test le (.inl spent)),
    jobsExhausted_isOk]
  constructor
  · intro ⟨text, _, _⟩
    exact ⟨fun _ => text, fun room => absurd spent room, fun room => absurd spent room,
      fun room => absurd spent room⟩
  · intro inputs
    have text := inputs.spent spent
    obtain ⟨limited, reached⟩ := spent
    exact ⟨text, text.of_le (by omega), text.of_le (by omega)⟩

theorem returned_iff_of_perJob {estimate : ℤ} (whole : truncated estimateGpuS = estimate)
    (le : (estimate : ℚ) ≤ estimateGpuS) (room : ¬JobsSpent limits consumption)
    (perJob : OverPerJob limits estimate)
    (same : freeQuotaVerdict limits consumption estimateGpuS
      = perJobExceededVerdict limits consumption (truncated estimateGpuS))
    : VerdictGiven limits consumption estimateGpuS ↔ QuotaInputs limits consumption estimateGpuS estimate := by
  rw [right_of_rejected same perJobExceeded_rejects
    (not_respected_of_test le (.inr (.inl perJob))), whole, perJobExceeded_isOk]
  constructor
  · intro ⟨text, _, _, divides⟩
    exact ⟨fun spent => absurd spent room, fun _ _ => ⟨text, divides⟩,
      fun _ fits => absurd perJob fits, fun _ fits => absurd perJob fits⟩
  · intro inputs
    obtain ⟨text, divides⟩ := inputs.perJob room perJob
    obtain ⟨limited, passed⟩ := perJob
    exact ⟨text, text.of_le (by omega), text.of_le (by omega), divides⟩

theorem returned_iff_of_month {estimate : ℤ} (whole : truncated estimateGpuS = estimate)
    (nonneg : 0 ≤ estimate) (used : 0 ≤ consumption.gpuSecondsUsed)
    (le : (estimate : ℚ) ≤ estimateGpuS) (room : ¬JobsSpent limits consumption)
    (fits : ¬OverPerJob limits estimate) (month : OverMonth limits consumption estimate)
    (same : freeQuotaVerdict limits consumption estimateGpuS
      = monthlyExhaustedVerdict limits consumption (truncated estimateGpuS))
    : VerdictGiven limits consumption estimateGpuS ↔ QuotaInputs limits consumption estimateGpuS estimate := by
  rw [right_of_rejected same monthlyExhausted_rejects
    (not_respected_of_test le (.inr (.inr month))), whole, monthlyExhausted_isOk]
  constructor
  · intro ⟨usedText, _, limitText, _, divides⟩
    exact ⟨fun spent => absurd spent room, fun _ perJob => absurd perJob fits,
      fun _ _ _ => ⟨usedText, limitText, divides⟩, fun _ _ below => absurd month below⟩
  · intro inputs
    obtain ⟨usedText, limitText, divides⟩ := inputs.month room fits month
    obtain ⟨limited, passed⟩ := month
    obtain ⟨capped, cap⟩ := perJob_le_perMonth room limited
    have below : estimate ≤ limits.gpuSPerJob := not_lt.mp (fun above => fits ⟨capped, above⟩)
    exact ⟨usedText, limitText.of_le (by omega), limitText, usedText.of_le (by omega), divides⟩

/-- The approval returns when its largest numbers have texts. -/
theorem withinQuota_isOk_iff {estimate : ℤ} (nonneg : 0 ≤ estimate)
    (used : 0 ≤ consumption.gpuSecondsUsed) (room : ¬JobsSpent limits consumption)
    (fits : ¬OverPerJob limits estimate) (below : ¬OverMonth limits consumption estimate)
    : (∃ verdict, withinQuotaVerdict limits consumption estimate = .ok verdict)
      ↔ HasText (if limits.jobsPerMonth < 0 then consumption.jobsUsed else limits.jobsPerMonth)
        ∧ HasText (if limits.gpuSPerJob < 0 then estimate else limits.gpuSPerJob)
        ∧ HasText (if limits.gpuSPerMonth < 0 then consumption.gpuSecondsUsed + estimate
            else limits.gpuSPerMonth) := by
  unfold JobsSpent at room
  unfold OverPerJob at fits
  unfold OverMonth at below
  have ofJobs := @ratioTo_isOk (consumption.jobsUsed + 1) limits.jobsPerMonth (by omega) (by omega)
  have ofMonth := @ratioTo_isOk (consumption.gpuSecondsUsed + estimate) limits.gpuSPerMonth
    (by omega) (by omega)
  rw [withinQuota_isOk]
  constructor
  · intro ⟨_, _, jobsText, jobsLimit, jobText, jobLimit, monthText, monthLimit⟩
    refine ⟨?_, ?_, ?_⟩
    · split
      · exact jobsText
      · exact jobsLimit.resolve_left (by assumption)
    · split
      · exact jobText
      · exact jobLimit.resolve_left (by assumption)
    · split
      · exact monthText
      · exact monthLimit.resolve_left (by assumption)
  · intro ⟨jobs, job, month⟩
    refine ⟨ofJobs, ofMonth, jobs.of_le ?_, ?_, job.of_le ?_, ?_, month.of_le ?_, ?_⟩
    · split <;> omega
    · exact (lt_or_ge limits.jobsPerMonth 0).imp_right (fun limited => jobs.of_le (by
        rw [if_neg (not_lt.mpr limited)]))
    · split <;> omega
    · exact (lt_or_ge limits.gpuSPerJob 0).imp_right (fun limited => job.of_le (by
        rw [if_neg (not_lt.mpr limited)]))
    · split <;> omega
    · exact (lt_or_ge limits.gpuSPerMonth 0).imp_right (fun limited => month.of_le (by
        rw [if_neg (not_lt.mpr limited)]))

theorem returned_iff_of_within {estimate : ℤ} (whole : truncated estimateGpuS = estimate)
    (nonneg : 0 ≤ estimate) (used : 0 ≤ consumption.gpuSecondsUsed)
    (le : (estimate : ℚ) ≤ estimateGpuS) (lt : estimateGpuS < estimate + 1)
    (room : ¬JobsSpent limits consumption) (fits : ¬OverPerJob limits estimate)
    (below : ¬OverMonth limits consumption estimate)
    (same : freeQuotaVerdict limits consumption estimateGpuS
      = withinQuotaVerdict limits consumption (truncated estimateGpuS))
    : VerdictGiven limits consumption estimateGpuS ↔ QuotaInputs limits consumption estimateGpuS estimate := by
  have texts := withinQuota_isOk_iff nonneg used room fits below
  have respected := respected_iff nonneg used le lt room fits below
  rw [VerdictGiven, same, whole]
  constructor
  · intro ⟨verdict, returned, right⟩
    exact ⟨fun spent => absurd spent room, fun _ perJob => absurd perJob fits,
      fun _ _ month => absurd month below,
      fun _ _ _ => ⟨texts.mp ⟨verdict, returned⟩,
        respected.mp (right.mp (withinQuota_approves returned))⟩⟩
  · intro inputs
    obtain ⟨printable, unpassed⟩ := inputs.within room fits below
    obtain ⟨verdict, returned⟩ := texts.mpr printable
    exact ⟨verdict, returned,
      iff_of_true (withinQuota_approves returned) (respected.mpr unpassed)⟩

theorem returned_iff {estimate : ℤ} (whole : truncated estimateGpuS = estimate)
    (nonneg : 0 ≤ estimate) (used : 0 ≤ consumption.gpuSecondsUsed)
    (le : (estimate : ℚ) ≤ estimateGpuS) (lt : estimateGpuS < estimate + 1)
    : VerdictGiven limits consumption estimateGpuS ↔ QuotaInputs limits consumption estimateGpuS estimate := by
  obtain ⟨spent, same⟩ | ⟨room, perJob, same⟩ | ⟨room, fits, month, same⟩ | ⟨room, fits, below, same⟩
    := freeQuotaVerdict_cases limits consumption estimateGpuS
  · exact returned_iff_of_spent le spent same
  · exact returned_iff_of_perJob whole le room (whole ▸ perJob) same
  · exact returned_iff_of_month whole nonneg used le room (whole ▸ fits) (whole ▸ month) same
  · exact returned_iff_of_within whole nonneg used le lt room (whole ▸ fits) (whole ▸ below) same

/-- For counters and an estimate that are not negative, the verdict is sound exactly on the inputs
of `QuotaInputs`.
-/
theorem quota_verdict_iff (limits : PlanLimits) (consumption : Consumption) (estimateGpuS : ℚ)
    (used : 0 ≤ consumption.gpuSecondsUsed) (nonneg : 0 ≤ estimateGpuS)
    : VerdictSound limits consumption estimateGpuS
      ↔ QuotaInputs limits consumption estimateGpuS ⌊estimateGpuS⌋ := by
  have returned := @returned_iff limits consumption estimateGpuS ⌊estimateGpuS⌋
    (truncated_eq_floor nonneg) (Int.floor_nonneg.mpr nonneg) used (Int.floor_le estimateGpuS)
    (Int.lt_floor_add_one estimateGpuS)
  constructor
  · intro sound
    exact returned.mp sound.returned
  · intro inputs
    refine ⟨returned.mpr inputs, ?_⟩
    intro verdict more raised estimate jobs seconds asked first rejected second
    exact rejected_mono nonneg jobs seconds asked first rejected second

end Verdict

def freeLimits : PlanLimits := ⟨"free", 50, 3600⟩

def nothingConsumed : Consumption := ⟨"tenant", 0, 0⟩

/-- The first job of a tenant of the tier `free`, of a minute and a half second. -/
theorem first_job_sound : VerdictSound freeLimits nothingConsumed (121 / 2) := by
  have floor : ⌊(121 / 2 : ℚ)⌋ = 60 := by norm_num [Int.floor_eq_iff]
  refine (quota_verdict_iff freeLimits nothingConsumed (121 / 2) (by decide) (by norm_num)).mpr ?_
  rw [floor]
  refine ⟨?_, ?_, ?_, ?_⟩
  · intro spent
    exact absurd spent (by unfold JobsSpent; decide)
  · intro _ perJob
    exact absurd perJob (by unfold OverPerJob; decide)
  · intro _ _ month
    exact absurd month (by unfold OverMonth; decide)
  · intro _ _ _
    refine ⟨⟨?_, ?_, ?_⟩, fun _ => ⟨by decide, by decide⟩⟩ <;>
      · unfold HasText
        decide +kernel

def noGpuLimits : PlanLimits := ⟨"free", 50, 0⟩

/-- One second against a limit of none divides by zero, and half a second more than the limit of the
tier `free` is approved.
-/
theorem zero_limit_divides
    : freeQuotaVerdict noGpuLimits nothingConsumed 1 = .error .zeroDivision
      ∧ ¬VerdictSound noGpuLimits nothingConsumed 1
      ∧ ¬VerdictSound freeLimits nothingConsumed (7201 / 2) := by
  have raised : freeQuotaVerdict noGpuLimits nothingConsumed 1 = .error .zeroDivision := by
    rfl
  refine ⟨raised, ?_, ?_⟩
  · intro sound
    obtain ⟨verdict, returned, _⟩ := sound.returned
    rw [raised] at returned
    cases returned
  · intro sound
    have floor : ⌊(7201 / 2 : ℚ)⌋ = 3600 := by norm_num [Int.floor_eq_iff]
    obtain ⟨verdict, returned, right⟩ := sound.returned
    have whole : truncated (7201 / 2) = 3600 := by
      rw [truncated_eq_floor (by norm_num), floor]
    obtain ⟨approved, -⟩ | ⟨-, met⟩ := decision_of_returned returned
    · have within := (right.mp approved).2.1 (by decide)
      norm_num [freeLimits] at within
    · rw [whole] at met
      exact absurd met (by unfold JobsSpent OverPerJob OverMonth; decide)

end RomaBridge.Properties
