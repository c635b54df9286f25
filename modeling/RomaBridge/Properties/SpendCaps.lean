import RomaBridge.Model.SpendCaps
import RomaBridge.Properties.QuotaPaths

/-! Admission adds a job's cost to the tenant's balance and reconciliation sums its debits, so that
the two bound different amounts. The preview of the cap compares in a way of its own: a cap of zero is
none, a balance that the process does not keep is good enough, and it asks whether the sum is within
the cap where the admission asks whether it is above.
-/

namespace RomaBridge.Properties

open RomaBridge.Foundation RomaBridge.Model RomaBridge.Model.Plans

/-- A balance that can be read and trusted. -/
def Readable (ledger : LedgerView) : Prop :=
  ledger.isPersistent = true ∧ ledger.reachable = true

def withEntry (ledger : LedgerView) (entry : LedgerEntry) : LedgerView :=
  { ledger with entries := ledger.entries ++ [entry] }

theorem balanceOf_withEntry {tenantId : String} (ledger : LedgerView) {entry : LedgerEntry}
    (own : entry.tenantId = tenantId)
    : balanceOf tenantId (withEntry ledger entry).entries
      = balanceOf tenantId ledger.entries + entry.signed := by
  simp [balanceOf, entriesOf, withEntry, own]

theorem checkSpendCap_eq_ok_iff {lower : String → String} {file : PlansFile}
    {plan : Option String} {config : PlanConfig} (known : planConfig lower file plan = .ok config)
    (positive : 0 < config.spendCapUsd) (ledger : LedgerView) (tenantId : String) (cost : ℚ)
    : checkSpendCap lower file ledger tenantId cost plan = .ok ()
      ↔ Readable ledger ∧ balanceOf tenantId ledger.entries + cost ≤ config.spendCapUsd := by
  have bounded : ¬ config.spendCapUsd < 0 := not_lt.mpr positive.le
  unfold checkSpendCap Readable
  rw [known]
  simp only [if_neg bounded, if_neg positive.ne']
  by_cases persistent : ledger.isPersistent = true
  · simp only [persistent, Bool.true_eq_false, if_false, true_and]
    unfold getTenantBalance
    by_cases reachable : ledger.reachable = true
    · simp only [reachable, if_true, true_and]
      split
      · rename_i above
        simp [not_le.mpr above]
      · rename_i within
        simp [not_lt.mp within]
    · simp [reachable]
  · simp [persistent]

theorem exists_entry_of_debits {tenantId : String} {entries : List LedgerEntry}
    (spent : debitsOf tenantId entries ≠ 0)
    : tenantId ∈ entries.map LedgerEntry.tenantId := by
  by_contra absent
  refine spent ?_
  have none' : entriesOf tenantId entries = [] := by
    refine List.filter_eq_nil_iff.mpr ?_
    intro entry member own
    exact absent (List.mem_map.mpr ⟨entry, member, by simpa using own⟩)
  simp [debitsOf, none']

theorem mem_exceededTenants_iff (tenants : List TenantRecord) (entries : List LedgerEntry)
    (usage : List UsageRow) (tenant : TenantRecord)
    : tenant ∈ exceededTenants tenants entries usage
      ↔ tenant ∈ tenants ∧ ∃ cap, reconciledCap tenant.plan = some cap ∧ 0 < cap
        ∧ cap ≤ debitsOf tenant.id entries := by
  have exceeds_iff : ∀ debit, exceeds debit tenant.plan = true
      ↔ ∃ cap, reconciledCap tenant.plan = some cap ∧ 0 < cap ∧ cap ≤ debit := by
    intro debit
    unfold exceeds
    cases reconciledCap tenant.plan with
    | none => simp
    | some cap => simp
  simp only [exceededTenants, List.mem_flatMap, List.mem_filter, Bool.and_eq_true,
    decide_eq_true_eq, exceeds_iff]
  constructor
  · rintro ⟨row, member, known, same, reached⟩
    obtain ⟨id, -, rfl⟩ := List.mem_map.mp member
    obtain rfl : tenant.id = id := same
    exact ⟨known, reached⟩
  · rintro ⟨known, cap, policy, positive, reached⟩
    have entry : tenant.id ∈ entries.map LedgerEntry.tenantId :=
      exists_entry_of_debits (positive.trans_le reached).ne'
    refine ⟨_, List.mem_map.mpr ⟨tenant.id, ?_, rfl⟩, known, rfl, cap, policy, positive, reached⟩
    exact List.mem_dedup.mpr (List.mem_append_left _ entry)

/-- What a cap on spending promises about a ledger: a further debit admits nothing more, a further
credit refuses nothing more, and a tenant that reconciliation reports gets no paid job.
-/
structure CapBoundsSpending (lower : String → String) (file : PlansFile) (ledger : LedgerView)
    (tenantId : String) (plan : Option String) (cost : ℚ) (entry : LedgerEntry)
    (tenants : List TenantRecord) (usage : List UsageRow)
    : Prop where
  debit : entry.entryType = .debit → entry.tenantId = tenantId →
    checkSpendCap lower file ledger tenantId cost plan ≠ .ok () →
    checkSpendCap lower file (withEntry ledger entry) tenantId cost plan ≠ .ok ()
  credit : entry.entryType = .credit → entry.tenantId = tenantId →
    checkSpendCap lower file ledger tenantId cost plan = .ok () →
    checkSpendCap lower file (withEntry ledger entry) tenantId cost plan = .ok ()
  reported : ⟨tenantId, plan⟩ ∈ exceededTenants tenants ledger.entries usage → 0 < cost →
    checkSpendCap lower file ledger tenantId cost plan ≠ .ok ()

/-- The amounts for which the balance happens to bound the spending: the debit does not carry it
back below the cap, the credit does not carry it above, and debits of a whole cap stand under a
balance that leaves no room.
-/
structure BalanceTracksSpending (cap : ℚ) (ledger : LedgerView) (tenantId : String)
    (plan : Option String) (cost : ℚ) (entry : LedgerEntry) (tenants : List TenantRecord)
    : Prop where
  debit : entry.entryType = .debit → entry.tenantId = tenantId →
    balanceOf tenantId ledger.entries + cost ≤ cap
    ∨ cap < balanceOf tenantId ledger.entries - entry.amount + cost
  credit : entry.entryType = .credit → entry.tenantId = tenantId →
    cap < balanceOf tenantId ledger.entries + cost
    ∨ balanceOf tenantId ledger.entries + entry.amount + cost ≤ cap
  reported : ⟨tenantId, plan⟩ ∈ tenants → ∀ reported, reconciledCap plan = some reported →
    0 < reported → reported ≤ debitsOf tenantId ledger.entries → 0 < cost →
    cap < balanceOf tenantId ledger.entries + cost

theorem capBoundsSpending_of_unreadable {lower : String → String} {file : PlansFile}
    {plan : Option String} {config : PlanConfig} (known : planConfig lower file plan = .ok config)
    (positive : 0 < config.spendCapUsd) {ledger : LedgerView} (unreadable : ¬ Readable ledger)
    (tenantId : String) (cost : ℚ) (entry : LedgerEntry) (tenants : List TenantRecord)
    (usage : List UsageRow)
    : CapBoundsSpending lower file ledger tenantId plan cost entry tenants usage := by
  have refused : checkSpendCap lower file ledger tenantId cost plan ≠ .ok () :=
    fun admitted => unreadable
      ((checkSpendCap_eq_ok_iff known positive ledger tenantId cost).mp admitted).1
  constructor
  · intro _ _ _ admitted
    exact unreadable ((checkSpendCap_eq_ok_iff known positive _ tenantId cost).mp admitted).1
  · intro _ _ admitted
    exact absurd admitted refused
  · intro _ _
    exact refused

/-- Under a positive cap the promise holds exactly of a ledger that cannot be read, or whose balance
tracks the spending.
-/
theorem capBoundsSpending_iff {lower : String → String} {file : PlansFile}
    {plan : Option String} {config : PlanConfig} (known : planConfig lower file plan = .ok config)
    (positive : 0 < config.spendCapUsd) (ledger : LedgerView) (tenantId : String) (cost : ℚ)
    (entry : LedgerEntry) (tenants : List TenantRecord) (usage : List UsageRow)
    : CapBoundsSpending lower file ledger tenantId plan cost entry tenants usage
      ↔ (Readable ledger →
        BalanceTracksSpending config.spendCapUsd ledger tenantId plan cost entry tenants) := by
  have before := checkSpendCap_eq_ok_iff known positive ledger tenantId cost
  have after := checkSpendCap_eq_ok_iff known positive (withEntry ledger entry) tenantId cost
  have readable_iff : Readable (withEntry ledger entry) ↔ Readable ledger := Iff.rfl
  constructor
  · intro bounds readable
    simp only [readable_iff, readable, true_and] at before after
    constructor
    · intro debit own
      by_contra between
      push Not at between
      obtain ⟨refused, admitted⟩ := between
      refine bounds.debit debit own (mt before.mp (not_le.mpr refused)) (after.mpr ?_)
      rw [balanceOf_withEntry ledger own, LedgerEntry.signed, debit]
      linarith
    · intro credit own
      by_contra between
      push Not at between
      obtain ⟨admitted, refused⟩ := between
      have still := after.mp (bounds.credit credit own (before.mpr admitted))
      rw [balanceOf_withEntry ledger own, LedgerEntry.signed, credit] at still
      exact absurd still (not_le.mpr refused)
    · intro stored reported policy someCap reached paid
      have counted : ⟨tenantId, plan⟩ ∈ exceededTenants tenants ledger.entries usage :=
        (mem_exceededTenants_iff tenants ledger.entries usage ⟨tenantId, plan⟩).mpr
          ⟨stored, reported, policy, someCap, reached⟩
      exact not_le.mp (mt before.mpr (bounds.reported counted paid))
  · intro tracks
    by_cases readable : Readable ledger
    · have tracked := tracks readable
      simp only [readable_iff, readable, true_and] at before after
      constructor
      · intro debit own refused admitted
        have still := after.mp admitted
        rw [balanceOf_withEntry ledger own, LedgerEntry.signed, debit] at still
        rcases tracked.debit debit own with within | above
        · exact refused (before.mpr within)
        · exact absurd still (not_le.mpr (by linarith))
      · intro credit own admitted
        refine after.mpr ?_
        rw [balanceOf_withEntry ledger own, LedgerEntry.signed, credit]
        rcases tracked.credit credit own with above | within
        · exact absurd (before.mp admitted) (not_le.mpr above)
        · exact within
      · intro counted paid admitted
        obtain ⟨stored, reported, policy, someCap, reached⟩ :=
          (mem_exceededTenants_iff tenants ledger.entries usage ⟨tenantId, plan⟩).mp counted
        have above := tracked.reported stored reported policy someCap reached paid
        exact absurd (before.mp admitted) (not_le.mpr above)
    · exact capBoundsSpending_of_unreadable known positive readable tenantId cost entry tenants usage

def entryOf (tenantId : String) (entryType : EntryType) (amount : ℚ) : LedgerEntry where
  ledgerId := .fresh ""
  tenantId := tenantId
  entryType := entryType
  amount := amount
  currency := "USD"
  metadata := {}

def startConfig : PlanConfig := ⟨50, 3600, 180000, 50, 5, 5 / 1000000⟩

theorem planConfig_start : planConfig asciiLower shippedPlans (some "start") = .ok startConfig := by
  rfl

/-- A debit of one dollar leaves room for a job of one dollar, as before. -/
theorem capBoundsSpending_within
    : CapBoundsSpending asciiLower shippedPlans ⟨true, true, [entryOf "acme" .credit 4]⟩ "acme"
      (some "start") 1 (entryOf "acme" .debit 1) [⟨"acme", some "start"⟩] [] := by
  refine (capBoundsSpending_iff planConfig_start (by decide +kernel) _ _ _ _ _ _).mpr ?_
  intro _
  constructor
  · intro _ _
    exact Or.inl (by decide +kernel)
  · intro credit _
    cases credit
  · intro _ reported policy positive reached _
    have unspent : debitsOf "acme" [entryOf "acme" .credit 4] = 0 := by decide +kernel
    rw [unspent] at reached
    exact absurd reached (not_le.mpr positive)

/-- With ten dollars of credit a `start` tenant gets no job; spending eight of them admits it. -/
theorem capBoundsSpending_admits_after_debit
    : ¬ CapBoundsSpending asciiLower shippedPlans ⟨true, true, [entryOf "acme" .credit 10]⟩ "acme"
      (some "start") 1 (entryOf "acme" .debit 8) [] [] := by
  intro bounds
  have positive : 0 < startConfig.spendCapUsd := by decide +kernel
  have admits := checkSpendCap_eq_ok_iff planConfig_start positive
  refine bounds.debit rfl rfl ?_ ?_
  · intro admitted
    exact absurd ((admits _ _ _).mp admitted).2 (by decide +kernel)
  · exact (admits _ _ _).mpr ⟨⟨rfl, rfl⟩, by decide +kernel⟩

section Preview

variable {writable : SpendPreview → Bool} {config : PlanConfig} {ledger : LedgerView}
  {tenantId : String} {plan : Option String} {cost : PyFloat}

def IsNumber : PyFloat → Prop
  | .finite _ => True
  | _ => False

def PreviewAllows (writable : SpendPreview → Bool) (config : Except PlanSourceError PlanConfig)
    (ledger : LedgerView) (tenantId : String) (plan : Option String) (cost : PyFloat)
    : Prop :=
  ∃ preview, getSpendCap writable config ledger tenantId plan cost = .ok preview
    ∧ preview.allowed = true

/-- The admission lets the cost through. -/
def Admits (config : Except PlanSourceError PlanConfig) (ledger : LedgerView) (tenantId : String)
    (cost : PyFloat)
    : Prop :=
  admitSpend config ledger tenantId cost = .ok ()

/-- Where the two comparisons come to the same: a cost that is a number is not held against a cap of
zero, and a cost that is none not against a cap that is absent or can be read; and a balance that
can be read but is not kept leaves no room.
-/
structure SameAnswer (cap : ℚ) (ledger : LedgerView) (tenantId : String) (cost : PyFloat)
    : Prop where
  zero : cap = 0 → ¬IsNumber cost
  unlimited : cap < 0 → IsNumber cost
  readable : 0 < cap → ledger.isPersistent = true → ledger.reachable = true →
    IsNumber cost ∨ cost = .inf false
  volatile : 0 < cap → ledger.isPersistent = false → ledger.reachable = true →
    ∀ value, cost = .finite value → cap < balanceOf tenantId ledger.entries + value

-- The admission of the earlier caps

/-- The refusal of a cost that is a number, as `_check_spend_cap` gives it. -/
def SpendDenial.ofRefusal : SpendRefusal → SpendDenial
  | .gateUnavailable error => .gateUnavailable error
  | .zeroCap => .zeroCap
  | .nonPersistent => .nonPersistent
  | .balanceUnavailable => .balanceUnavailable
  | .capExceeded balance cap estimatedCost => .capExceeded balance cap (.finite estimatedCost)

theorem admitSpend_eq_checkSpendCap (lower : String → String) (file : PlansFile)
    (ledger : LedgerView) (tenantId : String) (plan : Option String) (cost : ℚ)
    : admitSpend (planConfig lower file plan) ledger tenantId (.finite cost)
      = (checkSpendCap lower file ledger tenantId cost plan).mapError SpendDenial.ofRefusal := by
  unfold admitSpend checkSpendCap
  cases planConfig lower file plan with
  | error error => rfl
  | ok config =>
      simp only [projectedSpend, isAbove, decide_eq_true_eq]
      split
      · rfl
      · split
        · rfl
        · split
          · rfl
          · cases getTenantBalance ledger tenantId with
            | none => rfl
            | some balance =>
                by_cases above : config.spendCapUsd < balance + cost
                · simp [above, Except.mapError, SpendDenial.ofRefusal]
                · simp [above, Except.mapError]

-- One configuration

theorem previewAllows_iff {given : Except PlanSourceError PlanConfig}
    : PreviewAllows writable given ledger tenantId plan cost
      ↔ ∃ preview, checkSpendCapEndpoint given ledger tenantId plan cost = .ok preview
        ∧ writable preview = true ∧ preview.allowed = true := by
  unfold PreviewAllows getSpendCap
  cases checkSpendCapEndpoint given ledger tenantId plan cost with
  | error failure => simp
  | ok preview =>
      by_cases written : writable preview = true
      · simp [written]
      · simp [written]

theorem previewAllows_of_nonpositive (cap : config.spendCapUsd ≤ 0)
    (writes : ∀ preview, writable preview = true ↔ IsNumber preview.estimatedCost)
    : PreviewAllows writable (.ok config) ledger tenantId plan cost ↔ IsNumber cost := by
  rw [previewAllows_iff]
  simp only [checkSpendCapEndpoint, if_pos cap, Except.ok.injEq, exists_eq_left', writes, and_true]

theorem previewAllows_of_positive (cap : 0 < config.spendCapUsd)
    (writes : ∀ preview, writable preview = true ↔ IsNumber preview.estimatedCost)
    : PreviewAllows writable (.ok config) ledger tenantId plan cost
      ↔ ledger.reachable = true ∧ ∃ value, cost = .finite value
        ∧ balanceOf tenantId ledger.entries + value ≤ config.spendCapUsd := by
  have positive : ¬config.spendCapUsd ≤ 0 := not_le.mpr cap
  rw [previewAllows_iff]
  unfold checkSpendCapEndpoint getTenantBalance
  simp only [if_neg positive]
  by_cases reachable : ledger.reachable = true
  · simp only [reachable, if_true, Except.ok.injEq, exists_eq_left', writes, true_and]
    cases cost with
    | finite value => simp [IsNumber, projectedSpend, isWithin]
    | nan => simp [IsNumber]
    | inf negative => simp [IsNumber]
  · simp [reachable]

theorem not_admits_of_zero (cap : config.spendCapUsd = 0)
    : ¬Admits (.ok config) ledger tenantId cost := by
  unfold Admits admitSpend
  simp [cap]

theorem admits_of_negative (cap : config.spendCapUsd < 0)
    : Admits (.ok config) ledger tenantId cost := by
  unfold Admits admitSpend
  simp [cap]

theorem admits_of_positive (cap : 0 < config.spendCapUsd)
    : Admits (.ok config) ledger tenantId cost
      ↔ ledger.isPersistent = true ∧ ledger.reachable = true
        ∧ isAbove config.spendCapUsd
            (projectedSpend (balanceOf tenantId ledger.entries) cost) = false := by
  have limited : ¬config.spendCapUsd < 0 := not_lt.mpr cap.le
  unfold Admits admitSpend getTenantBalance
  simp only [if_neg limited, if_neg cap.ne']
  by_cases persistent : ledger.isPersistent = true
  · by_cases reachable : ledger.reachable = true
    · simp [persistent, reachable]
    · simp [persistent, reachable]
  · simp [persistent]

theorem sameAnswer_of_positive (cap : 0 < config.spendCapUsd)
    (writes : ∀ preview, writable preview = true ↔ IsNumber preview.estimatedCost)
    : (PreviewAllows writable (.ok config) ledger tenantId plan cost
        ↔ Admits (.ok config) ledger tenantId cost)
      ↔ SameAnswer config.spendCapUsd ledger tenantId cost := by
  have split : SameAnswer config.spendCapUsd ledger tenantId cost
      ↔ (ledger.isPersistent = true → ledger.reachable = true →
          IsNumber cost ∨ cost = .inf false)
        ∧ (ledger.isPersistent = false → ledger.reachable = true →
          ∀ value, cost = .finite value →
            config.spendCapUsd < balanceOf tenantId ledger.entries + value) := by
    constructor
    · intro same
      exact ⟨same.readable cap, same.volatile cap⟩
    · intro ⟨readable, volatile⟩
      exact ⟨fun zero => absurd zero cap.ne', fun negative => absurd negative (not_lt.mpr cap.le),
        fun _ => readable, fun _ => volatile⟩
  rw [previewAllows_of_positive cap writes, admits_of_positive cap, split]
  cases reachable : ledger.reachable with
  | false => simp
  | true =>
      cases persistent : ledger.isPersistent with
      | false =>
          cases cost with
          | finite value => simp
          | nan => simp
          | inf negative => simp
      | true =>
          cases cost with
          | finite value => simp [IsNumber, projectedSpend, isAbove]
          | nan => simp [IsNumber, projectedSpend, isAbove]
          | inf negative => cases negative <;> simp [IsNumber, projectedSpend, isAbove]

end Preview

/-- Where a body is written exactly when its cost is a number, the preview agrees with the admission
exactly under the conditions of `SameAnswer`, and always when the plan is refused.
-/
theorem preview_agrees_iff (writable : SpendPreview → Bool)
    (writes : ∀ preview, writable preview = true ↔ IsNumber preview.estimatedCost)
    (given : Except PlanSourceError PlanConfig) (ledger : LedgerView) (tenantId : String)
    (plan : Option String) (cost : PyFloat)
    : (PreviewAllows writable given ledger tenantId plan cost ↔ Admits given ledger tenantId cost)
      ↔ ∀ config, given = .ok config → SameAnswer config.spendCapUsd ledger tenantId cost := by
  cases given with
  | error error =>
      have unanswered : ¬PreviewAllows writable (.error error) ledger tenantId plan cost := by
        intro ⟨_, answered, _⟩
        cases answered
      have refused : ¬Admits (.error error) ledger tenantId cost := by
        intro admitted
        cases admitted
      exact iff_of_true (iff_of_false unanswered refused) (fun _ impossible => by cases impossible)
  | ok config =>
      have only : (∀ other, (Except.ok config : Except PlanSourceError PlanConfig) = .ok other →
          SameAnswer other.spendCapUsd ledger tenantId cost)
          ↔ SameAnswer config.spendCapUsd ledger tenantId cost :=
        ⟨fun every => every config rfl, fun same other equal => by cases equal; exact same⟩
      rw [only]
      obtain negative | zero | positive := lt_trichotomy config.spendCapUsd 0
      · rw [previewAllows_of_nonpositive negative.le writes,
          iff_true_right (admits_of_negative negative)]
        exact ⟨fun number => ⟨fun zero => absurd zero negative.ne, fun _ => number,
          fun limited => absurd limited (not_lt.mpr negative.le),
          fun limited => absurd limited (not_lt.mpr negative.le)⟩, fun same => same.unlimited negative⟩
      · rw [previewAllows_of_nonpositive zero.le writes, iff_false_right (not_admits_of_zero zero)]
        exact ⟨fun none_ => ⟨fun _ => none_, fun limited => absurd zero limited.ne,
          fun limited => absurd zero limited.ne', fun limited => absurd zero limited.ne'⟩,
          fun same => same.zero zero⟩
      · exact sameAnswer_of_positive positive writes

/-- JSON has texts for numbers only. -/
def jsonWritable (preview : SpendPreview) : Bool :=
  match preview.estimatedCost with
  | .finite _ => true
  | _ => false

theorem jsonWritable_iff (preview : SpendPreview)
    : jsonWritable preview = true ↔ IsNumber preview.estimatedCost := by
  unfold jsonWritable
  cases preview.estimatedCost with
  | finite value => simp [IsNumber]
  | nan => simp [IsNumber]
  | inf negative => simp [IsNumber]

def emptyLedger : LedgerView := ⟨true, true, []⟩

def cappedConfig : PlanConfig := ⟨1000, 3600, 3600000, 1000, 50, 3 / 1000000⟩

/-- Under a cap of 50 and a readable balance the preview agrees on a cost of 1. -/
theorem preview_agrees_capped
    : PreviewAllows jsonWritable (.ok cappedConfig) emptyLedger "tenant" (some "pro") (.finite 1)
      ↔ Admits (.ok cappedConfig) emptyLedger "tenant" (.finite 1) := by
  refine (preview_agrees_iff jsonWritable jsonWritable_iff (.ok cappedConfig) emptyLedger "tenant"
    (some "pro") (.finite 1)).mpr ?_
  intro config same
  obtain rfl := Except.ok.inj same
  exact ⟨fun zero => absurd zero (by norm_num [cappedConfig]), fun _ => trivial,
    fun _ _ _ => .inl trivial, fun _ volatile => by cases volatile⟩

def unpricedPlans : PlansFile := .json (.dict [("team", tierObject 10 60)])

theorem unpriced_cap
    : planConfig id unpricedPlans (some "team") = .ok ⟨10, 60, 600, 0, 0, 0⟩ := by
  rfl

/-- The preview allows a cost of 1 under a cap of zero, which is not admitted. -/
theorem zero_cap_previewed
    : ¬(PreviewAllows jsonWritable (planConfig id unpricedPlans (some "team")) emptyLedger "tenant"
          (some "team") (.finite 1)
        ↔ Admits (planConfig id unpricedPlans (some "team")) emptyLedger "tenant" (.finite 1)) := by
  rw [unpriced_cap]
  intro agrees
  have allowed : PreviewAllows jsonWritable (.ok ⟨10, 60, 600, 0, 0, 0⟩) emptyLedger "tenant"
      (some "team") (.finite 1) :=
    (previewAllows_of_nonpositive le_rfl jsonWritable_iff).mpr trivial
  exact not_admits_of_zero rfl (agrees.mp allowed)

end RomaBridge.Properties
