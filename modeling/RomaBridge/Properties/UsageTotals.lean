import RomaBridge.Model.Metering
import RomaBridge.Properties.RetriedJob

/-! The totals and the monthly summaries of a tenant beside its usage events. The totals of the cost are
the fold of the events; those of the GPU seconds count another event type than the one that GPU
executions are billed under. A summary counts the first instant of the next month. The counters of
`ledger_consumption` count events and sum their values, whatever the events measure.
-/

namespace RomaBridge.Properties

open RomaBridge.Foundation RomaBridge.Model RomaBridge.Model.Plans

/-- A column of a tenant's row of `tenant_usage_totals`, zero where it has none. -/
def totalOf (column : TotalsRow → ℚ) (tenantId : String) (db : Db) : ℚ :=
  ((db.totals.find? tenantId).map column).getD 0

/-- `SUM(cost_usd)` of a tenant's events. -/
def eventCost (tenantId : String) (usage : List UsageRow) : ℚ :=
  ((usageOf tenantId usage).map UsageRow.costUsd).sum

def executionSeconds (row : UsageRow) : ℚ :=
  if row.eventType = .gpuExecution then row.value else 0

/-- `SUM(value)` of a tenant's GPU executions. -/
def eventSeconds (tenantId : String) (usage : List UsageRow) : ℚ :=
  (((usageOf tenantId usage).filter (fun row => row.eventType = .gpuExecution)).map
    UsageRow.value).sum

/-- The totals of every tenant are the fold of its events. -/
structure TotalsFold (db : Db) : Prop where
  cost : ∀ tenantId, totalOf TotalsRow.totalCost tenantId db = eventCost tenantId db.usage
  gpu : ∀ tenantId, totalOf TotalsRow.gpuSeconds tenantId db = eventSeconds tenantId db.usage

-- One transaction

theorem totalOf_addTotals {column : TotalsRow → ℚ} {db : Db} {row : TotalsRow}
    {usage : List UsageRow}
    (adds : ∀ stored : TotalsRow,
      column { stored with
        gpuSeconds := stored.gpuSeconds + row.gpuSeconds
        cpuSeconds := stored.cpuSeconds + row.cpuSeconds
        gbSeconds := stored.gbSeconds + row.gbSeconds
        totalCost := stored.totalCost + row.totalCost } = column stored + column row)
    (tenantId : String)
    : totalOf column tenantId { db with usage, totals := Db.addTotals db.totals row }
      = totalOf column tenantId db + if row.tenantId = tenantId then column row else 0 := by
  unfold totalOf Db.addTotals
  cases inserted : db.totals.insert? row with
  | some next =>
      obtain ⟨-, absent⟩ := Table.insert?_eq_some inserted
      rw [Table.find?_of_insert? inserted]
      by_cases own : row.tenantId = tenantId
      · subst own
        simp [absent]
      · simp [own]
  | none =>
      have stored := Table.insert?_eq_none.mp inserted
      rw [Table.find?_update]
      cases found : db.totals.find? tenantId with
      | none =>
          have other : row.tenantId ≠ tenantId := by
            rintro rfl
            rw [found] at stored
            cases stored
          simp [other]
      | some old =>
          have named : old.tenantId = tenantId := (Table.find?_some found).2
          by_cases own : row.tenantId = tenantId
          · simpa [named, own] using adds old
          · have other : tenantId ≠ row.tenantId := fun same => own same.symm
            simp [named, own, other]

theorem apply_totals (db : Db) (query : Query)
    : ((db.apply query).2.usage = db.usage ∧ (db.apply query).2.totals = db.totals)
      ∨ ∃ row gpuSeconds cpuSeconds gbSeconds,
          query = .usageInsert row gpuSeconds cpuSeconds gbSeconds
          ∧ db.usageConflict row = false
          ∧ (db.apply query).2 = (db.usageInsert row gpuSeconds cpuSeconds gbSeconds).2 := by
  have effect := db.apply_effect query
  generalize applied : (db.apply query).2 = next at effect ⊢
  cases effect with
  | none => exact .inl ⟨rfl, rfl⟩
  | ledger => exact .inl ⟨rfl, rfl⟩
  | usage fresh => exact .inr ⟨_, _, _, _, rfl, fresh, applied.symm⟩
  | jobs => exact .inl ⟨rfl, rfl⟩
  | submitKeys => exact .inl ⟨rfl, rfl⟩
  | clock => exact .inl ⟨rfl, rfl⟩

def countedSeconds (row : UsageRow) (gpuSeconds : ℚ) : ℚ :=
  if row.eventType = .gpuUsage then gpuSeconds else 0

theorem cost_usageInsert {db : Db} {row : UsageRow} {gpuSeconds cpuSeconds gbSeconds : ℚ}
    (fresh : db.usageConflict row = false) (tenantId : String)
    : let next := (db.usageInsert row gpuSeconds cpuSeconds gbSeconds).2
      totalOf TotalsRow.totalCost tenantId next
          = totalOf TotalsRow.totalCost tenantId db
            + (if row.tenantId = tenantId then row.costUsd else 0)
        ∧ eventCost tenantId next.usage
          = eventCost tenantId db.usage + (if row.tenantId = tenantId then row.costUsd else 0) := by
  simp only [Db.usageInsert, fresh, Bool.false_eq_true, if_false]
  constructor
  · exact totalOf_addTotals (fun _ => rfl) tenantId
  · by_cases own : row.tenantId = tenantId
    · simp [eventCost, usageOf, own]
    · simp [eventCost, usageOf, own]

theorem gpu_usageInsert {db : Db} {row : UsageRow} {gpuSeconds cpuSeconds gbSeconds : ℚ}
    (fresh : db.usageConflict row = false) (tenantId : String)
    : let next := (db.usageInsert row gpuSeconds cpuSeconds gbSeconds).2
      totalOf TotalsRow.gpuSeconds tenantId next
          = totalOf TotalsRow.gpuSeconds tenantId db
            + (if row.tenantId = tenantId then countedSeconds row gpuSeconds else 0)
        ∧ eventSeconds tenantId next.usage
          = eventSeconds tenantId db.usage
            + (if row.tenantId = tenantId then executionSeconds row else 0) := by
  simp only [Db.usageInsert, fresh, Bool.false_eq_true, if_false]
  constructor
  · exact totalOf_addTotals (fun _ => rfl) tenantId
  · by_cases own : row.tenantId = tenantId
    · by_cases gpu : row.eventType = .gpuExecution
      · simp [eventSeconds, usageOf, own, gpu, executionSeconds]
      · simp [eventSeconds, usageOf, own, gpu, executionSeconds]
    · simp [eventSeconds, usageOf, own]

/-- A transaction that stores a GPU execution of some length, or GPU usage of some length: the first is
not counted, and the second is no execution.
-/
def Miscounted (db : Db) : Query → Prop
  | .usageInsert row gpuSeconds _ _ =>
      db.usageConflict row = false
      ∧ (row.eventType = .gpuExecution ∧ row.value ≠ 0
        ∨ row.eventType = .gpuUsage ∧ gpuSeconds ≠ 0)
  | _ => False

instance (db : Db) (query : Query) : Decidable (Miscounted db query) := by
  unfold Miscounted
  split <;> infer_instance

theorem countedSeconds_ne_iff (row : UsageRow) (gpuSeconds : ℚ)
    : countedSeconds row gpuSeconds ≠ executionSeconds row
      ↔ row.eventType = .gpuExecution ∧ row.value ≠ 0
        ∨ row.eventType = .gpuUsage ∧ gpuSeconds ≠ 0 := by
  unfold countedSeconds executionSeconds
  cases type : row.eventType with
  | gpuExecution => simp [eq_comm]
  | gpuUsage => simp
  | cpuExecution | tokenUsage | cpuUsage | storageUsage | pluginExec => simp

theorem cost_apply {db : Db} (query : Query) {tenantId : String}
    (cost : totalOf TotalsRow.totalCost tenantId db = eventCost tenantId db.usage)
    : totalOf TotalsRow.totalCost tenantId (db.apply query).2
      = eventCost tenantId (db.apply query).2.usage := by
  rcases apply_totals db query with ⟨usage, totals⟩ | ⟨row, gpu, cpu, gb, rfl, fresh, applied⟩
  · rw [usage, ← cost, totalOf, totals]
    rfl
  · obtain ⟨total, events⟩ := @cost_usageInsert db row gpu cpu gb fresh tenantId
    rw [applied, total, events, cost]

theorem Miscounted.stores {db : Db} {query : Query} (miscounted : Miscounted db query)
    : (db.apply query).2.usage ≠ db.usage := by
  unfold Miscounted at miscounted
  split at miscounted
  · simp [Db.apply, Db.usageInsert, miscounted.1]
  · exact miscounted.elim

theorem TotalsFold.apply_iff {db : Db} (fold : TotalsFold db) (query : Query)
    : TotalsFold (db.apply query).2 ↔ ¬ Miscounted db query := by
  rcases apply_totals db query with ⟨usage, totals⟩ | ⟨row, gpu, cpu, gb, rfl, fresh, applied⟩
  · have kept : TotalsFold (db.apply query).2 := by
      refine ⟨fun tenantId => cost_apply query (fold.cost tenantId), fun tenantId => ?_⟩
      rw [usage, ← fold.gpu tenantId, totalOf, totals]
      rfl
    exact iff_of_true kept (fun miscounted => miscounted.stores usage)
  · have counted : (∀ tenantId,
        totalOf TotalsRow.gpuSeconds tenantId (db.usageInsert row gpu cpu gb).2
          = eventSeconds tenantId (db.usageInsert row gpu cpu gb).2.usage)
        ↔ countedSeconds row gpu = executionSeconds row := by
      constructor
      · intro gpuFold
        obtain ⟨total, events⟩ := @gpu_usageInsert db row gpu cpu gb fresh row.tenantId
        have same := gpuFold row.tenantId
        rw [total, events, fold.gpu, if_pos rfl, if_pos rfl] at same
        exact add_left_cancel same
      · intro same tenantId
        obtain ⟨total, events⟩ := @gpu_usageInsert db row gpu cpu gb fresh tenantId
        rw [total, events, fold.gpu, same]
    have miscounted : Miscounted db (.usageInsert row gpu cpu gb)
        ↔ countedSeconds row gpu ≠ executionSeconds row := by
      rw [countedSeconds_ne_iff]
      exact and_iff_right fresh
    rw [miscounted, not_not, ← counted, applied]
    refine ⟨TotalsFold.gpu, fun gpuFold => ⟨fun tenantId => ?_, gpuFold⟩⟩
    rw [← applied]
    exact cost_apply _ (fold.cost tenantId)

-- Interleaved calls

def Counts (config : Config bridge Db MeteringTask Unit) (label : Label MeteringTask) : Prop :=
  config.Permits (fun db _ (call : Call) fault => ¬ (fault.takesEffect ∧ Miscounted db call.query)) label

instance (config : Config bridge Db MeteringTask Unit) (label : Label MeteringTask)
    : Decidable (Counts config label) := by
  unfold Counts
  infer_instance

theorem TotalsFold.exec_iff {db : Db} (fold : TotalsFold db) (call : Call) (fault : Fault)
    : TotalsFold (metering.exec call fault db).2
      ↔ ¬ (fault.takesEffect ∧ Miscounted db call.query) := by
  cases fault with
  | none => simpa [Fault.takesEffect, Machine.exec] using fold.apply_iff call.query
  | before reason => simpa [Fault.takesEffect, Machine.exec] using fold
  | after reason => simpa [Fault.takesEffect, Machine.exec] using fold.apply_iff call.query

theorem TotalsFold.step_iff {config : Config bridge Db MeteringTask Unit}
    (fold : TotalsFold config.store) (label : Label MeteringTask)
    : TotalsFold (meteringStep config label).2.store ↔ Counts config label := by
  unfold meteringStep Counts Config.Permits
  cases stepped : metering.step config label with
  | none =>
      rw [metering.executing_of_step_none stepped]
      exact iff_of_true fold trivial
  | some next =>
      rcases metering.step_store stepped with ⟨idle, same⟩ | ⟨thread, -, call, -, fault, -, runs, store⟩
      · rw [idle, Option.getD_some, same]
        exact iff_of_true fold trivial
      · rw [runs, Option.getD_some, store]
        exact fold.exec_iff call fault

/-- The totals of all tenants are the fold of their events in every committed state of every
interleaving of calls, with failures at any request, exactly if no request miscounts.
-/
theorem usage_totals_fold_iff {db : Db} (fold : TotalsFold db) (labels : List (Label MeteringTask))
    : (∀ visit ∈ visits meteringStep { store := db, threads := [] } labels,
        TotalsFold visit.after.store)
      ↔ ∀ visit ∈ visits meteringStep { store := db, threads := [] } labels,
          Counts visit.before visit.call := by
  have exact_ : ∀ config label, TotalsFold config.store → True →
      (TotalsFold (meteringStep config label).2.store ↔ Counts config label) :=
    fun config label fold _ => fold.step_iff label
  have kept : ∀ config label, TotalsFold config.store → True → Counts config label →
      TotalsFold (meteringStep config label).2.store :=
    fun config label fold _ counts => (fold.step_iff label).mpr counts
  exact @throughout_iff _ _ _ meteringStep (fun config => TotalsFold config.store)
    (fun _ _ => True) Counts (fun visit => TotalsFold visit.after.store) exact_ kept
    { store := db, threads := [] } labels fold (fun _ _ => trivial)

def creditedLedger : Db := (Db.empty.insertEntry (creditEntry (.fresh "a") "acme" 1 "USD" {})).2

/-- A job of `acme` is billed for a hundred seconds on a backend: arrival, debit, event. -/
def billingLabels (backend : Option String) : List (Label MeteringTask) :=
  [.arrive (.incrementUsage "acme" 100 0 0 "free" jobA backend),
    .exec 0 .none, .exec 0 .none]

theorem TotalsFold.credited : TotalsFold creditedLedger := ⟨fun _ => rfl, fun _ => rfl⟩

/-- A job on a local backend. -/
theorem usage_totals_fold_local
    : (billingLabels none).length = 3
      ∧ ∀ visit ∈ visits meteringStep { store := creditedLedger, threads := [] }
          (billingLabels none), TotalsFold visit.after.store := by
  refine ⟨rfl, (usage_totals_fold_iff TotalsFold.credited (billingLabels none)).mpr ?_⟩
  decide +kernel

/-- A job on a rented GPU is missing from the totals. -/
theorem gpu_execution_not_in_totals
    : ¬ ∀ visit ∈ visits meteringStep { store := creditedLedger, threads := [] }
          (billingLabels (some "vastai")), TotalsFold visit.after.store := by
  intro folds
  have final := folds _ (List.mem_cons_of_mem _ (List.mem_cons_of_mem _ List.mem_cons_self))
  exact absurd (final.gpu "acme") (by decide +kernel)

section MonthlyUsage

open RomaBridge.Model.UsageAggregator

variable {time : LocalTime} {log : List BillingEvent} {tenantId : String}

end MonthlyUsage

variable {call : BillingCall} {meter : Meter}

-- What a call adds

def billedOf (tenantId : String) (meter : Meter) : List BilledJob :=
  meter.billed.rows.filter (fun job => job.tenantId = tenantId)

def newEvents (meter : Meter) (call : BillingCall) : List UsageRow :=
  ((call.events.take call.written).map Prod.fst).filter (fun row => !meter.db.usageConflict row)

theorem usage_recordEvent (db : Db) (event : UsageRow × ℚ)
    : (recordEvent db event).usage
      = db.usage ++ (if db.usageConflict event.1 then [] else [event.1]) := by
  unfold recordEvent Db.usageInsert
  split
  · simp
  · rfl

theorem recordEvent_of_conflict {db : Db} {event : UsageRow × ℚ}
    (conflict : db.usageConflict event.1 = true)
    : recordEvent db event = db := by
  unfold recordEvent Db.usageInsert
  rw [if_pos conflict]

theorem foldl_recordEvent_of_conflict {db : Db} {events : List (UsageRow × ℚ)}
    (conflict : ∀ event ∈ events, db.usageConflict event.1 = true)
    : events.foldl recordEvent db = db := by
  induction events with
  | nil => rfl
  | cons event rest ih =>
      rw [List.foldl_cons, recordEvent_of_conflict (conflict event List.mem_cons_self)]
      exact ih (fun other member => conflict other (List.mem_cons_of_mem _ member))

/-- Events of different types are in nobody's way but the stored ones'. Induction on the events. -/
theorem usage_foldl_recordEvent (events : List (UsageRow × ℚ)) (db : Db)
    (distinct : events.Pairwise (fun left right => left.1.eventType ≠ right.1.eventType))
    : (events.foldl recordEvent db).usage
      = db.usage ++ (events.map Prod.fst).filter (fun row => !db.usageConflict row) := by
  induction events generalizing db with
  | nil => simp
  | cons event rest ih =>
      obtain ⟨others, later⟩ := List.pairwise_cons.mp distinct
      have same : ∀ row ∈ rest.map Prod.fst,
          (!(recordEvent db event).usageConflict row) = !db.usageConflict row := by
        intro row member
        obtain ⟨other, there, rfl⟩ := List.mem_map.mp member
        unfold Db.usageConflict
        rw [usage_recordEvent, List.any_append]
        split
        · simp
        · simp [others other there]
      rw [List.foldl_cons, ih _ later, usage_recordEvent, List.append_assoc, List.map_cons,
        List.filter_cons, List.filter_congr same]
      cases db.usageConflict event.1 with
      | true => simp
      | false => simp

theorem events_pairwise (call : BillingCall)
    : call.events.Pairwise (fun left right => left.1.eventType ≠ right.1.eventType) := by
  have run : eventTypeOf call.backend ≠ .tokenUsage := by
    unfold eventTypeOf
    split
    · decide
    · decide
  unfold BillingCall.events
  split
  · split
    · simpa using run
    · simp
  · split
    · simp
    · simp

theorem mem_events {event : UsageRow × ℚ} (member : event ∈ call.events)
    : event.1.tenantId = call.tenantId ∧ event.1.jobId = call.jobId.text := by
  unfold BillingCall.events at member
  rcases List.mem_append.mp member with run | tokens
  · split at run
    · rw [List.mem_singleton.mp run]
      exact ⟨rfl, rfl⟩
    · cases run
  · split at tokens
    · rw [List.mem_singleton.mp tokens]
      exact ⟨rfl, rfl⟩
    · cases tokens

theorem usage_bill (bills : call.bills = true)
    : (bill meter call).2.db.usage = meter.db.usage ++ newEvents meter call := by
  unfold bill
  rw [if_pos bills]
  exact usage_foldl_recordEvent _ _ ((events_pairwise call).sublist (List.take_sublist _ _))

theorem usageOf_bill (bills : call.bills = true) (tenantId : String)
    : usageOf tenantId (bill meter call).2.db.usage
      = usageOf tenantId meter.db.usage
        ++ (if call.tenantId = tenantId then newEvents meter call else []) := by
  have own : ∀ row ∈ newEvents meter call, row.tenantId = call.tenantId := by
    intro row member
    obtain ⟨event, taken, rfl⟩ := List.mem_map.mp (List.mem_filter.mp member).1
    exact (mem_events (List.mem_of_mem_take taken)).1
  unfold usageOf
  rw [usage_bill bills, List.filter_append]
  congr 1
  split
  · rename_i same
    refine List.filter_eq_self.mpr ?_
    intro row member
    simp [own row member, same]
  · rename_i other
    refine List.filter_eq_nil_iff.mpr ?_
    intro row member
    simp [own row member, other]

theorem billedOf_bill (bills : call.bills = true) (tenantId : String)
    : billedOf tenantId (bill meter call).2
      = billedOf tenantId meter
        ++ (if call.tenantId = tenantId ∧ meter.hasBilled call = false then [call.job] else []) := by
  unfold billedOf bill Meter.hasBilled
  rw [if_pos bills]
  cases inserted : meter.billed.insert? call.job with
  | none =>
      have stored := Table.insert?_eq_none.mp inserted
      have taken : (meter.billed.find? (call.tenantId, call.jobId)).isSome = true := stored
      simp [taken]
  | some next =>
      obtain ⟨rows, absent⟩ := Table.insert?_eq_some inserted
      have fresh : meter.billed.find? (call.tenantId, call.jobId) = none := absent
      simp only [Option.getD_some, rows, List.filter_append, fresh, Option.isSome_none, and_true]
      congr 1
      by_cases same : call.tenantId = tenantId
      · simp [same, BillingCall.job]
      · simp [same, BillingCall.job]

-- The counters over a sequence of calls

/-- The sum of the `value` column. -/
def valueOf (rows : List UsageRow) : ℚ := (rows.map UsageRow.value).sum

def gpuSecondsOf (jobs : List BilledJob) : ℚ := (jobs.map BilledJob.gpuSeconds).sum

def Counted (db : Db) (call : BillingCall) : Prop :=
  ∃ row ∈ db.usage, row.tenantId = call.tenantId ∧ row.jobId = call.jobId.text

/-- The counters of every tenant are the number of its billed jobs and their whole GPU seconds. -/
structure CountersExact (meter : Meter) : Prop where
  jobs : ∀ tenantId,
    (ledgerConsumption meter.db.usage tenantId).jobsUsed = (billedOf tenantId meter).length
  seconds : ∀ tenantId,
    (ledgerConsumption meter.db.usage tenantId).gpuSecondsUsed
      = truncated (gpuSecondsOf (billedOf tenantId meter))

def LeavesCounters (meter : Meter) (call : BillingCall) : Prop :=
  call.bills = true → ∀ stored event rest, call.events.take call.written = stored ++ event :: rest →
    event.1.eventType ≠ .gpuExecution → Counted (stored.foldl recordEvent meter.db) call →
    ledgerConsumption (recordEvent (stored.foldl recordEvent meter.db) event).usage call.tenantId
      = ledgerConsumption (stored.foldl recordEvent meter.db).usage call.tenantId

/-- A call stores one event for a new job and none for a billed one, and what it stores besides GPU
seconds completes no whole second.
-/
structure OneEvent (meter : Meter) (call : BillingCall) : Prop where
  events : (newEvents meter call).length = if meter.hasBilled call then 0 else 1
  seconds :
    truncated (valueOf (usageOf call.tenantId meter.db.usage) + valueOf (newEvents meter call))
      = truncated (gpuSecondsOf (billedOf call.tenantId meter)
        + if meter.hasBilled call then 0 else call.gpuSeconds)

/-- Every stored event is of a billed job, and the counters are exact. -/
structure CountsBilled (meter : Meter) : Prop where
  exact_ : CountersExact meter
  recorded : ∀ row ∈ meter.db.usage, ∃ job ∈ meter.billed.rows,
    job.tenantId = row.tenantId ∧ job.jobId.text = row.jobId

theorem not_counted (good : CountsBilled meter) (fresh : meter.hasBilled call = false)
    : ¬ Counted meter.db call := by
  intro ⟨row, member, tenant, job⟩
  obtain ⟨billed, stored, sameTenant, sameJob⟩ := good.recorded row member
  have absent : meter.billed.find? (call.tenantId, call.jobId) = none := by
    simpa [Meter.hasBilled] using fresh
  refine Table.find?_none.mp absent billed stored ?_
  refine Prod.ext (sameTenant.trans tenant) ?_
  have text : billed.jobId.text = call.jobId.text := sameJob.trans job
  show billed.jobId = call.jobId
  cases found : billed.jobId
  cases wanted : call.jobId
  simp [found, wanted] at text
  simpa using text

theorem newEvents_of_not_counted (fresh : ¬ Counted meter.db call)
    : newEvents meter call = (call.events.take call.written).map Prod.fst := by
  refine List.filter_eq_self.mpr ?_
  intro row member
  obtain ⟨event, taken, rfl⟩ := List.mem_map.mp member
  obtain ⟨tenant, job⟩ := mem_events (List.mem_of_mem_take taken)
  have free : meter.db.usage.any (fun stored => stored.tenantId = event.1.tenantId
      && stored.jobId = event.1.jobId && stored.eventType = event.1.eventType) = false := by
    rw [List.any_eq_false]
    intro stored there same
    simp only [Bool.and_eq_true, decide_eq_true_eq] at same
    exact fresh ⟨stored, there, same.1.1.trans tenant, same.1.2.trans job⟩
  simp [Db.usageConflict, free]

theorem leavesCounters_of_oneEvent (good : CountsBilled meter) (one : OneEvent meter call)
    : LeavesCounters meter call := by
  intro _ stored event rest taken _ counted
  have events := one.events
  by_cases billed : meter.hasBilled call = true
  · rw [if_pos billed, List.length_eq_zero_iff] at events
    have conflict : ∀ event ∈ call.events.take call.written,
        meter.db.usageConflict event.1 = true := by
      intro event member
      have kept := List.filter_eq_nil_iff.mp events event.1 (List.mem_map_of_mem member)
      simpa using kept
    have unchanged : stored.foldl recordEvent meter.db = meter.db :=
      foldl_recordEvent_of_conflict (fun event member => conflict event (by simp [taken, member]))
    rw [unchanged, recordEvent_of_conflict (conflict event (by simp [taken]))]
  · have fresh := not_counted good (by simpa using billed)
    rw [if_neg billed, newEvents_of_not_counted fresh, List.length_map, taken] at events
    have first : stored = [] := by
      rw [← List.length_eq_zero_iff]
      simp at events
      omega
    rw [first] at counted
    exact absurd counted fresh

theorem countersExact_bill_iff (good : CountsBilled meter) (bills : call.bills = true)
    : CountersExact (bill meter call).2 ↔ OneEvent meter call := by
  have before := good.exact_
  constructor
  · intro after
    have jobs := after.jobs call.tenantId
    have seconds := after.seconds call.tenantId
    have jobsBefore := before.jobs call.tenantId
    simp only [ledgerConsumption, usageOf_bill bills, billedOf_bill bills, if_true, true_and,
      List.length_append, List.map_append, List.sum_append] at jobs seconds jobsBefore
    constructor
    · cases billed : meter.hasBilled call with
      | true =>
          simp only [billed, Bool.true_eq_false, if_false, List.length_nil] at jobs
          simp only [if_true]
          omega
      | false =>
          simp only [billed, if_true, List.length_singleton] at jobs
          simp only [Bool.false_eq_true, if_false]
          omega
    · cases billed : meter.hasBilled call with
      | true => simpa [billed, valueOf, gpuSecondsOf] using seconds
      | false => simpa [billed, valueOf, gpuSecondsOf, BillingCall.job] using seconds
  · intro one
    constructor
    · intro tenantId
      have jobsBefore := before.jobs tenantId
      have events := one.events
      simp only [ledgerConsumption, usageOf_bill bills, billedOf_bill bills,
        List.length_append] at jobsBefore ⊢
      by_cases own : call.tenantId = tenantId
      · cases billed : meter.hasBilled call with
        | true => simp [own, billed, jobsBefore] at events ⊢; exact events
        | false => simp [own, billed, jobsBefore] at events ⊢; exact events
      · simp [own, jobsBefore]
    · intro tenantId
      have secondsBefore := before.seconds tenantId
      have seconds := one.seconds
      simp only [ledgerConsumption, usageOf_bill bills, billedOf_bill bills,
        List.map_append, List.sum_append] at secondsBefore ⊢
      by_cases own : call.tenantId = tenantId
      · subst own
        cases billed : meter.hasBilled call with
        | true => simpa [billed, valueOf, gpuSecondsOf] using seconds
        | false => simpa [billed, valueOf, gpuSecondsOf, BillingCall.job] using seconds
      · simpa [own] using secondsBefore

theorem billed_bill (meter : Meter) (bills : call.bills = true)
    : (∀ job ∈ meter.billed.rows, job ∈ (bill meter call).2.billed.rows)
      ∧ ∃ job ∈ (bill meter call).2.billed.rows,
        job.tenantId = call.tenantId ∧ job.jobId = call.jobId := by
  unfold bill
  rw [if_pos bills]
  cases inserted : meter.billed.insert? call.job with
  | none =>
      have stored := Table.insert?_eq_none.mp inserted
      obtain ⟨job, found⟩ := Option.isSome_iff_exists.mp stored
      obtain ⟨member, same⟩ := Table.find?_some found
      exact ⟨fun _ there => there, job, member, congrArg Prod.fst same, congrArg Prod.snd same⟩
  | some next =>
      obtain ⟨rows, -⟩ := Table.insert?_eq_some inserted
      simp only [Option.getD_some, rows]
      refine ⟨fun _ there => List.mem_append_left _ there, call.job, ?_, rfl, rfl⟩
      exact List.mem_append_right _ List.mem_cons_self

theorem recorded_bill (good : CountsBilled meter) (bills : call.bills = true)
    : ∀ row ∈ (bill meter call).2.db.usage, ∃ job ∈ (bill meter call).2.billed.rows,
        job.tenantId = row.tenantId ∧ job.jobId.text = row.jobId := by
  obtain ⟨kept, own, added, ownTenant, ownJob⟩ := billed_bill meter bills
  intro row member
  rw [usage_bill bills] at member
  rcases List.mem_append.mp member with old | new
  · obtain ⟨job, stored, same⟩ := good.recorded row old
    exact ⟨job, kept job stored, same⟩
  · obtain ⟨event, taken, rfl⟩ := List.mem_map.mp (List.mem_filter.mp new).1
    obtain ⟨tenant, job⟩ := mem_events (List.mem_of_mem_take taken)
    exact ⟨own, added, ownTenant.trans tenant.symm, (congrArg JobId.text ownJob).trans job.symm⟩

/-- What a call has to do for the counters to mean what the quota says: they are exact afterwards,
and only a GPU execution moves those of a counted job.
-/
structure CountersKept (before : Meter) (call : BillingCall) (after : Meter) : Prop where
  exact_ : CountersExact after
  leaves : LeavesCounters before call

def unbilled : Meter := ⟨.empty, .empty⟩

theorem countsBilled_unbilled : CountsBilled unbilled := by
  refine ⟨⟨?_, ?_⟩, ?_⟩
  · intro tenantId
    rfl
  · intro tenantId
    rfl
  · intro row member
    cases member

theorem countersKept_iff (good : CountsBilled meter) (call : BillingCall)
    : CountersKept meter call (bill meter call).2 ↔ (call.bills = true → OneEvent meter call) := by
  by_cases bills : call.bills = true
  · constructor
    · intro kept _
      exact (countersExact_bill_iff good bills).mp kept.exact_
    · intro one
      exact ⟨(countersExact_bill_iff good bills).mpr (one bills),
        leavesCounters_of_oneEvent good (one bills)⟩
  · have same : (bill meter call).2 = meter := by simp [bill, bills]
    rw [same]
    exact iff_of_true ⟨good.exact_, fun billed => absurd billed bills⟩
      (fun billed => absurd billed bills)

/-- Over any sequence of billing calls the counters mean what the quota says exactly when each call
that bills stores one event for a new job, none for a billed one, and no whole second but of a GPU.
-/
theorem usageCounters_iff (calls : List BillingCall)
    : (∀ visit ∈ visits bill unbilled calls,
        CountersKept visit.before visit.call visit.after)
      ↔ ∀ visit ∈ visits bill unbilled calls,
        visit.call.bills = true → OneEvent visit.before visit.call := by
  have exact_ : ∀ meter call, CountsBilled meter → True →
      (CountersKept meter call (bill meter call).2
        ↔ (call.bills = true → OneEvent meter call)) :=
    fun _ call good _ => countersKept_iff good call
  have preserved : ∀ meter call, CountsBilled meter → True →
      (call.bills = true → OneEvent meter call) → CountsBilled (bill meter call).2 := by
    intro meter call good _ allowed
    by_cases bills : call.bills = true
    · exact ⟨(countersExact_bill_iff good bills).mpr (allowed bills), recorded_bill good bills⟩
    · have same : (bill meter call).2 = meter := by simp [bill, bills]
      rw [same]
      exact good
  exact throughout_iff exact_ preserved countsBilled_unbilled (fun _ _ => trivial)

/-- A job of ten GPU seconds and five tokens on `vastai`. -/
def gpuAndTokens : BillingCall where
  tenantId := "acme"
  gpuSec := 10
  inputTokens := 5
  outputTokens := 0
  jobId := ⟨"a", by decide⟩
  backend := some "vastai"
  debited := true
  written := 2

/-- One job with tokens counts as two jobs and as fifteen GPU seconds. -/
theorem usageCounters_counts_twice
    : ¬ ∀ calls, ∀ visit ∈ visits bill unbilled calls,
        CountersKept visit.before visit.call visit.after := by
  intro kept
  have visited := kept [gpuAndTokens] _ List.mem_cons_self
  exact absurd (visited.exact_.jobs "acme") (by decide +kernel)

end RomaBridge.Properties
