import RomaBridge.Behaviour.WorkerRun

/-! A cancelled job is refunded at most once, and exactly what it was debited.
The amount of a refund travels through the `error` column, so the invariant is about the ledger
and about every marker at once: both name the amount of the stored DEBIT.
-/

namespace RomaBridge.Properties

open RomaBridge.Foundation RomaBridge.Model Program

variable {amount : ℚ} {tenantId' : String} {jobId' : JobId} {call : Call}

-- Markers

/-- The text is in the refund queue's `LIKE` pattern. -/
def isRefundMarker (text : String) : Bool :=
  likePrefix refundMarkerPrefix.toList text.toList

theorem parseRefundAmount_refundMarker (nonneg : 0 ≤ amount) (grid : OnGrid 8 amount)
    : parseRefundAmount (refundMarker amount) = some amount := by
  have text : (refundMarker amount).toList
      = refundMarkerPrefix.toList ++ (fixedText 8 amount).toList := by
    simp [refundMarker, String.toList_append]
  have front : refundMarkerPrefix.toList.isPrefixOf (refundMarker amount).toList = true := by
    rw [text, List.isPrefixOf_iff_prefix]
    exact List.prefix_append _ _
  rw [parseRefundAmount, if_pos front, text, List.drop_left,
    parseDecimal_fixedText nonneg (by decide), roundTo_of_onGrid grid]

theorem isRefundMarker_head {text : String} (other : text.toList.head? ≠ some 'r')
    : isRefundMarker text = false := by
  have pattern : refundMarkerPrefix.toList = 'r' :: refundMarkerPrefix.toList.tail := by decide
  rw [isRefundMarker, pattern]
  cases letters : text.toList with
  | nil => rfl
  | cons first rest =>
      rw [letters] at other
      rw [likePrefix]
      · simp [Ne.symm (fun same => other (congrArg some same))]
      · decide

theorem isRefundMarker_billingPendingError (billingStatus : BillingStatus)
    (execStatus : Option String)
    : isRefundMarker (billingPendingError billingStatus execStatus) = false := by
  unfold billingPendingError
  split
  · exact isRefundMarker_head (by simp [String.toList_append])
  · exact isRefundMarker_head (by simp [String.toList_append])

theorem isRefundMarker_finalError (status : String) (billingStatus : BillingStatus)
    : isRefundMarker (finalError status billingStatus) = false := by
  unfold finalError
  split
  · decide
  · split
    · decide
    · exact isRefundMarker_billingPendingError _ _

/-- The statements whose `error` text comes from a backend, a driver or an external worker. -/
def outsideTextSites : List Site :=
  [.workerDispatchFailed, .workerNotReady, .workerDispatchError, .ackWrite]

def forgesMarker (jobId : JobId) (call : Call) : Bool :=
  match call.query with
  | .updateExecutionJob update =>
      outsideTextSites.contains call.site
      && update.jobId = jobId
      && update.error.any isRefundMarker
  | _ => false

/-- No text from outside imitates a refund marker on the job. -/
def Genuine (jobId : JobId) : Config bridge Db Kind Answer → Label Kind → Prop :=
  Config.Permits (fun _ _ call _ => forgesMarker jobId call = false)

instance (jobId : JobId) (config : Config bridge Db Kind Answer) (label : Label Kind)
    : Decidable (Genuine jobId config label) :=
  inferInstanceAs (Decidable (Config.Permits _ config label))

-- The invariant

def DebitOf (tenantId : String) (jobId : JobId) (amount : ℚ) (db : Db) : Prop :=
  ∃ entry,
    db.ledger.find? (ledgerIdFor tenantId (jobKey jobId)) = some entry
    ∧ entry.entryType = .debit
    ∧ entry.amount = amount

/-- Refunds and markers of the job name the amount of its DEBIT, which is on the 8-decimal
grid.
-/
structure RefundsMatch (tenantId : String) (jobId : JobId) (db : Db) : Prop where
  credits
    : ∀ entry ∈ db.ledger.rows,
        entry.metadata.refundFor = some jobId.text
        → entry.tenantId = tenantId
        → entry.ledgerId = ledgerIdFor tenantId (refundKey jobId)
          ∧ entry.entryType = .credit
          ∧ DebitOf tenantId jobId entry.amount db
  marked
    : ∀ row text,
        db.job? jobId = some row
        → row.tenantId = tenantId
        → row.error = some text
        → isRefundMarker text = true
        → ∃ amount, parseRefundAmount text = some amount ∧ DebitOf tenantId jobId amount db
  grid
    : ∀ entry,
        db.ledger.find? (ledgerIdFor tenantId (jobKey jobId)) = some entry
        → entry.entryType = .debit
        → OnGrid 8 entry.amount

section Invariant

variable {tenantId : String} {jobId : JobId} {db : Db}

theorem DebitOf.grows {after : Db} (debit : DebitOf tenantId jobId amount db)
    (grows : Db.Grows db after)
    : DebitOf tenantId jobId amount after := by
  obtain ⟨entry, found, facts⟩ := debit
  exact ⟨entry, grows.ledger _ _ found, facts⟩

theorem RefundsMatch.debitOf (holds : RefundsMatch tenantId jobId db) (grid : OnGrid 8 amount)
    (debited : Debited tenantId jobId amount db)
    : DebitOf tenantId jobId amount db := by
  obtain ⟨entry, found, same⟩ := debited
  simp only [idemMatches, Bool.and_eq_true, decide_eq_true_eq] at same
  obtain ⟨⟨⟨debit, rounded⟩, _⟩, _⟩ := same
  rw [roundTo_of_onGrid (holds.grid entry found debit), roundTo_of_onGrid grid] at rounded
  exact ⟨entry, found, debit, rounded⟩

theorem RefundsMatch.apply (holds : RefundsMatch tenantId jobId db) {query : Query}
    (credits
      : ∀ entry,
          query = .debitInsert entry ∨ query = .creditInsert entry
          → entry.metadata.refundFor = some jobId.text
          → entry.tenantId = tenantId
          → entry.ledgerId = ledgerIdFor tenantId (refundKey jobId)
            ∧ entry.entryType = .credit
            ∧ DebitOf tenantId jobId entry.amount db)
    (debits
      : ∀ entry,
          query = .debitInsert entry ∨ query = .creditInsert entry
          → entry.entryType = .debit
          → OnGrid 8 entry.amount)
    (texts
      : ∀ update text,
          query = .updateExecutionJob update
          → update.jobId = jobId
          → (∀ other, update.tenantId = some other → other = tenantId)
          → update.error = some text
          → isRefundMarker text = true
          → ∃ amount, parseRefundAmount text = some amount ∧ DebitOf tenantId jobId amount db)
    : RefundsMatch tenantId jobId (db.apply query).2 := by
  have grows := db.apply_grows query
  refine ⟨?_, ?_, ?_⟩
  · intro entry member refund tenant
    rcases Db.mem_apply_ledger member with old | new
    · obtain ⟨key, credit, debit⟩ := holds.credits entry old refund tenant
      exact ⟨key, credit, debit.grows grows⟩
    · obtain ⟨key, credit, debit⟩ := credits entry new refund tenant
      exact ⟨key, credit, debit.grows grows⟩
  · intro row text found tenant written marker
    have kept : ∀ old, db.job? jobId = some old → old.tenantId = tenantId
        → old.error = some text
        → ∃ amount, parseRefundAmount text = some amount
          ∧ DebitOf tenantId jobId amount (db.apply query).2 := by
      intro old stored owned same
      obtain ⟨amount, parsed, debit⟩ := holds.marked old text stored owned same marker
      exact ⟨amount, parsed, debit.grows grows⟩
    have change := db.apply_job? query jobId
    rw [found] at change
    generalize same : some row = after at change
    cases change with
    | same => exact kept row same.symm tenant written
    | @update update old stored selected =>
        cases same
        simp only [JobUpdate.write] at tenant written
        cases given : update.error with
        | none => exact kept old stored tenant (by simpa [given] using written)
        | some fresh =>
            simp only [given, Option.some_or, Option.some.injEq] at written
            subst written
            obtain ⟨amount, parsed, debit⟩ := texts update fresh rfl
              ((Db.selects_jobId selected).symm.trans (Db.job?_id stored))
              (fun other named => (Db.selects_tenantId selected named).symm.trans tenant)
              given marker
            exact ⟨amount, parsed, debit.grows grows⟩
    | insert absent =>
        cases same
        cases written
    | claim stored picked =>
        cases same
        exact kept _ stored tenant written
    | orphan stored orphan =>
        cases same
        simp only [orphanRow, Option.some.injEq] at written
        subst written
        exact absurd marker (by decide)
  · exact Db.apply_entries holds.grid (fun entry inserted _ => debits entry inserted)

theorem RefundsMatch.billing (holds : RefundsMatch tenantId jobId db) {tenantId' : String}
    {jobId' : JobId} {gpuSec : ℚ} {planName : String} {backend : Option String} {call : Call}
    (issued : BillingCall tenantId' jobId' gpuSec planName backend call)
    : RefundsMatch tenantId jobId (db.apply call.query).2 := by
  refine holds.apply ?_ ?_ (by cases issued <;> simp)
  · intro entry inserted refund _
    rw [(issued.stored inserted).1] at refund
    cases refund
  · intro entry inserted _
    rw [(issued.stored inserted).1]
    exact roundTo_onGrid 8 _

theorem RefundsMatch.refund (holds : RefundsMatch tenantId jobId db)
    (issued : RefundCall tenantId' jobId' amount call)
    (debit : tenantId' = tenantId → jobId' = jobId → DebitOf tenantId jobId amount db)
    : RefundsMatch tenantId jobId (db.apply call.query).2 := by
  refine holds.apply ?_ ?_ (by cases issued <;> simp)
  · intro entry inserted refund tenant
    obtain rfl := issued.stored inserted
    have job : jobId' = jobId :=
      JobId.eq_of_text (congrArg String.toList (Option.some.inj refund))
    have owner : tenantId' = tenantId := tenant
    subst job owner
    exact ⟨rfl, rfl, debit rfl rfl⟩
  · intro entry inserted debited
    rw [issued.stored inserted] at debited
    cases debited

theorem RefundsMatch.update (holds : RefundsMatch tenantId jobId db) {update : JobUpdate}
    (plain
      : ∀ text, update.error = some text → update.jobId = jobId → isRefundMarker text = false)
    : RefundsMatch tenantId jobId (db.apply (.updateExecutionJob update)).2 := by
  refine holds.apply (by simp) (by simp) ?_
  intro other text same job _ written marker
  simp only [Query.updateExecutionJob.injEq] at same
  subst same
  rw [plain text written job] at marker
  cases marker

theorem plain_of_genuine {site : Site} {update : JobUpdate} {text : String}
    (genuine : forgesMarker jobId ⟨site, .updateExecutionJob update⟩ = false)
    (outside : site ∈ outsideTextSites) (written : update.error = some text)
    (job : update.jobId = jobId)
    : isRefundMarker text = false := by
  simpa [forgesMarker, outside, written, job] using genuine

theorem RefundsMatch.swept (holds : RefundsMatch tenantId jobId db) {job : JobRow}
    (issued : SweepRowCall job call)
    : RefundsMatch tenantId jobId (db.apply call.query).2 := by
  cases issued with
  | close sited ended text =>
      refine holds.update ?_
      intro written same _
      cases same
      rcases text with rfl | rfl
      · decide
      · decide
  | noFunds =>
      refine holds.update ?_
      intro written same _
      cases same
      exact isRefundMarker_billingPendingError _ _

/-- The kinds of threads whose calls are judged one by one. -/
def isOrdinary : Kind → Bool
  | .executeAndBill _ _ _ => false
  | .sweepRefundPending => false
  | .topUp _ _ _ _ _ => false
  | _ => true

/-- Every call of the endpoints, the claim and the other sweepers keeps the invariant, by cases
of the kind and its vocabulary.
-/
theorem RefundsMatch.ordinary (holds : RefundsMatch tenantId jobId db) {kind : Kind}
    (ordinary : isOrdinary kind = true) (issued : KindCall kind call)
    (genuine : forgesMarker jobId call = false)
    : RefundsMatch tenantId jobId (db.apply call.query).2 := by
  have swept : ∀ {input call}, KindCall (.sweepBillingPending input) call →
      RefundsMatch tenantId jobId (db.apply call.query).2 := by
    rintro input call (own | ⟨_, _, _, _, _, _, billing⟩)
    · cases own with
      | list => exact holds.apply (by simp) (by simp) (by simp)
      | row issued => exact holds.swept issued
    · exact holds.billing billing
  cases kindCall_issuedBy issued with
  | update write =>
      cases write with
      | sweepClose => exact swept issued
      | sweepNoFunds => exact swept issued
      | cancel => exact holds.update (fun _ written => by cases written)
      | complete => exact holds.update (fun _ written => by cases written)
      | retry => exact holds.update (fun _ written => by cases written)
      | completeV1 => exact holds.update (fun _ written => by cases written)
      | submitBackend => exact holds.update (fun _ written => by cases written)
      | ack =>
          exact holds.update (fun _ written same =>
            plain_of_genuine genuine (by decide) written same)
      | _ => cases ordinary
  | debit bills named positive => exact holds.billing (@BillingCall.debit _ _ _ _ none named positive)
  | refund nonneg pays =>
      rcases pays with ⟨_, rfl⟩ | rfl
      · cases ordinary
      · cases ordinary
  | topUp => cases ordinary
  | _ => exact holds.apply (by simp) (by simp) (by simp)

def Unrelated (call : Call) : Prop :=
  (∃ ledgerId holder, call.query = .ledgerSelect ledgerId holder)
  ∨ ∃ entry,
      call.query = .creditInsert entry
      ∧ entry.entryType = .credit
      ∧ entry.metadata.refundFor = none

/-- An admin top-up stores no refund, whatever key it uses. -/
theorem topUp_issues {tenant : String} {amount : ℚ} {idempotencyKey : Option String}
    {nonce note : String}
    : (topUp tenant amount idempotencyKey nonce note).Issues Unrelated := by
  unfold topUp
  generalize strip tenant = holder
  split
  · trivial
  · split
    · trivial
    · refine Issues.handle (Issues.bind ?_ ?_) ?_
      · unfold rejectInvalidMoneyAmount
        split <;> trivial
      · intro _
        split
        · exact creditKeyed_closed (Issues.closed _)
            (Issues.ask (Or.inr ⟨_, rfl, rfl, rfl⟩)) (Issues.ask (Or.inl ⟨_, _, rfl⟩))
        · refine Issues.bind (Issues.ask (Or.inr ⟨_, rfl, rfl, rfl⟩)) ?_
          intro inserted
          cases inserted <;> trivial
      · intro exn
        dsimp only
        split <;> trivial

theorem RefundsMatch.topUp (holds : RefundsMatch tenantId jobId db) (issued : Unrelated call)
    : RefundsMatch tenantId jobId (db.apply call.query).2 := by
  obtain ⟨site, query⟩ := call
  rcases issued with ⟨_, _, same⟩ | ⟨entry, same, credit, unrelated⟩
  · subst same
    exact holds.apply (by simp) (by simp) (by simp)
  · subst same
    refine holds.apply ?_ ?_ (by simp)
    · intro other stored refund _
      simp only [Query.creditInsert.injEq, reduceCtorEq, false_or] at stored
      rw [← stored, unrelated] at refund
      cases refund
    · intro other stored debit
      simp only [Query.creditInsert.injEq, reduceCtorEq, false_or] at stored
      rw [← stored, credit] at debit
      cases debit

end Invariant

-- Every thread keeps the invariant

section Threads

variable {tenantId : String} {jobId : JobId}

/-- Threads keep the invariant and only add to the ledger. -/
def refundContract (tenantId : String) (jobId : JobId) : Contract bridge Db Kind where
  inv := RefundsMatch tenantId jobId
  rely := Db.Grows
  guarantee before _ _ after := Db.Grows before after
  allowed _ call _ := forgesMarker jobId call = false
  admits _ := True

theorem refundContract_composes : (refundContract tenantId jobId).Composes where
  refl db := .refl db
  trans left right := left.trans right

theorem refundContract_stable {assertion : Db → Prop}
    (grows : ∀ before after, Db.Grows before after → assertion before → assertion after)
    : (refundContract tenantId jobId).Stable assertion :=
  fun before after moved _ holds => grows before after moved holds

theorem refundContract_keeps {db : Db} {fault : Fault} (holds : RefundsMatch tenantId jobId db)
    (applied : RefundsMatch tenantId jobId (db.apply call.query).2)
    : (refundContract tenantId jobId).Keeps service db call fault :=
  .of_apply ⟨holds, .refl db⟩ ⟨applied, db.apply_grows _⟩ (fun _ _ => trivial)

theorem exec_grows (db : Db) (call : Call) (fault : Fault)
    : Db.Grows db (service.exec call fault db).2 :=
  service.exec_holds (.refl db) (db.apply_grows _)

theorem refundContract_call {db : Db} {fault : Fault} {assertion : Db → Prop}
    (grows : ∀ before after, Db.Grows before after → assertion before → assertion after)
    (holds : RefundsMatch tenantId jobId db) (known : assertion db)
    (applied : RefundsMatch tenantId jobId (db.apply call.query).2)
    : (refundContract tenantId jobId).Keeps service db call fault
      ∧ assertion (service.exec call fault db).2 :=
  ⟨refundContract_keeps holds applied, grows _ _ (exec_grows db call fault) known⟩

theorem refundContract_finalize {gpuSec : ℚ} {planName : String} {backend : Option String}
    : FinalizeRules service (refundContract tenantId jobId) tenantId' jobId' gpuSec planName
        backend (fun _ => True) (fun _ => True) (fun _ => True) (fun _ => True) where
  composes := refundContract_composes
  grows := fun moved => moved
  stableBefore _ _ _ _ _ := trivial
  stableOpen _ _ _ _ _ := trivial
  stableSkip _ _ _ _ _ := trivial
  stableFails _ _ _ _ _ := trivial
  reads db fault holds _ _ := refundContract_keeps holds (holds.apply (by simp) (by simp) (by simp))
  calls call db fault issued holds _ _ _ :=
    ⟨refundContract_keeps holds (holds.billing issued), trivial⟩
  opens _ _ _ _ _ _ _ := trivial
  skips _ _ _ _ := trivial
  free _ _ _ _ := trivial
  readFails _ _ _ _ _ _ := trivial
  callFails _ _ _ _ _ _ _ _ _ _ := trivial
  absent _ _ _ _ := trivial

theorem refundContract_refund {Known : Db → Prop}
    (grows : ∀ before after, Db.Grows before after → Known before → Known after)
    (debit
      : ∀ db,
          RefundsMatch tenantId jobId db
          → Known db
          → tenantId' = tenantId
          → jobId' = jobId
          → DebitOf tenantId jobId amount db)
    : RefundRules service (refundContract tenantId jobId) tenantId' jobId' amount Known where
  composes := refundContract_composes
  grows := fun moved => moved
  stable := refundContract_stable grows
  calls _ db _ issued holds known _ :=
    refundContract_call grows holds known (holds.refund issued (debit db holds known))

/-- A run of `execute_and_bill` keeps the invariant: it refunds and marks what it debited. -/
theorem refundContract_worker {world : WorkerWorld}
    : WorkerRules service (refundContract tenantId jobId) jobId' tenantId' world
        (fun _ => True) (fun _ => True) (fun _ => True) (fun _ => True) (fun _ => True)
        (Debited tenantId' jobId' world.costUsd) (Debited tenantId' jobId' world.costUsd)
        (fun _ => True) where
  billing _ := refundContract_finalize
  refund := by
    refine refundContract_refund (fun _ _ grown known => known.grows grown) ?_
    intro db holds debited tenant job
    subst tenant job
    exact holds.debitOf (roundTo_onGrid 8 _) debited
  stableRefused _ _ _ _ _ := trivial
  stableMissed := refundContract_stable (fun _ _ grown known => known.grows grown)
  stableSettled _ _ _ _ _ := trivial
  refused _ _ _ := trivial
  settled _ _ _ := trivial
  running update db fault _ _ error _ holds _ _ := by
    refine ⟨refundContract_keeps holds (holds.update ?_), trivial⟩
    intro text written
    rw [error] at written
    cases written
  refuses site update db fault sited _ _ _ _ holds _ genuine := by
    refine ⟨refundContract_keeps holds (holds.update ?_), trivial⟩
    intro text written job
    refine plain_of_genuine genuine ?_ written job
    rcases sited with rfl | rfl | rfl <;> decide
  finals status billingStatus backend db fault _ holds billed _ := by
    have applied : RefundsMatch tenantId jobId (db.apply (.updateExecutionJob
        (finalUpdate jobId' tenantId' world status billingStatus))).2 := by
      refine holds.update ?_
      intro text written _
      cases written
      exact isRefundMarker_finalError _ _
    refine ⟨refundContract_keeps holds applied, ?_⟩
    split
    · rename_i missed
      obtain ⟨_, rfl, _⟩ := missed
      rcases billed with post | ⟨raised, _⟩
      · have debited := post.2.1
        rw [totalCost_billable] at debited
        exact debited.grows (exec_grows db _ fault)
      · simp at raised
    · trivial
  rereads db fault holds _ _ :=
    ⟨refundContract_keeps holds (holds.apply (by simp) (by simp) (by simp)), fun _ => trivial⟩
  cancelled _ _ _ debited _ _ _ := debited
  closed _ _ _ _ := trivial
  refunded _ _ _ _ := trivial
  interrupted _ _ _ _ _ _ _ := trivial
  marks db fault holds debited _ := by
    refine ⟨refundContract_keeps holds (holds.apply (by simp) (by simp) ?_), trivial⟩
    intro update text same job tenant written marker
    simp only [Query.updateExecutionJob.injEq] at same
    subst same
    cases written
    have owner : tenantId' = tenantId := tenant tenantId' rfl
    have same : jobId' = jobId := job
    subst owner same
    have nonneg : 0 ≤ world.costUsd :=
      roundTo_nonneg (mul_nonneg (billable_nonneg world) (by norm_num [gpuRate]))
    exact ⟨world.costUsd, parseRefundAmount_refundMarker nonneg (roundTo_onGrid 8 _),
      holds.debitOf (roundTo_onGrid 8 _) debited⟩
  drains db fault holds _ _ := by
    refine ⟨refundContract_keeps holds (holds.update ?_), trivial⟩
    intro text written _
    cases written
    decide

theorem marker_of_listed {db : Db} {limit : ℕ} {row : JobRow}
    (listed : row ∈ refundPendingRows db limit)
    : ∃ text, row.error = some text ∧ isRefundMarker text = true := by
  have sorted := List.mem_of_mem_take listed
  rw [List.mem_insertionSort, List.mem_filter] at sorted
  simp only [Bool.and_eq_true] at sorted
  obtain ⟨text, written, marker⟩ := (Option.any_eq_true _ _).mp sorted.2.2
  exact ⟨text, written, marker⟩

def Listed (tenantId : String) (jobId : JobId) (rows : List JobRow) (db : Db) : Prop :=
  ∀ row ∈ rows,
    row.tenantId = tenantId
    → row.id = jobId
    → ∀ amount,
        parseRefundAmount (row.error.getD "") = some amount → DebitOf tenantId jobId amount db

theorem Listed.grows {rows : List JobRow} {before after : Db}
    (listed : Listed tenantId jobId rows before) (grown : Db.Grows before after)
    : Listed tenantId jobId rows after :=
  fun row member tenant job amount parsed => (listed row member tenant job amount parsed).grows grown

theorem RefundsMatch.listed {db : Db} (holds : RefundsMatch tenantId jobId db) (limit : ℕ)
    : Listed tenantId jobId (refundPendingRows db limit) db := by
  intro row member tenant job amount parsed
  obtain ⟨text, written, marker⟩ := marker_of_listed member
  have stored := (mem_refundPendingRows member).1
  rw [job] at stored
  obtain ⟨amount', parsed', debit⟩ := holds.marked row text stored tenant written marker
  rw [written, Option.getD_some, parsed'] at parsed
  cases parsed
  exact debit

theorem refundContract_sweep
    : Triple service (refundContract tenantId jobId) (fun _ => True) sweepRefundPendingOnce
        (fun _ _ => True) (fun _ _ => True) := by
  have stable : ∀ rows, (refundContract tenantId jobId).Stable (Listed tenantId jobId rows) :=
    fun _ => refundContract_stable (fun _ _ grown known => known.grows grown)
  refine sweepRefundPendingOnce_triple refundContract_composes stable ?_ ?_
  · exact fun db fault holds _ =>
      ⟨refundContract_keeps holds (holds.apply (by simp) (by simp) (by simp)), holds.listed 50⟩
  · intro rows row member
    refine ⟨?_, ?_⟩
    · intro amount parsed
      exact refundContract_refund (fun _ _ grown known => known.grows grown)
        (fun db _ known tenant job => known row member tenant job amount parsed)
    · intro db fault holds known _ _
      refine refundContract_call (fun _ _ grown known => known.grows grown) holds known
        (holds.update ?_)
      intro text written _
      cases written
      decide

theorem refundContract_unrelated {α : Type} {program : Program bridge α}
    (issues : program.Issues Unrelated)
    : Triple service (refundContract tenantId jobId) (fun _ => True) program (fun _ _ => True)
        (fun _ _ => True) := by
  refine Triple.of_issues issues (fun _ _ _ _ _ => trivial) ?_
  exact fun call db fault issued holds _ _ =>
    ⟨refundContract_keeps holds (holds.topUp issued), trivial⟩

/-- Every kind of thread runs under the one contract, and nothing is known of its outcome. -/
def refundDiscipline (tenantId : String) (jobId : JobId)
    : Machine.Discipline bridge Db Kind Answer where
  contract _ := refundContract tenantId jobId
  returns _ _ _ := True
  raises _ _ _ := True

theorem refundDiscipline_sound
    : (refundDiscipline tenantId jobId).Sound (RefundsMatch tenantId jobId) (fun _ _ => True) where
  composes _ := refundContract_composes
  shared _ := rfl
  tolerates _ _ _ moved := moved
  joins _ _ := ⟨trivial, trivial⟩

/-- Every thread keeps the contract from every store of the invariant. -/
theorem refundDiscipline_obeys (kind : Kind) (db : Db) (holds : RefundsMatch tenantId jobId db)
    : (refundDiscipline tenantId jobId).Obeys service (service.start kind) db := by
  have idle : (refundContract tenantId jobId).Stable (fun _ => True) := fun _ _ _ _ _ => trivial
  have ends : ∀ {α : Type} (wrap : α → Answer) (value : α),
      Triple service (refundContract tenantId jobId) (fun _ => True)
        (Program.done (wrap value)) (fun _ _ => True) (fun _ _ => True) :=
    fun wrap value => Triple.done idle (fun _ _ _ => trivial)
  have triple : Triple service (refundContract tenantId jobId) (fun _ => True) (bodyOf kind)
      (fun _ _ => True) (fun _ _ => True) := by
    by_cases ordinary : isOrdinary kind = true
    · refine Triple.of_issues (bodyOf_issues kind) idle ?_
      exact fun call db fault issued holds _ genuine =>
        ⟨refundContract_keeps holds (holds.ordinary ordinary issued genuine), trivial⟩
    · cases kind with
      | executeAndBill job tenant world =>
          exact Triple.bind refundContract_composes (fun _ _ => True)
            (executeAndBill_triple refundContract_worker) (fun result => ends Answer.worker result)
      | sweepRefundPending =>
          exact Triple.bind refundContract_composes (fun _ _ => True) refundContract_sweep
            (fun outcomes => ends Answer.refunded outcomes)
      | topUp tenant amount idempotencyKey nonce note =>
          have credited := @refundContract_unrelated tenantId jobId _ _
            (@topUp_issues tenant amount idempotencyKey nonce note)
          exact Triple.bind refundContract_composes (fun _ _ => True) credited
            (fun ledgerId => ends Answer.credited ledgerId)
      | _ => exact absurd rfl ordinary
  exact triple db holds trivial

end Threads

-- Every run

def refundCredits (db : Db) (tenantId : String) (jobId : JobId) : List LedgerEntry :=
  db.ledger.rows.filter (fun entry =>
    entry.entryType = .credit
    && entry.tenantId = tenantId
    && entry.metadata.refundFor = some jobId.text)

/-- In every run of the service in which no text from outside imitates a marker, with any
faults before and after a commit, any crashes, any number of executors, retries and sweeps, the
ledger holds at most one refund of a job, of exactly the amount of the job's DEBIT; every marker
of the job reads back as that amount. The text of an amount on the 8-decimal grid always reads
back as the amount.
-/
theorem refund_once_exact {tenantId : String} {jobId : JobId}
    {config : Config bridge Db Kind Answer}
    (reached : service.Reaches (Genuine jobId) (idle Db.empty) config)
    : (refundCredits config.store tenantId jobId).length ≤ 1
      ∧ (∀ entry ∈ refundCredits config.store tenantId jobId,
          DebitOf tenantId jobId entry.amount config.store)
      ∧ (∀ row text,
          config.store.job? jobId = some row
          → row.tenantId = tenantId
          → row.error = some text
          → isRefundMarker text = true
          → ∃ amount,
              parseRefundAmount text = some amount
              ∧ DebitOf tenantId jobId amount config.store)
      ∧ ∀ amount,
          0 ≤ amount → OnGrid 8 amount → parseRefundAmount (refundMarker amount) = some amount := by
  have holds : (refundDiscipline tenantId jobId).Holds service (RefundsMatch tenantId jobId)
      (fun _ _ => True) config := by
    refine reached.obeys refundDiscipline_sound ?_ ?_ ?_ ?_ ?_
    · exact fun _ kind _ => ⟨fun _ _ => ⟨trivial, trivial⟩, refundDiscipline_obeys kind⟩
    · exact fun _ kind _ => refundDiscipline_obeys kind
    · intro config index fault kind call rest log genuine found
      exact genuine.executed (Config.executing_exec found)
    · exact fun _ _ _ _ _ _ _ _ _ => trivial
    · refine ⟨⟨?_, ?_, ?_⟩, by simp [idle], by simp [idle]⟩
      · simp [idle, Db.empty, Table.empty]
      · simp [idle, Db.empty, Db.job?, Table.find?_empty]
      · simp [idle, Db.empty, Table.find?_empty]
  have inv := holds.inv
  have facts : ∀ entry ∈ refundCredits config.store tenantId jobId,
      entry ∈ config.store.ledger.rows
      ∧ entry.ledgerId = ledgerIdFor tenantId (refundKey jobId)
      ∧ DebitOf tenantId jobId entry.amount config.store := by
    intro entry member
    simp only [refundCredits, List.mem_filter, Bool.and_eq_true, decide_eq_true_eq] at member
    obtain ⟨stored, ⟨_, tenant⟩, refund⟩ := member
    obtain ⟨key, _, debit⟩ := inv.credits entry stored refund tenant
    exact ⟨stored, key, debit⟩
  refine ⟨?_, fun entry member => (facts entry member).2.2, inv.marked,
    fun amount nonneg grid => parseRefundAmount_refundMarker nonneg grid⟩
  refine length_le_one_of_nodup ((List.Nodup.of_map _ config.store.ledger.unique).filter _) ?_
  intro left inLeft right inRight
  obtain ⟨storedL, keyL, _⟩ := facts left inLeft
  obtain ⟨storedR, keyR, _⟩ := facts right inRight
  exact Table.eq_of_key storedL storedR (keyL.trans keyR.symm)

/-- Witness: a billed job is cancelled, its first refund commits and is reported as lost, two
more fail, the marker is written and a sweep refunds it again.
-/
theorem refund_once_exact_retried
    : ∃ config,
        service.Reaches (Genuine jobA) (idle Db.empty) config
        ∧ (refundCredits config.store "t" jobA).map LedgerEntry.amount = [1 / 10000]
        ∧ (config.store.job? jobA).bind JobRow.error
          = some "refund_pending:debit_exists:0.00010000"
        ∧ DebitOf "t" jobA (1 / 10000) config.store := by
  have ran
      : (service.run (fun config label => decide (Genuine jobA config label)) (idle Db.empty)
          (claimedJob 10 "completed"
            ++ ([.exec 3 .none, .exec 3 .none, .exec 3 .none, .exec 3 .none,
               .arrive (.cancelJob { tenant := .ok "t" } jobA), .exec 4 .none, .exec 4 .none,
               .exec 3 .none, .exec 3 .none, .exec 3 (.after "lost"), .exec 3 (.before "down"),
               .exec 3 (.before "down"), .exec 3 .none,
               .arrive .sweepRefundPending, .exec 5 .none, .exec 5 .none, .exec 5 .none]
               : List (Label Kind)))).any
          (fun config =>
            (refundCredits config.store "t" jobA).map LedgerEntry.amount == [1 / 10000]
            && (config.store.job? jobA).bind JobRow.error
              == some "refund_pending:debit_exists:0.00010000")
        = true := by
    decide +kernel
  obtain ⟨config, reached, passed⟩ :=
    Machine.Reaches.of_check (fun _ _ genuine => of_decide_eq_true genuine) _ ran
  simp only [Bool.and_eq_true, beq_iff_eq] at passed
  obtain ⟨refunds, marker⟩ := passed
  refine ⟨config, reached, refunds, marker, ?_⟩
  obtain ⟨entry, member, amount⟩ : ∃ entry ∈ refundCredits config.store "t" jobA,
      entry.amount = 1 / 10000 := by
    have listed : (1 / 10000 : ℚ) ∈ (refundCredits config.store "t" jobA).map
        LedgerEntry.amount := by
      rw [refunds]
      exact List.mem_singleton_self _
    exact List.mem_map.mp listed
  exact amount ▸ (refund_once_exact reached).2.1 entry member

end RomaBridge.Properties
