import RomaBridge.Model.Decisions
import RomaBridge.Model.EnterpriseGate

/-! Idempotency of decisions. Two requests that both look a key up before either records its decision record
two, and the answer of a repeated key names no job. The tables follow from how far the requests have
come, so the invariant is stated on the phases. The enterprise gate writes its requests without the key.
-/

namespace RomaBridge.Properties

open RomaBridge.Foundation

section Decisions

open RomaBridge.Model.Decisions

variable {post : DecisionPost} {response : DecisionResponse} {decision : GateDecision}

-- Phases

def hasRequest : DecisionPhase → Option DecisionPost
  | .requested post _ | .counted post _ _ | .recorded post _ | .jobCreated post _ => some post
  | .answered post response => if response.idempotent then none else some post
  | _ => none

def hasRecord : DecisionPhase → Option DecisionPost
  | .recorded post _ | .jobCreated post _ => some post
  | .answered post response => if response.idempotent then none else some post
  | _ => none

def hasJob : DecisionPhase → Option DecisionPost
  | .jobCreated post _ => some post
  | .answered post response =>
      if response.idempotent || response.jobId.isNone then none else some post
  | _ => none

/-- How far a numbered request has come. -/
def stage (store : DecisionStore) (reached : DecisionPhase → Option DecisionPost) (process : ℕ)
    : Option DecisionPost :=
  (store.processes process).bind reached

variable {store next : DecisionStore} {process : ℕ} {phase new : DecisionPhase}
  {reached : DecisionPhase → Option DecisionPost} {tenantId key : String}

theorem stage_moveTo (store : DecisionStore) (process other : ℕ) (new : DecisionPhase)
    (reached : DecisionPhase → Option DecisionPost)
    : stage (store.moveTo process new) reached other
      = if other = process then reached new else stage store reached other := by
  unfold stage DecisionStore.moveTo
  by_cases same : other = process
  · subst same
    simp
  · simp [same]

theorem stage_of_found (found : store.processes process = some phase)
    (reached : DecisionPhase → Option DecisionPost)
    : stage store reached process = reached phase := by
  rw [stage, found, Option.bind_some]

theorem stage_moveTo_same (same : reached new = stage store reached process)
    : stage (store.moveTo process new) reached = stage store reached := by
  funext other
  rw [stage_moveTo]
  split
  · rename_i itself
    rw [itself, same]
  · rfl

-- The tables

def AnswersFor (store : DecisionStore) (post : DecisionPost) (response : DecisionResponse) : Prop :=
  (∃ asked, stage store hasRequest response.decisionId = some asked
    ∧ asked.tenantId = post.tenantId ∧ asked.idempotencyKey = post.idempotencyKey)
  ∧ (stage store hasRecord response.decisionId).isSome
  ∧ ∀ jobId, response.jobId = some jobId →
      jobId = response.decisionId ∧ (stage store hasJob jobId).isSome

/-- The rows of the tables are those of the requests that have them. -/
structure Consistent (store : DecisionStore) : Prop where
  requests : ∀ row, row ∈ store.requests
    ↔ ∃ post, stage store hasRequest row.id = some post ∧ row = requestRow row.id post
  records : ∀ process, (∃ record ∈ store.records, record.id = process)
    ↔ (stage store hasRecord process).isSome
  requestIds : ∀ record ∈ store.records, record.requestId = record.id
  jobs : ∀ process, (∃ job ∈ store.jobs, job.decisionId = process)
    ↔ (stage store hasJob process).isSome
  jobIds : ∀ job ∈ store.jobs, job.id = job.decisionId
  oneJob : (store.jobs.map ExecutionJob.decisionId).Nodup
  answers : ∀ process post response,
    store.processes process = some (.answered post response) → AnswersFor store post response

theorem Consistent.moveTo (consistent : Consistent store)
    (request : hasRequest new = stage store hasRequest process)
    (record : hasRecord new = stage store hasRecord process)
    (job : hasJob new = stage store hasJob process)
    (answer : ∀ post response, new = .answered post response → AnswersFor store post response)
    : Consistent (store.moveTo process new) := by
  have requests := stage_moveTo_same request
  have records := stage_moveTo_same record
  have jobs := stage_moveTo_same job
  refine ⟨?_, ?_, consistent.requestIds, ?_, consistent.jobIds, consistent.oneJob, ?_⟩
  · rw [requests]
    exact consistent.requests
  · rw [records]
    exact consistent.records
  · rw [jobs]
    exact consistent.jobs
  · intro other post response answered
    unfold AnswersFor
    rw [requests, records, jobs]
    rcases update_some_cases answered with ⟨_, own⟩ | ⟨_, old⟩
    · exact answer post response own.symm
    · exact consistent.answers other post response old

theorem Consistent.moveOn (consistent : Consistent store)
    (found : store.processes process = some phase)
    (request : hasRequest new = hasRequest phase) (record : hasRecord new = hasRecord phase)
    (job : hasJob new = hasJob phase) (open_ : ∀ post response, new ≠ .answered post response)
    : Consistent (store.moveTo process new) :=
  consistent.moveTo (request.trans (stage_of_found found hasRequest).symm)
    (record.trans (stage_of_found found hasRecord).symm)
    (job.trans (stage_of_found found hasJob).symm)
    (fun post response same => absurd same (open_ post response))

theorem AnswersFor.mono (answers : AnswersFor store post response)
    (requests : ∀ process post, stage store hasRequest process = some post →
      stage next hasRequest process = some post)
    (records : ∀ process, (stage store hasRecord process).isSome →
      (stage next hasRecord process).isSome)
    (jobs : ∀ process, (stage store hasJob process).isSome →
      (stage next hasJob process).isSome)
    : AnswersFor next post response := by
  obtain ⟨⟨asked, found, same⟩, recorded, job⟩ := answers
  refine ⟨⟨asked, requests _ _ found, same⟩, records _ recorded, ?_⟩
  intro jobId named
  obtain ⟨own, created⟩ := job jobId named
  exact ⟨own, jobs _ created⟩

theorem stage_moveTo_mono
    (grows : ∀ post, stage store reached process = some post → reached new = some post) {other : ℕ}
    (had : stage store reached other = some post)
    : stage (store.moveTo process new) reached other = some post := by
  rw [stage_moveTo]
  split
  · rename_i same
    subst same
    exact grows post had
  · exact had

theorem isSome_stage_moveTo
    (grows : ∀ post, stage store reached process = some post → reached new = some post)
    {other : ℕ} (had : (stage store reached other).isSome)
    : (stage (store.moveTo process new) reached other).isSome := by
  obtain ⟨post, reached_⟩ := Option.isSome_iff_exists.mp had
  rw [stage_moveTo_mono grows reached_]
  rfl

theorem Consistent.answers_moveTo (consistent : Consistent store) (process : ℕ)
    (new : DecisionPhase)
    (request : ∀ post, stage store hasRequest process = some post → hasRequest new = some post)
    (record : ∀ post, stage store hasRecord process = some post → hasRecord new = some post)
    (job : ∀ post, stage store hasJob process = some post → hasJob new = some post)
    (open_ : ∀ post response, new ≠ .answered post response)
    : ∀ other post response,
        (store.moveTo process new).processes other = some (.answered post response) →
        AnswersFor (store.moveTo process new) post response := by
  intro other post response answered
  rcases update_some_cases answered with ⟨_, own⟩ | ⟨_, old⟩
  · exact absurd own.symm (open_ post response)
  · exact (consistent.answers other post response old).mono
      (fun _ _ had => stage_moveTo_mono request had) (fun _ had => isSome_stage_moveTo record had)
      (fun _ had => isSome_stage_moveTo job had)

theorem exists_mem_append_iff {α : Type} {rows : List α} {own : α} {id : α → ℕ}
    (rowsIff : ∀ other, (∃ row ∈ rows, id row = other) ↔ (stage store reached other).isSome)
    (named : id own = process) (has : (reached new).isSome) (other : ℕ)
    : (∃ row ∈ rows ++ [own], id row = other)
      ↔ (stage (store.moveTo process new) reached other).isSome := by
  rw [stage_moveTo]
  by_cases same : other = process
  · rw [if_pos same]
    exact iff_of_true ⟨own, by simp, named.trans same.symm⟩ has
  · rw [if_neg same, ← rowsIff]
    constructor
    · intro ⟨row, mem, isOther⟩
      rcases List.mem_append.mp mem with old | new
      · exact ⟨row, old, isOther⟩
      · rw [List.mem_singleton.mp new, named] at isOther
        exact absurd isOther.symm same
    · intro ⟨row, mem, isOther⟩
      exact ⟨row, List.mem_append_left _ mem, isOther⟩

theorem Consistent.insertRequest (consistent : Consistent store)
    (found : store.processes process = some (.evaluated post decision))
    : Consistent { store.moveTo process (.requested post decision) with
        requests := store.requests ++ [requestRow process post] } := by
  have none_ : stage store hasRequest process = none := stage_of_found found hasRequest
  have record : hasRecord (.requested post decision) = stage store hasRecord process :=
    (stage_of_found found hasRecord).symm
  have job : hasJob (.requested post decision) = stage store hasJob process :=
    (stage_of_found found hasJob).symm
  have answers := consistent.answers_moveTo process (.requested post decision)
    (by simp [none_]) (by simp [record]) (by simp [job]) (by simp)
  have records := stage_moveTo_same record
  have jobs := stage_moveTo_same job
  refine ⟨?_, ?_, consistent.requestIds, ?_, consistent.jobIds, consistent.oneJob, answers⟩
  · intro row
    change row ∈ store.requests ++ [requestRow process post]
      ↔ ∃ asked, stage (store.moveTo process (.requested post decision)) hasRequest row.id = some asked
        ∧ row = requestRow row.id asked
    rw [stage_moveTo, List.mem_append, List.mem_singleton, consistent.requests]
    by_cases same : row.id = process
    · simp [same, none_, hasRequest]
    · simp only [same, if_false, or_iff_left_iff_imp]
      intro own
      exact absurd (congrArg DecisionRequest.id own) same
  · change ∀ other, (∃ row ∈ store.records, row.id = other)
      ↔ (stage (store.moveTo process (.requested post decision)) hasRecord other).isSome
    rw [records]
    exact consistent.records
  · change ∀ other, (∃ row ∈ store.jobs, row.decisionId = other)
      ↔ (stage (store.moveTo process (.requested post decision)) hasJob other).isSome
    rw [jobs]
    exact consistent.jobs

theorem Consistent.insertRecord (consistent : Consistent store) {quotaRemaining : ℤ}
    (found : store.processes process = some (.counted post decision quotaRemaining))
    : Consistent { store.moveTo process (.recorded post decision) with
        records := store.records ++ [recordRow process post decision quotaRemaining] } := by
  have request : hasRequest (.recorded post decision) = stage store hasRequest process :=
    (stage_of_found found hasRequest).symm
  have none_ : stage store hasRecord process = none := stage_of_found found hasRecord
  have job : hasJob (.recorded post decision) = stage store hasJob process :=
    (stage_of_found found hasJob).symm
  have answers := consistent.answers_moveTo process (.recorded post decision)
    (by simp [request]) (by simp [none_]) (by simp [job]) (by simp)
  refine ⟨?_, ?_, ?_, ?_, consistent.jobIds, consistent.oneJob, answers⟩
  · change ∀ row, row ∈ store.requests
      ↔ ∃ asked, stage (store.moveTo process (.recorded post decision)) hasRequest row.id = some asked
        ∧ row = requestRow row.id asked
    rw [stage_moveTo_same request]
    exact consistent.requests
  · exact exists_mem_append_iff consistent.records rfl rfl
  · intro row mem
    rcases List.mem_append.mp mem with old | own
    · exact consistent.requestIds row old
    · rw [List.mem_singleton.mp own]
      rfl
  · change ∀ other, (∃ row ∈ store.jobs, row.decisionId = other)
      ↔ (stage (store.moveTo process (.recorded post decision)) hasJob other).isSome
    rw [stage_moveTo_same job]
    exact consistent.jobs

theorem Consistent.insertJob (consistent : Consistent store)
    (found : store.processes process = some (.recorded post decision))
    : Consistent { store.moveTo process (.jobCreated post decision) with
        jobs := store.jobs ++ [jobRow process post] } := by
  have request : hasRequest (.jobCreated post decision) = stage store hasRequest process :=
    (stage_of_found found hasRequest).symm
  have record : hasRecord (.jobCreated post decision) = stage store hasRecord process :=
    (stage_of_found found hasRecord).symm
  have none_ : stage store hasJob process = none := stage_of_found found hasJob
  have answers := consistent.answers_moveTo process (.jobCreated post decision)
    (by simp [request]) (by simp [record]) (by simp [none_]) (by simp)
  have unused : ∀ row ∈ store.jobs, row.decisionId ≠ process := by
    intro row mem own
    have created := (consistent.jobs process).mp ⟨row, mem, own⟩
    rw [none_] at created
    cases created
  refine ⟨?_, ?_, consistent.requestIds, ?_, ?_, ?_, answers⟩
  · change ∀ row, row ∈ store.requests
      ↔ ∃ asked, stage (store.moveTo process (.jobCreated post decision)) hasRequest row.id = some asked
        ∧ row = requestRow row.id asked
    rw [stage_moveTo_same request]
    exact consistent.requests
  · change ∀ other, (∃ row ∈ store.records, row.id = other)
      ↔ (stage (store.moveTo process (.jobCreated post decision)) hasRecord other).isSome
    rw [stage_moveTo_same record]
    exact consistent.records
  · exact exists_mem_append_iff consistent.jobs rfl rfl
  · intro row mem
    rcases List.mem_append.mp mem with old | own
    · exact consistent.jobIds row old
    · rw [List.mem_singleton.mp own]
      rfl
  · change ((store.jobs ++ [jobRow process post]).map
      ExecutionJob.decisionId).Nodup
    rw [List.map_append, List.nodup_append]
    refine ⟨consistent.oneJob, by simp, ?_⟩
    intro id mem own ownMem same
    simp only [List.map_cons, List.map_nil, List.mem_singleton] at ownMem
    obtain ⟨row, rowMem, named⟩ := List.mem_map.mp mem
    exact unused row rowMem (named.trans (same.trans ownMem))

theorem hasKey_iff (consistent : Consistent store) {record : DecisionRecord}
    (mem : record ∈ store.records)
    : store.hasKey tenantId key record
      ↔ ∃ asked, stage store hasRequest record.id = some asked ∧ asked.tenantId = tenantId
        ∧ asked.idempotencyKey = some key := by
  have own := consistent.requestIds record mem
  unfold DecisionStore.hasKey
  rw [List.any_eq_true]
  constructor
  · intro ⟨row, rowMem, same⟩
    simp only [Bool.and_eq_true, beq_iff_eq] at same
    obtain ⟨⟨id, tenant⟩, keyed⟩ := same
    obtain ⟨asked, reached, isRow⟩ := (consistent.requests row).mp rowMem
    rw [id, own] at reached
    rw [isRow] at tenant keyed
    exact ⟨asked, reached, tenant, keyed⟩
  · intro ⟨asked, reached, tenant, keyed⟩
    refine ⟨requestRow record.id asked, (consistent.requests _).mpr ⟨asked, reached, rfl⟩, ?_⟩
    simp [requestRow, own, tenant, keyed]

theorem lookupKey_spec {record : DecisionRecord} (found : lookupKey store post = some record)
    : ∃ key, post.idempotencyKey = some key ∧ record ∈ store.decisionsOf post.tenantId key := by
  unfold lookupKey at found
  cases given : post.idempotencyKey with
  | none => simp [given] at found
  | some key =>
      simp only [given] at found
      split at found
      · cases found
      · exact ⟨key, rfl, List.mem_of_getLast? found⟩

theorem answersFor_replay (consistent : Consistent store) {record : DecisionRecord}
    (found : lookupKey store post = some record)
    : AnswersFor store post (replay record) := by
  obtain ⟨key, given, listed⟩ := lookupKey_spec found
  obtain ⟨mem, keyed⟩ := List.mem_filter.mp listed
  obtain ⟨asked, reached, tenant, same⟩ := (hasKey_iff consistent mem).mp keyed
  refine ⟨⟨asked, reached, tenant, same.trans given.symm⟩, ?_, by simp [replay]⟩
  exact (consistent.records record.id).mp ⟨record, mem, rfl⟩

/-- Every transaction keeps the tables consistent. One case per phase. -/
theorem Consistent.advance (consistent : Consistent store)
    (found : store.processes process = some phase)
    : Consistent (advance store process phase) := by
  cases phase with
  | begun post =>
      simp only [Model.Decisions.advance]
      split
      · exact consistent.moveOn found rfl rfl rfl (by simp)
      · split
        · rename_i record looked
          refine consistent.moveTo (by simp [stage, found, hasRequest, replay])
            (by simp [stage, found, hasRecord, replay]) (by simp [stage, found, hasJob, replay]) ?_
          intro asked response same
          cases same
          exact answersFor_replay consistent looked
        · exact consistent.moveOn found rfl rfl rfl (by simp)
  | looked post =>
      exact consistent.moveOn found rfl rfl rfl (by simp)
  | evaluated post decision =>
      simp only [Model.Decisions.advance]
      split
      · exact consistent.moveOn found rfl rfl rfl (by simp)
      · exact consistent.insertRequest found
  | requested post decision =>
      exact consistent.moveOn found rfl rfl rfl (by simp)
  | counted post decision quotaRemaining => exact consistent.insertRecord found
  | recorded post decision =>
      simp only [Model.Decisions.advance]
      split
      · exact consistent.insertJob found
      · refine consistent.moveTo (by simp [stage, found, hasRequest, firstAnswer])
          (by simp [stage, found, hasRecord, firstAnswer])
          (by simp [stage, found, hasJob, firstAnswer]) ?_
        intro asked response same
        cases same
        exact ⟨⟨post, by simp [stage, found, hasRequest, firstAnswer], rfl, rfl⟩,
          by simp [stage, found, hasRecord, firstAnswer], by simp [firstAnswer]⟩
  | jobCreated post decision =>
      refine consistent.moveTo (by simp [stage, found, hasRequest, firstAnswer])
        (by simp [stage, found, hasRecord, firstAnswer])
        (by simp [stage, found, hasJob, firstAnswer]) ?_
      intro asked response same
      cases same
      exact ⟨⟨post, by simp [stage, found, hasRequest, firstAnswer], rfl, rfl⟩,
        by simp [stage, found, hasRecord, firstAnswer],
        by simp [stage, found, hasJob, firstAnswer]⟩
  | answered post response => exact consistent
  | failed statusCode detail => exact consistent

theorem Consistent.step (consistent : Consistent store) (call : DecisionCall)
    : Consistent (decisionStep store call).2 := by
  cases call with
  | arrive process post =>
      simp only [decisionStep]
      cases found : store.processes process with
      | some phase => exact consistent
      | none =>
          exact consistent.moveTo (by simp [stage, found, hasRequest])
            (by simp [stage, found, hasRecord]) (by simp [stage, found, hasJob]) (by simp)
  | advance process =>
      simp only [decisionStep]
      cases found : store.processes process with
      | none => exact consistent
      | some phase => exact consistent.advance found

-- Idempotency

end Decisions

section EnterpriseGate

open RomaBridge.Model.EnterpriseGate

variable {tenantId key : String}

def Carries (tenantId key : String) (request : DecisionRequest) : Bool :=
  request.tenantId = tenantId && request.idempotencyKey = some key

def answersOf (tenantId key : String) (history : GateHistory) : List DecisionRecord :=
  (history.returned.filter (fun entry => Carries tenantId key entry.1)).map Prod.snd

/-- At most one row was written for the tenant and key, and all calls that returned returned one
record.
-/
def ReplaysOne (tenantId key : String) (history : GateHistory) : Prop :=
  (history.written.filter (fun entry => Carries tenantId key entry.1)).length ≤ 1
  ∧ ∀ first ∈ answersOf tenantId key history,
    ∀ later ∈ answersOf tenantId key history, later = first

def AnsweredAgain (tenantId key : String)
    (visit : Visit GateHistory GateCall (Except GateError DecisionRecord))
    : Prop :=
  Carries tenantId key visit.call.request → answersOf tenantId key visit.before ≠ [] →
    ∃ record, visit.reply = .ok record

/-- The tenant is active and below its quota. -/
def PassesGate (call : GateCall) : Prop := ∃ quota, admitRequest call.reads call.request = .ok quota

/-- No stored key, and what was returned is what was written, under numbers that were drawn. -/
structure Keyless (history : GateHistory) : Prop where
  keys : ∀ row ∈ history.db.requests, row.idempotencyKey = none
  same : history.written = history.returned
  drawn : ∀ entry ∈ history.returned, entry.2.id < history.db.next

theorem Keyless.cachedRecord {history : GateHistory} (keyless : Keyless history)
    (request : DecisionRequest)
    : cachedRecord history.db request = none := by
  have missed : ∀ key, checkIdempotent history.db request key = none := by
    intro key
    unfold checkIdempotent
    rw [Option.map_eq_none_iff, List.find?_eq_none]
    intro record _ found
    obtain ⟨row, member, joined⟩ := List.any_eq_true.mp found
    simp [joins, keyless.keys row member] at joined
  unfold Model.EnterpriseGate.cachedRecord
  split
  · rfl
  · split
    · rfl
    · exact missed _

theorem gateStep_cases {history : GateHistory} (keyless : Keyless history) (call : GateCall)
    : (¬ PassesGate call ∧ ∃ error, gateStep history call = (.error error, history))
      ∨ PassesGate call ∧ ∃ record db, record.id = history.db.next ∧ db.next = history.db.next + 1
        ∧ (∀ row ∈ db.requests, row.idempotencyKey = none)
        ∧ gateStep history call = (.ok record,
          { db
            returned := history.returned ++ [(call.request, record)]
            written := history.written ++ [(call.request, record)] }) := by
  have missed := keyless.cachedRecord call.request
  cases checked : admitRequest call.reads call.request with
  | error error =>
      refine Or.inl ⟨?_, error, ?_⟩
      · rintro ⟨quota, admitted⟩
        rw [checked] at admitted
        cases admitted
      · simp only [gateStep, evaluate, missed, checked]
  | ok quota =>
      refine Or.inr ⟨⟨quota, checked⟩, newRecord history.db call.reads call.request quota,
        persistRecord history.db (newRecord history.db call.reads call.request quota)
          call.reads.now,
        rfl, rfl, ?_, ?_⟩
      · intro row member
        simp only [persistRecord] at member
        split at member
        · exact keyless.keys row member
        · rcases List.mem_append.mp member with old | new
          · exact keyless.keys row old
          · rw [List.mem_singleton.mp new]
            rfl
      · simp only [gateStep, evaluate, missed, checked, if_true]

theorem Keyless.step {history : GateHistory} (keyless : Keyless history) (call : GateCall)
    : Keyless (gateStep history call).2 := by
  rcases gateStep_cases keyless call with
    ⟨-, error, refused⟩ | ⟨-, record, db, id, next, keys, wrote⟩
  · rw [refused]
    exact keyless
  · rw [wrote]
    refine ⟨keys, ?_, ?_⟩
    · simp only [keyless.same]
    · intro entry member
      dsimp only at member ⊢
      rw [next]
      rcases List.mem_append.mp member with old | new
      · exact Nat.lt_succ_of_lt (keyless.drawn entry old)
      · rw [List.mem_singleton.mp new, id]
        exact Nat.lt_succ_self _

theorem replaysOne_iff {history : GateHistory} (keyless : Keyless history)
    : ReplaysOne tenantId key history ↔ (answersOf tenantId key history).length ≤ 1 := by
  unfold ReplaysOne
  rw [keyless.same]
  constructor
  · rintro ⟨once, -⟩
    simpa [answersOf] using once
  · intro once
    refine ⟨by simpa [answersOf] using once, ?_⟩
    match found : answersOf tenantId key history, once with
    | [], _ => simp
    | [record], _ => simp

theorem answeredOnce_step_iff {history : GateHistory} (keyless : Keyless history) (call : GateCall)
    : (answersOf tenantId key (gateStep history call).2).length ≤ 1
      ↔ (answersOf tenantId key history).length ≤ 1
        ∧ (Carries tenantId key call.request → answersOf tenantId key history ≠ [] →
          ¬ PassesGate call) := by
  rcases gateStep_cases keyless call with
    ⟨refused, error, same⟩ | ⟨admitted, record, db, -, -, -, wrote⟩
  · rw [same]
    exact ⟨fun once => ⟨once, fun _ _ => refused⟩, And.left⟩
  · rw [wrote]
    by_cases carries : Carries tenantId key call.request
    · have longer : (answersOf tenantId key ⟨db, history.returned ++ [(call.request, record)],
            history.written ++ [(call.request, record)]⟩).length
          = (answersOf tenantId key history).length + 1 := by
        simp [answersOf, carries]
      rw [longer]
      constructor
      · intro once
        refine ⟨by omega, fun _ answered => absurd ?_ answered⟩
        exact List.length_eq_zero_iff.mp (by omega)
      · rintro ⟨-, none_⟩
        have empty : answersOf tenantId key history = [] :=
          not_ne_iff.mp (fun answered => none_ carries answered admitted)
        simp [empty]
    · have same : answersOf tenantId key ⟨db, history.returned ++ [(call.request, record)],
            history.written ++ [(call.request, record)]⟩
          = answersOf tenantId key history := by
        simp [answersOf, carries]
      rw [same]
      exact ⟨fun once => ⟨once, fun yes => absurd yes carries⟩, And.left⟩

theorem keyless_newGate : Keyless newGate := by
  refine ⟨?_, rfl, ?_⟩ <;> simp [newGate]

/-- For every tenant and key and every sequence of calls: at most one record is written and all
calls of the key that return return it, exactly when no call of the key is admitted after one was
answered. And none of them is refused after an answer either exactly when none follows an answer.
-/
theorem gateReplays_iff (tenantId key : String) (calls : List GateCall)
    : (ReplaysOne tenantId key (finalState gateStep newGate calls)
        ↔ ∀ visit ∈ visits gateStep newGate calls,
          Carries tenantId key visit.call.request → answersOf tenantId key visit.before ≠ [] →
            ¬ PassesGate visit.call)
      ∧ ((ReplaysOne tenantId key (finalState gateStep newGate calls)
          ∧ ∀ visit ∈ visits gateStep newGate calls, AnsweredAgain tenantId key visit)
        ↔ ∀ visit ∈ visits gateStep newGate calls,
          Carries tenantId key visit.call.request → answersOf tenantId key visit.before = []) := by
  have preserved : ∀ history call, Keyless history → Keyless (gateStep history call).2 :=
    fun _ call keyless => keyless.step call
  have final := (invariant_of_allowed Keyless (fun _ _ => True)
    (fun history call keyless _ => preserved history call keyless) keyless_newGate
    (fun visit (_ : visit ∈ visits gateStep newGate calls) => trivial)).2
  have kept : ∀ history call, Keyless history →
      ((answersOf tenantId key (gateStep history call).2).length ≤ 1
        ↔ (answersOf tenantId key history).length ≤ 1
          ∧ (Carries tenantId key call.request → answersOf tenantId key history ≠ [] →
            ¬ PassesGate call)) :=
    fun history call keyless => answeredOnce_step_iff keyless call
  have once : ReplaysOne tenantId key (finalState gateStep newGate calls)
      ↔ ∀ visit ∈ visits gateStep newGate calls,
        Carries tenantId key visit.call.request → answersOf tenantId key visit.before ≠ [] →
          ¬ PassesGate visit.call := by
    have run := finalState_iff (fun history => (answersOf tenantId key history).length ≤ 1)
      (fun history call => Carries tenantId key call.request →
        answersOf tenantId key history ≠ [] → ¬ PassesGate call) preserved kept
      keyless_newGate calls
    rw [replaysOne_iff final, run]
    exact and_iff_right (by simp [answersOf, newGate])
  refine ⟨once, ?_⟩
  rw [once]
  constructor
  · rintro ⟨refused, again⟩ visit member carries
    by_contra answered
    obtain ⟨record, replied⟩ := again visit member carries answered
    have keyless := (invariant_of_mem_visits Keyless keyless_newGate
      (fun history call _ keyless => preserved history call keyless) member).1
    have stepped := step_of_mem_visits member
    rcases gateStep_cases keyless visit.call with ⟨-, error, same⟩ | ⟨admitted, -⟩
    · rw [same, replied] at stepped
      cases stepped
    · exact refused visit member carries answered admitted
  · intro first
    refine ⟨fun visit member carries answered => ?_, fun visit member carries answered => ?_⟩
    · exact absurd (first visit member carries) answered
    · exact absurd (first visit member carries) answered

def activeReads : GateReads := ⟨some ⟨"tenant-1", "", "start", true⟩, none, 0, 0, 0⟩

def keyedRequest (id : ℕ) : DecisionRequest := ⟨id, "tenant-1", fun _ => none, some "key-1"⟩

/-- A repeated key writes a second record. -/
theorem repeated_key_records_twice
    : ¬ ReplaysOne "tenant-1" "key-1" (finalState gateStep newGate
        [⟨keyedRequest 1, activeReads⟩, ⟨keyedRequest 2, activeReads⟩]) := by
  intro replays
  exact absurd replays.1 (by decide)

end EnterpriseGate

end RomaBridge.Properties
