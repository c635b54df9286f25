import RomaBridge.Foundation.Trace
import RomaBridge.Model.Scheduler

/-! Who may read a stored result, and which jobs are started. The owner of a job id is whoever named it
last, admitted or not; the result under the id is from the last submit that was executed. Routing is
fail-closed: a job is queued, and anything is started for it, only when every guard of `route_job`
let it through.
-/

namespace RomaBridge.Properties

open RomaBridge.Foundation RomaBridge.Model RomaBridge.Model.Scheduling
open RomaBridge.Model RomaBridge.Model.Scheduling

def Submission.names (jobId : String) (submission : Submission) : Bool :=
  hashKey submission.jobId = some (.str jobId)

/-- The submit was admitted and executed, so that it stores a result. -/
def Submission.produced (submission : Submission) : Bool :=
  match submission.outcome with
  | .ok (some _) => true
  | _ => false

def Submission.result (submission : Submission) : Option ExecReply :=
  match submission.outcome with
  | .ok result => result
  | .error _ => none

def lastSubmit (submits : List Submission) (jobId : String) : Option Submission :=
  submits.reverse.find? (Submission.names jobId)

def lastProducer (submits : List Submission) (jobId : String) : Option Submission :=
  submits.reverse.find? (fun submission =>
    Submission.names jobId submission && Submission.produced submission)

def executorAfter (submits : List Submission) : Executor :=
  finalState Executor.submit Executor.fresh submits

def ResultsPrivate (submits : List Submission) : Prop :=
  ∀ jobId tenantId result, tenantId ≠ "" →
    (executorAfter submits).getResult jobId tenantId = some result →
      ∃ producer, lastProducer submits jobId = some producer
        ∧ Submission.result producer = some result ∧ producer.tenantId = .str tenantId

/-- Under every job id with a stored result the last submit, admitted or not, names a tenant, and
the same one whose submit produced the result.
-/
def OwnersKept (submits : List Submission) : Prop :=
  ∀ jobId producer last, lastProducer submits jobId = some producer →
    lastSubmit submits jobId = some last →
      last.tenantId.truthy = true
        ∧ ∀ tenantId, last.tenantId = .str tenantId → producer.tenantId = .str tenantId

theorem submit_entries (executor : Executor) (submission : Submission) (jobId : String)
    : (executor.submit submission).2.ownership (.str jobId)
        = (if Submission.names jobId submission = true then some submission.tenantId
          else executor.ownership (.str jobId))
      ∧ (executor.submit submission).2.results (.str jobId)
        = if Submission.names jobId submission = true ∧ Submission.produced submission = true then
            Submission.result submission
          else executor.results (.str jobId) := by
  unfold Executor.submit Submission.names Submission.produced Submission.result
  cases hashKey submission.jobId with
  | none => simp
  | some key =>
      by_cases same : key = .str jobId
      · subst same
        cases submission.outcome with
        | error exn => simp [assign]
        | ok reply =>
            cases reply with
            | none => simp [assign]
            | some result => simp [assign]
      · have other : ¬ PyValue.str jobId = key := fun equal => same equal.symm
        cases submission.outcome with
        | error exn => simp [assign, same, other]
        | ok reply =>
            cases reply with
            | none => simp [assign, same, other]
            | some result => simp [assign, same, other]

/-- After a sequence of submits the owner is the last submitter and the result the last one that
was produced. Witness: induction on the sequence, from its end.
-/
theorem executorAfter_entries (submits : List Submission) (jobId : String)
    : (executorAfter submits).ownership (.str jobId)
        = (lastSubmit submits jobId).map Submission.tenantId
      ∧ (executorAfter submits).results (.str jobId)
        = (lastProducer submits jobId).bind Submission.result := by
  induction submits using List.reverseRecOn with
  | nil => exact ⟨rfl, rfl⟩
  | append_singleton earlier submission ih =>
      obtain ⟨ownerBefore, resultBefore⟩ := ih
      obtain ⟨owner, result⟩ := submit_entries (executorAfter earlier) submission jobId
      have last : executorAfter (earlier ++ [submission])
          = ((executorAfter earlier).submit submission).2 := by
        simp [executorAfter, finalState]
      rw [last, owner, result, ownerBefore, resultBefore]
      simp only [lastSubmit, lastProducer, List.reverse_append, List.reverse_cons,
        List.reverse_nil, List.nil_append, List.singleton_append, List.find?_cons]
      constructor
      · cases Submission.names jobId submission <;> simp
      · cases Submission.names jobId submission <;> cases Submission.produced submission <;> simp

theorem lastSubmit_of_lastProducer {submits : List Submission} {jobId : String}
    {producer : Submission} (found : lastProducer submits jobId = some producer)
    : ∃ last, lastSubmit submits jobId = some last := by
  have member := List.mem_of_find?_eq_some found
  have named := List.find?_some found
  simp only [Bool.and_eq_true] at named
  have some : (lastSubmit submits jobId).isSome = true := by
    rw [lastSubmit, List.find?_isSome]
    exact ⟨producer, member, named.1⟩
  exact Option.isSome_iff_exists.mp some

theorem result_of_lastProducer {submits : List Submission} {jobId : String}
    {producer : Submission} (found : lastProducer submits jobId = some producer)
    : ∃ result, Submission.result producer = some result := by
  have produced := List.find?_some found
  simp only [Bool.and_eq_true] at produced
  have executed := produced.2
  unfold Submission.produced at executed
  unfold Submission.result
  split at executed
  · rename_i result shape
    exact ⟨result, by rw [shape]⟩
  · cases executed

theorem getResult_some {executor : Executor} {jobId tenantId : String} {result : ExecReply}
    (read : executor.getResult jobId tenantId = some result)
    : executor.results (.str jobId) = some result
      ∧ (tenantId ≠ "" → ∀ owner, executor.ownership (.str jobId) = some owner →
          owner.truthy = true → owner = .str tenantId) := by
  unfold Executor.getResult at read
  cases owned : executor.ownership (.str jobId) with
  | none =>
      simp only [owned, Bool.and_false, Bool.false_eq_true, if_false] at read
      exact ⟨read, by simp⟩
  | some owner =>
      simp only [owned, ite_eq_iff, reduceCtorEq, and_false, false_or, Bool.and_eq_true,
        decide_eq_true_eq, not_and, not_not] at read
      obtain ⟨granted, found⟩ := read
      refine ⟨found, ?_⟩
      intro nonempty other same somebody
      obtain rfl := Option.some.inj same
      exact granted nonempty somebody

/-- For every sequence of submits, by any tenants and with any job ids: results are private to
their tenant if and only if the last submit under each job id with a result names a tenant, the
one whose submit produced it.
-/
theorem executor_results_private_iff (submits : List Submission)
    : ResultsPrivate submits ↔ OwnersKept submits := by
  constructor
  · intro isPrivate jobId producer last produced submitted
    obtain ⟨owner, stored⟩ := executorAfter_entries submits jobId
    obtain ⟨result, shape⟩ := result_of_lastProducer produced
    rw [submitted, Option.map_some] at owner
    rw [produced, Option.bind_some, shape] at stored
    have somebody : last.tenantId.truthy = true := by
      by_contra nobody
      -- an owner that is no tenant lets every tenant read
      have readable : ∀ tenantId : String, tenantId ≠ "" →
          producer.tenantId = .str tenantId := by
        intro tenantId nonempty
        have read : (executorAfter submits).getResult jobId tenantId = some result := by
          simp [Executor.getResult, owner, stored, nobody]
        obtain ⟨same, found, _, tenant⟩ := isPrivate jobId tenantId result nonempty read
        obtain rfl := Option.some.inj (produced.symm.trans found)
        exact tenant
      have first := readable "a" (by decide)
      rw [readable "b" (by decide)] at first
      exact absurd first (by decide)
    refine ⟨somebody, ?_⟩
    intro tenantId named
    have nonempty : tenantId ≠ "" := by simpa [named, PyValue.truthy] using somebody
    have read : (executorAfter submits).getResult jobId tenantId = some result := by
      simp [Executor.getResult, owner, stored, named]
    obtain ⟨same, found, _, tenant⟩ := isPrivate jobId tenantId result nonempty read
    obtain rfl := Option.some.inj (produced.symm.trans found)
    exact tenant
  · intro kept jobId tenantId result nonempty read
    obtain ⟨owner, stored⟩ := executorAfter_entries submits jobId
    obtain ⟨found, granted⟩ := getResult_some read
    rw [stored, Option.bind_eq_some_iff] at found
    obtain ⟨producer, produced, shape⟩ := found
    obtain ⟨last, submitted⟩ := lastSubmit_of_lastProducer produced
    rw [submitted, Option.map_some] at owner
    obtain ⟨somebody, same⟩ := kept jobId producer last produced submitted
    exact ⟨producer, produced, shape, same tenantId (granted nonempty _ owner somebody)⟩

/-- A scheduler that approves the jobs of tenant `a` and rejects all others. -/
def onlyTenantA : Scheduler where
  gateUnavailableReason := none
  costGate := some (fun _ _ => .ok ⟨.allowed, "quota ok"⟩)
  predict := fun arguments =>
    .ok { decision := some (if arguments.tenantId = .str "a" then "APPROVED" else "REJECTED")
          decisionCategory := none }
  connectorAvailable := .ok true

def submitOf (tenantId : String) : Submission where
  job
    | "tenant_id" => some (.str tenantId)
    | "job_id" => some (.str "j")
    | _ => none
  drawnId := ""
  scheduler := onlyTenantA
  outside := ⟨fun _ => .ok "secret", fun _ => .ok [], fun _ => .ok (0, "", "")⟩

/-- Tenant `b` submits under the job id of tenant `a`, is rejected, and reads the result. -/
theorem rejected_submit_reads_result
    : ¬ ResultsPrivate [submitOf "a", submitOf "b"] := by
  intro isPrivate
  obtain ⟨producer, found, _, tenant⟩ :=
    isPrivate "j" "b" (.gpuResult "secret") (by decide) (by decide +kernel)
  have first : lastProducer [submitOf "a", submitOf "b"] "j" = some (submitOf "a") := rfl
  obtain rfl := Option.some.inj (first.symm.trans found)
  exact absurd tenant (by decide +kernel)

/-- The guards a queued job has passed; `ledger` holds the audit events committed by then. -/
structure RouteAdmitted (scheduler : Scheduler) (behaviour : LedgerBehaviour) (job : JobDict)
    (ledger : AuditLedger) : Prop where
  /-- The decision gate is available. -/
  available : scheduler.gateUnavailableReason = none
  /-- The gate allowed the tenant. -/
  allowed : ∃ evaluate decision, scheduler.costGate = some evaluate
    ∧ evaluate (job.getOr "tenant_id" (.str "default")) (gatePayload job) = .ok decision
    ∧ decision.result = .allowed
  /-- The verdict allows the job, with no rejecting category; a verdict that asks for a
  confirmation needs the boolean flag and a durable event for the job. -/
  verdict : ∃ prediction text, scheduler.predict (predictArguments job) = .ok prediction
    ∧ prediction.decision = some text ∧ text ∈ allowedVerdicts
    ∧ (∀ category, prediction.decisionCategory = some category →
        category ∉ rejectionDecisions)
    ∧ (text = requiresConfirmation →
        job.get confirmationFlag = .bool true
        ∧ ∃ event ∈ ledger, event.eventType = "job.user_confirmed"
          ∧ event.tenantId = (job.get "tenant_id").orElse (.str "unknown")
          ∧ event.entityId = (job.get "job_id").orElse (.str "unknown")
          ∧ ((job.get "job_id").truthy = false →
              event = confirmationEvent behaviour.eventId job prediction))

theorem allowed_of_not_rejection {decision category : Option String}
    (passes : isRejection decision category = false)
    : (∃ text, decision = some text ∧ text ∈ allowedVerdicts)
      ∧ ∀ code, category = some code → code ∉ rejectionDecisions := by
  simp only [isRejection, List.any_cons, List.any_nil, Bool.or_false, Bool.or_eq_false_iff,
    Bool.not_eq_false'] at passes
  obtain ⟨⟨_, categoryPasses⟩, declared⟩ := passes
  refine ⟨?_, ?_⟩
  · cases decision with
    | none => simp [allowedVerdicts, requiresConfirmation] at declared
    | some text => exact ⟨text, rfl, by simpa using declared⟩
  · intro code same rejecting
    subst same
    have nonempty : code ≠ "" := by
      intro empty
      subst empty
      simp [rejectionDecisions, gateUnavailable] at rejecting
    simp [nonempty, rejecting] at categoryPasses

theorem gate_allows {result : GateResult} (passes : isRejection (some result.value) none = false)
    : result = .allowed := by
  cases result with
  | allowed => rfl
  | denied => exact absurd passes (by decide)

/-- How the insert of a write ends. -/
def insertReply (behaviour : LedgerBehaviour) (event : AuditEvent) (current : AuditLedger)
    : Except Exn Bool × AuditLedger :=
  match behaviour.insertFails with
  | none => (.ok (decide (current.insert event ≠ current)), current.insert event)
  | some exn => (.error exn, if behaviour.insertCommits then current.insert event else current)

theorem written_of_insertReply {behaviour : LedgerBehaviour} {event : AuditEvent}
    {current written : AuditLedger} {inserted : Bool}
    (wrote : insertReply behaviour event current = (.ok inserted, written))
    : written = current.insert event := by
  unfold insertReply at wrote
  cases fails : behaviour.insertFails with
  | none =>
      simp only [fails, Prod.mk.injEq] at wrote
      exact wrote.2.symm
  | some exn => simp [fails] at wrote

theorem event_of_writeEventOnce {behaviour : LedgerBehaviour} {event : AuditEvent}
    {dedupe : Bool} {ledger written : AuditLedger} {inserted : Bool}
    (wrote : writeEventOnce behaviour event dedupe ledger = (.ok inserted, written))
    (unkeyed : dedupe = false → event.entityId = .str "unknown")
    : ∃ stored ∈ written, stored.eventType = event.eventType
      ∧ stored.tenantId = event.tenantId ∧ stored.entityId = event.entityId
      ∧ (dedupe = false → stored = event) := by
  have found : ∀ {rows : AuditLedger},
      rows.eventExists event.tenantId event.eventType event.entityId = true →
      ∃ stored ∈ rows, stored.eventType = event.eventType
        ∧ stored.tenantId = event.tenantId ∧ stored.entityId = event.entityId := by
    intro rows present
    simp only [AuditLedger.eventExists, List.any_eq_true, Bool.and_eq_true,
      decide_eq_true_eq] at present
    obtain ⟨stored, member, ⟨tenant, kind⟩, entity⟩ := present
    exact ⟨stored, member, kind, tenant, entity⟩
  have afterInsert : ∀ rows : AuditLedger, ∃ stored ∈ rows.insert event,
      stored.eventType = event.eventType ∧ stored.tenantId = event.tenantId
        ∧ stored.entityId = event.entityId ∧ (dedupe = false → stored = event) := by
    intro rows
    unfold AuditLedger.insert
    split
    · rename_i conflict
      simp only [Bool.and_eq_true, decide_eq_true_eq] at conflict
      obtain ⟨stored, member, kind, tenant, entity⟩ := found conflict.2
      exact ⟨stored, member, kind, tenant, entity, fun keyless => absurd (unkeyed keyless) conflict.1⟩
    · exact ⟨event, by simp, rfl, rfl, rfl, fun _ => rfl⟩
  unfold writeEventOnce at wrote
  cases dedupe with
  | false =>
      simp only [Bool.not_false, if_true] at wrote
      rw [written_of_insertReply wrote]
      exact afterInsert _
  | true =>
      simp only [Bool.not_true, Bool.false_eq_true, if_false] at wrote
      cases lookup : behaviour.existsFails with
      | some exn => simp [lookup] at wrote
      | none =>
          simp only [lookup] at wrote
          by_cases present : ledger.eventExists event.tenantId event.eventType event.entityId = true
          · simp only [present, if_true, Prod.mk.injEq] at wrote
            obtain ⟨stored, member, kind, tenant, entity⟩ := found present
            exact ⟨stored, wrote.2 ▸ member, kind, tenant, entity, fun keyless => by cases keyless⟩
          · simp only [present, Bool.false_eq_true, if_false] at wrote
            rw [written_of_insertReply wrote]
            exact afterInsert _

theorem allowed_of_routeThroughGate {scheduler : Scheduler} {job : JobDict}
    {prediction : Prediction} {confirmed : Bool} {route : Route}
    (routed : routeThroughGate scheduler job prediction confirmed = .ok route)
    (queued : route.isQueued = true)
    : ∃ evaluate decision, scheduler.costGate = some evaluate
      ∧ evaluate (job.getOr "tenant_id" (.str "default")) (gatePayload job) = .ok decision
      ∧ decision.result = .allowed := by
  unfold routeThroughGate at routed
  cases gate : scheduler.costGate with
  | none =>
      simp only [gate, pure_bind] at routed
      obtain rfl := Except.ok.inj routed
      cases queued
  | some evaluate =>
      simp only [gate] at routed
      cases decided : evaluate (job.getOr "tenant_id" (.str "default")) (gatePayload job) with
      | error exn =>
          rw [decided] at routed
          cases routed
      | ok decision =>
          refine ⟨evaluate, decision, rfl, decided, ?_⟩
          rw [decided] at routed
          simp only [bind, Except.bind, pure, Except.pure, Bool.not_not] at routed
          cases rejection : isRejection (some decision.result.value) none with
          | false => exact gate_allows rejection
          | true =>
              simp only [rejection, if_true] at routed
              obtain rfl := Except.ok.inj routed
              cases queued

theorem admitted_of_routeJob {scheduler : Scheduler} {behaviour : LedgerBehaviour} {job : JobDict}
    {ledger written : AuditLedger} {route : Route}
    (routed : routeJob scheduler behaviour job ledger = (.ok route, written))
    (queued : route.isQueued = true)
    : RouteAdmitted scheduler behaviour job written := by
  unfold routeJob at routed
  cases unavailable : scheduler.gateUnavailableReason with
  | some reason =>
      simp only [unavailable, Prod.mk.injEq, Except.ok.injEq] at routed
      obtain ⟨rfl, _⟩ := routed
      cases queued
  | none =>
      simp only [unavailable] at routed
      cases predicted : scheduler.predict (predictArguments job) with
      | error exn => simp [predicted] at routed
      | ok prediction =>
          simp only [predicted] at routed
          cases rejected : isRejection prediction.decision prediction.decisionCategory with
          | true =>
              simp only [rejected, if_true, Prod.mk.injEq, Except.ok.injEq] at routed
              obtain ⟨rfl, _⟩ := routed
              cases queued
          | false =>
              obtain ⟨⟨text, decision, declared⟩, categories⟩ := allowed_of_not_rejection rejected
              simp only [rejected, Bool.false_eq_true, if_false] at routed
              by_cases asks : prediction.decision = some requiresConfirmation
              · simp only [asks, if_true] at routed
                by_cases flagged : job.get confirmationFlag = .bool true
                · simp only [flagged, ne_eq, not_true_eq_false, if_false] at routed
                  cases recorded : recordUserConfirmation behaviour job prediction ledger with
                  | mk outcome after =>
                      rw [recorded] at routed
                      cases outcome with
                      | error exn =>
                          simp only at routed
                          split at routed
                          · simp only [Prod.mk.injEq, Except.ok.injEq] at routed
                            obtain ⟨rfl, _⟩ := routed
                            cases queued
                          · simp at routed
                      | ok inserted =>
                          simp only [Prod.mk.injEq] at routed
                          obtain ⟨gated, rfl⟩ := routed
                          refine ⟨unavailable, allowed_of_routeThroughGate gated queued,
                            prediction, text, predicted, decision, declared, categories, ?_⟩
                          intro _
                          refine ⟨flagged, ?_⟩
                          exact event_of_writeEventOnce recorded (by
                            intro keyless
                            simp [confirmationEvent, PyValue.orElse, keyless])
                · simp only [ne_eq, flagged, not_false_eq_true, if_true, Prod.mk.injEq,
                    Except.ok.injEq] at routed
                  obtain ⟨rfl, _⟩ := routed
                  cases queued
              · simp only [asks, if_false, Prod.mk.injEq] at routed
                obtain ⟨gated, rfl⟩ := routed
                refine ⟨unavailable, allowed_of_routeThroughGate gated queued,
                  prediction, text, predicted, decision, declared, categories, ?_⟩
                intro confirmation
                exact absurd (confirmation ▸ decision) asks

/-- For every job, scheduler and behaviour of predictor, gate and ledger: `route_job` queues the
job only if it was admitted, and `execute_job` starts something only if it was admitted.
-/
theorem routing_fail_closed (scheduler : Scheduler) (outside : Outside)
    (behaviour : LedgerBehaviour) (job : JobDict) (ledger : AuditLedger)
    : (∀ route, (routeJob scheduler behaviour job ledger).1 = .ok route →
        route.isQueued = true →
          RouteAdmitted scheduler behaviour job (routeJob scheduler behaviour job ledger).2)
      ∧ ∀ started, (executeJob scheduler outside behaviour job ledger).2.1 = some started →
          RouteAdmitted scheduler behaviour job
            (executeJob scheduler outside behaviour job ledger).2.2 := by
  refine ⟨?_, ?_⟩
  · intro route routed queued
    exact admitted_of_routeJob (Prod.ext routed rfl) queued
  · intro started ran
    unfold executeJob at ran ⊢
    cases shape : routeJob scheduler behaviour job ledger with
    | mk outcome written =>
        rw [shape] at ran
        cases outcome with
        | error exn => cases ran
        | ok route =>
            cases route with
            | rejected reason detail hint cost => cases ran
            | queued target jobId cost decision confirmed =>
                have admitted := admitted_of_routeJob shape rfl
                cases target with
                | gpuWorker => exact admitted
                | localProcess => exact admitted

def confirmedJob : JobDict
  | "tenant_id" => some (.str "t")
  | "confirmed" => some (.bool true)
  | _ => none

def cautiousScheduler : Scheduler where
  gateUnavailableReason := none
  costGate := some (fun _ _ => .ok ⟨.allowed, "quota ok"⟩)
  predict := fun _ => .ok { decision := some requiresConfirmation, decisionCategory := none }
  connectorAvailable := .ok true

/-- The confirmed job is queued, so it was admitted: its confirmation is in the ledger. -/
theorem confirmedJob_admitted
    : RouteAdmitted cautiousScheduler {} confirmedJob
        (routeJob cautiousScheduler {} confirmedJob []).2 :=
  (routing_fail_closed cautiousScheduler ⟨fun _ => .ok "", fun _ => .ok [], fun _ => .ok (0, "", "")⟩
    {} confirmedJob []).1
    (.queued .gpuWorker .none (.int 0) "allowed" true) (by decide +kernel) rfl

end RomaBridge.Properties
