import RomaBridge.Model.AuditTrail

/-! Records of audited actions. The table only grows, by the record of each call that the index lets
through; a record is owed but missing exactly when a plain write repeats the key of a row.
-/

namespace RomaBridge.Properties

open RomaBridge.Foundation RomaBridge.Model.Audit

def MaySkip (events : List AuditEvent) : AuditCall → Bool
  | .writeEvent _ => false
  | .writeEventOnce event dedupe => dedupe && events.any (fun row => row.sameKey event)

def owedRecord (visit : Visit (List AuditEvent) AuditCall AuditReply) : Option AuditEvent :=
  match visit.reply with
  | .written _ => some visit.call.event
  | .raised => none
  | .skipped => if MaySkip visit.before visit.call then none else some visit.call.event

/-- After the calls the table holds what it held, and one record for each call that owes one. -/
def HoldsOwedRecords (events : List AuditEvent) (calls : List AuditCall) : Prop :=
  finalState auditStep events calls
    = events ++ (visits auditStep events calls).filterMap owedRecord

def Unrepeated (events : List AuditEvent) : AuditCall → Prop
  | .writeEventOnce _ true => True
  | .writeEventOnce event false | .writeEvent event =>
      event.indexed → ∀ row ∈ events, ¬ row.sameKey event

def leftRecord (visit : Visit (List AuditEvent) AuditCall AuditReply) : Option AuditEvent :=
  match visit.reply with
  | .written _ => some visit.call.event
  | _ => none

variable {events : List AuditEvent} {event : AuditEvent}

def auditVisit (events : List AuditEvent) (call : AuditCall)
    : Visit (List AuditEvent) AuditCall AuditReply :=
  ⟨events, call, (auditStep events call).1, (auditStep events call).2⟩

theorem insertAuditEvent_cases (events : List AuditEvent) (event : AuditEvent)
    : ((insertAuditEvent events event).1 = .written event.id
        ∧ (insertAuditEvent events event).2 = events ++ [event])
      ∨ ((insertAuditEvent events event).1 ∈ [AuditReply.skipped, .raised]
        ∧ (insertAuditEvent events event).2 = events) := by
  unfold insertAuditEvent
  split
  · exact .inr ⟨by simp, rfl⟩
  · split
    · exact .inr ⟨by simp, rfl⟩
    · exact .inl ⟨rfl, rfl⟩

theorem insertAuditEvent_skipped_iff
    : (insertAuditEvent events event).1 = .skipped
      ↔ event.indexed ∧ ∃ row ∈ events, row.sameKey event := by
  unfold insertAuditEvent
  split
  · rename_i conflict
    refine iff_of_true rfl ?_
    simpa using conflict
  · rename_i free
    refine iff_of_false ?_ ?_
    · split
      · simp
      · simp
    · simpa using free

theorem auditStep_appends (events : List AuditEvent) (call : AuditCall)
    : (auditStep events call).2 = events ++ (leftRecord (auditVisit events call)).toList := by
  have plain : ∀ event : AuditEvent,
      (insertAuditEvent events event).2
        = events ++ (match (insertAuditEvent events event).1 with
            | .written _ => some event
            | _ => none).toList := by
    intro event
    rcases insertAuditEvent_cases events event with
      ⟨reply, after⟩ | ⟨reply, after⟩
    · rw [reply, after]
      rfl
    · simp only [List.mem_cons, List.not_mem_nil, or_false] at reply
      rcases reply with reply | reply
      · rw [reply, after]
        simp
      · rw [reply, after]
        simp
  cases call with
  | writeEvent event => exact plain event
  | writeEventOnce event dedupe =>
      simp only [auditVisit, leftRecord, auditStep, writeEventOnce]
      split
      · exact plain event
      · split
        · simp
        · exact plain event

theorem owed_of_left {visit : Visit (List AuditEvent) AuditCall AuditReply} {event : AuditEvent}
    (left : leftRecord visit = some event)
    : owedRecord visit = some event := by
  unfold leftRecord at left
  unfold owedRecord
  split at left
  · rename_i written
    rw [written]
    exact left
  · cases left

theorem left_eq_owed_iff {visit : Visit (List AuditEvent) AuditCall AuditReply}
    : leftRecord visit = owedRecord visit
      ↔ (visit.reply = .skipped → MaySkip visit.before visit.call) := by
  unfold leftRecord owedRecord
  cases visit.reply with
  | written id => simp
  | raised => simp
  | skipped =>
      cases MaySkip visit.before visit.call with
      | false => simp
      | true => simp

theorem maySkip_iff (events : List AuditEvent) (call : AuditCall)
    : ((auditStep events call).1 = .skipped → MaySkip events call) ↔ Unrepeated events call := by
  have plain : ∀ event : AuditEvent,
      ((insertAuditEvent events event).1 = .skipped → false = true)
        ↔ (event.indexed → ∀ row ∈ events, ¬ row.sameKey event) := by
    intro event
    rw [insertAuditEvent_skipped_iff]
    constructor
    · intro never indexed row mem same
      exact absurd (never ⟨indexed, row, mem, same⟩) (by simp)
    · intro fresh conflict
      obtain ⟨indexed, row, mem, same⟩ := conflict
      exact absurd same (fresh indexed row mem)
  cases call with
  | writeEvent event => exact plain event
  | writeEventOnce event dedupe =>
      cases dedupe with
      | false => exact plain event
      | true =>
          refine iff_of_true ?_ trivial
          simp only [auditStep, writeEventOnce, Bool.not_true, Bool.false_eq_true, if_false, MaySkip,
            Bool.true_and]
          split
          · rename_i present
            intro _
            exact (Bool.and_eq_true _ _ ▸ present).2
          · intro skipped
            obtain ⟨_, row, mem, same⟩ := insertAuditEvent_skipped_iff.mp skipped
            exact List.any_eq_true.mpr ⟨row, mem, same⟩

theorem finalState_auditStep (events : List AuditEvent) (calls : List AuditCall)
    : finalState auditStep events calls
      = events ++ (visits auditStep events calls).filterMap leftRecord :=
  finalState_log auditStep_appends events calls

/-- After any sequence of calls the table holds one record for each call that owes one exactly when
no write without deduplication repeats the key of a row that the index covers.
-/
theorem audit_trail_iff (events : List AuditEvent) (calls : List AuditCall)
    : HoldsOwedRecords events calls
      ↔ ∀ visit ∈ visits auditStep events calls, Unrepeated visit.before visit.call := by
  unfold HoldsOwedRecords
  rw [finalState_auditStep, List.append_cancel_left_eq,
    filterMap_eq_owed_iff (fun visit _ event left => owed_of_left left)]
  refine forall₂_congr ?_
  intro visit visited
  rw [left_eq_owed_iff, ← maySkip_iff, step_of_mem_visits visited]

def topUpTwice : List AuditCall :=
  [AuditedAction.call "event-1" (.topUp "admin" "tenant-1" "5"),
    AuditedAction.call "event-2" (.topUp "admin" "tenant-1" "7")]

/-- The second top-up of a tenant leaves no record. -/
theorem second_topUp_unrecorded
    : finalState auditStep [] topUpTwice
        = [⟨"event-1", "admin", "billing.topup", "tenant", some "tenant-1", "5"⟩]
      ∧ ¬ HoldsOwedRecords [] topUpTwice := by
  refine ⟨by decide, ?_⟩
  unfold HoldsOwedRecords
  decide

end RomaBridge.Properties
