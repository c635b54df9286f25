import RomaBridge.Model.Webhooks

/-! Which writes a webhook commits: the branch a payload takes and the reads before it. -/

namespace RomaBridge.Behaviour

open RomaBridge.Foundation RomaBridge.Model RomaBridge.Model.Webhooks

/-- Words the first branch takes for a payment. -/
def ReportsPayment (payload : Payload) : Prop :=
  payload.refused = false
    ∧ (payload.eventType ∈ [PyValue.str "Payment", .str "Pay", .str "Completed"]
      ∨ payload.status ∈ [PyValue.str "Completed", .str "Authorized"])

def activation (payload : Payload) (tenantId : String) (plan : PyValue) : List DbWrite :=
  [.updateTenantSubscription tenantId payload.invoiceId "" "active" plan,
    .markInvoiceProcessed payload.invoiceId (payload.eventType.orElse (.str "")) tenantId]

theorem branchWrites_of_payment {payload : Payload} (tenantId : String) {plan : PyValue}
    (reported : ReportsPayment payload) (paid : plan ∈ [PyValue.str "pro", .str "enterprise"])
    (matching : amountMatchesPlan payload.fields plan = true)
    : branchWrites payload tenantId plan = some (activation payload tenantId plan) := by
  obtain ⟨settled, reports⟩ := reported
  have first : ([PyValue.str "Payment", .str "Pay", .str "Completed"].contains payload.eventType
      || [PyValue.str "Completed", .str "Authorized"].contains payload.status) = true := by
    simpa only [Bool.or_eq_true, List.contains_iff_mem] using reports
  have second : [PyValue.str "pro", .str "enterprise"].contains plan = true := by
    simpa only [List.contains_iff_mem] using paid
  simp only [branchWrites, settled, first, second, matching, Bool.not_false, Bool.and_self,
    if_true, Bool.not_true, Bool.false_eq_true, if_false, activation]

theorem activation_of_branchWrites {payload : Payload} {tenantId : String} {plan : PyValue}
    {writes : List DbWrite} (branch : branchWrites payload tenantId plan = some writes)
    {who subscription : String} {customer bought : PyValue}
    (activates : .updateTenantSubscription who customer subscription "active" bought ∈ writes)
    : writes = activation payload tenantId plan ∧ bought = plan
      ∧ amountMatchesPlan payload.fields plan = true
      ∧ (ReportsPayment payload
          ∨ payload.eventType = .str "Recurrent" ∧ payload.status = .str "Completed") := by
  unfold branchWrites at branch
  by_cases first : (! payload.refused
      && ([PyValue.str "Payment", .str "Pay", .str "Completed"].contains payload.eventType
        || [PyValue.str "Completed", .str "Authorized"].contains payload.status)) = true
  · simp only [first, if_true] at branch
    split at branch
    · split at branch
      · cases branch
      · rename_i matching
        obtain rfl := Option.some.inj branch
        have reported : ReportsPayment payload := by
          simpa only [ReportsPayment, Bool.and_eq_true, Bool.not_eq_true', Bool.or_eq_true,
            List.contains_iff_mem] using first
        simp at activates
        exact ⟨rfl, activates.2.2.2, by simpa using matching, Or.inl reported⟩
    · obtain rfl := Option.some.inj branch
      simp at activates
  · simp only [first, Bool.false_eq_true, if_false] at branch
    split at branch
    · rename_i recurrent
      split at branch
      · split at branch
        · cases branch
        · rename_i matching
          obtain rfl := Option.some.inj branch
          simp at activates
          exact ⟨rfl, activates.2.2.2, by simpa using matching, Or.inr (by simpa using recurrent)⟩
      · obtain rfl := Option.some.inj branch
        simp at activates
    · split at branch
      · obtain rfl := Option.some.inj branch
        simp at activates
      · split at branch
        · obtain rfl := Option.some.inj branch
          simp at activates
        · obtain rfl := Option.some.inj branch
          simp at activates

theorem commitWrites_subset (writes : List DbWrite) (faults : List Fault)
    : (commitWrites writes faults).1 ⊆ writes := by
  induction writes generalizing faults with
  | nil => simp [commitWrites]
  | cons write rest ih =>
      unfold commitWrites
      split
      · intro committed member
        rcases List.mem_cons.mp member with rfl | later
        · simp
        · exact List.mem_cons_of_mem _ (ih _ later)
      · simp
      · simp

theorem commitWrites_finished {writes : List DbWrite} {faults : List Fault}
    (finished : (commitWrites writes faults).2 = true)
    : (commitWrites writes faults).1 = writes := by
  induction writes generalizing faults with
  | nil => rfl
  | cons write rest ih =>
      unfold commitWrites at finished ⊢
      cases fault : faults.headD .none with
      | none =>
          simp only [fault] at finished ⊢
          rw [ih finished]
      | before reason =>
          rw [fault] at finished
          cases finished
      | after reason =>
          rw [fault] at finished
          cases finished

/-- The reads of a handler that reaches its branch. -/
structure Reaches (faults : DbFaults) (payload : Payload) (db : WebhookDb) (tenantId : String)
    (plan : PyValue) : Prop where
  account : payload.tenantId = some tenantId
  bought : payload.plan = some plan
  invoiced : payload.invoiceId.truthy = true
  named : tenantId ≠ ""
  answered : faults.reads = none
  known : (db.tenants.find? tenantId).isSome = true
  fresh : db.processed.find? payload.invoiceId = none

theorem handlePayload_of_reaches {faults : DbFaults} {payload : Payload} {db : WebhookDb}
    {tenantId : String} {plan : PyValue} (reaches : Reaches faults payload db tenantId plan)
    : handlePayload faults payload db
      = match branchWrites payload tenantId plan with
        | none => (.code0, [])
        | some writes =>
            (if (commitWrites writes [faults.firstWrite, faults.secondWrite]).2 then .code0
              else .http 500,
              (commitWrites writes [faults.firstWrite, faults.secondWrite]).1) := by
  have present : (db.tenants.find? tenantId).isNone = false := by
    simpa using reaches.known
  cases branch : branchWrites payload tenantId plan with
  | none =>
      simp [handlePayload, reaches.account, reaches.bought, reaches.invoiced, reaches.named,
        reaches.answered, WebhookDb.isInvoiceProcessed, reaches.fresh, present, branch]
  | some writes =>
      simp [handlePayload, reaches.account, reaches.bought, reaches.invoiced, reaches.named,
        reaches.answered, WebhookDb.isInvoiceProcessed, reaches.fresh, present, branch]

theorem reaches_of_commits {faults : DbFaults} {payload : Payload} {db : WebhookDb}
    (commits : (handlePayload faults payload db).2 ≠ [])
    : ∃ tenantId plan, Reaches faults payload db tenantId plan := by
  unfold handlePayload at commits
  cases account : payload.tenantId with
  | none => simp [account] at commits
  | some tenantId =>
      cases bought : payload.plan with
      | none => simp [account, bought] at commits
      | some plan =>
          refine ⟨tenantId, plan, ?_⟩
          simp only [account, bought] at commits
          split at commits
          · exact absurd rfl commits
          · rename_i invoiced
            split at commits
            · exact absurd rfl commits
            · rename_i named
              cases answered : faults.reads with
              | some exn => simp [answered] at commits
              | none =>
                  simp only [answered] at commits
                  split at commits
                  · exact absurd rfl commits
                  · rename_i known
                    split at commits
                    · exact absurd rfl commits
                    · split at commits
                      · exact absurd rfl commits
                      · rename_i unrecorded
                        refine ⟨account, bought, by simpa using invoiced, named, answered,
                          ?_, ?_⟩
                        · rw [Option.isSome_iff_ne_none]
                          simpa using known
                        · cases recorded : db.processed.find? payload.invoiceId with
                          | none => rfl
                          | some row =>
                              simp [WebhookDb.isInvoiceProcessed, recorded] at unrecorded

end RomaBridge.Behaviour
