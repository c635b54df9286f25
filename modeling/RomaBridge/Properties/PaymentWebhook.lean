import RomaBridge.Behaviour.WebhookBranches
import RomaBridge.Foundation.Trace
import RomaBridge.Model.Subscriptions

/-! What payment notifications may do to a subscription, and where its two databases differ. The branch of a
notification is chosen from `OperationType` and `Status` together, so a status that reports money
activates under any operation type. An invoice is recorded by the first delivery that reaches the end
of its branch; from then on every delivery is answered without a look at it.
-/

namespace RomaBridge.Properties

open RomaBridge.Foundation RomaBridge.Model RomaBridge.Model.Webhooks RomaBridge.Behaviour

def paymentOperations : List PyValue :=
  [.str "Payment", .str "Pay", .str "Completed", .str "Recurrent"]

/-- `OperationType` is absent or that of a payment, and `Status` is not a refusal. -/
def SettledOperation (payload : Payload) : Prop :=
  ((payload.fields.get "OperationType").truthy = false
    ∨ payload.fields.get "OperationType" ∈ paymentOperations)
  ∧ payload.status ≠ .str "Declined" ∧ payload.status ≠ .str "Cancelled"

def PaysPlan (payload : Payload) (plan : PyValue) : Prop :=
  ∃ amount currency text, expectedPlanMoney plan = some (amount, currency)
    ∧ amountOf (payload.fields.get "Amount") = some amount
    ∧ payload.fields.get "Currency" = .str text ∧ (pyStrip text).toUpper = currency

/-- Whatever the configuration, the tables and the faults: a delivery of the payload sets a
subscription active only on settled money for its plan.
-/
def ActivatesOnSettledMoney (payload : Payload) : Prop :=
  ∀ delivery db, delivery.body = .object payload →
    ∀ tenantId customer subscription plan,
      .updateTenantSubscription tenantId customer subscription "active" plan
        ∈ (cloudpaymentsWebhook db delivery).1.2 →
      SettledOperation payload ∧ PaysPlan payload plan

/-- The payload names an invoice, an account and a paid plan with its money, and its status
reports money under an operation type that is present and is no payment.
-/
structure MisreadOperation (payload : Payload) (tenantId : String) (plan : PyValue) : Prop where
  invoiced : payload.invoiceId.truthy = true
  account : payload.tenantId = some tenantId
  named : tenantId ≠ ""
  bought : payload.plan = some plan
  paid : plan ∈ [PyValue.str "pro", .str "enterprise"]
  matching : amountMatchesPlan payload.fields plan = true
  reports : payload.status ∈ [PyValue.str "Completed", .str "Authorized"]
  present : (payload.fields.get "OperationType").truthy = true
  foreign : payload.fields.get "OperationType" ∉ paymentOperations

theorem paysPlan_of_matches {payload : Payload} {plan : PyValue}
    (matching : amountMatchesPlan payload.fields plan = true)
    : PaysPlan payload plan := by
  unfold amountMatchesPlan at matching
  cases expected : expectedPlanMoney plan with
  | none => simp [expected] at matching
  | some money =>
      obtain ⟨amount, currency⟩ := money
      simp only [expected] at matching
      cases field : payload.fields.get "Currency" with
      | str text =>
          simp only [field, Bool.and_eq_true, decide_eq_true_eq] at matching
          exact ⟨amount, currency, text, expected, matching.2, field, matching.1.2⟩
      | none => simp [field] at matching
      | bool value => simp [field] at matching
      | int value => simp [field] at matching
      | float value => simp [field] at matching
      | other truthy => simp [field] at matching

theorem paid_of_expected {plan : PyValue} {money : ℚ × String}
    (expected : expectedPlanMoney plan = some money)
    : plan ∈ [PyValue.str "pro", .str "enterprise"] := by
  cases plan with
  | str name =>
      by_cases pro : name = "pro"
      · simp [pro]
      · by_cases enterprise : name = "enterprise"
        · simp [enterprise]
        · have notPro : (name == "pro") = false := by simpa using pro
          have notEnterprise : (name == "enterprise") = false := by simpa using enterprise
          simp only [expectedPlanMoney, cloudpaymentsPlans, List.lookup_cons, List.lookup_nil,
            notPro, notEnterprise] at expected
          cases expected
  | none => cases expected
  | bool value => cases expected
  | int value => cases expected
  | float value => cases expected
  | other truthy => cases expected

theorem refused_eq_false {payload : Payload}
    : payload.refused = false
      ↔ payload.status ≠ .str "Declined" ∧ payload.status ≠ .str "Cancelled" := by
  simp [Payload.refused, refusedStatuses]

theorem commits_of_delivery {db : WebhookDb} {delivery : Delivery} {payload : Payload}
    (body : delivery.body = .object payload) {write : DbWrite}
    (committed : write ∈ (cloudpaymentsWebhook db delivery).1.2)
    : write ∈ (handlePayload delivery.faults payload db).2 := by
  simp only [cloudpaymentsWebhook, body] at committed
  split at committed
  · simp at committed
  · split at committed
    · simp at committed
    · exact committed

theorem activation_of_commits {faults : DbFaults} {payload : Payload} {db : WebhookDb}
    {tenantId subscription : String} {customer plan : PyValue}
    (committed : .updateTenantSubscription tenantId customer subscription "active" plan
      ∈ (handlePayload faults payload db).2)
    : ∃ account, Reaches faults payload db account plan
      ∧ amountMatchesPlan payload.fields plan = true
      ∧ (ReportsPayment payload
          ∨ payload.eventType = .str "Recurrent" ∧ payload.status = .str "Completed") := by
  obtain ⟨account, bought, reaches⟩ := reaches_of_commits (List.ne_nil_of_mem committed)
  rw [handlePayload_of_reaches reaches] at committed
  cases branch : branchWrites payload account bought with
  | none => simp [branch] at committed
  | some writes =>
      simp only [branch] at committed
      obtain ⟨_, rfl, matching, reported⟩ :=
        activation_of_branchWrites branch (commitWrites_subset _ _ committed)
      exact ⟨account, reaches, matching, reported⟩

theorem eventType_of_present {payload : Payload}
    (present : (payload.fields.get "OperationType").truthy = true)
    : payload.eventType = payload.fields.get "OperationType" := by
  simp [Payload.eventType, PyValue.orElse, present]

/-- A payload activates on settled money only, over every configuration, table and fault, if and
only if it is not misread: its status does not report money under an operation type that is
present and is no payment.
-/
theorem activation_on_settled_money_iff (payload : Payload)
    : ActivatesOnSettledMoney payload ↔ ∀ tenantId plan, ¬ MisreadOperation payload tenantId plan := by
  constructor
  · intro settledOnly tenantId plan misread
    have settled : payload.refused = false := by
      rw [refused_eq_false]
      have reports := misread.reports
      simp only [List.mem_cons, List.not_mem_nil, or_false] at reports
      rcases reports with completed | authorized
      · rw [completed]
        decide
      · rw [authorized]
        decide
    let db : WebhookDb := ⟨⟨[{ id := tenantId }], by simp⟩, Table.empty⟩
    have reaches : Reaches {} payload db tenantId plan :=
      ⟨misread.account, misread.bought, misread.invoiced, misread.named, rfl,
        by simp [db, Table.find?], by simp [db]⟩
    have branch := branchWrites_of_payment tenantId
      ⟨settled, Or.inr misread.reports⟩ misread.paid misread.matching
    have commits : .updateTenantSubscription tenantId payload.invoiceId "" "active" plan
        ∈ (cloudpaymentsWebhook db { body := .object payload }).1.2 := by
      have handled := handlePayload_of_reaches reaches
      simp only [branch, activation, commitWrites, List.headD_cons, List.tail_cons] at handled
      simp [cloudpaymentsWebhook, handled]
    obtain ⟨operation, _⟩ :=
      (settledOnly { body := .object payload } db rfl _ _ _ _ commits).1
    rcases operation with absent | payment
    · rw [misread.present] at absent
      cases absent
    · exact misread.foreign payment
  · intro read delivery db body tenantId customer subscription plan committed
    obtain ⟨account, reaches, matching, reported⟩ :=
      activation_of_commits (commits_of_delivery body committed)
    refine ⟨⟨?_, ?_⟩, paysPlan_of_matches matching⟩
    · by_cases present : (payload.fields.get "OperationType").truthy = true
      · right
        by_contra foreign
        have event := eventType_of_present present
        rcases reported with ⟨settled, payment | reports⟩ | ⟨recurrent, _⟩
        · rw [event] at payment
          refine foreign ?_
          simp only [List.mem_cons, List.not_mem_nil, or_false] at payment
          rcases payment with same | same | same <;> simp [paymentOperations, same]
        · have paid : plan ∈ [PyValue.str "pro", .str "enterprise"] := by
            obtain ⟨amount, currency, _, expected, _⟩ := paysPlan_of_matches matching
            exact paid_of_expected expected
          exact read account plan ⟨reaches.invoiced, reaches.account, reaches.named,
            reaches.bought, paid, matching, reports, present, foreign⟩
        · refine foreign ?_
          rw [← event, recurrent]
          simp [paymentOperations]
      · left
        simpa using present
    · rcases reported with ⟨settled, _⟩ | ⟨_, completed⟩
      · exact refused_eq_false.mp settled
      · rw [completed]
        decide

/-- A cancellation of a completed payment, with the money of plan `pro`. -/
def completedCancel : Payload where
  fields
    | "OperationType" => some (.str "Cancel")
    | "Status" => some (.str "Completed")
    | "AccountId" => some (.str "t")
    | "InvoiceId" => some (.str "inv-1")
    | "Amount" => some (.int 4900)
    | "Currency" => some (.str "RUB")
    | _ => none
  data := .value (.dict (some (.str "pro")))

def oneTenant : WebhookDb := ⟨⟨[{ id := "t" }], by simp⟩, Table.empty⟩

/-- The cancellation activates the tenant. -/
theorem cancel_activates : ¬ ActivatesOnSettledMoney completedCancel := by
  intro settledOnly
  obtain ⟨⟨operation, _⟩, _⟩ := settledOnly { body := .object completedCancel } oneTenant rfl
    "t" (.str "inv-1") "" (.str "pro") (by decide +kernel)
  rcases operation with absent | payment
  · exact absurd absent (by decide)
  · exact absurd payment (by decide)

variable {payload : Payload} {db : WebhookDb}

abbrev DeliveryVisit := Visit WebhookDb Delivery (Webhooks.Answer × List DbWrite)

/-- A signed delivery for the tenant and the invoice. -/
structure DeliveredFor (tenantId : String) (invoiceId : PyValue) (delivery : Delivery)
    (payload : Payload) : Prop where
  enabled : delivery.enabled = true
  configured : delivery.secretConfigured = true
  signed : delivery.signatureValid = true
  body : delivery.body = .object payload
  account : payload.tenantId = some tenantId
  invoice : payload.invoiceId = invoiceId

/-- A settled payment for a paid plan, with the plan's money. -/
structure SettledPayment (payload : Payload) (plan : PyValue) : Prop where
  operation : SettledOperation payload
  reported : ReportsPayment payload
  bought : payload.plan = some plan
  paid : plan ∈ [PyValue.str "pro", .str "enterprise"]
  money : amountMatchesPlan payload.fields plan = true

def ActivatedBy (tenantId : String) (invoiceId : PyValue) (visit : DeliveryVisit) : Prop :=
  ∃ plan, .updateTenantSubscription tenantId invoiceId "" "active" plan ∈ visit.reply.2

/-- A paid invoice is not ignored along a sequence of deliveries. -/
structure InvoiceHonoured (tenantId : String) (invoiceId : PyValue) (db : WebhookDb)
    (deliveries : List Delivery) : Prop where
  /-- When a settled payment was answered with code 0, the tenant has been activated. -/
  activated : ∀ earlier visit later,
    visits cloudpaymentsWebhook db deliveries = earlier ++ visit :: later →
    ∀ payload plan, visit.call.body = .object payload → SettledPayment payload plan →
      visit.reply.1 = .code0 → ∃ other ∈ earlier ++ [visit], ActivatedBy tenantId invoiceId other
  /-- A repetition of an event that activated and was answered with code 0 changes nothing. -/
  repeated : ∀ earlier visit later,
    visits cloudpaymentsWebhook db deliveries = earlier ++ visit :: later →
    ∀ first ∈ earlier, first.call.body = visit.call.body → ActivatedBy tenantId invoiceId first →
      first.reply.1 = .code0 → visit.after = visit.before

/-- The condition on a sequence: when a settled payment of the known tenant is looked up, the
invoice is not yet recorded, or the tenant has been activated for it before.
-/
def OpenForPayment (tenantId : String) (invoiceId : PyValue) (db : WebhookDb)
    (deliveries : List Delivery) : Prop :=
  ∀ earlier visit later,
    visits cloudpaymentsWebhook db deliveries = earlier ++ visit :: later →
    ∀ payload plan, visit.call.body = .object payload → SettledPayment payload plan →
      visit.call.faults.reads = none → (visit.before.tenants.find? tenantId).isSome = true →
        visit.before.isInvoiceProcessed invoiceId tenantId = false
          ∨ ∃ other ∈ earlier, ActivatedBy tenantId invoiceId other

variable {tenantId : String} {invoiceId : PyValue}

theorem webhook_of_delivered {delivery : Delivery}
    (delivered : DeliveredFor tenantId invoiceId delivery payload)
    : cloudpaymentsWebhook db delivery
      = (handlePayload delivery.faults payload db,
          (handlePayload delivery.faults payload db).2.foldl WebhookDb.apply db) := by
  simp [cloudpaymentsWebhook, delivered.enabled, delivered.configured, delivered.signed,
    delivered.body]

theorem handlePayload_of_processed (faults : DbFaults) (account : payload.tenantId = some tenantId)
    (processed : db.isInvoiceProcessed payload.invoiceId tenantId = true)
    : (handlePayload faults payload db).2 = []
      ∧ ∀ plan, payload.plan = some plan → payload.invoiceId.truthy = true → tenantId ≠ "" →
          faults.reads = none → (db.tenants.find? tenantId).isSome = true →
            (handlePayload faults payload db).1 = .code0 := by
  constructor
  · by_contra commits
    obtain ⟨other, plan, reaches⟩ := reaches_of_commits commits
    simp [WebhookDb.isInvoiceProcessed, reaches.fresh] at processed
  · intro plan bought invoiced named answered known
    have present : (db.tenants.find? tenantId).isNone = false := by simpa using known
    simp [handlePayload, account, bought, invoiced, named, answered, present, processed]

theorem activates_of_code0 {faults : DbFaults} {plan : PyValue}
    (account : payload.tenantId = some tenantId) (invoiced : payload.invoiceId.truthy = true)
    (named : tenantId ≠ "") (settled : SettledPayment payload plan)
    (unrecorded : db.isInvoiceProcessed payload.invoiceId tenantId = false)
    (answered : (handlePayload faults payload db).1 = .code0)
    : .updateTenantSubscription tenantId payload.invoiceId "" "active" plan
        ∈ (handlePayload faults payload db).2 := by
  have reads : faults.reads = none := by
    cases lookup : faults.reads with
    | none => rfl
    | some exn =>
        simp [handlePayload, account, settled.bought, invoiced, named, lookup] at answered
  have known : (db.tenants.find? tenantId).isSome = true := by
    cases lookup : db.tenants.find? tenantId with
    | some row => rfl
    | none =>
        simp [handlePayload, account, settled.bought, invoiced, named, reads, lookup] at answered
  have present : (db.tenants.find? tenantId).isNone = false := by simpa using known
  have fresh : db.processed.find? payload.invoiceId = none := by
    cases recorded : db.processed.find? payload.invoiceId with
    | none => rfl
    | some row =>
        have foreign : db.isInvoiceProcessed payload.invoiceId "" = true := by
          simp [WebhookDb.isInvoiceProcessed, recorded]
        simp [handlePayload, account, settled.bought, invoiced, named, reads, present,
          unrecorded, foreign] at answered
  have reaches : Reaches faults payload db tenantId plan :=
    ⟨account, settled.bought, invoiced, named, reads, known, fresh⟩
  have handled := handlePayload_of_reaches reaches
  rw [branchWrites_of_payment tenantId settled.reported settled.paid settled.money] at handled
  simp only at handled
  rw [handled] at answered ⊢
  have finished : (commitWrites (activation payload tenantId plan)
      [faults.firstWrite, faults.secondWrite]).2 = true := by
    by_contra stopped
    simp [stopped] at answered
  rw [commitWrites_finished finished]
  simp [activation]

theorem processed_of_activated {faults : DbFaults} {plan : PyValue}
    (account : payload.tenantId = some tenantId)
    (committed : .updateTenantSubscription tenantId payload.invoiceId "" "active" plan
      ∈ (handlePayload faults payload db).2)
    (answered : (handlePayload faults payload db).1 = .code0)
    : ((handlePayload faults payload db).2.foldl WebhookDb.apply db).isInvoiceProcessed
        payload.invoiceId tenantId = true := by
  obtain ⟨who, bought, reaches⟩ := reaches_of_commits (List.ne_nil_of_mem committed)
  obtain rfl : who = tenantId := Option.some.inj (reaches.account.symm.trans account)
  rw [handlePayload_of_reaches reaches] at committed answered ⊢
  cases branch : branchWrites payload who bought with
  | none => simp [branch] at committed
  | some writes =>
      simp only [branch] at committed answered ⊢
      obtain ⟨rfl, _⟩ := activation_of_branchWrites branch (commitWrites_subset _ _ committed)
      have finished : (commitWrites (activation payload who bought)
          [faults.firstWrite, faults.secondWrite]).2 = true := by
        by_contra stopped
        simp [stopped] at answered
      rw [commitWrites_finished finished]
      have inserted : db.processed.insert?
          ⟨payload.invoiceId, payload.eventType.orElse (.str ""), who⟩ ≠ none := by
        intro refused
        have stored := Table.insert?_eq_none.mp refused
        simp [reaches.fresh] at stored
      obtain ⟨next, shape⟩ := Option.ne_none_iff_exists'.mp inserted
      simp [activation, WebhookDb.apply, WebhookDb.isInvoiceProcessed, shape,
        Table.find?_of_insert? shape]

theorem isInvoiceProcessed_apply (write : DbWrite)
    (processed : db.isInvoiceProcessed invoiceId tenantId = true)
    : (db.apply write).isInvoiceProcessed invoiceId tenantId = true := by
  cases write with
  | updateTenantSubscription => exact processed
  | setTenantInactive => exact processed
  | markInvoiceProcessed marked eventType who =>
      simp only [WebhookDb.apply]
      cases inserted : db.processed.insert? ⟨marked, eventType, who⟩ with
      | none => exact processed
      | some next =>
          simp only [WebhookDb.isInvoiceProcessed, Option.getD_some,
            Table.find?_of_insert? inserted] at processed ⊢
          by_cases same : marked = invoiceId
          · have absent := (Table.insert?_eq_some inserted).2
            simp only [same] at absent
            rw [absent] at processed
            cases processed
          · simp only [same, if_false]
            exact processed

/-- No delivery forgets a recorded invoice, by induction on its writes. -/
theorem isInvoiceProcessed_webhook (delivery : Delivery)
    (processed : db.isInvoiceProcessed invoiceId tenantId = true)
    : (cloudpaymentsWebhook db delivery).2.isInvoiceProcessed invoiceId tenantId = true := by
  have applied : ∀ (writes : List DbWrite) (current : WebhookDb),
      current.isInvoiceProcessed invoiceId tenantId = true →
      (writes.foldl WebhookDb.apply current).isInvoiceProcessed invoiceId tenantId = true := by
    intro writes
    induction writes with
    | nil => exact fun _ holds => holds
    | cons write rest ih =>
        exact fun current holds => ih _ (isInvoiceProcessed_apply write holds)
  exact applied _ db processed

/-- For every sequence of signed deliveries for one tenant and one invoice, whatever fails: a
settled payment that is answered with code 0 has activated the tenant, and repetitions change
nothing, if and only if no settled payment is looked up when the invoice is already recorded
without an activation.
-/
theorem paid_invoice_honoured_iff (tenantId : String) (invoiceId : PyValue) (db : WebhookDb)
    (deliveries : List Delivery) (named : tenantId ≠ "") (invoiced : invoiceId.truthy = true)
    (delivered : ∀ delivery ∈ deliveries,
      ∃ payload, DeliveredFor tenantId invoiceId delivery payload)
    : InvoiceHonoured tenantId invoiceId db deliveries
      ↔ OpenForPayment tenantId invoiceId db deliveries := by
  have handled : ∀ visit ∈ visits cloudpaymentsWebhook db deliveries,
      ∃ payload, DeliveredFor tenantId invoiceId visit.call payload
        ∧ visit.reply = handlePayload visit.call.faults payload visit.before
        ∧ visit.after = visit.reply.2.foldl WebhookDb.apply visit.before := by
    intro visit member
    have called : visit.call ∈ deliveries := by
      rw [← map_call_visits cloudpaymentsWebhook db deliveries]
      exact List.mem_map.mpr ⟨visit, member, rfl⟩
    obtain ⟨payload, signed⟩ := delivered visit.call called
    have stepped := step_of_mem_visits member
    rw [webhook_of_delivered signed, Prod.mk.injEq] at stepped
    obtain ⟨reply, after⟩ := stepped
    exact ⟨payload, signed, reply.symm, by rw [← after, reply]⟩
  constructor
  · intro honoured earlier visit later split payload plan body settled answered known
    have member : visit ∈ visits cloudpaymentsWebhook db deliveries := by simp [split]
    obtain ⟨same, signed, reply, _⟩ := handled visit member
    obtain rfl : same = payload := by
      have bodies := signed.body.symm.trans body
      cases bodies
      rfl
    cases processed : visit.before.isInvoiceProcessed invoiceId tenantId with
    | false => exact Or.inl rfl
    | true =>
        right
        rw [← signed.invoice] at processed
        obtain ⟨silent, code⟩ := handlePayload_of_processed visit.call.faults
          signed.account processed
        have answer := code plan settled.bought (signed.invoice ▸ invoiced) named answered known
        obtain ⟨other, otherMember, activated⟩ :=
          honoured.activated earlier visit later split same plan body settled (by rw [reply, answer])
        rcases List.mem_append.mp otherMember with before | self
        · exact ⟨other, before, activated⟩
        · obtain rfl := List.mem_singleton.mp self
          obtain ⟨bought, committed⟩ := activated
          rw [reply, silent] at committed
          cases committed
  · intro opened
    refine ⟨?_, ?_⟩
    · intro earlier visit later split payload plan body settled answered
      have member : visit ∈ visits cloudpaymentsWebhook db deliveries := by simp [split]
      obtain ⟨same, signed, reply, _⟩ := handled visit member
      obtain rfl : same = payload := by
        have bodies := signed.body.symm.trans body
        cases bodies
        rfl
      have truthy : same.invoiceId.truthy = true := signed.invoice ▸ invoiced
      rw [reply] at answered
      cases processed : visit.before.isInvoiceProcessed invoiceId tenantId with
      | false =>
          rw [← signed.invoice] at processed
          have committed := activates_of_code0 signed.account truthy named settled processed answered
          refine ⟨visit, by simp, plan, ?_⟩
          rw [reply, ← signed.invoice]
          exact committed
      | true =>
          have reads : visit.call.faults.reads = none := by
            cases lookup : visit.call.faults.reads with
            | none => rfl
            | some exn =>
                simp [handlePayload, signed.account, settled.bought, truthy, named, lookup]
                  at answered
          have known : (visit.before.tenants.find? tenantId).isSome = true := by
            cases lookup : visit.before.tenants.find? tenantId with
            | some row => rfl
            | none =>
                simp [handlePayload, signed.account, settled.bought, truthy, named, reads, lookup]
                  at answered
          rcases opened earlier visit later split same plan body settled reads known
            with unrecorded | ⟨other, before, activated⟩
          · rw [processed] at unrecorded
            cases unrecorded
          · exact ⟨other, List.mem_append_left _ before, activated⟩
    · intro earlier visit later split first firstMember sameBody activated answered
      have member : visit ∈ visits cloudpaymentsWebhook db deliveries := by simp [split]
      have firstVisit : first ∈ visits cloudpaymentsWebhook db deliveries := by
        simp [split, firstMember]
      obtain ⟨payload, signed, reply, after⟩ := handled visit member
      obtain ⟨firstPayload, firstSigned, firstReply, firstAfter⟩ := handled first firstVisit
      obtain ⟨plan, committed⟩ := activated
      rw [firstReply, ← firstSigned.invoice] at committed
      rw [firstReply] at answered firstAfter
      have recorded := processed_of_activated firstSigned.account committed answered
      rw [← firstAfter, firstSigned.invoice] at recorded
      obtain ⟨past, _, _, rfl, reached⟩ := visits_split split
      have processed : visit.before.isInvoiceProcessed invoiceId tenantId = true := by
        rw [reached]
        exact finalState_of_mem_visits
          (fun current : WebhookDb => current.isInvoiceProcessed invoiceId tenantId = true)
          (fun current delivery holds => isInvoiceProcessed_webhook delivery holds)
          firstMember recorded
      rw [← signed.invoice] at processed
      rw [after, reply, (handlePayload_of_processed _ signed.account processed).1]
      rfl

def proPayment (status : String) : Payload where
  fields
    | "OperationType" => some (.str "Payment")
    | "Status" => some (.str status)
    | "AccountId" => some (.str "t")
    | "InvoiceId" => some (.str "inv-1")
    | "Amount" => some (.int 4900)
    | "Currency" => some (.str "RUB")
    | _ => none
  data := .value (.dict (some (.str "pro")))

def proDelivery (status : String) : Delivery := { body := .object (proPayment status) }

/-- A completed payment alone is honoured. -/
theorem completed_payment_honoured
    : InvoiceHonoured "t" (.str "inv-1") oneTenant [proDelivery "Completed"] := by
  refine (paid_invoice_honoured_iff _ _ _ _ (by decide) (by decide) ?_).mpr ?_
  · intro delivery member
    obtain rfl := List.mem_singleton.mp member
    exact ⟨proPayment "Completed", rfl, rfl, rfl, rfl, by decide +kernel, by decide +kernel⟩
  · intro earlier visit later split payload plan body settled reads known
    obtain ⟨past, future, calls, _, reached⟩ := visits_split split
    have first : past = [] := by
      cases past with
      | nil => rfl
      | cons head tail => simp at calls
    left
    rw [reached, first]
    decide +kernel

/-- A declined attempt records the invoice, and the completed payment after it is answered with
code 0 without an activation.
-/
theorem declined_then_completed_ignored
    : ¬ InvoiceHonoured "t" (.str "inv-1") oneTenant
        [proDelivery "Declined", proDelivery "Completed"] := by
  intro honoured
  have settled : SettledPayment (proPayment "Completed") (.str "pro") := by
    refine ⟨⟨Or.inr (by decide +kernel), by decide +kernel, by decide +kernel⟩,
      ⟨by decide +kernel, Or.inl (by decide +kernel)⟩, rfl, by decide +kernel, by decide +kernel⟩
  obtain ⟨other, member, plan, committed⟩ := honoured.activated
    [⟨oneTenant, proDelivery "Declined", _, _⟩] ⟨_, proDelivery "Completed", _, _⟩ [] rfl
    (proPayment "Completed") (.str "pro") rfl settled (by decide +kernel)
  rcases List.mem_append.mp member with before | self
  · obtain rfl := List.mem_singleton.mp before
    have writes : (cloudpaymentsWebhook oneTenant (proDelivery "Declined")).1.2
        = [.setTenantInactive "t",
            .markInvoiceProcessed (.str "inv-1") (.str "Payment") "t"] := by decide +kernel
    simp only [writes, List.mem_cons, List.not_mem_nil, reduceCtorEq, or_self] at committed
  · obtain rfl := List.mem_singleton.mp self
    have writes : (cloudpaymentsWebhook
        (cloudpaymentsWebhook oneTenant (proDelivery "Declined")).2
        (proDelivery "Completed")).1.2 = [] := by decide +kernel
    simp only [writes, List.not_mem_nil] at committed

section SubscriptionParity

open RomaBridge.Model.Subscriptions

/-- The call answers alike and leaves the same tenants and invoices on both paths. -/
structure SameOnBoth (db : SubscriptionDb) (call : SubscriptionCall) : Prop where
  answer : (sqlite db call).1 = (postgres db call).1
  tenants : (sqlite db call).2.tenants.rows = (postgres db call).2.tenants.rows
  invoices : (sqlite db call).2.invoices = (postgres db call).2.invoices

/-- An argument that both paths store: a text that is not empty, or what the column holds. -/
def StoredAlike (argument stored : Option String) : Prop :=
  truthy argument = true ∨ argument = stored

/-- Every argument is stored alike over a row. -/
structure ColumnsAlike (arguments stored : Subscription) : Prop where
  customer : StoredAlike arguments.stripeCustomerId stored.stripeCustomerId
  subscription : StoredAlike arguments.stripeSubscriptionId stored.stripeSubscriptionId
  status : StoredAlike arguments.subscriptionStatus stored.subscriptionStatus
  plan : StoredAlike arguments.plan stored.plan
  endDate : StoredAlike arguments.subscriptionEndDate stored.subscriptionEndDate

/-- The calls that do not meet a difference of the two paths: an update whose arguments are stored
alike over the tenant's row, any deactivation, a mark of an invoice that has an id or whose empty id
is marked already, and a question about an id that is `None`, or empty and not marked.
-/
def MeetsNoDifference (db : SubscriptionDb) : SubscriptionCall → Prop
  | .updateTenantSubscription tenantId arguments =>
      ∀ row ∈ db.tenants.rows, some row.id = tenantId → ColumnsAlike arguments row.subscription
  | .setTenantInactive _ => True
  | .markInvoiceProcessed invoiceId _ _ =>
      truthy invoiceId = true
      ∨ (invoiceId = some "" ∧ ∃ row ∈ db.invoices, row.invoiceId = some "")
  | .isInvoiceProcessed invoiceId tenantId =>
      invoiceId = none
      ∨ (invoiceId = some "" ∧ ∀ row ∈ db.invoices, matchesInvoice (some "") tenantId row = false)

theorem kept_eq_iff (argument stored : Option String)
    : kept argument stored = argument ↔ StoredAlike argument stored := by
  unfold kept StoredAlike
  by_cases given : truthy argument = true
  · simp [given]
  · simp [given, eq_comm]

theorem keptColumns_eq_iff (arguments stored : Subscription)
    : keptColumns arguments stored = arguments ↔ ColumnsAlike arguments stored := by
  unfold keptColumns
  rw [Subscription.mk.injEq, kept_eq_iff, kept_eq_iff, kept_eq_iff, kept_eq_iff, kept_eq_iff]
  constructor
  · intro ⟨customer, subscription, status, plan, endDate⟩
    exact ⟨customer, subscription, status, plan, endDate⟩
  · intro alike
    exact ⟨alike.customer, alike.subscription, alike.status, alike.plan, alike.endDate⟩

theorem updateTenant_eq_iff (db : SubscriptionDb) (tenantId : Option String)
    (first second : Subscription → Subscription)
    : (db.updateTenant tenantId first).tenants.rows = (db.updateTenant tenantId second).tenants.rows
      ↔ ∀ row ∈ db.tenants.rows, some row.id = tenantId →
        first row.subscription = second row.subscription := by
  simp only [SubscriptionDb.updateTenant, Table.update, List.map_inj_left]
  constructor
  · intro same row member selected
    have rows := same row member
    simpa [selected] using rows
  · intro same row member
    by_cases selected : some row.id = tenantId
    · simp [selected, same row member selected]
    · simp [selected]

theorem insertInvoice_eq_iff (db : SubscriptionDb) (row : InvoiceRow)
    : (db.insertInvoice row).invoices = db.invoices
      ↔ ∃ text, row.invoiceId = some text ∧ ∃ stored ∈ db.invoices, stored.invoiceId = some text := by
  unfold SubscriptionDb.insertInvoice SubscriptionDb.invoice?
  cases row.invoiceId with
  | none => simp
  | some text =>
      simp only [Option.bind_some, Option.some.injEq, exists_eq_left']
      by_cases taken : (db.invoices.find? (fun row => row.invoiceId = some text)).isSome = true
      · rw [if_pos taken]
        simpa using taken
      · rw [if_neg taken]
        simpa using taken

theorem truthy_eq_false_iff (text : Option String)
    : truthy text = false ↔ text = none ∨ text = some "" := by
  cases text with
  | none => simp [truthy]
  | some text => simp [truthy]

theorem insertInvoice_tenants (db : SubscriptionDb) (row : InvoiceRow)
    : (db.insertInvoice row).tenants = db.tenants := by
  unfold SubscriptionDb.insertInvoice
  split
  · rfl
  · rfl

/-- PostgreSQL stores the mark that SQLite skips, unless the id is empty and stored already. -/
theorem sameOnBoth_mark_iff (db : SubscriptionDb) (invoiceId eventType tenantId : Option String)
    : SameOnBoth db (.markInvoiceProcessed invoiceId eventType tenantId)
      ↔ MeetsNoDifference db (.markInvoiceProcessed invoiceId eventType tenantId) := by
  have refused := insertInvoice_eq_iff db ⟨invoiceId, eventType, tenantId⟩
  have tenants := insertInvoice_tenants db ⟨invoiceId, eventType, tenantId⟩
  by_cases given : truthy invoiceId = true
  · refine iff_of_true ?_ (Or.inl given)
    constructor <;> simp [sqlite, postgres, given]
  · have absent := (truthy_eq_false_iff invoiceId).mp (by simpa using given)
    constructor
    · intro same
      have invoices : db.invoices = (db.insertInvoice ⟨invoiceId, eventType, tenantId⟩).invoices := by
        simpa [sqlite, postgres, given] using same.invoices
      obtain ⟨text, named, stored, member, under⟩ := refused.mp invoices.symm
      rcases absent with unset | empty
      · rw [unset] at named
        cases named
      · obtain rfl : "" = text := Option.some.inj (empty.symm.trans named)
        exact Or.inr ⟨empty, stored, member, under⟩
    · intro alike
      rcases alike with named | ⟨empty, stored⟩
      · exact absurd named given
      · have unchanged := refused.mpr ⟨"", empty, stored⟩
        constructor <;> simp [sqlite, postgres, given, unchanged, tenants]

/-- SQLite answers a question about no id only, and with no. -/
theorem sameOnBoth_query_iff (db : SubscriptionDb) (invoiceId tenantId : Option String)
    : SameOnBoth db (.isInvoiceProcessed invoiceId tenantId)
      ↔ MeetsNoDifference db (.isInvoiceProcessed invoiceId tenantId) := by
  have no_iff : db.invoices.any (matchesInvoice invoiceId tenantId) = false
      ↔ ∀ row ∈ db.invoices, matchesInvoice invoiceId tenantId row = false := by
    simp [List.any_eq_false]
  by_cases given : truthy invoiceId = true
  · refine iff_of_false ?_ ?_
    · intro same
      have answer := same.answer
      simp [sqlite, postgres, given] at answer
    · intro absent
      rcases absent with rfl | ⟨rfl, -⟩
      · cases given
      · simp [truthy] at given
  · have answers : SameOnBoth db (.isInvoiceProcessed invoiceId tenantId)
        ↔ db.invoices.any (matchesInvoice invoiceId tenantId) = false := by
      constructor
      · intro same
        simpa [sqlite, postgres, given] using same.answer
      · intro no
        constructor <;> simp [sqlite, postgres, given, no]
    rw [answers, no_iff]
    rcases (truthy_eq_false_iff invoiceId).mp (by simpa using given) with rfl | rfl
    · exact iff_of_true (fun _ _ => rfl) (Or.inl rfl)
    · simp [MeetsNoDifference]

/-- A call has the same effect and the same answer in SQLite and in PostgreSQL exactly when it meets
no difference of the two. One case per function.
-/
theorem sameOnBoth_iff (db : SubscriptionDb) (call : SubscriptionCall)
    : SameOnBoth db call ↔ MeetsNoDifference db call := by
  cases call with
  | updateTenantSubscription tenantId arguments =>
      have rows := updateTenant_eq_iff db tenantId (keptColumns arguments) (fun _ => arguments)
      simp only [keptColumns_eq_iff] at rows
      constructor
      · intro same
        exact rows.mp same.tenants
      · intro alike
        exact ⟨rfl, rows.mpr alike, rfl⟩
  | setTenantInactive tenantId => exact iff_of_true ⟨rfl, rfl, rfl⟩ trivial
  | markInvoiceProcessed invoiceId eventType tenantId =>
      exact sameOnBoth_mark_iff db invoiceId eventType tenantId
  | isInvoiceProcessed invoiceId tenantId => exact sameOnBoth_query_iff db invoiceId tenantId

def payingTenant : SubscriptionDb where
  tenants := ⟨[⟨"acme", ⟨some "cus", some "sub", some "active", some "pro", some "2027"⟩⟩], by simp⟩
  invoices := []

/-- An update that names only a new status, as the defaults of `db_adapter.py` allow, keeps the plan
in SQLite and erases it in PostgreSQL.
-/
theorem sameOnBoth_fails
    : ¬ SameOnBoth payingTenant (.updateTenantSubscription (some "acme")
      ⟨some "", some "", some "past_due", some "", none⟩) := by
  intro same
  exact absurd same.tenants (by decide)

end SubscriptionParity

end RomaBridge.Properties
