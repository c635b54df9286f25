import RomaBridge.Properties.BilledWork
import RomaBridge.Properties.RefundOnce

/-! Completed work stays paid.
A refund is decided from a status that was read earlier. What makes it safe is that a job whose
refund is stored or due stays cancelled; only `/v1` complete and the acknowledgement of a
worker write `completed` whatever the row says.
-/

namespace RomaBridge.Properties

open RomaBridge.Foundation RomaBridge.Model Program

variable {row : JobRow} {query : Query} {before after : Db} {fault : Fault} {tenantId' : String}
  {amount : ℚ}

-- Statements

def jobNet (db : Db) (tenantId : String) (jobId : JobId) : ℚ :=
  ((db.ledger.rows.filter (fun entry =>
    entry.ledgerId = ledgerIdFor tenantId (jobKey jobId)
    || entry.ledgerId = ledgerIdFor tenantId (refundKey jobId))).map LedgerEntry.signed).sum

def StaysPaid (tenantId : String) (jobId : JobId) (db : Db) : Prop :=
  ∀ row debit,
    db.job? jobId = some row
    → row.status = .completed
    → db.ledger.find? (ledgerIdFor tenantId (jobKey jobId)) = some debit
    → debit.entryType = .debit
    → db.ledger.find? (ledgerIdFor tenantId (refundKey jobId)) = none
      ∧ jobNet db tenantId jobId = -debit.amount

def overwritesCancelled (jobId : JobId) (db : Db) (call : Call) : Bool :=
  match call.query with
  | .updateExecutionJob update =>
      [Site.jobsCompleteWrite, .ackWrite].contains call.site
      && (db.job? jobId).any (fun row => update.selects row && row.status = .cancelled)
  | _ => false

def SparesCancelled (jobId : JobId) : Config bridge Db Kind Answer → Label Kind → Prop :=
  Config.Permits (fun db _ call _ => overwritesCancelled jobId db call = false)

instance (jobId : JobId) (config : Config bridge Db Kind Answer) (label : Label Kind)
    : Decidable (SparesCancelled jobId config label) :=
  inferInstanceAs (Decidable (Config.Permits _ config label))

def joinsUnkeyed (jobId : JobId) (kind : Kind) : Bool :=
  joinsRun jobId kind
  && match kind with
    | .topUp _ _ idempotencyKey _ _ => idempotencyKey.isNone
    | _ => true

/-- Arrivals join the run without a key of their own. -/
def arrivesUnkeyed (jobId : JobId) : Label Kind → Bool
  | .arrive kind => joinsUnkeyed jobId kind
  | _ => true

theorem jobNet_eq (db : Db) (tenantId : String) (jobId : JobId)
    : jobNet db tenantId jobId
      = (((db.ledger.find? (ledgerIdFor tenantId (jobKey jobId))).toList
          ++ (db.ledger.find? (ledgerIdFor tenantId (refundKey jobId))).toList).map
          LedgerEntry.signed).sum := by
  have stored : ∀ ledgerId entry,
      db.ledger.find? ledgerId = some entry ↔ entry ∈ db.ledger.rows ∧ entry.ledgerId = ledgerId := by
    intro ledgerId entry
    constructor
    · exact Table.find?_some
    · intro listed
      exact listed.2 ▸ Table.find?_of_mem listed.1
  refine List.Perm.sum_eq (List.Perm.map _ ?_)
  refine (List.perm_ext_iff_of_nodup ((List.Nodup.of_map _ db.ledger.unique).filter _) ?_).mpr ?_
  · refine List.Nodup.append (Option.toList_nodup _) (Option.toList_nodup _) ?_
    intro entry own refund
    rw [Option.mem_toList, stored] at own refund
    exact jobKey_ne_refundKey _ _ _ _ (own.2.symm.trans refund.2)
  · intro entry
    simp only [List.mem_filter, Bool.or_eq_true, decide_eq_true_eq, List.mem_append,
      Option.mem_toList, stored]
    exact and_or_left

theorem jobNet_of_unrefunded {db : Db} {tenantId : String} {jobId : JobId} {debit : LedgerEntry}
    (stored : db.ledger.find? (ledgerIdFor tenantId (jobKey jobId)) = some debit)
    (type : debit.entryType = .debit)
    (unrefunded : db.ledger.find? (ledgerIdFor tenantId (refundKey jobId)) = none)
    : jobNet db tenantId jobId = -debit.amount := by
  simp [jobNet_eq, stored, unrefunded, LedgerEntry.signed, type]

-- The invariant

def HasMarker (row : JobRow) : Prop := row.error.any isRefundMarker = true

/-- A refunded row is cancelled; a marked row is closed, and if it is cancelled the run's final
write missed it; a parked row carries the seconds of the run.
-/
structure PaidRow (world : WorkerWorld) (refunded : Prop) (row : JobRow) : Prop where
  cancelled : refunded → row.status = .cancelled
  closed : HasMarker row → row.status ∈ cancelBlockedStatuses
  missed
    : HasMarker row → row.status = .cancelled → row.durationSeconds ≠ some world.billable
  parked : row.status = .billingPending → row.durationSeconds = some world.billable

/-- The row of the job is in order, and a DEBIT of the job is of a positive amount on the
8-decimal grid.
-/
structure PaidKept (tenantId : String) (jobId : JobId) (world : WorkerWorld) (db : Db)
    : Prop where
  owned : OwnedBy tenantId jobId db
  row : ∀ row, db.job? jobId = some row → PaidRow world (Refunded tenantId jobId db) row
  charged
    : ∀ entry,
        db.ledger.find? (ledgerIdFor tenantId (jobKey jobId)) = some entry
        → entry.entryType = .debit
        → 0 < entry.amount ∧ OnGrid 8 entry.amount

def RefundDue (tenantId : String) (jobId : JobId) (db : Db) : Prop :=
  Refunded tenantId jobId db
  ∨ ∃ row, db.job? jobId = some row ∧ row.status = .cancelled ∧ HasMarker row

/-- What bystanders do to the row: they leave the seconds and a cancelled status alone and
write no marker.
-/
structure RowPasses (world : WorkerWorld) (row later : JobRow) : Prop where
  seconds : later.durationSeconds = row.durationSeconds
  cancelled : row.status = .cancelled → later.status = .cancelled
  unmarked : HasMarker later → HasMarker row
  closed : HasMarker later → later.status ∈ cancelBlockedStatuses
  fresh : HasMarker later → later.status = .cancelled → row.status = .cancelled
  parked : later.status = .billingPending → row.durationSeconds = some world.billable

theorem unmarked_orphan (now : ℚ) (row : JobRow) : ¬HasMarker (orphanRow now row) := by
  simp only [HasMarker, orphanRow, Option.any_some]
  decide

section Invariant

variable {tenantId : String} {jobId : JobId} {world : WorkerWorld} {db : Db}

theorem PaidKept.staysPaid (kept : PaidKept tenantId jobId world db)
    : StaysPaid tenantId jobId db := by
  intro row debit found completed stored type
  have unrefunded : db.ledger.find? (ledgerIdFor tenantId (refundKey jobId)) = none := by
    by_contra refunded
    have cancelled := (kept.row row found).cancelled (Option.isSome_iff_ne_none.mpr refunded)
    rw [completed] at cancelled
    cases cancelled
  exact ⟨unrefunded, jobNet_of_unrefunded stored type unrefunded⟩

theorem PaidKept.cancelled_of_due (kept : PaidKept tenantId jobId world db)
    (due : RefundDue tenantId jobId db) (found : db.job? jobId = some row)
    : row.status = .cancelled := by
  rcases due with refunded | ⟨other, same, cancelled, _⟩
  · exact (kept.row row found).cancelled refunded
  · cases found.symm.trans same
    exact cancelled

theorem PaidKept.billable_ne_zero (kept : PaidKept tenantId jobId world db)
    (debited : Debited tenantId jobId (totalCost world.billable 0 0) db)
    : world.billable ≠ 0 := by
  obtain ⟨entry, found, same⟩ := debited
  simp only [idemMatches, Bool.and_eq_true, decide_eq_true_eq] at same
  obtain ⟨⟨⟨debit, rounded⟩, _⟩, _⟩ := same
  obtain ⟨positive, grid⟩ := kept.charged entry found debit
  intro free
  have cost := (costUsd_nonpos_iff world).mpr free
  have costGrid : OnGrid 8 world.costUsd := roundTo_onGrid 8 _
  rw [totalCost_billable, roundTo_of_onGrid grid, roundTo_of_onGrid costGrid] at rounded
  exact absurd positive (not_lt.mpr (rounded ▸ cost))

theorem PaidRow.passes {refunded : Prop} {later : JobRow} (kept : PaidRow world refunded row)
    (passes : RowPasses world row later)
    : PaidRow world refunded later where
  cancelled refund := passes.cancelled (kept.cancelled refund)
  closed := passes.closed
  missed marker cancelled :=
    passes.seconds ▸ kept.missed (passes.unmarked marker) (passes.fresh marker cancelled)
  parked waiting := passes.seconds.trans (passes.parked waiting)

theorem PaidRow.stays {refunded : Prop} (kept : PaidRow world refunded row)
    : RowPasses world row row :=
  ⟨rfl, fun same => same, fun same => same, kept.closed, fun _ same => same, kept.parked⟩

section Applied

variable (kept : PaidKept tenantId jobId world db)
  (debits
    : ∀ entry,
        query = .debitInsert entry ∨ query = .creditInsert entry
        → entry.ledgerId = ledgerIdFor tenantId (jobKey jobId)
        → entry.entryType = .debit
        → 0 < entry.amount ∧ OnGrid 8 entry.amount)

include kept debits

theorem PaidKept.apply
    (rows
      : ∀ row after,
          db.job? jobId = some row
          → (db.apply query).2.job? jobId = some after
          → PaidRow world (Refunded tenantId jobId db) row
          → PaidRow world (Refunded tenantId jobId (db.apply query).2) after)
    : PaidKept tenantId jobId world (db.apply query).2 := by
  refine ⟨kept.owned.apply query, ?_, ?_⟩
  · intro after found
    obtain ⟨row, stored, _⟩ := kept.owned
    exact rows row after stored found (kept.row row stored)
  · exact Db.apply_entries kept.charged debits

theorem PaidKept.apply_reads (reads : ¬Db.WritesJobs query)
    (refunds
      : Refunded tenantId jobId (db.apply query).2
        → Refunded tenantId jobId db
          ∨ ∃ row, db.job? jobId = some row ∧ row.status = .cancelled)
    : PaidKept tenantId jobId world (db.apply query).2 := by
  refine kept.apply debits ?_
  intro row after found same rowKept
  cases found.symm.trans ((db.apply_job?_eq reads jobId).symm.trans same)
  refine ⟨?_, rowKept.closed, rowKept.missed, rowKept.parked⟩
  intro refunded
  rcases refunds refunded with old | ⟨other, again, cancelled⟩
  · exact rowKept.cancelled old
  · cases found.symm.trans again
    exact cancelled

end Applied

theorem refunded_update (db : Db) (update : JobUpdate)
    : Refunded tenantId jobId (db.apply (.updateExecutionJob update)).2
      = Refunded tenantId jobId db := by
  rw [Refunded, db.apply_ledger_eq (by simp), Refunded]

theorem PaidKept.update (kept : PaidKept tenantId jobId world db) {update : JobUpdate}
    (writes
      : ∀ row,
          db.job? jobId = some row
          → update.selects row = true
          → PaidRow world (Refunded tenantId jobId db) row
          → PaidRow world (Refunded tenantId jobId db) (update.write db.clock row))
    : PaidKept tenantId jobId world (db.apply (.updateExecutionJob update)).2 := by
  refine kept.apply (by simp) ?_
  intro row after found same rowKept
  rw [refunded_update]
  cases same.symm.trans (Db.job?_updated found update)
  split
  · rename_i selected
    exact writes row found selected rowKept
  · exact rowKept

theorem billing_refunded {tenantId' : String} {jobId' : JobId} {gpuSec : ℚ}
    {planName : String} {backend : Option String} {call : Call}
    (issued : BillingCall tenantId' jobId' gpuSec planName backend call)
    : Refunded tenantId jobId (db.apply call.query).2 = Refunded tenantId jobId db := by
  rw [Refunded, Refunded, db.apply_find?_eq]
  intro entry inserted key
  rw [(issued.stored inserted).1] at key
  exact jobKey_ne_refundKey _ _ _ _ key

theorem PaidKept.billing (kept : PaidKept tenantId jobId world db) {tenantId' : String}
    {jobId' : JobId} {gpuSec : ℚ} {planName : String} {backend : Option String} {call : Call}
    (issued : BillingCall tenantId' jobId' gpuSec planName backend call)
    : PaidKept tenantId jobId world (db.apply call.query).2 := by
  have refunds := @billing_refunded tenantId jobId db _ _ _ _ _ _ issued
  refine kept.apply_reads ?_ issued.reads (fun refunded => Or.inl (refunds ▸ refunded))
  intro entry inserted _ _
  obtain ⟨rfl, _, positive⟩ := issued.stored inserted
  exact ⟨positive, roundTo_onGrid 8 _⟩

end Invariant

-- Contracts

/-- What bystanders leave alone: whether a refund is due, and the row as `RowPasses` says. -/
def Respects (tenantId : String) (jobId : JobId) (before after : Db) : Prop :=
  Db.Grows before after
  ∧ (RefundDue tenantId jobId before ↔ RefundDue tenantId jobId after)
  ∧ ∀ row,
      before.job? jobId = some row
      → ∃ later,
          after.job? jobId = some later
          ∧ later.durationSeconds = row.durationSeconds
          ∧ (row.status = .cancelled → later.status = .cancelled)
          ∧ (HasMarker later → HasMarker row)

/-- What everybody leaves alone: the seconds once they are written, and a refund that is due.
-/
def Honours (tenantId : String) (jobId : JobId) (world : WorkerWorld) (before after : Db)
    : Prop :=
  Retires jobId world before after
  ∧ (RefundDue tenantId jobId before → RefundDue tenantId jobId after)

section Contracts

variable {tenantId : String} {jobId : JobId} {world : WorkerWorld} {db : Db}

theorem Respects.refl (db : Db) : Respects tenantId jobId db db :=
  ⟨.refl db, Iff.rfl, fun row found => ⟨row, found, rfl, fun same => same, fun same => same⟩⟩

theorem Respects.trans {first second third : Db}
    (left : Respects tenantId jobId first second)
    (right : Respects tenantId jobId second third)
    : Respects tenantId jobId first third := by
  refine ⟨left.1.trans right.1, left.2.1.trans right.2.1, ?_⟩
  intro row found
  obtain ⟨middle, between, seconds, cancelled, unmarked⟩ := left.2.2 row found
  obtain ⟨last, later, seconds', cancelled', unmarked'⟩ := right.2.2 middle between
  exact ⟨last, later, seconds'.trans seconds, fun same => cancelled' (cancelled same),
    fun marker => unmarked (unmarked' marker)⟩

theorem Respects.honours (respects : Respects tenantId jobId before after)
    : Honours tenantId jobId world before after := by
  refine ⟨⟨respects.1, ?_⟩, respects.2.1.mp⟩
  intro row found executed
  obtain ⟨later, stored, seconds, _⟩ := respects.2.2 row found
  exact ⟨later, stored, seconds.trans executed⟩

theorem Honours.trans {first second third : Db}
    (left : Honours tenantId jobId world first second)
    (right : Honours tenantId jobId world second third)
    : Honours tenantId jobId world first third :=
  ⟨left.1.trans right.1, fun due => right.2 (left.2 due)⟩

theorem respects_of_reads (db : Db) (reads : ¬Db.WritesJobs query)
    (refunds : Refunded tenantId jobId (db.apply query).2 = Refunded tenantId jobId db)
    : Respects tenantId jobId db (db.apply query).2 := by
  have rows := db.apply_job?_eq reads jobId
  refine ⟨db.apply_grows query, ?_, ?_⟩
  · rw [RefundDue, RefundDue, rows, refunds]
  · intro row found
    exact ⟨row, rows.trans found, rfl, fun same => same, fun same => same⟩

theorem respects_of_passes {later : JobRow} (found : db.job? jobId = some row)
    (stored : (db.apply query).2.job? jobId = some later) (passes : RowPasses world row later)
    (refunds : Refunded tenantId jobId (db.apply query).2 = Refunded tenantId jobId db)
    (needed
      : row.status = .cancelled
        → HasMarker row
        → HasMarker later ∨ Refunded tenantId jobId db)
    : Respects tenantId jobId db (db.apply query).2 := by
  refine ⟨db.apply_grows query, ⟨?_, ?_⟩, ?_⟩
  · intro due
    rcases due with refunded | ⟨other, same, cancelled, marker⟩
    · exact Or.inl (refunds ▸ refunded)
    · cases found.symm.trans same
      rcases needed cancelled marker with kept | refunded
      · exact Or.inr ⟨later, stored, passes.cancelled cancelled, kept⟩
      · exact Or.inl (refunds ▸ refunded)
  · intro due
    rcases due with refunded | ⟨other, same, cancelled, marker⟩
    · exact Or.inl (refunds ▸ refunded)
    · cases stored.symm.trans same
      exact Or.inr ⟨row, found, passes.fresh marker cancelled, passes.unmarked marker⟩
  · intro other same
    cases found.symm.trans same
    exact ⟨later, stored, passes.seconds, passes.cancelled, passes.unmarked⟩

theorem exec_respects {call : Call} (respects : Respects tenantId jobId db (db.apply call.query).2)
    : Respects tenantId jobId db (service.exec call fault db).2 :=
  service.exec_holds (.refl db) respects

def paidContract (tenantId : String) (jobId : JobId) (world : WorkerWorld)
    : Contract bridge Db Kind where
  inv := PaidKept tenantId jobId world
  rely := Respects tenantId jobId
  guarantee before _ _ after := Honours tenantId jobId world before after
  allowed _ _ _ := True
  admits _ := False

def passerContract (tenantId : String) (jobId : JobId) (world : WorkerWorld)
    : Contract bridge Db Kind where
  inv := PaidKept tenantId jobId world
  rely := Honours tenantId jobId world
  guarantee before _ _ after := Respects tenantId jobId before after
  allowed db call _ := overwritesCancelled jobId db call = false
  admits _ := False

theorem paidContract_composes : (paidContract tenantId jobId world).Composes where
  refl db := .refl db
  trans left right := left.trans right

theorem passerContract_composes : (passerContract tenantId jobId world).Composes where
  refl db := (Respects.refl db).honours
  trans left right := left.trans right

theorem paidContract_keeps {call : Call}
    (unclaimed
      : ∀ limit locked world, call.query ≠ .claimQueuedExecutionJobs limit locked world)
    (kept : PaidKept tenantId jobId world db)
    (applied : PaidKept tenantId jobId world (db.apply call.query).2)
    (honours : Honours tenantId jobId world db (db.apply call.query).2)
    : (paidContract tenantId jobId world).Keeps service db call fault :=
  keeps_of_apply unclaimed ⟨kept, (Respects.refl db).honours⟩ ⟨applied, honours⟩

theorem passerContract_keeps {call : Call}
    (unclaimed
      : ∀ limit locked world, call.query ≠ .claimQueuedExecutionJobs limit locked world)
    (kept : PaidKept tenantId jobId world db)
    (applied : PaidKept tenantId jobId world (db.apply call.query).2)
    (respects : Respects tenantId jobId db (db.apply call.query).2)
    : (passerContract tenantId jobId world).Keeps service db call fault :=
  keeps_of_apply unclaimed ⟨kept, .refl db⟩ ⟨applied, respects⟩

end Contracts

-- The executor

section Executor

variable {tenantId : String} {jobId : JobId} {world : WorkerWorld} {db : Db}

def Unpaid (tenantId : String) (jobId : JobId) (db : Db) : Prop :=
  ¬Refunded tenantId jobId db
  ∧ ∃ row, db.job? jobId = some row ∧ ¬HasMarker row ∧ row.durationSeconds = some 0

def Dropped (jobId : JobId) (world : WorkerWorld) (db : Db) : Prop :=
  ∃ row,
    db.job? jobId = some row
    ∧ row.status = .cancelled
    ∧ row.durationSeconds ≠ some world.billable

theorem Unpaid.not_due (unpaid : Unpaid tenantId jobId db) : ¬RefundDue tenantId jobId db := by
  intro due
  obtain ⟨unrefunded, row, found, plain, _⟩ := unpaid
  rcases due with refunded | ⟨other, same, _, marker⟩
  · exact unrefunded refunded
  · cases found.symm.trans same
    exact plain marker

theorem Unpaid.respects (unpaid : Unpaid tenantId jobId before)
    (respects : Respects tenantId jobId before after)
    : Unpaid tenantId jobId after := by
  have quiet := fun due => unpaid.not_due (respects.2.1.mpr due)
  obtain ⟨_, row, found, plain, seconds⟩ := unpaid
  obtain ⟨later, stored, same, _, unmarked⟩ := respects.2.2 row found
  exact ⟨fun refunded => quiet (Or.inl refunded), later, stored,
    fun marker => plain (unmarked marker), same.trans seconds⟩

theorem Unexecuted.respects (unexecuted : Unexecuted jobId world before)
    (respects : Respects tenantId jobId before after)
    : Unexecuted jobId world after := by
  obtain ⟨row, found, open_⟩ := unexecuted
  obtain ⟨later, stored, seconds, _⟩ := respects.2.2 row found
  exact ⟨later, stored, seconds ▸ open_⟩

theorem Dropped.respects (dropped : Dropped jobId world before)
    (respects : Respects tenantId jobId before after)
    : Dropped jobId world after := by
  obtain ⟨row, found, cancelled, open_⟩ := dropped
  obtain ⟨later, stored, seconds, keeps, _⟩ := respects.2.2 row found
  exact ⟨later, stored, keeps cancelled, seconds ▸ open_⟩

/-- A text pattern matches every text that begins with it, by induction on the pattern. -/
theorem likePrefix_append (pattern text : List Char)
    : likePrefix pattern (pattern ++ text) = true := by
  induction pattern with
  | nil => rfl
  | cons p pattern ih =>
      by_cases wild : p = '_'
      · subst wild
        exact ih
      · rw [List.cons_append, likePrefix]
        · simp [ih]
        · exact wild

theorem isRefundMarker_refundMarker (amount : ℚ) : isRefundMarker (refundMarker amount) = true := by
  rw [isRefundMarker, refundMarker, String.toList_append]
  exact likePrefix_append _ _

theorem paidContract_finalize {backend : Option String}
    : FinalizeRules service (paidContract tenantId jobId world) tenantId jobId world.billable
        world.plan backend (Unpaid tenantId jobId) (Unpaid tenantId jobId)
        (Unpaid tenantId jobId) (Unpaid tenantId jobId) where
  composes := paidContract_composes
  grows := And.left
  stableBefore _ _ moved _ unpaid := unpaid.respects moved
  stableOpen _ _ moved _ unpaid := unpaid.respects moved
  stableSkip _ _ moved _ unpaid := unpaid.respects moved
  stableFails _ _ moved _ unpaid := unpaid.respects moved
  reads db fault kept _ _ := by
    have respects : Respects tenantId jobId db (db.apply (.getExecutionJob jobId)).2 :=
      .refl db
    exact paidContract_keeps (by simp) kept kept respects.honours
  calls call db fault issued kept unpaid _ _ := by
    have respects : Respects tenantId jobId db (db.apply call.query).2 :=
      respects_of_reads db issued.reads (billing_refunded issued)
    exact ⟨paidContract_keeps issued.unclaimed kept (kept.billing issued) respects.honours,
      unpaid.respects (exec_respects respects)⟩
  opens _ _ _ unpaid _ _ _ := unpaid
  skips _ _ unpaid _ := unpaid
  free _ _ unpaid _ := unpaid
  readFails _ _ _ unpaid _ _ := unpaid
  callFails call db fault issued _ kept unpaid _ _ _ :=
    unpaid.respects (exec_respects (respects_of_reads db issued.reads (billing_refunded issued)))
  absent _ _ unpaid _ := unpaid

theorem honours_of_reads (db : Db) (reads : ¬Db.WritesJobs query)
    : Honours tenantId jobId world db (db.apply query).2 := by
  refine ⟨(spectates_of_reads db reads).retires, ?_⟩
  intro due
  rcases due with refunded | ⟨row, found, facts⟩
  · exact Or.inl (refunded.grows (db.apply_grows query))
  · exact Or.inr ⟨row, (db.apply_job?_eq reads jobId).trans found, facts⟩

theorem honours_of_guarded (kept : PaidKept tenantId jobId world db) {update : JobUpdate}
    (guarded : .cancelled ∈ update.ifStatusNotIn)
    (seconds : update.durationSeconds = none ∨ update.durationSeconds = some world.billable)
    : Honours tenantId jobId world db (db.apply (.updateExecutionJob update)).2 := by
  refine ⟨retires_of_update db seconds, ?_⟩
  intro due
  obtain ⟨row, found, _⟩ := kept.owned
  have cancelled := kept.cancelled_of_due due found
  have spared : update.selects row ≠ true :=
    fun selected => Db.selects_status selected (cancelled ▸ guarded)
  rcases due with refunded | ⟨other, same, facts⟩
  · exact Or.inl (refunded.grows (db.apply_grows _))
  · cases found.symm.trans same
    refine Or.inr ⟨row, ?_, facts⟩
    rw [Db.job?_updated found, if_neg spared]

theorem PaidKept.refundCancelled (kept : PaidKept tenantId jobId world db) {jobId' : JobId}
    {call : Call} (issued : RefundCall tenantId' jobId' amount call)
    (found : db.job? jobId = some row) (cancelled : row.status = .cancelled)
    : PaidKept tenantId jobId world (db.apply call.query).2 := by
  refine kept.apply_reads ?_ issued.reads (fun _ => Or.inr ⟨row, found, cancelled⟩)
  intro entry inserted _ debit
  rw [issued.stored inserted] at debit
  cases debit

theorem Dropped.refund (dropped : Dropped jobId world db) {jobId' : JobId} {call : Call}
    (issued : RefundCall tenantId' jobId' amount call)
    : Dropped jobId world (service.exec call fault db).2 := by
  refine service.exec_holds dropped ?_
  obtain ⟨row, found, facts⟩ := dropped
  exact ⟨row, (db.apply_job?_eq issued.reads jobId).trans found, facts⟩

theorem paidContract_refund
    : RefundRules service (paidContract tenantId jobId world) tenantId jobId world.costUsd
        (Dropped jobId world) where
  composes := paidContract_composes
  grows := And.left
  stable _ _ moved _ dropped := dropped.respects moved
  calls call db fault issued kept dropped _ := by
    have stays : Dropped jobId world (service.exec call fault db).2 :=
      Dropped.refund dropped issued
    obtain ⟨row, found, cancelled, _⟩ := dropped
    exact ⟨paidContract_keeps issued.unclaimed kept (kept.refundCancelled issued found cancelled)
      (honours_of_reads db issued.reads), stays⟩

theorem Unpaid.running (unpaid : Unpaid tenantId jobId db)
    (kept : PaidKept tenantId jobId world db) {update : JobUpdate} {site : Site} {fault : Fault}
    (status : update.status = some .running) (error : update.error = none)
    (seconds : update.durationSeconds = none)
    : PaidKept tenantId jobId world (db.apply (.updateExecutionJob update)).2
      ∧ Unpaid tenantId jobId (service.exec ⟨site, .updateExecutionJob update⟩ fault db).2 := by
  obtain ⟨unrefunded, row, found, plain, claimed⟩ := unpaid
  constructor
  · refine kept.update ?_
    intro other same _ _
    cases found.symm.trans same
    have unmarked : ¬HasMarker (update.write db.clock row) := by
      simpa [HasMarker, JobUpdate.write, error] using plain
    refine ⟨fun refunded => absurd refunded unrefunded, fun marker => absurd marker unmarked,
      fun marker => absurd marker unmarked, ?_⟩
    intro waiting
    simp [JobUpdate.write, status] at waiting
  · refine service.exec_holds ⟨unrefunded, row, found, plain, claimed⟩
      ⟨by rw [← refunded_update] at unrefunded; exact unrefunded, _, Db.job?_updated found update, ?_⟩
    split
    · exact ⟨by simpa [HasMarker, JobUpdate.write, error] using plain,
        by simpa [JobUpdate.write, seconds] using claimed⟩
    · exact ⟨plain, claimed⟩

theorem not_due_of_failed (kept : PaidKept tenantId jobId world db)
    (undue : ¬RefundDue tenantId jobId db) {update : JobUpdate} {site : Site}
    (status : update.status = some .failed)
    : ¬RefundDue tenantId jobId
        (service.exec ⟨site, .updateExecutionJob update⟩ fault db).2 := by
  intro due
  rcases service.exec_store ⟨site, .updateExecutionJob update⟩ fault db with same | effect
  · exact undue (same ▸ due)
  · rw [effect] at due
    obtain ⟨row, found, _⟩ := kept.owned
    rcases due with refunded | ⟨later, stored, cancelled, marker⟩
    · exact undue (Or.inl (refunded_update db update ▸ refunded))
    · cases stored.symm.trans (Db.job?_updated found update)
      split at cancelled
      · simp [JobUpdate.write, status] at cancelled
      · rename_i missed
        rw [if_neg missed] at marker
        exact undue (Or.inr ⟨row, found, cancelled, marker⟩)

theorem PaidKept.refused (kept : PaidKept tenantId jobId world db)
    (undue : ¬RefundDue tenantId jobId db) {update : JobUpdate}
    (status : update.status = some .failed)
    : PaidKept tenantId jobId world (db.apply (.updateExecutionJob update)).2 := by
  refine kept.update ?_
  intro row found _ _
  have failed : (update.write db.clock row).status = .failed := by
    simp [JobUpdate.write, status]
  refine ⟨fun refunded => absurd (Or.inl refunded) undue, ?_, ?_, ?_⟩
  · intro _
    rw [failed]
    decide
  · intro _ cancelled
    rw [failed] at cancelled
    cases cancelled
  · intro waiting
    rw [failed] at waiting
    cases waiting

/-- The final write keeps the invariant: it spares a cancelled row. -/
theorem PaidKept.final (kept : PaidKept tenantId jobId world db) (status : String)
    (billingStatus : BillingStatus)
    : PaidKept tenantId jobId world
        (db.apply (.updateExecutionJob (finalUpdate jobId tenantId world status billingStatus))).2
      ∧ Honours tenantId jobId world db
          (db.apply
            (.updateExecutionJob (finalUpdate jobId tenantId world status billingStatus))).2 := by
  constructor
  · refine kept.update ?_
    intro row _ selected rowKept
    have unmarked : ¬HasMarker ((finalUpdate jobId tenantId world status billingStatus).write
        db.clock row) := by
      simp [HasMarker, JobUpdate.write, finalUpdate, isRefundMarker_finalError]
    refine ⟨?_, fun marker => absurd marker unmarked, fun marker => absurd marker unmarked,
      fun _ => rfl⟩
    intro refunded
    have cancelled := rowKept.cancelled refunded
    exact absurd (by simp [cancelled, finalUpdate, finalWriteBlockedStatuses, terminalStatuses])
      (Db.selects_status selected)
  · exact honours_of_guarded kept
      (by simp [finalUpdate, finalWriteBlockedStatuses, terminalStatuses]) (Or.inr rfl)

theorem PaidKept.missed_final (kept : PaidKept tenantId jobId world db)
    (unpaid : Unpaid tenantId jobId db)
    (debited : Debited tenantId jobId (totalCost world.billable 0 0) db) {status : String}
    {billingStatus : BillingStatus}
    (none : (db.updateJob (finalUpdate jobId tenantId world status billingStatus)).1 = 0)
    : Unexecuted jobId world
        (db.updateJob (finalUpdate jobId tenantId world status billingStatus)).2 := by
  obtain ⟨row, found, _, claimed⟩ := unpaid.2
  have worked := kept.billable_ne_zero debited
  have spared := (Db.updateJob_eq_zero (by simp [JobUpdate.isEmpty, finalUpdate])).mp none row found
  refine ⟨row, (Db.job?_updated found _).trans (by simp [spared]), ?_⟩
  · intro same
    exact worked (Option.some.inj (claimed.symm.trans same)).symm

theorem PaidKept.marked (kept : PaidKept tenantId jobId world db)
    (dropped : Dropped jobId world db)
    : PaidKept tenantId jobId world
        (db.apply (.updateExecutionJob (markerUpdate jobId tenantId world.costUsd))).2
      ∧ Honours tenantId jobId world db
          (db.apply (.updateExecutionJob (markerUpdate jobId tenantId world.costUsd))).2 := by
  obtain ⟨row, found, cancelled, open_⟩ := dropped
  refine ⟨kept.update ?_, retires_of_update db (Or.inl rfl), ?_⟩
  · intro other same _ rowKept
    cases found.symm.trans same
    refine ⟨fun _ => cancelled, fun _ => ?_, fun _ _ => open_, rowKept.parked⟩
    rw [show ((markerUpdate jobId tenantId world.costUsd).write db.clock row).status = _ from
      cancelled]
    decide
  · intro due
    by_cases selected : (markerUpdate jobId tenantId world.costUsd).selects row = true
    · refine Or.inr ⟨(markerUpdate jobId tenantId world.costUsd).write db.clock row,
        (Db.job?_updated found _).trans (by rw [if_pos selected]), cancelled, ?_⟩
      simp [HasMarker, JobUpdate.write, markerUpdate, isRefundMarker_refundMarker]
    · rcases due with refunded | ⟨other, same, facts⟩
      · exact Or.inl (refunded.grows (db.apply_grows _))
      · cases found.symm.trans same
        exact Or.inr ⟨row, (Db.job?_updated found _).trans (by rw [if_neg selected]), facts⟩

theorem unmarked_drain (row : JobRow)
    : ¬HasMarker ((drainUpdate jobId tenantId world).write db.clock row) := by
  simp only [HasMarker, JobUpdate.write, drainUpdate, Option.some_or, Option.any_some]
  decide

theorem PaidKept.drained (kept : PaidKept tenantId jobId world db)
    : PaidKept tenantId jobId world
        (db.apply (.updateExecutionJob (drainUpdate jobId tenantId world))).2
      ∧ Honours tenantId jobId world db
          (db.apply (.updateExecutionJob (drainUpdate jobId tenantId world))).2 := by
  refine ⟨kept.update ?_, honours_of_guarded kept
    (by simp [drainUpdate, finalWriteBlockedStatuses, terminalStatuses]) (Or.inl rfl)⟩
  intro row _ _ _
  exact ⟨fun _ => rfl, fun marker => absurd marker (unmarked_drain row),
    fun marker => absurd marker (unmarked_drain row), fun waiting => by cases waiting⟩

/-- A run of `execute_and_bill` keeps completed work paid. -/
theorem paidContract_worker
    : WorkerRules service (paidContract tenantId jobId world) jobId tenantId world
        (Unpaid tenantId jobId) (fun db => ¬RefundDue tenantId jobId db) (Unpaid tenantId jobId)
        (Unpaid tenantId jobId) (Unpaid tenantId jobId) (Unexecuted jobId world)
        (Dropped jobId world) (fun _ => True) where
  billing _ := paidContract_finalize
  refund := paidContract_refund
  stableRefused _ _ moved _ undue due := undue (moved.2.1.mpr due)
  stableMissed _ _ moved _ unexecuted := unexecuted.respects moved
  stableSettled _ _ _ _ _ := trivial
  refused _ _ unpaid := unpaid.not_due
  settled _ _ _ := trivial
  running update db fault _ status error columns kept unpaid _ := by
    obtain ⟨applied, after⟩ := @Unpaid.running _ _ _ _ unpaid kept _ .workerRunning fault status
      error columns.2
    exact ⟨paidContract_keeps (by simp) kept applied
      ⟨retires_of_update db (Or.inl columns.2), fun due => absurd due unpaid.not_due⟩, after⟩
  refuses site update db fault _ _ status _ columns kept undue _ :=
    ⟨paidContract_keeps (by simp) kept (PaidKept.refused kept undue status)
      ⟨retires_of_update db (Or.inl columns.2), fun due => absurd due undue⟩,
      not_due_of_failed kept undue status⟩
  finals status billingStatus backend db fault _ kept billed _ := by
    obtain ⟨applied, honours⟩ := PaidKept.final kept status billingStatus
    refine ⟨paidContract_keeps (by simp) kept applied honours, ?_⟩
    split
    · rename_i missed
      obtain ⟨rfl, rfl, none⟩ := missed
      have post := billed.resolve_right (by simp)
      exact PaidKept.missed_final kept post.1 post.2.1 none
    · trivial
  rereads db fault kept _ _ :=
    ⟨paidContract_keeps (by simp) kept kept (honours_of_reads db (fun writes => writes)),
      fun _ => trivial⟩
  cancelled db row _ unexecuted found _ cancelled := by
    obtain ⟨other, same, open_⟩ := unexecuted
    cases found.symm.trans same
    exact ⟨row, found, cancelled, open_⟩
  closed _ _ _ _ := trivial
  refunded _ _ _ _ := trivial
  interrupted _ _ _ _ _ _ _ := trivial
  marks db fault kept dropped _ := by
    obtain ⟨applied, honours⟩ := PaidKept.marked kept dropped
    exact ⟨paidContract_keeps (by simp) kept applied honours, trivial⟩
  drains db fault kept _ _ := by
    obtain ⟨applied, honours⟩ := PaidKept.drained kept
    exact ⟨paidContract_keeps (by simp) kept applied honours, trivial⟩

end Executor

-- Bystanders

section Bystanders

variable {tenantId : String} {jobId : JobId} {world : WorkerWorld} {db : Db} {kind : Kind}
  {call : Call}

/-- A bystander other than the refund sweep stores no refund of the job, by cases of the kind
and its vocabulary.
-/
theorem bystander_refunded (joins : joinsUnkeyed jobId kind = true)
    (refunds : kind ≠ .sweepRefundPending) (issued : KindCall kind call)
    : Refunded tenantId jobId (db.apply call.query).2 = Refunded tenantId jobId db := by
  rw [Refunded, Refunded, db.apply_find?_eq]
  intro entry inserted key
  simp only [joinsUnkeyed, Bool.and_eq_true] at joins
  obtain ⟨joins, unkeyed⟩ := joins
  obtain ⟨site, query⟩ := call
  cases kindCall_stores issued inserted with
  | debit => exact jobKey_ne_refundKey _ _ _ _ key
  | refund pays =>
      obtain ⟨rfl, rfl⟩ := refundKey_injective key
      rcases pays with ⟨world, rfl⟩ | sweeps
      · exact of_decide_eq_true joins rfl
      · exact refunds sweeps
  | topUp asked fresh =>
      subst asked
      exact ledgerIdFor_ne_fresh (fresh (Option.isNone_iff_eq_none.mp unkeyed)) key.symm

theorem Bystands.passes {refunded : Prop} {later : JobRow} (kept : PaidRow world refunded row)
    (found : db.job? jobId = some row) (spares : overwritesCancelled jobId db call = false)
    (refunds : kind ≠ .sweepRefundPending) (touched : Bystands db row kind call later)
    : RowPasses world row later
      ∧ (row.status = .cancelled → HasMarker row → HasMarker later) := by
  cases touched with
  | same => exact ⟨kept.stays, fun _ marker => marker⟩
  | cancel asked cancellable =>
      have unmarked : ¬HasMarker row := fun marker => cancellable (kept.closed marker)
      refine ⟨⟨rfl, fun _ => rfl, fun marker => marker, fun marker => absurd marker unmarked,
        fun marker => absurd marker unmarked, fun waiting => by cases waiting⟩,
        fun _ marker => marker⟩
  | @complete update query asked sited selected status columns guarded =>
      have open_ : row.status ≠ .cancelled := by
        intro cancelled
        simp only [completionSites, List.mem_cons, List.not_mem_nil, or_false] at sited
        rcases sited with site | site | site
        · exact guarded site cancelled
        · simp [overwritesCancelled, query, site, found, selected, cancelled] at spares
        · simp [overwritesCancelled, query, site, found, selected, cancelled] at spares
      have completed : (update.write db.clock row).status = .completed := by
        simp [JobUpdate.write, status]
      refine ⟨⟨by simp [JobUpdate.write, columns.2.1], fun cancelled => absurd cancelled open_,
        ?_, ?_, ?_, ?_⟩, fun cancelled => absurd cancelled open_⟩
      · simp [HasMarker, JobUpdate.write, columns.2.2]
      · intro _
        rw [completed]
        decide
      · intro _ cancelled
        rw [completed] at cancelled
        cases cancelled
      · intro waiting
        rw [completed] at waiting
        cases waiting
  | @text update status columns texts =>
      have error := texts.resolve_right (fun cleared => refunds cleared.2)
      have same : (update.write db.clock row).error = row.error := by
        simp [JobUpdate.write, error]
      have stays : (update.write db.clock row).status = row.status := by
        simp [JobUpdate.write, status]
      refine ⟨⟨by simp [JobUpdate.write, columns.2], ?_, ?_, ?_, ?_, ?_⟩, ?_⟩
      · rw [stays]
        exact fun cancelled => cancelled
      · rw [HasMarker, same, HasMarker]
        exact fun marker => marker
      · rw [HasMarker, same, stays]
        exact kept.closed
      · rw [stays]
        exact fun _ cancelled => cancelled
      · rw [stays]
        exact kept.parked
      · rw [HasMarker, HasMarker, same]
        exact fun _ marker => marker
  | orphan asked running =>
      have unmarked := unmarked_orphan db.clock row
      have other : row.status ≠ .cancelled := by
        rw [running]
        decide
      exact ⟨⟨rfl, fun cancelled => absurd cancelled other, fun marker => absurd marker unmarked,
        fun marker => absurd marker unmarked, fun marker => absurd marker unmarked,
        fun waiting => by cases waiting⟩, fun cancelled => absurd cancelled other⟩

theorem charged_of_stored {entry : LedgerEntry} (issued : KindCall kind call)
    (inserted : call.query = .debitInsert entry ∨ call.query = .creditInsert entry)
    (key : entry.ledgerId = ledgerIdFor tenantId (jobKey jobId))
    (debit : entry.entryType = .debit)
    : 0 < entry.amount ∧ OnGrid 8 entry.amount := by
  rcases stored_debit issued inserted key with credit | ⟨gpuSec, planName, _, _, rfl, _, positive⟩
  · rw [debit] at credit
    cases credit
  · exact ⟨positive, roundTo_onGrid 8 _⟩

theorem PaidKept.bystander (kept : PaidKept tenantId jobId world db)
    (joins : joinsUnkeyed jobId kind = true) (refunds : kind ≠ .sweepRefundPending)
    (bills : ∀ input, kind ≠ .sweepBillingPending input) (issued : KindCall kind call)
    (spares : overwritesCancelled jobId db call = false)
    : PaidKept tenantId jobId world (db.apply call.query).2
      ∧ Respects tenantId jobId db (db.apply call.query).2 := by
  have beside : isBystander jobId kind := by
    simp only [joinsUnkeyed, Bool.and_eq_true] at joins
    exact ⟨joins.1, bills⟩
  have same := @bystander_refunded tenantId jobId db kind call joins refunds issued
  obtain ⟨row, found, _⟩ := kept.owned
  obtain ⟨later, stored, touched⟩ := bystander_row beside issued found
  obtain ⟨passes, needed⟩ := Bystands.passes (kept.row row found) found spares refunds touched
  refine ⟨kept.apply (fun entry => charged_of_stored issued) ?_,
    respects_of_passes found stored passes same (fun cancelled marker =>
      Or.inl (needed cancelled marker))⟩
  intro other after found' stored' rowKept
  cases found.symm.trans found'
  cases stored.symm.trans stored'
  rw [same]
  exact rowKept.passes passes

def ListedSeconds (jobId : JobId) (world : WorkerWorld) (rows : List JobRow) (db : Db) : Prop :=
  ∀ job ∈ rows,
    job.id = jobId → ∃ row, db.job? jobId = some row ∧ row.durationSeconds = some world.billable

theorem ListedSeconds.honours {rows : List JobRow} (listed : ListedSeconds jobId world rows before)
    (moved : Honours tenantId jobId world before after)
    : ListedSeconds jobId world rows after := by
  intro job member own
  obtain ⟨row, found, executed⟩ := listed job member own
  exact moved.1.2 row found executed

/-- A write of the billing sweep to a listed row keeps the invariant: it spares cancelled rows
or their status, and no marker stands on a row with the seconds of the run.
-/
theorem PaidKept.swept (kept : PaidKept tenantId jobId world db) {rows : List JobRow}
    {job : JobRow} {input : SweepInput} (listed : ListedSeconds jobId world rows db)
    (member : job ∈ rows) (issued : SweptCall input job call)
    : PaidKept tenantId jobId world (db.apply call.query).2
      ∧ Respects tenantId jobId db (db.apply call.query).2 := by
  rcases issued with own | billing
  · have writes : ∀ update : JobUpdate, update.jobId = job.id
        → update.durationSeconds = none
        → (∃ text, update.error = some text ∧ isRefundMarker text = false)
        → (.cancelled ∈ update.ifStatusNotIn ∨ update.status = none)
        → PaidKept tenantId jobId world (db.apply (.updateExecutionJob update)).2
          ∧ Respects tenantId jobId db (db.apply (.updateExecutionJob update)).2 := by
      intro update target seconds plain spares
      obtain ⟨text, error, plain⟩ := plain
      obtain ⟨row, found, _⟩ := kept.owned
      have stored := Db.job?_updated found update
      have passes : RowPasses world row
            (if update.selects row then update.write db.clock row else row)
          ∧ (row.status = .cancelled → HasMarker row
            → HasMarker (if update.selects row then update.write db.clock row else row)) := by
        split
        · rename_i selected
          have own : job.id = jobId :=
            target.symm.trans ((Db.selects_jobId selected).symm.trans (Db.job?_id found))
          obtain ⟨other, same, executed⟩ := listed job member own
          cases found.symm.trans same
          have unmarked : ¬HasMarker (update.write db.clock row) := by
            simp [HasMarker, JobUpdate.write, error, plain]
          refine ⟨⟨by simp [JobUpdate.write, seconds], ?_, fun marker => absurd marker unmarked,
            fun marker => absurd marker unmarked, fun marker => absurd marker unmarked,
            fun _ => executed⟩, ?_⟩
          · intro cancelled
            rcases spares with guarded | none
            · exact absurd (cancelled ▸ guarded) (Db.selects_status selected)
            · simpa [JobUpdate.write, none] using cancelled
          · intro cancelled marker
            exact absurd executed ((kept.row row found).missed marker cancelled)
        · exact ⟨(kept.row row found).stays, fun _ marker => marker⟩
      refine ⟨kept.apply (by simp) ?_, respects_of_passes found stored passes.1
        (refunded_update db update) (fun cancelled marker =>
          Or.inl (passes.2 cancelled marker))⟩
      intro other after found' stored' rowKept
      cases found.symm.trans found'
      cases stored.symm.trans stored'
      rw [refunded_update]
      exact rowKept.passes passes.1
    cases own with
    | close sited ended text =>
        refine writes _ rfl rfl ⟨_, rfl, ?_⟩ (Or.inl (by simp [sweepUpdate, terminalStatuses]))
        rcases text with rfl | rfl
        · decide
        · decide
    | noFunds =>
        exact writes _ rfl rfl ⟨_, rfl, isRefundMarker_billingPendingError _ _⟩ (Or.inr rfl)
  · exact ⟨kept.billing billing, respects_of_reads db billing.reads (billing_refunded billing)⟩

theorem passerContract_billingSweep {input : SweepInput}
    : Triple service (passerContract tenantId jobId world) (fun _ => True)
        (sweepBillingPendingOnce input) (fun _ _ => True) (fun _ _ => True) := by
  have stable : ∀ rows, (passerContract tenantId jobId world).Stable
      (ListedSeconds jobId world rows) :=
    fun rows _ _ moved _ listed => listed.honours moved
  refine sweepBillingPendingOnce_triple passerContract_composes stable ?_ ?_
  · intro excludeIds db fault kept _
    have respects : Respects tenantId jobId db
        (db.apply (.getBillingPendingJobs billingPendingBatch excludeIds)).2 := .refl db
    refine ⟨passerContract_keeps (by simp) kept kept respects, ?_⟩
    intro job member own
    obtain ⟨found, status⟩ := mem_billingPendingRows member
    rw [own] at found
    exact ⟨job, found, (kept.row job found).parked status⟩
  · intro rows job member memory
    refine Triple.of_issues sweepRow_issues (stable rows) ?_
    intro call db fault issued kept listed _
    obtain ⟨applied, respects⟩ := PaidKept.swept kept listed member issued
    exact ⟨passerContract_keeps issued.unclaimed kept applied respects,
      listed.honours (exec_respects respects).honours⟩

def ListedDue (tenantId : String) (jobId : JobId) (rows : List JobRow) (db : Db) : Prop :=
  ∀ job ∈ rows, job.id = jobId → RefundDue tenantId jobId db

theorem PaidKept.refundDue (kept : PaidKept tenantId jobId world db) {jobId' : JobId}
    (issued : RefundCall tenantId' jobId' amount call)
    (due : jobId' = jobId → RefundDue tenantId jobId db)
    : PaidKept tenantId jobId world (db.apply call.query).2
      ∧ Respects tenantId jobId db (db.apply call.query).2 := by
  have reads := issued.reads
  obtain ⟨row, found, _⟩ := kept.owned
  rcases db.apply_find? call.query (ledgerIdFor tenantId (refundKey jobId)) with
    same | ⟨entry, inserted, key, _, _⟩
  · have refunds : Refunded tenantId jobId (db.apply call.query).2
        = Refunded tenantId jobId db := by
      rw [Refunded, same, Refunded]
    refine ⟨kept.apply_reads ?_ reads (fun refunded => Or.inl (refunds ▸ refunded)),
      respects_of_reads db reads refunds⟩
    intro entry inserted _ debit
    rw [issued.stored inserted] at debit
    cases debit
  · have owed : RefundDue tenantId jobId db := by
      rw [issued.stored inserted] at key
      exact due (refundKey_injective key).2
    have honours : Honours tenantId jobId world db (db.apply call.query).2 :=
      honours_of_reads db reads
    refine ⟨kept.refundCancelled issued found (kept.cancelled_of_due owed found),
      db.apply_grows _, ⟨fun _ => honours.2 owed, fun _ => owed⟩, ?_⟩
    intro other again
    exact ⟨other, (db.apply_job?_eq reads jobId).trans again, rfl, fun same => same,
      fun same => same⟩

theorem passerContract_refund {rows : List JobRow} {job : JobRow} (member : job ∈ rows)
    : RefundRules service (passerContract tenantId jobId world) job.tenantId job.id amount
        (ListedDue tenantId jobId rows) where
  composes := passerContract_composes
  grows moved := moved.1.1
  stable _ _ moved _ listed other member own := moved.2 (listed other member own)
  calls call db fault issued kept listed _ := by
    obtain ⟨applied, respects⟩ := PaidKept.refundDue kept issued (listed job member)
    exact ⟨passerContract_keeps issued.unclaimed kept applied respects, fun other among own =>
      (exec_respects respects).2.1.mp (listed other among own)⟩

theorem PaidKept.cleared (kept : PaidKept tenantId jobId world db) {job : JobRow}
    (refunded : Refunded job.tenantId job.id db)
    : PaidKept tenantId jobId world (db.apply (.updateExecutionJob (errorUpdate job ""))).2
      ∧ Respects tenantId jobId db (db.apply (.updateExecutionJob (errorUpdate job ""))).2 := by
  obtain ⟨row, found, tenant⟩ := kept.owned
  have stored := Db.job?_updated found (errorUpdate job "")
  have rowKept := kept.row row found
  have passes : RowPasses world row (if (errorUpdate job "").selects row then
        (errorUpdate job "").write db.clock row else row)
      ∧ (row.status = .cancelled → HasMarker row
        → HasMarker (if (errorUpdate job "").selects row then
            (errorUpdate job "").write db.clock row else row)
          ∨ Refunded tenantId jobId db) := by
    split
    · rename_i selected
      have own : job.id = jobId := (Db.selects_jobId selected).symm.trans (Db.job?_id found)
      have owner : row.tenantId = job.tenantId := Db.selects_tenantId selected rfl
      have unmarked : ¬HasMarker ((errorUpdate job "").write db.clock row) := by
        simp only [HasMarker, JobUpdate.write, errorUpdate, Option.some_or, Option.any_some]
        decide
      refine ⟨⟨rfl, fun same => same, fun marker => absurd marker unmarked,
        fun marker => absurd marker unmarked, fun marker => absurd marker unmarked,
        rowKept.parked⟩, fun _ _ => Or.inr ?_⟩
      rw [← tenant, owner, ← own]
      exact refunded
    · exact ⟨rowKept.stays, fun _ marker => Or.inl marker⟩
  refine ⟨kept.apply (by simp) ?_,
    respects_of_passes found stored passes.1 (refunded_update db _) passes.2⟩
  intro other after found' stored' rowKept
  cases found.symm.trans found'
  cases stored.symm.trans stored'
  rw [refunded_update]
  exact rowKept.passes passes.1

theorem passerContract_refundSweep
    : Triple service (passerContract tenantId jobId world) (fun _ => True) sweepRefundPendingOnce
        (fun _ _ => True) (fun _ _ => True) := by
  have stable : ∀ rows, (passerContract tenantId jobId world).Stable
      (ListedDue tenantId jobId rows) :=
    fun rows _ _ moved _ listed other member own => moved.2 (listed other member own)
  refine sweepRefundPendingOnce_triple passerContract_composes stable ?_ ?_
  · intro db fault kept _
    have respects : Respects tenantId jobId db (db.apply (.getRefundPendingJobs 50)).2 := .refl db
    refine ⟨passerContract_keeps (by simp) kept kept respects, ?_⟩
    intro job member own
    obtain ⟨found, cancelled⟩ := mem_refundPendingRows member
    obtain ⟨text, written, marker⟩ := marker_of_listed member
    rw [own] at found
    exact Or.inr ⟨job, found, cancelled, by simp [HasMarker, written, marker]⟩
  · intro rows row member
    refine ⟨fun amount _ => passerContract_refund member, ?_⟩
    intro db fault kept listed refunded _
    obtain ⟨applied, respects⟩ := PaidKept.cleared kept refunded
    exact ⟨passerContract_keeps (by simp) kept applied respects, fun other among own =>
      (exec_respects respects).2.1.mp (listed other among own)⟩

theorem passerContract_body (joins : joinsUnkeyed jobId kind = true)
    : Triple service (passerContract tenantId jobId world) (fun _ => True) (bodyOf kind)
        (fun _ _ => True) (fun _ _ => True) := by
  have idle : (passerContract tenantId jobId world).Stable (fun _ => True) :=
    fun _ _ _ _ _ => trivial
  by_cases bills : ∃ input, kind = .sweepBillingPending input
  · obtain ⟨input, same⟩ := bills
    subst same
    exact Triple.bind passerContract_composes (fun _ _ => True) passerContract_billingSweep
      (fun _ => Triple.done idle (fun _ _ _ => trivial))
  · by_cases refunds : kind = .sweepRefundPending
    · subst refunds
      exact Triple.bind passerContract_composes (fun _ _ => True) passerContract_refundSweep
        (fun _ => Triple.done idle (fun _ _ _ => trivial))
    · refine Triple.of_issues (bodyOf_issues kind) idle ?_
      intro call db fault issued kept _ spares
      obtain ⟨applied, respects⟩ := PaidKept.bystander kept joins refunds
        (fun input same => bills ⟨input, same⟩) issued spares
      have run : joinsRun jobId kind = true := by
        simp only [joinsUnkeyed, Bool.and_eq_true] at joins
        exact joins.1
      exact ⟨passerContract_keeps (unclaimed_of_joins run issued) kept applied respects, trivial⟩

end Bystanders

-- Every run

section Runs

variable {tenantId : String} {jobId : JobId} {world : WorkerWorld}

theorem paidRun
    : OneRun (paidContract tenantId jobId world)
        (fun _ => passerContract tenantId jobId world) (PaidKept tenantId jobId world) where
  executorComposes := paidContract_composes
  bystanderComposes _ := passerContract_composes
  executorInv := rfl
  bystanderInv _ := rfl
  executorTolerates moved := moved
  bystanderTolerates moved := moved
  bystandersTolerate moved := Respects.honours moved
  executorStarts _ admitted := admitted
  bystanderStarts _ _ admitted := admitted

theorem paidKept_of_claimed {db : Db} (claimed : Claimed tenantId jobId db)
    : PaidKept tenantId jobId world db ∧ Unpaid tenantId jobId db := by
  obtain ⟨row, found, tenant, status, seconds, error⟩ := claimed.row
  have unrefunded : ¬Refunded tenantId jobId db := by
    simp [Refunded, claimed.unrefunded]
  have unmarked : ¬HasMarker row := by
    simp [HasMarker, error]
  refine ⟨⟨⟨row, found, tenant⟩, ?_, ?_⟩, unrefunded, row, found, unmarked, seconds⟩
  · intro other same
    cases found.symm.trans same
    refine ⟨fun refunded => absurd refunded unrefunded, fun marker => absurd marker unmarked,
      fun marker => absurd marker unmarked, ?_⟩
    intro waiting
    rw [status] at waiting
    cases waiting
  · intro entry stored
    rw [claimed.undebited] at stored
    cases stored

/-- In every run of a claimed job beside any number of cancels, completions, acknowledgements
and sweeps, with any faults and crashes, in which no completion overwrites a cancelled row, a
completed and debited job has no refund in any state.
-/
theorem completed_work_stays_paid {db : Db} {config : Config bridge Db Kind Answer}
    (claimed : Claimed tenantId jobId db)
    (reached
      : service.Reaches
          (fun config label =>
            arrivesUnkeyed jobId label = true ∧ SparesCancelled jobId config label)
          (claimedBy db jobId tenantId world) config)
    : StaysPaid tenantId jobId config.store := by
  obtain ⟨initial, unpaid⟩ := @paidKept_of_claimed tenantId jobId world db claimed
  have executes : Triple service (paidContract tenantId jobId world) (Unpaid tenantId jobId)
      (bodyOf (.executeAndBill jobId tenantId world)) (fun _ _ => True) (fun _ _ => True) :=
    Triple.bind paidContract_composes (fun _ _ => True)
      (executeAndBill_triple paidContract_worker)
      (fun _ => Triple.done (fun _ _ _ _ _ => trivial) (fun _ _ _ => trivial))
  have kept : PaidKept tenantId jobId world config.store := by
    refine paidRun.inv_of_reaches reached initial unpaid executes ?_ ?_
    · intro _ kind allowed
      have joins : joinsUnkeyed jobId kind = true := allowed.1
      have run : joinsRun jobId kind = true := by
        simp only [joinsUnkeyed, Bool.and_eq_true] at joins
        exact joins.1
      exact ⟨run, passerContract_body joins⟩
    · intro config label kind call fault allowed executing
      split
      · trivial
      · exact allowed.2.executed executing
  exact kept.staysPaid

end Runs

/-- Witness: the run completes, a late cancel is refused, and a refund sweep finds nothing. -/
theorem completed_work_stays_paid_late
    : ∃ config row debit,
        service.Reaches
            (fun config label =>
              arrivesUnkeyed jobA label = true ∧ SparesCancelled jobA config label)
            (claimedBy claimedDb jobA "t" (quickRun 10 "completed")) config
        ∧ config.Quiescent
        ∧ config.store.job? jobA = some row
        ∧ row.status = .completed
        ∧ config.store.ledger.find? (ledgerIdFor "t" (jobKey jobA)) = some debit
        ∧ debit.entryType = .debit
        ∧ jobNet config.store "t" jobA = -debit.amount := by
  have ran
      : (service.run
          (fun config label =>
            arrivesUnkeyed jobA label && decide (SparesCancelled jobA config label))
          (claimedBy claimedDb jobA "t" (quickRun 10 "completed"))
          [.exec 0 .none, .exec 0 .none, .exec 0 .none, .exec 0 .none, .exec 0 .none,
            .arrive (.cancelJob { tenant := .ok "t" } jobA), .exec 1 .none, .exec 1 .none,
            .exec 1 .none, .arrive .sweepRefundPending, .exec 2 .none]).any
          (fun config =>
            decide config.Quiescent
            && (config.store.job? jobA).any (fun row => row.status == .completed)
            && (config.store.ledger.find? (ledgerIdFor "t" (jobKey jobA))).any
              (fun entry => entry.entryType == .debit))
        = true := by
    decide +kernel
  obtain ⟨config, reached, passed⟩ :=
    Machine.Reaches.of_check (fun _ _ both => by simpa using both) _ ran
  simp only [Bool.and_eq_true, decide_eq_true_eq] at passed
  obtain ⟨⟨quiescent, shown⟩, paid⟩ := passed
  obtain ⟨row, found, completed⟩ := (Option.any_eq_true _ _).mp shown
  obtain ⟨debit, stored, type⟩ := (Option.any_eq_true _ _).mp paid
  rw [beq_iff_eq] at completed type
  exact ⟨config, row, debit, reached, quiescent, found, completed, stored, type,
    (completed_work_stays_paid claimedDb_claimed reached row debit found completed stored type).2⟩

/-- A `/v1` complete that read the job before it was cancelled overwrites the cancelled row
after the worker paid the DEBIT back.
-/
theorem completed_work_refunded
    : ∃ config,
        service.Reaches (fun _ label => arrivesUnkeyed jobA label = true)
            (claimedBy claimedDb jobA "t" (quickRun 10 "completed")) config
        ∧ config.Quiescent
        ∧ ¬StaysPaid "t" jobA config.store := by
  have ran
      : (service.run (fun _ label => arrivesUnkeyed jobA label)
          (claimedBy claimedDb jobA "t" (quickRun 10 "completed"))
          [.exec 0 .none, .exec 0 .none, .exec 0 .none, .exec 0 .none,
            .arrive (.completeJobV1 { tenant := .ok "t", confirmed := some 10 } jobA),
            .exec 1 .none, .exec 1 .none, .exec 1 .none, .exec 1 .none, .exec 1 .none,
            .arrive (.cancelJob { tenant := .ok "t" } jobA), .exec 2 .none, .exec 2 .none,
            .exec 0 .none, .exec 0 .none, .exec 0 .none, .exec 1 .none]).any
          (fun config =>
            decide config.Quiescent
            && (config.store.job? jobA).any (fun row => row.status == .completed)
            && (config.store.ledger.find? (ledgerIdFor "t" (jobKey jobA))).any
              (fun entry => entry.entryType == .debit)
            && (config.store.ledger.find? (ledgerIdFor "t" (refundKey jobA))).isSome)
        = true := by
    decide +kernel
  obtain ⟨config, reached, passed⟩ :=
    Machine.Reaches.of_check (fun _ _ permitted => permitted) _ ran
  simp only [Bool.and_eq_true, decide_eq_true_eq] at passed
  obtain ⟨⟨⟨quiescent, shown⟩, paid⟩, refunded⟩ := passed
  obtain ⟨row, found, completed⟩ := (Option.any_eq_true _ _).mp shown
  obtain ⟨debit, stored, type⟩ := (Option.any_eq_true _ _).mp paid
  rw [beq_iff_eq] at completed type
  refine ⟨config, reached, quiescent, ?_⟩
  intro stays
  have unrefunded := (stays row debit found completed stored type).1
  rw [unrefunded] at refunded
  cases refunded

end RomaBridge.Properties
