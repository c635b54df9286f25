import RomaBridge.Behaviour.Sweeps

/-! The specification of `execute_and_bill` under interference.
The caller supplies one assertion for each phase of a run and shows what every call of the
worker does to it; the specification follows the phases through dispatch, poll, billing, the
final write and the refund, with all their exception branches.
-/

namespace RomaBridge.Model

open RomaBridge.Foundation Program

/-- What the billing step of a run leaves behind, its exceptions included. -/
def BilledPost (tenantId : String) (jobId : JobId) (world : WorkerWorld)
    (backend : Option String) (Open Skip Fails : Db → Prop) (billingStatus : BillingStatus)
    (db : Db)
    : Prop :=
  FinalizePost tenantId jobId world.billable backend Open Skip Fails billingStatus db
  ∨ ((billingStatus = .pgError ∨ billingStatus = .error) ∧ Fails db)

/-- What must be known about one run. `Idle` holds until the billing read, `Refused` once
dispatch may have failed, `Open`, `Skip` and `Fails` during billing, `Missed` once a billed job
missed its final write, `Refunding` once it was seen cancelled, and `Settled` wherever the run
may end.
-/
structure WorkerRules {τ ρ : Type} (M : Machine bridge Db τ ρ) (contract : Contract bridge Db τ)
    (jobId : JobId) (tenantId : String) (world : WorkerWorld)
    (Idle Refused Open Skip Fails Missed Refunding Settled : Db → Prop)
    : Prop where
  billing
    : ∀ backend,
        FinalizeRules M contract tenantId jobId world.billable world.plan backend Idle Open Skip
          Fails
  refund : RefundRules M contract tenantId jobId world.costUsd Refunding
  stableRefused : contract.Stable Refused
  stableMissed : contract.Stable Missed
  stableSettled : contract.Stable Settled
  refused : ∀ db, contract.inv db → Idle db → Refused db
  settled : ∀ db, contract.inv db → Refused db → Settled db
  running
    : ∀ update db fault,
        update.jobId = jobId
        → update.status = some .running
        → update.error = none
        → update.costUsd = none ∧ update.durationSeconds = none
        → contract.inv db
        → Idle db
        → contract.allowed db ⟨.workerRunning, .updateExecutionJob update⟩ fault
        → contract.Keeps M db ⟨.workerRunning, .updateExecutionJob update⟩ fault
          ∧ Idle (M.exec ⟨.workerRunning, .updateExecutionJob update⟩ fault db).2
  refuses
    : ∀ site update db fault,
        (site = .workerDispatchFailed ∨ site = .workerNotReady ∨ site = .workerDispatchError)
        → update.jobId = jobId
        → update.status = some .failed
        → update.error ≠ none
        → update.costUsd = none ∧ update.durationSeconds = none
        → contract.inv db
        → Refused db
        → contract.allowed db ⟨site, .updateExecutionJob update⟩ fault
        → contract.Keeps M db ⟨site, .updateExecutionJob update⟩ fault
          ∧ Refused (M.exec ⟨site, .updateExecutionJob update⟩ fault db).2
  finals
    : ∀ status billingStatus backend db fault,
        (∃ backendName, pollLoop world.poll (pollRounds backendName) 0 = .ok status)
        → contract.inv db
        → BilledPost tenantId jobId world backend Open Skip Fails billingStatus db
        → contract.allowed db
            ⟨.workerFinal,
              .updateExecutionJob (finalUpdate jobId tenantId world status billingStatus)⟩
            fault
        → contract.Keeps M db
            ⟨.workerFinal,
              .updateExecutionJob (finalUpdate jobId tenantId world status billingStatus)⟩
            fault
          ∧ (if fault = .none ∧ billingStatus = .ok
                ∧ (db.updateJob (finalUpdate jobId tenantId world status billingStatus)).1 = 0
              then Missed
              else Settled)
            (M.exec
              ⟨.workerFinal,
                .updateExecutionJob (finalUpdate jobId tenantId world status billingStatus)⟩
              fault db).2
  rereads
    : ∀ db fault,
        contract.inv db
        → Missed db
        → contract.allowed db ⟨.workerReread, .getExecutionJob jobId⟩ fault
        → contract.Keeps M db ⟨.workerReread, .getExecutionJob jobId⟩ fault
          ∧ (fault ≠ .none → Settled db)
  cancelled
    : ∀ db row,
        contract.inv db
        → Missed db
        → db.job? jobId = some row
        → row.tenantId = tenantId
        → row.status = .cancelled
        → Refunding db
  closed
    : ∀ db,
        contract.inv db
        → Missed db
        → (∀ row,
            db.job? jobId = some row → ¬(row.tenantId = tenantId ∧ row.status = .cancelled))
        → Settled db
  refunded : ∀ db, contract.inv db → Refunding db → Refunded tenantId jobId db → Settled db
  interrupted
    : ∀ attempt exn db,
        world.refundSleep attempt = .error exn
        → exn.isException = false
        → contract.inv db
        → Refunding db
        → Settled db
  marks
    : ∀ db fault,
        contract.inv db
        → Refunding db
        → contract.allowed db
            ⟨.workerRefundMarker, .updateExecutionJob (markerUpdate jobId tenantId world.costUsd)⟩
            fault
        → contract.Keeps M db
            ⟨.workerRefundMarker, .updateExecutionJob (markerUpdate jobId tenantId world.costUsd)⟩
            fault
          ∧ Settled
              (M.exec
                ⟨.workerRefundMarker,
                  .updateExecutionJob (markerUpdate jobId tenantId world.costUsd)⟩
                fault db).2
  drains
    : ∀ db fault,
        contract.inv db
        → Settled db
        → contract.allowed db
            ⟨.workerDrain, .updateExecutionJob (drainUpdate jobId tenantId world)⟩ fault
        → contract.Keeps M db
            ⟨.workerDrain, .updateExecutionJob (drainUpdate jobId tenantId world)⟩ fault
          ∧ Settled
              (M.exec ⟨.workerDrain, .updateExecutionJob (drainUpdate jobId tenantId world)⟩
                fault db).2

section Run

variable {τ ρ : Type} {body : τ → Action ρ} {starts : (query : Query) → query.Reply → List τ}
  {contract : Contract bridge Db τ} {jobId : JobId} {tenantId : String} {world : WorkerWorld}
  {Idle Refused Open Skip Fails Missed Refunding Settled : Db → Prop}

theorem Triple.suppress {M : Machine bridge Db τ ρ} {pre post : Db → Prop} {body : Action Unit}
    (composes : contract.Composes) (stable : contract.Stable post)
    (first : Triple M contract pre body (fun _ => post) (fun _ => post))
    : Triple M contract pre (suppress body) (fun _ => post)
        (fun exn db => post db ∧ exn.isException = false) := by
  refine Triple.handle composes (fun _ => post) first ?_
  intro exn
  split
  · exact Triple.done stable (fun _ _ holds => holds)
  · rename_i killed
    exact Triple.raised stable (fun _ _ holds => ⟨holds, by simpa using killed⟩)

theorem Triple.ask {M : Machine bridge Db τ ρ} {pre post : Db → Prop} {site : Site}
    {query : Query} (stable : contract.Stable pre) (stablePost : contract.Stable post)
    (calls
      : ∀ db fault,
          contract.inv db
          → pre db
          → contract.allowed db ⟨site, query⟩ fault
          → contract.Keeps M db ⟨site, query⟩ fault ∧ post (M.exec ⟨site, query⟩ fault db).2)
    : Triple M contract pre (ask site query) (fun _ => post) (fun _ => post) := by
  refine Triple.perform stable (fun _ => stablePost) (fun _ => stablePost) ?_ ?_ ?_
  · exact fun db fault inv holds allowed => (calls db fault inv holds allowed).1
  · exact fun db inv holds allowed => (calls db .none inv holds allowed).2
  · exact fun db fault _ inv holds allowed _ => (calls db fault inv holds allowed).2

private theorem billedPost_stable {backend : Option String}
    (bill
      : FinalizeRules (bridgeMachine body starts) contract tenantId jobId world.billable
          world.plan backend Idle Open Skip Fails)
    (billingStatus : BillingStatus)
    : contract.Stable
        (BilledPost tenantId jobId world backend Open Skip Fails billingStatus) := by
  rintro before after moved inv (post | ⟨raised, failed⟩)
  · have grows := bill.grows moved
    refine Or.inl ?_
    cases billingStatus with
    | ok => exact ⟨bill.stableOpen moved inv post.1, post.2.1.grows grows, post.2.2.grows grows⟩
    | noFunds => exact ⟨bill.stableOpen moved inv post.1, bill.stableFails moved inv post.2⟩
    | mismatch => exact ⟨bill.stableOpen moved inv post.1, post.2.grows grows⟩
    | skip => exact bill.stableSkip moved inv post
    | pgError => exact post
    | error => exact post
  · exact Or.inr ⟨raised, bill.stableFails moved inv failed⟩

variable
  (rules
    : WorkerRules (bridgeMachine body starts) contract jobId tenantId world Idle Refused Open
        Skip Fails Missed Refunding Settled)

include rules

private theorem refuse_triple {site : Site} {update : JobUpdate}
    (sited : site = .workerDispatchFailed ∨ site = .workerNotReady ∨ site = .workerDispatchError)
    (job : update.jobId = jobId) (status : update.status = some .failed)
    (error : update.error ≠ none)
    (columns : update.costUsd = none ∧ update.durationSeconds = none)
    : Triple (bridgeMachine body starts) contract Refused
        (ask site (.updateExecutionJob update)) (fun _ => Refused) (fun _ => Refused) :=
  Triple.ask rules.stableRefused rules.stableRefused (fun db fault inv holds allowed =>
    rules.refuses site update db fault sited job status error columns inv holds allowed)

private theorem dispatch_triple
    : Triple (bridgeMachine body starts) contract Idle (dispatchPhase jobId tenantId world)
        (fun outcome => match outcome with
          | .ok _ => Idle
          | .error _ => Refused)
        (fun _ => Refused) := by
  have composes := (rules.billing none).composes
  have stableIdle := (rules.billing none).stableBefore
  refine Triple.handle composes (fun _ => Refused)
    (Triple.bind composes (fun _ => Idle) (Triple.ofExcept stableIdle
      (fun _ _ _ _ idle => idle) (fun _ db _ inv idle => rules.refused db inv idle)) ?_) ?_
  · intro result
    dsimp only
    split
    · exact Triple.bind composes (fun _ => Refused)
        ((refuse_triple rules (Or.inl rfl) rfl rfl (by simp) ⟨rfl, rfl⟩).strengthen rules.refused)
        (fun _ => Triple.done rules.stableRefused (fun _ _ holds => holds))
    · split
      · exact Triple.bind composes (fun _ => Refused)
          ((refuse_triple rules (Or.inr (Or.inl rfl)) rfl rfl (by simp) ⟨rfl, rfl⟩).strengthen rules.refused)
          (fun _ => Triple.done rules.stableRefused (fun _ _ holds => holds))
      · refine Triple.bind composes (fun _ => Idle)
          ((Triple.ask stableIdle stableIdle ?_).weaken (fun _ _ _ idle => idle)
            (fun _ db inv idle => rules.refused db inv idle))
          (fun _ => Triple.done stableIdle (fun _ _ holds => holds))
        exact fun db fault inv idle allowed =>
          rules.running _ db fault rfl rfl rfl ⟨rfl, rfl⟩ inv idle allowed
  · intro exn
    split
    · exact Triple.bind composes (fun _ => Refused)
        (refuse_triple rules (Or.inr (Or.inr rfl)) rfl rfl (by simp) ⟨rfl, rfl⟩)
        (fun _ => Triple.done rules.stableRefused (fun _ _ holds => holds))
    · exact Triple.raised rules.stableRefused (fun _ _ holds => holds)

private theorem marker_triple
    : Triple (bridgeMachine body starts) contract Refunding
        (markRefundPending jobId tenantId world.costUsd) (fun _ => Settled)
        (fun exn db => Settled db ∧ exn.isException = false) :=
  Triple.suppress rules.refund.composes rules.stableSettled
    (Triple.bind rules.refund.composes (fun _ => Settled)
      (Triple.ask rules.refund.stable rules.stableSettled rules.marks)
      (fun _ => Triple.done rules.stableSettled (fun _ _ holds => holds)))

/-- Refund attempts end with the refund, with none, or with an interrupted sleep, by induction
on the attempts left.
-/
private theorem attempts_triple {left attempt : ℕ}
    : Triple (bridgeMachine body starts) contract Refunding
        (refundAttempts jobId tenantId world.costUsd world.refundSleep left attempt)
        (fun paid => if paid then Settled else Refunding)
        (fun exn => if exn.isException then Refunding else Settled) := by
  have composes := rules.refund.composes
  have stablePaid : contract.Stable (fun db => Refunding db ∧ Refunded tenantId jobId db) :=
    fun _ _ moved inv holds =>
      ⟨rules.refund.stable moved inv holds.1, holds.2.grows (rules.refund.grows moved)⟩
  induction left generalizing attempt with
  | zero => exact Triple.done rules.refund.stable (fun _ _ holds => holds)
  | succ left ih =>
      let Tried : Except Exn LedgerId → Db → Prop := fun outcome db =>
        match outcome with
        | .ok _ => Refunding db ∧ Refunded tenantId jobId db
        | .error exn => Refunding db ∧ exn.isException = true
      have stableTried : ∀ outcome, contract.Stable (Tried outcome) := by
        rintro (exn | ledgerId)
        · exact fun _ _ moved inv holds => ⟨rules.refund.stable moved inv holds.1, holds.2⟩
        · exact stablePaid
      refine Triple.bind composes Tried
        (Triple.attempt composes stableTried (refundJob_triple rules.refund)) ?_
      rintro (exn | ledgerId)
      · dsimp only
        split
        · refine Triple.bind composes (fun _ => Refunding)
            ((Triple.ofExcept rules.refund.stable (fun _ _ _ _ holds => holds) ?_).strengthen
              (fun _ _ holds => holds.1)) (fun _ => ih)
          intro raised db slept inv holds
          cases ordinary : raised.isException with
          | true => simpa [ordinary] using holds
          | false => simpa [ordinary] using rules.interrupted attempt raised db slept ordinary inv holds
        · rename_i killed
          exact Triple.raised (stableTried (.error exn)) (fun _ _ holds => absurd holds.2 killed)
      · exact Triple.done stablePaid (fun db inv holds => rules.refunded db inv holds.1 holds.2)

private theorem refundCancelled_triple
    : Triple (bridgeMachine body starts) contract Refunding
        (refundCancelled jobId tenantId world) (fun _ => Settled) (fun _ => Settled) := by
  have composes := rules.refund.composes
  refine Triple.handle composes (fun exn => if exn.isException then Refunding else Settled)
    (Triple.bind composes (fun paid => if paid then Settled else Refunding)
      (attempts_triple rules) ?_) ?_
  · intro paid
    cases paid with
    | true => exact Triple.done rules.stableSettled (fun _ _ holds => holds)
    | false =>
        exact (marker_triple rules).weaken (fun _ _ _ holds => holds)
          (fun _ _ _ holds => by simpa [holds.2] using holds.1)
  · intro exn
    split
    · exact (marker_triple rules).weaken (fun _ _ _ holds => holds) (fun _ _ _ holds => holds.1)
    · exact Triple.raised rules.stableSettled (fun _ _ holds => holds)

def RereadPost (tenantId : String) (Refunding Settled : Db → Prop) : Option JobRow → Db → Prop
  | some row => if row.tenantId = tenantId ∧ row.status = .cancelled then Refunding else Settled
  | none => Settled

private theorem finalWrite_triple {status : String} {billingStatus : BillingStatus}
    {backend : Option String}
    (polled : ∃ backendName, pollLoop world.poll (pollRounds backendName) 0 = .ok status)
    (stable
      : contract.Stable
          (BilledPost tenantId jobId world backend Open Skip Fails billingStatus))
    : Triple (bridgeMachine body starts) contract
        (BilledPost tenantId jobId world backend Open Skip Fails billingStatus)
        (finalWrite jobId tenantId world status billingStatus) (fun _ => Settled)
        (fun _ => Settled) := by
  have composes := rules.refund.composes
  let Wrote : ℕ → Db → Prop := fun n => if n = 0 ∧ billingStatus = .ok then Missed else Settled
  have stableWrote : ∀ n, contract.Stable (Wrote n) := by
    intro n
    by_cases missed : n = 0 ∧ billingStatus = .ok
    · simpa only [Wrote, missed, and_self, if_true] using rules.stableMissed
    · simpa only [Wrote, missed, if_false] using rules.stableSettled
  refine Triple.bind composes Wrote
    (Triple.perform stable stableWrote (fun _ => rules.stableSettled) ?_ ?_ ?_) ?_
  · exact fun db fault inv holds allowed =>
      (rules.finals status billingStatus backend db fault polled inv holds allowed).1
  · intro db inv holds allowed
    have wrote := (rules.finals status billingStatus backend db .none polled inv holds allowed).2
    simpa [Wrote, and_comm, Machine.exec, Db.apply] using wrote
  · intro db fault reason inv holds allowed faulty
    have wrote := (rules.finals status billingStatus backend db fault polled inv holds allowed).2
    have failed : fault ≠ .none := by rcases faulty with rfl | rfl <;> simp
    simpa [failed] using wrote
  · intro n
    by_cases missed : n = 0 ∧ billingStatus = .ok
    · obtain ⟨rfl, rfl⟩ := missed
      refine Triple.bind composes (RereadPost tenantId Refunding Settled)
        (Triple.perform (stableWrote 0) ?_ (fun _ => rules.stableSettled) ?_ ?_ ?_) ?_
      · rintro (_ | row)
        · exact rules.stableSettled
        · dsimp only [RereadPost]
          split
          · exact rules.refund.stable
          · exact rules.stableSettled
      · exact fun db fault inv holds allowed => (rules.rereads db fault inv holds allowed).1
      · intro db inv holds allowed
        change RereadPost tenantId Refunding Settled (db.job? jobId) db
        cases found : db.job? jobId with
        | none => exact rules.closed db inv holds (by simp [found])
        | some row =>
            dsimp only [RereadPost]
            split
            · rename_i hit
              exact rules.cancelled db row inv holds found hit.1 hit.2
            · rename_i miss
              refine rules.closed db inv holds ?_
              intro other same
              cases found.symm.trans same
              exact miss
      · intro db fault reason inv holds allowed faulty
        have settled := (rules.rereads db fault inv holds allowed).2
        rcases faulty with rfl | rfl <;> exact settled (by simp)
      · rintro (_ | row)
        · exact Triple.done rules.stableSettled (fun _ _ holds => holds)
        · dsimp only [RereadPost]
          by_cases hit : row.tenantId = tenantId ∧ row.status = .cancelled
          · simpa [hit] using refundCancelled_triple rules
          · simp only [hit, if_false]
            rw [if_neg (by simpa using hit)]
            exact Triple.done rules.stableSettled (fun _ _ holds => holds)
    · have settled : Wrote n = Settled := by simp only [Wrote, missed, if_false]
      have skips : ¬((decide (n = 0) && decide (billingStatus = .ok)) = true) := by
        simpa using missed
      rw [settled, if_neg skips]
      exact Triple.done rules.stableSettled (fun _ _ holds => holds)

/-- The specification of `execute_and_bill`: a run that starts idle ends settled, whatever it
returns or raises.
-/
theorem executeAndBill_triple
    : Triple (bridgeMachine body starts) contract Idle (executeAndBill jobId tenantId world)
        (fun _ => Settled) (fun _ => Settled) := by
  have composes := rules.refund.composes
  have stableIdle := (rules.billing none).stableBefore
  have ended : ∀ db, contract.inv db → Idle db → Settled db :=
    fun db inv idle => rules.settled db inv (rules.refused db inv idle)
  refine Triple.handle composes (fun _ => Settled)
    (Triple.bind composes _ ((dispatch_triple rules).weaken (fun _ _ _ holds => holds)
      (fun _ db inv holds => rules.settled db inv holds)) ?_) ?_
  · rintro (result | dispatched)
    · exact Triple.done rules.stableRefused (fun db inv holds => rules.settled db inv holds)
    · let Polled : String → Db → Prop := fun status db =>
        (∃ backendName, pollLoop world.poll (pollRounds backendName) 0 = .ok status) ∧ Idle db
      refine Triple.bind composes Polled (Triple.ofExcept stableIdle
        (fun status db polled _ idle => ⟨⟨_, polled⟩, idle⟩)
        (fun _ db _ inv idle => ended db inv idle)) ?_
      intro status db inv polled
      have bill := rules.billing (some dispatched.backendName)
      refine Triple.bind composes _ ((tryFinalize_triple bill).weaken (fun _ _ _ holds => holds)
        (fun _ _ _ impossible => impossible.elim)) ?_ db inv polled.2
      intro billingStatus
      refine Triple.bind composes (fun _ => Settled)
        (finalWrite_triple rules polled.1 (billedPost_stable bill billingStatus)) ?_
      intro _
      refine Triple.bind composes (fun _ => Settled) ?_
        (fun _ => Triple.done rules.stableSettled (fun _ _ holds => holds))
      unfold cleanup
      split
      · refine (Triple.suppress composes rules.stableSettled
          (Triple.ofExcept rules.stableSettled (fun _ _ _ _ holds => holds)
            (fun _ _ _ _ holds => holds))).weaken (fun _ _ _ holds => holds)
            (fun _ _ _ holds => holds.1)
      · exact Triple.done rules.stableSettled (fun _ _ holds => holds)
  · intro exn
    dsimp only
    split
    · refine Triple.bind composes (fun _ => Settled)
        ((Triple.suppress composes rules.stableSettled (Triple.bind composes (fun _ => Settled)
          (Triple.ask rules.stableSettled rules.stableSettled rules.drains)
          (fun _ => Triple.done rules.stableSettled (fun _ _ holds => holds)))).weaken
            (fun _ _ _ holds => holds) (fun _ _ _ holds => holds.1)) ?_
      exact fun _ => Triple.raised rules.stableSettled (fun _ _ holds => holds)
    · exact Triple.raised rules.stableSettled (fun _ _ holds => holds)

end Run
end RomaBridge.Model
