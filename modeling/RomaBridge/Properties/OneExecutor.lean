import RomaBridge.Behaviour.Sweeps

/-! When a job has one executor at a time.
A claim hands every row it moves to exactly one caller, so a second executor needs a second
claim of the same job. Only the unconditional write of a retry can queue a job that is still
being executed: every other writer of `queued` inserts a new row.
-/

namespace RomaBridge.Properties

open RomaBridge.Foundation RomaBridge.Model Program

variable {kind : Kind} {site : Site} {update : JobUpdate} {jobId : JobId} {fault : Fault}
  {config next : Config bridge Db Kind Answer} {threads : List (Thread bridge Kind Answer)}

-- Writers of the queue

/-- Every parked row remembers an execution status that a sweep may restore. -/
def ParkedTexts (db : Db) : Prop :=
  ∀ jobId row,
    db.job? jobId = some row → row.status = .billingPending → ParkedText row.error

/-- The job that a call puts back into the queue. -/
def retried? (call : Call) : Option JobId :=
  match call.query with
  | .updateExecutionJob update =>
      if call.site = .retryWrite then some update.jobId else none
  | _ => none

/-- What the billing sweeper writes about rows whose text it may trust. -/
structure Mild (site : Site) (update : JobUpdate) : Prop where
  closes
    : site ∈ [Site.sweepBilled, .sweepMismatch, .sweepSkip]
      → ∃ status ∈ [JobStatus.completed, .error, .timeout, .failed], update.status = some status
  parked : site = .sweepNoFunds → ParkedText update.error

theorem jobWrite_mild (written : JobWrite kind site update)
    (other : ∀ input, kind ≠ .sweepBillingPending input)
    : Mild site update := by
  cases written with
  | dispatchEnd sited => rcases sited with rfl | rfl | rfl <;> exact ⟨by simp, by simp⟩
  | cancel _ sited => rcases sited with rfl | rfl <;> exact ⟨by simp, by simp⟩
  | sweepClose => exact absurd rfl (other _)
  | sweepNoFunds => exact absurd rfl (other _)
  | _ => exact ⟨by simp, by simp⟩

theorem sweepRowCall_mild {job : JobRow}
    (issued : SweepRowCall job ⟨site, .updateExecutionJob update⟩) (parked : ParkedText job.error)
    : Mild site update := by
  cases issued with
  | close sited ended =>
      refine ⟨fun _ => ⟨_, parked.closes ended, rfl⟩, ?_⟩
      rintro rfl
      simp at sited
  | noFunds => exact ⟨by simp, fun _ => parked.noFunds⟩

theorem writeStatus_ne_queued {status : String} {billingStatus : BillingStatus}
    (ended : status = "timeout" ∨ status ∈ pollEnds)
    : JobStatus.ofText (writeStatus status billingStatus) ≠ .queued := by
  have known : status ∈ "timeout" :: pollEnds := by simpa using ended
  have all : ∀ status ∈ "timeout" :: pollEnds,
      JobStatus.ofText (writeStatus status billingStatus) ≠ .queued := by
    cases billingStatus <;> decide
  exact all status known

theorem jobWrite_queued (written : JobWrite kind site update) (mild : Mild site update)
    (queues : update.status = some .queued)
    : site = .retryWrite := by
  cases written with
  | retry => rfl
  | dispatchEnd _ _ _ status => simp [status] at queues
  | running _ _ status => simp [status] at queues
  | final ended => exact absurd (Option.some.inj queues) (writeStatus_ne_queued ended)
  | sweepClose sited =>
      obtain ⟨status, member, set⟩ := mild.closes (by simpa using sited)
      rw [queues] at set
      cases set
      exact absurd member (by decide)
  | @ack _ _ action _ _ _ _ _ known => cases action <;> simp [ackUpdate, AckAction.status] at queues
  | marker => cases queues
  | drain => cases queues
  | sweepNoFunds => cases queues
  | refundClear => cases queues
  | cancel => cases queues
  | complete => cases queues
  | completeV1 => cases queues
  | submitBackend => cases queues

theorem jobWrite_parked {row : JobRow} {now : ℚ} (written : JobWrite kind site update)
    (mild : Mild site update) (before : row.status = .billingPending → ParkedText row.error)
    (parks : (update.write now row).status = .billingPending)
    : ParkedText (update.write now row).error := by
  simp only [JobUpdate.write] at parks ⊢
  cases written with
  | dispatchEnd _ _ _ status => simp [status] at parks
  | running _ _ status => simp [status] at parks
  | final ended => exact parkedText_final ended parks
  | marker => exact parkedText_marker _
  | sweepClose sited =>
      obtain ⟨status, member, set⟩ := mild.closes (by simpa using sited)
      rw [set, Option.getD_some] at parks
      subst parks
      exact absurd member (by decide)
  | sweepNoFunds => exact mild.parked rfl
  | refundClear =>
      change ParkedText (some "")
      decide
  | submitBackend => exact before parks
  | @ack _ _ action _ _ _ _ _ known =>
      cases action <;> simp [ackUpdate, AckAction.status] at parks
  | drain => cases parks
  | cancel => cases parks
  | complete => cases parks
  | retry => cases parks
  | completeV1 => cases parks

theorem kindCall_insert_queued {tenantId : String} {status : JobStatus} {gpuRequired : Bool}
    (issued : KindCall kind ⟨site, .insertExecutionJob jobId tenantId status gpuRequired⟩)
    : status = .queued := by
  cases kindCall_issuedBy issued with
  | submit => rfl
  | decision => rfl

-- The discipline of the queue

/-- No knowledge about other threads is needed: a call leaves parked texts behind, and what it
queues was queued, is new or was retried.
-/
def queueContract : Contract bridge Db Kind where
  inv := ParkedTexts
  rely _ _ := True
  guarantee before call _ after :=
    ∀ jobId,
      after.status? jobId = some .queued
      → before.status? jobId = some .queued
        ∨ before.job? jobId = none
        ∨ retried? call = some jobId
  allowed _ _ _ := True
  admits _ := True

theorem queueContract_composes : queueContract.Composes where
  refl _ := trivial
  trans _ _ := trivial

/-- What one call does to the queue, by cases of the change it makes to the job's row. -/
theorem queue_apply {db : Db} {call : Call} (texts : ParkedTexts db) (issued : KindCall kind call)
    (mild : ∀ update, call.query = .updateExecutionJob update → Mild call.site update)
    : queueContract.inv (db.apply call.query).2
      ∧ queueContract.guarantee db call .none (db.apply call.query).2 := by
  obtain ⟨site, query⟩ := call
  have change : ∀ jobId after,
      (db.apply query).2.job? jobId = after
      → (∀ row, after = some row → row.status = .billingPending → ParkedText row.error)
        ∧ (∀ row,
            after = some row
            → row.status = .queued
            → db.status? jobId = some .queued
              ∨ db.job? jobId = none
              ∨ retried? ⟨site, query⟩ = some jobId) := by
    rintro jobId after rfl
    have change := db.apply_job? query jobId
    revert change
    generalize (db.apply query).2.job? jobId = after
    intro change
    cases change with
    | same =>
        refine ⟨fun row found => texts jobId row found, ?_⟩
        intro row found queued
        exact Or.inl (by simp [Db.status?, found, queued])
    | @update update stored found selected =>
        have written := kindCall_update issued
        have mildly := mild update rfl
        refine ⟨?_, ?_⟩
        · rintro row same parks
          cases same
          exact jobWrite_parked written mildly (texts jobId stored found) parks
        · rintro row same queued
          cases same
          cases set : update.status with
          | none =>
              simp only [JobUpdate.write, set, Option.getD_none] at queued
              exact Or.inl (by simp [Db.status?, found, queued])
          | some status =>
              simp only [JobUpdate.write, set, Option.getD_some] at queued
              subst queued
              have retries := jobWrite_queued written mildly set
              have own : update.jobId = jobId :=
                (Db.selects_jobId selected).symm.trans (Db.job?_id found)
              exact Or.inr (Or.inr (by simp [retried?, retries, own]))
    | insert absent =>
        refine ⟨?_, fun _ _ _ => Or.inr (Or.inl absent)⟩
        rintro row same parks
        cases same
        have queued := kindCall_insert_queued issued
        simp [Db.newJob, queued] at parks
    | claim found picked =>
        refine ⟨?_, ?_⟩ <;>
        · rintro row same status
          cases same
          cases status
    | orphan found orphan =>
        refine ⟨?_, ?_⟩ <;>
        · rintro row same status
          cases same
          cases status
  refine ⟨fun jobId row found => (change jobId _ rfl).1 row found, ?_⟩
  intro jobId queued
  obtain ⟨row, found, status⟩ := Option.map_eq_some_iff.mp queued
  exact (change jobId _ rfl).2 row found status

theorem queueContract_keeps {db : Db} {call : Call} (texts : ParkedTexts db)
    (issued : KindCall kind call)
    (mild : ∀ update, call.query = .updateExecutionJob update → Mild call.site update)
    : queueContract.Keeps service db call fault :=
  .of_apply ⟨texts, fun _ queued => Or.inl queued⟩ (queue_apply texts issued mild)
    (fun _ _ => trivial)

/-- The sweeper learns its rows from one list, in which every row is parked. -/
theorem queueContract_sweep (input : SweepInput)
    : Triple service queueContract (fun _ => True) (sweepBillingPendingOnce input)
        (fun _ _ => True) (fun _ _ => True) := by
  have free : queueContract.Stable (fun _ => True) := fun _ _ _ _ _ => trivial
  let Known : List JobRow → Db → Prop := fun rows _ => ∀ row ∈ rows, ParkedText row.error
  have stable : ∀ rows, queueContract.Stable (Known rows) := fun _ _ _ _ _ known => known
  rw [sweepBillingPendingOnce_eq]
  refine Triple.bind queueContract_composes Known
    (Triple.perform free stable (fun _ => free) ?_ ?_ (fun _ _ _ _ _ _ _ => trivial)) ?_
  · intro db fault texts _ _
    refine queueContract_keeps texts (?_ : KindCall (.sweepBillingPending input) _) (by simp)
    exact Or.inl .list
  · intro db texts _ _ row listed
    obtain ⟨stored, parked⟩ := mem_billingPendingRows listed
    exact texts row.id row stored parked
  · rintro rows db texts known
    have batch : Triple service queueContract (fun _ => True) (sweepRows input rows input.memory)
        (fun _ _ => True) (fun _ _ => True) := by
      refine Triple.of_issues sweepRows_issues free ?_
      rintro ⟨site, query⟩ db fault ⟨job, member, swept⟩ texts _ _
      refine ⟨queueContract_keeps texts swept.kindCall ?_, trivial⟩
      rintro update rfl
      rcases swept with own | billing
      · exact sweepRowCall_mild own (known job member)
      · cases billing
    refine Triple.bind queueContract_composes (fun _ _ => True) batch ?_ db texts trivial
    exact fun _ => Triple.done free (fun _ _ _ => trivial)

theorem queueContract_body (kind : Kind)
    : Triple service queueContract (fun _ => True) (bodyOf kind) (fun _ _ => True)
        (fun _ _ => True) := by
  have free : queueContract.Stable (fun _ => True) := fun _ _ _ _ _ => trivial
  by_cases sweeper : ∃ input, kind = .sweepBillingPending input
  · obtain ⟨input, rfl⟩ := sweeper
    exact Triple.bind queueContract_composes _ (queueContract_sweep input)
      (fun _ => Triple.done free (fun _ _ _ => trivial))
  · refine Triple.of_issues (bodyOf_issues kind) free ?_
    rintro ⟨site, query⟩ db fault issued texts _ _
    refine ⟨queueContract_keeps texts issued ?_, trivial⟩
    rintro update rfl
    exact jobWrite_mild (kindCall_update issued) (fun input same => sweeper ⟨input, same⟩)

/-- One contract for all kinds of threads, with no condition on their outcomes. -/
def queueDiscipline : Machine.Discipline bridge Db Kind Answer where
  contract _ := queueContract
  returns _ _ _ := True
  raises _ _ _ := True

theorem queueDiscipline_sound : queueDiscipline.Sound ParkedTexts (fun _ _ => True) where
  composes _ := queueContract_composes
  shared _ := rfl
  tolerates _ _ _ _ := trivial
  joins _ _ := ⟨trivial, trivial⟩

theorem queueDiscipline_holds {ok : Config bridge Db Kind Answer → Label Kind → Prop}
    (reached : service.Reaches ok (idle Db.empty) config)
    : queueDiscipline.Holds service ParkedTexts (fun _ _ => True) config := by
  have obeys : ∀ kind db, ParkedTexts db → queueDiscipline.Obeys service (service.start kind) db :=
    fun kind db texts => queueContract_body kind db texts trivial
  refine reached.obeys queueDiscipline_sound ?_ ?_ ?_ ?_ ?_
  · exact fun _ kind _ => ⟨fun _ _ => ⟨trivial, trivial⟩, obeys kind⟩
  · exact fun _ kind _ => obeys kind
  · exact fun _ _ _ _ _ _ _ _ _ => trivial
  · exact fun _ _ _ _ _ _ _ _ _ => trivial
  · refine ⟨?_, by simp [idle], by simp [idle]⟩
    intro jobId row found
    simp [idle, Db.empty, Db.job?, Table.find?_empty] at found

-- Executors

def executes (jobId : JobId) : Kind → Bool
  | .executeAndBill id _ _ => id = jobId
  | _ => false

/-- An `execute_and_bill` of the job that has neither ended nor made its final write. -/
def active (jobId : JobId) (thread : Thread bridge Kind Answer) : Bool :=
  executes jobId thread.kind
  && !decide thread.program.Finished
  && thread.log.all (fun entry => entry.1.site ≠ .workerFinal || !entry.2.takesEffect)

/-- Only a claim starts `execute_and_bill`; nothing else in the source calls it. -/
def claimsStart : Label Kind → Bool
  | .arrive (.executeAndBill _ _ _) => false
  | _ => true

/-- Executors come from claims, no claim loses its reply after its commit, and a retry queues
no job that is being executed.
-/
def orderly (config : Config bridge Db Kind Answer) (label : Label Kind) : Bool :=
  claimsStart label
  && match config.executing label with
    | some (_, issued, fault) =>
        (!fault.takesEffect
          || (retried? issued).all (fun jobId => config.threads.countP (active jobId) = 0))
        && match issued.query, fault with
          | .claimQueuedExecutionJobs _ _ _, .after _ => false
          | _, _ => true
    | none => true

def startedKinds (config next : Config bridge Db Kind Answer) : List Kind :=
  (next.threads.drop config.threads.length).map Thread.kind

def Lone (config : Config bridge Db Kind Answer) : Prop :=
  ∀ jobId,
    config.threads.countP (active jobId) ≤ 1
    ∧ (0 < config.threads.countP (active jobId)
      → ∃ row, config.store.job? jobId = some row ∧ row.status ≠ .queued)

theorem active_of_finished {thread : Thread bridge Kind Answer} (finished : thread.program.Finished)
    : active jobId thread = false := by
  simp [active, finished]

theorem active_of_exec {call : Call} {rest : Except Exn call.query.Reply → Action Answer}
    {outcome : Except Exn call.query.Reply} {log : List (Call × Fault)}
    (later
      : active jobId { kind, program := rest outcome, log := log ++ [(call, fault)] } = true)
    : active jobId { kind, program := .call (S := bridge) call rest, log } = true := by
  have waiting : ¬(Program.call (S := bridge) call rest).Finished := fun finished => finished
  simp only [active, Bool.and_eq_true, List.all_append] at later ⊢
  exact ⟨⟨later.1.1, by simp [waiting]⟩, later.2.1⟩

theorem countP_set_active {index : ℕ} {old new : Thread bridge Kind Answer}
    (found : threads[index]? = some old) (fades : active jobId new = true → active jobId old = true)
    : (threads.set index new).countP (active jobId) ≤ threads.countP (active jobId) := by
  obtain ⟨bound, same⟩ := List.getElem?_eq_some_iff.mp found
  rw [List.countP_set bound, same]
  by_cases isActive : active jobId new = true
  · have was := fades isActive
    have counted : 0 < threads.countP (active jobId) :=
      List.countP_pos_iff.mpr ⟨old, List.mem_of_getElem? found, was⟩
    simp only [isActive, was, if_true]
    omega
  · simp only [isActive, Bool.false_eq_true, if_false]
    omega

theorem nodup_queuedRows (db : Db) (limit : ℕ) (locked : List JobId)
    : ((queuedRows db limit locked).map JobRow.id).Nodup := by
  have stored : ((db.jobs.rows.filter
      (fun row => row.status = .queued && !locked.contains row.id)).map JobRow.id).Nodup :=
    db.jobs.unique.sublist (List.filter_sublist.map _)
  refine List.Nodup.sublist ((List.take_sublist _ _).map _) ?_
  exact ((List.perm_insertionSort _ _).map _).nodup_iff.mpr stored

theorem claim_moves (db : Db) (limit : ℕ) (locked : List JobId) (jobId : JobId)
    : jobId ∈ (queuedRows db limit locked).map JobRow.id
      ↔ db.status? jobId = some .queued
        ∧ (db.claim limit locked).2.status? jobId = some .running := by
  rw [List.mem_map]
  constructor
  · rintro ⟨row, picked, rfl⟩
    obtain ⟨stored, queued⟩ := Db.mem_queuedRows picked
    have found : db.job? row.id = some row := Table.find?_of_mem stored
    simp [Db.status?, Db.job?_claim, found, picked, queued, claimRow]
  · rintro ⟨before, after⟩
    obtain ⟨row, found, queued⟩ := Option.map_eq_some_iff.mp before
    by_cases picked : row ∈ queuedRows db limit locked
    · exact ⟨row, picked, Db.job?_id found⟩
    · simp [Db.status?, Db.job?_claim, found, picked, queued] at after

theorem claim_starts (db : Db) (limit : ℕ) (locked : List JobId) (world : JobId → WorkerWorld)
    (jobId : JobId)
    : (executorsOf (.claimQueuedExecutionJobs limit locked world)
          (db.claim limit locked).1).countP (executes jobId)
      = if db.status? jobId = some .queued
            ∧ (db.claim limit locked).2.status? jobId = some .running then
          1
        else
          0 := by
  have counted : (executorsOf (.claimQueuedExecutionJobs limit locked world)
      (db.claim limit locked).1).countP (executes jobId)
      = ((queuedRows db limit locked).map JobRow.id).count jobId := by
    simp only [executorsOf, Db.claim, List.map_map, List.countP_map, List.count]
    congr 1
  rw [counted, List.Nodup.count (nodup_queuedRows db limit locked)]
  simp only [claim_moves]

-- One executor at a time

/-- One step treats executors as exclusive: it starts none for a job with an active one, a
claim starts exactly one for each job it moves to `running`, and a call that raises before its
commit changes nothing.
-/
structure Exclusive (config : Config bridge Db Kind Answer) (label : Label Kind)
    (next : Config bridge Db Kind Answer)
    : Prop where
  starts
    : ∀ jobId,
        0 < (startedKinds config next).countP (executes jobId)
        → config.threads.countP (active jobId) = 0
  claims
    : ∀ kind issued fault limit locked world,
        config.executing label = some (kind, issued, fault)
        → issued.query = .claimQueuedExecutionJobs limit locked world
        → ∀ jobId,
            (startedKinds config next).countP (executes jobId)
            = if config.store.status? jobId = some .queued
                  ∧ next.store.status? jobId = some .running then
                1
              else
                0
  raises
    : ∀ kind issued reason,
        config.executing label = some (kind, issued, .before reason)
        → next.store = config.store

theorem started_cases (db : Db) {issued : Call}
    (replied
      : ∀ limit locked world reason,
          issued.query = .claimQueuedExecutionJobs limit locked world → fault ≠ .after reason)
    : (service.started issued (service.exec issued fault db).1 = []
        ∧ ∀ limit locked world,
            issued.query = .claimQueuedExecutionJobs limit locked world
            → ∃ reason, fault = .before reason)
      ∨ ∃ limit locked world,
          issued.query = .claimQueuedExecutionJobs limit locked world
          ∧ fault = .none
          ∧ (service.exec issued fault db).2 = (db.claim limit locked).2
          ∧ service.started issued (service.exec issued fault db).1
            = executorsOf (.claimQueuedExecutionJobs limit locked world)
                (db.claim limit locked).1 := by
  obtain ⟨site, query⟩ := issued
  cases fault with
  | before reason => exact Or.inl ⟨rfl, fun _ _ _ _ => ⟨reason, rfl⟩⟩
  | after reason =>
      refine Or.inl ⟨rfl, ?_⟩
      intro limit locked world same
      exact absurd rfl (replied limit locked world reason same)
  | none =>
      cases query with
      | claimQueuedExecutionJobs limit locked world =>
          exact Or.inr ⟨limit, locked, world, rfl, rfl, rfl, rfl⟩
      | _ => exact Or.inl ⟨rfl, by simp⟩

theorem startedKinds_eq {started : List Kind}
    (same : next.threads = threads ++ started.map service.start)
    (length : threads.length = config.threads.length)
    : startedKinds config next = started := by
  rw [startedKinds, same, ← length, List.drop_left, List.map_map]
  exact List.map_id _

theorem countP_start_le (jobId : JobId) (started : List Kind)
    : (started.map service.start).countP (active jobId) ≤ started.countP (executes jobId) := by
  rw [List.countP_map]
  refine List.countP_mono_left ?_
  intro kind _ isActive
  simp only [Function.comp, active, Bool.and_eq_true] at isActive
  exact isActive.1.1

theorem lone_of_fades (lone : Lone config)
    (fades
      : ∀ jobId, next.threads.countP (active jobId) ≤ config.threads.countP (active jobId))
    (unqueued
      : ∀ jobId,
          0 < config.threads.countP (active jobId)
          → ∃ row, next.store.job? jobId = some row ∧ row.status ≠ .queued)
    : Lone next :=
  fun jobId =>
    ⟨(fades jobId).trans (lone jobId).1,
      fun isActive => unqueued jobId (lt_of_lt_of_le isActive (fades jobId))⟩

/-- An orderly call keeps the jobs of active executors out of the queue: what it queues was
queued before, is new or was retried, and an orderly retry finds no active executor.
-/
theorem unqueued_of_exec {issued : Call} (lone : Lone config)
    (guarantee
      : queueContract.guarantee config.store issued fault
          (service.exec issued fault config.store).2)
    (retries
      : fault.takesEffect = false
        ∨ (retried? issued).all (fun jobId => config.threads.countP (active jobId) = 0) = true)
    (isActive : 0 < config.threads.countP (active jobId))
    : ∃ row,
        (service.exec issued fault config.store).2.job? jobId = some row
        ∧ row.status ≠ .queued := by
  obtain ⟨row, found, unqueued⟩ := (lone jobId).2 isActive
  have known : config.store.status? jobId = some row.status := by simp [Db.status?, found]
  rcases service.exec_store issued fault config.store with same | effect
  · exact ⟨row, by rw [same, found], unqueued⟩
  · obtain ⟨after, stored, _⟩ := Db.apply_job?_some found issued.query
    rw [← effect] at stored
    refine ⟨after, stored, ?_⟩
    intro queued
    rcases guarantee jobId (by simp [Db.status?, stored, queued]) with was | absent | retried
    · rw [known, Option.some.injEq] at was
      exact unqueued was
    · rw [found] at absent
      cases absent
    · rcases retries with lost | vacant
      · -- a lost retry changes nothing
        cases fault with
        | before reason =>
            cases found.symm.trans stored
            exact unqueued queued
        | none => cases lost
        | after reason => cases lost
      · rw [retried, Option.all_some, decide_eq_true_eq] at vacant
        omega

theorem lone_arrive (lone : Lone config) (permitted : orderly config (.arrive kind) = true)
    (stepped : service.step config (.arrive kind) = some next)
    : Lone next ∧ Exclusive config (.arrive kind) next := by
  obtain ⟨store, threads⟩ := service.step_arrive stepped
  have idle : ∀ jobId, [kind].countP (executes jobId) = 0 := by
    intro jobId
    cases kind with
    | executeAndBill id tenantId world => simp [orderly, claimsStart] at permitted
    | _ => rfl
  have started : startedKinds config next = [kind] := startedKinds_eq threads rfl
  refine ⟨lone_of_fades lone ?_ ?_, ?_, ?_, ?_⟩
  · intro jobId
    have fresh := countP_start_le jobId [kind]
    rw [idle jobId, List.map_cons, List.map_nil] at fresh
    rw [threads, List.countP_append]
    omega
  · intro jobId isActive
    rw [store]
    exact (lone jobId).2 isActive
  · intro jobId positive
    rw [started, idle] at positive
    omega
  · exact fun _ _ _ _ _ _ executing => by cases executing
  · exact fun _ _ _ executing => by cases executing

theorem lone_crash {index : ℕ} (lone : Lone config)
    (stepped : service.step config (.crash index) = some next)
    : Lone next ∧ Exclusive config (.crash index) next := by
  obtain ⟨crashed, found, store, threads⟩ := service.step_crash stepped
  have appended : next.threads = config.threads.set index
      { crashed with program := .raised service.killed }
      ++ ([] : List Kind).map service.start := by simpa using threads
  have started : startedKinds config next = [] := startedKinds_eq appended (by simp)
  refine ⟨lone_of_fades lone ?_ ?_, ?_, ?_, ?_⟩
  · intro jobId
    have ended : active jobId { crashed with program := .raised service.killed } = false :=
      active_of_finished trivial
    rw [threads]
    exact countP_set_active found (fun isActive => by simp [ended] at isActive)
  · intro jobId isActive
    rw [store]
    exact (lone jobId).2 isActive
  · intro jobId positive
    simp [started] at positive
  · exact fun _ _ _ _ _ _ executing => by cases executing
  · exact fun _ _ _ executing => by cases executing

theorem lone_claim {limit : ℕ} {locked : List JobId} {world : JobId → WorkerWorld}
    (lone : Lone config) (store : next.store = (config.store.claim limit locked).2)
    (appended
      : next.threads
        = threads
          ++ (executorsOf (.claimQueuedExecutionJobs limit locked world)
              (config.store.claim limit locked).1).map service.start)
    (fades : ∀ jobId, threads.countP (active jobId) ≤ config.threads.countP (active jobId))
    (unqueued
      : ∀ jobId,
          0 < config.threads.countP (active jobId)
          → ∃ row, next.store.job? jobId = some row ∧ row.status ≠ .queued)
    : Lone next
      ∧ ∀ jobId,
          config.store.status? jobId = some .queued
          → config.threads.countP (active jobId) = 0 := by
  have vacant : ∀ jobId, config.store.status? jobId = some .queued
      → config.threads.countP (active jobId) = 0 := by
    intro jobId queued
    by_contra busy
    obtain ⟨row, stored, unqueued⟩ := (lone jobId).2 (Nat.pos_of_ne_zero busy)
    simp only [Db.status?, stored, Option.map_some, Option.some.injEq] at queued
    exact unqueued queued
  refine ⟨?_, vacant⟩
  intro jobId
  have fresh := countP_start_le jobId (executorsOf
    (.claimQueuedExecutionJobs limit locked world) (config.store.claim limit locked).1)
  have old := fades jobId
  rw [claim_starts, ← store] at fresh
  rw [appended, List.countP_append]
  split at fresh
  · rename_i transition
    have none := vacant jobId transition.1
    obtain ⟨row, stored, running⟩ := Option.map_eq_some_iff.mp transition.2
    exact ⟨by omega, fun _ => ⟨row, stored, by simp [running]⟩⟩
  · have before := lone jobId
    exact ⟨by omega, fun isActive => unqueued jobId (by omega)⟩

/-- An orderly call keeps executors alone: it is a claim, or it only ends active threads. -/
theorem lone_exec {index : ℕ}
    (holds : queueDiscipline.Holds service ParkedTexts (fun _ _ => True) config)
    (lone : Lone config) (permitted : orderly config (.exec index fault) = true)
    (stepped : service.step config (.exec index fault) = some next)
    : Lone next ∧ Exclusive config (.exec index fault) next := by
  obtain ⟨kind, issued, rest, log, found, store, threads⟩ := service.step_exec stepped
  have executing : config.executing (.exec index fault) = some (kind, issued, fault) :=
    Config.executing_exec found
  simp only [orderly, claimsStart, executing, Bool.true_and, Bool.and_eq_true, Bool.or_eq_true,
    Bool.not_eq_eq_eq_not, Bool.not_true] at permitted
  obtain ⟨retries, replied⟩ := permitted
  have guarantee : queueContract.guarantee config.store issued fault
      (service.exec issued fault config.store).2 :=
    (holds.call queueDiscipline_sound found trivial).2.1
  have started : startedKinds config next
      = service.started issued (service.exec issued fault config.store).1 :=
    startedKinds_eq threads (by simp)
  have unqueued : ∀ jobId, 0 < config.threads.countP (active jobId)
      → ∃ row, next.store.job? jobId = some row ∧ row.status ≠ .queued := by
    intro jobId isActive
    rw [store]
    exact unqueued_of_exec lone guarantee retries isActive
  have fades : ∀ jobId, (config.threads.set index {
      kind
      program := rest (service.exec issued fault config.store).1
      log := log ++ [(issued, fault)] }).countP (active jobId)
      ≤ config.threads.countP (active jobId) :=
    fun jobId => countP_set_active found active_of_exec
  have unclaimed : ∀ limit locked world reason,
      issued.query = .claimQueuedExecutionJobs limit locked world → fault ≠ .after reason := by
    rintro limit locked world reason same rfl
    simp [same] at replied
  have raises : ∀ kind' issued' reason,
      config.executing (.exec index fault) = some (kind', issued', .before reason)
      → next.store = config.store := by
    intro kind' issued' reason same
    rw [executing] at same
    cases same
    exact store
  rcases started_cases config.store unclaimed with
    ⟨quiet, lost⟩ | ⟨limit, locked, world, claims, replies, moved, executors⟩
  · rw [quiet] at started threads
    refine ⟨lone_of_fades lone ?_ unqueued, ?_, ?_, raises⟩
    · intro jobId
      rw [threads]
      simpa using fades jobId
    · intro jobId positive
      simp [started] at positive
    · intro kind' issued' fault' limit locked world same claims jobId
      rw [executing] at same
      cases same
      obtain ⟨reason, rfl⟩ := lost limit locked world claims
      have unmoved : ¬(config.store.status? jobId = some .queued
          ∧ config.store.status? jobId = some .running) := by
        rintro ⟨queued, running⟩
        rw [queued] at running
        cases running
      rw [started, store]
      simp [Machine.exec, unmoved]
  · rw [executors] at started threads
    rw [moved] at store
    obtain ⟨alone, vacant⟩ := lone_claim lone store threads fades unqueued
    have counts := claim_starts config.store limit locked world
    rw [← store, ← started] at counts
    refine ⟨alone, ?_, fun _ _ _ _ _ _ _ _ => counts, raises⟩
    intro jobId positive
    rw [counts jobId] at positive
    split at positive
    · rename_i transition
      exact vacant jobId transition.1
    · omega

theorem lone_of_reaches
    (reached
      : service.Reaches (fun config label => orderly config label = true) (idle Db.empty) config)
    : Lone config := by
  induction reached with
  | refl => simp [Lone, idle]
  | @step config next label earlier permitted stepped ih =>
      cases label with
      | arrive kind => exact (lone_arrive ih permitted stepped).1
      | crash index => exact (lone_crash ih stepped).1
      | exec index fault =>
          exact (lone_exec (queueDiscipline_holds earlier) ih permitted stepped).1

/-- In every orderly run from an empty database, with any number of replicas, requests, sweeps,
faults and crashes, each job has at most one active executor, and every further orderly step is
exclusive.
-/
theorem one_executor {config : Config bridge Db Kind Answer}
    (reached
      : service.Reaches (fun config label => orderly config label = true) (idle Db.empty) config)
    : (∀ jobId, config.threads.countP (active jobId) ≤ 1)
      ∧ ∀ label next,
          orderly config label = true
          → service.step config label = some next
          → Exclusive config label next := by
  have lone := lone_of_reaches reached
  refine ⟨fun jobId => (lone jobId).1, ?_⟩
  intro label next permitted stepped
  cases label with
  | arrive kind => exact (lone_arrive lone permitted stepped).2
  | crash index => exact (lone_crash lone stepped).2
  | exec index fault => exact (lone_exec (queueDiscipline_holds reached) lone permitted stepped).2

/-- A job whose first run, thread 2, was refused by the backend and ended `failed`. -/
def refusedJob : List (Label Kind) :=
  [.arrive (.createDecisionJob "t" false jobA), .exec 0 .none,
    .arrive (.claimTick 5 [] (fun _ =>
      { quickRun 10 "completed" with dispatch := .ok { status := some "failed" } })),
    .exec 1 .none, .exec 2 .none]

/-- Witness: the refused job is retried and claimed again, and has one active executor. -/
theorem one_executor_retried
    : ∃ config,
        service.Reaches (fun config label => orderly config label = true) (idle Db.empty) config
        ∧ (config.threads.map Thread.kind).countP (executes jobA) = 2
        ∧ config.threads.countP (active jobA) = 1
        ∧ config.threads.countP (active jobA) ≤ 1 := by
  have ran
      : (service.run orderly (idle Db.empty)
          (refusedJob
            ++ ([.arrive (.retryJob { tenant := .ok "t" } jobA), .exec 3 .none, .exec 3 .none,
               .arrive (.claimTick 5 [] (fun _ => quickRun 10 "completed")), .exec 4 .none]
               : List (Label Kind)))).any
          (fun config =>
            (config.threads.map Thread.kind).countP (executes jobA) == 2
            && config.threads.countP (active jobA) == 1)
        = true := by
    decide +kernel
  obtain ⟨config, reached, passed⟩ :=
    Machine.Reaches.of_check (fun _ _ permitted => permitted) _ ran
  simp only [Bool.and_eq_true, beq_iff_eq] at passed
  exact ⟨config, reached, passed.1, passed.2, (one_executor reached).1 jobA⟩

/-- Two retries around a claim give the job two active executors: the second retry read
`failed` before the claim and queues the running job.
-/
theorem two_executors
    : ∃ config,
        service.Reaches (fun _ label => claimsStart label = true) (idle Db.empty) config
        ∧ config.threads.countP (active jobA) = 2 := by
  have ran
      : (service.run (fun _ label => claimsStart label) (idle Db.empty)
          (refusedJob
            ++ ([.arrive (.retryJob { tenant := .ok "t" } jobA),
               .arrive (.retryJob { tenant := .ok "t" } jobA), .exec 3 .none, .exec 4 .none,
               .exec 3 .none, .arrive (.claimTick 5 [] (fun _ => quickRun 10 "completed")),
               .exec 5 .none, .exec 4 .none,
               .arrive (.claimTick 5 [] (fun _ => quickRun 10 "completed")), .exec 7 .none]
               : List (Label Kind)))).any
          (fun config => config.threads.countP (active jobA) == 2)
        = true := by
    decide +kernel
  obtain ⟨config, reached, passed⟩ :=
    Machine.Reaches.of_check (fun _ _ permitted => permitted) _ ran
  exact ⟨config, reached, by simpa using passed⟩

end RomaBridge.Properties
