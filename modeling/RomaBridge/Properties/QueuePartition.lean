import RomaBridge.Model.QueueManager

/-! Where the jobs of a queue manager are. `start` puts a job among the running ones and leaves it
in the queue, so the three containers split the jobs exactly as long as no queued job is started.
-/

namespace RomaBridge.Properties

open RomaBridge.Foundation RomaBridge.Model.Queueing
open RomaBridge.Model (JsonDict)

def containedJobs (manager : QueueManager) : List ℕ :=
  manager.queue ++ manager.running.rows.map Prod.snd ++ manager.completed

/-- Every job that was not handed out is in exactly one container, with the status of that place,
and `total` counts these jobs.
-/
structure Partitioned (run : QueueRun) : Prop where
  place : ∀ job, job < run.manager.objects.length → job ∉ run.handedOut →
    (containedJobs run.manager).count job = 1
  queued : ∀ job object, run.manager.objects[job]? = some object → job ∈ run.manager.queue →
    run.manager.getStatus object.jobId = some object.status
  running : ∀ job object, run.manager.objects[job]? = some object →
    job ∈ run.manager.running.rows.map Prod.snd →
    run.manager.getStatus object.jobId = some .running
  completed : ∀ job object, run.manager.objects[job]? = some object → job ∈ run.manager.completed →
    run.manager.getStatus object.jobId = some .completed
      ∨ run.manager.getStatus object.jobId = some .failed
  total : run.manager.total
    = ((List.range run.manager.objects.length).filter (fun job => job ∉ run.handedOut)).length

def reportedAfter : QueueCall → Option (String × JobStatus)
  | .start jobId _ => some (jobId, .running)
  | .complete jobId _ _ => some (jobId, .completed)
  | .fail jobId _ _ => some (jobId, .failed)
  | _ => none

/-- A call leaves the jobs split, hands out no started job, and its success is what `get_status`
reports.
-/
structure SplitsJobs (visit : Visit QueueRun QueueCall QueueReply) : Prop where
  split : Partitioned visit.after
  unstarted : ∀ job, visit.reply = .dequeued (some job) → job ∉ visit.before.started
  reported : ∀ jobId status, reportedAfter visit.call = some (jobId, status) →
    visit.reply = .returned true → visit.after.manager.getStatus jobId = some status

/-- An enqueued job has an identifier that no earlier one had. -/
def FreshId (run : QueueRun) : QueueCall → Prop
  | .enqueue job uuid =>
      QueueManager.idOf job uuid ∉ run.manager.objects.map Job.jobId
  | _ => True

def StartsNothing (run : QueueRun) : QueueCall → Prop
  | .start jobId _ => ∀ job ∈ run.manager.queue, run.manager.named jobId job = false
  | _ => True

/-- Every job is in the queue or was handed out. -/
structure NothingStarted (run : QueueRun) : Prop where
  running : run.manager.running.rows = []
  completed : run.manager.completed = []
  started : run.started = []
  unique : (run.manager.objects.map Job.jobId).Nodup
  split : (run.manager.queue ++ run.handedOut).Perm (List.range run.manager.objects.length)

variable {run : QueueRun} {job : ℕ} {object : Job}

theorem NothingStarted.nodup (idle : NothingStarted run)
    : (run.manager.queue ++ run.handedOut).Nodup :=
  idle.split.nodup_iff.mpr List.nodup_range

theorem NothingStarted.lt_length (idle : NothingStarted run) (queued : job ∈ run.manager.queue)
    : job < run.manager.objects.length :=
  List.mem_range.mp (idle.split.mem_iff.mp (List.mem_append_left _ queued))

theorem NothingStarted.eq_of_named (idle : NothingStarted run)
    (stored : run.manager.objects[job]? = some object) {other : ℕ}
    (named : run.manager.named object.jobId other = true)
    : other = job := by
  obtain ⟨found, at_, same⟩ := (Option.any_eq_true _ _).mp named
  rw [decide_eq_true_eq] at same
  have inside : other < (run.manager.objects.map Job.jobId).length := by
    obtain ⟨bound, _⟩ := List.getElem?_eq_some_iff.mp at_
    simpa using bound
  refine (List.getElem?_inj inside idle.unique).mp ?_
  rw [List.getElem?_map, List.getElem?_map, at_, stored, Option.map_some, Option.map_some, same]

theorem NothingStarted.getStatus (idle : NothingStarted run)
    (stored : run.manager.objects[job]? = some object) (queued : job ∈ run.manager.queue)
    : run.manager.getStatus object.jobId = some object.status := by
  have named : run.manager.named object.jobId job = true := by simp [QueueManager.named, stored]
  unfold QueueManager.getStatus
  cases found : run.manager.queue.find? (run.manager.named object.jobId) with
  | none => exact absurd named (by simpa using List.find?_eq_none.mp found job queued)
  | some other =>
      obtain rfl := idle.eq_of_named stored (List.find?_some found)
      simp [QueueManager.statusOf, stored]

/-- Then the queue is all there is, and every job that was not handed out is in it once. -/
theorem NothingStarted.partitioned (idle : NothingStarted run) : Partitioned run := by
  have contained : containedJobs run.manager = run.manager.queue := by
    simp [containedJobs, idle.running, idle.completed]
  refine ⟨?_, ?_, ?_, ?_, ?_⟩
  · intro job known outside
    have once := idle.split.count_eq job
    rw [List.count_append, List.count_eq_zero_of_not_mem outside,
      List.count_eq_one_of_mem List.nodup_range (List.mem_range.mpr known)] at once
    rw [contained]
    exact once
  · intro job object stored queued
    exact idle.getStatus stored queued
  · intro job object _ member
    simp [idle.running] at member
  · intro job object _ member
    simp [idle.completed] at member
  · have kept := (idle.split.filter (fun job => job ∉ run.handedOut)).length_eq
    have apart := (List.nodup_append.mp idle.nodup).2.2
    have queue : run.manager.queue.filter (fun job => job ∉ run.handedOut) = run.manager.queue := by
      rw [List.filter_eq_self]
      intro job queued
      simpa using fun handed => apart job queued job handed rfl
    have handed : run.handedOut.filter (fun job => job ∉ run.handedOut) = [] := by
      rw [List.filter_eq_nil_iff]
      intro job member
      simpa using member
    rw [List.filter_append, queue, handed, List.append_nil] at kept
    rw [← kept, QueueManager.total, idle.running, idle.completed]
    simp

theorem nothingStarted_newRun : NothingStarted newRun :=
  ⟨rfl, rfl, rfl, List.nodup_nil, List.Perm.refl _⟩

theorem map_jobId_modify (objects : List Job) (job : ℕ) (write : Job → Job)
    (keeps : ∀ object, (write object).jobId = object.jobId)
    : (objects.modify job write).map Job.jobId = objects.map Job.jobId := by
  induction objects generalizing job with
  | nil => simp
  | cons first rest ih =>
      cases job with
      | zero => simp [keeps]
      | succ index => simp [ih index]

theorem NothingStarted.step (idle : NothingStarted run) {call : QueueCall} (fresh : FreshId run call)
    (allowed : StartsNothing run call)
    : NothingStarted (queueStep run call).2 := by
  have absent : ∀ jobId, run.manager.running.find? jobId = none := by
    intro jobId
    simp [Table.find?, idle.running]
  cases call with
  | enqueue job uuid =>
      refine ⟨idle.running, idle.completed, idle.started, ?_, ?_⟩
      · simp only [queueStep, QueueManager.enqueue, QueueManager.sorted, List.map_append,
          List.map_cons, List.map_nil]
        rw [List.nodup_append]
        refine ⟨idle.unique, by simp, ?_⟩
        intro id old other new same
        rw [List.mem_singleton] at new
        exact fresh (new ▸ same ▸ old)
      · simp only [queueStep, QueueManager.enqueue, QueueManager.sorted, List.length_append,
          List.length_cons, List.length_nil]
        refine ((List.perm_insertionSort _ _).append_right _).trans ?_
        rw [List.range_succ, List.append_assoc]
        exact ((List.perm_append_comm).append_left _).trans
          (by rw [← List.append_assoc]; exact idle.split.append_right _)
  | dequeue =>
      unfold queueStep QueueManager.dequeue
      cases queue : run.manager.queue with
      | nil => simpa using idle
      | cons first rest =>
          refine ⟨idle.running, idle.completed, idle.started, ?_, ?_⟩
          · simp only [QueueManager.change]
            rw [map_jobId_modify]
            · exact idle.unique
            · exact fun _ => rfl
          · have split := idle.split
            rw [queue] at split
            simp only [QueueManager.change, List.length_modify, Option.toList]
            refine List.Perm.trans ?_ split
            rw [← List.append_assoc]
            exact List.perm_append_comm
  | start jobId now =>
      have none : run.manager.queue.find? (run.manager.named jobId) = none := by
        rw [List.find?_eq_none]
        intro job queued
        simpa using allowed job queued
      simp only [queueStep, QueueManager.start, none, Option.toList, List.append_nil]
      exact idle
  | complete jobId result now =>
      simp only [queueStep, QueueManager.complete, QueueManager.finish, absent]
      exact idle
  | fail jobId error now =>
      simp only [queueStep, QueueManager.fail, QueueManager.finish, absent]
      exact idle

theorem NothingStarted.not_partitioned_start (idle : NothingStarted run) {jobId now : String}
    (queued : job ∈ run.manager.queue) (named : run.manager.named jobId job = true)
    : ¬ Partitioned (queueStep run (.start jobId now)).2 := by
  intro split
  cases found : run.manager.queue.find? (run.manager.named jobId) with
  | none => exact absurd named (by simpa using List.find?_eq_none.mp found job queued)
  | some first =>
      have member := List.mem_of_find?_eq_some found
      have outside : first ∉ run.handedOut := fun handed =>
        (List.nodup_append.mp idle.nodup).2.2 first member first handed rfl
      have once := split.place first
      simp only [queueStep, QueueManager.start, found, QueueManager.change, List.length_modify,
        containedJobs] at once
      have count := once (idle.lt_length member) outside
      rw [Table.rows_put_of_nil idle.running, List.count_append, List.count_append] at count
      have queue : 0 < run.manager.queue.count first := List.count_pos_iff.mpr member
      simp only [List.map_cons, List.map_nil, List.count_singleton_self] at count
      omega

/-- Along any calls with distinct identifiers, every job that was not handed out is in exactly one
of the containers with the status of that place, no started job is handed out, and the total counts
these jobs, exactly when no queued job is ever started.
-/
theorem queue_partition_iff (calls : List QueueCall)
    (distinct : ∀ visit ∈ visits queueStep newRun calls, FreshId visit.before visit.call)
    : (∀ visit ∈ visits queueStep newRun calls, SplitsJobs visit)
      ↔ ∀ visit ∈ visits queueStep newRun calls, StartsNothing visit.before visit.call := by
  refine throughout_iff ?_ (fun run call idle fresh allowed => idle.step fresh allowed)
    nothingStarted_newRun distinct
  intro run call idle fresh
  constructor
  · intro right
    cases call with
    | start jobId now =>
        intro job queued
        by_contra named
        exact idle.not_partitioned_start queued (by simpa using named) right.split
    | enqueue job uuid => exact trivial
    | dequeue => exact trivial
    | complete jobId result now => exact trivial
    | fail jobId error now => exact trivial
  · intro allowed
    refine ⟨(idle.step fresh allowed).partitioned, ?_, ?_⟩
    · intro job _
      simp [idle.started]
    · intro jobId status reports done
      have absent : run.manager.running.find? jobId = none := by
        simp [Table.find?, idle.running]
      cases call with
      | start started now =>
          have none : run.manager.queue.find? (run.manager.named started) = none := by
            rw [List.find?_eq_none]
            intro job queued
            simpa using allowed job queued
          simp [queueStep, QueueManager.start, none] at done
      | complete finished result now =>
          obtain ⟨rfl, rfl⟩ := Prod.mk.inj (Option.some.inj reports)
          simp [queueStep, QueueManager.complete, QueueManager.finish, absent] at done
      | fail finished error now =>
          obtain ⟨rfl, rfl⟩ := Prod.mk.inj (Option.some.inj reports)
          simp [queueStep, QueueManager.fail, QueueManager.finish, absent] at done
      | enqueue job uuid => cases reports
      | dequeue => cases reports

def newJob (jobId : String) : Job := ⟨jobId, .pending, 0, none, none, none, none⟩

def dequeuedJobs : List QueueCall :=
  [.enqueue (newJob "job-1") "", .enqueue (newJob "job-2") "", .dequeue]

/-- Jobs that are not started stay split. -/
theorem queue_partition_iff_dequeuedJobs
    : dequeuedJobs ≠ [] ∧ ∀ visit ∈ visits queueStep newRun dequeuedJobs, SplitsJobs visit := by
  refine ⟨by simp [dequeuedJobs], (queue_partition_iff dequeuedJobs ?_).mpr ?_⟩
  · intro visit member
    simp only [dequeuedJobs, visits, List.mem_cons, List.not_mem_nil, or_false] at member
    rcases member with rfl | rfl | rfl
    · simp [FreshId, newRun, QueueManager.new]
    · simp [FreshId, newRun, QueueManager.new, queueStep, QueueManager.enqueue, QueueManager.sorted,
        QueueManager.idOf, newJob]
    · exact trivial
  · intro visit member
    simp only [dequeuedJobs, visits, List.mem_cons, List.not_mem_nil, or_false] at member
    rcases member with rfl | rfl | rfl
    · exact trivial
    · exact trivial
    · exact trivial

/-- The manager behind `enqueue`, `start` and `complete` of one job. -/
def finishedRun : QueueRun :=
  finalState queueStep newRun [.enqueue (newJob "job-1") "", .start "job-1" "t", .complete "job-1"
    Table.empty "t"]

/-- A finished job is still queued: `total` counts it twice, and `dequeue` hands it out. -/
theorem finished_job_dequeued
    : finishedRun.manager.total = 2 ∧ finishedRun.started = [0]
      ∧ (queueStep finishedRun .dequeue).1 = .dequeued (some 0) ∧ ¬ Partitioned finishedRun := by
  have total : finishedRun.manager.total = 2 := by decide +kernel
  refine ⟨total, by decide +kernel, by decide +kernel, ?_⟩
  intro split
  have counted := split.total
  rw [total] at counted
  exact absurd counted (by decide +kernel)

end RomaBridge.Properties
