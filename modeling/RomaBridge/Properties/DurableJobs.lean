import RomaBridge.Foundation.Trace
import RomaBridge.Model.JobStoreFile

/-! The job store over crashes, failed saves and restarts. The file is emptied before it is written,
and the table is changed before the file.
-/

namespace RomaBridge.Properties

open RomaBridge.Foundation RomaBridge.Model RomaBridge.Model.ControlPlane

variable {floatText : PyFloat → String} {contents : Contents} {operation : Operation}
  {world : StoreWorld}

/-- What durability asks of a step. After an operation the path can be opened, and shows the table and
the sequence number as they were after it, or before it if it did not return; one that raised leaves
the table in memory; and a job that is returned has a number that none had. A new process starts.
-/
def DurableStep (visit : Visit StoreWorld StoreAction OpEnd) : Prop :=
  match visit.call with
  | .reopen => visit.reply = .returned
  | .call operation _ =>
      ∀ contents, visit.before.memory = some contents →
        (∃ found, visit.after.file.load = some found
          ∧ (found = (operation.apply contents).2 ∨ visit.reply ≠ .returned ∧ found = contents))
        ∧ (visit.reply = .raised → visit.after.memory = some contents)
        ∧ ∀ number, visit.reply = .returned → operation.number contents = some number →
          visit.before.issued < number

def PayloadReadable (floatText : PyFloat → String) : Operation → Prop
  | .submit _ _ payload _ _ _ => jsonCopy floatText payload = some payload
  | _ => True

/-- A save that returns, or is ended by a crash after its write, is of a readable payload; one that
raises, other than in its write, is of an operation that changes nothing; and none is ended in its
write.
-/
def SaveAllowed (floatText : PyFloat → String) (contents : Contents) (operation : Operation)
    : SaveEnd → Prop
  | .done | .crashes .whole => PayloadReadable floatText operation
  | .crashes .unopened => True
  | .raises .unopened | .raises .whole => (operation.apply contents).2 = contents
  | .raises .cut | .crashes .cut => False

def StoreStepAllowed (floatText : PyFloat → String) (world : StoreWorld) : StoreAction → Prop
  | .reopen => True
  | .call operation ends =>
      ∀ contents, world.memory = some contents → (operation.apply contents).1 = true →
        SaveAllowed floatText contents operation ends

def AllReadable (floatText : PyFloat → String) (contents : Contents) : Prop :=
  ∀ jobId, jsonCopy floatText (contents.payload jobId) = some (contents.payload jobId)

/-- The file shows the table of the process, if one lives, with the numbers that were returned behind
it.
-/
def FileShowsTable (floatText : PyFloat → String) (world : StoreWorld) : Prop :=
  ∃ found, world.file.load = some found ∧ (world.memory = some found ∨ world.memory = none)
    ∧ world.issued ≤ found.store.seq ∧ AllReadable floatText found

theorem fileShowsTable_new : FileShowsTable floatText .new :=
  ⟨.fresh, rfl, .inl rfl, Nat.le_refl _, fun _ => rfl⟩

-- Operations

theorem update_of_none {κ ρ : Type} {key : ρ → κ} (table : Table κ ρ key)
    {selected : ρ → Bool} (write : ρ → ρ) (keeps : ∀ row, key (write row) = key row)
    (none_ : ∀ row ∈ table.rows, selected row = false)
    : table.update selected write keeps = table := by
  have same : (table.update selected write keeps).rows = table.rows := by
    refine (List.map_congr_left fun row member => ?_).trans (List.map_id _)
    rw [none_ row member]
    rfl
  cases table
  simpa only [Table.update, Table.mk.injEq] using same

theorem advancePending_of_none {store : JobStore} (none_ : store.advancePending.1 = [])
    : store.advancePending.2 = store := by
  have others : ∀ job ∈ store.jobs.rows, decide (job.status = .pendingRetry) = false := by
    intro job member
    by_contra pending
    have there : job ∈ store.advancePending.1 :=
      List.mem_filter.mpr ⟨member, by simpa using pending⟩
    rw [none_] at there
    cases there
  have jobs := update_of_none store.jobs (fun job => { job with status := .submitted })
    (fun _ => rfl) others
  cases store
  simpa only [JobStore.advancePending, JobStore.mk.injEq, and_true] using jobs

theorem guarded_cases {store : JobStore} {refuses : Job → Prop} [DecidablePred refuses]
    {written : JobStore} (payload : String → PyObj) (found : Option Job)
    (seq : written.seq = store.seq)
    : let outcome : Bool × JobStore := match found with
        | none => (false, store)
        | some job => if refuses job then (false, store) else (true, written)
      (outcome.1, Contents.mk outcome.2 payload) = (false, ⟨store, payload⟩)
      ∨ outcome.1 = true ∧ outcome.2.seq = store.seq := by
  cases found with
  | none => exact .inl rfl
  | some job =>
      dsimp only
      split
      · exact .inl rfl
      · exact .inr ⟨rfl, seq⟩

/-- What an operation does: nothing, or it saves a new job, or a table with the old numbers and
payloads.
-/
inductive Applied (contents : Contents) (operation : Operation) : Prop where
  | idle (same : operation.apply contents = (false, contents))
      (unnumbered : operation.number contents = none)
      (readable : ∀ floatText, PayloadReadable floatText operation)
  | submitted (suffix plugin : String) (payload : PyObj) (gpu ttl : ℚ) (maxRetries : ℤ)
      (same : operation = .submit suffix plugin payload gpu ttl maxRetries)
  | rewritten (saves : (operation.apply contents).1 = true)
      (unnumbered : operation.number contents = none)
      (seq : (operation.apply contents).2.store.seq = contents.store.seq)
      (payload : (operation.apply contents).2.payload = contents.payload)
      (readable : ∀ floatText, PayloadReadable floatText operation)

theorem applied (contents : Contents) (operation : Operation) : Applied contents operation := by
  obtain ⟨store, payload⟩ := contents
  have guarded : ∀ {operation : Operation},
      (operation.apply ⟨store, payload⟩ = (false, ⟨store, payload⟩)
        ∨ (operation.apply ⟨store, payload⟩).1 = true
          ∧ (operation.apply ⟨store, payload⟩).2.store.seq = store.seq) →
      operation.number ⟨store, payload⟩ = none →
      (operation.apply ⟨store, payload⟩).2.payload = payload →
      (∀ floatText, PayloadReadable floatText operation) → Applied ⟨store, payload⟩ operation := by
    intro operation cases unnumbered same readable
    rcases cases with idle | ⟨saves, seq⟩
    · exact .idle idle unnumbered readable
    · exact .rewritten saves unnumbered seq same readable
  cases operation with
  | submit suffix plugin given gpu ttl maxRetries =>
      exact .submitted suffix plugin given gpu ttl maxRetries rfl
  | schedule jobId workerId now =>
      exact guarded (guarded_cases payload (store.get jobId) rfl) rfl rfl (fun _ => trivial)
  | start jobId now =>
      exact guarded (guarded_cases payload (store.get jobId) rfl) rfl rfl (fun _ => trivial)
  | complete jobId now =>
      exact guarded (guarded_cases payload (store.get jobId) rfl) rfl rfl (fun _ => trivial)
  | commit jobId =>
      exact guarded (guarded_cases payload (store.get jobId) rfl) rfl rfl (fun _ => trivial)
  | fail jobId error now =>
      exact guarded (guarded_cases payload (store.get jobId) rfl) rfl rfl (fun _ => trivial)
  | requeue jobId =>
      refine guarded ?_ rfl rfl (fun _ => trivial)
      cases found : store.get jobId with
      | none =>
          refine .inl ?_
          simp only [Operation.apply, JobStore.requeue, found]
          rfl
      | some job =>
          refine .inr ⟨by simp [Operation.apply, found], ?_⟩
          simp only [Operation.apply, JobStore.requeue, found]
          split <;> rfl
  | advancePending =>
      refine guarded ?_ rfl rfl (fun _ => trivial)
      cases ready : store.advancePending.1.isEmpty with
      | false => exact .inr ⟨by simp [Operation.apply, ready], rfl⟩
      | true =>
          have same := advancePending_of_none (List.isEmpty_iff.mp ready)
          exact .inl (by simp only [Operation.apply, ready, same, Bool.not_true])

theorem apply_of_idle (idle : (operation.apply contents).1 = false)
    : (operation.apply contents).2 = contents := by
  cases applied contents operation with
  | idle same => rw [same]
  | submitted suffix plugin payload gpu ttl maxRetries same =>
      subst same
      cases idle
  | rewritten saves => exact absurd (saves.symm.trans idle) (by simp)

theorem seq_apply (contents : Contents) (operation : Operation)
    : contents.store.seq ≤ (operation.apply contents).2.store.seq
      ∧ ∀ number, operation.number contents = some number →
        number = (operation.apply contents).2.store.seq ∧ contents.store.seq < number := by
  cases applied contents operation with
  | idle same unnumbered =>
      rw [same]
      exact ⟨Nat.le_refl _, fun number given => absurd (unnumbered.symm.trans given) (by simp)⟩
  | submitted suffix plugin payload gpu ttl maxRetries same =>
      subst same
      refine ⟨Nat.le_succ _, fun number given => ?_⟩
      cases given
      exact ⟨rfl, Nat.lt_succ_self _⟩
  | rewritten saves unnumbered seq =>
      refine ⟨seq.ge, fun number given => ?_⟩
      rw [unnumbered] at given
      cases given

theorem AllReadable.apply (all : AllReadable floatText contents)
    (readable : PayloadReadable floatText operation)
    : AllReadable floatText (operation.apply contents).2 := by
  cases applied contents operation with
  | idle same =>
      rw [same]
      exact all
  | submitted suffix plugin payload gpu ttl maxRetries same =>
      subst same
      intro jobId
      by_cases new : jobId = (contents.store.submit suffix plugin gpu ttl maxRetries).1.id
      · subst new
        simpa [Operation.apply, PayloadReadable] using readable
      · simpa [Operation.apply, Function.update_of_ne new] using all jobId
  | rewritten saves unnumbered seq payload =>
      intro jobId
      rw [payload]
      exact all jobId

theorem readable_of_same (same : (operation.apply contents).2 = contents)
    : PayloadReadable floatText operation := by
  cases applied contents operation with
  | idle _ _ readable => exact readable floatText
  | rewritten _ _ _ _ readable => exact readable floatText
  | submitted suffix plugin payload gpu ttl maxRetries submits =>
      subst submits
      have numbers := congrArg (fun contents => contents.store.seq) same
      exact absurd numbers (Nat.succ_ne_self _)

theorem AllReadable.dump (all : AllReadable floatText contents)
    : contents.dump floatText = some contents := by
  have copies : ∀ jobId, (jsonCopy floatText (contents.payload jobId)).isSome = true := by
    intro jobId
    rw [all jobId]
    rfl
  unfold Contents.dump
  simp only [copies, List.all_eq_true, implies_true, if_true, Option.some.injEq]
  cases contents
  simp only [Contents.mk.injEq, true_and]
  funext jobId
  exact congrArg (·.getD .none) (all jobId)

/-- A payload that is not read back as it was is not written as it was, nor as if it had not been
submitted.
-/
theorem dump_of_unreadable (unreadable : ¬ PayloadReadable floatText operation) {document : Contents}
    (written : (operation.apply contents).2.dump floatText = some document)
    : document ≠ (operation.apply contents).2 ∧ document ≠ contents := by
  cases applied contents operation with
  | idle _ _ readable => exact absurd (readable floatText) unreadable
  | rewritten _ _ _ _ readable => exact absurd (readable floatText) unreadable
  | submitted suffix plugin payload gpu ttl maxRetries same =>
      subst same
      let job := (contents.store.submit suffix plugin gpu ttl maxRetries).1
      have stored : job ∈ (contents.store.jobs.put job).rows :=
        (Table.find?_some (by rw [Table.find?_put, if_pos rfl])).1
      unfold Contents.dump at written
      split at written
      · rename_i copied
        have given := List.all_eq_true.mp copied job stored
        simp only [Operation.apply, Function.update_self, job] at given
        obtain ⟨copy, read⟩ := Option.isSome_iff_exists.mp given
        obtain rfl := Option.some.inj written
        constructor
        · intro same
          have payloads := congrFun (congrArg Contents.payload same) job.id
          simp only [Operation.apply, Function.update_self, job, read, Option.getD_some]
            at payloads
          rw [payloads] at read
          exact unreadable read
        · intro same
          have numbers := congrArg (fun contents => contents.store.seq) same
          exact absurd numbers (Nat.succ_ne_self _)
      · cases written

-- Saves

theorem step_saves {ends : SaveEnd} (alive : world.memory = some contents)
    (saves : (operation.apply contents).1 = true)
    : world.step floatText (.call operation ends)
      = ((save floatText (operation.apply contents).2 world.file ends).1, {
          memory :=
            if (save floatText (operation.apply contents).2 world.file ends).1 = .crashed then none
            else some (operation.apply contents).2
          file := (save floatText (operation.apply contents).2 world.file ends).2
          issued :=
            if (save floatText (operation.apply contents).2 world.file ends).1 = .returned then
              (operation.number contents).getD world.issued
            else world.issued }) := by
  simp only [StoreWorld.step, alive, saves, if_true]

theorem step_idle {ends : SaveEnd} (alive : world.memory = some contents)
    (idle : (operation.apply contents).1 = false)
    : world.step floatText (.call operation ends) = (.returned, world) := by
  have same := apply_of_idle idle
  simp only [StoreWorld.step, alive, idle, same, Bool.false_eq_true, if_false]
  cases world
  simp_all

/-- A save of an operation is durable: the path shows the table after it, or before it if it did not
return, and one that raised left the table.
-/
def SaveDurable (contents after : Contents) (saved : OpEnd × JobFile) : Prop :=
  (∃ found, saved.2.load = some found ∧ (found = after ∨ saved.1 ≠ .returned ∧ found = contents))
  ∧ (saved.1 = .raised → after = contents)

theorem writeDocument_durable_iff (all : AllReadable floatText contents) (ends : OpEnd)
    : SaveDurable contents (operation.apply contents).2
        (writeDocument floatText (operation.apply contents).2 ends)
      ↔ PayloadReadable floatText operation ∧ (ends = .raised → (operation.apply contents).2 = contents) := by
  by_cases readable : PayloadReadable floatText operation
  · have written := (all.apply readable).dump
    simp only [writeDocument, written, SaveDurable, JobFile.load, readable, true_and]
    exact and_iff_right ⟨_, rfl, .inl rfl⟩
  · refine iff_of_false ?_ (fun allowed => readable allowed.1)
    rintro ⟨⟨found, loads, shown⟩, -⟩
    unfold writeDocument at loads shown
    split at loads
    · rename_i document written
      obtain ⟨other, other'⟩ := dump_of_unreadable readable written
      cases loads
      rcases shown with same | ⟨-, same⟩
      · exact other same
      · exact other' same
    · cases loads

theorem save_durable_iff (all : AllReadable floatText contents) {file : JobFile}
    (shows : file.load = some contents) (ends : SaveEnd)
    : SaveDurable contents (operation.apply contents).2
        (save floatText (operation.apply contents).2 file ends)
      ↔ SaveAllowed floatText contents operation ends := by
  have cut : ∀ ended, ¬ SaveDurable contents (operation.apply contents).2 (ended, JobFile.cut) := by
    rintro ended ⟨⟨found, loads, -⟩, -⟩
    cases loads
  cases ends with
  | done => simpa [save, SaveAllowed] using writeDocument_durable_iff all .returned
  | raises point =>
      cases point with
      | unopened =>
          constructor
          · exact fun durable => durable.2 rfl
          · exact fun same => ⟨⟨contents, shows, .inr ⟨by simp [save], rfl⟩⟩, fun _ => same⟩
      | cut => exact iff_of_false (cut _) (fun impossible => impossible)
      | whole =>
          refine (writeDocument_durable_iff all .raised).trans ?_
          constructor
          · exact fun durable => durable.2 rfl
          · intro same
            exact ⟨readable_of_same same, fun _ => same⟩
  | crashes point =>
      cases point with
      | unopened =>
          exact iff_of_true ⟨⟨contents, shows, .inr ⟨by simp [save], rfl⟩⟩, by simp [save]⟩ trivial
      | cut => exact iff_of_false (cut _) (fun impossible => impossible)
      | whole => simpa [save, SaveAllowed] using writeDocument_durable_iff all .crashed

-- Steps

theorem FileShowsTable.durable_iff (synced : FileShowsTable floatText world) (action : StoreAction)
    : DurableStep ⟨world, action, (world.step floatText action).1,
        (world.step floatText action).2⟩
      ↔ StoreStepAllowed floatText world action := by
  obtain ⟨found, shows, memory, issued, all⟩ := synced
  cases action with
  | reopen =>
      refine iff_of_true ?_ trivial
      simp only [DurableStep, StoreWorld.step, shows]
  | call operation ends =>
      simp only [DurableStep, StoreStepAllowed]
      rcases memory with alive | dead
      · simp only [alive, Option.some.injEq, forall_eq']
        obtain ⟨-, numbered⟩ := seq_apply found operation
        cases saves : (operation.apply found).1 with
        | false =>
            rw [step_idle alive saves]
            refine iff_of_true ⟨⟨found, shows, .inl (apply_of_idle saves).symm⟩, by simp, ?_⟩
              (by simp)
            intro number _ given
            exact Nat.lt_of_le_of_lt issued (numbered number given).2
        | true =>
            rw [step_saves alive saves]
            have durable : _ ↔ SaveAllowed floatText found operation ends :=
              save_durable_iff all shows ends
            simp only [true_implies]
            rw [← durable]
            generalize save floatText (operation.apply found).2 world.file ends = saved
            constructor
            · rintro ⟨path, raised, -⟩
              refine ⟨path, fun ended => ?_⟩
              have kept := raised ended
              rw [if_neg (by simp [ended])] at kept
              exact Option.some.inj kept
            · rintro ⟨path, raised⟩
              refine ⟨path, fun ended => ?_, fun number _ given => ?_⟩
              · rw [if_neg (by simp [ended]), raised ended]
              · exact Nat.lt_of_le_of_lt issued (numbered number given).2
      · exact iff_of_true (by simp [dead]) (by simp [dead])

theorem fileShowsTable_of_saved {found : Contents} {file : JobFile} {number : ℕ}
    (shows : file.load = some found) (issued : number ≤ found.store.seq)
    (all : AllReadable floatText found) (ends : SaveEnd)
    (allowed : SaveAllowed floatText found operation ends)
    : FileShowsTable floatText {
        memory :=
          if (save floatText (operation.apply found).2 file ends).1 = .crashed then none
          else some (operation.apply found).2
        file := (save floatText (operation.apply found).2 file ends).2
        issued :=
          if (save floatText (operation.apply found).2 file ends).1 = .returned then
            (operation.number found).getD number
          else number } := by
  obtain ⟨grows, numbered⟩ := seq_apply found operation
  have written : PayloadReadable floatText operation → ∀ ended,
      writeDocument floatText (operation.apply found).2 ended
        = (ended, .whole (operation.apply found).2) := by
    intro readable ended
    simp only [writeDocument, (all.apply readable).dump]
  have given : (operation.number found).getD number ≤ (operation.apply found).2.store.seq := by
    cases new : operation.number found with
    | none => exact Nat.le_trans issued grows
    | some next => exact (numbered next new).1.le
  cases ends with
  | done =>
      simp only [save, written allowed]
      exact ⟨_, rfl, .inl rfl, given, all.apply allowed⟩
  | raises point =>
      cases point with
      | unopened =>
          have same : (operation.apply found).2 = found := allowed
          simp only [save, same]
          exact ⟨found, shows, .inl rfl, issued, all⟩
      | cut => exact allowed.elim
      | whole =>
          have same : (operation.apply found).2 = found := allowed
          have readable : PayloadReadable floatText operation := readable_of_same same
          simp only [save, written readable]
          exact ⟨_, rfl, .inl rfl, Nat.le_trans issued grows, all.apply readable⟩
  | crashes point =>
      cases point with
      | unopened => exact ⟨found, shows, .inr rfl, issued, all⟩
      | cut => exact allowed.elim
      | whole =>
          simp only [save, written allowed]
          exact ⟨_, rfl, .inr rfl, Nat.le_trans issued grows, all.apply allowed⟩

theorem FileShowsTable.kept (synced : FileShowsTable floatText world) {action : StoreAction}
    (allowed : StoreStepAllowed floatText world action)
    : FileShowsTable floatText (world.step floatText action).2 := by
  obtain ⟨found, shows, memory, issued, all⟩ := synced
  cases action with
  | reopen =>
      simp only [StoreWorld.step, shows]
      exact ⟨found, shows, .inl rfl, issued, all⟩
  | call operation ends =>
      rcases memory with alive | dead
      · cases saves : (operation.apply found).1 with
        | false =>
            rw [step_idle alive saves]
            exact ⟨found, shows, .inl alive, issued, all⟩
        | true =>
            have permitted := allowed found alive saves
            rw [step_saves alive saves]
            exact fileShowsTable_of_saved shows issued all ends permitted
      · simp only [StoreWorld.step, dead]
        exact ⟨found, shows, .inr dead, issued, all⟩

/-- Every operation on a new path is durable exactly if every save is allowed: over every sequence of
operations with any end of each save and any new processes in between.
-/
theorem job_store_durable_iff (floatText : PyFloat → String) (actions : List StoreAction)
    : (∀ visit ∈ visits (StoreWorld.step floatText) .new actions, DurableStep visit)
      ↔ ∀ visit ∈ visits (StoreWorld.step floatText) .new actions,
          StoreStepAllowed floatText visit.before visit.call :=
  @throughout_iff _ _ _ (StoreWorld.step floatText) (FileShowsTable floatText) (fun _ _ => True)
    (StoreStepAllowed floatText) DurableStep (fun _ action synced _ => synced.durable_iff action)
    (fun _ _ synced _ allowed => synced.kept allowed) .new actions fileShowsTable_new
    (fun _ _ => trivial)

/-- A first job whose payload holds a set: the file is emptied, the write stops at the set, and the next
process cannot read the file.
-/
theorem refused_payload_cuts_file
    : ¬ ∀ visit ∈ visits (StoreWorld.step fun _ => "1.0") .new
        [.call (.submit "0a1b2c3d" "demo" (.dict [(.str "tags", .other "set()" [])]) 1 3600 3) .done,
          .reopen],
        DurableStep visit := by
  intro durable
  -- the second visit is the start of the new process
  have starts := durable _ (List.mem_cons_of_mem _ (List.mem_cons_self ..))
  cases starts

end RomaBridge.Properties
