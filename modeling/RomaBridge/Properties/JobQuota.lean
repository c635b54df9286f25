import RomaBridge.Model.QuotaGate
import RomaBridge.Behaviour.Effects

/-! The job quota over every interleaving of submits.
The gate counts in one transaction and the row is inserted in another, so the bound needs that no
two submits of a tenant are between the two at once.
-/

namespace RomaBridge.Properties

open RomaBridge.Foundation RomaBridge.Model

variable {tenantId : String}

-- Stages of a submit

def InsertsFor (tenantId : String) : GatedCall → Bool
  | .bridge ⟨_, .insertExecutionJob _ owner _ _⟩ => owner = tenantId
  | _ => false

def CountsFor (tenantId : String) : GatedCall → Bool
  | .countJobsForTenantTotal owner => owner = tenantId
  | _ => false

abbrev SubmitThread := Thread gated SubmitRequest SubmitResponse

abbrev SubmitConfig := Config gated Db SubmitRequest SubmitResponse

/-- A submit that has counted the tenant's rows and has neither inserted one nor ended. -/
def BetweenCountAndInsert (tenantId : String)
    (thread : SubmitThread) : Prop :=
  (∃ entry ∈ thread.log, CountsFor tenantId entry.1 = true ∧ entry.2 = .none)
    ∧ (∀ entry ∈ thread.log, InsertsFor tenantId entry.1 = false)
    ∧ ¬ thread.program.Finished

instance (thread : SubmitThread)
    : Decidable (BetweenCountAndInsert tenantId thread) :=
  inferInstanceAs (Decidable (_ ∧ _ ∧ _))

/-- The condition on a step: when a gate counts the tenant's rows, no submit of the tenant is
between its count and its insert.
-/
def GatesAlone (tenantId : String) (config : SubmitConfig)
    (label : Label SubmitRequest) : Prop :=
  ∀ kind query fault, config.executing label = some (kind, query, fault) →
    CountsFor tenantId query = true →
      ∀ thread ∈ config.threads, ¬ BetweenCountAndInsert tenantId thread

/-- The program may insert a row of the tenant without another count. -/
inductive MayInsert (tenantId : String) {α : Type} : Program gated α → Prop where
  | now {query next} (inserts : InsertsFor tenantId query = true)
    : MayInsert tenantId (.call query next)
  | later {query next} (counts : CountsFor tenantId query = false)
    (outcome : Except Exn (gated.Reply query)) (rest : MayInsert tenantId (next outcome))
    : MayInsert tenantId (.call query next)

def Quiet (tenantId : String) {α : Type} : Program gated α → Prop
  | .done _ => True
  | .raised _ => True
  | .call query next =>
      InsertsFor tenantId query = false ∧ CountsFor tenantId query = false
        ∧ ∀ outcome, Quiet tenantId (next outcome)

/-- The program counts before it inserts: a count that leads on to an insert was below the limit,
and after an insert nothing follows.
-/
def Staged (tenantId : String) (limit : ℤ) {α : Type} : Program gated α → Prop
  | .done _ => True
  | .raised _ => True
  | .call query next =>
      (InsertsFor tenantId query = true → ∀ outcome, Quiet tenantId (next outcome))
      ∧ (CountsFor tenantId query = true →
          (∀ exn, ¬ MayInsert tenantId (next (.error exn)))
          ∧ ∀ db : Db,
              MayInsert tenantId (next (.ok ((submitService (fun _ => none)).apply query db).1)) →
              (tenantRows db tenantId : ℤ) < limit)
      ∧ ∀ outcome, Staged tenantId limit (next outcome)

-- The stages of the source

section Stages

variable {limit : ℤ} {α β : Type}

/-- A quiet program inserts nothing, by induction on the path to an insert. -/
theorem Quiet.not_mayInsert {program : Program gated α} (quiet : Quiet tenantId program)
    : ¬ MayInsert tenantId program := by
  intro may
  induction may with
  | now inserts => simp [quiet.1] at inserts
  | later _ outcome _ ih => exact ih (quiet.2.2 outcome)

/-- A quiet program is staged, by induction on the program. -/
theorem Quiet.staged {program : Program gated α} (quiet : Quiet tenantId program)
    : Staged tenantId limit program := by
  induction program with
  | done value => trivial
  | raised exn => trivial
  | call query next ih =>
      refine ⟨fun _ => quiet.2.2, ?_, fun outcome => ih outcome (quiet.2.2 outcome)⟩
      intro counts
      simp [quiet.2.1] at counts

theorem Quiet.bind {body : Program gated α} {rest : α → Program gated β}
    (quiet : Quiet tenantId body) (later : ∀ value, Quiet tenantId (rest value))
    : Quiet tenantId (body.bind rest) := by
  induction body with
  | done value => exact later value
  | raised exn => trivial
  | call query next ih =>
      exact ⟨quiet.1, quiet.2.1, fun outcome => ih outcome (quiet.2.2 outcome)⟩

theorem Staged.bind {body : Program gated α} {rest : α → Program gated β}
    (quiet : Quiet tenantId body) (later : ∀ value, Staged tenantId limit (rest value))
    : Staged tenantId limit (body.bind rest) := by
  induction body with
  | done value => exact later value
  | raised exn => trivial
  | call query next ih =>
      refine ⟨?_, ?_, fun outcome => ih outcome (quiet.2.2 outcome)⟩
      · intro inserts
        simp [quiet.1] at inserts
      · intro counts
        simp [quiet.2.1] at counts

theorem MayInsert.of_bind {body : Program gated α} {rest : α → Program gated β}
    (quiet : Quiet tenantId body) (may : MayInsert tenantId (body.bind rest))
    : ∃ value, MayInsert tenantId (rest value) := by
  induction body with
  | done value => exact ⟨value, may⟩
  | raised exn => cases may
  | call query next ih =>
      cases may with
      | now inserts => simp [quiet.1] at inserts
      | later _ outcome rest => exact ih outcome (quiet.2.2 outcome) rest

theorem quiet_ask {site : Site} {query : Query}
    (reads : InsertsFor tenantId (.bridge ⟨site, query⟩) = false)
    : Quiet tenantId (onBridge (ask site query)) := by
  refine ⟨reads, rfl, ?_⟩
  intro outcome
  cases outcome with
  | error exn => trivial
  | ok reply => trivial

theorem onBridge_bind (body : Action α) (rest : α → Action β)
    : onBridge (body.bind rest) = (onBridge body).bind (fun value => onBridge (rest value)) := by
  induction body with
  | done value => rfl
  | raised exn => rfl
  | call query next ih =>
      simp only [Program.bind, onBridge]
      congr 1
      funext outcome
      exact ih outcome

theorem quiet_answerFrom (site : Site) (owner : String) (jobId : JobId)
    : Quiet tenantId (onBridge (answerFrom site owner jobId)) := by
  unfold answerFrom
  rw [Program.bind_eq_bind, onBridge_bind]
  refine (quiet_ask rfl).bind ?_
  intro found
  cases found with
  | none => trivial
  | some row =>
      simp only
      split <;> trivial

theorem quiet_submitReplay (owner key : String)
    : Quiet tenantId (onBridge (submitReplay owner key)) := by
  unfold submitReplay
  rw [Program.bind_eq_bind, onBridge_bind]
  refine (quiet_ask rfl).bind ?_
  intro found
  cases found with
  | none => trivial
  | some jobId => exact quiet_answerFrom _ _ _

theorem quiet_submitReserve (owner key : String) (newId : JobId)
    : Quiet tenantId (onBridge (submitReserve owner key newId)) := by
  unfold submitReserve
  rw [Program.bind_eq_bind, onBridge_bind]
  refine (quiet_ask rfl).bind ?_
  intro reserved
  cases reserved with
  | true => trivial
  | false =>
      simp only [Bool.false_eq_true, if_false]
      rw [Program.bind_eq_bind, onBridge_bind]
      refine (quiet_ask rfl).bind ?_
      intro found
      cases found with
      | none => trivial
      | some winner => exact quiet_answerFrom _ _ _

theorem staged_ask {site : Site} {query : Query} {rest : query.Reply → Program gated β}
    (after : ∀ reply, Quiet tenantId (rest reply))
    : Staged tenantId limit ((onBridge (ask site query)).bind rest) := by
  refine ⟨fun _ outcome => ?_, ?_, fun outcome => Quiet.staged ?_⟩
  · cases outcome with
    | error exn => trivial
    | ok reply => exact after reply
  · intro counts
    cases counts
  · cases outcome with
    | error exn => trivial
    | ok reply => exact after reply

theorem staged_submitInsert (request : SubmitRequest)
    : Staged tenantId limit (onBridge (submitInsert request)) := by
  unfold submitInsert
  rw [Program.bind_eq_bind, onBridge_bind]
  refine staged_ask ?_
  intro inserted
  cases inserted with
  | false => trivial
  | true =>
      simp only [Bool.not_true, Bool.false_eq_true, if_false, Program.bind_eq_bind,
        Program.pure_eq_done]
      rw [onBridge_bind]
      exact (quiet_ask rfl).bind (fun _ => trivial)

theorem quiet_submitInsert {request : SubmitRequest} (other : request.tenantId ≠ tenantId)
    : Quiet tenantId (onBridge (submitInsert request)) := by
  unfold submitInsert
  rw [Program.bind_eq_bind, onBridge_bind]
  refine (quiet_ask (by simp [InsertsFor, other])).bind ?_
  intro inserted
  cases inserted with
  | false => trivial
  | true =>
      simp only [Bool.not_true, Bool.false_eq_true, if_false, Program.bind_eq_bind,
        Program.pure_eq_done]
      rw [onBridge_bind]
      exact (quiet_ask rfl).bind (fun _ => trivial)

/-- The gate lets a submit on only when it counted fewer rows than the limit, and nothing is
inserted before it has counted.
-/
theorem staged_gateThen {rest : Program gated α} (bounded : 0 ≤ limit)
    (staged : Staged tenantId limit rest)
    : Staged tenantId limit (gateThen (some limit) tenantId rest)
      ∧ ¬ MayInsert tenantId (gateThen (some limit) tenantId rest) := by
  have counting : Staged tenantId limit
      ((Program.perform (S := gated) (.countJobsForTenantTotal tenantId)).bind
        (fun jobCount : ℕ =>
          if 0 ≤ limit ∧ limit ≤ jobCount then
            .raised (.http 402
              ("quota exceeded: " ++ toString jobCount ++ "/" ++ toString limit ++ " jobs"))
          else rest))
      ∧ ¬ MayInsert tenantId
        ((Program.perform (S := gated) (.countJobsForTenantTotal tenantId)).bind
          (fun jobCount : ℕ =>
            if 0 ≤ limit ∧ limit ≤ jobCount then
              .raised (.http 402
                ("quota exceeded: " ++ toString jobCount ++ "/" ++ toString limit ++ " jobs"))
            else rest)) := by
    refine ⟨⟨by simp [InsertsFor], ?_, ?_⟩, ?_⟩
    · intro _
      refine ⟨?_, ?_⟩
      · intro exn may
        cases may
      · intro db may
        by_contra full
        simp only [Program.bind, bounded, not_lt.mp full, and_self, if_true] at may
        cases may
    · intro outcome
      cases outcome with
      | error exn => trivial
      | ok jobCount =>
          have decided : ∀ count : ℕ, Staged tenantId limit
              (if 0 ≤ limit ∧ limit ≤ count then
                .raised (.http 402
                  ("quota exceeded: " ++ toString count ++ "/" ++ toString limit ++ " jobs"))
              else rest) := by
            intro count
            split
            · trivial
            · exact staged
          exact decided jobCount
    · intro may
      cases may with
      | now inserts => cases inserts
      | later counts => simp [CountsFor] at counts
  have quiet : Quiet tenantId (Program.perform (S := gated) (.getTenant tenantId)) := by
    refine ⟨rfl, rfl, ?_⟩
    intro outcome
    cases outcome <;> trivial
  refine ⟨Staged.bind quiet (fun _ => counting.1), ?_⟩
  intro may
  obtain ⟨_, later⟩ := MayInsert.of_bind quiet may
  exact counting.2 later

theorem quiet_gateThen {owner : String} (other : owner ≠ tenantId) {rest : Program gated α}
    (quiet : Quiet tenantId rest) (maxJobs : Option ℤ)
    : Quiet tenantId (gateThen maxJobs owner rest) := by
  refine Quiet.bind ⟨rfl, rfl, ?_⟩ ?_
  · intro outcome
    cases outcome <;> trivial
  · intro _
    cases maxJobs with
    | none => trivial
    | some maxJobs =>
        refine Quiet.bind ⟨rfl, by simp [CountsFor, other], ?_⟩ ?_
        · intro outcome
          cases outcome <;> trivial
        · intro jobCount
          split
          · trivial
          · exact quiet

def afterReplay (limits : String → Option ℤ) (request : SubmitRequest) (key : String)
    : Option SubmitResponse → Program gated SubmitResponse
  | some response => .done response
  | none =>
      gateThen (limits request.tenantId) request.tenantId
        ((onBridge (submitReserve request.tenantId key request.newId)).bind
          (fun reserved =>
            match reserved with
            | some response => .done response
            | none => onBridge (submitInsert request)))

theorem staged_gatedSubmit {limits : String → Option ℤ} (planned : limits tenantId = some limit)
    (bounded : 0 ≤ limit) (request : SubmitRequest)
    : Staged tenantId limit (gatedSubmit limits request)
      ∧ ¬ MayInsert tenantId (gatedSubmit limits request) := by
  have quietly : Quiet tenantId (gatedSubmit limits request) →
      Staged tenantId limit (gatedSubmit limits request)
        ∧ ¬ MayInsert tenantId (gatedSubmit limits request) :=
    fun quiet => ⟨quiet.staged, quiet.not_mayInsert⟩
  by_cases own : request.tenantId = tenantId
  · unfold gatedSubmit
    cases parseIdempotencyKey request.header with
    | error exn => exact ⟨trivial, fun may => by cases may⟩
    | ok header =>
        cases header with
        | none =>
            simp only [own, planned]
            exact staged_gateThen bounded (staged_submitInsert request)
        | some key =>
            have gatedPart : ∀ replayed : Option SubmitResponse,
                Staged tenantId limit (afterReplay limits request key replayed)
                  ∧ ¬ MayInsert tenantId (afterReplay limits request key replayed) := by
              intro replayed
              cases replayed with
              | some response => exact ⟨trivial, fun may => by cases may⟩
              | none =>
                  simp only [afterReplay, own, planned]
                  refine staged_gateThen bounded (Staged.bind (quiet_submitReserve _ _ _) ?_)
                  intro reserved
                  cases reserved with
                  | some response => trivial
                  | none => exact staged_submitInsert request
            refine ⟨Staged.bind (quiet_submitReplay _ _) (fun replayed => (gatedPart replayed).1),
              ?_⟩
            intro may
            obtain ⟨replayed, later⟩ := MayInsert.of_bind (quiet_submitReplay _ _) may
            exact (gatedPart replayed).2 later
  · apply quietly
    unfold gatedSubmit
    cases parseIdempotencyKey request.header with
    | error exn => trivial
    | ok header =>
        cases header with
        | none => exact quiet_gateThen own (quiet_submitInsert own) _
        | some key =>
            refine (quiet_submitReplay _ _).bind ?_
            intro replayed
            cases replayed with
            | some response => trivial
            | none =>
                refine quiet_gateThen own ((quiet_submitReserve _ _ _).bind ?_) _
                intro reserved
                cases reserved with
                | some response => trivial
                | none => exact quiet_submitInsert own

end Stages

-- The number of rows

theorem tenantRows_apply (db : Db) (site : Site) (query : Query)
    : (InsertsFor tenantId (.bridge ⟨site, query⟩) = false →
        tenantRows (db.apply query).2 tenantId = tenantRows db tenantId)
      ∧ tenantRows (db.apply query).2 tenantId ≤ tenantRows db tenantId + 1 := by
  have same : tenantRows (db.apply query).2 tenantId = tenantRows db tenantId →
      (InsertsFor tenantId (.bridge ⟨site, query⟩) = false →
        tenantRows (db.apply query).2 tenantId = tenantRows db tenantId)
      ∧ tenantRows (db.apply query).2 tenantId ≤ tenantRows db tenantId + 1 :=
    fun equal => ⟨fun _ => equal, by omega⟩
  cases query with
  | updateExecutionJob update =>
      apply same
      simp only [Db.apply, Db.updateJob]
      split
      · rfl
      · exact Table.count_update db.jobs update.selects (update.write db.clock) (fun _ => rfl)
          (fun _ => rfl)
  | claimQueuedExecutionJobs limit locked world =>
      apply same
      exact Table.count_update db.jobs _ (claimRow db.clock) (fun _ => rfl) (fun _ => rfl)
  | sweepOrphanRunningJobs timeoutSeconds =>
      apply same
      exact Table.count_update db.jobs _ (orphanRow db.clock) (fun _ => rfl) (fun _ => rfl)
  | insertExecutionJob id owner status gpuRequired =>
      simp only [Db.apply, Db.insertJob]
      cases inserted : db.jobs.insert? (db.newJob id owner status gpuRequired) with
      | none => exact ⟨fun _ => rfl, Nat.le_succ _⟩
      | some jobs =>
          have rows := (Table.insert?_eq_some inserted).1
          simp only [tenantRows, Table.count, rows, List.countP_append, List.countP_singleton,
            Db.newJob, InsertsFor, decide_eq_false_iff_not]
          refine ⟨?_, ?_⟩
          · intro other
            simp [other]
          · split <;> omega
  | _ =>
      apply same
      unfold tenantRows
      rw [db.apply_jobs_eq]
      exact fun writes => writes

theorem tenantRows_exec {limits : String → Option ℤ} (query : GatedCall) (fault : Fault) (db : Db)
    : (InsertsFor tenantId query = false →
        tenantRows ((submitService limits).exec query fault db).2 tenantId
          = tenantRows db tenantId)
      ∧ tenantRows ((submitService limits).exec query fault db).2 tenantId
          ≤ tenantRows db tenantId + 1 := by
  rcases (submitService limits).exec_store query fault db with kept | applied
  · rw [kept]
    exact ⟨fun _ => rfl, by omega⟩
  · rw [applied]
    cases query with
    | getTenant owner => exact ⟨fun _ => rfl, Nat.le_succ _⟩
    | countJobsForTenantTotal owner => exact ⟨fun _ => rfl, Nat.le_succ _⟩
    | bridge call => exact tenantRows_apply db call.site call.query

-- Every run

/-- The invariant of runs in which gates count alone: `start` rows at first, one submit at most
may insert, and only below the limit.
-/
structure QuotaKept (tenantId : String) (limit : ℤ) (start : ℕ)
    (config : SubmitConfig) : Prop where
  bounded : (tenantRows config.store tenantId : ℤ) ≤ max limit start
  staged : ∀ (index : ℕ) (thread : SubmitThread), config.threads[index]? = some thread →
    Staged tenantId limit thread.program
  pending : ∀ (index : ℕ) (thread : SubmitThread), config.threads[index]? = some thread →
    MayInsert tenantId thread.program → BetweenCountAndInsert tenantId thread
  inserted : ∀ (index : ℕ) (thread : SubmitThread), config.threads[index]? = some thread →
    (∃ entry ∈ thread.log, InsertsFor tenantId entry.1 = true) → Quiet tenantId thread.program
  single : ∀ (left right : ℕ) (first second : SubmitThread), config.threads[left]? = some first →
    config.threads[right]? = some second → MayInsert tenantId first.program →
    MayInsert tenantId second.program → left = right
  below : ∀ (index : ℕ) (thread : SubmitThread), config.threads[index]? = some thread →
    MayInsert tenantId thread.program → (tenantRows config.store tenantId : ℤ) < limit

theorem QuotaKept.replace {limit : ℤ} {start : ℕ}
    {config next : SubmitConfig}
    (kept : QuotaKept tenantId limit start config) {position : ℕ}
    {fresh : SubmitThread}
    (threads : ∀ (index : ℕ) (thread : SubmitThread), next.threads[index]? = some thread →
      index ≠ position ∧ config.threads[index]? = some thread ∨ index = position ∧ thread = fresh)
    (bounded : (tenantRows next.store tenantId : ℤ) ≤ max limit start)
    (staged : Staged tenantId limit fresh.program)
    (pending : MayInsert tenantId fresh.program → BetweenCountAndInsert tenantId fresh)
    (inserted : (∃ entry ∈ fresh.log, InsertsFor tenantId entry.1 = true) →
      Quiet tenantId fresh.program)
    (single : MayInsert tenantId fresh.program → ∀ (index : ℕ) (thread : SubmitThread), index ≠ position →
      config.threads[index]? = some thread → ¬ MayInsert tenantId thread.program)
    (freshBelow : MayInsert tenantId fresh.program →
      (tenantRows next.store tenantId : ℤ) < limit)
    (otherBelow : ∀ (index : ℕ) (thread : SubmitThread), index ≠ position → config.threads[index]? = some thread →
      MayInsert tenantId thread.program → (tenantRows next.store tenantId : ℤ) < limit)
    : QuotaKept tenantId limit start next := by
  refine ⟨bounded, ?_, ?_, ?_, ?_, ?_⟩
  · intro index thread found
    rcases threads index thread found with ⟨_, old⟩ | ⟨_, rfl⟩
    · exact kept.staged index thread old
    · exact staged
  · intro index thread found
    rcases threads index thread found with ⟨_, old⟩ | ⟨_, rfl⟩
    · exact kept.pending index thread old
    · exact pending
  · intro index thread found
    rcases threads index thread found with ⟨_, old⟩ | ⟨_, rfl⟩
    · exact kept.inserted index thread old
    · exact inserted
  · intro left right first second leftFound rightFound leftMay rightMay
    rcases threads left first leftFound with ⟨leftOther, leftOld⟩ | ⟨leftHere, rfl⟩
    · rcases threads right second rightFound with ⟨_, rightOld⟩ | ⟨_, rfl⟩
      · exact kept.single left right first second leftOld rightOld leftMay rightMay
      · exact absurd leftMay (single rightMay left first leftOther leftOld)
    · rcases threads right second rightFound with ⟨rightOther, rightOld⟩ | ⟨rightHere, rfl⟩
      · exact absurd rightMay (single leftMay right second rightOther rightOld)
      · rw [leftHere, rightHere]
  · intro index thread found
    rcases threads index thread found with ⟨other, old⟩ | ⟨_, rfl⟩
    · exact otherBelow index thread other old
    · exact freshBelow

theorem not_mayInsert_raised {α : Type} (exn : Exn)
    : ¬ MayInsert tenantId (.raised exn : Program gated α) := by
  intro may
  cases may

theorem MayInsert.unfinished {α : Type} {program : Program gated α}
    (may : MayInsert tenantId program)
    : ¬ program.Finished := by
  cases may with
  | now inserts => exact fun finished => finished
  | later counts outcome rest => exact fun finished => finished

/-- Executing a call keeps the invariant. The count is the only call that lets a submit on to its
insert, and the insert is the only call that adds a row.
-/
theorem quotaKept_exec {limits : String → Option ℤ} {limit : ℤ} {start : ℕ}
    {config next : SubmitConfig} {index : ℕ} {fault : Fault}
    (kept : QuotaKept tenantId limit start config)
    (alone : GatesAlone tenantId config (.exec index fault))
    (stepped : (submitService limits).step config (.exec index fault) = some next)
    : QuotaKept tenantId limit start next := by
  obtain ⟨kind, query, rest, log, found, store, threads⟩ :=
    (submitService limits).step_exec stepped
  have staged := kept.staged index _ found
  have mayNow := kept.below index _ found
  have quietAfterInsert := kept.inserted index _ found
  have rows := @tenantRows_exec tenantId limits query fault config.store
  rw [← store] at rows
  generalize outcomeIs : ((submitService limits).exec query fault config.store).1 = outcome
    at threads
  have positions : ∀ (position : ℕ) (thread : SubmitThread), next.threads[position]? = some thread →
      position ≠ index ∧ config.threads[position]? = some thread
        ∨ position = index
          ∧ thread = { kind, program := rest outcome, log := log ++ [(query, fault)] } := by
    intro position thread there
    have none : (submitService limits).started query outcome = [] := by
      cases outcome <;> rfl
    rw [threads, none, List.map_nil, List.append_nil] at there
    exact (getElem?_set_cases there).symm
  have before : ∀ entry ∈ log, InsertsFor tenantId entry.1 = true →
      Quiet tenantId (Program.call query rest) :=
    fun entry member inserts => quietAfterInsert ⟨entry, member, inserts⟩
  by_cases inserts : InsertsFor tenantId query = true
  · have quiet : Quiet tenantId (rest outcome) := staged.1 inserts outcome
    have room := mayNow (.now inserts)
    refine kept.replace positions ?_ (staged.2.2 outcome) ?_ (fun _ => quiet) ?_ ?_ ?_
    · have most := rows.2
      exact le_max_of_le_left (by omega)
    · exact fun may => absurd may quiet.not_mayInsert
    · exact fun may => absurd may quiet.not_mayInsert
    · exact fun may => absurd may quiet.not_mayInsert
    · intro position thread other there may
      exact absurd (kept.single position index thread _ there found may (.now inserts)) other
  · rw [Bool.not_eq_true] at inserts
    have same := rows.1 inserts
    have insertedQuiet : (∃ entry ∈ log ++ [(query, fault)],
        InsertsFor tenantId entry.1 = true) → Quiet tenantId (rest outcome) := by
      intro logged
      obtain ⟨entry, member, inserted⟩ := logged
      rcases List.mem_append.mp member with old | last
      · exact (before entry old inserted).2.2 outcome
      · obtain rfl := List.mem_singleton.mp last
        rw [inserts] at inserted
        cases inserted
    have uninserted : MayInsert tenantId (rest outcome) →
        ∀ entry ∈ log ++ [(query, fault)], InsertsFor tenantId entry.1 = false := by
      intro may entry member
      by_contra inserted
      exact (insertedQuiet ⟨entry, member, by simpa using inserted⟩).not_mayInsert may
    have otherBelow : ∀ (position : ℕ) (thread : SubmitThread), position ≠ index →
        config.threads[position]? = some thread → MayInsert tenantId thread.program →
        (tenantRows next.store tenantId : ℤ) < limit := by
      intro position thread _ there may
      rw [same]
      exact kept.below position thread there may
    have bounded : (tenantRows next.store tenantId : ℤ) ≤ max limit start := by
      rw [same]
      exact kept.bounded
    by_cases counts : CountsFor tenantId query = true
    · have nobody : ∀ (position : ℕ) (thread : SubmitThread), config.threads[position]? = some thread →
          ¬ MayInsert tenantId thread.program := by
        intro position thread there may
        exact alone kind query fault (Config.executing_exec found) counts thread
          (List.mem_of_getElem? there) (kept.pending position thread there may)
      have counted : MayInsert tenantId (rest outcome) →
          fault = .none ∧ (tenantRows config.store tenantId : ℤ) < limit := by
        intro may
        cases fault with
        | none =>
            rw [← outcomeIs] at may
            exact ⟨rfl, (staged.2.1 counts).2 config.store may⟩
        | before reason =>
            rw [← outcomeIs] at may
            exact absurd may ((staged.2.1 counts).1 _)
        | after reason =>
            rw [← outcomeIs] at may
            exact absurd may ((staged.2.1 counts).1 _)
      refine kept.replace positions bounded (staged.2.2 outcome) ?_ insertedQuiet ?_ ?_ otherBelow
      · intro may
        exact ⟨⟨(query, fault), by simp, counts, (counted may).1⟩, uninserted may,
          may.unfinished⟩
      · intro _ position thread _ there
        exact nobody position thread there
      · intro may
        rw [same]
        exact (counted may).2
    · rw [Bool.not_eq_true] at counts
      have earlier : MayInsert tenantId (rest outcome) →
          MayInsert tenantId (Program.call query rest) :=
        fun may => .later counts outcome may
      refine kept.replace positions bounded (staged.2.2 outcome) ?_ insertedQuiet ?_ ?_ otherBelow
      · intro may
        obtain ⟨⟨entry, member, counting⟩, _, _⟩ := kept.pending index _ found (earlier may)
        exact ⟨⟨entry, List.mem_append_left _ member, counting⟩, uninserted may, may.unfinished⟩
      · intro may position thread other there otherMay
        exact other (kept.single position index thread _ there found otherMay (earlier may))
      · intro may
        rw [same]
        exact mayNow (earlier may)

theorem quotaKept_step {limits : String → Option ℤ} {limit : ℤ} {start : ℕ}
    (planned : limits tenantId = some limit) (nonneg : 0 ≤ limit)
    {config next : SubmitConfig} {label : Label SubmitRequest}
    (kept : QuotaKept tenantId limit start config) (alone : GatesAlone tenantId config label)
    (stepped : (submitService limits).step config label = some next)
    : QuotaKept tenantId limit start next := by
  cases label with
  | arrive request =>
      obtain ⟨store, threads⟩ := (submitService limits).step_arrive stepped
      obtain ⟨staged, begins⟩ := staged_gatedSubmit planned nonneg request
      have positions : ∀ (index : ℕ) (thread : SubmitThread), next.threads[index]? = some thread →
          index ≠ config.threads.length ∧ config.threads[index]? = some thread
            ∨ index = config.threads.length
              ∧ thread = (submitService limits).start request := by
        intro index thread found
        rw [threads, List.getElem?_append] at found
        split at found
        · rename_i inside
          exact Or.inl ⟨by omega, found⟩
        · rename_i outside
          rw [List.getElem?_singleton] at found
          split at found
          · exact Or.inr ⟨by omega, (Option.some.inj found).symm⟩
          · cases found
      refine kept.replace positions ?_ staged ?_ ?_ ?_ ?_ ?_
      · rw [store]
        exact kept.bounded
      · exact fun may => absurd may begins
      · intro logged
        obtain ⟨_, member, _⟩ := logged
        cases member
      · exact fun may => absurd may begins
      · exact fun may => absurd may begins
      · intro index thread _ found may
        rw [store]
        exact kept.below index thread found may
  | crash index =>
      obtain ⟨crashed, found, store, threads⟩ := (submitService limits).step_crash stepped
      have ended : ¬ MayInsert tenantId (.raised Exn.killed : Program gated SubmitResponse) :=
        not_mayInsert_raised _
      have positions : ∀ (position : ℕ) (thread : SubmitThread), next.threads[position]? = some thread →
          position ≠ index ∧ config.threads[position]? = some thread
            ∨ position = index ∧ thread = { crashed with program := .raised .killed } := by
        intro position thread there
        rw [threads] at there
        exact (getElem?_set_cases there).symm
      refine kept.replace positions ?_ trivial ?_ ?_ ?_ ?_ ?_
      · rw [store]
        exact kept.bounded
      · exact fun may => absurd may ended
      · exact fun _ => trivial
      · exact fun may => absurd may ended
      · exact fun may => absurd may ended
      · intro position thread _ there may
        rw [store]
        exact kept.below position thread there may
  | exec index fault => exact quotaKept_exec kept alone stepped

/-- For every tenant whose plan allows `limit` jobs and every interleaving of submits, faults and
crashes: as long as no gate counts the tenant's rows while another submit of the tenant is between
its count and its insert, no more than `limit` rows of the tenant are created.
-/
theorem job_quota_kept (limits : String → Option ℤ) (tenantId : String) (limit : ℤ)
    (planned : limits tenantId = some limit) (nonneg : 0 ≤ limit) (db : Db)
    (config : SubmitConfig)
    (reached : (submitService limits).Reaches (GatesAlone tenantId)
      { store := db, threads := [] } config)
    : (tenantRows config.store tenantId : ℤ) - tenantRows db tenantId ≤ limit := by
  have initial : QuotaKept tenantId limit (tenantRows db tenantId)
      { store := db, threads := [] } := by
    refine ⟨le_max_right _ _, ?_, ?_, ?_, ?_, ?_⟩ <;> simp
  have kept := reached.invariant initial
    (fun _ _ _ holds alone stepped => quotaKept_step planned nonneg holds alone stepped)
  have bounded := kept.bounded
  omega

/-- The condition on a step, as a check. -/
def gatesAlone (tenantId : String) (config : SubmitConfig) (label : Label SubmitRequest) : Bool :=
  match config.executing label with
  | some (_, query, _) =>
      ! CountsFor tenantId query
        || config.threads.all (fun thread => ! decide (BetweenCountAndInsert tenantId thread))
  | none => true

theorem gatesAlone_sound (config : SubmitConfig) (label : Label SubmitRequest)
    (checked : gatesAlone tenantId config label = true)
    : GatesAlone tenantId config label := by
  intro kind query fault executing counts thread member between
  simp only [gatesAlone, executing, counts, Bool.not_true, Bool.false_or, List.all_eq_true,
    Bool.not_eq_true', decide_eq_false_iff_not] at checked
  exact checked thread member between

/-- A submit of tenant `t` that will draw the given id. -/
def quotaSubmit (newId : JobId) : SubmitRequest where
  tenantId := "t"
  header := none
  gpuRequired := false
  backend := none
  decision := .ok ()
  newId

/-- Two submits one after the other under a plan of one job: the second one is refused. -/
theorem sequential_submits_within_quota
    : ∃ config, (submitService (fun _ => some 1)).Reaches (GatesAlone "t")
        { store := Db.empty, threads := [] } config
      ∧ (tenantRows config.store "t" : ℤ) - tenantRows Db.empty "t" ≤ 1 := by
  have ran : ((submitService (fun _ => some 1)).run (gatesAlone "t")
      { store := Db.empty, threads := [] }
      [.arrive (quotaSubmit ⟨"1", by decide⟩), .exec 0 .none, .exec 0 .none, .exec 0 .none,
        .arrive (quotaSubmit ⟨"2", by decide⟩), .exec 1 .none, .exec 1 .none]).any
      (fun config => tenantRows config.store "t" = 1) = true := by
    decide +kernel
  obtain ⟨config, reached, _⟩ :=
    Machine.Reaches.of_check (fun config label => gatesAlone_sound config label) _ ran
  exact ⟨config, reached,
    job_quota_kept (fun _ => some 1) "t" 1 rfl (by decide) Db.empty config reached⟩

/-- Two submits that both count before either inserts create two rows under a plan of one. -/
theorem concurrent_submits_exceed_quota
    : ∃ config, (submitService (fun _ => some 1)).Reaches (fun _ _ => True)
        { store := Db.empty, threads := [] } config
      ∧ ¬ (tenantRows config.store "t" : ℤ) - tenantRows Db.empty "t" ≤ 1 := by
  have ran : ((submitService (fun _ => some 1)).run (fun _ _ => true)
      { store := Db.empty, threads := [] }
      [.arrive (quotaSubmit ⟨"1", by decide⟩), .arrive (quotaSubmit ⟨"2", by decide⟩),
        .exec 0 .none, .exec 1 .none, .exec 0 .none, .exec 1 .none, .exec 0 .none,
        .exec 1 .none]).any
      (fun config => tenantRows config.store "t" = 2) = true := by
    decide +kernel
  obtain ⟨config, reached, counted⟩ :=
    Machine.Reaches.of_check (fun _ _ _ => trivial) _ ran
  refine ⟨config, reached, ?_⟩
  have none : tenantRows Db.empty "t" = 0 := rfl
  rw [of_decide_eq_true counted, none]
  decide

end RomaBridge.Properties
