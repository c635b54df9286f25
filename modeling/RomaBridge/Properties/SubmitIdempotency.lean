import RomaBridge.Behaviour.ThreadCalls
import RomaBridge.Foundation.Triples

/-! When an `Idempotency-Key` creates at most one job.
The key names the job of the request that reserved it. A request that lost the race answers
with that job if its row is there and inserts a job of its own otherwise, so the guarantee
holds exactly as long as every loser finds the winner's row.
-/

namespace RomaBridge.Properties

open RomaBridge.Foundation RomaBridge.Model Program

variable {jobId : JobId} {config : Config bridge Db Kind Answer}

-- Requests and the jobs inserted for them

def newId? : Kind → Option JobId
  | .submitTask request => some request.newId
  | .createDecisionJob _ _ newId => some newId
  | _ => none

def carries (tenantId key : String) (request : SubmitRequest) : Bool :=
  request.tenantId = tenantId && parseIdempotencyKey request.header = .ok (some key)

def insertedFor (tenantId key : String) (config : Config bridge Db Kind Answer) : List JobId :=
  config.threads.filterMap (fun thread =>
    match thread.kind with
    | .submitTask request =>
        if carries tenantId key request && (config.store.job? request.newId).isSome then
          some request.newId
        else
          none
    | _ => none)

/-- Uuids do not repeat: an arriving thread brings one that no earlier thread has. -/
def freshId (config : Config bridge Db Kind Answer) : Label Kind → Bool
  | .arrive kind =>
      config.threads.all (fun thread =>
        newId? kind = none || newId? thread.kind ≠ newId? kind)
  | _ => true

def winnerStored (tenantId key : String) (db : Db) : Kind → Call → Fault → Bool
  | .submitTask request, ⟨.submitWinnerRead, .getExecutionJob jobId⟩, .none =>
      !carries tenantId key request
      || (db.job? jobId).any (fun row => row.tenantId = tenantId)
  | _, _, _ => true

/-- The steps of a run with fresh uuids in which losers of the key find the winner's row. -/
def Orderly (tenantId key : String) (config : Config bridge Db Kind Answer) (label : Label Kind)
    : Prop :=
  freshId config label = true
  ∧ config.Permits (fun db kind call fault => winnerStored tenantId key db kind call fault = true)
      label

instance (tenantId key : String) (config : Config bridge Db Kind Answer) (label : Label Kind)
    : Decidable (Orderly tenantId key config label) :=
  inferInstanceAs (Decidable (_ ∧ _))

def Holder (tenantId key : String) (jobId : JobId) (db : Db) : Prop :=
  ∃ row, db.submitKeys.find? (tenantId, key) = some row ∧ row.jobId = jobId

/-- Of the jobs that requests of the key may insert, only the holder of the key is stored. -/
structure Reserved (mine : JobId → Prop) (tenantId key : String) (db : Db) : Prop where
  owner : ∀ jobId, Holder tenantId key jobId db → mine jobId
  inserted
    : ∀ jobId, mine jobId → (db.job? jobId).isSome → Holder tenantId key jobId db

section Reservation

variable {tenantId key : String} {mine : JobId → Prop} {db : Db}

theorem Holder.apply (holder : Holder tenantId key jobId db) (query : Query)
    : Holder tenantId key jobId (db.apply query).2 := by
  obtain ⟨row, found, same⟩ := holder
  rcases db.apply_submitKey query (tenantId, key) with kept | ⟨_, _, free, _⟩
  · exact ⟨row, kept.trans found, same⟩
  · rw [found] at free
    cases free

theorem Reserved.apply (reserved : Reserved mine tenantId key db) {query : Query}
    (inserts
      : ∀ jobId owner status gpuRequired,
          query = .insertExecutionJob jobId owner status gpuRequired
          → mine jobId
          → Holder tenantId key jobId db)
    (reserves : ∀ jobId, query = .createJobIdempotency tenantId key jobId → mine jobId)
    : Reserved mine tenantId key (db.apply query).2 := by
  refine ⟨?_, ?_⟩
  · rintro jobId ⟨row, found, same⟩
    rcases db.apply_submitKey query (tenantId, key) with kept | ⟨owner, issued, _, stored⟩
    · exact reserved.owner jobId ⟨row, kept.symm.trans found, same⟩
    · cases stored.symm.trans found
      exact same ▸ reserves owner issued
  · intro jobId member stored
    refine Holder.apply ?_ query
    have change := db.apply_job? query jobId
    generalize (db.apply query).2.job? jobId = after at change stored
    cases change with
    | same => exact reserved.inserted jobId member stored
    | update found => exact reserved.inserted jobId member (by simp [found])
    | claim found => exact reserved.inserted jobId member (by simp [found])
    | orphan found => exact reserved.inserted jobId member (by simp [found])
    | insert => exact inserts jobId _ _ _ rfl member

end Reservation

-- The contract of every thread

/-- Reserved keys keep their holder and jobs keep their tenant; a request of the key finds the
winner's row whenever it looks for it.
-/
def submitContract (mine : JobId → Prop) (tenantId key : String) (kind : Kind)
    : Contract bridge Db Kind where
  inv := Reserved mine tenantId key
  rely before after :=
    (∀ jobId, Holder tenantId key jobId before → Holder tenantId key jobId after)
    ∧ ∀ jobId, OwnedBy tenantId jobId before → OwnedBy tenantId jobId after
  guarantee before _ _ after :=
    (∀ jobId, Holder tenantId key jobId before → Holder tenantId key jobId after)
    ∧ ∀ jobId, OwnedBy tenantId jobId before → OwnedBy tenantId jobId after
  allowed db call fault := winnerStored tenantId key db kind call fault = true
  admits started := newId? started = none

section Contract

variable {tenantId key : String} {mine : JobId → Prop} {kind : Kind}

theorem submitContract_composes : (submitContract mine tenantId key kind).Composes where
  refl _ := ⟨fun _ holder => holder, fun _ owned => owned⟩
  trans left right :=
    ⟨fun jobId holder => right.1 jobId (left.1 jobId holder),
      fun jobId owned => right.2 jobId (left.2 jobId owned)⟩

theorem submitContract_keeps {db : Db} {call : Call} {fault : Fault}
    (reserved : Reserved mine tenantId key db)
    (applied : Reserved mine tenantId key (db.apply call.query).2)
    : (submitContract mine tenantId key kind).Keeps service db call fault := by
  have admitted : ∀ started ∈ service.started call (service.exec call fault db).1,
      newId? started = none := by
    intro started member
    obtain ⟨_, _, _, rfl⟩ := service_started member
    rfl
  exact .of_apply ⟨reserved, fun _ holder => holder, fun _ owned => owned⟩
    ⟨applied, fun _ holder => holder.apply _, fun _ owned => owned.apply _⟩ admitted

theorem holder_stable (jobId : JobId)
    : (submitContract mine tenantId key kind).Stable (Holder tenantId key jobId) :=
  fun _ _ moved _ holder => moved.1 jobId holder

def Answers (tenantId key : String) (jobId : JobId) (db : Db) : Prop :=
  Holder tenantId key jobId db ∧ OwnedBy tenantId jobId db

theorem answers_stable (jobId : JobId)
    : (submitContract mine tenantId key kind).Stable (Answers tenantId key jobId) :=
  fun _ _ moved _ answers => ⟨moved.1 jobId answers.1, moved.2 jobId answers.2⟩

theorem ask_triple {site : Site} {query : Query} {pre : Db → Prop}
    {returns : query.Reply → Db → Prop}
    (stable : (submitContract mine tenantId key kind).Stable pre)
    (stableReturns
      : ∀ reply, (submitContract mine tenantId key kind).Stable (returns reply))
    (keeps
      : ∀ db,
          Reserved mine tenantId key db
          → pre db
          → Reserved mine tenantId key (db.apply query).2)
    (returned
      : ∀ db,
          pre db
          → winnerStored tenantId key db kind ⟨site, query⟩ .none = true
          → returns (db.apply query).1 (db.apply query).2)
    : Triple service (submitContract mine tenantId key kind) pre (ask site query) returns
        (fun _ _ => True) :=
  Triple.perform stable stableReturns (fun _ _ _ _ _ _ => trivial)
    (fun db _ reserved holds _ => submitContract_keeps reserved (keeps db reserved holds))
    (fun db _ holds allowed => returned db holds allowed)
    (fun _ _ _ _ _ _ _ => trivial)

end Contract

-- A request of the key

section Request

variable {key : String} {mine : JobId → Prop} {request : SubmitRequest}

/-- What an answer taken from a stored row proves; `none` is no answer. -/
def Answered (tenantId key : String) (answer : Option SubmitResponse) (db : Db) : Prop :=
  ∀ response, answer = some response → Answers tenantId key response.jobId db

theorem answered_stable {tenantId : String} {kind : Kind} (answer : Option SubmitResponse)
    : (submitContract mine tenantId key kind).Stable (Answered tenantId key answer) :=
  fun _ _ moved inv answered response same => answers_stable _ moved inv (answered response same)

theorem answerFrom_triple (carried : carries request.tenantId key request = true) (site : Site)
    (jobId : JobId)
    : Triple service (submitContract mine request.tenantId key (.submitTask request))
        (Holder request.tenantId key jobId) (answerFrom site request.tenantId jobId)
        (fun answer db =>
          Answered request.tenantId key answer db
          ∧ (site = .submitWinnerRead → answer ≠ none))
        (fun _ _ => True) := by
  let Read : Option JobRow → Db → Prop := fun found db =>
    (∀ row, found = some row → row.tenantId = request.tenantId
      → Answers request.tenantId key jobId db)
    ∧ (site = .submitWinnerRead → ∃ row, found = some row ∧ row.tenantId = request.tenantId)
  have stable : ∀ found,
      (submitContract mine request.tenantId key (.submitTask request)).Stable (Read found) :=
    fun found _ _ moved inv holds =>
      ⟨fun row same own => answers_stable _ moved inv (holds.1 row same own), holds.2⟩
  refine Triple.bind submitContract_composes Read
    (ask_triple (holder_stable jobId) stable (fun db reserved _ => reserved) ?_) ?_
  · intro db holder allowed
    refine ⟨fun row found own => ⟨holder, row, found, own⟩, ?_⟩
    rintro rfl
    simp only [winnerStored, carried, Bool.not_true, Bool.false_or, Option.any_eq_true]
      at allowed
    obtain ⟨row, found, own⟩ := allowed
    exact ⟨row, found, by simpa using own⟩
  · rintro (_ | row)
    · refine Triple.done (stable none) ?_
      rintro db - ⟨_, winner⟩
      refine ⟨fun response same => (by cases same), fun sited => ?_⟩
      obtain ⟨row, absurdity, _⟩ := winner sited
      cases absurdity
    · dsimp only
      split
      · rename_i own
        refine Triple.done (stable (some row)) ?_
        rintro db - ⟨answers, _⟩
        refine ⟨?_, by simp⟩
        intro response same
        cases same
        exact answers row rfl own
      · rename_i foreign
        refine Triple.done (stable (some row)) ?_
        rintro db - ⟨_, winner⟩
        refine ⟨fun response same => (by cases same), fun sited => ?_⟩
        obtain ⟨other, same, own⟩ := winner sited
        cases same
        exact absurd own foreign

theorem submitReplay_triple (carried : carries request.tenantId key request = true)
    : Triple service (submitContract mine request.tenantId key (.submitTask request))
        (fun _ => True) (submitReplay request.tenantId key)
        (Answered request.tenantId key) (fun _ _ => True) := by
  let Found : Option JobId → Db → Prop := fun found db =>
    ∀ jobId, found = some jobId → Holder request.tenantId key jobId db
  have stable : ∀ found,
      (submitContract mine request.tenantId key (.submitTask request)).Stable (Found found) :=
    fun found _ _ moved inv holds jobId same => holder_stable jobId moved inv (holds jobId same)
  refine Triple.bind submitContract_composes Found
    (ask_triple (fun _ _ _ _ _ => trivial) stable (fun db reserved _ => reserved) ?_) ?_
  · intro db _ _ jobId same
    obtain ⟨row, found, owner⟩ := Option.map_eq_some_iff.mp same
    exact ⟨row, found, owner⟩
  · rintro (_ | jobId)
    · exact Triple.done (stable none) (fun _ _ _ response same => by cases same)
    · exact ((answerFrom_triple carried _ jobId).strengthen
        (fun db _ holds => holds jobId rfl)).weaken (fun _ _ _ holds => holds.1)
        (fun _ _ _ _ => trivial)

theorem submitReserve_triple (carried : carries request.tenantId key request = true)
    (own : mine request.newId)
    : Triple service (submitContract mine request.tenantId key (.submitTask request))
        (fun _ => True) (submitReserve request.tenantId key request.newId)
        (fun answer db =>
          Answered request.tenantId key answer db
          ∧ (answer = none → Holder request.tenantId key request.newId db))
        (fun _ _ => True) := by
  let Tried : Bool → Db → Prop := fun reserved db =>
    ∃ jobId, Holder request.tenantId key jobId db ∧ (reserved = true → jobId = request.newId)
  have stable : ∀ reserved,
      (submitContract mine request.tenantId key (.submitTask request)).Stable (Tried reserved) := by
    rintro reserved before after moved inv ⟨jobId, holder, same⟩
    exact ⟨jobId, holder_stable jobId moved inv holder, same⟩
  refine Triple.bind submitContract_composes Tried
    (ask_triple (fun _ _ _ _ _ => trivial) stable ?_ ?_) ?_
  · intro db reserved _
    refine reserved.apply (by simp) ?_
    intro jobId same
    cases same
    exact own
  · intro db _ _
    simp only [Db.apply, Db.reserveKey]
    split
    · rename_i inserted
      exact ⟨request.newId, ⟨_, (Table.find?_of_insert? inserted _).trans (if_pos rfl), rfl⟩,
        fun _ => rfl⟩
    · rename_i taken
      obtain ⟨row, found⟩ := Option.isSome_iff_exists.mp (Table.insert?_eq_none.mp taken)
      exact ⟨row.jobId, ⟨row, found, rfl⟩, by simp⟩
  · intro reserved
    cases reserved with
    | true =>
        refine Triple.done (stable true) ?_
        rintro db - ⟨jobId, holder, same⟩
        exact ⟨fun response absurdity => (by cases absurdity), fun _ => same rfl ▸ holder⟩
    | false =>
        let Found : Option JobId → Db → Prop := fun found db =>
          ∃ jobId, found = some jobId ∧ Holder request.tenantId key jobId db
        have stableFound : ∀ found,
            (submitContract mine request.tenantId key (.submitTask request)).Stable
              (Found found) := by
          rintro found before after moved inv ⟨jobId, same, holder⟩
          exact ⟨jobId, same, holder_stable jobId moved inv holder⟩
        refine Triple.bind submitContract_composes Found
          (ask_triple (stable false) stableFound (fun db reserved _ => reserved) ?_) ?_
        · rintro db ⟨jobId, ⟨row, found, owner⟩, _⟩ _
          exact ⟨jobId, by simp [Db.apply, found, owner], row, found, owner⟩
        · rintro (_ | winner)
          · rintro db inv ⟨jobId, absurdity, _⟩
            cases absurdity
          · refine ((answerFrom_triple carried .submitWinnerRead winner).strengthen ?_).weaken
              ?_ (fun _ _ _ _ => trivial)
            · rintro db - ⟨jobId, same, holder⟩
              cases same
              exact holder
            · exact fun answer db _ holds =>
                ⟨holds.1, fun unanswered => absurd unanswered (holds.2 rfl)⟩

theorem submitInsert_triple
    : Triple service (submitContract mine request.tenantId key (.submitTask request))
        (Holder request.tenantId key request.newId) (submitInsert request)
        (fun response db => Answers request.tenantId key response.jobId db)
        (fun _ _ => True) := by
  let Inserted : Bool → Db → Prop := fun inserted db =>
    Holder request.tenantId key request.newId db
    ∧ (inserted = true → OwnedBy request.tenantId request.newId db)
  have stable : ∀ inserted,
      (submitContract mine request.tenantId key (.submitTask request)).Stable
        (Inserted inserted) :=
    fun inserted _ _ moved inv holds =>
      ⟨holder_stable _ moved inv holds.1, fun done => moved.2 _ (holds.2 done)⟩
  refine Triple.bind submitContract_composes Inserted
    (ask_triple (holder_stable _) stable ?_ ?_) ?_
  · intro db reserved holder
    refine reserved.apply ?_ (by simp)
    rintro jobId owner status gpuRequired same _
    cases same
    exact holder
  · intro db holder _
    refine ⟨holder.apply _, ?_⟩
    simp only [Db.apply, Db.insertJob]
    split
    · rename_i inserted
      exact fun _ => ⟨_, (Table.find?_of_insert? inserted _).trans (if_pos rfl), rfl⟩
    · exact fun absurdity => by cases absurdity
  · intro inserted
    cases inserted with
    | false => exact Triple.raised (stable false) (fun _ _ _ => trivial)
    | true =>
        refine Triple.bind submitContract_composes
          (fun _ => Answers request.tenantId key request.newId)
          (ask_triple (stable true) (fun _ => answers_stable _) ?_ ?_) ?_
        · exact fun db reserved _ => reserved.apply (by simp) (by simp)
        · exact fun db holds _ => ⟨holds.1.apply _, (holds.2 rfl).apply _⟩
        · exact fun _ => Triple.done (answers_stable _) (fun _ _ answers => answers)

theorem submitTask_triple (carried : carries request.tenantId key request = true)
    (own : mine request.newId)
    : Triple service (submitContract mine request.tenantId key (.submitTask request))
        (fun _ => True) (submitTask request)
        (fun response db => Answers request.tenantId key response.jobId db)
        (fun _ _ => True) := by
  have parsed : parseIdempotencyKey request.header = .ok (some key) := by
    simpa [carries] using carried
  rw [submitTask, parsed]
  change Triple _ _ _ ((submitReplay request.tenantId key).bind _) _ _
  refine Triple.bind submitContract_composes _ (submitReplay_triple carried) ?_
  rintro (_ | response)
  · refine Triple.bind submitContract_composes (fun _ _ => True) ?_ ?_
    · refine Closed.guardHttp (Triple.closed submitContract_composes) _ _ |>.strengthen ?_
      exact fun _ _ _ => trivial
    · intro _
      refine Triple.bind submitContract_composes _ (submitReserve_triple carried own) ?_
      rintro (_ | response)
      · exact submitInsert_triple.strengthen (fun _ _ holds => holds.2 rfl)
      · refine Triple.strengthen (Triple.done (answered_stable (some response)) ?_)
          (fun _ _ holds => holds.1)
        exact fun _ _ holds => holds response rfl
  · exact Triple.done (answered_stable _) (fun _ _ holds => holds response rfl)

end Request

-- The whole service

theorem kindCall_insert {kind : Kind} {site : Site} {tenantId : String} {status : JobStatus}
    {gpuRequired : Bool}
    (issued : KindCall kind ⟨site, .insertExecutionJob jobId tenantId status gpuRequired⟩)
    : newId? kind = some jobId := by
  cases kindCall_issuedBy issued with
  | submit => rfl
  | decision => rfl

theorem kindCall_reserve {kind : Kind} {site : Site} {tenantId key : String}
    (issued : KindCall kind ⟨site, .createJobIdempotency tenantId key jobId⟩)
    : ∃ request,
        kind = .submitTask request
        ∧ carries tenantId key request = true
        ∧ jobId = request.newId := by
  cases kindCall_issuedBy issued with
  | reserve parsed => exact ⟨_, rfl, by simp [carries, parsed], rfl⟩

section Service

variable {tenantId key : String} {mine : JobId → Prop}

/-- The thread is a request of the key that may insert its uuid, or it never inserts any of
the requests' uuids.
-/
def Admitted (mine : JobId → Prop) (tenantId key : String) (kind : Kind) : Prop :=
  (∃ request, kind = .submitTask request ∧ carries tenantId key request = true ∧ mine request.newId)
  ∨ (∀ request, kind = .submitTask request → carries tenantId key request = false)
    ∧ ∀ jobId, newId? kind = some jobId → ¬mine jobId

def submitDiscipline (mine : JobId → Prop) (tenantId key : String)
    : Machine.Discipline bridge Db Kind Answer where
  contract kind := submitContract mine tenantId key kind
  returns kind answer db :=
    ∀ request response,
      kind = .submitTask request
      → carries tenantId key request = true
      → answer = .submitted response
      → Answers tenantId key response.jobId db
  raises _ _ _ := True

theorem submitDiscipline_sound
    : (submitDiscipline mine tenantId key).Sound (Reserved mine tenantId key)
        (fun _ _ => True) where
  composes _ := submitContract_composes
  shared _ := rfl
  tolerates _ _ _ moved := moved
  joins _ _ := ⟨trivial, trivial⟩

/-- Every admitted thread keeps the contract from every store of the invariant. -/
theorem submitDiscipline_obeys {kind : Kind} (admitted : Admitted mine tenantId key kind)
    (db : Db) (reserved : Reserved mine tenantId key db)
    : (submitDiscipline mine tenantId key).Obeys service (service.start kind) db := by
  rcases admitted with ⟨request, rfl, carried, own⟩ | ⟨other, foreign⟩
  · have same : request.tenantId = tenantId := by
      simp only [carries, Bool.and_eq_true, decide_eq_true_eq] at carried
      exact carried.1
    subst same
    have triple : Triple service (submitContract mine request.tenantId key (.submitTask request))
        (fun _ => True) (bodyOf (.submitTask request))
        ((submitDiscipline mine request.tenantId key).returns (.submitTask request))
        (fun _ _ => True) := by
      refine Triple.bind submitContract_composes _ (submitTask_triple carried own) ?_
      intro response
      refine Triple.done (answers_stable _) ?_
      rintro db - answers request' response' - - same
      cases same
      exact answers
    exact triple db reserved trivial
  · have triple : Triple service (submitContract mine tenantId key kind) (fun _ => True)
        (bodyOf kind) (fun _ _ => True) (fun _ _ => True) := by
      refine Triple.of_issues (bodyOf_issues kind) (fun _ _ _ _ _ => trivial) ?_
      rintro ⟨site, query⟩ db fault issued reserved - -
      refine ⟨submitContract_keeps reserved (reserved.apply ?_ ?_), trivial⟩
      · rintro jobId owner status gpuRequired rfl member
        exact absurd member (foreign jobId (kindCall_insert issued))
      · rintro jobId rfl
        obtain ⟨request, same, carried, _⟩ := kindCall_reserve issued
        rw [other request same] at carried
        cases carried
    refine (triple db reserved trivial).mono ?_ (fun _ _ _ _ => trivial)
    intro answer later _ _ request response same carried
    rw [other request same] at carried
    cases carried

/-- Uuids of the threads of a run do not repeat, by induction on the run. -/
theorem freshIds {ok : Config bridge Db Kind Answer → Label Kind → Prop} {db : Db}
    (fresh : ∀ config label, ok config label → freshId config label = true)
    (reached : service.Reaches ok (idle db) config)
    : (config.threads.map Thread.kind).Pairwise
        (fun left right => newId? right = none ∨ newId? left ≠ newId? right) := by
  induction reached with
  | refl => simp [idle]
  | @step config next label _ allowed stepped distinct =>
      cases label with
      | arrive kind =>
          rw [(service.step_arrive stepped).2, List.map_append, List.pairwise_append]
          refine ⟨distinct, by simp, ?_⟩
          intro left member right last
          obtain ⟨thread, inThreads, rfl⟩ := List.mem_map.mp member
          simp only [List.map_cons, List.map_nil, List.mem_singleton] at last
          have apart := List.all_eq_true.mp (fresh config _ allowed) thread inThreads
          simpa [last, Machine.start] using apart
      | exec index fault =>
          obtain ⟨kind, call, rest, log, found, _, threads⟩ := service.step_exec stepped
          rw [threads, List.map_append, Machine.kinds_set found, List.pairwise_append]
          have executor : ∀ started ∈ ((service.started call
              (service.exec call fault config.store).1).map service.start).map Thread.kind,
              newId? started = none := by
            intro started member
            obtain ⟨thread, inThreads, rfl⟩ := List.mem_map.mp member
            obtain ⟨kind, inStarted, rfl⟩ := List.mem_map.mp inThreads
            obtain ⟨_, _, _, rfl⟩ := service_started inStarted
            rfl
          refine ⟨distinct, ?_, ?_⟩
          · exact List.pairwise_of_forall_mem_list
              (fun _ _ right member => Or.inl (executor right member))
          · exact fun _ _ right member => Or.inl (executor right member)
      | crash index =>
          obtain ⟨crashed, found, _, threads⟩ := service.step_crash stepped
          rw [threads, Machine.kinds_set found]
          exact distinct

def requestedIds (tenantId key : String) (config : Config bridge Db Kind Answer) (jobId : JobId)
    : Prop :=
  ∃ request,
    Kind.submitTask request ∈ config.threads.map Thread.kind
    ∧ carries tenantId key request = true
    ∧ request.newId = jobId

theorem admitted_of_fresh (tenantId key : String)
    (distinct
      : (config.threads.map Thread.kind).Pairwise
          (fun left right => newId? right = none ∨ newId? left ≠ newId? right))
    : ∀ kind ∈ config.threads.map Thread.kind,
        Admitted (requestedIds tenantId key config) tenantId key kind := by
  intro kind member
  by_cases asks : ∃ request, kind = .submitTask request ∧ carries tenantId key request = true
  · obtain ⟨request, rfl, carried⟩ := asks
    exact Or.inl ⟨request, rfl, carried, request, member, carried, rfl⟩
  · have other : ∀ request, kind = .submitTask request → carries tenantId key request = false :=
      fun request same => Bool.eq_false_of_not_eq_true (fun carried => asks ⟨request, same, carried⟩)
    refine Or.inr ⟨other, ?_⟩
    rintro jobId named ⟨request, inKinds, carried, rfl⟩
    have apart : (config.threads.map Thread.kind).Pairwise
        (fun left right => ∀ jobId, newId? left = some jobId → newId? right ≠ some jobId) := by
      refine distinct.imp ?_
      rintro left right (none | differs) id atLeft atRight
      · rw [none] at atRight
        cases atRight
      · exact differs (atLeft.trans atRight.symm)
    have symmetric : Std.Symm (fun left right : Kind =>
        ∀ jobId, newId? left = some jobId → newId? right ≠ some jobId) :=
      ⟨fun left right differs id atRight atLeft => differs id atLeft atRight⟩
    refine apart.forall member inKinds ?_ request.newId named rfl
    rintro rfl
    rw [other request rfl] at carried
    cases carried

theorem mem_insertedFor
    : jobId ∈ insertedFor tenantId key config
      ↔ requestedIds tenantId key config jobId ∧ (config.store.job? jobId).isSome := by
  simp only [insertedFor, List.mem_filterMap, requestedIds, List.mem_map]
  constructor
  · rintro ⟨thread, member, inserted⟩
    split at inserted
    · rename_i request kind
      split at inserted
      · rename_i facts
        simp only [Bool.and_eq_true] at facts
        cases inserted
        exact ⟨⟨request, ⟨thread, member, kind⟩, facts.1, rfl⟩, facts.2⟩
      · cases inserted
    · cases inserted
  · rintro ⟨⟨request, ⟨thread, member, kind⟩, carried, rfl⟩, stored⟩
    exact ⟨thread, member, by simp [kind, carried, stored]⟩

/-- Fresh uuids are inserted for one request each. -/
theorem insertedFor_nodup
    (distinct
      : (config.threads.map Thread.kind).Pairwise
          (fun left right => newId? right = none ∨ newId? left ≠ newId? right))
    : (insertedFor tenantId key config).Nodup := by
  have named : ∀ {thread : Thread bridge Kind Answer} {jobId : JobId},
      (match thread.kind with
        | .submitTask request =>
            if carries tenantId key request && (config.store.job? request.newId).isSome then
              some request.newId
            else
              none
        | _ => none) = some jobId
      → newId? thread.kind = some jobId := by
    intro thread jobId inserted
    split at inserted
    · rename_i request kind
      rw [kind]
      split at inserted
      · exact inserted
      · cases inserted
    · cases inserted
  refine List.Pairwise.filterMap _ ?_ (List.pairwise_map.mp distinct)
  rintro left right (none | differs) first atLeft second atRight
  · have known := named atRight
    rw [none] at known
    cases known
  · rintro rfl
    exact differs ((named atLeft).trans (named atRight).symm)

/-- In every run with fresh uuids in which each request of the key that lost the race finds
the winner's row, at most one job is inserted for the key, and every request that returns
names that job.
-/
theorem submit_idempotent {config : Config bridge Db Kind Answer}
    (reached : service.Reaches (Orderly tenantId key) (idle Db.empty) config)
    : (insertedFor tenantId key config).length ≤ 1
      ∧ ∀ thread ∈ config.threads,
          ∀ request response,
            thread.kind = .submitTask request
            → carries tenantId key request = true
            → thread.program = .done (.submitted response)
            → insertedFor tenantId key config = [response.jobId] := by
  have distinct := freshIds (fun _ _ allowed => allowed.1) reached
  have holds : (submitDiscipline (requestedIds tenantId key config) tenantId key).Holds service
      (Reserved (requestedIds tenantId key config) tenantId key) (fun _ _ => True) config := by
    have admitted := admitted_of_fresh tenantId key distinct
    refine (reached.arrivals admitted).obeys submitDiscipline_sound ?_ ?_ ?_ ?_ ?_
    · exact fun _ kind allowed =>
        ⟨fun _ _ => ⟨trivial, trivial⟩, submitDiscipline_obeys (allowed.2 kind rfl)⟩
    · intro acting kind executor
      refine submitDiscipline_obeys (Or.inr ⟨?_, ?_⟩)
      · rintro request rfl
        cases executor
      · intro jobId named
        rw [show newId? kind = none from executor] at named
        cases named
    · exact fun config index fault kind call rest log allowed found =>
        allowed.1.2.executed (Config.executing_exec found)
    · exact fun _ _ _ _ _ _ _ _ _ => trivial
    · refine ⟨⟨?_, ?_⟩, by simp [idle], by simp [idle]⟩
      · rintro jobId ⟨row, found, _⟩
        simp [idle, Db.empty] at found
      · intro jobId _ stored
        simp [idle, Db.empty, Db.job?] at stored
  have one : (insertedFor tenantId key config).length ≤ 1 := by
    refine length_le_one_of_nodup (insertedFor_nodup distinct) ?_
    intro left inLeft right inRight
    obtain ⟨leftMine, leftStored⟩ := mem_insertedFor.mp inLeft
    obtain ⟨rightMine, rightStored⟩ := mem_insertedFor.mp inRight
    obtain ⟨row, found, rfl⟩ := holds.inv.inserted left leftMine leftStored
    obtain ⟨row', found', rfl⟩ := holds.inv.inserted right rightMine rightStored
    rw [Option.some.inj (found.symm.trans found')]
  refine ⟨one, ?_⟩
  intro thread member request response kind carried returned
  obtain ⟨index, found⟩ := List.getElem?_of_mem member
  have safe := holds.obeys index thread found
  rw [Machine.Discipline.Obeys, returned] at safe
  obtain ⟨holder, row, stored, _⟩ := safe config.store (submitContract_composes.refl _) holds.inv
    request response kind carried rfl
  have inserted : response.jobId ∈ insertedFor tenantId key config :=
    mem_insertedFor.mpr ⟨holds.inv.owner _ holder, by simp [stored]⟩
  cases rows : insertedFor tenantId key config with
  | nil => simp [rows] at inserted
  | cons single more =>
      cases more with
      | nil =>
          rw [rows, List.mem_singleton] at inserted
          rw [inserted]
      | cons => simp [rows] at one

end Service

def jobB : JobId := ⟨"b2", by decide⟩

def keyedSubmit (newId : JobId) : SubmitRequest where
  tenantId := "t"
  header := some "k"
  gpuRequired := false
  backend := none
  decision := .ok ()
  newId := newId

/-- Witness: two requests find the key free; the loser of the race answers with the job of the
winner.
-/
theorem submit_idempotent_race
    : ∃ config,
        service.Reaches (Orderly "t" "k") (idle Db.empty) config
        ∧ config.Quiescent
        ∧ config.threads.length = 2
        ∧ (config.store.job? jobA).isSome = true
        ∧ (insertedFor "t" "k" config).length ≤ 1 := by
  have ran
      : (service.run (fun config label => decide (Orderly "t" "k" config label))
          (idle Db.empty)
          [.arrive (.submitTask (keyedSubmit jobA)), .arrive (.submitTask (keyedSubmit jobB)),
            .exec 0 .none, .exec 1 .none, .exec 0 .none, .exec 0 .none, .exec 1 .none,
            .exec 1 .none, .exec 1 .none, .exec 0 .none]).any
          (fun config =>
            decide config.Quiescent && config.threads.length == 2
            && (config.store.job? jobA).isSome)
        = true := by
    decide +kernel
  obtain ⟨config, reached, passed⟩ :=
    Machine.Reaches.of_check (fun _ _ orderly => of_decide_eq_true orderly) _ ran
  simp only [Bool.and_eq_true, decide_eq_true_eq, beq_iff_eq] at passed
  exact ⟨config, reached, passed.1.1, passed.1.2, passed.2, (submit_idempotent reached).1⟩

/-- A request that reads the winner's row before it is inserted inserts a second job. -/
theorem submit_inserts_two
    : ∃ config,
        service.Reaches (fun config label => freshId config label = true) (idle Db.empty) config
        ∧ config.Quiescent
        ∧ insertedFor "t" "k" config = [jobA, jobB] := by
  have ran
      : (service.run freshId (idle Db.empty)
          [.arrive (.submitTask (keyedSubmit jobA)), .arrive (.submitTask (keyedSubmit jobB)),
            .exec 0 .none, .exec 0 .none, .exec 1 .none, .exec 1 .none, .exec 1 .none,
            .exec 1 .none, .exec 1 .none, .exec 1 .none, .exec 1 .none, .exec 0 .none,
            .exec 0 .none]).any
          (fun config =>
            decide config.Quiescent && insertedFor "t" "k" config == [jobA, jobB])
        = true := by
    decide +kernel
  obtain ⟨config, reached, passed⟩ :=
    Machine.Reaches.of_check (fun _ _ fresh => fresh) _ ran
  simp only [Bool.and_eq_true, decide_eq_true_eq, beq_iff_eq] at passed
  exact ⟨config, reached, passed.1, passed.2⟩

end RomaBridge.Properties
