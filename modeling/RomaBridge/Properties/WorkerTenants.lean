import RomaBridge.Model.WorkerSockets

/-! WebSocket workers stay inside their tenant. A status update of any connection is written to the
job it names, and the end of a handler removes the id that was named last, whoever registered it.
-/

namespace RomaBridge.Properties

open RomaBridge.Foundation RomaBridge.Model RomaBridge.Model.WorkerSockets

variable {connection : ℕ} {handler : Handler} {world : World} {endpoint : Endpoint}
  {call : SocketCall}

/-- A registration that was answered `registered`. -/
structure Registration where
  connection : ℕ
  workerId : JsonValue
  tenantId : String

/-- The endpoint with its registrations, the newest first. -/
structure Observed where
  endpoint : Endpoint
  log : List Registration

def registration : SocketCall → SocketReply → Option Registration
  | .receive connection _ _, .registered workerId tenantId =>
      some ⟨connection, workerId, tenantId⟩
  | _, _ => none

def observeStep (observed : Observed) (call : SocketCall) : SocketReply × Observed :=
  ((socketStep observed.endpoint call).1,
    ⟨(socketStep observed.endpoint call).2,
      (registration call (socketStep observed.endpoint call).1).toList ++ observed.log⟩)

def unobserved (workers : Workers) : Observed := ⟨newEndpoint workers, []⟩

def registeredTenant (log : List Registration) (connection : ℕ) : Option String :=
  (log.find? (fun r => r.connection = connection)).map Registration.tenantId

def lastRegistrant (log : List Registration) (key : DictKey) : Option ℕ :=
  (log.find? (fun r => dictKey r.workerId = some key)).map Registration.connection

def Registered (log : List Registration) (connection : ℕ) (key : DictKey) : Prop :=
  ∃ r ∈ log, r.connection = connection ∧ dictKey r.workerId = some key

def isOpen : SocketPhase → Prop
  | .serving _ | .refused _ => True
  | .absent | .ended => False

def ActiveAreLast (observed : Observed) : Prop :=
  ∀ key connection, observed.endpoint.activeWsWorkers key = some connection
    ↔ lastRegistrant observed.log key = some connection
      ∧ isOpen (observed.endpoint.phases connection)

def actor : SocketCall → Option ℕ
  | .submit _ _ => none
  | .accept connection | .receive connection _ _ | .leave connection => some connection

/-- The step receives a message of type `register`. -/
def RegistersWorker (call : SocketCall) : Prop :=
  ∃ connection data world, call = .receive connection (some data) world
    ∧ data.getOr "type" .null = .str "register"

def Differs (job job' : Job) : Prop :=
  job'.status ≠ job.status ∨ job'.output ≠ job.output ∨ job'.error ≠ job.error

/-- The claim at a step. -/
structure Confined (visit : Visit Observed SocketCall SocketReply) : Prop where
  jobs : ∀ connection, actor visit.call = some connection → ∀ jobId job job',
    visit.before.endpoint.jobs.find? jobId = some job →
    visit.after.endpoint.jobs.find? jobId = some job' → Differs job job' →
    registeredTenant visit.before.log connection = some job.tenantId
  workers : ∀ connection, actor visit.call = some connection → ¬ RegistersWorker visit.call → ∀ id,
    visit.after.endpoint.workers.find? id ≠ visit.before.endpoint.workers.find? id →
    Registered visit.before.log connection (.text id)
  unregisters : ∀ connection, actor visit.call = some connection → ∀ key holder,
    visit.before.endpoint.activeWsWorkers key = some holder →
    visit.after.endpoint.activeWsWorkers key = none → Registered visit.before.log connection key
  active : ActiveAreLast visit.after

def Updates (data : JsonDict) (jobId : String) : Prop :=
  data.getOr "type" .null = .str "status_update" ∧ data.getOr "job_id" .null = .str jobId

def releases (world : World) (endpoint : Endpoint) (handler : Handler) (data : JsonDict) : Bool :=
  finishes (data.getOr "status" .null)
    && (releaseWorker world endpoint.workers handler.workerId).1

/-- The message has the status of the job and, when they would be written, its output and error. -/
def Repeats (job : Job) (data : JsonDict) (released : Bool) : Prop :=
  data.getOr "status" .null = job.status
    ∧ (released = true → (∀ output, data.get? "output" = some output → job.output = some output)
      ∧ ∀ error, data.get? "error" = some error → job.error = some error)

/-- The handler that ends with a step, as it leaves its loop: its client left, or a message raised.
-/
def ending (endpoint : Endpoint) : SocketCall → Option (ℕ × Handler)
  | .receive connection data world =>
      match endpoint.phases connection with
      | .serving handler =>
          match process world connection endpoint handler data with
          | (.raised, last, _) => some (connection, last)
          | _ => none
      | _ => none
  | .leave connection =>
      match endpoint.phases connection with
      | .serving handler | .refused handler => some (connection, handler)
      | _ => none
  | _ => none

/-- The id that the handler names is the only one that maps to its connection, and maps to no other.
-/
def HoldsNamed (endpoint : Endpoint) (connection : ℕ) (handler : Handler) : Prop :=
  (∀ key, endpoint.activeWsWorkers key = some connection → handler.named = some key)
  ∧ ∀ key holder, handler.named = some key → endpoint.activeWsWorkers key = some holder →
    holder = connection

/-- A connection only updates jobs of its own tenant, except for what they are already, and when its
handler ends the id it named last is the only one that it holds, and not another one's.
-/
structure Careful (observed : Observed) (call : SocketCall) : Prop where
  ownJobs : ∀ connection data world handler jobId job,
    call = .receive connection (some data) world →
    observed.endpoint.phases connection = .serving handler → Updates data jobId →
    observed.endpoint.jobs.find? jobId = some job →
    Repeats job data (releases world observed.endpoint handler data)
      ∨ handler.tenantId = some job.tenantId
  ownEnd : ∀ connection handler, ending observed.endpoint call = some (connection, handler) →
    HoldsNamed observed.endpoint connection handler

-- What a message does

theorem differs_report_iff (job : Job) (data : JsonDict) (released : Bool)
    : Differs job (job.report data released) ↔ ¬ Repeats job data released := by
  have kept : ∀ written old : Option JsonValue,
      written.or old = old ↔ ∀ value, written = some value → old = some value := by
    intro written old
    cases written <;> simp [eq_comm]
  unfold Differs Repeats Job.report
  cases released with
  | false => simp
  | true =>
      rw [← kept, ← kept]
      simp only [if_true, forall_const]
      tauto

/-- A message registers its connection, or leaves `active_ws_workers` and, while the loop goes on,
its handler.
-/
def KeepsActive (connection : ℕ) (endpoint : Endpoint) (handler : Handler)
    : Outcome × Handler × Endpoint → Prop
  | (outcome, last, after) =>
      after.phases = endpoint.phases
      ∧ ((∃ workerId tenantId key, outcome = .served (.registered workerId tenantId)
          ∧ last = ⟨workerId, some tenantId⟩ ∧ dictKey workerId = some key
          ∧ after.activeWsWorkers
            = Function.update endpoint.activeWsWorkers key (some connection))
        ∨ (∀ reply, outcome = .served reply →
            (∀ workerId tenantId, reply ≠ .registered workerId tenantId) ∧ last = handler)
          ∧ after.activeWsWorkers = endpoint.activeWsWorkers)

theorem register_keepsActive (world : World) (connection : ℕ) (endpoint : Endpoint)
    (handler : Handler) (data : JsonDict)
    : KeepsActive connection endpoint handler
      (register world connection endpoint handler data) := by
  unfold register
  split
  · exact ⟨rfl, .inr ⟨by simp, rfl⟩⟩
  · rename_i workerId _
    dsimp only
    split
    · exact ⟨rfl, .inr ⟨by simp, rfl⟩⟩
    · exact ⟨rfl, .inr ⟨by simp, rfl⟩⟩
    · rename_i tenantId _
      split
      · rename_i key _ found
        exact ⟨rfl, .inl ⟨workerId, tenantId, key, rfl, rfl, found, rfl⟩⟩
      · exact ⟨rfl, .inr ⟨by simp, rfl⟩⟩

theorem served_of_returned {returned : Bool} {sent reply : SocketReply}
    (served : (if returned then Outcome.served sent else .raised) = .served reply)
    : reply = sent := by
  cases returned <;> cases served
  rfl

theorem heartbeat_keepsActive (world : World) (connection : ℕ) (endpoint : Endpoint)
    (handler : Handler)
    : KeepsActive connection endpoint handler (heartbeat world endpoint handler) := by
  refine ⟨rfl, .inr ⟨?_, rfl⟩⟩
  intro reply served
  rw [served_of_returned served]
  exact ⟨by simp, rfl⟩

theorem statusUpdate_keepsActive (world : World) (connection : ℕ) (endpoint : Endpoint)
    (handler : Handler) (data : JsonDict)
    : KeepsActive connection endpoint handler (statusUpdate world endpoint handler data) := by
  unfold statusUpdate
  split
  · exact ⟨rfl, .inr ⟨by simp, rfl⟩⟩
  · exact ⟨rfl, .inr ⟨by simp, rfl⟩⟩
  · split
    · dsimp only
      split
      · refine ⟨rfl, .inr ⟨?_, rfl⟩⟩
        intro reply served
        rw [served_of_returned served]
        exact ⟨by simp, rfl⟩
      · exact ⟨rfl, .inr ⟨by simp, rfl⟩⟩
    · exact ⟨rfl, .inr ⟨by simp, rfl⟩⟩
  · exact ⟨rfl, .inr ⟨by simp, rfl⟩⟩

theorem process_keepsActive (world : World) (connection : ℕ) (endpoint : Endpoint)
    (handler : Handler) (data : Option JsonDict)
    : KeepsActive connection endpoint handler
      (process world connection endpoint handler data) := by
  cases data with
  | none => exact ⟨rfl, .inr ⟨by simp, rfl⟩⟩
  | some data =>
      change KeepsActive connection endpoint handler
        (dispatch world connection endpoint handler data)
      unfold dispatch
      split
      · exact register_keepsActive world connection endpoint handler data
      · exact heartbeat_keepsActive world connection endpoint handler
      · exact statusUpdate_keepsActive world connection endpoint handler data
      · exact ⟨rfl, .inr ⟨by simp, rfl⟩⟩

-- What a step does

/-- What a step does to `active_ws_workers` and to the connections, with the handler that it ends.
-/
inductive Effect (before after : Observed) : Option (ℕ × Handler) → Prop where
  | quiet (log : after.log = before.log)
      (active : after.endpoint.activeWsWorkers = before.endpoint.activeWsWorkers)
      (opens : ∀ connection, isOpen (after.endpoint.phases connection)
        ↔ isOpen (before.endpoint.phases connection))
      (serves : ∀ connection handler, after.endpoint.phases connection = .serving handler →
        before.endpoint.phases connection = .serving handler)
      (absent : ∀ connection, after.endpoint.phases connection = .absent →
        before.endpoint.phases connection = .absent)
      : Effect before after none
  | accepts (connection : ℕ) (absent : before.endpoint.phases connection = .absent)
      (phases : after.endpoint.phases
        = Function.update before.endpoint.phases connection (.serving ⟨.null, none⟩))
      (log : after.log = before.log)
      (active : after.endpoint.activeWsWorkers = before.endpoint.activeWsWorkers)
      : Effect before after none
  | registers (connection : ℕ) (workerId : JsonValue) (tenantId : String) (key : DictKey)
      (found : dictKey workerId = some key) (opened : isOpen (before.endpoint.phases connection))
      (phases : after.endpoint.phases
        = Function.update before.endpoint.phases connection (.serving ⟨workerId, some tenantId⟩))
      (log : after.log = ⟨connection, workerId, tenantId⟩ :: before.log)
      (active : after.endpoint.activeWsWorkers
        = Function.update before.endpoint.activeWsWorkers key (some connection))
      : Effect before after none
  | ends (connection : ℕ) (handler : Handler)
      (phases : after.endpoint.phases = Function.update before.endpoint.phases connection .ended)
      (log : after.log = before.log)
      (active : ∀ key, after.endpoint.activeWsWorkers key
        = if handler.named = some key then none else before.endpoint.activeWsWorkers key)
      : Effect before after (some (connection, handler))

theorem Effect.still {before after : Observed} (log : after.log = before.log)
    (active : after.endpoint.activeWsWorkers = before.endpoint.activeWsWorkers)
    (phases : after.endpoint.phases = before.endpoint.phases)
    : Effect before after none := by
  refine .quiet log active ?_ ?_ ?_
  · exact fun connection => by rw [phases]
  · exact fun connection handler serving => by rw [← phases, serving]
  · exact fun connection absent => by rw [← phases, absent]

theorem receive_effect (observed : Observed) (connection : ℕ) (data : Option JsonDict)
    (world : World)
    : Effect observed (observeStep observed (.receive connection data world)).2
      (ending observed.endpoint (.receive connection data world)) := by
  cases phase : observed.endpoint.phases connection with
  | serving handler =>
      have kept := process_keepsActive world connection observed.endpoint handler data
      simp only [observeStep, socketStep, ending, phase]
      generalize process world connection observed.endpoint handler data = result at kept ⊢
      obtain ⟨outcome, last, after⟩ := result
      obtain ⟨phases, either⟩ := kept
      cases outcome with
      | served reply =>
          rcases either with ⟨workerId, tenantId, key, sent, rfl, found, active⟩ | ⟨loops, active⟩
          · obtain rfl : reply = .registered workerId tenantId := by simpa using sent
            exact .registers connection workerId tenantId key found (by simp [phase, isOpen])
              (by simp [settle, phases]) rfl active
          · obtain ⟨other, rfl⟩ := loops reply rfl
            refine .still ?_ active ?_
            · cases reply with
              | registered workerId tenantId => exact absurd rfl (other workerId tenantId)
              | nothing | invalidApiKey | heartbeatAck => rfl
            · simp only [settle]
              rw [phases, ← phase, Function.update_eq_self]
      | refused =>
          rcases either with ⟨_, _, _, sent, _⟩ | ⟨-, active⟩
          · cases sent
          · refine .quiet rfl active ?_ ?_ ?_
            all_goals
              intro other
              simp only [settle, phases]
              by_cases own : other = connection
              · subst own
                simp [phase, isOpen]
              · simp [Function.update_of_ne own]
      | raised =>
          rcases either with ⟨_, _, _, sent, _⟩ | ⟨-, active⟩
          · cases sent
          · refine .ends connection last ?_ rfl ?_
            · simp [settle, finish, phases]
            · exact fun key => by simp [settle, finish, active]
  | absent | refused | ended =>
      simpa [observeStep, socketStep, ending, phase, registration]
        using Effect.still rfl rfl rfl

theorem observeStep_effect (observed : Observed) (call : SocketCall)
    : Effect observed (observeStep observed call).2 (ending observed.endpoint call) := by
  cases call with
  | submit jobId tenantId => exact .still rfl rfl rfl
  | accept connection =>
      cases phase : observed.endpoint.phases connection with
      | absent =>
          simp only [observeStep, socketStep, ending, phase]
          exact .accepts connection phase rfl rfl rfl
      | serving _ | refused _ | ended =>
          simpa [observeStep, socketStep, ending, phase, registration]
            using Effect.still rfl rfl rfl
  | receive connection data world => exact receive_effect observed connection data world
  | leave connection =>
      cases phase : observed.endpoint.phases connection with
      | serving handler | refused handler =>
          simp only [observeStep, socketStep, ending, phase]
          exact .ends connection handler rfl rfl (fun _ => rfl)
      | absent | ended =>
          simpa [observeStep, socketStep, ending, phase, registration]
            using Effect.still rfl rfl rfl

-- Who is active

/-- `active_ws_workers` is right, the variables of every loop are those of its last registration,
and a connection that did not begin registered nothing.
-/
structure Tracked (observed : Observed) : Prop where
  active : ActiveAreLast observed
  named : ∀ connection handler, observed.endpoint.phases connection = .serving handler →
    (∀ id, handler.workerId = .str id → Registered observed.log connection (.text id))
    ∧ registeredTenant observed.log connection = handler.tenantId
  fresh : ∀ connection, observed.endpoint.phases connection = .absent → ∀ r ∈ observed.log,
    r.connection ≠ connection

theorem registered_of_last {log : List Registration} {key : DictKey}
    (last : lastRegistrant log key = some connection)
    : Registered log connection key := by
  obtain ⟨r, found, own⟩ := Option.map_eq_some_iff.mp last
  exact ⟨r, List.mem_of_find?_eq_some found, own, by simpa using List.find?_some found⟩

theorem lastRegistrant_cons (r : Registration) (log : List Registration) (key : DictKey)
    : lastRegistrant (r :: log) key
      = if dictKey r.workerId = some key then some r.connection else lastRegistrant log key := by
  unfold lastRegistrant
  by_cases own : dictKey r.workerId = some key
  · rw [List.find?_cons_of_pos (by simpa using own), if_pos own]
    rfl
  · rw [List.find?_cons_of_neg (by simpa using own), if_neg own]

theorem registeredTenant_cons (r : Registration) (log : List Registration) (connection : ℕ)
    : registeredTenant (r :: log) connection
      = if r.connection = connection then some r.tenantId else registeredTenant log connection := by
  unfold registeredTenant
  by_cases own : r.connection = connection
  · rw [List.find?_cons_of_pos (by simpa using own), if_pos own]
    rfl
  · rw [List.find?_cons_of_neg (by simpa using own), if_neg own]

theorem isOpen_update {phases : ℕ → SocketPhase} {phase : SocketPhase}
    (opened : isOpen (phases connection)) (opens : isOpen phase) (other : ℕ)
    : isOpen (Function.update phases connection phase other) ↔ isOpen (phases other) := by
  by_cases own : other = connection
  · rw [own, Function.update_self]
    exact iff_of_true opens opened
  · rw [Function.update_of_ne own]

theorem Tracked.active_registers {before after : Observed} (tracked : Tracked before)
    {workerId : JsonValue} {tenantId : String} {key : DictKey} (found : dictKey workerId = some key)
    (opened : isOpen (before.endpoint.phases connection))
    (phases : after.endpoint.phases
      = Function.update before.endpoint.phases connection (.serving ⟨workerId, some tenantId⟩))
    (log : after.log = ⟨connection, workerId, tenantId⟩ :: before.log)
    (active : after.endpoint.activeWsWorkers
      = Function.update before.endpoint.activeWsWorkers key (some connection))
    : ActiveAreLast after := by
  intro other holder
  rw [active, log, phases, isOpen_update opened (by simp [isOpen]), lastRegistrant_cons, found]
  by_cases own : other = key
  · subst own
    rw [Function.update_self, if_pos rfl]
    refine (and_iff_left_of_imp ?_).symm
    rintro ⟨⟩
    exact opened
  · rw [Function.update_of_ne own, if_neg (fun same => own (Option.some.inj same).symm)]
    exact tracked.active other holder

theorem Tracked.active_ends_iff {before after : Observed} (tracked : Tracked before)
    (phases : after.endpoint.phases = Function.update before.endpoint.phases connection .ended)
    (log : after.log = before.log)
    (active : ∀ key, after.endpoint.activeWsWorkers key
      = if handler.named = some key then none else before.endpoint.activeWsWorkers key)
    : ActiveAreLast after ↔ HoldsNamed before.endpoint connection handler := by
  have opens (other : ℕ) : isOpen (after.endpoint.phases other)
      ↔ other ≠ connection ∧ isOpen (before.endpoint.phases other) := by
    rw [phases]
    by_cases own : other = connection
    · simp [own, isOpen]
    · simp [own]
  constructor
  · intro right
    refine ⟨?_, ?_⟩
    · intro key holds
      by_contra unnamed
      have still := right key connection
      rw [active, opens, if_neg unnamed] at still
      exact (still.mp holds).2.1 rfl
    · intro key holder named holds
      by_contra other
      have still := right key holder
      rw [active, opens, log, if_pos named] at still
      obtain ⟨last, opened⟩ := (tracked.active key holder).mp holds
      cases still.mpr ⟨last, other, opened⟩
  · rintro ⟨held, owned⟩ key other
    rw [active, log, opens, and_left_comm, ← tracked.active key other]
    by_cases named : handler.named = some key
    · rw [if_pos named]
      refine iff_of_false (by simp) ?_
      rintro ⟨different, found⟩
      exact different (owned key other named found)
    · rw [if_neg named]
      refine (and_iff_right_of_imp ?_).symm
      rintro found rfl
      exact named (held key found)

/-- After a step `active_ws_workers` is right exactly when the handler that ended held what it
named. One case per effect.
-/
theorem active_after_iff {before after : Observed} {ended : Option (ℕ × Handler)}
    (effect : Effect before after ended) (tracked : Tracked before)
    : ActiveAreLast after ↔ ∀ connection handler, ended = some (connection, handler) →
      HoldsNamed before.endpoint connection handler := by
  cases effect with
  | quiet log active opens serves absent =>
      refine iff_of_true ?_ (fun _ _ none => by cases none)
      intro key connection
      rw [active, log, opens]
      exact tracked.active key connection
  | accepts accepted absent phases log active =>
      refine iff_of_true ?_ (fun _ _ none => by cases none)
      intro key connection
      rw [active, log, phases, tracked.active key connection]
      refine and_congr_right (fun last => ?_)
      obtain ⟨r, member, own, -⟩ := registered_of_last last
      have other : connection ≠ accepted := fun same => tracked.fresh accepted absent r member
        (own.trans same)
      rw [Function.update_of_ne other]
  | registers registering workerId tenantId key found opened phases log active =>
      refine iff_of_true ?_ (fun _ _ none => by cases none)
      exact tracked.active_registers found opened phases log active
  | ends connection handler phases log active =>
      rw [tracked.active_ends_iff phases log active]
      constructor
      · rintro holds _ _ ⟨⟩
        exact holds
      · exact fun holds => holds connection handler rfl

/-- The variables of every loop are still those of its last registration. One case per effect. -/
theorem Tracked.named_after {before after : Observed} {ended : Option (ℕ × Handler)}
    (tracked : Tracked before) (effect : Effect before after ended) (connection : ℕ)
    (handler : Handler) (serving : after.endpoint.phases connection = .serving handler)
    : (∀ id, handler.workerId = .str id → Registered after.log connection (.text id))
      ∧ registeredTenant after.log connection = handler.tenantId := by
  cases effect with
  | quiet log _ _ serves _ =>
      rw [log]
      exact tracked.named connection handler (serves connection handler serving)
  | accepts accepted absent phases log _ =>
      rw [phases] at serving
      rw [log]
      by_cases own : connection = accepted
      · subst own
        rw [Function.update_self, SocketPhase.serving.injEq] at serving
        subst serving
        refine ⟨by simp, ?_⟩
        have none : before.log.find? (fun r => r.connection = connection) = none :=
          List.find?_eq_none.mpr (by simpa using tracked.fresh connection absent)
        simp [registeredTenant, none]
      · rw [Function.update_of_ne own] at serving
        exact tracked.named connection handler serving
  | registers registering workerId tenantId key found opened phases log _ =>
      rw [phases] at serving
      rw [log, registeredTenant_cons]
      by_cases own : connection = registering
      · subst own
        rw [Function.update_self, SocketPhase.serving.injEq] at serving
        subst serving
        refine ⟨?_, if_pos rfl⟩
        rintro id rfl
        exact ⟨_, List.mem_cons_self, rfl, rfl⟩
      · rw [Function.update_of_ne own] at serving
        obtain ⟨registered, tenant⟩ := tracked.named connection handler serving
        refine ⟨fun id same => ?_, by rw [if_neg (Ne.symm own), tenant]⟩
        obtain ⟨r, member, facts⟩ := registered id same
        exact ⟨r, List.mem_cons_of_mem _ member, facts⟩
  | ends ending handler' phases log _ =>
      rw [phases] at serving
      rw [log]
      by_cases own : connection = ending
      · subst own
        rw [Function.update_self] at serving
        cases serving
      · rw [Function.update_of_ne own] at serving
        exact tracked.named connection handler serving

/-- A connection that did not begin still registered nothing. One case per effect. -/
theorem Tracked.fresh_after {before after : Observed} {ended : Option (ℕ × Handler)}
    (tracked : Tracked before) (effect : Effect before after ended) (connection : ℕ)
    (absent : after.endpoint.phases connection = .absent)
    : ∀ r ∈ after.log, r.connection ≠ connection := by
  intro r member
  cases effect with
  | quiet log _ _ _ wasAbsent =>
      rw [log] at member
      exact tracked.fresh connection (wasAbsent connection absent) r member
  | accepts accepted _ phases log _ | ends accepted _ phases log _ =>
      rw [phases] at absent
      rw [log] at member
      by_cases own : connection = accepted
      · simp [own] at absent
      · rw [Function.update_of_ne own] at absent
        exact tracked.fresh connection absent r member
  | registers registering workerId tenantId key found opened phases log _ =>
      rw [phases] at absent
      by_cases own : connection = registering
      · simp [own] at absent
      · rw [Function.update_of_ne own] at absent
        rw [log, List.mem_cons] at member
        rcases member with rfl | earlier
        · exact Ne.symm own
        · exact tracked.fresh connection absent r earlier

theorem Tracked.after {before after : Observed} {ended : Option (ℕ × Handler)}
    (tracked : Tracked before) (effect : Effect before after ended) (active : ActiveAreLast after)
    : Tracked after :=
  ⟨active, tracked.named_after effect, tracked.fresh_after effect⟩

-- What is written

theorem workerId_of_written {workers : Workers} {workerId : JsonValue}
    {write : WorkerRow → WorkerRow} {keeps : ∀ row, (write row).id = row.id} {id : String}
    (written : (dbCall world workers (updateWhere workers workerId write keeps)).2.find? id
      ≠ workers.find? id)
    : workerId = .str id := by
  have same {after : Workers} (left : updateWhere workers workerId write keeps = some after)
      (changed : after.find? id ≠ workers.find? id)
      : workerId = .str id := by
    unfold updateWhere at left
    split at left
    · rename_i own
      cases left
      by_contra other
      refine changed ?_
      rw [Table.find?_update]
      cases found : workers.find? id with
      | none => rfl
      | some row =>
          have different : row.id ≠ own := by
            rw [(Table.find?_some found).2]
            exact fun equal => other (by rw [equal])
          simp [different]
    · cases left
      exact absurd rfl changed
    · cases left
  unfold dbCall at written
  split at written
  · split at written
    · exact absurd rfl written
    · rename_i left _
      exact same left written
    · rename_i after applied left _
      cases applied with
      | false => exact absurd rfl written
      | true => exact same left written
  · exact absurd rfl written

theorem workerId_of_dispatch {data : JsonDict} {id : String}
    (other : data.getOr "type" .null ≠ .str "register")
    (written : (dispatch world connection endpoint handler data).2.2.workers.find? id
      ≠ endpoint.workers.find? id)
    : handler.workerId = .str id := by
  unfold dispatch at written
  split at written
  · rename_i type
    exact absurd type other
  · exact workerId_of_written written
  · unfold statusUpdate at written
    split at written
    · exact absurd rfl written
    · exact absurd rfl written
    · split at written
      · dsimp only at written
        split at written
        · exact workerId_of_written written
        · exact absurd rfl written
      · exact absurd rfl written
    · exact absurd rfl written
  · exact absurd rfl written

theorem jobs_of_updates {data : JsonDict} {jobId : String} (updates : Updates data jobId)
    : (dispatch world connection endpoint handler data).2.2.jobs.find? jobId
      = (endpoint.jobs.find? jobId).map
        (fun job => job.report data (releases world endpoint handler data)) := by
  obtain ⟨type, named⟩ := updates
  unfold dispatch statusUpdate
  simp only [type, named]
  cases found : endpoint.jobs.find? jobId with
  | none => simp [found]
  | some job =>
      cases finish : finishes (data.getOr "status" .null) with
      | true => simp [Jobs.find?_report, found, finish, releases]
      | false => simp [Jobs.find?_report, found, finish, releases]

/-- Another message leaves the job. -/
theorem jobs_of_not_updates {data : JsonDict} {jobId : String} (other : ¬ Updates data jobId)
    : (dispatch world connection endpoint handler data).2.2.jobs.find? jobId
      = endpoint.jobs.find? jobId := by
  unfold dispatch
  split
  · unfold register
    split
    · rfl
    · dsimp only
      split
      · rfl
      · rfl
      · split <;> rfl
  · rfl
  · rename_i type
    unfold statusUpdate
    split
    · rfl
    · rfl
    · rename_i named own
      have elsewhere : jobId ≠ named := by
        rintro rfl
        exact other ⟨type, own⟩
      split
      · dsimp only
        split
        · simp [Jobs.find?_report, elsewhere]
        · simp [Jobs.find?_report, elsewhere]
      · rfl
    · rfl
  · rfl

theorem settle_tables (connection : ℕ) (result : Outcome × Handler × Endpoint)
    : (settle connection result).2.jobs = result.2.2.jobs
      ∧ (settle connection result).2.workers = result.2.2.workers := by
  obtain ⟨outcome, last, after⟩ := result
  cases outcome <;> exact ⟨rfl, rfl⟩

theorem tables_of_step (endpoint : Endpoint) (call : SocketCall)
    : (∃ jobId tenantId, call = .submit jobId tenantId)
      ∨ (∃ connection data world handler, call = .receive connection (some data) world
        ∧ endpoint.phases connection = .serving handler
        ∧ (socketStep endpoint call).2.jobs
          = (dispatch world connection endpoint handler data).2.2.jobs
        ∧ (socketStep endpoint call).2.workers
          = (dispatch world connection endpoint handler data).2.2.workers)
      ∨ (∀ connection data world handler, call = .receive connection (some data) world →
          endpoint.phases connection ≠ .serving handler)
        ∧ (socketStep endpoint call).2.jobs = endpoint.jobs
        ∧ (socketStep endpoint call).2.workers = endpoint.workers := by
  cases call with
  | submit jobId tenantId => exact .inl ⟨jobId, tenantId, rfl⟩
  | accept connection =>
      refine .inr (.inr ⟨by simp, ?_⟩)
      simp only [socketStep]
      split <;> exact ⟨rfl, rfl⟩
  | leave connection =>
      refine .inr (.inr ⟨by simp, ?_⟩)
      simp only [socketStep]
      split <;> exact ⟨rfl, rfl⟩
  | receive connection data world =>
      simp only [socketStep]
      split
      · rename_i handler phase
        cases data with
        | none =>
            exact .inr (.inr ⟨by simp, settle_tables connection (.raised, handler, endpoint)⟩)
        | some data =>
            exact .inr (.inl ⟨connection, data, world, handler, rfl, phase,
              settle_tables connection (dispatch world connection endpoint handler data)⟩)
      · rename_i idle
        refine .inr (.inr ⟨?_, rfl, rfl⟩)
        rintro other _ _ handler ⟨⟩ phase
        exact idle handler phase

theorem jobs_iff {observed : Observed} (tracked : Tracked observed) (call : SocketCall)
    : (∀ connection, actor call = some connection → ∀ jobId job job',
        observed.endpoint.jobs.find? jobId = some job →
        (observeStep observed call).2.endpoint.jobs.find? jobId = some job' → Differs job job' →
        registeredTenant observed.log connection = some job.tenantId)
      ↔ ∀ connection data world handler jobId job, call = .receive connection (some data) world →
        observed.endpoint.phases connection = .serving handler → Updates data jobId →
        observed.endpoint.jobs.find? jobId = some job →
        Repeats job data (releases world observed.endpoint handler data)
          ∨ handler.tenantId = some job.tenantId := by
  have same (job : Job) : ¬ Differs job job := by simp [Differs]
  rcases tables_of_step observed.endpoint call with ⟨_, _, rfl⟩ | ⟨connection, data, world, handler,
    rfl, serving, jobs, -⟩ | ⟨idle, jobs, -⟩
  · exact iff_of_true (by simp [actor]) (by simp)
  · have tenant := (tracked.named connection handler serving).2
    constructor
    · rintro right _ _ _ handler' jobId job ⟨⟩ serving' updates found
      obtain rfl : handler = handler' := by simpa [serving] using serving'
      rw [or_iff_not_imp_left]
      intro fresh
      rw [← tenant]
      refine right connection rfl jobId job _ found ?_ ((differs_report_iff job data _).mpr fresh)
      change (socketStep observed.endpoint _).2.jobs.find? jobId = _
      rw [jobs, jobs_of_updates updates, found]
      rfl
    · rintro own _ ⟨⟩ jobId job job' found written differs
      change (socketStep observed.endpoint _).2.jobs.find? jobId = _ at written
      rw [jobs] at written
      by_cases updates : Updates data jobId
      · rw [jobs_of_updates updates, found, Option.map_some, Option.some.injEq] at written
        subst written
        rw [tenant]
        exact (own connection data world handler jobId job rfl serving updates found).resolve_left
          ((differs_report_iff job data _).mp differs)
      · rw [jobs_of_not_updates updates, found, Option.some.injEq] at written
        subst written
        exact absurd differs (same job)
  · refine iff_of_true ?_ ?_
    · intro connection _ jobId job job' found written differs
      change (socketStep observed.endpoint _).2.jobs.find? jobId = _ at written
      rw [jobs, found, Option.some.injEq] at written
      subst written
      exact absurd differs (same job)
    · intro connection data world handler _ _ received serving
      exact absurd serving (idle connection data world handler received)

theorem workers_own {observed : Observed} (tracked : Tracked observed)
    (acts : actor call = some connection) (other : ¬ RegistersWorker call) {id : String}
    (written : (observeStep observed call).2.endpoint.workers.find? id
      ≠ observed.endpoint.workers.find? id)
    : Registered observed.log connection (.text id) := by
  change (socketStep observed.endpoint call).2.workers.find? id ≠ _ at written
  rcases tables_of_step observed.endpoint call with ⟨_, _, rfl⟩ | ⟨_, data, world, handler,
    rfl, serving, -, workers⟩ | ⟨-, -, workers⟩
  · cases acts
  · cases acts
    rw [workers] at written
    refine (tracked.named connection handler serving).1 id (workerId_of_dispatch ?_ written)
    exact fun type => other ⟨connection, data, world, rfl, type⟩
  · rw [workers] at written
    exact absurd rfl written

theorem actor_of_ending (ended : ending endpoint call = some (connection, handler))
    : actor call = some connection := by
  unfold ending at ended
  split at ended
  · split at ended
    · split at ended <;> cases ended
      rfl
    · cases ended
  · split at ended <;> cases ended <;> rfl
  · cases ended

theorem unregisters_own {observed : Observed} (tracked : Tracked observed)
    (owned : ∀ connection handler, ending observed.endpoint call = some (connection, handler) →
      HoldsNamed observed.endpoint connection handler) (acts : actor call = some connection)
    {key : DictKey} {holder : ℕ} (held : observed.endpoint.activeWsWorkers key = some holder)
    (removed : (observeStep observed call).2.endpoint.activeWsWorkers key = none)
    : Registered observed.log connection key := by
  have effect := observeStep_effect observed call
  generalize after : (observeStep observed call).2 = left at effect removed
  generalize ended : ending observed.endpoint call = finished at effect
  cases effect with
  | quiet _ active | accepts _ _ _ _ active =>
      rw [active, held] at removed
      cases removed
  | registers registering _ _ own _ _ _ _ active =>
      rw [active] at removed
      by_cases same : key = own
      · simp [same] at removed
      · rw [Function.update_of_ne same, held] at removed
        cases removed
  | ends ending handler phases log active =>
      have same := actor_of_ending ended
      rw [acts, Option.some.injEq] at same
      subst same
      by_cases named : handler.named = some key
      · obtain rfl := (owned connection handler ended).2 key holder named held
        exact registered_of_last ((tracked.active key holder).mp held).1
      · rw [active, if_neg named, held] at removed
        cases removed

theorem confined_iff {observed : Observed} (tracked : Tracked observed) (call : SocketCall)
    : Confined ⟨observed, call, (observeStep observed call).1, (observeStep observed call).2⟩
      ↔ Careful observed call := by
  have effect := observeStep_effect observed call
  constructor
  · intro confined
    exact ⟨(jobs_iff tracked call).mp confined.jobs,
      (active_after_iff effect tracked).mp confined.active⟩
  · intro careful
    exact {
      jobs := (jobs_iff tracked call).mpr careful.ownJobs
      workers := fun _ acts other _ written => workers_own tracked acts other written
      unregisters := fun _ acts _ _ held removed =>
        unregisters_own tracked careful.ownEnd acts held removed
      active := (active_after_iff effect tracked).mpr careful.ownEnd
    }

theorem tracked_unobserved (workers : Workers) : Tracked (unobserved workers) := by
  refine ⟨?_, ?_, ?_⟩
  · intro key connection
    refine iff_of_false (by simp [unobserved, newEndpoint]) ?_
    rintro ⟨last, -⟩
    simp [unobserved, lastRegistrant] at last
  · intro connection handler serving
    cases serving
  · intro connection _ r member
    cases member

/-- WebSocket workers stay inside their tenant in a run exactly when all its steps are careful. -/
theorem workersConfined_iff (workers : Workers) (calls : List SocketCall)
    : (∀ visit ∈ visits observeStep (unobserved workers) calls, Confined visit)
      ↔ ∀ visit ∈ visits observeStep (unobserved workers) calls,
        Careful visit.before visit.call := by
  have preserved : ∀ observed call, Tracked observed → True → Careful observed call →
      Tracked (observeStep observed call).2 := by
    intro observed call tracked _ careful
    have confined := (confined_iff tracked call).mpr careful
    exact tracked.after (observeStep_effect observed call) confined.active
  exact throughout_iff (fun observed call tracked _ => confined_iff tracked call) preserved
    (tracked_unobserved workers) (fun _ _ => trivial)

def keyless : World := ⟨fun _ => .unknown, false, .done, fun _ => none, 0⟩

def failedUpdate : JsonDict :=
  JsonDict.ofList
    [("type", .str "status_update"), ("job_id", .str "job-1"), ("status", .str "failed")]

/-- A connection that never registered fails the job of a tenant. -/
theorem unregistered_update
    : ¬ ∀ visit ∈ visits observeStep (unobserved Table.empty)
        [.submit "job-1" "tenant-1", .accept 0, .receive 0 (some failedUpdate) keyless],
      Confined visit := by
  intro all
  have confined := all _ (List.mem_of_getLast? rfl)
  have owned := confined.jobs 0 rfl "job-1" ⟨"job-1", "tenant-1", .str "queued", none, none⟩
    ⟨"job-1", "tenant-1", .str "failed", none, none⟩ rfl rfl (.inl (by simp))
  cases owned

end RomaBridge.Properties
