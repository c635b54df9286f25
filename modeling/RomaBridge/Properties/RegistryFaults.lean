import RomaBridge.Model.FaultyRegistry
import RomaBridge.Properties.HostIsolation

/-! What an exception of the store leaves of a registry that writes through. A record is changed
before it is persisted, so memory and store agree behind an exception only when the store took the
change, or when there was none; and the events are counted only when the store returns.
-/

namespace RomaBridge.Properties

open RomaBridge.Foundation RomaBridge.Model.Hosts
open RomaBridge.Model (pyStrip)

variable {call : FaultyCall} {raised : Bool} {after : FaultyRegistry}

-- What memory and the store say of a host

/-- What a registry knows of a host. -/
structure HostFacts where
  status : HostStatus
  trustTier : TrustTier
  spec : Option VerificationJobSpec
  reservation : Option String
  history : List StatusChange
  heartbeat : Option ℚ

def factsOf (h : HostRecord) : HostFacts :=
  ⟨h.status, h.trustTier, h.pendingVerification, h.verifyReservation, h.history, h.lastHeartbeat⟩

def inMemory (registry : FaultyRegistry) (hostId : String) : Option HostFacts :=
  (registry.hosts.find? hostId).map factsOf

def storedSpec (db : HostDb) (hostId : String) (status : HostStatus) : Option VerificationJobSpec :=
  if status = .verifying then (db.unfinished hostId).map VerificationRow.spec else none

/-- What the store says of a host. It keeps no reservation. -/
def inStore (registry : FaultyRegistry) (hostId : String) : Option HostFacts :=
  (registry.db.hosts.find? hostId).map (fun row =>
    ⟨row.status, row.trustTier, storedSpec registry.db hostId row.status, none,
      registry.events hostId, row.lastHeartbeat⟩)

/-- `is_schedulable` with the feature enabled. -/
def isSchedulable (registry : FaultyRegistry) (hostId : String) (now sla : ℚ) : Prop :=
  ∃ h beat, registry.hosts.find? hostId = some h ∧ h.status = .active ∧ h.trustTier = .verified
    ∧ h.lastHeartbeat = some beat ∧ now - beat ≤ sla

/-- Memory agrees with the store on every host, and `_persisted_events` with its events. -/
structure InStep (registry : FaultyRegistry) : Prop where
  same : ∀ hostId, inMemory registry hostId = inStore registry hostId
  cursor : ∀ hostId, registry.persisted hostId = (registry.events hostId).length
  fresh : ∀ hostId, registry.hosts.find? hostId = none → registry.events hostId = []

/-- The same, with one host left out of memory's agreement. -/
structure InStepBut (hostId : String) (registry : FaultyRegistry) : Prop where
  same : ∀ other, other ≠ hostId → inMemory registry other = inStore registry other
  cursor : ∀ other, registry.persisted other = (registry.events other).length
  fresh : ∀ other, other ≠ hostId → registry.hosts.find? other = none → registry.events other = []

/-- The rows of verifications have drawn identifiers, each its own. -/
structure DrawnJobs (names : Names) (registry : FaultyRegistry) : Prop where
  drawn : ∀ jobId ∈ registry.db.verifications.map VerificationRow.jobId,
    ∃ index, index < registry.drawn ∧ jobId = names.jobId index
  unique : (registry.db.verifications.map VerificationRow.jobId).Nodup

/-- What an operation that raised owes: every record is what the store holds or what it was, a
submission makes no host schedulable, and an application leaves its identifier free.
-/
structure FaultAtomic (visit : Visit FaultyRegistry FaultyCall Bool) : Prop where
  unchanged : ∀ hostId, inMemory visit.after hostId = inStore visit.after hostId
    ∨ inMemory visit.after hostId = inMemory visit.before hostId
  unscheduled : ∀ host jobId output elapsed clock finish save,
    visit.call = .submitVerification host jobId output elapsed clock finish save →
    ∀ hostId now sla, isSchedulable visit.after hostId now sla →
      isSchedulable visit.before hostId now sla
  repeatable : ∀ owner model count vram region own host clock save,
    visit.call = .apply owner model count vram region own host clock save →
    ∀ hostId, visit.before.hosts.find? hostId = none → visit.after.hosts.find? hostId = none

variable {names : Names} {bench : Bench} {registry : FaultyRegistry} {hostId : String}
  {h written : HostRecord}

-- Parts of the operations

@[simp]
theorem inMemory_put (registry : FaultyRegistry) (written : HostRecord) (hostId : String)
    : inMemory (registry.put written) hostId
      = if written.hostId = hostId then some (factsOf written) else inMemory registry hostId := by
  simp only [inMemory, FaultyRegistry.put, Table.find?_put]
  split
  · rfl
  · rfl

theorem inStore_saveHost (registry : FaultyRegistry) (written : HostRecord) (hostId : String)
    : inStore (registry.saveHost written) hostId
      = if written.hostId = hostId then
          some ⟨written.status, written.trustTier, storedSpec registry.db hostId written.status, none,
            registry.events hostId ++ written.history.drop (registry.persisted hostId),
            written.lastHeartbeat⟩
        else inStore registry hostId := by
  have own := (savedRow_spec registry.db written).1
  have fields : (registry.db.savedRow written).status = written.status
      ∧ (registry.db.savedRow written).trustTier = written.trustTier
      ∧ (registry.db.savedRow written).lastHeartbeat = written.lastHeartbeat := by
    unfold HostDb.savedRow
    split
    · exact ⟨rfl, rfl, rfl⟩
    · exact ⟨rfl, rfl, rfl⟩
  simp only [inStore, FaultyRegistry.saveHost, HostDb.saveHost, Table.find?_put, own]
  by_cases here : written.hostId = hostId
  · subst here
    simp only [if_pos, Option.map_some, fields, Function.update_self]
    rfl
  · rw [if_neg here, if_neg here, Function.update_of_ne (Ne.symm here)]
    rfl

theorem InStep.but (inStep : InStep registry) (hostId : String) : InStepBut hostId registry :=
  ⟨fun other _ => inStep.same other, inStep.cursor, fun other _ => inStep.fresh other⟩

theorem InStepBut.inStep (inStep : InStepBut hostId registry)
    (here : inMemory registry hostId = inStore registry hostId)
    (present : (registry.hosts.find? hostId).isSome)
    : InStep registry := by
  refine ⟨?_, inStep.cursor, ?_⟩
  · intro other
    by_cases same : other = hostId
    · exact same ▸ here
    · exact inStep.same other same
  · intro other absent
    by_cases same : other = hostId
    · rw [same] at absent
      simp [absent] at present
    · exact inStep.fresh other same absent

theorem InStepBut.put (inStep : InStepBut hostId registry) (own : written.hostId = hostId)
    : InStepBut hostId (registry.put written) := by
  refine ⟨?_, inStep.cursor, ?_⟩
  · intro other apart
    rw [inMemory_put, if_neg (fun same => apart (same.symm.trans own))]
    exact inStep.same other apart
  · intro other apart absent
    refine inStep.fresh other apart ?_
    simpa [FaultyRegistry.put, own, apart.symm] using absent

theorem InStepBut.saveHost_same (inStep : InStepBut hostId registry) (own : written.hostId = hostId)
    {other : String} (apart : other ≠ hostId)
    : inMemory (registry.saveHost written) other = inStore (registry.saveHost written) other := by
  rw [inStore_saveHost, if_neg (fun same => apart (same.symm.trans own))]
  exact inStep.same other apart

-- A record that goes on from the stored history

section Persisted

variable (inStep : InStepBut hostId registry) (own : written.hostId = hostId)
  {more : List StatusChange} (history : written.history = registry.events hostId ++ more)

include inStep history

theorem events_saveHost
    : registry.events hostId ++ written.history.drop (registry.persisted hostId)
      = written.history := by
  rw [history, inStep.cursor, List.drop_left]

include own

theorem InStepBut.persist_done : InStepBut hostId (registry.persist written .done).2 := by
  have events := events_saveHost inStep history
  refine ⟨fun other apart => inStep.saveHost_same own apart, ?_, ?_⟩
  · intro other
    simp only [FaultyRegistry.persist, FaultyRegistry.saveHost, own]
    by_cases same : other = hostId
    · subst same
      rw [Function.update_self, Function.update_self, events]
    · rw [Function.update_of_ne same, Function.update_of_ne same]
      exact inStep.cursor other
  · intro other apart absent
    simp only [FaultyRegistry.persist, FaultyRegistry.saveHost, own]
    rw [Function.update_of_ne apart]
    exact inStep.fresh other apart absent

theorem events_persist_done
    : (registry.persist written .done).2.events hostId = written.history := by
  simp only [FaultyRegistry.persist, FaultyRegistry.saveHost, own, Function.update_self]
  exact events_saveHost inStep history

theorem inStore_persist_done
    : inStore (registry.persist written .done).2 hostId
      = some ⟨written.status, written.trustTier, storedSpec registry.db hostId written.status, none,
          written.history, written.lastHeartbeat⟩ := by
  change inStore (registry.saveHost written) hostId = _
  rw [inStore_saveHost, if_pos own, events_saveHost inStep history]

theorem cursor_persist_lost_iff
    : (∀ other, (registry.persist written .lost).2.persisted other
        = ((registry.persist written .lost).2.events other).length)
      ↔ more = [] := by
  have events := events_saveHost inStep history
  simp only [FaultyRegistry.persist, FaultyRegistry.saveHost, own]
  constructor
  · intro counted
    have here := counted hostId
    rw [Function.update_self, events, history, inStep.cursor, List.length_append] at here
    exact List.length_eq_zero_iff.mp (by omega)
  · intro nothing other
    by_cases same : other = hostId
    · subst same
      rw [Function.update_self, events, history, nothing, List.append_nil, inStep.cursor]
    · rw [Function.update_of_ne same]
      exact inStep.cursor other

variable (memory : registry.hosts.find? hostId = some written)
  (unreserved : written.verifyReservation = none)
  (spec : storedSpec registry.db hostId written.status = written.pendingVerification)

include memory unreserved spec

theorem inStep_persist_done : InStep (registry.persist written .done).2 := by
  refine (inStep.persist_done own history).inStep ?_ ?_
  · rw [inStore_persist_done inStep own history, spec]
    simp [inMemory, FaultyRegistry.persist, FaultyRegistry.saveHost, memory, factsOf, unreserved]
  · simp [FaultyRegistry.persist, FaultyRegistry.saveHost, memory]

theorem same_persist_lost (other : String)
    : inMemory (registry.persist written .lost).2 other
      = inStore (registry.persist written .lost).2 other := by
  by_cases same : other = hostId
  · subst same
    change inMemory registry other = inStore (registry.saveHost written) other
    rw [inStore_saveHost, if_pos own, events_saveHost inStep history, spec]
    simp [inMemory, memory, factsOf, unreserved]
  · exact inStep.saveHost_same own same

theorem inStep_persist_lost_iff : InStep (registry.persist written .lost).2 ↔ more = [] := by
  rw [← cursor_persist_lost_iff inStep own history]
  constructor
  · exact fun held => held.cursor
  · intro counted
    refine ⟨same_persist_lost inStep own history memory unreserved spec, counted, ?_⟩
    intro other absent
    have apart : other ≠ hostId := by
      intro same
      subst same
      exact absurd (absent.symm.trans memory) (by simp)
    simp only [FaultyRegistry.persist, FaultyRegistry.saveHost, own, Function.update_of_ne apart]
    exact inStep.fresh other apart absent

end Persisted

theorem InStep.record (inStep : InStep registry) (found : registry.hosts.find? hostId = some h)
    : h.history = registry.events hostId ∧ h.verifyReservation = none
      ∧ h.pendingVerification = storedSpec registry.db hostId h.status
      ∧ inStore registry hostId = some (factsOf h) := by
  have same := inStep.same hostId
  rw [inMemory, found, Option.map_some] at same
  refine ⟨?_, ?_, ?_, same.symm⟩
  all_goals
    rw [inStore] at same
    obtain ⟨row, _, facts⟩ := Option.map_eq_some_iff.mp same.symm
    simp only [factsOf, HostFacts.mk.injEq] at facts
    obtain ⟨status, _, spec, reserved, events, _⟩ := facts
  · exact events.symm
  · exact reserved.symm
  · rw [← spec, status]

-- Operations that write one record

def PlainCall : FaultyCall → Prop
  | .apply .. => False
  | .submitVerification .. => False
  | _ => True

theorem FaultAtomic.of_plain {visit : Visit FaultyRegistry FaultyCall Bool}
    (plain : PlainCall visit.call)
    (unchanged : ∀ hostId, inMemory visit.after hostId = inStore visit.after hostId
      ∨ inMemory visit.after hostId = inMemory visit.before hostId)
    : FaultAtomic visit := by
  refine ⟨unchanged, ?_, ?_⟩
  · intro host jobId output elapsed clock finish save call
    rw [call] at plain
    exact plain.elim
  · intro owner model count vram region own host clock save call
    rw [call] at plain
    exact plain.elim

/-- A call that raised left nothing half done. -/
def AtomicVisit (visit : Visit FaultyRegistry FaultyCall Bool) : Prop :=
  visit.reply = true → FaultAtomic visit

def StaysAtomic (visit : Visit FaultyRegistry FaultyCall Bool) : Prop :=
  InStep visit.after ∧ AtomicVisit visit

/-- A visit that changes neither memory nor store owes nothing. -/
theorem staysAtomic_of_same (inStep : InStep registry) (hosts : after.hosts = registry.hosts)
    (persisted : after.persisted = registry.persisted) (db : after.db = registry.db)
    (events : after.events = registry.events)
    : StaysAtomic ⟨registry, call, raised, after⟩ := by
  have memory : ∀ hostId, inMemory after hostId = inMemory registry hostId := by
    intro hostId
    rw [inMemory, inMemory, hosts]
  refine ⟨⟨?_, ?_, ?_⟩, fun _ => ⟨fun hostId => .inr (memory hostId), ?_, ?_⟩⟩
  · intro hostId
    rw [memory, inStep.same]
    simp only [inStore, db, events]
  · intro hostId
    simp only [persisted, events]
    exact inStep.cursor hostId
  · intro hostId absent
    rw [hosts] at absent
    rw [events]
    exact inStep.fresh hostId absent
  · intro _ _ _ _ _ _ _ _ hostId now sla schedulable
    simpa only [isSchedulable, hosts] using schedulable
  · intro _ _ _ _ _ _ _ _ _ _ hostId absent
    simpa only [hosts] using absent

/-- What an operation writes over a record: the store can hold it, and its history goes on. -/
structure Writes (registry : FaultyRegistry) (h written : HostRecord) (more : List StatusChange)
    : Prop where
  own : written.hostId = h.hostId
  unreserved : written.verifyReservation = none
  spec : storedSpec registry.db h.hostId written.status = written.pendingVerification
  history : written.history = h.history ++ more

/-- A record that is written over a known one goes through exactly when the store answers, or fails
without a change to lose, or loses its answer without an event to count.
-/
theorem staysAtomic_persist_iff (inStep : InStep registry)
    (found : registry.hosts.find? hostId = some h) {more : List StatusChange}
    (writes : Writes registry h written more) (plain : PlainCall call) (save : StoreOutcome)
    : StaysAtomic ⟨registry, call, ((registry.put written).persist written save).1,
        ((registry.put written).persist written save).2⟩
      ↔ (save = .failed → factsOf written = factsOf h) ∧ (save = .lost → more = []) := by
  have key : h.hostId = hostId := (Table.find?_some found).2
  obtain ⟨history, _, _, stored⟩ := inStep.record found
  have own : written.hostId = hostId := writes.own.trans key
  have but : InStepBut hostId (registry.put written) := (inStep.but hostId).put own
  have goesOn : written.history = (registry.put written).events hostId ++ more := by
    rw [writes.history, history]
    rfl
  have memory : (registry.put written).hosts.find? hostId = some written := by
    simp [FaultyRegistry.put, own]
  have spec : storedSpec (registry.put written).db hostId written.status
      = written.pendingVerification := key ▸ writes.spec
  cases save with
  | done =>
      have kept := inStep_persist_done but own goesOn memory writes.unreserved spec
      simp only [reduceCtorEq, false_implies, and_self, iff_true]
      exact ⟨kept, fun raised => absurd raised (by simp [FaultyRegistry.persist])⟩
  | failed =>
      simp only [reduceCtorEq, false_implies, and_true, true_implies]
      constructor
      · intro atomic
        have either := (atomic.2 rfl).unchanged hostId
        have before : inMemory registry hostId = some (factsOf h) :=
          (inStep.same hostId).trans stored
        have after : inMemory (registry.put written) hostId = some (factsOf written) := by
          rw [inMemory_put, if_pos own]
        rcases either with held | kept
        · exact Option.some.inj (after.symm.trans (held.trans stored))
        · exact Option.some.inj (after.symm.trans (kept.trans before))
      · intro same
        have unchanged : ∀ other, inMemory (registry.put written) other = inMemory registry other := by
          intro other
          rw [inMemory_put]
          split
          · rename_i here
            rw [same, ← here, own, inStep.same, stored]
          · rfl
        refine ⟨⟨?_, inStep.cursor, ?_⟩, fun _ => .of_plain plain (fun other => .inr (unchanged other))⟩
        · exact fun other => (unchanged other).trans (inStep.same other)
        · intro other absent
          by_cases here : other = hostId
          · rw [here] at absent
            exact absurd (absent.symm.trans memory) (by simp)
          · exact but.fresh other here absent
  | lost =>
      have exact_ := inStep_persist_lost_iff but own goesOn memory writes.unreserved spec
      simp only [reduceCtorEq, false_implies, true_and, true_implies]
      refine ⟨fun atomic => exact_.mp atomic.1, ?_⟩
      intro nothing
      have kept := exact_.mpr nothing
      exact ⟨kept, fun _ => .of_plain plain (fun other => .inl (kept.same other))⟩

theorem staysAtomic_rewrite_iff (inStep : InStep registry) (plain : PlainCall call)
    (write : HostRecord → Option HostRecord) (refused : Bool) (save : StoreOutcome)
    (more : HostRecord → List StatusChange)
    (writes : ∀ h written, registry.hosts.find? hostId = some h → write h = some written →
      Writes registry h written (more h))
    : StaysAtomic ⟨registry, call, (registry.rewrite hostId write refused save).1,
        (registry.rewrite hostId write refused save).2⟩
      ↔ ∀ h, registry.hosts.find? hostId = some h → ∀ written, write h = some written →
        (save = .failed → factsOf written = factsOf h) ∧ (save = .lost → more h = []) := by
  unfold FaultyRegistry.rewrite
  cases found : registry.hosts.find? hostId with
  | none =>
      simp only [Option.bind_none, reduceCtorEq, false_implies, implies_true, iff_true]
      exact staysAtomic_of_same inStep rfl rfl rfl rfl
  | some h =>
      simp only [Option.bind_some, Option.some.injEq, forall_eq']
      cases write_ : write h with
      | none =>
          simp only [reduceCtorEq, false_implies, implies_true, iff_true]
          exact staysAtomic_of_same inStep rfl rfl rfl rfl
      | some written =>
          simp only [Option.some.injEq, forall_eq']
          exact staysAtomic_persist_iff inStep found (writes h written found write_) plain save

/-- The application is admissible and its identifier free. -/
def Registers (names : Names) (registry : FaultyRegistry) (gpuModel : String) (gpuCount : ℤ)
    (vramGb : ℚ) (hostId : Option String)
    : Prop :=
  ¬ (gpuCount < 1 ∨ vramGb ≤ 0 ∨ pyStrip gpuModel = "") ∧ hostId.map isHostId ≠ some false
  ∧ registry.hosts.find? (hostId.getD (names.hostId registry.drawn)) = none

/-- No call of the store raises where a change of memory would be lost or an event not counted. A
registering `apply`, a reservation, a judged submission and a suspension need every answer of the
store. A release needs its answer, and a specification has to be taken. A promotion and a heartbeat
only must not fail while they change something. A judged submission does not raise by itself.
-/
def NothingLost (names : Names) (bench : Bench) (registry : FaultyRegistry) : FaultyCall → Prop
  | .apply _ gpuModel gpuCount vramGb _ _ hostId _ save =>
      Registers names registry gpuModel gpuCount vramGb hostId → save = .done
  | .startVerification hostId thresholds _ n _ hashFails save last =>
      ¬ (n < 1 ∨ maxExactN < n) → ∀ h, registry.hosts.find? hostId = some h →
        ∀ reserved, h.reserve (thresholds h.gpuModel) (names.hex registry.drawn) = some reserved →
          save = .done ∧ (hashFails = true → last = .done) ∧ (hashFails = false → last ≠ .failed)
  | .submitVerification hostId jobId output elapsed now finish save =>
      ∀ h, registry.hosts.find? hostId = some h → ∀ judged,
        h.submit bench jobId output elapsed now = some judged →
          judged.verdict ≠ .raised ∧ finish = .done ∧ save = .done
  | .promote hostId save =>
      ∀ h, registry.hosts.find? hostId = some h → h.status = .active → h.trustTier ≠ .verified →
        save ≠ .failed
  | .suspend hostId reason save =>
      ∀ h, registry.hosts.find? hostId = some h → (h.suspend reason).isSome → save = .done
  | .heartbeat hostId now save =>
      ∀ h, registry.hosts.find? hostId = some h → h.status = .active →
        h.lastHeartbeat ≠ some now → save ≠ .failed
  | .sweepSla hostId now sla save =>
      ∀ h, registry.hosts.find? hostId = some h → h.misses now sla = true → save = .done

/-- From here the call leaves nothing half done exactly when it loses nothing. -/
def ExactAt (names : Names) (bench : Bench) (registry : FaultyRegistry) (call : FaultyCall) : Prop :=
  StaysAtomic ⟨registry, call, (faultyStep names bench registry call).1,
      (faultyStep names bench registry call).2⟩
    ↔ NothingLost names bench registry call

theorem InStep.idle_of_active (inStep : InStep registry)
    (found : registry.hosts.find? hostId = some h) (active : h.status = .active)
    : h.pendingVerification = none := by
  rw [(inStep.record found).2.2.1, storedSpec, active, if_neg (by simp)]

/-- An operation that only an active host takes, without an event, goes through unless it fails while
it changes something.
-/
theorem staysAtomic_active_iff (inStep : InStep registry) (plain : PlainCall call)
    {write : HostRecord → Option HostRecord} (change : HostRecord → HostRecord)
    (writes : ∀ h, write h = if h.status = .active then some (change h) else none)
    (shape : ∀ h, (change h).hostId = h.hostId ∧ (change h).status = h.status
      ∧ (change h).pendingVerification = h.pendingVerification
      ∧ (change h).verifyReservation = h.verifyReservation ∧ (change h).history = h.history) (refused : Bool) (save : StoreOutcome)
    : StaysAtomic ⟨registry, call, (registry.rewrite hostId write refused save).1,
        (registry.rewrite hostId write refused save).2⟩
      ↔ ∀ h, registry.hosts.find? hostId = some h → h.status = .active →
        factsOf (change h) ≠ factsOf h → save ≠ .failed := by
  refine (staysAtomic_rewrite_iff inStep plain write refused save (fun _ => []) ?_).trans ?_
  · intro h written found applied
    rw [writes] at applied
    split at applied
    · rename_i active
      obtain rfl := Option.some.inj applied
      obtain ⟨own, status, pending, reservation, history⟩ := shape h
      obtain ⟨_, unreserved, _, _⟩ := inStep.record found
      refine ⟨own, reservation.trans unreserved, ?_, history.trans (List.append_nil _).symm⟩
      rw [pending, status, inStep.idle_of_active found active, storedSpec, active,
        if_neg (by simp)]
    · cases applied
  · constructor
    · intro legal h found active differs failed
      exact differs ((legal h found (change h) (by rw [writes, if_pos active])).1 failed)
    · intro legal h found written applied
      refine ⟨?_, fun _ => rfl⟩
      intro failed
      rw [writes] at applied
      split at applied
      · rename_i active
        obtain rfl := Option.some.inj applied
        by_contra differs
        exact legal h found active differs failed
      · cases applied

theorem promote_exact (inStep : InStep registry) (hostId : String) (save : StoreOutcome)
    : ExactAt names bench registry (.promote hostId save) := by
  have plain : PlainCall (.promote hostId save) := trivial
  refine (staysAtomic_active_iff inStep plain (fun h => { h with trustTier := .verified })
    (fun _ => rfl) (fun _ => ⟨rfl, rfl, rfl, rfl, rfl⟩) true save).trans ?_
  simp [NothingLost, factsOf, eq_comm]

theorem heartbeat_exact (inStep : InStep registry) (hostId : String) (now : ℚ) (save : StoreOutcome)
    : ExactAt names bench registry (.heartbeat hostId now save) := by
  have plain : PlainCall (.heartbeat hostId now save) := trivial
  refine (staysAtomic_active_iff inStep plain (fun h => { h with lastHeartbeat := some now })
    (fun _ => rfl) (fun _ => ⟨rfl, rfl, rfl, rfl, rfl⟩) false save).trans ?_
  simp [NothingLost, factsOf, eq_comm]

/-- An operation that adds an event goes through exactly when the store answers. -/
theorem staysAtomic_event_iff (inStep : InStep registry) (plain : PlainCall call)
    (write : HostRecord → Option HostRecord) (refused : Bool) (save : StoreOutcome)
    (event : HostRecord → StatusChange)
    (writes : ∀ h written, registry.hosts.find? hostId = some h → write h = some written →
      Writes registry h written [event h])
    : StaysAtomic ⟨registry, call, (registry.rewrite hostId write refused save).1,
        (registry.rewrite hostId write refused save).2⟩
      ↔ ∀ h, registry.hosts.find? hostId = some h → (write h).isSome → save = .done := by
  refine (staysAtomic_rewrite_iff inStep plain write refused save _ writes).trans ?_
  constructor
  · intro legal h found applies
    obtain ⟨written, write_⟩ := Option.isSome_iff_exists.mp applies
    obtain ⟨failed, lost⟩ := legal h found written write_
    cases save with
    | done => rfl
    | failed =>
        have histories := congrArg HostFacts.history (failed rfl)
        simp [factsOf, (writes h written found write_).history] at histories
    | lost => exact absurd (lost rfl) (by simp)
  · intro legal h found written write_
    have answered := legal h found (by simp [write_])
    simp [answered]

theorem suspend_exact (inStep : InStep registry) (hostId reason : String) (save : StoreOutcome)
    : ExactAt names bench registry (.suspend hostId reason save) := by
  have plain : PlainCall (.suspend hostId reason save) := trivial
  refine staysAtomic_event_iff inStep plain _ true save
    (fun h => ⟨h.status, .suspended, reason⟩) ?_
  intro h written found suspended
  obtain ⟨moved, transition, rfl⟩ := Option.map_eq_some_iff.mp suspended
  unfold HostRecord.transition at transition
  split at transition
  · obtain rfl := Option.some.inj transition
    exact ⟨rfl, rfl, rfl, rfl⟩
  · cases transition

theorem sweepSla_exact (inStep : InStep registry) (hostId : String) (now sla : ℚ)
    (save : StoreOutcome)
    : ExactAt names bench registry (.sweepSla hostId now sla save) := by
  have plain : PlainCall (.sweepSla hostId now sla save) := trivial
  refine (staysAtomic_event_iff inStep plain _ false save
    (fun h => ⟨h.status, .suspended, "heartbeat SLA missed"⟩) ?_).trans ?_
  · intro h written found swept
    split at swept
    · rename_i misses
      obtain rfl := Option.some.inj swept
      obtain ⟨_, unreserved, _, _⟩ := inStep.record found
      have active : h.status = .active := by
        simp only [HostRecord.misses, Bool.and_eq_true, decide_eq_true_eq] at misses
        exact misses.1
      refine ⟨rfl, unreserved, ?_, rfl⟩
      exact (inStep.idle_of_active found active).symm
    · cases swept
  · simp [NothingLost]

-- Applications

/-- An exception of a registering `apply` leaves its identifier taken. -/
theorem apply_exact (inStep : InStep registry) (ownerContactRef gpuModel : String) (gpuCount : ℤ)
    (vramGb : ℚ) (region : String) (ownHost : Bool) (wanted : Option String) (now : ℚ)
    (save : StoreOutcome)
    : ExactAt names bench registry
        (.apply ownerContactRef gpuModel gpuCount vramGb region ownHost wanted now save) := by
  unfold ExactAt NothingLost faultyStep FaultyRegistry.apply Registers
  by_cases invalid : gpuCount < 1 ∨ vramGb ≤ 0 ∨ pyStrip gpuModel = ""
  · simp only [if_pos invalid]
    exact iff_of_true (staysAtomic_of_same inStep rfl rfl rfl rfl)
      (fun registers => absurd invalid registers.1)
  · by_cases malformed : wanted.map isHostId = some false
    · simp only [if_neg invalid, if_pos malformed]
      exact iff_of_true (staysAtomic_of_same inStep rfl rfl rfl rfl)
        (fun registers => absurd malformed registers.2.1)
    · simp only [if_neg invalid, if_neg malformed]
      generalize wanted.getD (names.hostId registry.drawn) = hostId
      cases taken : registry.hosts.find? hostId with
      | some other =>
          exact iff_of_true (staysAtomic_of_same inStep rfl rfl rfl rfl)
            (fun registers => absurd registers.2.2 (by simp))
      | none =>
          simp only [Option.isSome_none, Bool.false_eq_true, if_false]
          have drawn : InStep registry.draw := ⟨inStep.same, inStep.cursor, inStep.fresh⟩
          generalize written : FaultyRegistry.applied ownerContactRef gpuModel gpuCount vramGb region
            ownHost hostId now = h
          have own : h.hostId = hostId := written ▸ rfl
          have memory : (registry.draw.put h).hosts.find? hostId = some h := by
            simp [FaultyRegistry.put, own]
          -- Whatever the store does with it, the record is in memory.
          have kept : ((registry.draw.put h).persist h save).2.hosts.find? hostId = some h := by
            cases save with
            | done => exact memory
            | failed => exact memory
            | lost => exact memory
          constructor
          · intro atomic _
            have returned : ((registry.draw.put h).persist h save).1 = false := by
              by_contra raised
              have free := (atomic.2 (by simpa using raised)).repeatable _ _ _ _ _ _ _ _ _ rfl
                hostId taken
              exact absurd (free.symm.trans kept) (by simp)
            cases save with
            | done => rfl
            | failed => cases returned
            | lost => cases returned
          · intro legal
            obtain rfl := legal ⟨invalid, malformed, trivial⟩
            have but : InStepBut hostId (registry.draw.put h) := (drawn.but hostId).put own
            have history : h.history = (registry.draw.put h).events hostId ++ [] := by
              rw [List.append_nil]
              exact (written ▸ rfl : h.history = []).trans (inStep.fresh hostId taken).symm
            exact ⟨inStep_persist_done but own history memory (written ▸ rfl) (written ▸ rfl),
              fun raised => absurd raised (by simp [FaultyRegistry.persist])⟩

-- Submissions

theorem not_faultAtomic_of_status (inStep : InStep registry)
    (found : registry.hosts.find? hostId = some h)
    (memory : inMemory after hostId = some (factsOf written))
    (rows : after.db.hosts = registry.db.hosts) (moved : written.status ≠ h.status)
    : ¬ FaultAtomic ⟨registry, call, raised, after⟩ := by
  intro atomic
  have stored := (inStep.record found).2.2.2
  rcases atomic.unchanged hostId with held | kept
  · have same := memory.symm.trans held
    rw [inStore, rows] at same
    rw [inStore] at stored
    obtain ⟨row, found', facts⟩ := Option.map_eq_some_iff.mp stored
    rw [found', Option.map_some, Option.some.injEq] at same
    exact moved ((congrArg HostFacts.status same).trans (congrArg HostFacts.status facts))
  · have before : inMemory registry hostId = some (factsOf h) := by rw [inMemory, found, Option.map_some]
    have same := Option.some.inj (memory.symm.trans (kept.trans before))
    exact moved (congrArg HostFacts.status same)

theorem not_faultAtomic_of_spec (inStep : InStep registry)
    (found : registry.hosts.find? hostId = some h) (own : written.hostId = hostId)
    (forgot : written.pendingVerification ≠ h.pendingVerification)
    : ¬ FaultAtomic ⟨registry, call, raised, registry.put written⟩ := by
  intro atomic
  have stored := (inStep.record found).2.2.2
  have memory : inMemory (registry.put written) hostId = some (factsOf written) := by
    rw [inMemory_put, if_pos own]
  have same : factsOf written = factsOf h := by
    rcases atomic.unchanged hostId with held | kept
    · exact Option.some.inj (memory.symm.trans (held.trans stored))
    · exact Option.some.inj (memory.symm.trans (kept.trans ((inStep.same hostId).trans stored)))
  exact forgot (congrArg HostFacts.spec same)

theorem row_of_spec (inStep : InStep registry) (found : registry.hosts.find? hostId = some h)
    {spec : VerificationJobSpec} (pending : h.pendingVerification = some spec)
    : ∃ row ∈ registry.db.verifications, row.hostId = hostId ∧ row.jobId = spec.jobId := by
  have stored := (inStep.record found).2.2.1
  rw [pending, storedSpec] at stored
  split at stored
  · obtain ⟨row, last, rfl⟩ := Option.map_eq_some_iff.mp stored.symm
    have member := List.mem_of_getLast? last
    rw [List.mem_filter, decide_eq_true_eq] at member
    exact ⟨row, member.1, member.2.1, rfl⟩
  · cases stored

theorem storedSpec_finishVerification (drawn : DrawnJobs names registry) {row : VerificationRow}
    (member : row ∈ registry.db.verifications) (passed : Bool) {other : String}
    (apart : other ≠ row.hostId) (status : HostStatus)
    : storedSpec (registry.db.finishVerification row.jobId passed) other status
      = storedSpec registry.db other status := by
  unfold storedSpec HostDb.unfinished
  simp only [HostDb.finishVerification]
  rw [filter_finished]
  have others : ((registry.db.verifications.filter
      (fun row => row.hostId = other ∧ row.passed = none)).filter
        (fun found => found.jobId ≠ row.jobId))
      = registry.db.verifications.filter (fun row => row.hostId = other ∧ row.passed = none) := by
    rw [List.filter_eq_self]
    intro found kept
    rw [List.mem_filter, decide_eq_true_eq] at kept
    rw [decide_eq_true_eq]
    intro same
    have equal := List.inj_on_of_nodup_map drawn.unique kept.1 member same
    exact apart (kept.2.1.symm.trans (congrArg VerificationRow.hostId equal))
  rw [others]

theorem InStepBut.finishVerification (inStep : InStepBut hostId registry)
    (drawn : DrawnJobs names registry) {row : VerificationRow}
    (member : row ∈ registry.db.verifications) (own : row.hostId = hostId) (passed : Bool)
    : InStepBut hostId
        { registry with db := registry.db.finishVerification row.jobId passed } := by
  refine ⟨?_, inStep.cursor, inStep.fresh⟩
  intro other apart
  have same := inStep.same other apart
  simp only [inStore] at same ⊢
  simp only [storedSpec_finishVerification drawn member passed (own.symm ▸ apart)]
  exact same

theorem submit_writes {jobId output : String} {elapsed : Option ℚ} {now : ℚ}
    {judged : HostRecord.Judged} (submitted : h.submit bench jobId output elapsed now = some judged)
    (quiet : judged.verdict ≠ .raised)
    : judged.record.status ≠ .verifying
      ∧ ∃ event, judged.record.history = h.history ++ [event] := by
  obtain ⟨_, _, _, _, _, _, passed | failed | raised⟩ := submit_cases submitted
  · obtain ⟨_, _, _, active, history⟩ := passed
    exact ⟨by simp [active], _, history⟩
  · obtain ⟨_, reason, suspended, history⟩ := failed
    exact ⟨by simp [suspended], _, history⟩
  · exact absurd raised.1 quiet

theorem submit_exact (inStep : InStep registry) (drawn : DrawnJobs names registry)
    (hostId jobId output : String) (elapsed : Option ℚ) (now : ℚ) (finish save : StoreOutcome)
    : ExactAt names bench registry
        (.submitVerification hostId jobId output elapsed now finish save) := by
  simp only [ExactAt, NothingLost, faultyStep, FaultyRegistry.submitVerification]
  cases found : registry.hosts.find? hostId with
  | none =>
      simp only [Option.bind_none]
      exact iff_of_true (staysAtomic_of_same inStep rfl rfl rfl rfl)
        (fun h absent => absurd absent (by simp))
  | some h =>
      simp only [Option.bind_some, Option.some.injEq, forall_eq']
      cases submitted : h.submit bench jobId output elapsed now with
      | none =>
          exact iff_of_true (staysAtomic_of_same inStep rfl rfl rfl rfl)
            (fun judged absent => absurd absent (by simp))
      | some judged =>
          simp only [Option.some.injEq, forall_eq']
          have key : h.hostId = hostId := (Table.find?_some found).2
          obtain ⟨pending, verifying, named, sameHost, taken, reserved, _⟩ := submit_cases submitted
          have own : judged.record.hostId = hostId := sameHost.trans key
          have memory : (registry.put judged.record).hosts.find? hostId = some judged.record := by
            simp [FaultyRegistry.put, own]
          have after : inMemory (registry.put judged.record) hostId = some (factsOf judged.record) := by
            rw [inMemory_put, if_pos own]
          by_cases raised : judged.verdict = .raised
          · -- The specification was taken and nothing was stored.
            simp only [if_pos raised]
            have forgot : judged.record.pendingVerification ≠ h.pendingVerification := by
              rw [taken, pending]
              simp
            exact iff_of_false
              (fun atomic => not_faultAtomic_of_spec inStep found own forgot (atomic.2 rfl))
              (fun legal => legal.1 raised)
          · simp only [if_neg raised]
            obtain ⟨moved, event, history⟩ := submit_writes submitted raised
            have left : judged.record.status ≠ h.status := verifying ▸ moved
            cases finish with
            | failed =>
                exact iff_of_false
                  (fun atomic => not_faultAtomic_of_status inStep found (by exact after) (by rfl) left
                    (atomic.2 rfl))
                  (fun legal => by cases legal.2.1)
            | lost =>
                exact iff_of_false
                  (fun atomic => not_faultAtomic_of_status inStep found (by exact after) (by rfl) left
                    (atomic.2 rfl))
                  (fun legal => by cases legal.2.1)
            | done =>
                simp only [FaultyRegistry.storeCall, Bool.false_eq_true, if_false, true_and]
                obtain ⟨row, member, rowHost, rowJob⟩ := row_of_spec inStep found pending
                have put : InStepBut hostId (registry.put judged.record) := (inStep.but hostId).put own
                have but := put.finishVerification ⟨drawn.drawn, drawn.unique⟩ member rowHost
                  (judged.verdict = HostRecord.Verdict.passed)
                rw [rowJob, named] at but
                have goesOn : judged.record.history = registry.events hostId ++ [event] := by
                  rw [history, (inStep.record found).1]
                have unreserved : judged.record.verifyReservation = none :=
                  reserved.trans (inStep.record found).2.1
                have spec : storedSpec (registry.db.finishVerification jobId
                    (judged.verdict = HostRecord.Verdict.passed)) hostId judged.record.status
                    = judged.record.pendingVerification := by
                  rw [storedSpec, if_neg moved, taken]
                cases save with
                | done =>
                    have kept := inStep_persist_done but own goesOn memory unreserved spec
                    exact iff_of_true ⟨kept, fun raised => by cases raised⟩ ⟨raised, rfl⟩
                | failed =>
                    exact iff_of_false
                      (fun atomic => not_faultAtomic_of_status inStep found (by exact after) (by rfl) left
                        (atomic.2 rfl))
                      (fun legal => by cases legal.2)
                | lost =>
                    have exact_ := inStep_persist_lost_iff but own goesOn memory unreserved spec
                    exact iff_of_false (fun atomic => absurd (exact_.mp atomic.1) (by simp))
                      (fun legal => by cases legal.2)

-- Verifications

theorem not_faultAtomic_of_reserved (inStep : InStep registry) {token : String}
    (memory : inMemory after hostId = some (factsOf written))
    (held : written.verifyReservation = some token)
    : ¬ FaultAtomic ⟨registry, call, raised, after⟩ := by
  have unreserved : ∀ (current : FaultyRegistry) (facts : HostFacts),
      inStore current hostId = some facts → facts.reservation = none := by
    intro current facts stored
    obtain ⟨row, _, rfl⟩ := Option.map_eq_some_iff.mp stored
    rfl
  intro atomic
  have free : (factsOf written).reservation = none := by
    rcases atomic.unchanged hostId with stored | kept
    · exact unreserved after _ (stored.symm.trans memory)
    · exact unreserved registry _ ((inStep.same hostId).symm.trans (kept.symm.trans memory))
  exact absurd (held.symm.trans free) (by simp)

theorem storedSpec_startVerification (db : HostDb) (waiting : Reservation) (jobId other : String)
    (status : HostStatus)
    : storedSpec (db.startVerification (Registry.newSpec bench waiting jobId)) other status
      = if waiting.hostId = other ∧ status = .verifying then
          some (Registry.newSpec bench waiting jobId)
        else storedSpec db other status := by
  unfold storedSpec HostDb.unfinished
  by_cases verifying : status = .verifying
  · by_cases own : waiting.hostId = other
    · subst own
      simp [verifying, HostDb.startVerification, Registry.newSpec, VerificationRow.spec]
    · simp [verifying, own, HostDb.startVerification, Registry.newSpec]
  · simp [verifying]

theorem InStepBut.startVerification (inStep : InStepBut hostId registry) {waiting : Reservation}
    (own : waiting.hostId = hostId) (jobId : String)
    : InStepBut hostId { registry with
        db := registry.db.startVerification (Registry.newSpec bench waiting jobId) } := by
  refine ⟨?_, inStep.cursor, inStep.fresh⟩
  intro other apart
  have same := inStep.same other apart
  have theirs : ∀ status, ¬ (waiting.hostId = other ∧ status = HostStatus.verifying) :=
    fun _ both => apart (both.1.symm.trans own)
  simp only [inStore] at same ⊢
  simp only [storedSpec_startVerification, if_neg (theirs _)]
  exact same

/-- Behind its reservation a failed hash goes through exactly when the store answers: then the host
is released in memory and in the store.
-/
theorem staysAtomic_released_iff (inStep : InStep registry) (plain : PlainCall call)
    {next : FaultyRegistry} {reserved : HostRecord} (but : InStepBut hostId next)
    (own : reserved.hostId = hostId) (events : next.events hostId = reserved.history)
    {token : String} (held : reserved.verifyReservation = some token)
    (idle : reserved.pendingVerification = none) {prevStatus : HostStatus}
    (left : prevStatus ≠ .verifying) (spec : VerificationJobSpec) (last : StoreOutcome)
    : StaysAtomic ⟨registry, call,
        (next.concludeVerification reserved prevStatus spec true last).1,
        (next.concludeVerification reserved prevStatus spec true last).2⟩
      ↔ last = .done := by
  have ownReleased : (FaultyRegistry.releasing reserved prevStatus).hostId = hostId := own
  have goesOn : (FaultyRegistry.releasing reserved prevStatus).history
      = (next.put (FaultyRegistry.releasing reserved prevStatus)).events hostId
        ++ [⟨.verifying, prevStatus, "verification reservation released"⟩] := by
    change reserved.history ++ _ = next.events hostId ++ _
    rw [events]
  have put : InStepBut hostId (next.put (FaultyRegistry.releasing reserved prevStatus)) :=
    but.put ownReleased
  have reservedStill : inMemory (next.put (FaultyRegistry.releasing reserved prevStatus)) hostId
      = some (factsOf (FaultyRegistry.releasing reserved prevStatus)) := by
    rw [inMemory_put, if_pos ownReleased]
  unfold FaultyRegistry.concludeVerification
  cases last with
  | failed =>
      exact iff_of_false (fun atomic => not_faultAtomic_of_reserved inStep
        (by exact reservedStill) (by exact held) (atomic.2 rfl)) (by simp)
  | lost =>
      exact iff_of_false (fun atomic => not_faultAtomic_of_reserved inStep
        (by exact reservedStill) (by exact held) (atomic.2 rfl)) (by simp)
  | done =>
      have saved := put.persist_done ownReleased goesOn
      have stored := inStore_persist_done put ownReleased goesOn
      have cleared : ({ FaultyRegistry.releasing reserved prevStatus with
          verifyReservation := none } : HostRecord).hostId = hostId := own
      have kept : InStep (((next.put (FaultyRegistry.releasing reserved prevStatus)).persist
          (FaultyRegistry.releasing reserved prevStatus) .done).2.put
            { FaultyRegistry.releasing reserved prevStatus with verifyReservation := none }) := by
        refine (saved.put cleared).inStep ?_ ?_
        · rw [inMemory_put, if_pos cleared]
          refine Eq.trans ?_ stored.symm
          simp [factsOf, FaultyRegistry.releasing, storedSpec, left, idle]
        · change ((Table.put _ _).find? hostId).isSome = true
          rw [Table.find?_put, if_pos cleared]
          rfl
      exact iff_of_true ⟨kept, fun _ => .of_plain plain (fun other => .inl (kept.same other))⟩ rfl

/-- Behind its reservation a computed hash goes through exactly when the store takes the
specification, whether it answers or not.
-/
theorem staysAtomic_issued_iff (plain : PlainCall call)
    (found : registry.hosts.find? hostId = some h) (left : h.status ≠ .verifying)
    {next : FaultyRegistry} {reserved : HostRecord} (but : InStepBut hostId next)
    (own : reserved.hostId = hostId) (verifying : reserved.status = .verifying)
    (stored : inStore next hostId = some ⟨reserved.status, reserved.trustTier,
      storedSpec next.db hostId reserved.status, none, reserved.history, reserved.lastHeartbeat⟩)
    {waiting : Reservation} (ofHost : waiting.hostId = hostId) {jobId : String}
    (fresh : jobId ∉ next.db.verifications.map VerificationRow.jobId) (last : StoreOutcome)
    : StaysAtomic ⟨registry, call,
        (next.concludeVerification reserved h.status (Registry.newSpec bench waiting jobId) false
          last).1,
        (next.concludeVerification reserved h.status (Registry.newSpec bench waiting jobId) false
          last).2⟩
      ↔ last ≠ .failed := by
  generalize completed : ({ reserved with
    verifyReservation := none
    pendingVerification := some (Registry.newSpec bench waiting jobId) } : HostRecord) = issued
  have issuedOwn : issued.hostId = hostId := completed ▸ own
  have memory : inMemory (next.put issued) hostId = some (factsOf issued) := by
    rw [inMemory_put, if_pos issuedOwn]
  have kept : InStep { next.put issued with
      db := next.db.startVerification (Registry.newSpec bench waiting jobId) } := by
    refine ((but.put issuedOwn).startVerification ofHost jobId).inStep ?_ ?_
    · refine memory.trans ?_
      obtain ⟨row, saved, facts⟩ := Option.map_eq_some_iff.mp stored
      have rows : (next.db.startVerification (Registry.newSpec bench waiting jobId)).hosts.find? hostId
          = some row := saved
      simp only [HostFacts.mk.injEq] at facts
      obtain ⟨status, tier, _, _, events, beat⟩ := facts
      have spec : storedSpec (next.db.startVerification (Registry.newSpec bench waiting jobId)) hostId
          reserved.status = some (Registry.newSpec bench waiting jobId) := by
        rw [storedSpec_startVerification, if_pos ⟨ofHost, verifying⟩]
      simp only [inStore, FaultyRegistry.put, rows, Option.map_some, spec, factsOf, ← completed, status,
        tier, events, beat]
    · simp [FaultyRegistry.put, issuedOwn]
  unfold FaultyRegistry.concludeVerification
  simp only [Bool.false_eq_true, if_false, completed]
  cases last with
  | done => exact iff_of_true ⟨kept, fun raised => by cases raised⟩ (by simp)
  | lost =>
      exact iff_of_true ⟨kept, fun _ => .of_plain plain (fun other => .inl (kept.same other))⟩
        (by simp)
  | failed =>
      refine iff_of_false ?_ (by simp)
      intro atomic
      rcases (atomic.2 rfl).unchanged hostId with held | same
      · -- The store holds an older specification at most, which has another identifier.
        have facts := memory.symm.trans (held.trans stored)
        have spec := congrArg HostFacts.spec (Option.some.inj facts)
        simp only [factsOf, ← completed, storedSpec, verifying, if_pos] at spec
        obtain ⟨row, newest, rebuilt⟩ := Option.map_eq_some_iff.mp spec.symm
        have member := (List.mem_filter.mp (List.mem_of_getLast? newest)).1
        have named : row.jobId = jobId := congrArg VerificationJobSpec.jobId rebuilt
        exact fresh (named ▸ List.mem_map_of_mem member)
      · have before : inMemory registry hostId = some (factsOf h) := by
          rw [inMemory, found, Option.map_some]
        have facts := Option.some.inj (memory.symm.trans (same.trans before))
        have status : issued.status = h.status := congrArg HostFacts.status facts
        exact left (status.symm.trans (completed ▸ verifying))

/-- A verification that is reserved goes through exactly when the store takes the reservation and
answers, and then either answers for the release or takes the specification.
-/
theorem startVerification_exact (inStep : InStep registry) (drawn : DrawnJobs names registry)
    (distinct : Function.Injective names.jobId) (hostId : String)
    (thresholds : String → Option (ℚ × ℚ)) (image : String) (n reps : ℤ) (hashFails : Bool)
    (save last : StoreOutcome)
    : ExactAt names bench registry
        (.startVerification hostId thresholds image n reps hashFails save last) := by
  have plain : PlainCall (.startVerification hostId thresholds image n reps hashFails save last) :=
    trivial
  unfold ExactAt NothingLost faultyStep FaultyRegistry.startVerification
  by_cases size : n < 1 ∨ maxExactN < n
  · simp only [if_pos size]
    exact iff_of_true (staysAtomic_of_same inStep rfl rfl rfl rfl)
      (fun proper => absurd size proper)
  · simp only [if_neg size]
    rw [imp_iff_right size]
    cases found : registry.hosts.find? hostId with
    | none =>
        exact iff_of_true (staysAtomic_of_same inStep rfl rfl rfl rfl)
          (fun h absent => absurd absent (by simp))
    | some h =>
        simp only [Option.some.injEq, forall_eq']
        cases reserving : h.reserve (thresholds h.gpuModel) (names.hex registry.drawn) with
        | none =>
            exact iff_of_true (staysAtomic_of_same inStep rfl rfl rfl rfl)
              (fun reserved absent => absurd absent (by simp))
        | some reserved =>
            simp only [Option.some.injEq, forall_eq']
            have key : h.hostId = hostId := (Table.find?_some found).2
            obtain ⟨allowed, shape⟩ := reserve_cases reserving
            have left : h.status ≠ .verifying := by
              intro verifying
              simp [verifying, allowedTransitions] at allowed
            have own : reserved.hostId = hostId := by
              rw [shape]
              exact key
            have held : reserved.verifyReservation = some (names.hex registry.drawn) := by rw [shape]
            have put : InStepBut hostId (registry.draw.put reserved) :=
              InStepBut.put ⟨(inStep.but hostId).same, inStep.cursor, (inStep.but hostId).fresh⟩ own
            have memory : inMemory (registry.draw.put reserved) hostId = some (factsOf reserved) := by
              rw [inMemory_put, if_pos own]
            have goesOn : reserved.history = (registry.draw.put reserved).events hostId
                ++ [⟨h.status, .verifying, "verification reserved"⟩] := by
              change reserved.history = registry.events hostId ++ _
              rw [shape, (inStep.record found).1]
            cases save with
            | failed =>
                exact iff_of_false
                  (fun atomic => not_faultAtomic_of_reserved inStep (by exact memory)
                    (by exact held) (atomic.2 rfl))
                  (fun legal => by cases legal.1)
            | lost =>
                exact iff_of_false
                  (fun atomic => not_faultAtomic_of_reserved inStep (by exact memory)
                    (by exact held) (atomic.2 rfl))
                  (fun legal => by cases legal.1)
            | done =>
                have but := put.persist_done own goesOn
                have events := events_persist_done put own goesOn
                have stored := inStore_persist_done put own goesOn
                cases hashFails with
                | true =>
                    refine (staysAtomic_released_iff inStep plain but own events held
                      (by rw [shape]) left
                      (Registry.newSpec bench (registry.reservation names h thresholds image n reps)
                        (names.jobId registry.drawn)) last).trans ?_
                    simp
                | false =>
                    have fresh : names.jobId registry.drawn
                        ∉ registry.db.verifications.map VerificationRow.jobId := by
                      intro member
                      obtain ⟨index, earlier, same⟩ := drawn.drawn _ member
                      have equal := distinct same
                      omega
                    refine (staysAtomic_issued_iff plain found left but own (by rw [shape])
                      stored (by exact key) fresh last).trans ?_
                    simp

-- Runs

theorem DrawnJobs.of_same (drawn : DrawnJobs names registry)
    (ids : after.db.verifications.map VerificationRow.jobId
      = registry.db.verifications.map VerificationRow.jobId) (later : registry.drawn ≤ after.drawn)
    : DrawnJobs names after := by
  refine ⟨?_, ids ▸ drawn.unique⟩
  intro jobId member
  obtain ⟨index, earlier, same⟩ := drawn.drawn jobId (ids ▸ member)
  exact ⟨index, earlier.trans_le later, same⟩

theorem DrawnJobs.persist (drawn : DrawnJobs names registry) (written : HostRecord)
    (save : StoreOutcome)
    : DrawnJobs names (registry.persist written save).2 := by
  cases save with
  | done => exact drawn.of_same rfl le_rfl
  | failed => exact drawn
  | lost => exact drawn.of_same rfl le_rfl

theorem DrawnJobs.put (drawn : DrawnJobs names registry) (written : HostRecord)
    : DrawnJobs names (registry.put written) :=
  drawn.of_same rfl le_rfl

theorem DrawnJobs.rewrite (drawn : DrawnJobs names registry) (hostId : String)
    (write : HostRecord → Option HostRecord) (refused : Bool) (save : StoreOutcome)
    : DrawnJobs names (registry.rewrite hostId write refused save).2 := by
  unfold FaultyRegistry.rewrite
  split
  · exact drawn
  · exact (drawn.put _).persist _ save

theorem DrawnJobs.conclude (drawn : DrawnJobs names registry)
    (distinct : Function.Injective names.jobId) (next : FaultyRegistry)
    (ids : next.db.verifications = registry.db.verifications)
    (later : next.drawn = registry.drawn + 2) (reserved : HostRecord) (prevStatus : HostStatus)
    (waiting : Reservation) (hashFails : Bool) (last : StoreOutcome)
    : DrawnJobs names (next.concludeVerification reserved prevStatus
        (Registry.newSpec bench waiting (names.jobId registry.drawn)) hashFails last).2 := by
  have kept : DrawnJobs names next := drawn.of_same (by rw [ids]) (by omega)
  have issued : ∀ written, DrawnJobs names { next.put written with
      db := next.db.startVerification
        (Registry.newSpec bench waiting (names.jobId registry.drawn)) } := by
    intro written
    refine ⟨?_, ?_⟩
    · intro jobId member
      simp only [HostDb.startVerification, List.map_append, List.map_cons, List.map_nil,
        List.mem_append, List.mem_singleton] at member
      rcases member with old | new
      · exact kept.drawn jobId old
      · refine ⟨registry.drawn, ?_, new⟩
        change registry.drawn < next.drawn
        omega
    · simp only [HostDb.startVerification, List.map_append, List.map_cons, List.map_nil]
      rw [List.nodup_append]
      refine ⟨kept.unique, by simp, ?_⟩
      intro jobId old other new same
      rw [List.mem_singleton] at new
      rw [ids] at old
      obtain ⟨index, earlier, named⟩ := drawn.drawn jobId old
      have equal := distinct (named.symm.trans (same.trans new))
      omega
  unfold FaultyRegistry.concludeVerification
  cases hashFails with
  | true =>
      simp only [if_true]
      split
      · exact (kept.put _).persist _ last
      · exact ((kept.put _).persist _ last).put _
  | false =>
      cases last with
      | done => exact issued _
      | failed => exact kept.put _
      | lost => exact issued _

/-- Every call keeps the identifiers of the verifications apart, whatever the store does. -/
theorem DrawnJobs.step (drawn : DrawnJobs names registry)
    (distinct : Function.Injective names.jobId) (bench : Bench) (call : FaultyCall)
    : DrawnJobs names (faultyStep names bench registry call).2 := by
  have more : DrawnJobs names registry.draw := drawn.of_same rfl (Nat.le_add_right _ 2)
  cases call with
  | apply ownerContactRef gpuModel gpuCount vramGb region ownHost hostId now save =>
      simp only [faultyStep, FaultyRegistry.apply]
      split
      · exact drawn
      · split
        · exact drawn
        · split
          · exact more
          · exact (more.put _).persist _ save
  | startVerification hostId thresholds image n reps hashFails save last =>
      simp only [faultyStep, FaultyRegistry.startVerification]
      split
      · exact drawn
      · split
        · exact more
        · split
          · exact more
          · rename_i reserved _
            have persisted := (more.put reserved).persist reserved save
            cases save with
            | failed => exact persisted
            | lost => exact persisted
            | done =>
                exact drawn.conclude distinct
                  ((registry.draw.put reserved).persist reserved .done).2 rfl rfl reserved _ _
                  hashFails last
  | submitVerification hostId jobId output elapsed now finish save =>
      simp only [faultyStep, FaultyRegistry.submitVerification]
      split
      · exact drawn
      · rename_i judged _
        split
        · exact drawn.put _
        · have finished : ∀ passed, DrawnJobs names { registry.put judged.record with
              db := registry.db.finishVerification jobId passed } := by
            intro passed
            refine drawn.of_same ?_ le_rfl
            simp only [HostDb.finishVerification, List.map_map]
            refine List.map_congr_left ?_
            intro row _
            simp only [Function.comp]
            split
            · rfl
            · rfl
          cases finish with
          | done => exact (finished _).persist _ save
          | failed => exact drawn.put _
          | lost => exact finished _
  | promote hostId save => exact drawn.rewrite hostId _ true save
  | suspend hostId reason save => exact drawn.rewrite hostId _ true save
  | heartbeat hostId now save => exact drawn.rewrite hostId _ false save
  | sweepSla hostId now sla save => exact drawn.rewrite hostId _ false save

theorem exactAt (inStep : InStep registry) (drawn : DrawnJobs names registry)
    (distinct : Function.Injective names.jobId) (bench : Bench) (call : FaultyCall)
    : ExactAt names bench registry call := by
  cases call with
  | apply => exact apply_exact inStep ..
  | startVerification => exact startVerification_exact inStep drawn distinct ..
  | submitVerification => exact submit_exact inStep drawn ..
  | promote => exact promote_exact inStep ..
  | suspend => exact suspend_exact inStep ..
  | heartbeat => exact heartbeat_exact inStep ..
  | sweepSla => exact sweepSla_exact inStep ..

theorem inStep_new : InStep .new :=
  ⟨fun _ => rfl, fun _ => rfl, fun _ _ => rfl⟩

theorem drawnJobs_new (names : Names) : DrawnJobs names .new := by
  refine ⟨?_, List.nodup_nil⟩
  intro jobId member
  cases member

/-- Along any calls, whatever the store does at each of its calls, every operation that raised is
atomic and the registry stays in step with its store, exactly when no call loses anything.
-/
theorem registry_atomic_iff (names : Names) (distinct : Function.Injective names.jobId)
    (bench : Bench) (calls : List FaultyCall)
    : (∀ visit ∈ visits (faultyStep names bench) .new calls,
        InStep visit.after ∧ AtomicVisit visit)
      ↔ ∀ visit ∈ visits (faultyStep names bench) .new calls,
        NothingLost names bench visit.before visit.call := by
  have preserved : ∀ current call, True → DrawnJobs names current →
      DrawnJobs names (faultyStep names bench current call).2 :=
    fun current call _ drawn => drawn.step distinct bench call
  have exact_ : ∀ current call, True → DrawnJobs names current → InStep current →
      ((InStep (faultyStep names bench current call).2
          ∧ AtomicVisit ⟨current, call, (faultyStep names bench current call).1,
            (faultyStep names bench current call).2⟩)
        ↔ NothingLost names bench current call) :=
    fun current call _ drawn inStep => exactAt inStep drawn distinct bench call
  have legal : ∀ call ∈ calls, (fun _ : FaultyCall => True) call := fun _ _ => trivial
  exact right_throughout_iff preserved exact_ legal (drawnJobs_new names) inStep_new

def oneBench : Bench := ⟨fun _ _ => "h", fun _ _ _ => some 50⟩

def reservedHost : List FaultyCall :=
  [.apply "r" "RTX_3060" 1 12 "EU" true (some "gpu-1") 0 .done,
    .startVerification "gpu-1" (fun _ => some (1, 100)) "roma/host-bench:pinned" 8 1 false .done .done]

/-- The calls of a store that answers lose nothing. -/
theorem registry_atomic_iff_reservedHost
    : Function.Injective lengthNames.jobId
      ∧ ∀ visit ∈ visits (faultyStep lengthNames oneBench) .new reservedHost,
        InStep visit.after ∧ AtomicVisit visit := by
  refine ⟨lengthUuid_injective, ?_⟩
  refine (registry_atomic_iff lengthNames lengthUuid_injective oneBench reservedHost).mpr ?_
  intro visit member
  simp only [reservedHost, visits, List.mem_cons, List.not_mem_nil, or_false] at member
  rcases member with rfl | rfl
  · exact fun _ => rfl
  · intro _ h _ reserved _
    simp

/-- The passing submission of the host, whose `finish_verification` fails. -/
def unstoredSubmit : FaultyCall :=
  .submitVerification "gpu-1" (lengthUuid 2) "h" (some 1) 10 .failed .done

/-- The submission raises, and the host is schedulable although the store still has it `verifying`.
-/
theorem raised_submit_schedules
    : ¬ ∀ visit ∈ visits (faultyStep lengthNames oneBench) .new (reservedHost ++ [unstoredSubmit]),
      AtomicVisit visit := by
  intro atomic
  have member : (⟨finalState (faultyStep lengthNames oneBench) .new reservedHost, unstoredSubmit,
      (faultyStep lengthNames oneBench
        (finalState (faultyStep lengthNames oneBench) .new reservedHost) unstoredSubmit).1,
      (faultyStep lengthNames oneBench
        (finalState (faultyStep lengthNames oneBench) .new reservedHost) unstoredSubmit).2⟩
        : Visit FaultyRegistry FaultyCall Bool)
      ∈ visits (faultyStep lengthNames oneBench) .new (reservedHost ++ [unstoredSubmit]) := by
    rw [visits_append]
    exact List.mem_append_right _ List.mem_cons_self
  have owed := atomic _ member (by decide +kernel)
  have after : ((faultyStep lengthNames oneBench
      (finalState (faultyStep lengthNames oneBench) .new reservedHost) unstoredSubmit).2.hosts.find?
        "gpu-1").map (fun h => (h.status, h.trustTier, h.lastHeartbeat))
      = some (.active, .verified, some 10) := by
    decide +kernel
  have before : ((finalState (faultyStep lengthNames oneBench) .new reservedHost).hosts.find?
      "gpu-1").map (fun h => h.status) = some .verifying := by
    decide +kernel
  obtain ⟨h, found, facts⟩ := Option.map_eq_some_iff.mp after
  simp only [Prod.mk.injEq] at facts
  obtain ⟨h', _, found', active, _⟩ := owed.unscheduled _ _ _ _ _ _ _ rfl "gpu-1" 10 60
    ⟨h, 10, found, facts.1, facts.2.1, facts.2.2, by norm_num⟩
  obtain ⟨old, oldFound, verifying⟩ := Option.map_eq_some_iff.mp before
  obtain rfl := Option.some.inj (oldFound.symm.trans found')
  exact absurd (verifying.symm.trans active) (by simp)

end RomaBridge.Properties
