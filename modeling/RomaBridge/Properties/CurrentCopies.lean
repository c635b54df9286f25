import RomaBridge.Model.HostCluster
import RomaBridge.Properties.HostTrust

/-! The copies of a host in the memory of all processes. What a copy says of its host was true when
its row was read or written, and it stays true for as long as no other process writes the status of
the host; so every step that works on a current copy knows what happened to the host last.
-/

namespace RomaBridge.Properties

open RomaBridge.Foundation RomaBridge.Model.Hosts

variable {hostId : String} {objects : List Copy} {thread : ApiThread} {record : HostRecord}
  {bench : Bench} {sha256 : String → String} {calls : List ClusterCall}

/-- What a copy tells of its host while it is current: who reserved it, which specification is
outstanding, that it is active or under verification. `loadable` is asked of the rows that a load
may take.
-/
structure Reading where
  reserved : List ClusterEvent → String → String → Prop
  challenged : List ClusterEvent → String → VerificationJobSpec → Prop
  active : List ClusterEvent → String → Prop
  verifying : List ClusterEvent → String → Prop
  loadable : List ClusterEvent → String → VerificationJobSpec → Prop
  /-- What is known stays known while the status of the host is not written. -/
  quiet : ∀ {log hostId event}, event.changesStatus hostId = false →
    (∀ token, reserved log hostId token → reserved (log ++ [event]) hostId token)
    ∧ (∀ spec, challenged log hostId spec → challenged (log ++ [event]) hostId spec)
    ∧ (active log hostId → active (log ++ [event]) hostId)
    ∧ (verifying log hostId → verifying (log ++ [event]) hostId)
  start : ∀ log hostId token, reserved (log ++ [.reserved hostId token]) hostId token
    ∧ verifying (log ++ [.reserved hostId token]) hostId
  issue : ∀ {log hostId token}, reserved log hostId token
    → ∀ spec, challenged (log ++ [.issued token spec]) hostId spec
  pass : ∀ {log hostId spec}, challenged log hostId spec
    → active (log ++ [.judged spec .passed]) hostId
  activate : ∀ {log hostId}, active log hostId → ∀ spec, active (log ++ [.activated spec]) hostId
  load : ∀ {log hostId spec}, verifying log hostId → loadable log hostId spec
    → challenged log hostId spec

def UpToDate (log : List ClusterEvent) (copy : Copy) : Prop :=
  Current (ClusterEvent.changesStatus copy.record.hostId) log copy.asOf

/-- A specification read off a copy. -/
structure SpecInv (reading : Reading) (log : List ClusterEvent) (hostId : String) (asOf : ℕ)
    (spec : VerificationJobSpec) : Prop where
  dated : asOf ≤ log.length
  own : spec.hostId = hostId
  challenged : Current (ClusterEvent.changesStatus hostId) log asOf
    → reading.challenged log hostId spec

structure CopyInv (reading : Reading) (log : List ClusterEvent) (copy : Copy) : Prop where
  dated : copy.asOf ≤ log.length
  reservation : ∀ token, copy.record.verifyReservation = some token → UpToDate log copy
    → reading.reserved log copy.record.hostId token
  pending : ∀ spec, copy.record.pendingVerification = some spec
    → SpecInv reading log copy.record.hostId copy.asOf spec
  active : copy.record.status = .active → UpToDate log copy
    → reading.active log copy.record.hostId
  exclusive : ∀ spec, copy.record.pendingVerification = some spec
    → copy.record.verifyReservation = none
  idle : copy.record.status ≠ .verifying
    → copy.record.verifyReservation = none ∧ copy.record.pendingVerification = none

def Named (objects : List Copy) (object : ℕ) (hostId : String) : Prop :=
  ∃ copy, objects[object]? = some copy ∧ copy.record.hostId = hostId

def ThreadInv (reading : Reading) (log : List ClusterEvent) (objects : List Copy)
    : ApiThread → Prop
  | .rowRead row asOf =>
      asOf ≤ log.length ∧ row.status = .verifying
      ∧ (Current (ClusterEvent.changesStatus row.hostId) log asOf
        → reading.verifying log row.hostId)
  | .loaded hostId (some copy) => CopyInv reading log copy ∧ copy.record.hostId = hostId
  | .fetching hostId _ (some spec) asOf => SpecInv reading log hostId asOf spec
  | .fetched hostId spec asOf => SpecInv reading log hostId asOf spec
  | .hashing waiting object =>
      HostStatus.verifying ∈ allowedTransitions waiting.prevStatus
      ∧ Named objects object waiting.hostId
  | _ => True

/-- The invariant of one process. -/
structure ProcessInv (reading : Reading) (log : List ClusterEvent) (process : Process) : Prop where
  objects : ∀ copy ∈ process.objects, CopyInv reading log copy
  hosts : ∀ hostId object, process.hosts hostId = some object → Named process.objects object hostId
  threads : ∀ tid, ThreadInv reading log process.objects (process.threads tid)
  writing : ∀ object spec, process.writing = some (object, spec)
    → ∃ copy, process.objects[object]? = some copy ∧ copy.record.hostId = spec.hostId
      ∧ copy.record.status ≠ .verifying

/-- The invariant of the tables and the processes. -/
structure ClusterInv (reading : Reading) (cluster : Cluster) : Prop where
  rows : ∀ hostId row, cluster.db.hosts.find? hostId = some row
    → (row.status = .active → reading.active cluster.log hostId)
      ∧ (row.status = .verifying → reading.verifying cluster.log hostId)
  procs : ∀ pid, ProcessInv reading cluster.log (cluster.procs pid)

variable {reading : Reading} {log : List ClusterEvent} {event : ClusterEvent} {process : Process}
  {cluster : Cluster} {copy old : Copy} {object pid tid : ℕ}

-- One more event

theorem SpecInv.snoc {asOf : ℕ} {spec : VerificationJobSpec}
    (inv : SpecInv reading log hostId asOf spec) (event : ClusterEvent)
    : SpecInv reading (log ++ [event]) hostId asOf spec := by
  refine ⟨by simpa using Nat.le_succ_of_le inv.dated, inv.own, ?_⟩
  intro current
  obtain ⟨before, quiet⟩ := (current_snoc inv.dated).mp current
  exact (reading.quiet quiet).2.1 spec (inv.challenged before)

theorem CopyInv.snoc (inv : CopyInv reading log copy) (event : ClusterEvent)
    : CopyInv reading (log ++ [event]) copy := by
  refine ⟨by simpa using Nat.le_succ_of_le inv.dated, ?_, ?_, ?_, inv.exclusive, inv.idle⟩
  · intro token held current
    obtain ⟨before, quiet⟩ := (current_snoc inv.dated).mp current
    exact (reading.quiet quiet).1 token (inv.reservation token held before)
  · intro spec pending
    exact (inv.pending spec pending).snoc event
  · intro active current
    obtain ⟨before, quiet⟩ := (current_snoc inv.dated).mp current
    exact (reading.quiet quiet).2.2.1 (inv.active active before)

theorem ThreadInv.snoc (inv : ThreadInv reading log objects thread) (event : ClusterEvent)
    : ThreadInv reading (log ++ [event]) objects thread := by
  match thread, inv with
  | .rowRead row asOf, ⟨dated, status, known⟩ =>
      refine ⟨by simpa using Nat.le_succ_of_le dated, status, ?_⟩
      intro current
      obtain ⟨before, quiet⟩ := (current_snoc dated).mp current
      exact (reading.quiet quiet).2.2.2 (known before)
  | .loaded hostId none, _ => trivial
  | .loaded hostId (some copy), ⟨inv, own⟩ => exact ⟨inv.snoc event, own⟩
  | .fetching hostId object none asOf, _ => trivial
  | .fetching hostId object (some spec) asOf, inv => exact SpecInv.snoc inv event
  | .fetched hostId spec asOf, inv => exact SpecInv.snoc inv event
  | .hashing waiting object, inv => exact inv
  | .idle, _ => trivial
  | .refreshed _, _ => trivial
  | .beating _ _, _ => trivial
  | .beaten _ _, _ => trivial
  | .submitting _ _, _ => trivial

theorem ProcessInv.snoc (inv : ProcessInv reading log process) (event : ClusterEvent)
    : ProcessInv reading (log ++ [event]) process := by
  refine ⟨?_, inv.hosts, ?_, inv.writing⟩
  · intro copy member
    exact (inv.objects copy member).snoc event
  · intro tid
    exact (inv.threads tid).snoc event

theorem ClusterInv.say (inv : ClusterInv reading cluster)
    (quiet : ∀ hostId, event.changesStatus hostId = false)
    : ClusterInv reading { cluster with log := cluster.log ++ [event] } := by
  refine ⟨?_, fun pid => (inv.procs pid).snoc event⟩
  intro hostId row found
  obtain ⟨active, verifying⟩ := inv.rows hostId row found
  exact ⟨fun status => (reading.quiet (quiet hostId)).2.2.1 (active status),
    fun status => (reading.quiet (quiet hostId)).2.2.2 (verifying status)⟩

-- The memory of one process

theorem Named.set {place : ℕ} (named : Named objects place hostId)
    (found : objects[object]? = some old) (same : copy.record.hostId = old.record.hostId)
    : Named (objects.set object copy) place hostId := by
  obtain ⟨at_, stored, own⟩ := named
  by_cases equal : object = place
  · subst equal
    obtain rfl : old = at_ := Option.some.inj (found.symm.trans stored)
    have inside := (List.getElem?_eq_some_iff.mp found).1
    exact ⟨copy, by simp [inside], same.trans own⟩
  · exact ⟨at_, by rw [List.getElem?_set_ne equal, stored], own⟩

theorem Named.append {more : List Copy} {place : ℕ} (named : Named objects place hostId)
    : Named (objects ++ more) place hostId := by
  obtain ⟨at_, stored, own⟩ := named
  have inside := (List.getElem?_eq_some_iff.mp stored).1
  exact ⟨at_, by rw [List.getElem?_append_left inside, stored], own⟩

theorem ThreadInv.mono {more : List Copy} (inv : ThreadInv reading log objects thread)
    (kept : ∀ place hostId, Named objects place hostId → Named more place hostId)
    : ThreadInv reading log more thread := by
  match thread, inv with
  | .hashing waiting object, ⟨allowed, named⟩ => exact ⟨allowed, kept _ _ named⟩
  | .rowRead row asOf, inv => exact inv
  | .loaded hostId none, _ => trivial
  | .loaded hostId (some copy), inv => exact inv
  | .fetching hostId object none asOf, _ => trivial
  | .fetching hostId object (some spec) asOf, inv => exact inv
  | .fetched hostId spec asOf, inv => exact inv
  | .idle, _ => trivial
  | .refreshed _, _ => trivial
  | .beating _ _, _ => trivial
  | .beaten _ _, _ => trivial
  | .submitting _ _, _ => trivial

theorem ProcessInv.goto (inv : ProcessInv reading log process)
    (next : ThreadInv reading log process.objects thread)
    : ProcessInv reading log (process.goto tid thread) := by
  refine ⟨inv.objects, inv.hosts, ?_, inv.writing⟩
  intro other
  simp only [Process.goto, Function.update_apply]
  split
  · exact next
  · exact inv.threads other

theorem ProcessInv.change (inv : ProcessInv reading log process)
    (found : process.objects[object]? = some old) (same : copy.record.hostId = old.record.hostId)
    (free : process.writing = none) (next : CopyInv reading log copy)
    : ProcessInv reading log (process.change object copy) := by
  refine ⟨?_, ?_, ?_, ?_⟩
  · intro other member
    rcases List.mem_or_eq_of_mem_set member with stored | rfl
    · exact inv.objects other stored
    · exact next
  · intro hostId place registered
    exact (inv.hosts hostId place registered).set found same
  · intro tid
    exact (inv.threads tid).mono (fun place hostId named => named.set found same)
  · intro place spec held
    cases free.symm.trans held

theorem ProcessInv.install (inv : ProcessInv reading log process)
    (own : copy.record.hostId = hostId) (free : process.writing = none)
    (next : CopyInv reading log copy)
    : ProcessInv reading log (process.install hostId copy) := by
  refine ⟨?_, ?_, ?_, ?_⟩
  · intro other member
    rcases List.mem_append.mp member with stored | new
    · exact inv.objects other stored
    · exact List.mem_singleton.mp new ▸ next
  · intro host place registered
    simp only [Process.install, Function.update_apply] at registered
    split at registered
    · rename_i same
      obtain rfl := Option.some.inj registered
      exact ⟨copy, by simp [Process.install], own.trans same.symm⟩
    · exact (inv.hosts host place registered).append
  · intro tid
    exact (inv.threads tid).mono (fun _ _ named => named.append)
  · intro place spec held
    cases free.symm.trans held

theorem ProcessInv.registered (inv : ProcessInv reading log process)
    (found : process.registered hostId = some (object, copy))
    : process.objects[object]? = some copy ∧ copy.record.hostId = hostId
      ∧ CopyInv reading log copy := by
  obtain ⟨place, registered, taken⟩ := Option.bind_eq_some_iff.mp found
  obtain ⟨at_, stored, same⟩ := Option.map_eq_some_iff.mp taken
  obtain ⟨rfl, rfl⟩ := Prod.mk.inj same
  obtain ⟨named, there, own⟩ := inv.hosts hostId place registered
  obtain rfl : at_ = named := Option.some.inj (stored.symm.trans there)
  exact ⟨stored, own, inv.objects at_ (List.mem_of_getElem? stored)⟩

-- The tables and the processes

theorem ClusterInv.within (inv : ClusterInv reading cluster)
    (next : ProcessInv reading cluster.log process)
    : ClusterInv reading (cluster.within pid process) := by
  refine ⟨inv.rows, ?_⟩
  intro other
  simp only [Cluster.within, Function.update_apply]
  split
  · exact next
  · exact inv.procs other

theorem savedRow_spec (db : HostDb) (record : HostRecord)
    : (db.savedRow record).hostId = record.hostId
      ∧ (db.savedRow record).status = record.status := by
  unfold HostDb.savedRow
  split
  · exact ⟨rfl, rfl⟩
  · rename_i row found
    exact ⟨(Table.find?_some found).2, rfl⟩

theorem find?_saveHost {db : HostDb} {row : HostRow}
    (found : (db.saveHost record).hosts.find? hostId = some row)
    : (hostId = record.hostId ∧ row.status = record.status)
      ∨ (hostId ≠ record.hostId ∧ db.hosts.find? hostId = some row) := by
  obtain ⟨own, status⟩ := savedRow_spec db record
  rw [HostDb.saveHost, Table.find?_put, own] at found
  split at found
  · rename_i same
    exact .inl ⟨same.symm, Option.some.inj found ▸ status⟩
  · rename_i differs
    exact .inr ⟨fun same => differs same.symm, found⟩

/-- A status is written under the lock: the new copy is current, and it is enough that what it says
is true behind the event.
-/
theorem ClusterInv.store (inv : ClusterInv reading cluster) {event : ClusterEvent}
    {process : Process}
    (only : ∀ hostId, event.changesStatus hostId = true → hostId = record.hostId)
    (next : ProcessInv reading (cluster.log ++ [event]) process)
    (active : record.status = .active → reading.active (cluster.log ++ [event]) record.hostId)
    (verifying : record.status = .verifying
      → reading.verifying (cluster.log ++ [event]) record.hostId)
    : ClusterInv reading
        { db := cluster.db.saveHost record
          procs := Function.update cluster.procs pid process
          log := cluster.log ++ [event] } := by
  refine ⟨?_, ?_⟩
  · intro hostId row found
    rcases find?_saveHost found with ⟨rfl, status⟩ | ⟨differs, found⟩
    · rw [status]
      exact ⟨active, verifying⟩
    · have quiet : event.changesStatus hostId = false := by
        by_contra changed
        exact differs (only hostId (by simpa using changed))
      obtain ⟨active, verifying⟩ := inv.rows hostId row found
      exact ⟨fun status => (reading.quiet quiet).2.2.1 (active status),
        fun status => (reading.quiet quiet).2.2.2 (verifying status)⟩
  · intro other
    simp only [Function.update_apply]
    split
    · exact next
    · exact (inv.procs other).snoc event

theorem CopyInv.now
    (reservation : ∀ token, record.verifyReservation = some token
      → record.status = .verifying ∧ reading.reserved (log ++ [event]) record.hostId token)
    (pending : record.pendingVerification = none)
    (active : record.status = .active → reading.active (log ++ [event]) record.hostId)
    : CopyInv reading (log ++ [event]) ⟨record, log.length + 1⟩ := by
  refine ⟨by simp, fun token held _ => (reservation token held).2, ?_, fun status _ => active status,
    ?_, ?_⟩
  · intro spec impossible
    cases pending.symm.trans impossible
  · intro spec impossible
    cases pending.symm.trans impossible
  · intro status
    refine ⟨?_, pending⟩
    cases held : record.verifyReservation with
    | none => rfl
    | some token => exact absurd (reservation token held).1 status

/-- `persist` keeps the invariant when what the new record says is true behind its event. -/
theorem ClusterInv.persist (inv : ClusterInv reading cluster)
    (found : (cluster.procs pid).objects[object]? = some old)
    (free : (cluster.procs pid).writing = none) (same : record.hostId = old.record.hostId)
    (only : ∀ hostId, event.changesStatus hostId = true → hostId = record.hostId)
    (reservation : ∀ token, record.verifyReservation = some token → record.status = .verifying
      ∧ reading.reserved (cluster.log ++ [event]) record.hostId token)
    (pending : record.pendingVerification = none)
    (active : record.status = .active → reading.active (cluster.log ++ [event]) record.hostId)
    (verifying : record.status = .verifying
      → reading.verifying (cluster.log ++ [event]) record.hostId)
    : ClusterInv reading (cluster.persist pid object record event) := by
  refine inv.store only ?_ active verifying
  exact ((inv.procs pid).snoc event).change found same free
    (CopyInv.now reservation pending active)

theorem ClusterInv.rewrite (inv : ClusterInv reading cluster)
    (found : (cluster.procs pid).objects[object]? = some copy)
    (free : (cluster.procs pid).writing = none) (current : UpToDate cluster.log copy)
    (host : record.hostId = copy.record.hostId) (was : copy.record.status = .active)
    (status : record.status = .active)
    (reservation : record.verifyReservation = copy.record.verifyReservation)
    (pending : record.pendingVerification = copy.record.pendingVerification)
    : ClusterInv reading (cluster.rewrite pid object copy record) := by
  have known := (inv.procs pid).objects copy (List.mem_of_getElem? found)
  have active := known.active was current
  have next : CopyInv reading cluster.log { copy with record := record } := by
    have idle := known.idle (by simp [was])
    refine ⟨known.dated, ?_, ?_, ?_, fun _ _ => reservation.trans idle.1,
      fun _ => ⟨reservation.trans idle.1, pending.trans idle.2⟩⟩
    · intro token held current
      simp only [UpToDate, host, reservation] at held current ⊢
      exact known.reservation token held current
    · intro spec held
      simp only [host, pending] at held ⊢
      exact known.pending spec held
    · intro _ _
      simp only [host]
      exact active
  refine ⟨?_, ?_⟩
  · intro hostId row stored
    rcases find?_saveHost stored with ⟨rfl, same⟩ | ⟨_, stored⟩
    · rw [same, status, host]
      exact ⟨fun _ => active, fun impossible => by cases impossible⟩
    · exact inv.rows hostId row stored
  · intro other
    simp only [Cluster.rewrite, Function.update_apply]
    split
    · exact (inv.procs pid).change found host free next
    · exact inv.procs other

@[simp]
theorem within_procs (cluster : Cluster) (pid : ℕ) (process : Process)
    : (cluster.within pid process).procs pid = process := by
  simp [Cluster.within]

theorem ClusterInv.goto (inv : ClusterInv reading cluster)
    (next : ThreadInv reading cluster.log (cluster.procs pid).objects thread)
    : ClusterInv reading (cluster.within pid ((cluster.procs pid).goto tid thread)) :=
  inv.within ((inv.procs pid).goto next)

-- Loads

/-- The first query of a load dates what it read. -/
theorem ClusterInv.readRow (inv : ClusterInv reading cluster) (pid tid : ℕ) (hostId : String)
    : ClusterInv reading (cluster.readRow pid tid hostId) := by
  unfold Cluster.readRow
  simp only
  split
  · exact inv.goto trivial
  · rename_i row standing found
    obtain ⟨_, own⟩ := Table.find?_some found
    obtain ⟨active, verifying⟩ := inv.rows hostId row found
    split
    · rename_i status
      refine inv.goto ⟨Nat.le_refl _, status, fun _ => ?_⟩
      rw [own]
      exact verifying status
    · refine inv.goto ⟨⟨Nat.le_refl _, ?_, ?_, ?_, fun _ _ => rfl, fun _ => ⟨rfl, rfl⟩⟩, own⟩
      · intro token impossible
        cases impossible
      · intro spec impossible
        cases impossible
      · intro status _
        change reading.active cluster.log row.hostId
        rw [own]
        exact active status
  · exact inv

/-- The second query of a load takes a row that the reading allows. -/
theorem ClusterInv.readSpec (inv : ClusterInv reading cluster) (pid tid : ℕ)
    (loadable : ∀ row asOf verification, (cluster.procs pid).threads tid = .rowRead row asOf
      → cluster.db.unfinished row.hostId = some verification
      → reading.loadable cluster.log row.hostId verification.spec)
    : ClusterInv reading (cluster.readSpec pid tid) := by
  unfold Cluster.readSpec
  simp only
  split
  · rename_i row asOf standing
    have known := (inv.procs pid).threads tid
    rw [standing] at known
    obtain ⟨dated, status, verifying⟩ := known
    refine inv.goto ⟨⟨dated, ?_, ?_, ?_, fun _ _ => rfl, fun other => absurd status other⟩, rfl⟩
    · intro token impossible
      cases impossible
    · intro spec pending
      obtain ⟨verification, found, rfl⟩ := Option.map_eq_some_iff.mp pending
      have member := List.mem_of_getLast? found
      refine ⟨dated, ?_, ?_⟩
      · have own := (List.mem_filter.mp member).2
        simp only [Bool.decide_and, Bool.and_eq_true, decide_eq_true_eq] at own
        exact own.1
      · intro current
        exact reading.load (verifying current) (loadable row asOf verification standing found)
    · intro active _
      cases status.symm.trans active
  · exact inv

/-- A loaded copy is installed with its date. -/
theorem ClusterInv.install (inv : ClusterInv reading cluster) (pid tid : ℕ)
    (free : (cluster.procs pid).writing = none)
    : ClusterInv reading (cluster.install pid tid) := by
  unfold Cluster.install
  simp only
  split
  · rename_i hostId fresh standing
    have known := (inv.procs pid).threads tid
    rw [standing] at known
    have next : ProcessInv reading cluster.log
        ((cluster.procs pid).goto tid (.refreshed hostId)) := (inv.procs pid).goto trivial
    split
    · exact inv.within next
    · split
      · refine inv.within ⟨next.objects, ?_, next.threads, next.writing⟩
        intro host object registered
        simp only [Function.update_apply] at registered
        split at registered
        · cases registered
        · exact next.hosts host object registered
      · exact inv.within (next.install known.2 free known.1)
  · exact inv

-- Requests

theorem ClusterInv.heartbeat (inv : ClusterInv reading cluster) (pid tid : ℕ) (now : ℚ)
    (free : (cluster.procs pid).writing = none)
    (current : ∀ hostId got object copy, (cluster.procs pid).threads tid = .beating hostId got
      → (cluster.procs pid).registered hostId = some (object, copy)
      → copy.record.status = .active → UpToDate cluster.log copy)
    : ClusterInv reading (cluster.heartbeat pid tid now) := by
  unfold Cluster.heartbeat
  simp only
  split
  · rename_i hostId got standing
    split
    · exact inv.goto trivial
    · rename_i object copy found
      obtain ⟨stored, _, _⟩ := (inv.procs pid).registered found
      split
      · exact inv.goto trivial
      · rename_i beaten accepted
        unfold HostRecord.heartbeat at accepted
        split at accepted
        · rename_i active
          obtain rfl := Option.some.inj accepted
          have moved : ClusterInv reading (cluster.within pid
              ((cluster.procs pid).goto tid (.beaten got true))) := inv.goto trivial
          refine moved.rewrite ?_ ?_ ?_ rfl active active rfl rfl
          · simpa [Process.goto] using stored
          · simpa [Process.goto] using free
          · exact current hostId got object copy standing found active
        · cases accepted
  · exact inv

theorem ClusterInv.promote (inv : ClusterInv reading cluster) (pid : ℕ) (hostId : String)
    (free : (cluster.procs pid).writing = none)
    (current : ∀ object copy, (cluster.procs pid).registered hostId = some (object, copy)
      → copy.record.status = .active → UpToDate cluster.log copy)
    : ClusterInv reading (cluster.promote pid hostId) := by
  unfold Cluster.promote
  split
  · exact inv
  · rename_i object copy found
    obtain ⟨stored, _, _⟩ := (inv.procs pid).registered found
    split
    · exact inv
    · rename_i promoted accepted
      unfold HostRecord.promote at accepted
      split at accepted
      · rename_i active
        obtain rfl := Option.some.inj accepted
        exact inv.rewrite stored free (current object copy found active) rfl active active rfl rfl
      · cases accepted

theorem ClusterInv.getHost (inv : ClusterInv reading cluster) (pid tid : ℕ)
    : ClusterInv reading (cluster.getHost pid tid) := by
  unfold Cluster.getHost
  simp only
  split
  · split
    · exact inv.goto trivial
    · exact inv.goto trivial
  · exact inv

theorem ClusterInv.report (inv : ClusterInv reading cluster) (pid tid : ℕ)
    : ClusterInv reading (cluster.report pid tid) := by
  unfold Cluster.report
  simp only
  split
  · split
    · exact inv
    · have moved : ClusterInv reading (cluster.within pid ((cluster.procs pid).goto tid .idle)) :=
        inv.goto trivial
      exact moved.say (fun _ => rfl)
  · exact inv

theorem ClusterInv.fetchJob (inv : ClusterInv reading cluster) (pid tid : ℕ)
    : ClusterInv reading (cluster.fetchJob pid tid) := by
  unfold Cluster.fetchJob
  simp only
  split
  · split
    · exact inv.goto trivial
    · rename_i object copy found
      obtain ⟨_, own, known⟩ := (inv.procs pid).registered found
      refine inv.goto ?_
      cases pending : copy.record.pendingVerification with
      | none => trivial
      | some spec =>
          subst own
          exact known.pending spec pending
  · exact inv

theorem ClusterInv.checkJob (inv : ClusterInv reading cluster) (pid tid : ℕ)
    : ClusterInv reading (cluster.checkJob pid tid) := by
  unfold Cluster.checkJob
  simp only
  split
  · rename_i hostId object spec asOf standing
    have known := (inv.procs pid).threads tid
    rw [standing] at known
    split
    · exact inv.goto known
    · exact inv.goto trivial
  · exact inv.goto trivial
  · exact inv

theorem ClusterInv.putJobToken (inv : ClusterInv reading cluster) (sha256 : String → String)
    (pid tid : ℕ) (jobToken : String)
    : ClusterInv reading (cluster.putJobToken sha256 pid tid jobToken) := by
  unfold Cluster.putJobToken
  simp only
  split
  · rename_i hostId spec asOf standing
    have moved : ClusterInv reading (cluster.within pid ((cluster.procs pid).goto tid .idle)) :=
      inv.goto trivial
    have said := @ClusterInv.say _ (.handedOut spec) _ moved (fun _ => rfl)
    exact ⟨said.rows, said.procs⟩
  · exact inv

theorem ClusterInv.consumeJobToken (inv : ClusterInv reading cluster) (sha256 : String → String)
    (pid tid : ℕ) (jobId : String) (jobToken : Option String)
    : ClusterInv reading (cluster.consumeJobToken sha256 pid tid jobId jobToken) := by
  have tables : (cluster.db.consumeJobToken jobId).2.hosts = cluster.db.hosts := by
    unfold HostDb.consumeJobToken
    split
    · rfl
    · split
      · rfl
      · rfl
  unfold Cluster.consumeJobToken
  simp only
  split
  · rename_i hostId standing
    refine ⟨?_, ?_⟩
    · rw [tables]
      exact inv.rows
    · refine (inv.goto ?_).procs
      split
      · trivial
      · trivial
  · exact inv

-- Verifications

/-- The copy behind a judged submission: it is active only when it passed, and then its
specification was the outstanding one.
-/
theorem CopyInv.judged (inv : CopyInv reading log copy) {jobId output : String} {elapsed : Option ℚ}
    {now : ℚ} {judged : HostRecord.Judged}
    (submitted : copy.record.submit bench jobId output elapsed now = some judged)
    : CopyInv reading (log ++ [.judged judged.spec judged.verdict])
        { copy with record := judged.record }
      ∧ judged.record.hostId = copy.record.hostId ∧ judged.spec.hostId = copy.record.hostId
      ∧ (judged.verdict ≠ .raised → judged.record.status ≠ .verifying) := by
  obtain ⟨pending, verifying, _, sameHost, taken, sameHold, verdicts⟩ := submit_cases submitted
  have outstanding := inv.pending judged.spec pending
  have unreserved := inv.exclusive judged.spec pending
  refine ⟨⟨by simpa using Nat.le_succ_of_le inv.dated, ?_, ?_, ?_, ?_, ?_⟩, sameHost,
    outstanding.own, ?_⟩
  · intro token held
    cases (sameHold.trans unreserved).symm.trans held
  · intro spec held
    cases taken.symm.trans held
  · intro active current
    simp only [UpToDate, sameHost] at current ⊢
    have before := ((current_snoc inv.dated).mp current).1
    rcases verdicts with ⟨passed, _⟩ | ⟨_, _, suspended, _⟩ | ⟨_, _, sameStatus, _⟩
    · rw [passed]
      exact reading.pass (outstanding.challenged before)
    · cases suspended.symm.trans active
    · cases (sameStatus.trans verifying).symm.trans active
  · exact fun _ _ => sameHold.trans unreserved
  · exact fun _ => ⟨sameHold.trans unreserved, taken⟩
  · intro unraised
    rcases verdicts with ⟨_, _, _, active, _⟩ | ⟨_, _, suspended, _⟩ | ⟨raised, _⟩
    · simp [active]
    · simp [suspended]
    · exact absurd raised unraised

/-- A submission is judged under the lock; its record waits to be persisted. -/
theorem ClusterInv.submitVerification (inv : ClusterInv reading cluster) (bench : Bench)
    (pid tid : ℕ) (output : String) (elapsed : Option ℚ) (now : ℚ)
    (free : (cluster.procs pid).writing = none)
    : ClusterInv reading (cluster.submitVerification bench pid tid output elapsed now) := by
  unfold Cluster.submitVerification
  simp only
  split
  · rename_i hostId jobId standing
    split
    · exact inv.goto trivial
    · rename_i object copy found
      obtain ⟨stored, _, known⟩ := (inv.procs pid).registered found
      split
      · exact inv.goto trivial
      · rename_i judged submitted
        obtain ⟨next, sameHost, own, settled⟩ := known.judged submitted
        have said := @ClusterInv.say _ (.judged judged.spec judged.verdict) _ inv (fun _ => rfl)
        have done : ProcessInv reading (cluster.log ++ [.judged judged.spec judged.verdict])
            ((cluster.procs pid).goto tid .idle) := (said.procs pid).goto trivial
        have changed := done.change stored sameHost free next
        split
        · exact said.within changed
        · rename_i unraised
          have inside := (List.getElem?_eq_some_iff.mp stored).1
          have written : ProcessInv reading (cluster.log ++ [.judged judged.spec judged.verdict])
              { ((cluster.procs pid).goto tid .idle).change object
                  { copy with record := judged.record } with
                writing := some (object, judged.spec) } := by
            refine ⟨changed.objects, changed.hosts, changed.threads, ?_⟩
            intro place spec held
            obtain ⟨rfl, rfl⟩ := Prod.mk.inj (Option.some.inj held)
            refine ⟨{ copy with record := judged.record }, ?_, sameHost.trans own.symm,
              settled unraised⟩
            simp [Process.change, Process.goto, inside]
          have after := @ClusterInv.within _ _ _ pid said written
          exact ⟨after.rows, after.procs⟩
  · exact inv

theorem ClusterInv.persistVerification (inv : ClusterInv reading cluster) (pid : ℕ)
    (current : ∀ object spec copy, (cluster.procs pid).writing = some (object, spec)
      → (cluster.procs pid).objects[object]? = some copy → copy.record.status = .active
      → UpToDate cluster.log copy)
    : ClusterInv reading (cluster.persistVerification pid) := by
  unfold Cluster.persistVerification
  simp only
  split
  · exact inv
  · rename_i object spec held
    split
    · exact inv
    · rename_i copy stored
      obtain ⟨other, there, own, settled⟩ := (inv.procs pid).writing object spec held
      obtain rfl : copy = other := Option.some.inj (stored.symm.trans there)
      have known := (inv.procs pid).objects copy (List.mem_of_getElem? stored)
      have idle := known.idle settled
      have unlocked : ProcessInv reading cluster.log
          { cluster.procs pid with writing := none } :=
        ⟨(inv.procs pid).objects, (inv.procs pid).hosts, (inv.procs pid).threads,
          fun _ _ impossible => by cases impossible⟩
      refine (@ClusterInv.within _ _ _ pid inv unlocked).persist (by simpa using stored) (by simp)
        rfl ?_ ?_ idle.2 ?_ (fun verifying => absurd verifying settled)
      · intro hostId changed
        split at changed
        · simpa [ClusterEvent.changesStatus, own] using (of_decide_eq_true changed).symm
        · simpa [ClusterEvent.changesStatus, own] using (of_decide_eq_true changed).symm
      · intro token reserved
        cases idle.1.symm.trans reserved
      · intro active
        rw [if_pos active]
        exact reading.activate (known.active active (current object spec copy held stored active))
          spec

theorem ClusterInv.apply (inv : ClusterInv reading cluster) (pid : ℕ)
    (ownerContactRef gpuModel : String) (gpuCount : ℤ) (vramGb : ℚ) (region : String)
    (ownHost : Bool) (hostId : String) (now : ℚ) (free : (cluster.procs pid).writing = none)
    : ClusterInv reading
        (cluster.apply pid ownerContactRef gpuModel gpuCount vramGb region ownHost hostId now) := by
  unfold Cluster.apply
  simp only
  split
  · exact inv
  · refine inv.store ?_ ?_ (fun impossible => by cases impossible)
      (fun impossible => by cases impossible)
    · intro other changed
      exact (of_decide_eq_true changed).symm
    · refine ((inv.procs pid).snoc _).install rfl free (CopyInv.now ?_ rfl ?_)
      · intro token impossible
        cases impossible
      · intro impossible
        cases impossible

/-- A reservation is known to the copy that made it. -/
theorem ClusterInv.startVerification (inv : ClusterInv reading cluster) (pid tid : ℕ)
    (hostId token seed : String) (thresholds : String → Option (ℚ × ℚ)) (image : String)
    (n reps : ℤ) (free : (cluster.procs pid).writing = none)
    : ClusterInv reading
        (cluster.startVerification pid tid hostId token seed thresholds image n reps) := by
  unfold Cluster.startVerification
  simp only
  split
  · split
    · exact inv
    · split
      · exact inv
      · rename_i object copy found
        obtain ⟨stored, _, known⟩ := (inv.procs pid).registered found
        split
        · exact inv
        · rename_i reserved accepted
          obtain ⟨allowed, rfl⟩ := reserve_cases accepted
          have moved : ClusterInv reading (cluster.within pid ((cluster.procs pid).goto tid
              (.hashing ⟨token, copy.record.hostId, copy.record.status,
                ((thresholds copy.record.gpuModel).getD (0, 0)).1,
                ((thresholds copy.record.gpuModel).getD (0, 0)).2, image, n, reps, seed⟩
                object))) :=
            inv.goto ⟨allowed, copy, stored, rfl⟩
          obtain ⟨mine, verifying⟩ := reading.start cluster.log copy.record.hostId token
          refine moved.persist (by simpa [Process.goto] using stored)
            (by simpa [Process.goto] using free) rfl ?_ ?_ rfl
            (fun impossible => by cases impossible) (fun _ => verifying)
          · intro other changed
            exact (of_decide_eq_true changed).symm
          · intro held same
            obtain rfl := Option.some.inj same
            exact ⟨rfl, mine⟩
  · exact inv

/-- A failed reference hash writes a status that is neither active nor `verifying`. -/
theorem ClusterInv.hashFailed (inv : ClusterInv reading cluster) (pid tid : ℕ)
    (free : (cluster.procs pid).writing = none)
    : ClusterInv reading (cluster.hashFailed pid tid) := by
  unfold Cluster.hashFailed
  simp only
  split
  · rename_i waiting object standing
    have known := (inv.procs pid).threads tid
    rw [standing] at known
    have idle := idle_of_allowed known.1
    split
    · exact inv
    · rename_i copy stored
      have mine := (inv.procs pid).objects copy (List.mem_of_getElem? stored)
      have moved : ClusterInv reading (cluster.within pid
          ((cluster.procs pid).goto tid .idle)) := inv.goto trivial
      split
      · rename_i held
        have released : copy.record.release waiting.token waiting.prevStatus
            = { copy.record with
              history := copy.record.history
                ++ [⟨.verifying, waiting.prevStatus, "verification reservation released"⟩]
              status := waiting.prevStatus
              verifyReservation := none } := by
          simp [HostRecord.release, held.1, held.2]
        have unspecified : copy.record.pendingVerification = none := by
          cases pending : copy.record.pendingVerification with
          | none => rfl
          | some spec => simpa [held.1] using mine.exclusive spec pending
        rw [released]
        refine moved.persist (by simpa [Process.goto] using stored)
          (by simpa [Process.goto] using free) rfl ?_ ?_ unspecified
          (fun active => absurd active idle.1) (fun verifying => absurd verifying idle.2)
        · intro other changed
          exact (of_decide_eq_true changed).symm
        · intro token impossible
          cases impossible
      · rename_i lost
        have same : copy.record.release waiting.token waiting.prevStatus = copy.record := by
          unfold HostRecord.release
          split
          · rename_i held
            have unreserved := mine.idle (fun verifying => lost ⟨held, verifying⟩)
            rw [unreserved.1] at held
            cases held
          · rfl
        rw [same]
        refine inv.within ?_
        have done : ProcessInv reading cluster.log ((cluster.procs pid).goto tid .idle) :=
          (inv.procs pid).goto trivial
        exact done.change stored rfl free mine
  · exact inv

theorem ClusterInv.hashComputed (inv : ClusterInv reading cluster) (bench : Bench) (pid tid : ℕ)
    (jobId : String) (free : (cluster.procs pid).writing = none)
    (current : ∀ waiting object copy, (cluster.procs pid).threads tid = .hashing waiting object
      → (cluster.procs pid).objects[object]? = some copy
      → copy.record.verifyReservation = some waiting.token → UpToDate cluster.log copy)
    : ClusterInv reading (cluster.hashComputed bench pid tid jobId) := by
  unfold Cluster.hashComputed
  simp only
  split
  · rename_i waiting object standing
    have known := (inv.procs pid).threads tid
    rw [standing] at known
    split
    · exact inv
    · split
      · exact inv
      · rename_i copy stored
        have mine := (inv.procs pid).objects copy (List.mem_of_getElem? stored)
        split
        · exact inv.goto trivial
        · rename_i completed accepted
          obtain ⟨held, verifying, rfl⟩ := complete_cases accepted
          have fresh := current waiting object copy standing stored held
          obtain ⟨named, there, own⟩ := known.2
          obtain rfl : copy = named := Option.some.inj (stored.symm.trans there)
          have said := @ClusterInv.say _
            (.issued waiting.token (Registry.newSpec bench waiting jobId)) _ inv (fun _ => rfl)
          have done : ProcessInv reading
              (cluster.log ++ [.issued waiting.token (Registry.newSpec bench waiting jobId)])
              ((cluster.procs pid).goto tid .idle) := (said.procs pid).goto trivial
          have next : CopyInv reading
              (cluster.log ++ [.issued waiting.token (Registry.newSpec bench waiting jobId)])
              { copy with record := { copy.record with
                verifyReservation := none
                pendingVerification := some (Registry.newSpec bench waiting jobId) } } := by
            refine ⟨by simpa using Nat.le_succ_of_le mine.dated, ?_, ?_, ?_, fun _ _ => rfl,
              fun other => absurd verifying other⟩
            · intro token impossible
              cases impossible
            · intro spec same
              obtain rfl := Option.some.inj same
              refine ⟨by simpa using Nat.le_succ_of_le mine.dated, own.symm, fun _ => ?_⟩
              exact reading.issue (mine.reservation waiting.token held fresh) _
            · intro active
              cases verifying.symm.trans active
          have after := @ClusterInv.within _ _ _ pid said
            (done.change stored (by rfl) free next)
          exact ⟨after.rows, after.procs⟩
  · exact inv

/-- A suspension is known to the copy that made it. -/
theorem ClusterInv.suspend (inv : ClusterInv reading cluster) (pid : ℕ) (hostId reason : String)
    (free : (cluster.procs pid).writing = none)
    : ClusterInv reading (cluster.suspend pid hostId reason) := by
  unfold Cluster.suspend
  split
  · exact inv
  · rename_i object copy found
    obtain ⟨stored, _, _⟩ := (inv.procs pid).registered found
    split
    · exact inv
    · rename_i suspended accepted
      obtain ⟨moved, step, rfl⟩ := Option.map_eq_some_iff.mp accepted
      unfold HostRecord.transition at step
      split at step
      · obtain rfl := Option.some.inj step
        refine inv.persist stored free rfl ?_ ?_ rfl (fun impossible => by cases impossible)
          (fun impossible => by cases impossible)
        · intro other changed
          exact (of_decide_eq_true changed).symm
        · intro token impossible
          cases impossible
      · cases step

theorem ClusterInv.sweepSla (inv : ClusterInv reading cluster) (pid : ℕ) (hostId : String)
    (now sla : ℚ) (free : (cluster.procs pid).writing = none)
    : ClusterInv reading (cluster.sweepSla pid hostId now sla) := by
  unfold Cluster.sweepSla
  split
  · exact inv
  · rename_i object copy found
    obtain ⟨stored, _, known⟩ := (inv.procs pid).registered found
    split
    · rename_i missed
      have active : copy.record.status = .active := by
        simp only [HostRecord.misses, Bool.and_eq_true, decide_eq_true_eq] at missed
        exact missed.1
      have idle := known.idle (by simp [active])
      refine inv.persist stored free rfl ?_ ?_ idle.2 (fun impossible => by cases impossible)
        (fun impossible => by cases impossible)
      · intro other changed
        exact (of_decide_eq_true changed).symm
      · intro token held
        cases idle.1.symm.trans held
    · exact inv

-- Events

/-- Where the events come from that show a host to the outside. -/
def Explained (bench : Bench) (cluster : Cluster) (call : ClusterCall) : ClusterEvent → Prop
  | .reported hostId status accepted => ∃ pid tid object copy, call = .report pid tid
      ∧ (cluster.procs pid).threads tid = .beaten object accepted
      ∧ (cluster.procs pid).objects[object]? = some copy
      ∧ copy.record.hostId = hostId ∧ copy.record.status = status
  | .handedOut spec => ∃ pid tid jobToken hostId asOf, call = .putJobToken pid tid jobToken
      ∧ (cluster.procs pid).threads tid = .fetched hostId spec asOf
  | .judged spec verdict => ∃ pid tid output elapsed now hostId jobId object copy judged,
      call = .submitVerification pid tid output elapsed now
      ∧ (cluster.procs pid).threads tid = .submitting hostId jobId
      ∧ (cluster.procs pid).registered hostId = some (object, copy)
      ∧ copy.record.submit bench jobId output elapsed now = some judged
      ∧ judged.spec = spec ∧ judged.verdict = verdict
  | _ => True

theorem clusterStep_log (sha256 : String → String) (bench : Bench) (cluster : Cluster)
    (call : ClusterCall)
    : (clusterStep sha256 bench cluster call).log = cluster.log
      ∨ ∃ event, (clusterStep sha256 bench cluster call).log = cluster.log ++ [event]
        ∧ Explained bench cluster call event := by
  have locked : ∀ (pid : ℕ) (next : Cluster),
      (next.log = cluster.log
        ∨ ∃ event, next.log = cluster.log ++ [event] ∧ Explained bench cluster call event)
      → (if cluster.free pid then next else cluster).log = cluster.log
        ∨ ∃ event, (if cluster.free pid then next else cluster).log = cluster.log ++ [event]
          ∧ Explained bench cluster call event := by
    intro pid next added
    split
    · exact added
    · exact .inl rfl
  cases call with
  | readRow pid tid hostId =>
      refine .inl ?_
      simp only [clusterStep, Cluster.readRow]
      split
      · rfl
      · split
        · rfl
        · rfl
      · rfl
  | readSpec pid tid =>
      refine .inl ?_
      simp only [clusterStep, Cluster.readSpec]
      split
      · rfl
      · rfl
  | install pid tid =>
      refine locked pid _ (.inl ?_)
      simp only [Cluster.install]
      split
      · split
        · rfl
        · split
          · rfl
          · rfl
      · rfl
  | getHost pid tid =>
      refine .inl ?_
      simp only [clusterStep, Cluster.getHost]
      split
      · split
        · rfl
        · rfl
      · rfl
  | heartbeat pid tid now =>
      refine locked pid _ (.inl ?_)
      simp only [Cluster.heartbeat]
      split
      · split
        · rfl
        · split
          · rfl
          · rfl
      · rfl
  | report pid tid =>
      simp only [clusterStep, Cluster.report]
      split
      · rename_i object accepted standing
        split
        · exact .inl rfl
        · rename_i copy stored
          exact .inr ⟨_, rfl, pid, tid, object, copy, rfl, standing, stored, rfl, rfl⟩
      · exact .inl rfl
  | fetchJob pid tid =>
      refine .inl ?_
      simp only [clusterStep, Cluster.fetchJob]
      split
      · split
        · rfl
        · rfl
      · rfl
  | checkJob pid tid =>
      refine .inl ?_
      simp only [clusterStep, Cluster.checkJob]
      split
      · split
        · rfl
        · rfl
      · rfl
      · rfl
  | putJobToken pid tid jobToken =>
      simp only [clusterStep, Cluster.putJobToken]
      split
      · rename_i hostId spec asOf standing
        exact .inr ⟨_, rfl, pid, tid, jobToken, hostId, asOf, rfl, standing⟩
      · exact .inl rfl
  | consumeJobToken pid tid jobId jobToken =>
      refine .inl ?_
      simp only [clusterStep, Cluster.consumeJobToken]
      split
      · rfl
      · rfl
  | submitVerification pid tid output elapsed now =>
      refine locked pid _ ?_
      simp only [Cluster.submitVerification]
      split
      · rename_i hostId jobId standing
        split
        · exact .inl rfl
        · rename_i object copy found
          split
          · exact .inl rfl
          · rename_i judged submitted
            refine .inr ⟨.judged judged.spec judged.verdict, ?_, pid, tid, output, elapsed, now,
              hostId, jobId, object, copy, judged, rfl, standing, found, submitted, rfl, rfl⟩
            split
            · rfl
            · rfl
      · exact .inl rfl
  | persistVerification pid =>
      simp only [clusterStep, Cluster.persistVerification]
      split
      · exact .inl rfl
      · split
        · exact .inl rfl
        · rename_i object spec held copy stored
          refine .inr ⟨_, rfl, ?_⟩
          split
          · trivial
          · trivial
  | apply pid ownerContactRef gpuModel gpuCount vramGb region ownHost hostId now =>
      refine locked pid _ ?_
      simp only [Cluster.apply]
      split
      · exact .inl rfl
      · exact .inr ⟨_, rfl, trivial⟩
  | startVerification pid tid hostId token seed thresholds image n reps =>
      refine locked pid _ ?_
      simp only [Cluster.startVerification]
      split
      · split
        · exact .inl rfl
        · split
          · exact .inl rfl
          · split
            · exact .inl rfl
            · exact .inr ⟨_, rfl, trivial⟩
      · exact .inl rfl
  | hashFailed pid tid =>
      refine locked pid _ ?_
      simp only [Cluster.hashFailed]
      split
      · split
        · exact .inl rfl
        · split
          · exact .inr ⟨_, rfl, trivial⟩
          · exact .inl rfl
      · exact .inl rfl
  | hashComputed pid tid jobId =>
      refine locked pid _ ?_
      simp only [Cluster.hashComputed]
      split
      · split
        · exact .inl rfl
        · split
          · exact .inl rfl
          · split
            · exact .inl rfl
            · exact .inr ⟨_, rfl, trivial⟩
      · exact .inl rfl
  | promote pid hostId =>
      refine locked pid _ (.inl ?_)
      simp only [Cluster.promote]
      split
      · rfl
      · split
        · rfl
        · rfl
  | suspend pid hostId reason =>
      refine locked pid _ ?_
      simp only [Cluster.suspend]
      split
      · exact .inl rfl
      · split
        · exact .inl rfl
        · exact .inr ⟨_, rfl, trivial⟩
  | sweepSla pid hostId now sla =>
      refine locked pid _ ?_
      simp only [Cluster.sweepSla]
      split
      · exact .inl rfl
      · split
        · exact .inr ⟨_, rfl, trivial⟩
        · exact .inl rfl

/-- Every event is right for what happened before it when every explained one is, by induction on
the run.
-/
theorem throughout_run {right : List ClusterEvent → ClusterEvent → Prop}
    (each : ∀ before call after, calls = before ++ call :: after
      → ∀ event, Explained bench (clusterRun sha256 bench before) call event
      → right (clusterRun sha256 bench before).log event)
    : Throughout right (clusterRun sha256 bench calls).log := by
  induction calls using List.reverseRecOn with
  | nil => exact throughout_nil right
  | append_singleton calls call ih =>
      have earlier := ih (fun before call_ after split =>
        each before call_ (after ++ [call]) (by simp [split]))
      rw [clusterRun, List.foldl_append]
      rcases clusterStep_log sha256 bench (clusterRun sha256 bench calls) call with
        same | ⟨event, added, explained⟩
      · exact same ▸ earlier
      · have last := each calls call [] rfl event explained
        exact added ▸ earlier.snoc last

-- Runs

/-- A step that writes or stores what it finds in memory finds it current: a heartbeat or a
promotion of an active host, the store of a passing submission, the specification behind a
reservation. A load takes a row that the reading allows.
-/
def Timely (loadable : List ClusterEvent → String → VerificationJobSpec → Prop) (cluster : Cluster)
    : ClusterCall → Prop
  | .readSpec pid tid => ∀ row asOf verification,
      (cluster.procs pid).threads tid = .rowRead row asOf
      → cluster.db.unfinished row.hostId = some verification
      → loadable cluster.log row.hostId verification.spec
  | .heartbeat pid tid _ => ∀ hostId got object copy,
      (cluster.procs pid).threads tid = .beating hostId got
      → (cluster.procs pid).registered hostId = some (object, copy)
      → copy.record.status = .active → UpToDate cluster.log copy
  | .promote pid hostId => ∀ object copy,
      (cluster.procs pid).registered hostId = some (object, copy)
      → copy.record.status = .active → UpToDate cluster.log copy
  | .persistVerification pid => ∀ object spec copy,
      (cluster.procs pid).writing = some (object, spec)
      → (cluster.procs pid).objects[object]? = some copy → copy.record.status = .active
      → UpToDate cluster.log copy
  | .hashComputed pid tid _ => ∀ waiting object copy,
      (cluster.procs pid).threads tid = .hashing waiting object
      → (cluster.procs pid).objects[object]? = some copy
      → copy.record.verifyReservation = some waiting.token → UpToDate cluster.log copy
  | _ => True

theorem free_iff (cluster : Cluster) (pid : ℕ)
    : cluster.free pid = true ↔ (cluster.procs pid).writing = none := by
  simp [Cluster.free]

theorem ClusterInv.step (inv : ClusterInv reading cluster) (sha256 : String → String)
    (bench : Bench) (call : ClusterCall) (timely : Timely reading.loadable cluster call)
    : ClusterInv reading (clusterStep sha256 bench cluster call) := by
  have locked : ∀ (pid : ℕ) (next : Cluster),
      ((cluster.procs pid).writing = none → ClusterInv reading next)
      → ClusterInv reading (if cluster.free pid then next else cluster) := by
    intro pid next kept
    split
    · rename_i free
      exact kept ((free_iff cluster pid).mp free)
    · exact inv
  cases call with
  | readRow pid tid hostId => exact inv.readRow pid tid hostId
  | readSpec pid tid => exact inv.readSpec pid tid timely
  | install pid tid => exact locked pid _ (inv.install pid tid)
  | getHost pid tid => exact inv.getHost pid tid
  | heartbeat pid tid now =>
      exact locked pid _ (fun free => inv.heartbeat pid tid now free timely)
  | report pid tid => exact inv.report pid tid
  | fetchJob pid tid => exact inv.fetchJob pid tid
  | checkJob pid tid => exact inv.checkJob pid tid
  | putJobToken pid tid jobToken => exact inv.putJobToken sha256 pid tid jobToken
  | consumeJobToken pid tid jobId jobToken =>
      exact inv.consumeJobToken sha256 pid tid jobId jobToken
  | submitVerification pid tid output elapsed now =>
      exact locked pid _ (inv.submitVerification bench pid tid output elapsed now)
  | persistVerification pid => exact inv.persistVerification pid timely
  | apply pid ownerContactRef gpuModel gpuCount vramGb region ownHost hostId now =>
      exact locked pid _
        (inv.apply pid ownerContactRef gpuModel gpuCount vramGb region ownHost hostId now)
  | startVerification pid tid hostId token seed thresholds image n reps =>
      exact locked pid _
        (inv.startVerification pid tid hostId token seed thresholds image n reps)
  | hashFailed pid tid => exact locked pid _ (inv.hashFailed pid tid)
  | hashComputed pid tid jobId =>
      exact locked pid _ (fun free => inv.hashComputed bench pid tid jobId free timely)
  | promote pid hostId => exact locked pid _ (fun free => inv.promote pid hostId free timely)
  | suspend pid hostId reason => exact locked pid _ (inv.suspend pid hostId reason)
  | sweepSla pid hostId now sla => exact locked pid _ (inv.sweepSla pid hostId now sla)

theorem ClusterInv.start (reading : Reading) : ClusterInv reading newCluster := by
  refine ⟨?_, ?_⟩
  · intro hostId row found
    simp [newCluster] at found
  · intro pid
    refine ⟨by simp [newCluster, Process.start], ?_, fun _ => trivial, ?_⟩
    · intro hostId object impossible
      cases impossible
    · intro object spec impossible
      cases impossible

def AllSteps (sha256 : String → String) (bench : Bench) (condition : Cluster → ClusterCall → Prop)
    (calls : List ClusterCall) : Prop :=
  Throughout (fun before call => condition (clusterRun sha256 bench before) call) calls

theorem AllSteps.init {condition : Cluster → ClusterCall → Prop} {rest : List ClusterCall}
    (all : AllSteps sha256 bench condition (calls ++ rest))
    : AllSteps sha256 bench condition calls := by
  intro before call after split
  exact all before call (after ++ rest) (by simp [split])

theorem AllSteps.nil (sha256 : String → String) (bench : Bench)
    (condition : Cluster → ClusterCall → Prop)
    : AllSteps sha256 bench condition [] :=
  throughout_nil _

theorem AllSteps.snoc {condition : Cluster → ClusterCall → Prop}
    (all : AllSteps sha256 bench condition calls) {call : ClusterCall}
    (last : condition (clusterRun sha256 bench calls) call)
    : AllSteps sha256 bench condition (calls ++ [call]) :=
  Throughout.snoc all last

theorem clusterRun_snoc (sha256 : String → String) (bench : Bench) (calls : List ClusterCall)
    (call : ClusterCall)
    : clusterRun sha256 bench (calls ++ [call])
      = clusterStep sha256 bench (clusterRun sha256 bench calls) call := by
  simp [clusterRun, List.foldl_append]

/-- The invariant holds in every state of a run of timely steps, by induction on the steps. -/
theorem ClusterInv.run (reading : Reading) {condition : Cluster → ClusterCall → Prop}
    (timely : ∀ cluster call, condition cluster call → Timely reading.loadable cluster call)
    (all : AllSteps sha256 bench condition calls)
    : ClusterInv reading (clusterRun sha256 bench calls) := by
  induction calls using List.reverseRecOn with
  | nil => exact .start reading
  | append_singleton calls call ih =>
      rw [clusterRun_snoc]
      exact (ih all.init).step sha256 bench call (timely _ _ (all calls call [] rfl))

end RomaBridge.Properties
