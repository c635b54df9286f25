import RomaBridge.Foundation.System
import RomaBridge.Foundation.Table

/-! Rely-guarantee reasoning for interleaved programs.
A contract says what other threads may do to the store between two calls of a thread, what
each of the thread's own calls does, which threads it may start and which invariant every
store keeps. A program is safe at a store when its next call, executed after any tolerated
interference, keeps the contract and leaves a safe program behind.
-/

namespace RomaBridge.Foundation

/-- The rules under which one thread is verified. `allowed` restricts the store, call and
fault of the thread's own steps, `guarantee` says what such a step does to the store.
-/
structure Contract (S : Signature) (σ τ : Type) where
  inv : σ → Prop
  rely : σ → σ → Prop
  guarantee : σ → S.Call → Fault → σ → Prop
  allowed : σ → S.Call → Fault → Prop
  admits : τ → Prop

/-- Interference composes, so that a thread may wait for any number of foreign steps. -/
structure Contract.Composes {S : Signature} {σ τ : Type} (contract : Contract S σ τ) : Prop where
  refl : ∀ store, contract.rely store store
  trans
    : ∀ {first second third},
        contract.rely first second → contract.rely second third → contract.rely first third

variable {S : Signature} {σ τ ρ α β : Type}

/-- From this store on, every allowed call of the program keeps the contract and starts only
admitted threads; a returned value satisfies `returns`, and an exception satisfies `raises`,
whenever the outcome is looked at.
-/
def Program.Safe (M : Machine S σ τ ρ) (contract : Contract S σ τ) (returns : α → σ → Prop)
    (raises : S.Exn → σ → Prop)
    : Program S α → σ → Prop
  | .done value, store =>
      ∀ later, contract.rely store later → contract.inv later → returns value later
  | .raised exn, store =>
      ∀ later, contract.rely store later → contract.inv later → raises exn later
  | .call query next, store =>
      ∀ later,
        contract.rely store later
        → contract.inv later
        → ∀ fault,
            contract.allowed later query fault
            → contract.inv (M.exec query fault later).2
              ∧ contract.guarantee later query fault (M.exec query fault later).2
              ∧ (∀ kind ∈ M.started query (M.exec query fault later).1, contract.admits kind)
              ∧ (next (M.exec query fault later).1).Safe M contract returns raises
                  (M.exec query fault later).2

namespace Program

variable {M : Machine S σ τ ρ} {contract : Contract S σ τ} {returns : α → σ → Prop}
  {raises : S.Exn → σ → Prop} {store : σ}

/-- Safety at every store the interference can reach is safety now. -/
theorem Safe.of_later (composes : contract.Composes) {body : Program S α}
    (ready
      : ∀ later,
          contract.rely store later
          → contract.inv later
          → body.Safe M contract returns raises later)
    : body.Safe M contract returns raises store := by
  cases body with
  | done value =>
      exact fun later moved inv => ready later moved inv later (composes.refl later) inv
  | raised exn =>
      exact fun later moved inv => ready later moved inv later (composes.refl later) inv
  | call query next =>
      exact fun later moved inv => ready later moved inv later (composes.refl later) inv

/-- Safety survives tolerated interference. Witness: the rely relation composes. -/
theorem Safe.stable (composes : contract.Composes) {body : Program S α} {later : σ}
    (safe : body.Safe M contract returns raises store) (moved : contract.rely store later)
    : body.Safe M contract returns raises later := by
  cases body with
  | done value => exact fun last next inv => safe last (composes.trans moved next) inv
  | raised exn => exact fun last next inv => safe last (composes.trans moved next) inv
  | call query next => exact fun last more inv => safe last (composes.trans moved more) inv

/-- The outcome conditions may be weakened, by induction on the program. -/
theorem Safe.mono {body : Program S α} {returns' : α → σ → Prop} {raises' : S.Exn → σ → Prop}
    (safe : body.Safe M contract returns raises store)
    (returned
      : ∀ value later, contract.inv later → returns value later → returns' value later)
    (raised : ∀ exn later, contract.inv later → raises exn later → raises' exn later)
    : body.Safe M contract returns' raises' store := by
  induction body generalizing store with
  | done value => exact fun later moved inv => returned _ _ inv (safe later moved inv)
  | raised exn => exact fun later moved inv => raised _ _ inv (safe later moved inv)
  | call query next ih =>
      intro later moved inv fault allowed
      obtain ⟨keeps, guarantee, admitted, rest⟩ := safe later moved inv fault allowed
      exact ⟨keeps, guarantee, admitted, ih _ rest⟩

/-- Sequencing rule: the rest must be safe wherever the first part returns, by induction on
the first part.
-/
theorem Safe.bind (composes : contract.Composes) {returns : β → σ → Prop}
    {body : Program S α} {rest : α → Program S β}
    (safe
      : body.Safe M contract
          (fun value later => (rest value).Safe M contract returns raises later) raises store)
    : (body.bind rest).Safe M contract returns raises store := by
  induction body generalizing store with
  | done value => exact .of_later composes safe
  | raised exn => exact safe
  | call query next ih =>
      intro later moved inv fault allowed
      obtain ⟨keeps, guarantee, admitted, following⟩ := safe later moved inv fault allowed
      exact ⟨keeps, guarantee, admitted, ih _ following⟩

theorem Safe.handle (composes : contract.Composes) {body : Program S α}
    {handler : S.Exn → Program S α}
    (safe
      : body.Safe M contract returns
          (fun exn later => (handler exn).Safe M contract returns raises later) store)
    : (body.handle handler).Safe M contract returns raises store := by
  induction body generalizing store with
  | done value => exact safe
  | raised exn => exact .of_later composes safe
  | call query next ih =>
      intro later moved inv fault allowed
      obtain ⟨keeps, guarantee, admitted, following⟩ := safe later moved inv fault allowed
      exact ⟨keeps, guarantee, admitted, ih _ following⟩

end Program

namespace Machine

/-- One contract and one outcome condition for each kind of thread. -/
structure Discipline (S : Signature) (σ τ ρ : Type) where
  contract : τ → Contract S σ τ
  returns : τ → ρ → σ → Prop
  raises : τ → S.Exn → σ → Prop

variable {M : Machine S σ τ ρ} {ok : Config S σ τ ρ → Label τ → Prop}
  {first config : Config S σ τ ρ} {discipline : Discipline S σ τ ρ} {inv : σ → Prop}
  {Together : τ → τ → Prop}

def Discipline.Obeys (discipline : Discipline S σ τ ρ) (M : Machine S σ τ ρ)
    (thread : Thread S τ ρ) (store : σ)
    : Prop :=
  thread.program.Safe M (discipline.contract thread.kind) (discipline.returns thread.kind)
    (discipline.raises thread.kind) store

/-- Which kinds tolerate one another: every guarantee of the acting kind is within the rely
relation of the waiting kind, all contracts speak about one invariant, and an admitted kind
may run together with any kind.
-/
structure Discipline.Sound (discipline : Discipline S σ τ ρ) (inv : σ → Prop)
    (Together : τ → τ → Prop)
    : Prop where
  composes : ∀ kind, (discipline.contract kind).Composes
  shared : ∀ kind, (discipline.contract kind).inv = inv
  tolerates
    : ∀ {acting waiting store query fault later},
        Together acting waiting
        → inv store
        → inv later
        → (discipline.contract acting).guarantee store query fault later
        → (discipline.contract waiting).rely store later
  joins
    : ∀ {acting kind},
        (discipline.contract acting).admits kind
        → ∀ other, Together other kind ∧ Together kind other

/-- Every thread obeys its contract, and any two threads may run together. -/
structure Discipline.Holds (discipline : Discipline S σ τ ρ) (M : Machine S σ τ ρ)
    (inv : σ → Prop) (Together : τ → τ → Prop) (config : Config S σ τ ρ)
    : Prop where
  inv : inv config.store
  obeys
    : ∀ (index : Nat) thread,
        config.threads[index]? = some thread → discipline.Obeys M thread config.store
  together
    : (config.threads.map Thread.kind).Pairwise
        (fun left right => Together left right ∧ Together right left)

theorem Discipline.Holds.pair (holds : discipline.Holds M inv Together config) {i j : Nat}
    {left right : Thread S τ ρ} (distinct : i ≠ j) (atI : config.threads[i]? = some left)
    (atJ : config.threads[j]? = some right)
    : Together left.kind right.kind := by
  obtain ⟨boundI, rfl⟩ := List.getElem?_eq_some_iff.mp atI
  obtain ⟨boundJ, rfl⟩ := List.getElem?_eq_some_iff.mp atJ
  have pairs := List.pairwise_iff_getElem.mp (List.pairwise_map.mp holds.together)
  rcases Nat.lt_or_gt_of_ne distinct with less | greater
  · exact (pairs i j boundI boundJ less).1
  · exact (pairs j i boundJ boundI greater).2

theorem Discipline.Holds.call (sound : discipline.Sound inv Together)
    (holds : discipline.Holds M inv Together config) {index : Nat} {fault : Fault} {kind : τ}
    {query : S.Call} {rest : Except S.Exn (S.Reply query) → Program S ρ}
    {log : List (S.Call × Fault)}
    (found : config.threads[index]? = some { kind, program := .call query rest, log })
    (allowed : (discipline.contract kind).allowed config.store query fault)
    : inv (M.exec query fault config.store).2
      ∧ (discipline.contract kind).guarantee config.store query fault
          (M.exec query fault config.store).2
      ∧ (∀ started ∈ M.started query (M.exec query fault config.store).1,
          (discipline.contract kind).admits started)
      ∧ (rest (M.exec query fault config.store).1).Safe M (discipline.contract kind)
          (discipline.returns kind) (discipline.raises kind)
          (M.exec query fault config.store).2 := by
  have contractInv := sound.shared kind
  have own := holds.obeys index _ found config.store ((sound.composes kind).refl _)
    (contractInv ▸ holds.inv) fault allowed
  rw [contractInv] at own
  exact own

/-- One step keeps every thread obedient. Witness: the executed thread obeys its contract by
the clause of its call; all other threads tolerate that call because their kinds run together.
-/
theorem Discipline.Holds.step (sound : discipline.Sound inv Together)
    (holds : discipline.Holds M inv Together config) {next : Config S σ τ ρ} {label : Label τ}
    (stepped : M.step config label = some next)
    (arrivals
      : ∀ kind,
          label = .arrive kind
          → (∀ thread ∈ config.threads,
              Together thread.kind kind ∧ Together kind thread.kind)
            ∧ ∀ store, inv store → discipline.Obeys M (M.start kind) store)
    (starts
      : ∀ acting kind,
          (discipline.contract acting).admits kind
          → ∀ store, inv store → discipline.Obeys M (M.start kind) store)
    (steps
      : ∀ index fault kind query rest log,
          label = .exec index fault
          → config.threads[index]? = some { kind, program := .call query rest, log }
          → (discipline.contract kind).allowed config.store query fault)
    (crashes
      : ∀ index thread,
          label = .crash index
          → config.threads[index]? = some thread
          → (discipline.contract thread.kind).inv config.store
          → (Program.raised M.killed).Safe M (discipline.contract thread.kind)
              (discipline.returns thread.kind) (discipline.raises thread.kind) config.store)
    : discipline.Holds M inv Together next := by
  cases label with
  | arrive kind =>
      obtain ⟨store, threads⟩ := M.step_arrive stepped
      obtain ⟨peers, fresh⟩ := arrivals _ rfl
      refine ⟨store ▸ holds.inv, ?_, ?_⟩
      · intro index thread found
        rw [store]
        rw [threads, List.getElem?_append] at found
        split at found
        · exact holds.obeys index thread found
        · have same : thread = M.start kind :=
            List.mem_singleton.mp (List.mem_of_getElem? found)
          exact same ▸ fresh config.store holds.inv
      · rw [threads, List.map_append, List.pairwise_append]
        refine ⟨holds.together, by simp, ?_⟩
        intro left inLeft right inRight
        obtain ⟨thread, member, rfl⟩ := List.mem_map.mp inLeft
        simp only [List.map_cons, List.map_nil, List.mem_singleton] at inRight
        exact inRight ▸ peers thread member
  | exec index fault =>
      obtain ⟨kind, query, rest, log, found, store, threads⟩ := M.step_exec stepped
      obtain ⟨keeps, guarantee, admitted, following⟩ :=
        holds.call sound found (steps _ _ _ _ _ _ rfl found)
      refine ⟨store ▸ keeps, ?_, ?_⟩
      · intro other thread at'
        rw [threads, List.getElem?_append] at at'
        rw [store]
        split at at'
        · rcases getElem?_set_cases at' with ⟨_, rfl⟩ | ⟨distinct, old⟩
          · exact following
          · exact (holds.obeys other thread old).stable (sound.composes thread.kind)
              (sound.tolerates (holds.pair (Ne.symm distinct) found old) holds.inv keeps guarantee)
        · obtain ⟨started, member, rfl⟩ := List.mem_map.mp (List.mem_of_getElem? at')
          exact starts kind started (admitted started member) _ keeps
      · rw [threads, List.map_append, kinds_set found, List.pairwise_append]
        have joined : ∀ right ∈ (M.started query (M.exec query fault config.store).1).map
            M.start |>.map Thread.kind, ∀ left, Together left right ∧ Together right left := by
          intro right member left
          obtain ⟨thread, inThreads, rfl⟩ := List.mem_map.mp member
          obtain ⟨started, inStarted, rfl⟩ := List.mem_map.mp inThreads
          exact sound.joins (admitted started inStarted) left
        refine ⟨holds.together, ?_, ?_⟩
        · exact List.pairwise_of_forall_mem_list
            (fun left _ right member => joined right member left)
        · exact fun left _ right member => joined right member left
  | crash index =>
      obtain ⟨crashed, found, store, threads⟩ := M.step_crash stepped
      refine ⟨store ▸ holds.inv, ?_, ?_⟩
      · intro other thread at'
        rw [threads] at at'
        rw [store]
        rcases getElem?_set_cases at' with ⟨_, rfl⟩ | ⟨_, old⟩
        · exact crashes index crashed rfl found (sound.shared crashed.kind ▸ holds.inv)
        · exact holds.obeys other thread old
      · rw [threads, kinds_set found]
        exact holds.together

/-- The soundness rule: obedience is an invariant of the allowed steps, by induction on the
run.
-/
theorem Reaches.obeys (sound : discipline.Sound inv Together)
    (reached : M.Reaches ok first config)
    (arrivals
      : ∀ config kind,
          ok config (.arrive kind)
          → (∀ thread ∈ config.threads,
              Together thread.kind kind ∧ Together kind thread.kind)
            ∧ ∀ store, inv store → discipline.Obeys M (M.start kind) store)
    (starts
      : ∀ acting kind,
          (discipline.contract acting).admits kind
          → ∀ store, inv store → discipline.Obeys M (M.start kind) store)
    (steps
      : ∀ config index fault kind query rest log,
          ok config (.exec index fault)
          → config.threads[index]? = some { kind, program := .call query rest, log }
          → (discipline.contract kind).allowed config.store query fault)
    (crashes
      : ∀ config index thread,
          ok config (.crash index)
          → config.threads[index]? = some thread
          → (discipline.contract thread.kind).inv config.store
          → (Program.raised M.killed).Safe M (discipline.contract thread.kind)
              (discipline.returns thread.kind) (discipline.raises thread.kind) config.store)
    (initial : discipline.Holds M inv Together first)
    : discipline.Holds M inv Together config := by
  induction reached with
  | refl => exact initial
  | @step config next label _ allowed stepped ih =>
      refine ih.step sound stepped ?_ starts ?_ ?_
      · rintro kind rfl
        exact arrivals config kind allowed
      · rintro index fault kind query rest log rfl found
        exact steps config index fault kind query rest log allowed found
      · rintro index thread rfl found
        exact crashes config index thread allowed found

end Machine
end RomaBridge.Foundation
