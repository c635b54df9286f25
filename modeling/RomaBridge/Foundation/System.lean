import RomaBridge.Foundation.Program
import Mathlib.Data.List.Basic

/-! Interleaved threads over one shared store.
Every thread runs a program; one step of the system executes one call of one thread, with an
optional failure before or after its effect. Nothing orders the threads, so a statement about
every reachable configuration is a statement about every interleaving.
-/

namespace RomaBridge.Foundation

/-- How a call ends: with its reply, with an exception before its effect, or with an
exception although the effect took place.
-/
inductive Fault where
  | none
  | before (reason : String)
  | after (reason : String)
  deriving DecidableEq, Repr

/-- The effect of the call took place. -/
def Fault.takesEffect : Fault → Bool
  | .before _ => false
  | _ => true

/-- The meaning of the calls and the programs threads may run. The reply of a call may start
new threads, in the same step as the call.
-/
structure Machine (S : Signature) (σ τ ρ : Type) where
  apply : (query : S.Call) → σ → S.Reply query × σ
  raise : S.Call → String → S.Exn
  killed : S.Exn
  body : τ → Program S ρ
  starts : (query : S.Call) → S.Reply query → List τ

/-- A running or finished program with the calls it has executed, oldest first. -/
structure Thread (S : Signature) (τ ρ : Type) where
  kind : τ
  program : Program S ρ
  log : List (S.Call × Fault)

/-- The shared store and all threads that ever arrived; indices are never reused. -/
structure Config (S : Signature) (σ τ ρ : Type) where
  store : σ
  threads : List (Thread S τ ρ)

inductive Label (τ : Type) where
  | arrive (kind : τ)
  | exec (index : Nat) (fault : Fault)
  | crash (index : Nat)

namespace Config

variable {S : Signature} {σ τ ρ : Type}

/-- The call a label executes: the kind that issues it, the call and the fault it meets. -/
def executing (config : Config S σ τ ρ) : Label τ → Option (τ × S.Call × Fault)
  | .exec index fault =>
      match config.threads[index]? with
      | some { kind, program := .call query _, .. } => some (kind, query, fault)
      | _ => none
  | _ => none

/-- A condition on the store and the executed call; labels that execute none satisfy it. -/
def Permits (P : σ → τ → S.Call → Fault → Prop) (config : Config S σ τ ρ) (label : Label τ)
    : Prop :=
  match config.executing label with
  | some (kind, query, fault) => P config.store kind query fault
  | none => True

instance {P : σ → τ → S.Call → Fault → Prop}
    [∀ store kind query fault, Decidable (P store kind query fault)] (config : Config S σ τ ρ)
    (label : Label τ)
    : Decidable (config.Permits P label) :=
  match executing : config.executing label with
  | some (kind, query, fault) =>
      decidable_of_iff (P config.store kind query fault) (by simp only [Permits, executing])
  | none => .isTrue (by simp only [Permits, executing])

theorem Permits.executed {P : σ → τ → S.Call → Fault → Prop} {config : Config S σ τ ρ}
    {label : Label τ} {kind : τ} {query : S.Call} {fault : Fault}
    (permitted : config.Permits P label)
    (executing : config.executing label = some (kind, query, fault))
    : P config.store kind query fault := by
  simpa only [Permits, executing] using permitted

theorem executing_exec {config : Config S σ τ ρ} {index : Nat} {fault : Fault} {kind : τ}
    {query : S.Call} {rest : Except S.Exn (S.Reply query) → Program S ρ}
    {log : List (S.Call × Fault)}
    (found : config.threads[index]? = some { kind, program := .call query rest, log })
    : config.executing (.exec index fault) = some (kind, query, fault) := by
  simp only [executing, found]

end Config

namespace Machine

variable {S : Signature} {σ τ ρ : Type} (M : Machine S σ τ ρ)

def exec (query : S.Call) (fault : Fault) (store : σ)
    : Except S.Exn (S.Reply query) × σ :=
  match fault with
  | .none => (.ok (M.apply query store).1, (M.apply query store).2)
  | .before reason => (.error (M.raise query reason), store)
  | .after reason => (.error (M.raise query reason), (M.apply query store).2)

/-- A call either left the store alone or had its whole effect. -/
theorem exec_store (query : S.Call) (fault : Fault) (store : σ)
    : (M.exec query fault store).2 = store
      ∨ (M.exec query fault store).2 = (M.apply query store).2 := by
  cases fault with
  | none => exact Or.inr rfl
  | before reason => exact Or.inl rfl
  | after reason => exact Or.inr rfl

theorem exec_holds {holds : σ → Prop} {query : S.Call} {fault : Fault} {store : σ}
    (now : holds store) (applied : holds (M.apply query store).2)
    : holds (M.exec query fault store).2 := by
  rcases M.exec_store query fault store with same | effect
  · rwa [same]
  · rwa [effect]

theorem exec_leaves (query : S.Call) (fault : Fault) (store : σ)
    : (M.exec query fault store).2
      = if fault.takesEffect then (M.apply query store).2 else store := by
  cases fault with
  | none => rfl
  | before reason => rfl
  | after reason => rfl

def started (query : S.Call) : Except S.Exn (S.Reply query) → List τ
  | .ok reply => M.starts query reply
  | .error _ => []

def start (kind : τ) : Thread S τ ρ := { kind, program := M.body kind, log := [] }

/-- One step of the system; `none` when the label does not apply. -/
def step (config : Config S σ τ ρ) : Label τ → Option (Config S σ τ ρ)
  | .arrive kind => some { config with threads := config.threads ++ [M.start kind] }
  | .exec index fault =>
      match config.threads[index]? with
      | some { kind, program := .call query next, log } =>
          let outcome := M.exec query fault config.store
          some {
            store := outcome.2
            threads :=
              config.threads.set index
                { kind, program := next outcome.1, log := log ++ [(query, fault)] }
              ++ (M.started query outcome.1).map M.start
          }
      | _ => none
  | .crash index =>
      match config.threads[index]? with
      | some thread =>
          some {
            config with
            threads := config.threads.set index { thread with program := .raised M.killed }
          }
      | none => none

/-- A whole schedule, executed label by label; `none` at the first label that does not apply
or does not pass `permits`.
-/
def run (permits : Config S σ τ ρ → Label τ → Bool) (config : Config S σ τ ρ)
    : List (Label τ) → Option (Config S σ τ ρ)
  | [] => some config
  | label :: rest =>
      if permits config label then
        (M.step config label).bind (fun next => run permits next rest)
      else
        none

-- What one step can do

theorem step_exec {config next : Config S σ τ ρ} {index : Nat} {fault : Fault}
    (stepped : M.step config (.exec index fault) = some next)
    : ∃ kind query rest log,
        config.threads[index]? = some { kind, program := .call query rest, log }
        ∧ next.store = (M.exec query fault config.store).2
        ∧ next.threads
          = config.threads.set index {
              kind,
              program := rest (M.exec query fault config.store).1,
              log := log ++ [(query, fault)]
            }
            ++ (M.started query (M.exec query fault config.store).1).map M.start := by
  simp only [step] at stepped
  split at stepped
  · rename_i kind query rest log found
    cases stepped
    exact ⟨kind, query, rest, log, found, rfl, rfl⟩
  · cases stepped

theorem step_arrive {config next : Config S σ τ ρ} {kind : τ}
    (stepped : M.step config (.arrive kind) = some next)
    : next.store = config.store ∧ next.threads = config.threads ++ [M.start kind] := by
  cases stepped
  exact ⟨rfl, rfl⟩

theorem step_crash {config next : Config S σ τ ρ} {index : Nat}
    (stepped : M.step config (.crash index) = some next)
    : ∃ thread,
        config.threads[index]? = some thread
        ∧ next.store = config.store
        ∧ next.threads
          = config.threads.set index { thread with program := .raised M.killed } := by
  simp only [step] at stepped
  split at stepped
  · rename_i thread found
    cases stepped
    exact ⟨thread, found, rfl, rfl⟩
  · cases stepped

theorem step_store {config next : Config S σ τ ρ} {label : Label τ}
    (stepped : M.step config label = some next)
    : (config.executing label = none ∧ next.store = config.store)
      ∨ ∃ thread ∈ config.threads, ∃ query rest fault,
          thread.program = .call query rest
          ∧ config.executing label = some (thread.kind, query, fault)
          ∧ next.store = (M.exec query fault config.store).2 := by
  cases label with
  | arrive kind => exact Or.inl ⟨rfl, (M.step_arrive stepped).1⟩
  | crash index =>
      obtain ⟨_, _, store, _⟩ := M.step_crash stepped
      exact Or.inl ⟨rfl, store⟩
  | exec index fault =>
      obtain ⟨kind, query, rest, log, found, store, _⟩ := M.step_exec stepped
      exact Or.inr ⟨_, List.mem_of_getElem? found, query, rest, fault, rfl,
        Config.executing_exec found, store⟩

theorem executing_of_step_none {config : Config S σ τ ρ} {label : Label τ}
    (refused : M.step config label = none)
    : config.executing label = none := by
  cases label with
  | arrive kind => rfl
  | crash index => rfl
  | exec index fault =>
      simp only [step] at refused
      simp only [Config.executing]
      split at refused
      · cases refused
      · rfl

theorem kinds_set {S : Signature} {τ ρ : Type} {threads : List (Thread S τ ρ)} {index : Nat} {old : Thread S τ ρ}
    (found : threads[index]? = some old) (program : Program S ρ)
    (log : List (S.Call × Fault))
    : (threads.set index { kind := old.kind, program, log }).map Thread.kind
      = threads.map Thread.kind := by
  obtain ⟨bound, rfl⟩ := List.getElem?_eq_some_iff.mp found
  apply List.ext_getElem
  · simp
  · intro i left right
    simp only [List.getElem_map, List.getElem_set]
    split
    · rename_i here
      subst here
      rfl
    · rfl

theorem step_kinds {config next : Config S σ τ ρ} {label : Label τ}
    (stepped : M.step config label = some next)
    : ∃ more,
        next.threads.map Thread.kind = config.threads.map Thread.kind ++ more
        ∧ ∀ kind, label = .arrive kind → more = [kind] := by
  cases label with
  | arrive kind =>
      refine ⟨[kind], by simp [(M.step_arrive stepped).2, start], ?_⟩
      intro other same
      cases same
      rfl
  | exec index fault =>
      obtain ⟨kind, query, rest, log, found, _, threads⟩ := M.step_exec stepped
      refine ⟨_, by rw [threads, List.map_append, kinds_set found], ?_⟩
      intro other same
      cases same
  | crash index =>
      obtain ⟨crashed, found, _, threads⟩ := M.step_crash stepped
      refine ⟨[], by rw [threads, kinds_set found, List.append_nil], ?_⟩
      intro other same
      cases same

-- Reachability

/-- Configurations reached from `first` by steps that each satisfy `ok` before they run. -/
inductive Reaches (ok : Config S σ τ ρ → Label τ → Prop) (first : Config S σ τ ρ)
    : Config S σ τ ρ → Prop where
  | refl : Reaches ok first first
  | step {config next : Config S σ τ ρ} {label : Label τ} (earlier : Reaches ok first config)
    (allowed : ok config label) (stepped : M.step config label = some next)
    : Reaches ok first next

variable {M} {ok ok' : Config S σ τ ρ → Label τ → Prop} {first config next : Config S σ τ ρ}

/-- Runs compose, by induction on the second run. -/
theorem Reaches.trans (left : M.Reaches ok first config) (right : M.Reaches ok config next)
    : M.Reaches ok first next := by
  induction right with
  | refl => exact left
  | step _ allowed stepped ih => exact ih.step allowed stepped

/-- Threads stay where they are and keep their kinds, by induction on the run. -/
theorem Reaches.kinds (reached : M.Reaches ok first config)
    : ∃ more, config.threads.map Thread.kind = first.threads.map Thread.kind ++ more := by
  induction reached with
  | refl => exact ⟨[], by simp⟩
  | step _ _ stepped ih =>
      obtain ⟨more, kinds⟩ := ih
      obtain ⟨late, later, _⟩ := M.step_kinds stepped
      exact ⟨more ++ late, by rw [later, kinds, List.append_assoc]⟩

/-- What holds of every kind present at the end held of every arrival on the way, by induction
on the run.
-/
theorem Reaches.arrivals {P : τ → Prop} (reached : M.Reaches ok first config)
    (present : ∀ kind ∈ config.threads.map Thread.kind, P kind)
    : M.Reaches (fun config label => ok config label ∧ ∀ kind, label = .arrive kind → P kind)
        first config := by
  induction reached with
  | refl => exact .refl
  | step _ allowed stepped ih =>
      obtain ⟨more, kinds, arrived⟩ := M.step_kinds stepped
      rw [kinds] at present
      refine (ih (fun kind member => present kind (List.mem_append_left _ member))).step
        ⟨allowed, ?_⟩ stepped
      intro kind same
      exact present kind (List.mem_append_right _ (by simp [arrived kind same]))

theorem Reaches.invariant {Inv : Config S σ τ ρ → Prop}
    (reached : M.Reaches ok first config) (initial : Inv first)
    (preserved
      : ∀ config next label,
          Inv config → ok config label → M.step config label = some next → Inv next)
    : Inv config := by
  induction reached with
  | refl => exact initial
  | step _ allowed stepped ih => exact preserved _ _ _ ih allowed stepped

theorem Reaches.of_run {permits : Config S σ τ ρ → Label τ → Bool}
    (sound : ∀ config label, permits config label = true → ok config label)
    (labels : List (Label τ)) (ran : M.run permits first labels = some next)
    : M.Reaches ok first next := by
  induction labels generalizing first with
  | nil =>
      cases ran
      exact .refl
  | cons label rest ih =>
      unfold run at ran
      split at ran
      · rename_i permitted
        obtain ⟨middle, stepped, later⟩ := Option.bind_eq_some_iff.mp ran
        exact (Reaches.refl.step (sound first label permitted) stepped).trans (ih later)
      · cases ran

theorem Reaches.of_check {permits : Config S σ τ ρ → Label τ → Bool}
    {check : Config S σ τ ρ → Bool}
    (sound : ∀ config label, permits config label = true → ok config label)
    (labels : List (Label τ)) (ran : (M.run permits first labels).any check = true)
    : ∃ config, M.Reaches ok first config ∧ check config = true := by
  cases last : M.run permits first labels with
  | none => simp [last] at ran
  | some config => exact ⟨config, .of_run sound labels last, by simpa [last] using ran⟩

theorem Reaches.of_checks {permits permits' : Config S σ τ ρ → Label τ → Bool}
    {check : Config S σ τ ρ → Config S σ τ ρ → Bool}
    (sound : ∀ config label, permits config label = true → ok config label)
    (sound' : ∀ config label, permits' config label = true → ok' config label)
    (labels labels' : List (Label τ))
    (ran
      : (M.run permits first labels).any (fun middle =>
          (M.run permits' middle labels').any (check middle))
        = true)
    : ∃ middle last,
        M.Reaches ok first middle
        ∧ M.Reaches ok' middle last
        ∧ check middle last = true := by
  obtain ⟨middle, reached, later⟩ := Reaches.of_check sound labels ran
  obtain ⟨last, onward, passed⟩ := Reaches.of_check sound' labels' later
  exact ⟨middle, last, reached, onward, passed⟩

/-- Rule for the calls threads may issue: every thread ever present keeps to the calls that
the body of its kind can issue, and has done so, by induction on the run.
-/
theorem Reaches.issues {P : τ → S.Call → Prop} (reached : M.Reaches ok first config)
    (bodies : ∀ kind, (M.body kind).Issues (P kind))
    (initial
      : ∀ thread ∈ first.threads,
          thread.program.Issues (P thread.kind) ∧ ∀ entry ∈ thread.log, P thread.kind entry.1)
    : ∀ thread ∈ config.threads,
        thread.program.Issues (P thread.kind) ∧ ∀ entry ∈ thread.log, P thread.kind entry.1 := by
  have fresh : ∀ kind, (M.start kind).program.Issues (P kind)
      ∧ ∀ entry ∈ (M.start kind).log, P kind entry.1 :=
    fun kind => ⟨bodies kind, by simp [start]⟩
  induction reached with
  | refl => exact initial
  | @step config next label _ allowed stepped ih =>
      cases label with
      | arrive kind =>
          intro thread member
          rw [(M.step_arrive stepped).2] at member
          rcases List.mem_append.mp member with earlier | single
          · exact ih thread earlier
          · rw [List.mem_singleton.mp single]
            exact fresh kind
      | exec index fault =>
          obtain ⟨kind, query, rest, log, found, _, threads⟩ := M.step_exec stepped
          obtain ⟨issues, logged⟩ := ih _ (List.mem_of_getElem? found)
          intro thread member
          rw [threads] at member
          rcases List.mem_append.mp member with earlier | late
          · rcases List.mem_or_eq_of_mem_set earlier with other | same
            · exact ih thread other
            · subst same
              refine ⟨issues.2 _, ?_⟩
              intro entry inLog
              rcases List.mem_append.mp inLog with old | new
              · exact logged entry old
              · rw [List.mem_singleton.mp new]
                exact issues.1
          · obtain ⟨started, _, rfl⟩ := List.mem_map.mp late
            exact fresh started
      | crash index =>
          obtain ⟨crashed, found, _, threads⟩ := M.step_crash stepped
          intro thread member
          rw [threads] at member
          rcases List.mem_or_eq_of_mem_set member with other | same
          · exact ih thread other
          · subst same
            exact ⟨trivial, (ih crashed (List.mem_of_getElem? found)).2⟩

end Machine

/-- No thread has a call left to execute. -/
def Config.Quiescent {S : Signature} {σ τ ρ : Type} (config : Config S σ τ ρ) : Prop :=
  ∀ thread ∈ config.threads, thread.program.Finished

instance {S : Signature} {σ τ ρ : Type} (config : Config S σ τ ρ)
    : Decidable config.Quiescent :=
  inferInstanceAs (Decidable (∀ thread ∈ config.threads, thread.program.Finished))

end RomaBridge.Foundation
