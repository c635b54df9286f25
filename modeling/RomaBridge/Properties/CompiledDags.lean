import RomaBridge.Foundation.Separated
import RomaBridge.Model.K8sCompiler

/-! The manifest of a task runs the steps of its DAG, each once and after those it depends on. The
compiler keeps the order of the list it is given.
-/

namespace RomaBridge.Properties

open RomaBridge.Foundation RomaBridge.Model RomaBridge.Model.Compiler

variable {format : PyObj → String} {mode : String} {task : RomaJson} {dag : List Step}
variable {taskId : String} {gpuRequired : Bool} {resources : Entries} {manifest : Manifest}

/-- The steps of a DAG run at these places of an execution, each only there, and after those it
depends on.
-/
structure RunsAt (dag : List Step) (executions : List Execution) (place : ℕ → ℕ) : Prop where
  runs : ∀ (i : ℕ) (step : Step), dag[i]? = some step →
    ∃ execution, executions[place i]? = some execution ∧ execution.Of i step
  once : ∀ (i k : ℕ) (step : Step) (execution : Execution), dag[i]? = some step →
    executions[k]? = some execution → execution.Of i step → k = place i
  apart : ∀ i j, i < dag.length → j < dag.length → place i = place j → i = j
  ordered : ∀ (i j : ℕ) (step other : Step), dag[i]? = some step → dag[j]? = some other →
    other.id ∈ step.dependsOn.getD [] → place j < place i

/-- Whether a task asks for GPU nodes, for itself or for a step. -/
def NeedsGpu (task : RomaJson) : Prop :=
  ((getEntry (task.analysis.getD []) (.str "gpu_required")).getD (.bool false)).truthy = true
  ∨ ∃ step ∈ task.dag.getD [], step.gpu = some true

def PreservesDag (format : PyObj → String) (mode : String) (task : RomaJson) : Prop :=
  ∃ manifest, compile format mode task = .ok manifest
    ∧ (∃ place, RunsAt (task.dag.getD []) manifest.executions place)
    ∧ (NeedsGpu task → manifest.onGpuNodes = true)

/-- Every step stands behind those it depends on. -/
def ListedInOrder (dag : List Step) : Prop :=
  ∀ (i j : ℕ) (step other : Step), dag[i]? = some step → dag[j]? = some other →
    other.id ∈ step.dependsOn.getD [] → j < i

/-- What the compiler can compile: as a Job, a list with a step, in the order of the dependencies, with
no command of blanks; as a RayJob, at most one step, with a command, and no GPU.
-/
def Compilable (mode : String) (task : RomaJson) : Prop :=
  ListedInOrder (task.dag.getD [])
  ∧ if mode = "ray_job" then
      (task.dag.getD []).length ≤ 1 ∧ (∀ step ∈ task.dag.getD [], step.command ≠ none)
        ∧ ¬ NeedsGpu task
    else
      task.dag.getD [] ≠ []
        ∧ ∀ step ∈ task.dag.getD [], (step.command.getD "" = "" ∨ step.words ≠ [])

-- Names

theorem stepName_place {i j : ℕ} {first second : String}
    (same : stepName i first = stepName j second) : i = j := by
  have noDash : ∀ n : ℕ, '-' ∉ Nat.toDigits 10 n := by
    intro n member
    have digit := Nat.isDigit_of_mem_toDigits (by omega) (by omega) member
    cases digit
  have texts := congrArg String.toList same
  simp only [stepName, String.toList_append, Nat.toString_eq_ofList_toDigits,
    String.toList_ofList, List.append_assoc, List.append_cancel_left_eq] at texts
  have digits := ((append_sep_inj_left (noDash i) (noDash j)).mp texts).1
  rw [← Nat.ofDigitChars_ten_toDigits (n := i), digits, Nat.ofDigitChars_ten_toDigits]

theorem init_ne_stepName {i j : ℕ} {first second : String}
    : "init-" ++ stepName i first ≠ stepName j second := by
  intro same
  have texts := congrArg String.toList same
  simp [stepName] at texts

def containerName (dag : List Step) (place : ℕ) (step : Step) : String :=
  if place + 1 = dag.length then stepName place step.id else "init-" ++ stepName place step.id

theorem containerName_place {i k : ℕ} {step other : Step}
    (named : containerName dag k other = stepName i step.id
      ∨ containerName dag k other = "init-" ++ stepName i step.id)
    : k = i := by
  unfold containerName at named
  split at named
  · rcases named with same | same
    · exact stepName_place same
    · exact absurd same.symm init_ne_stepName
  · rcases named with same | same
    · exact absurd same init_ne_stepName
    · exact stepName_place (by simpa using same)

-- Jobs

theorem getElem?_dropLast_append {α β : Type} {items : List α} {last : α}
    (ends : items.getLast? = some last) (first final : α → β) (k : ℕ)
    : (items.dropLast.map first ++ [final last])[k]?
      = items[k]?.map (fun item => if k + 1 = items.length then final item else first item) := by
  obtain ⟨front, rfl⟩ := List.getLast?_eq_some_iff.mp ends
  rw [List.dropLast_concat]
  rcases Nat.lt_trichotomy k front.length with before | here | behind
  · have other : k + 1 ≠ (front ++ [last]).length := by
      rw [List.length_append, List.length_singleton]
      omega
    rw [List.getElem?_append_left (by simpa using before), List.getElem?_append_left before,
      List.getElem?_map]
    simp only [if_neg other]
  · subst here
    simp
  · rw [List.getElem?_eq_none (by simp; omega), List.getElem?_eq_none (by simp; omega)]
    rfl

def stepExecution (dag : List Step) (place : ℕ) (step : Step) : Execution where
  container := some (containerName dag place step)
  words := if stepCommand step = [] then none else some (stepCommand step)

def compiledSteps (format : PyObj → String) (dag : List Step) (gpuRequired : Bool)
    (resources : Entries) : List CompiledStep :=
  dag.zipIdx.map fun (node, place) => compileStep format dag gpuRequired resources place node

theorem compileK8sJob_cases
    (compiled : compileK8sJob format taskId dag gpuRequired resources = .ok manifest)
    : ∃ built last, manifest = .job built
      ∧ (compiledSteps format dag gpuRequired resources).getLast? = some last
      ∧ built.name = objectName taskId
      ∧ built.spec.containers = [last.container]
      ∧ built.spec.initContainers
          = (compiledSteps format dag gpuRequired resources).dropLast.map (fun step =>
              { step.container with name := "init-" ++ step.name })
      ∧ (gpuRequired = true → built.spec.nodeSelector = gpuNodeSelector) := by
  simp only [compileK8sJob, buildJobManifest] at compiled
  cases ends : (compiledSteps format dag gpuRequired resources).getLast? with
  | none =>
      simp only [compiledSteps] at ends
      rw [ends] at compiled
      cases compiled
  | some last =>
      have ends' := ends
      simp only [compiledSteps] at ends'
      rw [ends'] at compiled
      cases compiled
      exact ⟨_, last, rfl, rfl, rfl, rfl, rfl, fun required => if_pos required⟩

theorem containers_compileK8sJob
    (compiled : compileK8sJob format taskId dag gpuRequired resources = .ok manifest)
    : ∃ built, manifest = .job built
      ∧ ∀ k, (built.spec.initContainers ++ built.spec.containers)[k]?
        = dag[k]?.map fun node =>
            { stepContainer format gpuRequired resources k node with
              name := containerName dag k node } := by
  obtain ⟨built, last, rfl, ends, -, containers, inits, -⟩ := compileK8sJob_cases compiled
  have lengths : (compiledSteps format dag gpuRequired resources).length = dag.length := by
    simp [compiledSteps]
  refine ⟨built, rfl, fun k => ?_⟩
  rw [containers, inits, getElem?_dropLast_append ends _ CompiledStep.container, lengths]
  simp only [compiledSteps, List.getElem?_map, List.getElem?_zipIdx, Option.map_map]
  congr 1
  funext node
  by_cases final : k + 1 = dag.length
  · simp [compileStep, stepContainer, containerName, final]
  · simp [compileStep, containerName, final]

theorem executions_compileK8sJob
    (compiled : compileK8sJob format taskId dag gpuRequired resources = .ok manifest) (k : ℕ)
    : manifest.executions[k]? = dag[k]?.map (stepExecution dag k) := by
  obtain ⟨built, rfl, containers⟩ := containers_compileK8sJob compiled
  simp only [Manifest.executions, List.getElem?_map, containers, Option.map_map]
  rfl

theorem onGpuNodes_compileK8sJob
    (compiled : compileK8sJob format taskId dag gpuRequired resources = .ok manifest)
    (needs : gpuRequired = true ∨ ∃ step ∈ dag, step.gpu = some true)
    : manifest.onGpuNodes = true := by
  rcases needs with required | ⟨step, member, gpu⟩
  · obtain ⟨built, last, rfl, -, -, -, -, selects⟩ := compileK8sJob_cases compiled
    simp [Manifest.onGpuNodes, selects required]
  · obtain ⟨built, rfl, containers⟩ := containers_compileK8sJob compiled
    obtain ⟨k, here⟩ := List.mem_iff_getElem?.mp member
    have container := containers k
    rw [here, Option.map_some] at container
    have requests : (stepContainer format gpuRequired resources k step).requests.any
        (·.1 = gpuResource) = true := by
      simp [stepContainer, gpu]
    refine Bool.or_eq_true_iff.mpr (.inr (List.any_eq_true.mpr ?_))
    exact ⟨_, List.mem_of_getElem? container, requests⟩

theorem place_of_stepExecution {i k : ℕ} {step other : Step}
    (of : (stepExecution dag k other).Of i step) : k = i := by
  rcases of.1 with unnamed | named | named
  · cases unnamed
  · exact containerName_place (.inl (Option.some.inj named))
  · exact containerName_place (.inr (Option.some.inj named))

theorem stepExecution_of_iff {k : ℕ} {step : Step}
    : (stepExecution dag k step).Of k step ↔ step.command.getD "" = "" ∨ step.words ≠ [] := by
  have named : (stepExecution dag k step).container = some (stepName k step.id)
      ∨ (stepExecution dag k step).container = some ("init-" ++ stepName k step.id) := by
    simp only [stepExecution, containerName]
    split
    · exact .inl rfl
    · exact .inr rfl
  rw [Execution.Of, and_iff_right (.inr named)]
  by_cases given : step.command.getD "" = ""
  · have echo : stepCommand step = ["echo", "no command"] := by
      unfold stepCommand
      cases command : step.command with
      | none => rfl
      | some text =>
          rw [command] at given
          exact if_neg (not_not.mpr given)
    simp [stepExecution, echo, given]
  · have words : stepCommand step = step.words := by
      unfold stepCommand Step.words
      cases command : step.command with
      | none => exact absurd (by rw [command]; rfl) given
      | some text =>
          rw [command] at given
          exact if_pos given
    by_cases blank : step.words = []
    · simp [stepExecution, words, given, blank]
    · simp [stepExecution, words, given, blank]

theorem compileK8sJob_runs_iff
    (compiled : compileK8sJob format taskId dag gpuRequired resources = .ok manifest)
    : (∃ place, RunsAt dag manifest.executions place)
      ↔ ListedInOrder dag ∧ ∀ step ∈ dag, step.command.getD "" = "" ∨ step.words ≠ [] := by
  have executions := executions_compileK8sJob compiled
  constructor
  · rintro ⟨place, runs⟩
    -- a step runs in its own container, so at its place in the list
    have own : ∀ i step, dag[i]? = some step →
        place i = i ∧ (stepExecution dag i step).Of i step := by
      intro i step here
      obtain ⟨execution, there, of⟩ := runs.runs i step here
      rw [executions] at there
      obtain ⟨other, -, rfl⟩ := Option.map_eq_some_iff.mp there
      have same := place_of_stepExecution of
      rw [same] at there of
      rw [here] at there
      rw [← Option.some.inj there] at of
      exact ⟨same, of⟩
    constructor
    · intro i j step other here there depends
      have before := runs.ordered i j step other here there depends
      rwa [(own i step here).1, (own j other there).1] at before
    · intro step member
      obtain ⟨i, here⟩ := List.mem_iff_getElem?.mp member
      exact stepExecution_of_iff.mp (own i step here).2
  · rintro ⟨listed, commands⟩
    refine ⟨id, ?_, ?_, fun i j _ _ same => same, listed⟩
    · intro i step here
      refine ⟨stepExecution dag i step, ?_,
        stepExecution_of_iff.mpr (commands step (List.mem_of_getElem? here))⟩
      rw [id, executions, here, Option.map_some]
    · intro i k step execution here there of
      rw [executions] at there
      obtain ⟨other, -, rfl⟩ := Option.map_eq_some_iff.mp there
      exact place_of_stepExecution of

theorem compileK8sJob_ok_iff
    : (∃ manifest, compileK8sJob format taskId dag gpuRequired resources = .ok manifest)
      ↔ dag ≠ [] := by
  constructor
  · rintro ⟨manifest, compiled⟩ rfl
    cases compiled
  · intro nonempty
    simp only [compileK8sJob, buildJobManifest]
    split
    · rename_i empty
      exact absurd empty (by simpa using nonempty)
    · exact ⟨_, rfl⟩

-- RayJobs

def rayEntrypoint (dag : List Step) : Option String :=
  match dag with
  | [] => some "echo done"
  | first :: _ => first.command

theorem compileRayjob_cases (compiled : compileRayjob taskId dag gpuRequired = .ok manifest)
    : ∃ entrypoint, rayEntrypoint dag = some entrypoint
      ∧ manifest.name = objectName taskId
      ∧ manifest.executions = [{ container := none, words := some (pySplit entrypoint) }]
      ∧ manifest.onGpuNodes = false := by
  cases dag with
  | nil =>
      cases compiled
      exact ⟨_, rfl, rfl, rfl, rfl⟩
  | cons first rest =>
      simp only [compileRayjob] at compiled
      cases command : first.command with
      | none =>
          rw [command] at compiled
          cases compiled
      | some entrypoint =>
          rw [command] at compiled
          cases compiled
          exact ⟨entrypoint, command, rfl, rfl, rfl⟩

theorem compileRayjob_ok {entrypoint : String} (entry : rayEntrypoint dag = some entrypoint)
    : ∃ manifest, compileRayjob taskId dag gpuRequired = .ok manifest := by
  cases dag with
  | nil => exact ⟨_, rfl⟩
  | cons first rest =>
      have command : first.command = some entrypoint := entry
      simp only [compileRayjob, command]
      exact ⟨_, rfl⟩

theorem rayEntrypoint_runs_iff {entrypoint : String}
    (entry : rayEntrypoint dag = some entrypoint)
    : (∃ place, RunsAt dag [{ container := none, words := some (pySplit entrypoint) }] place)
      ↔ ListedInOrder dag ∧ dag.length ≤ 1 := by
  have only : ∀ {k : ℕ} {execution : Execution},
      ([{ container := none, words := some (pySplit entrypoint) }] : List Execution)[k]?
        = some execution → k = 0 := by
    intro k execution here
    have bound := (List.getElem?_eq_some_iff.mp here).1
    exact Nat.lt_one_iff.mp bound
  constructor
  · rintro ⟨place, runs⟩
    have start : ∀ i, i < dag.length → place i = 0 := by
      intro i bound
      obtain ⟨execution, there, -⟩ := runs.runs i dag[i] (List.getElem?_eq_getElem bound)
      exact only there
    have short : dag.length ≤ 1 := by
      by_contra long
      have same := runs.apart 0 1 (by omega) (by omega) (by rw [start 0, start 1] <;> omega)
      omega
    refine ⟨fun i j step other here there depends => ?_, short⟩
    have before := runs.ordered i j step other here there depends
    rw [start i (List.getElem?_eq_some_iff.mp here).1] at before
    omega
  · rintro ⟨listed, short⟩
    have first : ∀ {i : ℕ} {step : Step}, dag[i]? = some step →
        i = 0 ∧ step.command = some entrypoint := by
      intro i step here
      have bound := (List.getElem?_eq_some_iff.mp here).1
      obtain rfl : i = 0 := by omega
      cases dag with
      | nil => cases here
      | cons head rest =>
          cases here
          exact ⟨rfl, entry⟩
    refine ⟨id, ?_, ?_, fun i j _ _ same => same, listed⟩
    · intro i step here
      obtain ⟨rfl, command⟩ := first here
      exact ⟨_, rfl, .inl rfl, .inl (by rw [Step.words, command]; rfl)⟩
    · intro i k step execution here there of
      rw [only there, (first here).1]
      rfl

-- Tasks

theorem preservesDag_iff (format : PyObj → String) (mode : String) (task : RomaJson)
    : PreservesDag format mode task ↔ Compilable mode task := by
  unfold PreservesDag Compilable compile
  by_cases ray : mode = "ray_job"
  · simp only [if_pos ray]
    constructor
    · rintro ⟨manifest, compiled, runs, placed⟩
      obtain ⟨entrypoint, entry, -, executions, anywhere⟩ := compileRayjob_cases compiled
      rw [executions] at runs
      obtain ⟨listed, short⟩ := (rayEntrypoint_runs_iff entry).mp runs
      refine ⟨listed, short, fun step member => ?_, fun needs => ?_⟩
      · cases dag : task.dag.getD [] with
        | nil =>
            rw [dag] at member
            cases member
        | cons first rest =>
            rw [dag] at member entry short
            obtain rfl : rest = [] := List.eq_nil_of_length_eq_zero (by simpa using short)
            obtain rfl := List.mem_singleton.mp member
            have command : step.command = some entrypoint := entry
            rw [command]
            exact Option.some_ne_none _
      · rw [placed needs] at anywhere
        cases anywhere
    · rintro ⟨listed, short, commands, spared⟩
      have entry : ∃ entrypoint, rayEntrypoint (task.dag.getD []) = some entrypoint := by
        cases dag : task.dag.getD [] with
        | nil => exact ⟨_, rfl⟩
        | cons first rest =>
            rw [dag] at commands
            exact Option.ne_none_iff_exists'.mp (commands first (List.mem_cons_self ..))
      obtain ⟨entrypoint, entry⟩ := entry
      obtain ⟨manifest, compiled⟩ := compileRayjob_ok entry
      obtain ⟨entrypoint', entry', -, executions, -⟩ := compileRayjob_cases compiled
      refine ⟨manifest, compiled, ?_, fun needs => absurd needs spared⟩
      rw [executions]
      exact (rayEntrypoint_runs_iff entry').mpr ⟨listed, short⟩
  · simp only [if_neg ray]
    constructor
    · rintro ⟨manifest, compiled, runs, -⟩
      obtain ⟨listed, commands⟩ := (compileK8sJob_runs_iff compiled).mp runs
      exact ⟨listed, compileK8sJob_ok_iff.mp ⟨manifest, compiled⟩, commands⟩
    · rintro ⟨listed, nonempty, commands⟩
      obtain ⟨manifest, compiled⟩ := compileK8sJob_ok_iff.mpr nonempty
      exact ⟨manifest, compiled, (compileK8sJob_runs_iff compiled).mpr ⟨listed, commands⟩,
        fun needs => onGpuNodes_compileK8sJob compiled needs⟩

theorem name_compile (compiled : compile format mode task = .ok manifest)
    : manifest.name = objectName (task.taskId.getD "unknown") := by
  unfold compile at compiled
  by_cases ray : mode = "ray_job"
  · simp only [if_pos ray] at compiled
    obtain ⟨-, -, named, -, -⟩ := compileRayjob_cases compiled
    exact named
  · simp only [if_neg ray] at compiled
    obtain ⟨built, last, rfl, -, named, -, -, -⟩ := compileK8sJob_cases compiled
    exact named

/-- The objects of two tasks with different ids have different names. -/
def NamesApart (format : PyObj → String) (mode : String) (task other : RomaJson) : Prop :=
  task.taskId.getD "unknown" ≠ other.taskId.getD "unknown" →
    ∀ manifest otherManifest, compile format mode task = .ok manifest →
      compile format mode other = .ok otherManifest → manifest.name ≠ otherManifest.name

/-- Every task of any number of them is compiled to what its DAG asks for, with objects of different
names, exactly if every task is compilable and different ids differ in their first eight characters.
-/
theorem compile_preserves_dags_iff (format : PyObj → String) (mode : String)
    (tasks : List RomaJson)
    : (∀ task ∈ tasks, PreservesDag format mode task
        ∧ ∀ other ∈ tasks, NamesApart format mode task other)
      ↔ ∀ task ∈ tasks, Compilable mode task
        ∧ ∀ other ∈ tasks, task.taskId.getD "unknown" ≠ other.taskId.getD "unknown" →
          pyTake (task.taskId.getD "unknown") 8 ≠ pyTake (other.taskId.getD "unknown") 8 := by
  constructor
  · intro preserves task member
    refine ⟨(preservesDag_iff format mode task).mp (preserves task member).1,
      fun other member' differ same => ?_⟩
    obtain ⟨manifest, compiled, -⟩ := (preserves task member).1
    obtain ⟨otherManifest, otherCompiled, -⟩ := (preserves other member').1
    refine (preserves task member).2 other member' differ _ _ compiled otherCompiled ?_
    rw [name_compile compiled, name_compile otherCompiled, objectName, same, objectName]
  · intro compilable task member
    refine ⟨(preservesDag_iff format mode task).mpr (compilable task member).1, ?_⟩
    intro other member' differ manifest otherManifest compiled otherCompiled same
    rw [name_compile compiled, name_compile otherCompiled] at same
    exact (compilable task member).2 other member' differ (by simpa [objectName] using same)

/-- The steps are listed with the training before its data. -/
theorem training_runs_before_its_data
    : ¬ PreservesDag (fun _ => "1") "k8s_job" {
        taskId := some "t-1"
        dag := some [
          { id := "train", command := some "python train.py", dependsOn := some ["data"] },
          { id := "data", command := some "python prepare.py" }
        ]
      } := by
  intro preserves
  have listed := ((preservesDag_iff _ _ _).mp preserves).1
  have before := listed 0 1 _ _ rfl rfl (List.mem_cons_self ..)
  omega

end RomaBridge.Properties
