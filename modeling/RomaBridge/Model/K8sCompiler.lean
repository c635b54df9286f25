import RomaBridge.Model.PyValues

/-! `compiler/json_to_k8s.py`: a planned task becomes a Job, whose pod has a container for each step, or
a RayJob. A Job runs its init containers one after another and then its container.
-/

namespace RomaBridge.Model.Compiler

abbrev Entries := List (PyKey × PyObj)

/-- A step of `dag`. An absent key is `none`. -/
structure Step where
  id : String
  command : Option String := none
  image : Option String := none
  dependsOn : Option (List String) := none
  gpu : Option Bool := none
  resources : Option Entries := none

/-- The `roma_json` of a task. -/
structure RomaJson where
  taskId : Option String := none
  dag : Option (List Step) := none
  analysis : Option Entries := none
  resources : Option Entries := none

inductive CompileError where
  | indexError
  | keyError (key : String)
  deriving DecidableEq

structure Container where
  name : String
  image : String
  command : List String := []
  limits : List (String × String)
  requests : List (String × String)

structure CompiledStep where
  name : String
  container : Container
  dependsOn : Option (List String)

structure PodSpec where
  restartPolicy : String := "Never"
  containers : List Container
  initContainers : List Container
  nodeSelector : List (String × String)
  /-- Keys that are tolerated with the effect `NoSchedule`. -/
  tolerations : List String

structure JobManifest where
  name : String
  «namespace» : String := "roma-system"
  labels : List (String × String)
  backoffLimit : ℕ := 2
  spec : PodSpec

/-- A RayJob, with one container in its head group. -/
structure RayJobManifest where
  name : String
  «namespace» : String := "roma-system"
  rayVersion : String := "2.9"
  entrypoint : String
  headGroup : Container

inductive Manifest where
  | job (job : JobManifest)
  | rayJob (ray : RayJobManifest)

def gpuResource : String := "nvidia.com/gpu"

def gpuNodeSelector : List (String × String) := [("gpu", "true")]

/-- `text.split()`. -/
def pySplit (text : String) : List String :=
  ((text.toList.splitOnP isPySpace).filter (fun word => !word.isEmpty)).map String.ofList

def stepName (place : ℕ) (id : String) : String := "step-" ++ toString place ++ "-" ++ id

def objectName (taskId : String) : String := "roma-" ++ pyTake taskId 8

section Compile

-- the text of a value in an f-string
variable (format : PyObj → String)

def stepCommand (node : Step) : List String :=
  match node.command with
  | some command => if command ≠ "" then pySplit command else ["echo", "no command"]
  | none => ["echo", "no command"]

def stepContainer (gpuRequired : Bool) (resources : Entries) (place : ℕ) (node : Step) : Container :=
  let gpu := if gpuRequired || node.gpu.getD false then [(gpuResource, "1")] else []
  let nodeRes := node.resources.getD []
  let cpu := (getEntry nodeRes (.str "cpu_cores")).getD
    ((getEntry resources (.str "cpu_cores")).getD (.int 1))
  let mem := (getEntry nodeRes (.str "memory_gb")).getD
    ((getEntry resources (.str "memory_gb")).getD (.int 2))
  {
    name := stepName place node.id
    image := node.image.getD "python:3.11-slim"
    command := stepCommand node
    limits := gpu
    requests := gpu ++ [("cpu", format cpu), ("memory", format mem ++ "Gi")]
  }

def compileStep (dag : List Step) (gpuRequired : Bool) (resources : Entries) (place : ℕ)
    (node : Step) : CompiledStep :=
  let deps := dag.zipIdx.flatMap fun (other, otherPlace) =>
    ((node.dependsOn.getD []).filter (· = other.id)).map (stepName otherPlace)
  {
    name := stepName place node.id
    container := stepContainer format gpuRequired resources place node
    dependsOn := if deps.isEmpty then none else some deps
  }

def buildJobManifest (taskId : String) (steps : List CompiledStep) (gpuRequired : Bool)
    : Except CompileError Manifest :=
  match steps.getLast? with
  | none => .error .indexError
  | some last =>
      let labels := [("app", "roma-executor"), ("task_id", taskId)]
      .ok (.job {
        name := objectName taskId
        labels
        spec := {
          -- a single step has no others before it
          containers := [last.container]
          initContainers := steps.dropLast.map fun step =>
            { step.container with name := "init-" ++ step.name }
          nodeSelector := if gpuRequired then gpuNodeSelector else []
          tolerations := if gpuRequired then ["gpu"] else []
        }
      })

def compileK8sJob (taskId : String) (dag : List Step) (gpuRequired : Bool) (resources : Entries)
    : Except CompileError Manifest :=
  let steps := dag.zipIdx.map fun (node, place) =>
    compileStep format dag gpuRequired resources place node
  buildJobManifest taskId steps gpuRequired

def compileRayjob (taskId : String) (dag : List Step) (gpuRequired : Bool)
    : Except CompileError Manifest := do
  let entrypoint ←
    match dag with
    | [] => pure "echo done"
    | first :: _ =>
        match first.command with
        | some command => pure command
        | none => throw (.keyError "command")
  return .rayJob {
    name := objectName taskId
    entrypoint
    headGroup := {
      name := "ray-head"
      image := "rayproject/ray:latest-gpu"
      limits := [("gpu", if gpuRequired then "1" else "0")]
      requests := []
    }
  }

def compile (executionMode : String) (romaJson : RomaJson) : Except CompileError Manifest :=
  let taskId := romaJson.taskId.getD "unknown"
  let dag := romaJson.dag.getD []
  let analysis := romaJson.analysis.getD []
  let gpuRequired := ((getEntry analysis (.str "gpu_required")).getD (.bool false)).truthy
  let resources := romaJson.resources.getD []
  if executionMode = "ray_job" then compileRayjob taskId dag gpuRequired
  else compileK8sJob format taskId dag gpuRequired resources

end Compile

/-- What runs in a container: its words, unless the image decides, as it does for an empty command. The
entry point of a RayJob runs without a name.
-/
structure Execution where
  container : Option String
  words : Option (List String)
  deriving DecidableEq

/-- What a manifest runs, in its order. -/
def Manifest.executions : Manifest → List Execution
  | .job built =>
      (built.spec.initContainers ++ built.spec.containers).map fun container => {
        container := some container.name
        words := if container.command = [] then none else some container.command
      }
  | .rayJob ray => [{ container := none, words := some (pySplit ray.entrypoint) }]

def Manifest.name : Manifest → String
  | .job built => built.name
  | .rayJob ray => ray.name

/-- The pod is placed on GPU nodes only: by its selector, or by a container that requests a GPU. -/
def Manifest.onGpuNodes : Manifest → Bool
  | .job built =>
      gpuNodeSelector.all (built.spec.nodeSelector.contains ·)
        || (built.spec.initContainers ++ built.spec.containers).any fun container =>
            container.requests.any (·.1 = gpuResource)
  | .rayJob ray => ray.headGroup.requests.any (·.1 = gpuResource)

def Step.words (step : Step) : List String := pySplit (step.command.getD "")

/-- One thing that runs is the command of the step at a place. A step without a command may run the
echo that stands for it.
-/
def Execution.Of (execution : Execution) (place : ℕ) (step : Step) : Prop :=
  (execution.container = none ∨ execution.container = some (stepName place step.id)
    ∨ execution.container = some ("init-" ++ stepName place step.id))
  ∧ (execution.words = some step.words
    ∨ step.command.getD "" = "" ∧ execution.words = some ["echo", "no command"])

end RomaBridge.Model.Compiler
