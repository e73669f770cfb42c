import TaskGraph.Workflow.TaskList
set_option autoImplicit false

/-! Compiled workflows: a name, the metadata of the definition and the tasks. -/

namespace TaskGraph

/-- A compiled workflow. Its first task is the root. -/
structure Workflow where
  name : String
  metadata : Config
  tasks : TaskList

namespace Workflow

def model : String := "Workflow"

inductive TaskSource where
  | built (tasks : TaskList)
  | given (value : Value)

def readTasks : TaskSource → Reading TaskList
  | .built tasks => .ok tasks
  | .given (.mapping entries) => TaskList.read (Coercion.textFields entries)
  | .given _ => Reading.refuse (.notRecord TaskList.model)

/-- Reads a workflow from its fields; the task list comes apart from them, if there is one. -/
def read (fields : Fields Value) (tasks : Option TaskSource) : Reading Workflow :=
  let name := Coercion.required fields "name" Coercion.text
  let metadata := Coercion.optional fields "meta" Config.empty.freeze Coercion.config
  let tasks : Reading TaskList := match tasks with
    | none => .ok TaskList.empty
    | some source => Reading.within (.field "tasks") (readTasks source)
  match name, metadata, tasks with
  | .ok name, .ok metadata, .ok tasks => .ok ⟨name, metadata, tasks⟩
  | _, _, _ => .error (name.complaints ++ metadata.complaints ++ tasks.complaints)

def ofFields (fields : Fields Value) (tasks : Option TaskSource) : Except Rejection Workflow :=
  (read fields tasks).toRecord model

def root? (workflow : Workflow) : Option Task := workflow.tasks.tasks.head?

def namesAt (workflow : Workflow) (indexes : List Nat) : Option (List String) :=
  indexes.mapM fun index => (workflow.tasks.get? (Int.ofNat index)).map (·.name)

inductive LookupError where
  | unknown (name : String)
  | outOfRange
deriving DecidableEq

def upstreamNames (workflow : Workflow) (name : String) : Except LookupError (List String) :=
  match workflow.tasks.find? name with
  | none => .error (.unknown name)
  | some task => match workflow.namesAt task.upstreams with
      | some names => .ok names
      | none => .error .outOfRange

/-- All dependency edges as pairs of a task and one of its upstreams,
in index order, if every index names a task. -/
def edges (workflow : Workflow) : Option (List (String × String)) :=
  (workflow.tasks.tasks.mapM fun task =>
    (workflow.namesAt task.upstreams).map (·.map fun upstream => (task.name, upstream))).map
      List.flatten

end Workflow
end TaskGraph
