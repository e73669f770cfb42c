import TaskGraph.Workflow.Task
set_option autoImplicit false

/-! Tasks in the order of their indexes: each stands at the position that its index names. -/

namespace TaskGraph

/-- A list of tasks in which every task stands at the position of its index. -/
structure TaskList where
  tasks : List Task
  placed : ∀ (position : Nat) (task : Task), tasks[position]? = some task → task.index = position

namespace TaskList

def model : String := "WorkflowTaskList"

def empty : TaskList := ⟨[], by intro position task found; cases position <;> cases found⟩

/-- The first task that does not stand at the position of its index, with its position; positions
count from the given one. -/
def misplaced? : Nat → List Task → Option (Nat × Task)
  | _, [] => none
  | position, task :: rest =>
      if task.index = position then misplaced? (position + 1) rest else some (position, task)

theorem index_eq_of_misplaced?_eq_none {start : Nat} {tasks : List Task}
    (none_found : misplaced? start tasks = none) (position : Nat) (task : Task)
    (found : tasks[position]? = some task) : task.index = start + position := by
  induction tasks generalizing start position with
  | nil => cases position <;> cases found
  | cons first rest ih =>
      unfold misplaced? at none_found
      split at none_found
      · rename_i here
        cases position with
        | zero =>
            cases found
            exact here
        | succ position =>
            have step := ih none_found position found
            omega
      · cases none_found

def misplacedMessage (position : Nat) (task : Task) : String :=
  "Task '" ++ task.name ++ "' has index " ++ toString task.index ++ " at position " ++
    toString position

def make (tasks : List Task) : Reading TaskList :=
  match found : misplaced? 0 tasks with
  | some (position, task) => Reading.refuse (.rule (misplacedMessage position task))
  | none => .ok ⟨tasks, fun position task at_position => by
      simpa using index_eq_of_misplaced?_eq_none found position task at_position⟩

def ofTasks (tasks : List Task) : Except Rejection TaskList := (make tasks).toRecord model

def readTask : Value → Reading Task
  | .mapping entries => Task.read (Coercion.textFields entries)
  | _ => Reading.refuse (.notRecord Task.model)

def read (fields : Fields Value) : Reading TaskList :=
  match Coercion.optional fields "tasks" [] (Coercion.tuple readTask) with
  | .ok tasks => make tasks
  | .error found => .error found

def ofFields (fields : Fields Value) : Except Rejection TaskList := (read fields).toRecord model

def size (list : TaskList) : Nat := list.tasks.length

def names (list : TaskList) : List String := list.tasks.map (·.name)

def get? (list : TaskList) (index : Int) : Option Task :=
  let position := if index < 0 then index + list.size else index
  if position < 0 then none else list.tasks[position.toNat]?

def find? (list : TaskList) (name : String) : Option Task := list.tasks.find? (·.name = name)

def childrenOf (list : TaskList) (index : Int) : List Task :=
  list.tasks.filter (·.parent = some index)

end TaskList
end TaskGraph
