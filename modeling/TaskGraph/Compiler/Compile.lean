import TaskGraph.Compiler.Walk
set_option autoImplicit false

/-! Compiling a definition into a workflow, with the record of what was added on the way. -/

namespace TaskGraph.Compiler

inductive Event where
  | added (kind : Kind) (name : String) (index : Nat) (group : Option String)
  | compiled (name : String) (count : Nat)
deriving DecidableEq

def Event.level : Event → String
  | added _ _ _ _ => "DEBUG"
  | compiled _ _ => "INFO"

def Event.message : Event → String
  | added kind name index group =>
      "Added " ++ kind.word ++ " '" ++ name ++ "' at index " ++ toString index ++
        (match group with
          | none => ""
          | some group => " under '" ++ group ++ "'")
  | compiled name count => "Compiled workflow '" ++ name ++ "' into " ++ toString count ++ " tasks"

def Node.event (node : Node) : Event :=
  .added node.kind node.name node.index (node.parent.map (·.name))

/-- How deep a walk over a definition can go before it repeats itself. A subtask is declared by its
group, one level further down, or handed on by a default; the values that defaults hand on lie
deeper at every third repetition. -/
def depthBound (config : Config) : Nat :=
  3 * (config.toValue.depth + 2) * (config.toValue.depth + 2)

def walkRoot (name : String) (config : Config) : Walk :=
  walk (depthBound config) 0 none Config.empty name config

def Node.lower (node : Node) : Except Rejection Task :=
  match Task.make node.name node.index (node.parent.map fun group => Int.ofNat group.index)
      (node.upstreams.map Int.ofNat) node.kind node.config.freeze with
  | .ok task => .ok task
  | .error fault => .error ⟨Task.model, [⟨[], .rule fault.message⟩]⟩

def lower (nodes : List Node) : Except Rejection TaskList :=
  match nodes.mapM Node.lower with
  | .error rejection => .error rejection
  | .ok tasks => TaskList.ofTasks tasks

def rename (title : Except Problem String) : List Node → Except Rejection (List Node)
  | [] => .ok []
  | root :: rest =>
      match title with
      | .ok name => .ok ({ root with name } :: rest)
      | .error problem => .error ⟨Task.model, [⟨[.field "name"], problem⟩]⟩

structure Outcome (α : Type) where
  result : Except Error α
  events : List Event

/-- Compiles a definition into its tasks. The root is walked
under a label and gets its name in the end. -/
def compileTasksAs (label : String) (title : Except Problem String) (config : Config) :
    Outcome TaskList :=
  let walk := walkRoot label config
  let events := walk.nodes.map Node.event
  match walk.failure with
  | some cause => ⟨.error cause, events⟩
  | none =>
      match (rename title walk.nodes).bind lower with
      | .error rejection => ⟨.error (.invalidGraph rejection), events⟩
      | .ok tasks => ⟨.ok tasks, events⟩

/-- Compiles a definition into a workflow. Its metadata is read when all tasks are built. -/
def compileAs (label : String) (title : Except Problem String) (config : Config) :
    Outcome Workflow :=
  let compiled := compileTasksAs label title config
  match compiled.result with
  | .error cause => ⟨.error cause, compiled.events⟩
  | .ok tasks =>
      match config.nested "meta", title with
      | .error cause, _ => ⟨.error (.option cause), compiled.events⟩
      | .ok metadata, .ok name =>
          ⟨.ok ⟨name, metadata.freeze, tasks⟩, compiled.events ++ [.compiled label tasks.size]⟩
      | .ok _, .error problem =>
          ⟨.error (.invalidGraph ⟨Workflow.model, [⟨[.field "name"], problem⟩]⟩), compiled.events⟩

def compileTasks (name : String) (config : Config) : Outcome TaskList :=
  compileTasksAs name (.ok name) config

def compile (name : String) (config : Config) : Outcome Workflow := compileAs name (.ok name) config

def titleOf (value : Value) : Except Problem String :=
  match Coercion.text value with
  | .ok name => .ok name
  | .error ({ place := _, problem } :: _) => .error problem
  | .error [] => .error .notText

def compileValue (name definition : Value) : Outcome Workflow :=
  match Config.ofDefinition definition with
  | .error cause => ⟨.error (.option cause), []⟩
  | .ok config => compileAs name.plainText (titleOf name) config

def compileTasksValue (name definition : Value) : Outcome TaskList :=
  match Config.ofDefinition definition with
  | .error cause => ⟨.error (.option cause), []⟩
  | .ok config => compileTasksAs name.plainText (titleOf name) config

end TaskGraph.Compiler
