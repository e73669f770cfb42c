import TaskGraph.Json.Basic
import TaskGraph.Workflow.Basic
import TaskGraph.Workflow.Report
set_option autoImplicit false

/-! Tasks, workflows and reports as plain mappings. -/

namespace TaskGraph

def mostLevels : Nat := 255

/-- The contents of a configuration in plain form. The configuration is no level of its options. -/
def Config.plain (config : Config) : Except SerialError Value :=
  config.toMapping.plain (mostLevels + 1)

namespace Task

def fieldsWith (task : Task) (config : Value) : Fields Value :=
  [("name", .text task.name),
    ("index", .int task.index),
    ("parent_index", match task.parent with
      | none => .null
      | some parent => .int parent),
    ("upstream_indexes", .list (task.upstreams.map fun upstream => .int (Int.ofNat upstream))),
    ("kind", .text task.kind.word),
    ("config", config)]

def dump (task : Task) : Except SerialError Value :=
  task.config.plain.map fun config => Value.ofFields (task.fieldsWith config)

def toDict (task : Task) : Except SerialError Value :=
  task.config.plain.map fun config =>
    Value.ofFields (task.fieldsWith config ++ [("is_group", .bool task.isGroup)])

end Task

def serialAll {α : Type} (serial : α → Except SerialError Value) :
    List α → Except SerialError (List Value)
  | [] => .ok []
  | item :: rest =>
      match serial item with
      | .error cause => .error cause
      | .ok first => (serialAll serial rest).map (first :: ·)

namespace Workflow

/-- A workflow as a mapping. Its metadata is not brought into plain form. -/
def toDict (workflow : Workflow) : Except SerialError Value :=
  (serialAll Task.toDict workflow.tasks.tasks).map fun tasks =>
    Value.ofFields
      [("name", .text workflow.name), ("meta", workflow.metadata.toMapping), ("tasks", .list tasks)]

/-- A workflow as a mapping in plain form throughout, its task list a mapping of its own. -/
def dump (workflow : Workflow) : Except SerialError Value :=
  match workflow.metadata.plain with
  | .error cause => .error cause
  | .ok metadata =>
      (serialAll Task.dump workflow.tasks.tasks).map fun tasks =>
        Value.ofFields
          [("name", .text workflow.name), ("meta", metadata),
            ("tasks", Value.ofFields [("tasks", .list tasks)])]

end Workflow

namespace TaskReport

def toDict (report : TaskReport) : Except SerialError Value :=
  match serialAll Config.plain report.inputs, serialAll Config.plain report.outputs,
    report.carried.plain with
  | .error cause, _, _ => .error cause
  | _, .error cause, _ => .error cause
  | _, _, .error cause => .error cause
  | .ok inputs, .ok outputs, .ok carried =>
      .ok (Value.ofFields [("inputs", .list inputs), ("outputs", .list outputs),
        ("carry_params", carried)])

end TaskReport
end TaskGraph
