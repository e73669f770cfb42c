import TaskGraph.Workflow.Coercion
set_option autoImplicit false

/-! What a task hands back after it ran: the resources it consumed
and produced and the parameters it passes on. -/

namespace TaskGraph

structure TaskReport where
  inputs : List Config
  outputs : List Config
  carried : Config

namespace TaskReport

def model : String := "TaskReport"

def empty : TaskReport := ⟨[], [], Config.empty.freeze⟩

def read (fields : Fields Value) : Reading TaskReport :=
  let inputs := Coercion.optional fields "inputs" [] (Coercion.tuple Coercion.config)
  let outputs := Coercion.optional fields "outputs" [] (Coercion.tuple Coercion.config)
  let carried := Coercion.optional fields "carry_params" Config.empty.freeze Coercion.config
  match inputs, outputs, carried with
  | .ok inputs, .ok outputs, .ok carried => .ok ⟨inputs, outputs, carried⟩
  | _, _, _ => .error (inputs.complaints ++ outputs.complaints ++ carried.complaints)

def ofFields (fields : Fields Value) : Except Rejection TaskReport := (read fields).toRecord model

end TaskReport
end TaskGraph
