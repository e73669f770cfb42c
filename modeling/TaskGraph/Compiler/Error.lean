import TaskGraph.Config.Option
import TaskGraph.Workflow.Rejection
set_option autoImplicit false

/-! Why a definition does not compile. -/

namespace TaskGraph.Compiler

/-- The cause for which a definition is refused. `endless` stands for
a definition that keeps producing subtasks. -/
inductive Error where
  | option (cause : Config.Error)
  | taskWithSubtasks (config : Config)
  | unknownDependency (name : String) (config : Config)
  | afterWithoutParallel (config : Config)
  | invalidGraph (rejection : Rejection)
  | endless

namespace Error

def message : Error → String
  | option cause => cause.message
  | taskWithSubtasks config => "A task can't have subtasks: " ++ config.toMapping.display
  | unknownDependency name _ => "Dependency task '" ++ name ++ "' does not exist"
  | afterWithoutParallel _ => "Option 'after' is valid only if 'parallel' is true"
  | invalidGraph rejection =>
      "Invalid task graph: " ++
        String.intercalate "; " (rejection.complaints.map fun complaint =>
          complaint.problem.message)
  | endless => "Subtasks without end"

def isWritable : Error → Bool
  | option cause => cause.isWritable
  | taskWithSubtasks config => config.toMapping.isWritable
  | _ => true

def raised (cause : Error) : Error := if cause.isWritable then cause else option .tooLong

def subject : Error → Value
  | option cause => cause.subject
  | taskWithSubtasks config => config.toValue
  | unknownDependency _ config => config.toValue
  | afterWithoutParallel config => config.toValue
  | invalidGraph _ => .null
  | endless => .null

def rejection? : Error → Option Rejection
  | invalidGraph rejection => some rejection
  | _ => none

end Error
end TaskGraph.Compiler
