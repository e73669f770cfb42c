import TaskGraph.Compiler.Error
set_option autoImplicit false

/-! What a node of a definition resolves to: the defaults it passes on, its options with the gaps
filled from them, and its subtasks. Subtasks are the options whose name begins with `+`. -/

namespace TaskGraph

def isSubtaskKey (key : String) : Bool := key.toList.head? == some '+'

def isOperatorKey (key : String) : Bool :=
  match key.toList.reverse with
  | '>' :: _ => true
  | '=' :: '>' :: _ => true
  | _ => false

def isTaskKey (key : String) : Bool := key = "type" || key = "type=" || isOperatorKey key

namespace Config

def isTask (config : Config) : Bool := config.keys.any isTaskKey

def removeAll (config : Config) : List String → Except Error Config
  | [] => .ok config
  | key :: rest =>
      match config.remove key with
      | .error cause => .error cause
      | .ok others => others.removeAll rest

end Config

namespace Compiler

structure Resolved where
  defaults : Config
  options : Config
  subtasks : List (String × Config)

def nestedAll (config : Config) : List String → Except Config.Error (List (String × Config))
  | [] => .ok []
  | key :: rest =>
      match config.nested key with
      | .error cause => .error cause
      | .ok subtask => (nestedAll config rest).map ((key, subtask) :: ·)

def defaultsOf (inherited own : Config) : Except Config.Error Config :=
  match own.nested "default" with
  | .error cause => .error cause
  | .ok declared => inherited.deepCopy.setAll declared.fields

/-- Applies the inherited defaults to a node. All changes are made to
copies, since what is given may be read-only. -/
def resolve (inherited own : Config) : Except Config.Error Resolved :=
  match defaultsOf inherited own with
  | .error cause => .error cause
  | .ok defaults =>
      match own.deepCopy.setAllMissing defaults.fields with
      | .error cause => .error cause
      | .ok filled =>
          match nestedAll filled (filled.keys.filter isSubtaskKey) with
          | .error cause => .error cause
          | .ok subtasks =>
              (filled.removeAll (subtasks.map (·.1))).map fun options =>
                { defaults, options, subtasks }

end Compiler
end TaskGraph
