import TaskGraph.Value.Collection
import TaskGraph.Value.Display
set_option autoImplicit false

/-! Messages with a context: named values that say what a message is about. -/

namespace TaskGraph

structure Diagnostic where
  message : String
  context : List (Value × Value)

namespace Diagnostic

def about (message name : String) (value : Value) : Diagnostic :=
  ⟨message, if value.isPresent then [(.text name, value)] else []⟩

def text (diagnostic : Diagnostic) : String :=
  if diagnostic.context.isEmpty then diagnostic.message
  else
    diagnostic.message ++ " (" ++
      String.intercalate ", " (diagnostic.context.map fun entry =>
        entry.1.plainText ++ "=" ++ entry.2.display) ++ ")"

end Diagnostic
end TaskGraph
