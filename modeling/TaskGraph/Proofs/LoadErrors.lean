import TaskGraph.Proofs.NodeFaults
set_option autoImplicit false

/-! How the loading of a definition can fail. A text or a file that is there is refused in words, as
no definition or with the message of the compiler, unless a scalar in it does not fit its type: such
a scalar fails in whatever way its conversion does. -/

namespace TaskGraph.Definition

/-- Whether a text is read up to something that no tree of texts holds: an escape for half a
character, or an alias within the node that its anchor names. -/
def Beyond (text : List Char) : Prop := ∃ reason, Yaml.nodeOf text = .error (.beyond reason)

open Yaml (Ends)

end TaskGraph.Definition
