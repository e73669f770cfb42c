import TaskGraph.Yaml.Cursor
set_option autoImplicit false

/-! The tokens of a YAML text. -/

namespace TaskGraph.Yaml

inductive Directive where
  | version (major : Nat)
  | tag (handle tagPrefix : List Char)
  | other
deriving DecidableEq

/-- A token. `broken` ends the tokens of a text that cannot be read to its end. -/
inductive Token where
  | directive (content : Directive)
  | documentStart
  | documentEnd
  | blockSequenceStart
  | blockMappingStart
  | blockEnd
  | flowSequenceStart
  | flowSequenceEnd
  | flowMappingStart
  | flowMappingEnd
  | blockEntry
  | flowEntry
  | key
  | value
  | alias (name : List Char)
  | anchor (name : List Char)
  | tag (handle : Option (List Char)) (suffix : List Char)
  | scalar (content : List Char) (plain : Bool)
  | streamEnd
  | broken (cause : Error)
deriving DecidableEq

end TaskGraph.Yaml
