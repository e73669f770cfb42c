import TaskGraph.Config.Basic
set_option autoImplicit false

/-! Typed reading of options. An absent option and a null one read as
the default; any other value must have the type. -/

namespace TaskGraph.Config

def Error.message : Error → String
  | .tooLong => "Exceeds the limit for the text of an integer"
  | .noItems found => "'" ++ found.typeName ++ "' object has no attribute 'items'"
  | .notObject found => "Config must be an object, got " ++ found.typeName
  | .readOnly _ => "Config is read-only"
  | .notNested key found _ =>
      "Expected an object for key '" ++ key ++ "' but got " ++ found.typeName
  | .notBoolean key found _ =>
      "Expected a boolean for key '" ++ key ++ "' but got " ++ found.display
  | .notList key found _ => "Expected a list for key '" ++ key ++ "' but got " ++ found.typeName
  | .notNames key item _ =>
      "Expected a list of strings for key '" ++ key ++ "' but got " ++ item.display

def Error.isWritable : Error → Bool
  | .notBoolean _ found _ => found.isWritable
  | .notNames _ item _ => item.isWritable
  | _ => true

def Error.raised (cause : Error) : Error := if cause.isWritable then cause else .tooLong

/-- The configuration below an option; absent and null count as
empty. What is stored has texts as keys. -/
def nested (config : Config) (key : String) : Except Error Config :=
  match config.get? key with
  | none => .ok empty
  | some .null => .ok empty
  | some (.mapping entries) => .ok (ofWrites (Value.normaliseEntries entries))
  | some found => .error (.notNested key found config)

def truthOf? (content : String) : Option Bool :=
  let lower := content.toList.map Char.toLower
  if lower = ['t', 'r', 'u', 'e'] then some true
  else if lower = ['f', 'a', 'l', 's', 'e'] then some false
  else none

def bool (config : Config) (key : String) (default : Bool) : Except Error Bool :=
  match config.get? key with
  | none => .ok default
  | some .null => .ok default
  | some (.bool truth) => .ok truth
  | some (.text content) => match truthOf? content with
      | some truth => .ok truth
      | none => .error (.notBoolean key (.text content) config)
  | some found => .error (Error.notBoolean key found config).raised

/-- The name that an item of a list gives; whole numbers count as
their digits, if they can be written. -/
def nameOf? : Value → Option String
  | .text content => some content
  | .int number => if isWritable number then some (toString number) else none
  | _ => none

def namesOf (items : List Value) : Except Value (List String) :=
  items.mapM fun item => match nameOf? item with
    | some name => .ok name
    | none => .error item

def names (config : Config) (key : String) : Except Error (List String) :=
  match config.get? key with
  | none => .ok []
  | some .null => .ok []
  | some (.list items) => match namesOf items with
      | .ok found => .ok found
      | .error item => .error (Error.notNames key item config).raised
  | some found => .error (.notList key found config)

def Error.subject : Error → Value
  | .tooLong => .null
  | .noItems found => found
  | .notObject found => found
  | .readOnly config => config.toMapping
  | .notNested _ _ config => config.toMapping
  | .notBoolean _ _ config => config.toMapping
  | .notList _ _ config => config.toMapping
  | .notNames _ _ config => config.toMapping

end TaskGraph.Config
