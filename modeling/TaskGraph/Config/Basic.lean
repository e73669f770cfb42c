import TaskGraph.Value.Equality
import TaskGraph.Value.Normal
set_option autoImplicit false

/-! Configurations: ordered trees of options under text keys. Reading a subtree gives a
configuration of its own, and a read-only configuration refuses every change. -/

namespace TaskGraph

/-- An ordered mapping of option names to values, each name once. -/
structure Config where
  fields : Fields Value
  frozen : Bool
  distinct : fields.Distinct

namespace Config

/-- Why an operation on a configuration fails; each cause names the configuration it was found
in, if there is one. `tooLong` is an integer without a text, in a key or in what a message
would show. -/
inductive Error where
  | tooLong
  | noItems (found : Value)
  | notObject (found : Value)
  | readOnly (config : Config)
  | notNested (key : String) (found : Value) (config : Config)
  | notBoolean (key : String) (found : Value) (config : Config)
  | notList (key : String) (found : Value) (config : Config)
  | notNames (key : String) (item : Value) (config : Config)

def empty : Config := ⟨[], false, Fields.distinct_nil⟩

instance : Inhabited Config := ⟨empty⟩

def ofWrites (writes : List (String × Value)) : Config :=
  ⟨Fields.ofWrites writes, false, Fields.distinct_ofWrites writes⟩

def ofFields (fields : List (String × Value)) : Config := ofWrites (Value.normaliseFields fields)

/-- The configuration of a mapping, with the texts of its keys; null counts as the empty one. -/
def contents? : Value → Option Config
  | .null => some empty
  | .mapping entries => some (ofWrites (Value.normaliseEntries entries))
  | .config fields _ => some (ofFields fields)
  | _ => none

/-- The configuration that a definition is: a configuration as it is
given, read-only or not, else that of a mapping. -/
def root? : Value → Option Config
  | .config fields frozen => some { ofFields fields with frozen }
  | other => contents? other

def checked (value : Value) : Option Config → Except Error Config
  | none => .error (.notObject value)
  | some config => if value.areKeysWritable then .ok config else .error .tooLong

def ofValue (value : Value) : Except Error Config := checked value (contents? value)

def ofDefinition (definition : Value) : Except Error Config := checked definition (root? definition)

/-- The writes that copying all of a mapping or configuration makes, one for each of its entries. -/
def writesOf : Value → Except Error (List (String × Value))
  | .mapping entries =>
      if Value.areEntryKeysWritable entries then .ok (Value.normaliseEntries entries)
      else .error .tooLong
  | .config fields _ => .ok fields
  | other => .error (.noItems other)

def toValue (config : Config) : Value := .config config.fields config.frozen

def toMapping (config : Config) : Value := Value.ofFields config.fields

def has (config : Config) (key : String) : Bool := config.fields.has key

def get? (config : Config) (key : String) : Option Value := config.fields.get? key

def keys (config : Config) : List String := config.fields.keys

def deepCopy (config : Config) : Config := ofFields config.fields

def freeze (config : Config) : Config := { deepCopy config with frozen := true }

def mutable (config : Config) : Except Error Config :=
  if config.frozen then .error (.readOnly config) else .ok config

def put (config : Config) (key : String) (value : Value) : Config :=
  ⟨config.fields.put key value.normalise, config.frozen, Fields.distinct_put key _ config.distinct⟩

def erase (config : Config) (key : String) : Config :=
  ⟨config.fields.erase key, config.frozen, Fields.distinct_erase key config.distinct⟩

def overlay (config : Config) (writes : List (String × Value)) : Config :=
  ⟨config.fields.overlay writes, config.frozen, Fields.distinct_overlay writes config.distinct⟩

def fill (config : Config) (writes : List (String × Value)) : Config :=
  ⟨config.fields.fill writes, config.frozen, Fields.distinct_fill writes config.distinct⟩

def set (config : Config) (key : String) (value : Value) : Except Error Config :=
  config.mutable.bind fun config =>
    if value.areKeysWritable then .ok (config.put key value) else .error .tooLong

def remove (config : Config) (key : String) : Except Error Config :=
  config.mutable.map (·.erase key)

def setAll (config : Config) (writes : List (String × Value)) : Except Error Config :=
  config.mutable.map (·.overlay writes)

def setAllMissing (config : Config) (writes : List (String × Value)) : Except Error Config :=
  config.mutable.map (·.fill writes)

def copyAll (config : Config) (source : Value) : Except Error Config :=
  config.mutable.bind fun config => (writesOf source).bind config.setAll

/-- Fills the gaps of a configuration that is not read-only from a mapping or configuration. -/
def copyMissing (config : Config) (source : Value) : Except Error Config :=
  config.mutable.bind fun config => (writesOf source).bind config.setAllMissing

/-- Whether the contents are equal, in any order, to those of a configuration or mapping. -/
def equal (config : Config) (other : Value) : Bool := Value.equal config.toValue other

def display (config : Config) : String := config.toValue.display

end Config
end TaskGraph
