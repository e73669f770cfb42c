import TaskGraph.Fields
import TaskGraph.Value.Display
set_option autoImplicit false

/-! The form in which a configuration stores a value: mappings, also within lists, have distinct
text keys. Tuples and sets are stored as they are. -/

namespace TaskGraph.Value

mutual

/-- The stored form of a value. Keys that become one text are one
key, with the first place and the last value. -/
def normalise : Value → Value
  | mapping entries => ofFields (Fields.ofWrites (normaliseEntries entries))
  | config fields _ => ofFields (Fields.ofWrites (normaliseFields fields))
  | list items => list (normaliseList items)
  | other => other

def normaliseList : List Value → List Value
  | [] => []
  | item :: rest => normalise item :: normaliseList rest

def normaliseEntries : List (Value × Value) → List (String × Value)
  | [] => []
  | (key, value) :: rest => (key.plainText, normalise value) :: normaliseEntries rest

def normaliseFields : List (String × Value) → List (String × Value)
  | [] => []
  | (key, value) :: rest => (key, normalise value) :: normaliseFields rest

end

mutual

def areKeysWritable : Value → Bool
  | mapping entries => areEntryKeysWritable entries
  | config fields _ => areFieldKeysWritable fields
  | list items => areItemKeysWritable items
  | _ => true

def areItemKeysWritable : List Value → Bool
  | [] => true
  | item :: rest => areKeysWritable item && areItemKeysWritable rest

def areEntryKeysWritable : List (Value × Value) → Bool
  | [] => true
  | (key, value) :: rest => key.isWritable && areKeysWritable value && areEntryKeysWritable rest

def areFieldKeysWritable : List (String × Value) → Bool
  | [] => true
  | (_, value) :: rest => areKeysWritable value && areFieldKeysWritable rest

end

end TaskGraph.Value
