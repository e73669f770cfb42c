import TaskGraph.Value.Equality
set_option autoImplicit false

/-! Values as collections: what they hold, how much of it, what can be
a key, and whether there is anything at all. -/

namespace TaskGraph.Value

/-- Whether a value is there to be mentioned: null, false, zero and everything empty are not. -/
def isPresent : Value → Bool
  | null => false
  | bool truth => truth
  | int number => number != 0
  | float (.finite _ significand _) => significand != 0
  | float _ => true
  | text content => !content.isEmpty
  | bytes content => !content.isEmpty
  | date _ => true
  | moment _ => true
  | list items => !items.isEmpty
  | tuple items => !items.isEmpty
  | set members => !members.isEmpty
  | mapping entries => !entries.isEmpty
  | config fields _ => !fields.isEmpty

mutual

def canBeKey : Value → Bool
  | list _ => false
  | set _ => false
  | mapping _ => false
  | config _ _ => false
  | tuple items => canAllBeKeys items
  | _ => true

def canAllBeKeys : List Value → Bool
  | [] => true
  | item :: rest => canBeKey item && canAllBeKeys rest

end

def byteItems (content : List UInt8) : List Value := content.map fun byte => .int byte.toNat

/-- What a collection holds one after the other: items, members, keys, characters or bytes. Other
values are no collections. -/
def held? : Value → Option (List Value)
  | list items => some items
  | tuple items => some items
  | set members => some members
  | mapping entries => some (entries.map (·.1))
  | config fields _ => some (fields.map fun field => .text field.1)
  | text content => some (content.toList.map fun c => .text (String.singleton c))
  | bytes content => some (byteItems content)
  | _ => none

def count? (value : Value) : Option Nat := value.held?.map List.length

end TaskGraph.Value
