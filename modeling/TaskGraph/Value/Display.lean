import TaskGraph.Value.Basic
import TaskGraph.Text.Quoted
set_option autoImplicit false

/-! The text of a value: `display` quotes texts and shows what a value
is made of, `plainText` gives a text as it is. -/

namespace TaskGraph.Value

mutual

def display : Value → String
  | null => "None"
  | bool truth => if truth then "True" else "False"
  | int number => toString number
  | float number => number.text
  | text content => Text.quoted content
  | bytes content => Text.quotedBytes content
  | date day => day.constructorText
  | moment time => time.constructorText
  | list items => "[" ++ String.intercalate ", " (displayList items) ++ "]"
  | tuple [item] => "(" ++ display item ++ ",)"
  | tuple items => "(" ++ String.intercalate ", " (displayList items) ++ ")"
  | set [] => "set()"
  | set members => "\x7b" ++ String.intercalate ", " (displayList members) ++ "\x7d"
  | mapping entries => "\x7b" ++ String.intercalate ", " (displayEntries entries) ++ "\x7d"
  | config fields _ => "Config(\x7b" ++ String.intercalate ", " (displayFields fields) ++ "\x7d)"

def displayList : List Value → List String
  | [] => []
  | item :: rest => display item :: displayList rest

def displayEntries : List (Value × Value) → List String
  | [] => []
  | (key, value) :: rest => (display key ++ ": " ++ display value) :: displayEntries rest

def displayFields : List (String × Value) → List String
  | [] => []
  | (key, value) :: rest => (Text.quoted key ++ ": " ++ display value) :: displayFields rest

end

/-- The text of a value on its own: texts, dates and moments without quotes or constructor. -/
def plainText : Value → String
  | text content => content
  | date day => day.iso
  | moment time => time.textWith ' '
  | value => value.display

mutual

def isWritable : Value → Bool
  | int number => TaskGraph.isWritable number
  | list items => areWritable items
  | tuple items => areWritable items
  | set members => areWritable members
  | mapping entries => areEntriesWritable entries
  | config fields _ => areFieldsWritable fields
  | _ => true

def areWritable : List Value → Bool
  | [] => true
  | item :: rest => isWritable item && areWritable rest

def areEntriesWritable : List (Value × Value) → Bool
  | [] => true
  | (key, value) :: rest => isWritable key && isWritable value && areEntriesWritable rest

def areFieldsWritable : List (String × Value) → Bool
  | [] => true
  | (_, value) :: rest => isWritable value && areFieldsWritable rest

end

end TaskGraph.Value
