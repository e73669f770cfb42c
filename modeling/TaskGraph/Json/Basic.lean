import TaskGraph.Fields
import TaskGraph.Value.Equality
import TaskGraph.Value.Display
import TaskGraph.Text.Utf8
set_option autoImplicit false

/-! JSON documents, and how a value becomes one. `Value.plain` turns a value into one that a
document can hold unchanged; `Json.ofValue` takes any value and falls back on its text. -/

namespace TaskGraph

/-- A JSON document. Besides the finite ones, `float` can hold
the numbers that only some readers take. -/
inductive Json where
  | null
  | bool (truth : Bool)
  | int (number : Int)
  | float (number : Binary64)
  | text (content : String)
  | list (items : List Json)
  | object (members : List (String × Json))

inductive SerialError where
  | undecodable (content : List UInt8)
  | embedded
  | unwritableKey (key : Value)
  | tooLong
  | tooDeep

namespace Value

mutual

/-- The text of a value in the place of a name. The items of a tuple are joined by commas. -/
def plainKey : Value → Except SerialError String
  | null => .ok "None"
  | bool truth => .ok (if truth then "true" else "false")
  | int number =>
      if TaskGraph.isWritable number then .ok (toString number) else .error .tooLong
  | float number => .ok number.text
  | text content => .ok content
  | bytes content => match Text.decodeUtf8? content with
      | some characters => .ok (String.ofList characters)
      | none => .error (.undecodable content)
  | date day => .ok day.iso
  | moment time => .ok time.zulu
  | tuple items => (plainKeys items).map (String.intercalate ",")
  | key => .error (.unwritableKey key)

def plainKeys : List Value → Except SerialError (List String)
  | [] => .ok []
  | item :: rest =>
      match plainKey item with
      | .error cause => .error cause
      | .ok first => (plainKeys rest).map (first :: ·)

end

mutual

/-- The levels of a value, a scalar being one. Keys do not count. -/
def levels : Value → Nat
  | list items => levelsList items + 1
  | tuple items => levelsList items + 1
  | set members => levelsList members + 1
  | mapping entries => levelsEntries entries + 1
  | _ => 1

def levelsList : List Value → Nat
  | [] => 0
  | item :: rest => max item.levels (levelsList rest)

def levelsEntries : List (Value × Value) → Nat
  | [] => 0
  | (_, value) :: rest => max value.levels (levelsEntries rest)

end

mutual

/-- The plain form of a value that has room for so many levels: dates, moments and bytes are texts,
tuples and sets are lists, names are texts, and a number that is not finite is null. -/
def plain : Value → Nat → Except SerialError Value
  | _, 0 => .error .tooDeep
  | float number, _ + 1 => .ok (if number.isFinite then float number else null)
  | bytes content, _ + 1 => match Text.decodeUtf8? content with
      | some characters => .ok (text (String.ofList characters))
      | none => .error (.undecodable content)
  | date day, _ + 1 => .ok (text day.iso)
  | moment time, _ + 1 => .ok (text time.zulu)
  | list items, room + 1 => (plainList items room).map list
  | tuple items, room + 1 => (plainList items room).map list
  | set members, room + 1 => (plainList members room).map list
  | mapping entries, room + 1 =>
      (plainEntries entries room).map fun writes => ofFields (Fields.ofWrites writes)
  | config _ _, _ + 1 => .error .embedded
  | other, _ + 1 => .ok other

def plainList : List Value → Nat → Except SerialError (List Value)
  | [], _ => .ok []
  | item :: rest, room =>
      match plain item room with
      | .error cause => .error cause
      | .ok first => (plainList rest room).map (first :: ·)

def plainEntries : List (Value × Value) → Nat → Except SerialError (List (String × Value))
  | [], _ => .ok []
  | (key, value) :: rest, room =>
      match plainKey key with
      | .error cause => .error cause
      | .ok name =>
          match plain value room with
          | .error cause => .error cause
          | .ok first => (plainEntries rest room).map ((name, first) :: ·)

end
end Value

namespace Json

def nameOf : Value → Except SerialError String
  | .null => .ok "null"
  | .bool truth => .ok (if truth then "true" else "false")
  | .int number => if isWritable number then .ok (toString number) else .error .tooLong
  | .float number => .ok (floatText number)
  | .text content => .ok content
  | key => .error (.unwritableKey key)
where
  /-- The text of a number in a document. -/
  floatText : Binary64 → String
    | .nan _ => "NaN"
    | .infinite negative => if negative then "-Infinity" else "Infinity"
    | number => number.text

mutual

/-- The document of a value. Tuples are lists, and a value that
no document holds is given by its text. -/
def ofValue : Value → Except SerialError Json
  | .null => .ok null
  | .bool truth => .ok (bool truth)
  | .int number => if isWritable number then .ok (int number) else .error .tooLong
  | .float number => .ok (float number)
  | .text content => .ok (text content)
  | .list items => (ofList items).map list
  | .tuple items => (ofList items).map list
  | .mapping entries => (ofEntries entries).map object
  | other => if other.isWritable then .ok (text other.plainText) else .error .tooLong

def ofList : List Value → Except SerialError (List Json)
  | [] => .ok []
  | item :: rest =>
      match ofValue item with
      | .error cause => .error cause
      | .ok first => (ofList rest).map (first :: ·)

def ofEntries : List (Value × Value) → Except SerialError (List (String × Json))
  | [] => .ok []
  | (key, value) :: rest =>
      match nameOf key with
      | .error cause => .error cause
      | .ok name =>
          match ofValue value with
          | .error cause => .error cause
          | .ok first => (ofEntries rest).map ((name, first) :: ·)

end

mutual

/-- The value of a document. A repeated name keeps its first place and gets its last value. -/
def toValue : Json → Value
  | null => .null
  | bool truth => .bool truth
  | int number => .int number
  | float number => .float number
  | text content => .text content
  | list items => .list (toValues items)
  | object members => Value.ofFields (Fields.ofWrites (toFields members))

def toValues : List Json → List Value
  | [] => []
  | item :: rest => toValue item :: toValues rest

def toFields : List (String × Json) → List (String × Value)
  | [] => []
  | (name, item) :: rest => (name, toValue item) :: toFields rest

end

mutual

/-- A document in which every object has each of its names once, at
its first place and with its last value. -/
def merged : Json → Json
  | list items => list (mergedItems items)
  | object members => object (Fields.ofWrites (mergedMembers members))
  | other => other

def mergedItems : List Json → List Json
  | [] => []
  | item :: rest => item.merged :: mergedItems rest

def mergedMembers : List (String × Json) → List (String × Json)
  | [] => []
  | (name, item) :: rest => (name, item.merged) :: mergedMembers rest

end
end Json
end TaskGraph
