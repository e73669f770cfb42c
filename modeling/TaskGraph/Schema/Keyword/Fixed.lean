import TaskGraph.Schema.Equality
import TaskGraph.Schema.Outcome
import TaskGraph.Value.Collection
set_option autoImplicit false

/-! The keywords that give types or values to choose from. -/

namespace TaskGraph.Schema

def keyword? (name : String) (schema : List (Value × Value)) : Option Value :=
  Value.lookup? (.text name) schema

def commaRow (values : List Value) : String := String.intercalate ", " (values.map Value.display)

/-- Whether a value has a type, if there is one of that name. A whole float
is an integer, and truth values are no numbers. -/
def hasType? (name : String) (value : Value) : Option Bool :=
  match name, value with
  | "array", .list _ => some true
  | "boolean", .bool _ => some true
  | "null", .null => some true
  | "string", .text _ => some true
  | "object", .mapping _ => some true
  | "integer", .int _ => some true
  | "integer", .float number => some number.toInt?.isSome
  | "number", .int _ => some true
  | "number", .float _ => some true
  | name, _ =>
      if ["array", "boolean", "integer", "null", "number", "object", "string"].contains name then
        some false else none

def isOfType (value : Value) : Value → Except Fault Bool
  | .text name => match hasType? name value with
      | some found => .ok found
      | none => .error .unknownType
  | other => .error (if other.canBeKey then .unknownType else .unfit)

/-- Whether a value has one of several types. The first one that it has decides. -/
def isOfSome (value : Value) : List Value → Except Fault Bool
  | [] => .ok false
  | name :: rest => match isOfType value name with
      | .error fault => .error fault
      | .ok true => .ok true
      | .ok false => isOfSome value rest

def typeNames? : Value → Option (List Value)
  | .text name => some [.text name]
  | wanted => wanted.held?

def typeKeyword (wanted value : Value) : Outcome :=
  .taking (typeNames? wanted) .unfit fun names =>
    .given (isOfSome value names) fun fits =>
      .demand fits (value :: names) (value.display ++ " is not of type " ++ commaRow names)

def enumKeyword (allowed value : Value) : Outcome :=
  .taking allowed.held? .unfit fun values =>
    .demand (values.any fun other => Value.alike other value) [value, allowed]
      (value.display ++ " is not one of " ++ allowed.display)

def constKeyword (wanted value : Value) : Outcome :=
  .demand (Value.alike value wanted) [wanted] (wanted.display ++ " was expected")

end TaskGraph.Schema
