set_option autoImplicit false

/-! Why a record cannot be built from given values: a list of
complaints, each about one place in them. -/

namespace TaskGraph

inductive Place where
  | field (name : String)
  | position (index : Nat)
deriving DecidableEq

inductive Problem where
  | missing
  | notText
  | malformedText
  | notInteger
  | noNumeral
  | tooLarge
  | fractional
  | notFinite
  | notKind
  | notConfig
  | notTuple
  | notRecord (model : String)
  | readOnly
  | rule (reason : String)
deriving DecidableEq

structure Complaint where
  place : List Place
  problem : Problem
deriving DecidableEq

structure Rejection where
  model : String
  complaints : List Complaint
deriving DecidableEq

/-- Why an attribute of a read-only record cannot be written. Names that begin with an underscore
are no fields and can be written, but for the name of the root. -/
def Rejection.ofWrite? (model name : String) : Option Rejection :=
  if name.toList.head? == some '_' && name ≠ "__root__" then none
  else some ⟨model, [⟨[.field name], .readOnly⟩]⟩

def Problem.code : Problem → String
  | missing => "missing"
  | notText => "string_type"
  | malformedText => "string_unicode"
  | notInteger => "int_type"
  | noNumeral => "int_parsing"
  | tooLarge => "int_parsing_size"
  | fractional => "int_from_float"
  | notFinite => "finite_number"
  | notKind => "enum"
  | notConfig => "is_instance_of"
  | notTuple => "tuple_type"
  | notRecord _ => "model_type"
  | readOnly => "frozen_instance"
  | rule _ => "value_error"

def Problem.message : Problem → String
  | missing => "Field required"
  | notText => "Input should be a valid string"
  | malformedText => "Input should be a valid string, unable to parse raw data as a unicode string"
  | notInteger => "Input should be a valid integer"
  | noNumeral => "Input should be a valid integer, unable to parse string as an integer"
  | tooLarge => "Unable to parse input string as an integer, exceeded maximum size"
  | fractional => "Input should be a valid integer, got a number with a fractional part"
  | notFinite => "Input should be a finite number"
  | notKind => "Input should be 'task' or 'group'"
  | notConfig => "Input should be an instance of Config"
  | notTuple => "Input should be a valid tuple"
  | notRecord model => "Input should be a valid dictionary or instance of " ++ model
  | readOnly => "Instance is frozen"
  | rule reason => "Value error, " ++ reason

abbrev Reading (α : Type) := Except (List Complaint) α

namespace Reading

variable {α : Type}

def complaints : Reading α → List Complaint
  | .ok _ => []
  | .error found => found

def refuse (problem : Problem) : Reading α := .error [⟨[], problem⟩]

def within (place : Place) : Reading α → Reading α
  | .ok value => .ok value
  | .error found =>
      .error (found.map fun complaint => { complaint with place := place :: complaint.place })

/-- The values of a row of readings, or all their complaints, each with its position; positions
count from the given one. -/
def all : Nat → List (Reading α) → Reading (List α)
  | _, [] => .ok []
  | position, first :: rest =>
      match within (.position position) first, all (position + 1) rest with
      | .ok value, .ok values => .ok (value :: values)
      | first, rest => .error (first.complaints ++ rest.complaints)

def toRecord (model : String) : Reading α → Except Rejection α
  | .ok value => .ok value
  | .error found => .error ⟨model, found⟩

end Reading
end TaskGraph
