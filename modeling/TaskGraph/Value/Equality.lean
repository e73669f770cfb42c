import TaskGraph.Value.Basic
set_option autoImplicit false

/-! Equality of values as definitions see it: numbers are compared across their types, the order of
mappings and sets does not matter, and lists, tuples and sets are three kinds. A NaN is the same as
itself and equal to nothing. -/

namespace TaskGraph.Value

def wholeNumber? : Value → Option Int
  | bool truth => some (if truth then 1 else 0)
  | int number => some number
  | float number => number.toInt?
  | _ => none

def magnitude? : Value → Option Magnitude
  | bool truth => some (.exact (if truth then 1 else 0))
  | int number => some (.exact number)
  | float number => some number.magnitude
  | _ => none

def sameNumber (left right : Value) : Bool :=
  match left.wholeNumber?, right.wholeNumber? with
  | some m, some n => m == n
  | none, none => match left, right with
      | float x, float y => x == y
      | _, _ => false
  | _, _ => false

def isText (content : String) : Value → Bool
  | text other => content == other
  | _ => false

mutual

def same : Value → Value → Bool
  | null, null => true
  | text s, text t => s == t
  | bytes s, bytes t => s == t
  | date d, date e => d == e
  | moment t, moment u => t.equal u
  | list xs, list ys => sameList xs ys
  | tuple xs, tuple ys => sameList xs ys
  | set xs, set ys => xs.length == ys.length && sameMembers xs ys
  | mapping es, mapping fs => es.length == fs.length && sameEntries es fs
  | mapping es, config fs _ => es.length == fs.length && sameEntries es (entriesOf fs)
  | config es _, mapping fs => es.length == fs.length && sameFields es fs
  | config es _, config fs _ => es.length == fs.length && sameFields es (entriesOf fs)
  | bool a, right => sameNumber (bool a) right
  | int a, right => sameNumber (int a) right
  | float a, right => sameNumber (float a) right
  | _, _ => false
termination_by structural left => left

def sameList : List Value → List Value → Bool
  | [], [] => true
  | x :: xs, y :: ys => same x y && sameList xs ys
  | _, _ => false
termination_by structural left => left

def sameMembers : List Value → List Value → Bool
  | [], _ => true
  | x :: xs, ys => (ys.any fun y => same x y) && sameMembers xs ys
termination_by structural left => left

def sameEntries : List (Value × Value) → List (Value × Value) → Bool
  | [], _ => true
  | (key, value) :: rest, others =>
      (match others.find? fun other => same key other.1 with
        | some other => same value other.2
        | none => false) && sameEntries rest others
termination_by structural left => left

def sameFields : List (String × Value) → List (Value × Value) → Bool
  | [], _ => true
  | (key, value) :: rest, others =>
      (match others.find? fun other => isText key other.1 with
        | some other => same value other.2
        | none => false) && sameFields rest others
termination_by structural left => left

end

def equal (left right : Value) : Bool :=
  match left, right with
  | float x, float y => x.equal y
  | _, _ => same left right

/-- Sets the value of a key: an equal key keeps its place and
its spelling, a new one goes to the end. -/
def putEntry (key value : Value) : List (Value × Value) → List (Value × Value)
  | [] => [(key, value)]
  | entry :: rest =>
      if same entry.1 key then (entry.1, value) :: rest else entry :: putEntry key value rest

/-- The entries of a mapping from a row of pairs in which a later
pair replaces an earlier one of an equal key. -/
def collectEntries (pairs : List (Value × Value)) : List (Value × Value) :=
  pairs.foldl (fun entries pair => putEntry pair.1 pair.2 entries) []

def lookup? (key : Value) (entries : List (Value × Value)) : Option Value :=
  (entries.find? fun entry => same entry.1 key).map (·.2)

end TaskGraph.Value
