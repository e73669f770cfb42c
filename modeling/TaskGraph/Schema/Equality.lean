import TaskGraph.Value.Collection
set_option autoImplicit false

/-! Equality of values as schemas see it: truth values are no numbers,
and lists and tuples are compared place by place. -/

namespace TaskGraph.Value

def sequenceItems? : Value → Option (List Value)
  | list items => some items
  | tuple items => some items
  | bytes content => some (byteItems content)
  | _ => none

mutual

def alike : Value → Value → Bool
  | bool p, bool q => p == q
  | bool _, _ => false
  | _, bool _ => false
  | list xs, right => match right.sequenceItems? with
      | some ys => alikeList xs ys
      | none => false
  | tuple xs, right => match right.sequenceItems? with
      | some ys => alikeList xs ys
      | none => false
  | bytes content, right => match right.sequenceItems? with
      | some ys => alikeBytes content ys
      | none => false
  | mapping es, mapping fs => es.length == fs.length && alikeEntries es fs
  | left, right => same left right
termination_by structural left => left

def alikeList : List Value → List Value → Bool
  | [], [] => true
  | x :: xs, y :: ys => alike x y && alikeList xs ys
  | _, _ => false
termination_by structural left => left

def alikeEntries : List (Value × Value) → List (Value × Value) → Bool
  | [], _ => true
  | (key, value) :: rest, others =>
      (match lookup? key others with
        | some other => alike value other
        | none => false) && alikeEntries rest others
termination_by structural left => left

def alikeBytes : List UInt8 → List Value → Bool
  | [], [] => true
  | byte :: rest, y :: ys => (match y with
      | bool _ => false
      | y => sameNumber (int byte.toNat) y) && alikeBytes rest ys
  | _, _ => false

end

end TaskGraph.Value
