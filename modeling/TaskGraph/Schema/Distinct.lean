import TaskGraph.Schema.Equality
import TaskGraph.Schema.Order
set_option autoImplicit false

/-! Whether the members of a list are distinct: no two neighbours are equal when the list is in
order, or no two members where there is no order. -/

namespace TaskGraph.Value

/-- The order of the members of a list. Truth values have none there. -/
def memberBefore? (left right : Value) : Option Bool :=
  match left, right with
  | bool _, _ => none
  | _, bool _ => none
  | left, right => before? left right

def hasAlikeNeighbours : List Value → Bool
  | x :: y :: rest => alike x y || hasAlikeNeighbours (y :: rest)
  | _ => false

def hasAlike : List Value → Bool
  | [] => false
  | x :: rest => rest.any (fun y => alike x y) || hasAlike rest

def areDistinct (items : List Value) : Bool :=
  match sortBy? memberBefore? items with
  | some sorted => !hasAlikeNeighbours sorted
  | none => !hasAlike items

end TaskGraph.Value
