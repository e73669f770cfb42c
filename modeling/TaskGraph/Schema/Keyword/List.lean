import TaskGraph.Schema.Keyword.Fixed
import TaskGraph.Schema.Distinct
set_option autoImplicit false

/-! The keywords for the items of lists. -/

namespace TaskGraph.Schema

def itemsFrom (first : Nat) (items : List Value) : List (Nat × Value) :=
  (items.drop first).zipIdx first |>.map fun item => (item.2, item.1)

def prefixItemsKeyword (checker : Checker) (schemas : Value) (items : List Value) : Outcome :=
  .taking schemas.held? .unfit fun schemas =>
    checker.each (fun ((position, item), schema) => checker.part (.index position) schema item)
      ((itemsFrom 0 items).zip schemas)

def extraItems (allowed : Nat) (extra : List Value) : Outcome :=
  let shown := match extra with
    | [item] => item
    | extra => .list extra
  .say [shown]
    ("Expected at most " ++ toString allowed ++ (if allowed = 1 then " item" else " items") ++
      " but found " ++
      toString extra.length ++ " extra: " ++ shown.display)

def itemsKeyword (checker : Checker) (schema : List (Value × Value)) (wanted : Value)
    (items : List Value) : Outcome :=
  .taking ((keyword? "prefixItems" schema).getD (.list [])).count? .unfit fun first =>
    if items.length ≤ first then .clean
    else match wanted with
      | .bool false => extraItems first (items.drop first)
      | wanted =>
          checker.each (fun (position, item) => checker.part (.index position) wanted item)
            (itemsFrom first items)

def uniqueKeyword (wanted : Value) (items : List Value) : Outcome :=
  .demand (!wanted.isPresent || Value.areDistinct items) [.list items]
    ((Value.list items).display ++ " has non-unique elements")

/-- The number of items that meet a schema, as long as it is not above a
bound: the number of those found before is given. -/
def countMatches (checker : Checker) (schema : Value) (most : Option Value) :
    Nat → List Value → Except Fault (Option Nat)
  | count, [] => .ok (some count)
  | count, item :: rest => match checker.meets schema item with
      | .error fault => .error fault
      | .ok false => countMatches checker schema most count rest
      | .ok true => match most with
          | none => countMatches checker schema most (count + 1) rest
          | some bound => match bound.magnitude? with
              | none => .error .unfit
              | some limit =>
                  if limit.lt (.exact (count + 1 : Nat)) then .ok none
                  else countMatches checker schema most (count + 1) rest

/-- The schema that some items of a list must meet: one at least, unless other bounds are set. -/
def containsKeyword (checker : Checker) (schema : List (Value × Value)) (wanted : Value)
    (items : List Value) : Outcome :=
  let least := (keyword? "minContains" schema).getD (.int 1)
  let most := keyword? "maxContains" schema
  .given (countMatches checker wanted most 0 items) fun matched =>
    match matched with
    | none =>
        .say most.toList
          ("Too many items match the given schema (expected at most " ++
            (most.getD .null).display ++ ")")
    | some count =>
        .taking least.magnitude? .unfit fun limit =>
          if !Magnitude.lt (.exact count) limit then .clean
          else if count = 0 then
            .say [.list items] ((Value.list items).display ++
              " does not contain items matching the given schema")
          else
            .say [least]
              ("Too few items match the given schema (expected at least " ++ least.display ++
                " but only " ++
                toString count ++ " matched)")

end TaskGraph.Schema
