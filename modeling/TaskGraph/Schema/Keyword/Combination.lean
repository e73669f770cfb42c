import TaskGraph.Schema.Keyword.Fixed
set_option autoImplicit false

/-! The keywords that combine schemas. -/

namespace TaskGraph.Schema

def allOfKeyword (checker : Checker) (schemas value : Value) : Outcome :=
  .taking schemas.held? .unfit (checker.each fun schema => checker.outcome schema value)

def firstMet (checker : Checker) (value : Value) : List Value →
    Except Fault (Option (Value × List Value))
  | [] => .ok none
  | schema :: rest => match (checker.examine false schema value).all with
      | .error fault => .error fault
      | .ok [] => .ok (some (schema, rest))
      | .ok _ => firstMet checker value rest

def meetsNone (value : Value) : Outcome :=
  .say [value] (value.display ++ " is not valid under any of the given schemas")

def anyOfKeyword (checker : Checker) (schemas value : Value) : Outcome :=
  .taking schemas.held? .unfit fun schemas =>
    .given (firstMet checker value schemas) fun met => if met.isSome then .clean
      else meetsNone value

def allMet (checker : Checker) (value : Value) : List Value → Except Fault (List Value)
  | [] => .ok []
  | schema :: rest => match checker.meets schema value with
      | .error fault => .error fault
      | .ok met =>
          (allMet checker value rest).map fun others => if met then schema :: others else others

/-- The schemas of which a value must meet exactly one. Of several
that it meets the first is named last. -/
def oneOfKeyword (checker : Checker) (schemas value : Value) : Outcome :=
  .taking schemas.held? .unfit fun schemas =>
    .given (firstMet checker value schemas) fun met =>
      match met with
      | none => meetsNone value
      | some (first, rest) => .given (allMet checker value rest) fun others =>
          .demand others.isEmpty (value :: others ++ [first])
            (value.display ++ " is valid under each of " ++ commaRow (others ++ [first]))

def notKeyword (checker : Checker) (schema value : Value) : Outcome :=
  .given (checker.meets schema value) fun met =>
    .demand (!met) [value, schema]
      (value.display ++ " should not be valid under " ++ schema.display)

def ifKeyword (checker : Checker) (schema : List (Value × Value))
    (condition value : Value) : Outcome :=
  .given (checker.meets condition value) fun met =>
    match keyword? (if met then "then" else "else") schema with
    | some wanted => checker.outcome wanted value
    | none => .clean

end TaskGraph.Schema
