import TaskGraph.Schema.Violation
set_option autoImplicit false

/-! What a check finds: violations in order, up to a fault if there is one. -/

namespace TaskGraph.Schema

/-- The violations found one after the other, and the fault at which the check broke off. -/
structure Outcome where
  violations : List Violation
  fault : Option Fault

namespace Outcome

def clean : Outcome := ⟨[], none⟩

def fail (fault : Fault) : Outcome := ⟨[], some fault⟩

/-- One violation of the value itself, whose message shows some values. They must have a text. -/
def say (shown : List Value) (message : String) : Outcome :=
  if shown.all Value.isWritable then ⟨[.here message], none⟩ else fail .unreadable

def demand (holds : Bool) (shown : List Value) (message : String) : Outcome :=
  if holds then clean else say shown message

def followedBy (first second : Outcome) : Outcome :=
  match first.fault with
  | some _ => first
  | none => ⟨first.violations ++ second.violations, second.fault⟩

/-- What a row of checks finds, up to a fault or, if the first
violation is enough, to a violation. -/
def each {α : Type} (brief : Bool) (check : α → Outcome) : List α → Outcome
  | [] => clean
  | item :: rest =>
      let first := check item
      if first.fault.isSome || (brief && !first.violations.isEmpty) then first
      else first.followedBy (each brief check rest)

def given {α : Type} (result : Except Fault α) (check : α → Outcome) : Outcome :=
  match result with
  | .ok value => check value
  | .error fault => fail fault

def taking {α : Type} (value : Option α) (fault : Fault) (check : α → Outcome) : Outcome :=
  match value with
  | some value => check value
  | none => fail fault

/-- What was found in a part of a value. A key that is null leaves no step. -/
def within (step : Step) (outcome : Outcome) : Outcome :=
  match step with
  | .key .null => outcome
  | step => { outcome with violations := outcome.violations.map (.within step) }

/-- Whether a value meets its schema. The first thing found decides. -/
def isMet (outcome : Outcome) : Except Fault Bool :=
  match outcome.violations, outcome.fault with
  | _ :: _, _ => .ok false
  | [], some fault => .error fault
  | [], none => .ok true

def all (outcome : Outcome) : Except Fault (List Violation) :=
  match outcome.fault with
  | some fault => .error fault
  | none => .ok outcome.violations

end Outcome

/-- How a keyword looks at the schemas that it holds. `brief` says that the first violation is
enough; `examine` gives what a value breaks in a schema, up to the first violation or all of it;
`meets` says whether a value meets a schema. The schema comes first, then the value. -/
structure Checker where
  brief : Bool
  examine : Bool → Value → Value → Outcome
  meets : Value → Value → Except Fault Bool

namespace Checker

def outcome (checker : Checker) (schema value : Value) : Outcome :=
  checker.examine checker.brief schema value

/-- What a part of a value breaks. A schema that nothing meets speaks of the whole value. -/
def part (checker : Checker) (step : Step) (schema value : Value) : Outcome :=
  match schema with
  | .bool _ => checker.outcome schema value
  | schema => (checker.outcome schema value).within step

def each {α : Type} (checker : Checker) (check : α → Outcome) (items : List α) : Outcome :=
  .each checker.brief check items

end Checker
end TaskGraph.Schema
