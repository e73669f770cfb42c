import TaskGraph.Value.Display
set_option autoImplicit false

/-! Violations of a schema: where in a value they are and what they say.
Also the faults at which a check breaks off. -/

namespace TaskGraph.Schema

/-- Why a check of a value against a schema breaks off: a value is `unfit` for an operation, `bare`
where parts of it are asked for, or `unreadable` as a number or text; a number is `tooLarge`, or a
divisor zero; the schema names a type that there is not, refers to nothing, has a text that is no
pattern, or leads to itself without end. -/
inductive Fault where
  | unfit
  | bare
  | unreadable
  | tooLarge
  | zeroDivisor
  | unknownType
  | unresolved
  | badPattern
  | endless
deriving DecidableEq

inductive Step where
  | key (name : Value)
  | index (position : Nat)

structure Violation where
  path : List Step
  message : String

/-- Whether a key can stand in a path behind a point: a letter, then letters, digits and
underscores. A line feed at its end does not count. -/
def isPlainKey (key : List Char) : Bool :=
  let name := if key.getLast? == some '\n' then key.dropLast else key
  match name with
  | [] => false
  | c :: rest => c.isAlpha && rest.all fun d => d.isAlphanum || d = '_'

def quotedKey (key : List Char) : List Char :=
  key.flatMap fun c => if c = '\\' ∨ c = '\'' then ['\\', c] else [c]

/-- The text of one step. Only texts, integers and truth values can be shown in a path. -/
def Step.text : Step → Except Fault String
  | .index position => .ok ("[" ++ toString position ++ "]")
  | .key (.text name) =>
      .ok (if isPlainKey name.toList then "." ++ name
        else "['" ++ String.ofList (quotedKey name.toList) ++ "']")
  | .key (.int number) =>
      if isWritable number then .ok ("[" ++ toString number ++ "]") else .error .unreadable
  | .key (.bool truth) => .ok ("[" ++ (Value.bool truth).display ++ "]")
  | .key _ => .error .unfit

namespace Violation

def stepsText : List Step → Except Fault String
  | [] => .ok ""
  | step :: rest => match step.text, stepsText rest with
      | .error fault, _ => .error fault
      | .ok _, .error fault => .error fault
      | .ok first, .ok others => .ok (first ++ others)

def pathText (violation : Violation) : Except Fault String :=
  (stepsText violation.path).map ("$" ++ ·)

def here (message : String) : Violation := ⟨[], message⟩

def within (step : Step) (violation : Violation) : Violation :=
  { violation with path := step :: violation.path }

end Violation

structure Finding where
  place : String
  message : String

namespace Finding

def ofViolation (violation : Violation) : Except Fault Finding :=
  violation.pathText.map fun place => ⟨place, violation.message⟩

def ofViolations : List Violation → Except Fault (List Finding)
  | [] => .ok []
  | violation :: rest => match ofViolation violation, ofViolations rest with
      | .error fault, _ => .error fault
      | .ok _, .error fault => .error fault
      | .ok first, .ok others => .ok (first :: others)

def line (finding : Finding) : String := finding.place ++ ": " ++ finding.message

def insert (finding : Finding) : List Finding → List Finding
  | [] => [finding]
  | first :: rest =>
      if finding.place < first.place then finding :: first :: rest else first :: insert finding rest

/-- Findings in the order of the texts of their places; those of one place stay as they stood. -/
def sort (findings : List Finding) : List Finding :=
  findings.foldl (fun sorted finding => insert finding sorted) []

end Finding
end TaskGraph.Schema
