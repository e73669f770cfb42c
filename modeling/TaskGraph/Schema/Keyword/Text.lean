import TaskGraph.Pattern.Read
import TaskGraph.Schema.Keyword.Fixed
set_option autoImplicit false

/-! The keyword for the form of texts, and searching for patterns. -/

namespace TaskGraph.Schema

def Fault.ofPattern : Pattern.Fault → Fault
  | .malformed => .badPattern
  | .tooOften => .tooLarge
  | .numberTooLong => .unreadable
  | .conflictingFlags => .unreadable

def occurs (pattern : String) (value : Value) : Except Fault Bool :=
  match Pattern.ofText pattern.toList with
  | .error fault => .error (.ofPattern fault)
  | .ok pattern => match value with
      | .text content => .ok (pattern.occursIn content.toList)
      | _ => .error .unfit

/-- Whether a pattern that is given as a value occurs in a value. Both must be texts. -/
def occursIn (pattern value : Value) : Except Fault Bool :=
  match pattern with
  | .text pattern => occurs pattern value
  | _ => .error .unfit

def patternKeyword (pattern value : Value) : Outcome :=
  match value with
  | .text _ => .given (occursIn pattern value) fun found =>
      .demand found [pattern] (value.display ++ " does not match " ++ pattern.display)
  | _ => .clean

end TaskGraph.Schema
