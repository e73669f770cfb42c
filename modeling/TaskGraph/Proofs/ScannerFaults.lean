import TaskGraph.Yaml.Lexer
set_option autoImplicit false

/-! What can be wrong with the tokens of a YAML text. Every breach of the format is reported as one,
with a single exception: an escape in double quotes can name a number that no character has, or half
a character. -/

namespace TaskGraph.Yaml

def Ends {α : Type} (fails : Error → Prop) (holds : α → Prop) : Except Error α → Prop
  | .ok value => holds value
  | .error cause => fails cause

namespace Ends

variable {α β : Type} {fails : Error → Prop} {holds : α → Prop} {result : Except Error α}

theorem ok {value : α} (here : holds value) : Ends fails holds (.ok value) := here

theorem error {cause : Error} (here : fails cause) : Ends fails holds (.error cause) := here

theorem value (ends : Ends fails holds result) {found : α} (read : result = .ok found) :
    holds found := by
  rw [read] at ends
  exact ends

theorem failure (ends : Ends fails holds result) {cause : Error} (failed : result = .error cause) :
    fails cause := by
  rw [failed] at ends
  exact ends

theorem map (ends : Ends fails holds result) {f : α → β} {after : β → Prop}
    (keeps : ∀ value, holds value → after (f value)) :
    Ends fails after (result.map f) := by
  cases result with
  | ok value => exact keeps value ends
  | error cause => exact ends

theorem choice {condition : Prop} [Decidable condition] {left right : Except Error α}
    (endsLeft : Ends fails holds left) (endsRight : Ends fails holds right) :
    Ends fails holds (if condition then left else right) := by
  split
  · exact endsLeft
  · exact endsRight

end Ends

/-- What the scanner ends with: a breach of the format, or an escape for half a character or with a
number that is too large for one. -/
inductive Error.OfScanner : Error → Prop where
  | malformed (reason : String) : OfScanner (.malformed reason)
  | beyond (reason : String) : OfScanner (.beyond reason)
  | tooLarge {digits : List Char} {code : Nat} (spelled : hexNumber? digits = some code)
      (large : 0x110000 ≤ code) :
      OfScanner (.tooLarge (String.ofList digits))
  | impossible {digits : List Char} {code : Nat} (spelled : hexNumber? digits = some code)
      (large : 0x110000 ≤ code) :
      OfScanner (.impossible (String.ofList digits))

abbrev Scans {α : Type} (result : Except Error α) : Prop :=
  Ends Error.OfScanner (fun _ => True) result

namespace Scans

variable {α β : Type}

theorem map {result : Except Error α} (scans : Scans result) (f : α → β) : Scans (result.map f) :=
  Ends.map scans fun _ _ => trivial

theorem failing {result : Except Error α} (scans : Scans result) {holds : β → Prop} {cause : Error}
    (failed : result = .error cause) : Ends Error.OfScanner holds (.error cause) :=
  scans.failure failed

end Scans

/-! ### Names and tags -/

namespace Lexer

variable {lexer : Lexer}

end Lexer

end TaskGraph.Yaml
