set_option autoImplicit false

/-! Names of characters, kept in runs: characters that follow one
another and whose names begin with the same words. -/

namespace TaskGraph.Text.CharacterName

/-- The names of characters from a first code point on. `shared` is what they begin with, and each
row gives the rest of several names, between bars. -/
structure Run where
  first : Nat
  shared : String
  rows : List String

def codeIn? (ending : String) : Nat → List String → Option Nat
  | _, [] => none
  | code, row :: rest =>
      let endings := row.splitOn "|"
      match endings.idxOf? ending with
      | some place => some (code + place)
      | none => codeIn? ending (code + endings.length) rest

def Run.code? (run : Run) (name : List Char) : Option Nat :=
  let shared := run.shared.toList
  if shared.isPrefixOf name then
    codeIn? (String.ofList (name.drop shared.length)) run.first run.rows else none

end TaskGraph.Text.CharacterName
