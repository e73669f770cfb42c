set_option autoImplicit false

/-! Lines of a text: their ends in one form, and the common
margin that an indented block is freed of. -/

namespace TaskGraph.Text

def unifyLineEnds : List Char → List Char
  | [] => []
  | '\r' :: '\n' :: rest => '\n' :: unifyLineEnds rest
  | '\r' :: rest => '\n' :: unifyLineEnds rest
  | c :: rest => c :: unifyLineEnds rest

def splitAt (separator : Char) : List Char → List (List Char)
  | [] => [[]]
  | c :: rest =>
      if c = separator then [] :: splitAt separator rest
      else match splitAt separator rest with
        | [] => [[c]]
        | piece :: pieces => (c :: piece) :: pieces

def joinWith (separator : List Char) : List (List Char) → List Char
  | [] => []
  | [piece] => piece
  | piece :: pieces => piece ++ separator ++ joinWith separator pieces

def commonStart : List Char → List Char → List Char
  | a :: left, b :: right => if a = b then a :: commonStart left right else []
  | _, _ => []

def isIndent (c : Char) : Bool := c = ' ' || c = '\t'

def margin (lines : List (List Char)) : List Char :=
  let indents := (lines.filter fun line => !line.all isIndent).map (·.takeWhile isIndent)
  match indents with
  | [] => []
  | first :: others => others.foldl commonStart first

/-- Removes the shared margin of a block and empties the lines that hold nothing but indentation. -/
def dedent (text : List Char) : List Char :=
  let lines := splitAt '\n' text
  let width := (margin lines).length
  joinWith ['\n'] (lines.map fun line => if line.all isIndent then [] else line.drop width)

end TaskGraph.Text
