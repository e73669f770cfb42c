set_option autoImplicit false

/-! A place in a YAML text: what is left to read, and the index, line and column reached. -/

namespace TaskGraph.Yaml

/-- Why a text gives no value. `malformed` covers every breach of the format, and `beyond` what has
a value that no tree of texts holds: an escape for half a character, and an alias within the node
that its anchor names. The others are about single scalars whose text does not fit their type. -/
inductive Error where
  | malformed (reason : String)
  | beyond (reason : String)
  | impossible (content : String)
  | tooLarge (content : String)
  | overflow (content : String)
  | emptyNumber
  | noTruth (word : String)
  | noTimestamp (content : String)
  | noText
deriving DecidableEq

def isBreak (c : Char) : Bool :=
  c = '\n' || c = '\r' || c = '\x85' || c = '\u2028' || c = '\u2029'

def atBreak : Option Char → Bool
  | none => true
  | some c => isBreak c

def atSpace : Option Char → Bool
  | none => true
  | some c => c = ' ' || isBreak c

def atBlank : Option Char → Bool
  | none => true
  | some c => c = ' ' || c = '\t' || isBreak c

def byteOrderMark : Char := '\ufeff'

/-- A place in a text. `size` is the number of characters left. -/
structure Cursor where
  rest : List Char
  size : Nat
  index : Nat
  line : Nat
  column : Nat
  size_eq : size = rest.length

namespace Cursor

def start (text : List Char) : Cursor := ⟨text, text.length, 0, 0, 0, rfl⟩

def peek (place : Cursor) : Option Char := place.rest.head?

def peekAt (place : Cursor) (distance : Nat) : Option Char := place.rest[distance]?

/-- The place after one character. A carriage return before a
line feed does not end the line by itself. -/
def next (place : Cursor) : Cursor :=
  match left : place.rest with
  | [] => place
  | c :: rest =>
      have size_eq : place.size - 1 = rest.length := by simp [place.size_eq, left]
      if isBreak c && !(c = '\r' && rest.head? == some '\n') then
        { rest, size := place.size - 1, index := place.index + 1, line := place.line + 1, column :=
          0, size_eq }
      else
        { rest, size := place.size - 1, index := place.index + 1, line := place.line
          column := if c = byteOrderMark then place.column else place.column + 1
          size_eq }

def skip : Nat → Cursor → Cursor
  | 0, place => place
  | count + 1, place => skip count place.next

def skipWhile (test : Char → Bool) (place : Cursor) : Cursor :=
  skip (place.rest.takeWhile test).length place

def takeWhile (test : Char → Bool) (place : Cursor) : List Char × Cursor :=
  (place.rest.takeWhile test, place.skipWhile test)

/-- The line break at a place, if there is one, and the place after it. All breaks but the two
Unicode separators read as a line feed. -/
def lineBreak? (place : Cursor) : Option (Char × Cursor) :=
  match place.rest with
  | '\r' :: '\n' :: _ => some ('\n', skip 2 place)
  | c :: _ =>
      if isBreak c then some (if c = '\u2028' ∨ c = '\u2029' then c else '\n', place.next) else none
  | [] => none

def skipBreak (place : Cursor) : Cursor :=
  match place.lineBreak? with
  | some (_, after) => after
  | none => place

def skipSpaces (place : Cursor) : Cursor := place.skipWhile (· = ' ')

/-- Whether a document marker begins here: three dashes or three dots and a blank after them. -/
def atMarker (place : Cursor) : Bool :=
  (place.rest.take 3 == ['-', '-', '-'] || place.rest.take 3 == ['.', '.', '.']) &&
    atBlank (place.peekAt 3)

end Cursor
end TaskGraph.Yaml
