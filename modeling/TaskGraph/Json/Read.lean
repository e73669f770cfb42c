import TaskGraph.Json.Basic
import TaskGraph.Number.Hexadecimal
set_option autoImplicit false

/-! Reading a JSON document. The grammar is the strict one, with `NaN`, `Infinity` and `-Infinity`
as further numbers. Each reader gives what it read and the rest of the text. -/

namespace TaskGraph.Json

/-- Why a text is no document: it breaks the grammar, a text in it holds half a character, or an
integer in it has too many digits. -/
inductive Flaw where
  | malformed
  | halfCharacter
  | tooLong
deriving DecidableEq

abbrev Read (α : Type) := Except Flaw (α × List Char)

def Read.ofOption {α : Type} : Option (α × List Char) → Read α
  | some found => .ok found
  | none => .error .malformed

def isSpace (c : Char) : Bool := c = ' ' || c = '\t' || c = '\n' || c = '\r'

def skipSpace (text : List Char) : List Char := text.dropWhile isSpace

def escaped? (c : Char) : Option Char :=
  if c = '"' ∨ c = '\\' ∨ c = '/' then some c
  else if c = 'b' then some '\x08'
  else if c = 'f' then some '\x0c'
  else if c = 'n' then some '\n'
  else if c = 'r' then some '\r'
  else if c = 't' then some '\t'
  else none

/-- A part of a text between quotes: a character, or the UTF-16 code unit of a numeric escape. -/
inductive Piece where
  | char (c : Char)
  | unit (code : Nat)

def readPieces : List Char → Option (List Piece × List Char)
  | [] => none
  | c :: rest =>
      if c = '"' then some ([], rest)
      else if c = '\\' then
        match rest with
        | 'u' :: h₁ :: h₂ :: h₃ :: h₄ :: more =>
            match hexNumber? [h₁, h₂, h₃, h₄], readPieces more with
            | some code, some (pieces, tail) => some (.unit code :: pieces, tail)
            | _, _ => none
        | e :: more =>
            match escaped? e, readPieces more with
            | some c, some (pieces, tail) => some (.char c :: pieces, tail)
            | _, _ => none
        | [] => none
      else if c.toNat < 0x20 then none
      else match readPieces rest with
        | some (pieces, tail) => some (.char c :: pieces, tail)
        | none => none

/-- Joins pieces. A high surrogate is followed by a low one, which stands nowhere else: alone each
of them is half a character. -/
def joinPieces : List Piece → Option (List Char)
  | [] => some []
  | .char c :: rest => (joinPieces rest).map (c :: ·)
  | .unit high :: rest =>
      if 0xd800 ≤ high ∧ high < 0xdc00 then
        match rest with
        | .unit low :: more =>
            if 0xdc00 ≤ low ∧ low < 0xe000 then
              (joinPieces more).map
                (Char.ofNat (0x10000 + (high - 0xd800) * 0x400 + (low - 0xdc00)) :: ·)
            else none
        | _ => none
      else if 0xdc00 ≤ high ∧ high < 0xe000 then none
      else (joinPieces rest).map (Char.ofNat high :: ·)

def readText (text : List Char) : Read String :=
  match readPieces text with
  | none => .error .malformed
  | some (pieces, rest) => match joinPieces pieces with
      | none => .error .halfCharacter
      | some characters => .ok (String.ofList characters, rest)

def splitFraction : List Char → List Char × List Char
  | '.' :: rest =>
      let digits := rest.takeWhile Char.isDigit
      if digits.isEmpty then ([], '.' :: rest) else ('.' :: digits, rest.dropWhile Char.isDigit)
  | input => ([], input)

def splitExponent : List Char → List Char × List Char
  | [] => ([], [])
  | c :: rest =>
      if c = 'e' ∨ c = 'E' then
        let (sign, tail) := match rest with
          | '-' :: more => (['-'], more)
          | '+' :: more => (['+'], more)
          | more => ([], more)
        let digits := tail.takeWhile Char.isDigit
        if digits.isEmpty then ([], c :: rest)
          else (c :: sign ++ digits, tail.dropWhile Char.isDigit)
      else ([], c :: rest)

def splitWhole : List Char → List Char × List Char
  | '0' :: rest => (['0'], rest)
  | input => (input.takeWhile Char.isDigit, input.dropWhile Char.isDigit)

def readNumber (negative : Bool) (text : List Char) : Read Json :=
  let (whole, rest) := splitWhole text
  let (fraction, rest) := splitFraction rest
  let (power, rest) := splitExponent rest
  if whole.isEmpty then .error .malformed
  else if fraction.isEmpty && power.isEmpty then
    if mostDigits < whole.length then .error .tooLong
    else
      let size := Int.ofNat (decimalValue whole)
      .ok (int (if negative then -size else size), rest)
  else .ofOption <| (Binary64.unsignedNumeral? negative (whole ++ fraction ++ power)).map
    fun number =>
    (float number, rest)

def dropWord? : List Char → List Char → Option (List Char)
  | [], input => some input
  | a :: word, b :: input => if a = b then dropWord? word input else none
  | _ :: _, [] => none

def readWord (word : List Char) (document : Json) (text : List Char) : Read Json :=
  .ofOption ((dropWord? word text).map fun tail => (document, tail))

def readScalar (input : List Char) : Read Json :=
  match input with
  | 'n' :: rest => readWord ['u', 'l', 'l'] null rest
  | 't' :: rest => readWord ['r', 'u', 'e'] (bool true) rest
  | 'f' :: rest => readWord ['a', 'l', 's', 'e'] (bool false) rest
  | 'N' :: rest => readWord ['a', 'N'] (float (.nan 1)) rest
  | 'I' :: rest => readWord ['n', 'f', 'i', 'n', 'i', 't', 'y'] (float (.infinite false)) rest
  | '-' :: 'I' :: rest => readWord ['n', 'f', 'i', 'n', 'i', 't', 'y'] (float (.infinite true)) rest
  | '-' :: rest => readNumber true rest
  | unsigned => readNumber false unsigned

mutual

/-- Reads a document that begins at once. The first number
bounds how many steps the reading takes. -/
def readValue : Nat → List Char → Read Json
  | 0, _ => .error .malformed
  | _ + 1, '"' :: rest => (readText rest).map fun (content, tail) => (text content, tail)
  | steps + 1, '[' :: rest =>
      match skipSpace rest with
      | ']' :: tail => .ok (list [], tail)
      | inner => (readItems steps inner).map fun (items, tail) => (list items, tail)
  | steps + 1, '\x7b' :: rest =>
      match skipSpace rest with
      | '\x7d' :: tail => .ok (object [], tail)
      | inner => (readMembers steps inner).map fun (members, tail) => (object members, tail)
  | _ + 1, other => readScalar other

def readItems : Nat → List Char → Read (List Json)
  | 0, _ => .error .malformed
  | steps + 1, input =>
      match readValue steps input with
      | .error flaw => .error flaw
      | .ok (item, rest) =>
          match skipSpace rest with
          | ']' :: tail => .ok ([item], tail)
          | ',' :: tail =>
              (readItems steps (skipSpace tail)).map fun (items, after) => (item :: items, after)
          | _ => .error .malformed

def readMembers : Nat → List Char → Read (List (String × Json))
  | 0, _ => .error .malformed
  | steps + 1, '"' :: quoted =>
      match readText quoted with
      | .error flaw => .error flaw
      | .ok (name, rest) =>
          match skipSpace rest with
          | ':' :: tail =>
              match readValue steps (skipSpace tail) with
              | .error flaw => .error flaw
              | .ok (item, rest) =>
                  match skipSpace rest with
                  | '\x7d' :: tail => .ok ([(name, item)], tail)
                  | ',' :: tail =>
                      (readMembers steps (skipSpace tail)).map fun (members, after) =>
                        ((name, item) :: members, after)
                  | _ => .error .malformed
          | _ => .error .malformed
  | _ + 1, _ => .error .malformed

end

def read (text : List Char) : Except Flaw Json :=
  match readValue (text.length + 1) (skipSpace text) with
  | .ok (document, rest) => if (skipSpace rest).isEmpty then .ok document else .error .malformed
  | .error flaw => .error flaw

def read? (text : List Char) : Option Json := (read text).toOption

end TaskGraph.Json
