import TaskGraph.Console.Emoji
import TaskGraph.Console.Literal
import TaskGraph.Console.Style
set_option autoImplicit false

/-! Marked-up text. A tag in square brackets opens a style, a tag with a slash closes one, and
backslashes before a tag take its meaning away. Every closing tag must match an open one; tags that
are still open at the end do no harm. A tag can carry an argument behind an equals sign; that of a
handler, whose name begins with an at sign, is read when the tag is closed. -/

namespace TaskGraph.Console

inductive Piece where
  | plain (text : List Char)
  | tag (body : List Char)
deriving DecidableEq

inductive MarkupError where
  | nothingToClose
  | unmatched (name : List Char)
  | badArgument (argument : List Char)
  | badColor
deriving DecidableEq

def beginsTag (c : Char) : Bool := ('a' ≤ c && c ≤ 'z') || c = '#' || c = '/' || c = '@'

/-- The text up to the first closing bracket, with no opening one
in it, and the text behind that bracket. -/
def upToBracket? : List Char → Option (List Char × List Char)
  | [] => none
  | c :: rest =>
      if c = ']' then some ([], rest)
      else if c = '[' then none
      else (upToBracket? rest).map fun (body, after) => (c :: body, after)

/-- A tag in a text: what stands before it, the number of backslashes
in front of it, what it says, and the rest. -/
structure FoundTag where
  before : List Char
  slashes : Nat
  body : List Char
  after : List Char

def tagAt? : List Char → Option FoundTag
  | '\\' :: rest => (tagAt? rest).map fun found => { found with slashes := found.slashes + 1 }
  | '[' :: c :: rest =>
      if beginsTag c then (upToBracket? rest).map fun (body, after) =>
        ⟨[], 0, c :: body, after⟩ else none
  | _ => none

def firstTag? : List Char → Option FoundTag
  | [] => none
  | c :: rest => match tagAt? (c :: rest) with
      | some found => some found
      | none => (firstTag? rest).map fun found => { found with before := c :: found.before }

def bracketed (body : List Char) : List Char := '[' :: body ++ [']']

def plainPiece (text : List Char) : List Piece := if text.isEmpty then [] else [.plain text]

/-- What a tag with its backslashes stands for: every two backslashes
are one, and an odd one keeps the tag as text. -/
def FoundTag.pieces (found : FoundTag) : List Piece :=
  plainPiece found.before ++ plainPiece (List.replicate (found.slashes / 2) '\\') ++
    [if found.slashes % 2 = 1 then .plain (bracketed found.body) else .tag found.body]

/-- The pieces of marked-up text. The number bounds how many tags there can be. -/
def piecesWithin : Nat → List Char → List Piece
  | 0, text => plainPiece text
  | steps + 1, text => match firstTag? text with
      | none => plainPiece text
      | some found => found.pieces ++ piecesWithin steps found.after

def pieces (markup : List Char) : List Piece := piecesWithin markup.length markup

def freeBrackets : List Char → List Char
  | '\\' :: '[' :: rest => '[' :: freeBrackets rest
  | c :: rest => c :: freeBrackets rest
  | [] => []

def isSilent (c : Char) : Bool :=
  let n := c.toNat
  n = 7 || n = 8 || n = 11 || n = 12 || n = 13

def shown (text : List Char) : List Char :=
  (putEmoji (freeBrackets text)).filter fun c => !isSilent c

structure Tag where
  name : List Char
  argument : Option (List Char)

def Tag.ofBody (body : List Char) : Tag :=
  ⟨body.takeWhile (· ≠ '='), if body.contains '=' then
    some ((body.dropWhile (· ≠ '=')).drop 1) else none⟩

def Tag.style (tag : Tag) : List Char :=
  match tag.argument with
  | none => tag.name
  | some argument => tag.name ++ ' ' :: argument

def Tag.isHandler (tag : Tag) : Bool := tag.name.head? = some '@'

/-- The name of the style that a tag leaves on its text when it is closed.
A handler leaves none, but must be well-formed. -/
def Tag.close (tag : Tag) : Except MarkupError (List (List Char)) :=
  if !tag.isHandler then .ok [tag.style]
  else match tag.argument with
    | none => .ok []
    | some argument =>
        if argument.isEmpty || Literal.isArgument (Text.trimSpace argument) then
          .ok [] else .error (.badArgument argument)

/-- The name of the tag that a tag closes, empty for the one on top; `none` if it opens a style. -/
def Tag.closing? (tag : Tag) : Option (List Char) :=
  match tag.name with
  | '/' :: given => some (Text.trimSpace given)
  | _ => none

structure Span where
  start : Nat
  stop : Nat
  style : List Char

structure Shown where
  text : List Char
  spans : List Span

def Shown.behind (text : List Char) (spans : List Span) (shown : Shown) : Shown :=
  ⟨text ++ shown.text, spans ++ shown.spans⟩

structure OpenTag where
  tag : Tag
  start : Nat

/-- Takes away the tag that a closing tag names: the one on top, or the topmost with that name. -/
def takeOpen (given : List Char) (opened : List OpenTag) :
    Except MarkupError (OpenTag × List OpenTag) :=
  if given.isEmpty then
    match opened with
    | [] => .error .nothingToClose
    | top :: outer => .ok (top, outer)
  else match Style.canonical? given with
    | none => .error .badColor
    | some canonical => match opened.find? (·.tag.name = canonical) with
        | none => .error (.unmatched given)
        | some found => .ok (found, opened.eraseP (·.tag.name = canonical))

def showPieces (place : Nat) (opened : List OpenTag) : List Piece → Except MarkupError Shown
  | [] => .ok ⟨[], opened.map fun left => ⟨left.start, place, left.tag.style⟩⟩
  | .plain text :: rest =>
      (showPieces (place + (shown text).length) opened rest).map (Shown.behind (shown text) [])
  | .tag body :: rest =>
      match (Tag.ofBody body).closing? with
      | none => match Style.canonical? (Tag.ofBody body).name with
          | none => .error .badColor
          | some canonical =>
              showPieces place (⟨{ Tag.ofBody body with name := canonical }, place⟩ :: opened) rest
      | some given => match takeOpen given opened with
          | .error cause => .error cause
          | .ok (found, others) => match found.tag.close with
              | .error cause => .error cause
              | .ok styles =>
                  (showPieces place others rest).map
                    (Shown.behind [] (styles.map fun style => ⟨found.start, place, style⟩))

def showMarkup (markup : List Char) : Except MarkupError Shown := showPieces 0 [] (pieces markup)

def FoundTag.escaped (found : FoundTag) : List Char :=
  found.before ++ List.replicate (2 * found.slashes + 1) '\\' ++ bracketed found.body

/-- Text written so that its tags are shown as they are. The
number bounds how many tags there can be. -/
def escapeTags : Nat → List Char → List Char
  | 0, text => text
  | steps + 1, text => match firstTag? text with
      | none => text
      | some found => found.escaped ++ escapeTags steps found.after

def closeSlash (text : List Char) : List Char :=
  match text.reverse with
  | ['\\'] => ['\\', '\\']
  | '\\' :: c :: _ => if c = '\\' then text else text ++ ['\\']
  | _ => text

def escapeMarkup (text : List Char) : List Char := closeSlash (escapeTags text.length text)

end TaskGraph.Console
