import TaskGraph.Console.Markup
import TaskGraph.Text.CellWidth
import TaskGraph.Text.Lines
set_option autoImplicit false

/-! Lines of a console. Tabs lead to the next multiple of eight cells. Text that is too wide goes on
in further lines, which begin with a word; a word that is too wide for a line is broken or cut. A
line can be brought to a width of cells. A style that cannot be read keeps a line from being shown;
around no text it is forgotten as soon as the line is divided. -/

namespace TaskGraph.Console

structure Glyph where
  char : Char
  flawed : Bool

structure Line where
  glyphs : List Glyph
  hollow : List Nat

def Span.isFlawed (span : Span) : Bool :=
  match Style.ofName span.style with
  | .error .unreadable => true
  | _ => false

namespace Line

def chars (line : Line) : List Char := line.glyphs.map (·.char)

def isFlawed (line : Line) : Bool := line.glyphs.any (·.flawed) || !line.hollow.isEmpty

def ofShown (shown : Shown) : Line :=
  let flaws := shown.spans.filter Span.isFlawed
  { glyphs := shown.text.zipIdx.map fun (c, place) =>
      ⟨c, flaws.any fun span => span.start ≤ place && place < span.stop⟩
    hollow := (flaws.filter fun span => span.stop ≤ span.start).map (·.start) }

def ofText (text : List Char) : Line := ⟨text.map (⟨·, false⟩), []⟩

def rewrite : List Glyph → List Char → List Glyph
  | _, [] => []
  | [], c :: rest => ⟨c, false⟩ :: rewrite [] rest
  | glyph :: glyphs, c :: rest => ⟨c, glyph.flawed⟩ :: rewrite glyphs rest

/-- A line with other characters. What stood behind the end of a shorter one is gone. -/
def withChars (line : Line) (chars : List Char) : Line :=
  { glyphs := rewrite line.glyphs chars
    hollow := if chars.length < line.glyphs.length then line.hollow.filter (· < chars.length)
      else line.hollow }

def portions (gap : Nat) : List (List Char) → List Glyph → List (List Glyph)
  | [], _ => []
  | piece :: rest, glyphs =>
      glyphs.take piece.length :: portions gap rest (glyphs.drop (piece.length + gap))

def divide (gap : Nat) (pieces : List (List Char)) (line : Line) : List Line :=
  match pieces with
  | [_] => [line]
  | pieces => (portions gap pieces line.glyphs).map (⟨·, []⟩)

end Line

/-- A row of glyphs with its tabs replaced by blanks; the number is the cell at which it begins. -/
def expandGlyphs (column : Nat) : List Glyph → List Glyph
  | [] => []
  | glyph :: rest =>
      if glyph.char = '\t' then
        let width := 8 - column % 8
        List.replicate width ⟨' ', glyph.flawed⟩ ++ expandGlyphs (column + width) rest
      else glyph :: expandGlyphs (column + Text.charCells glyph.char) rest

def Line.expandTabs (line : Line) : Line :=
  if line.chars.contains '\t' then ⟨expandGlyphs 0 line.glyphs, []⟩ else line

def linesOf (text : Line) : List Line :=
  (text.divide 1 (Text.splitAt '\n' text.chars)).map Line.expandTabs

def blanks (count : Nat) : List Char := List.replicate count ' '

/-! ### Cutting -/

def startCells (text : List Char) : Array Nat :=
  text.foldl (fun sums c => sums.push (sums.back?.getD 0 + Text.charCells c)) #[0]

/-- How many characters of a text fill a width, and whether a wide character does not fit in. The
place is looked for by halving, which decides which of several such starts is taken. The number
bounds the steps. -/
def fittingLength (sums : Array Nat) (width : Nat) : Nat → Nat → Nat → Nat × Bool
  | 0, first, _ => (first, false)
  | steps + 1, first, last =>
      let place := (first + last) / 2
      let size := sums.getD (place + 1) 0
      if size = width + 1 && sums.getD place 0 + 2 = size then (place, true)
      else if size = width then (place + 1, false)
      else if width < size then fittingLength sums width steps first place
      else fittingLength sums width steps place last

/-- The start of a text that fills a width exactly. A text that
does not fill it is followed by blanks. -/
def fillCells (width : Nat) (text : List Char) : List Char :=
  let size := Text.cells text
  if width = 0 then []
  else if size ≤ width then text ++ blanks (width - size)
  else
    let (count, isShort) := fittingLength (startCells text) width text.length 0 text.length
    text.take count ++ if isShort then [' '] else []

/-- What becomes of a line that is too wide: the rest is left
out, with a mark in its place or without. -/
inductive Overflow where
  | fold
  | ellipsis
deriving DecidableEq

def Line.cut (overflow : Overflow) (width : Nat) (line : Line) : Line :=
  if Text.cells line.chars ≤ width then line
  else match overflow with
    | .fold => line.withChars (fillCells width line.chars)
    | .ellipsis => line.withChars (fillCells (width - 1) line.chars ++ ['…'])

def Line.dropOverhang (width : Nat) (line : Line) : Line :=
  let text := line.chars
  let trailing := (text.reverse.takeWhile Text.isSpace).length
  line.withChars (text.take (text.length - min trailing (text.length - width)))

/-! ### Wrapping -/

/-- The words of a line, each with the spaces behind it; the first one also
has those before it. A line of spaces has none. -/
def wordsOf (line : List Char) : List (List Char) :=
  let rec go (word : List Char) (inSpace hasLetters : Bool) : List Char → List (List Char)
    | [] => if hasLetters then [word.reverse] else []
    | c :: rest =>
        if Text.isSpace c then go (c :: word) true hasLetters rest
        else if inSpace && hasLetters then word.reverse :: go [c] false true rest
        else go (c :: word) false true rest
  go [] false false line

def foldWord (width : Nat) (word : List Char) : List (List Char) :=
  let rec go (piece : List Char) (size : Nat) : List Char → List (List Char)
    | [] => [piece.reverse]
    | c :: rest =>
        let more := Text.charCells c
        if width < size + more then piece.reverse :: go [c] more rest
          else go (c :: piece) (size + more) rest
  go [] 0 word

/-- The lines into which the words of a line go. `here` is what the line being made holds, its last
word first, and `size` its cells. -/
def fillLines (overflow : Overflow) (width : Nat) (here : List (List Char)) (size : Nat) :
    List (List Char) → List (List Char)
  | [] => [here.reverse.flatten]
  | word :: rest =>
      let needed := Text.cells (Text.trimSpaceRight word)
      if size + needed ≤ width then fillLines overflow width (word :: here)
        (size + Text.cells word) rest
      else
        let before := if here.isEmpty then [] else [here.reverse.flatten]
        if width < needed && overflow = .fold then
          let folded := foldWord width word
          -- A line does not end before its first character, even if that is too wide.
          let pieces := if here.isEmpty then folded.dropWhile List.isEmpty else folded
          let last := pieces.getLast?.getD []
          before ++ pieces.dropLast ++ fillLines overflow width [last] (Text.cells last) rest
        else before ++ fillLines overflow width [word] (Text.cells word) rest

def wrappedPieces (overflow : Overflow) (width : Nat) (line : List Char) : List (List Char) :=
  if Text.cells line ≤ width then [line]
  else match wordsOf line with
    | [] => [line]
    | words => fillLines overflow width [] 0 words

def wrappedLines (overflow : Overflow) (width : Nat) (text : Line) : List Line :=
  (linesOf text).flatMap fun line =>
    (line.divide 0 (wrappedPieces overflow width line.chars)).map (Line.dropOverhang width)

def printMarkup (width : Nat) (markup : List Char) : Except MarkupError (List Char) :=
  match showMarkup markup with
  | .error cause => .error cause
  | .ok shown =>
      let lines := (wrappedLines .fold width (Line.ofShown shown)).map (Line.cut .fold width)
      if lines.any Line.isFlawed then .error .badColor
      else .ok (Text.joinWith ['\n'] (lines.map Line.chars) ++ ['\n'])

/-! ### Aligning -/

inductive Alignment where
  | left
  | center
  | right
deriving DecidableEq

def Line.align (alignment : Alignment) (overflow : Overflow) (width : Nat) (line : Line) : Line :=
  let line := match alignment with
    | .left => line.cut overflow width
    | _ => (line.withChars (Text.trimSpaceRight line.chars)).cut overflow width
  let room := width - Text.cells line.chars
  let blanks (count : Nat) : List Glyph := List.replicate count ⟨' ', false⟩
  match alignment with
  | .left => { line with glyphs := line.glyphs ++ blanks room }
  | .right => { line with glyphs := blanks room ++ line.glyphs }
  | .center => { line with glyphs := blanks (room / 2) ++ line.glyphs ++ blanks (room - room / 2) }

end TaskGraph.Console
