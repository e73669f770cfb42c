import TaskGraph.Yaml.Lexeme
set_option autoImplicit false

/-! The texts of scalars: plain ones, which may go on over lines further in; quoted ones; and
blocks, whose lines are kept or folded. -/

namespace TaskGraph.Yaml

/-! ### Quoted scalars -/

def shortEscape? (c : Char) : Option Char :=
  match c with
  | '0' => some '\x00'
  | 'a' => some '\x07'
  | 'b' => some '\x08'
  | 't' => some '\t'
  | '\t' => some '\t'
  | 'n' => some '\n'
  | 'v' => some '\x0b'
  | 'f' => some '\x0c'
  | 'r' => some '\r'
  | 'e' => some '\x1b'
  | ' ' => some ' '
  | '"' => some '"'
  | '\\' => some '\\'
  | '/' => some '/'
  | 'N' => some '\x85'
  | '_' => some '\u00a0'
  | 'L' => some '\u2028'
  | 'P' => some '\u2029'
  | _ => none

def escapeWidth? (c : Char) : Option Nat :=
  if c = 'x' then some 2 else if c = 'u' then some 4 else if c = 'U' then some 8 else none

/-- Reads the breaks after a line of a quoted scalar, with the blanks that begin the lines. -/
def quotedBreaks : Nat → Cursor → Lexed (List Char)
  | 0, place => .ok ([], place)
  | steps + 1, place =>
      if place.atMarker then .error (.malformed "a document marker in a quoted scalar")
      else
        let place := place.skipWhile fun c => c = ' ' || c = '\t'
        match place.lineBreak? with
        | some (break_, after) =>
            (quotedBreaks steps after).map fun (more, last) => (break_ :: more, last)
        | none => .ok ([], place)

/-- Reads the blanks within a quoted scalar; a break between lines
counts as a space, further ones as they are. -/
def quotedBlanks (place : Cursor) : Lexed (List Char) :=
  let (blanks, after) := place.takeWhile fun c => c = ' ' || c = '\t'
  match after.peek with
  | none => .error (.malformed "a quoted scalar without end")
  | some _ =>
      match after.lineBreak? with
      | none => .ok (blanks, after)
      | some (break_, after) =>
          (quotedBreaks after.size after).map fun (breaks, last) =>
            (if break_ ≠ '\n' then break_ :: breaks else if breaks.isEmpty then [' ']
              else breaks, last)

/-- Reads the escape that begins here with a backslash. Escapes for the two
halves of a character do not make the character. -/
def quotedEscape (place : Cursor) : Lexed (List Char) :=
  let place := place.next
  match place.peek with
  | none => .error (.malformed "an escape without a character")
  | some c =>
      match shortEscape? c, escapeWidth? c with
      | some meant, _ => .ok ([meant], place.next)
      | none, some width =>
          let digits := (place.rest.drop 1).take width
          match hexNumber? digits with
          | none => .error (.malformed "an escape needs hexadecimal digits")
          | some code =>
              if digits.length < width then .error (.malformed "an escape needs more digits")
              else if 0x80000000 ≤ code then .error (.tooLarge (String.ofList digits))
              else if 0x110000 ≤ code then .error (.impossible (String.ofList digits))
              else if 0xd800 ≤ code && code < 0xe000 then
                .error (.beyond "an escape for half a character")
              else .ok ([Char.ofNat code], place.skip (width + 1))
      | none, none =>
          match place.lineBreak? with
          | some (_, after) => quotedBreaks after.size after
          | none => .error (.malformed "an unknown escape")

def quotedText (double : Bool) : Nat → Cursor → Lexed (List Char)
  | 0, _ => .error (.malformed "a quoted scalar without end")
  | steps + 1, place =>
      let read : Lexed (List Char) := match place.peek with
        | none => .error (.malformed "a quoted scalar without end")
        | some c =>
            if double && c = '\\' then quotedEscape place
            else if c = ' ' || c = '\t' || isBreak c then quotedBlanks place
            else if !double && c = '\'' && place.peekAt 1 == some '\'' then
              .ok (['\''], place.skip 2)
            else .ok ([c], place.next)
      if place.peek == some (if double then '"' else '\'') &&
        !(!double && place.peekAt 1 == some '\'') then
        .ok ([], place.next)
      else match read with
        | .error cause => .error cause
        | .ok (content, after) =>
            (quotedText double steps after).map fun (more, last) => (content ++ more, last)

def quotedScalar (double : Bool) (place : Cursor) : Lexed (List Char) :=
  quotedText double (place.size + 1) place.next

/-! ### Plain scalars -/

def endsPlain (inFlow : Bool) (c : Char) (after : Option Char) : Bool :=
  atBlank (some c) ||
    (c = ':' && (atBlank after || (inFlow && (match after with
      | some d => ",[]\x7b\x7d".toList.contains d
      | none => false)))) ||
    (inFlow && ",?[]\x7b\x7d".toList.contains c)

def plainLength (inFlow : Bool) : List Char → Nat
  | [] => 0
  | c :: rest => if endsPlain inFlow c rest.head? then 0 else plainLength inFlow rest + 1

/-- The spaces after a piece of a plain scalar. `broken` says whether a line ended among them;
nothing goes on after a document marker. -/
structure PlainGap where
  content : List Char
  broken : Bool
  place : Cursor

/-- Reads the further breaks in a plain scalar, with the spaces
among them, up to a document marker. -/
def plainBreaks : Nat → Cursor → Option (List Char × Cursor) × Cursor
  | 0, place => (some ([], place), place)
  | steps + 1, place =>
      if place.peek == some ' ' then plainBreaks steps place.next
      else match place.lineBreak? with
        | none => (some ([], place), place)
        | some (break_, after) =>
            if after.atMarker then (none, after)
            else match plainBreaks steps after with
              | (some (more, last), place) => (some (break_ :: more, last), place)
              | stopped => stopped

def plainGap (place : Cursor) : PlainGap :=
  let (spaces, after) := place.takeWhile (· = ' ')
  match after.lineBreak? with
  | none => ⟨spaces, false, after⟩
  | some (break_, after) =>
      if after.atMarker then ⟨[], true, after⟩
      else match plainBreaks after.size after with
        | (none, stopped) => ⟨[], true, stopped⟩
        | (some (breaks, last), _) =>
            ⟨if break_ ≠ '\n' then break_ :: breaks else if breaks.isEmpty then [' ']
              else breaks, true, last⟩

/-- A plain scalar: its text, whether it goes over the end of a line, and the place after it. -/
structure PlainScalar where
  content : List Char
  broken : Bool
  place : Cursor

/-- Reads a plain scalar whose further lines must stand at least at a column. `gap` is what stands
between the text so far and this place. -/
def plainText (inFlow : Bool) (indent : Int) : Nat → List Char → Cursor → PlainScalar
  | 0, _, place => ⟨[], false, place⟩
  | steps + 1, gap, place =>
      let length := plainLength inFlow place.rest
      if place.peek == some '#' || length = 0 then ⟨[], false, place⟩
      else
        let piece := place.rest.take length
        let after := plainGap (place.skip length)
        if after.content.isEmpty || after.place.peek == some '#' ||
            (!inFlow && (after.place.column : Int) < indent) then
          ⟨gap ++ piece, after.broken, after.place⟩
        else
          let more := plainText inFlow indent steps after.content after.place
          let broken := if more.content.isEmpty then after.broken else more.broken
          ⟨gap ++ piece ++ more.content, broken, more.place⟩

/-! ### Block scalars -/

inductive Chomp where
  | clip
  | strip
  | keep
deriving DecidableEq

/-- Reads the indicators of a block: what becomes of its end,
and its indentation if that is given. -/
def blockHeader (place : Cursor) : Lexed (Chomp × Option Nat) :=
  let chompOf : Option Char → Option Chomp
    | some '+' => some .keep
    | some '-' => some .strip
    | _ => none
  let digitOf : Option Char → Option Nat
    | some c => if c.isDigit then some (c.toNat - '0'.toNat) else none
    | none => none
  let (chomp, width, after) : Chomp × Option Nat × Cursor :=
    match chompOf place.peek, digitOf place.peek with
    | some chomp, _ => match digitOf place.next.peek with
        | some width => (chomp, some width, place.skip 2)
        | none => (chomp, none, place.next)
    | none, some width => match chompOf place.next.peek with
        | some chomp => (chomp, some width, place.skip 2)
        | none => (.clip, some width, place.next)
    | none, none => (.clip, none, place)
  if width = some 0 then .error (.malformed "a block cannot be indented by zero")
  else if atSpace after.peek then .ok ((chomp, width), after)
  else .error (.malformed "a block header goes on")

/-- Reads the empty lines at the start of a block: their breaks and
the greatest column that their spaces reach. -/
def blockIndentation : Nat → Nat → Cursor → List Char × Nat × Cursor
  | 0, widest, place => ([], widest, place)
  | steps + 1, widest, place =>
      if place.peek == some ' ' then
        blockIndentation steps (max widest place.next.column) place.next
      else match place.lineBreak? with
        | none => ([], widest, place)
        | some (break_, after) =>
            let (more, widest, last) := blockIndentation steps widest after
            (break_ :: more, widest, last)

def skipIndent (column : Nat) (place : Cursor) : Cursor :=
  let spaces := (place.rest.takeWhile (· = ' ')).length
  place.skip (min spaces (column - place.column))

def blockBreaks (column : Nat) : Nat → Cursor → List Char × Cursor
  | 0, place => ([], place)
  | steps + 1, place =>
      let place := skipIndent column place
      match place.lineBreak? with
      | none => ([], place)
      | some (break_, after) =>
          let (more, last) := blockBreaks column steps after
          (break_ :: more, last)

def beginsBlank (place : Cursor) : Bool := place.peek == some ' ' || place.peek == some '\t'

/-- Reads the lines of a block at a column. `breaks` are the empty lines before this place. Between
two lines that do not begin with a blank a folded block has a space in place of the break. -/
def blockLines (folded : Bool) (chomp : Chomp) (column : Nat) :
    Nat → List Char → List Char → Cursor → List Char × Cursor
  | 0, _, _, place => ([], place)
  | steps + 1, ending, breaks, place =>
      if place.column = column && place.peek.isSome then
        let (line, after) := place.takeWhile fun c => !isBreak c
        let (ended, after) := match after.lineBreak? with
          | some (break_, after) => ([break_], after)
          | none => ([], after)
        let (empties, next) := blockBreaks column after.size after
        let joint :=
          if next.column = column && next.peek.isSome then
            if folded && ended = ['\n'] && !beginsBlank place && !beginsBlank next then
              (if empties.isEmpty then [' '] else [])
            else ended
          else []
        let (more, last) := blockLines folded chomp column steps ended empties next
        (breaks ++ line ++ joint ++ more, last)
      else
        let tail := match chomp with
          | .strip => []
          | .clip => ending
          | .keep => ending ++ breaks
        (tail, place)

def blockScalar (folded : Bool) (indent : Int) (place : Cursor) : Lexed (List Char) :=
  match blockHeader place.next with
  | .error cause => .error cause
  | .ok ((chomp, width), after) =>
      match directiveEnd after with
      | .error cause => .error cause
      | .ok first =>
          let least := max 1 (indent + 1).toNat
          let (breaks, column, next) := match width with
            | some width =>
                let column := least + width - 1
                let (breaks, next) := blockBreaks column first.size first
                (breaks, column, next)
            | none =>
                let (breaks, widest, next) := blockIndentation first.size 0 first
                (breaks, max least widest, next)
          .ok (blockLines folded chomp column (next.size + 1) [] breaks next)

end TaskGraph.Yaml
