import TaskGraph.Number.Decimal
import TaskGraph.Number.Hexadecimal
import TaskGraph.Text.CharacterName
import TaskGraph.Text.Lines
import TaskGraph.Text.WordClass
set_option autoImplicit false

/-! Literals that a tag can carry as an argument: numbers, texts, bytes, the words for truth and
nothing, an ellipsis, and tuples, lists, sets and mappings of literals. Only whether a text is a
literal matters, not what it means, apart from two things: a sum is a literal if it adds an
imaginary number to a real one, and members of sets and keys must be values that never change. -/

namespace TaskGraph.Console.Literal

inductive Kind where
  | number (imaginary : Bool)
  | signed (imaginary : Bool)
  | other (fixed : Bool)
deriving DecidableEq

def Kind.isFixed : Kind → Bool
  | other fixed => fixed
  | _ => true

def Kind.withSign? : Kind → Option Kind
  | number imaginary => some (signed imaginary)
  | _ => none

def Kind.sum? : Kind → Kind → Option Kind
  | number false, number true => some (other true)
  | signed false, number true => some (other true)
  | _, _ => none

/-! ### Blanks -/

/-- The text behind blanks. Between brackets, line ends and comments are blanks too; `inComment`
says whether the text begins in one. -/
def dropBlanksFrom (bracketed inComment : Bool) : List Char → List Char
  | [] => []
  | '\\' :: '\n' :: rest => dropBlanksFrom bracketed false rest
  | c :: rest =>
      if inComment then dropBlanksFrom bracketed (c ≠ '\n') rest
      else if c = ' ' || c = '\t' || c = '\x0c' || (bracketed && c = '\n') then
        dropBlanksFrom bracketed false rest
      else if bracketed && c = '#' then dropBlanksFrom bracketed true rest
      else c :: rest

def dropBlanks (bracketed : Bool) (text : List Char) : List Char :=
  dropBlanksFrom bracketed false text

/-! ### Numbers -/

def isDigitRow (isDigit : Char → Bool) : List Char → Bool
  | [] => false
  | [c] => isDigit c
  | c :: '_' :: rest => isDigit c && isDigitRow isDigit rest
  | c :: rest => isDigit c && isDigitRow isDigit rest

/-- Whether a row of decimal digits is an integer: a zero in front stands for itself only. -/
def isWholeRow (row : List Char) : Bool :=
  isDigitRow Char.isDigit row && (row.head? ≠ some '0' || row.all fun c => c = '0' || c = '_') &&
    decide ((row.filter (· ≠ '_')).length ≤ mostDigits)

def digitRow (text : List Char) : List Char × List Char :=
  let inRow (c : Char) : Bool := c.isDigit || c = '_'
  (text.takeWhile inRow, text.dropWhile inRow)

def dropExponent (text : List Char) : Bool × List Char :=
  match text with
  | [] => (false, [])
  | c :: rest =>
      if c ≠ 'e' && c ≠ 'E' then (false, text)
      else
        let unsigned := match rest with
          | '+' :: rest => rest
          | '-' :: rest => rest
          | rest => rest
        let (row, behind) := digitRow unsigned
        if isDigitRow Char.isDigit row then (true, behind) else (false, text)

def decimal? (row rest : List Char) : Option (Kind × List Char) :=
  let (pointed, fraction, rest) := match rest with
    | '.' :: rest =>
        let (fraction, rest) := digitRow rest
        (true, fraction, rest)
    | rest => (false, [], rest)
  let (powered, rest) := dropExponent rest
  let wellFormed := (row.isEmpty || isDigitRow Char.isDigit row) &&
    (fraction.isEmpty || isDigitRow Char.isDigit fraction) && !(row.isEmpty && fraction.isEmpty)
  if !wellFormed then none
  else match rest with
    | 'j' :: rest => some (.number true, rest)
    | 'J' :: rest => some (.number true, rest)
    | rest => if pointed || powered || isWholeRow row then some (.number false, rest) else none

def digitsOf? (letter : Char) : Option (Char → Bool) :=
  match letter with
  | 'x' | 'X' => some fun c => (hexValue? c).isSome
  | 'o' | 'O' => some fun c => '0' ≤ c && c ≤ '7'
  | 'b' | 'B' => some fun c => c = '0' || c = '1'
  | _ => none

def based? (letter : Char) (text : List Char) : Option (Kind × List Char) :=
  let inRow (c : Char) : Bool := c.isAlphanum || c = '_'
  let row := text.takeWhile inRow
  let digits := if row.head? = some '_' then row.drop 1 else row
  (digitsOf? letter).bind fun isDigit =>
    if isDigitRow isDigit digits then some (.number false, text.dropWhile inRow) else none

def number? (text : List Char) : Option (Kind × List Char) :=
  let found : Option (Kind × List Char) := match text with
    | '0' :: letter :: rest =>
        if (digitsOf? letter).isSome then based? letter rest
          else decimal? (digitRow text).1 (digitRow text).2
    | text => decimal? (digitRow text).1 (digitRow text).2
  found.filter fun (_, rest) => !rest.head?.any Text.isWordChar

/-! ### Texts and bytes -/

def dropCode? (count limit : Nat) (text : List Char) : Option (List Char) :=
  if text.length < count then none
  else match hexNumber? (text.take count) with
    | some code => if code ≤ limit then some (text.drop count) else none
    | none => none

def dropEscape? (isBytes : Bool) : List Char → Option (List Char)
  | [] => none
  | c :: rest =>
      if c = 'x' then dropCode? 2 0xff rest
      else if isBytes then some rest
      else if c = 'u' then dropCode? 4 0xffff rest
      else if c = 'U' then dropCode? 8 0x10ffff rest
      else if c = 'N' then
        match rest with
        | '{' :: rest =>
            if rest.contains '}' && (Text.characterNamed? (rest.takeWhile (· ≠ '}'))).isSome then
              some ((rest.dropWhile (· ≠ '}')).drop 1)
            else none
        | _ => none
      else some rest

/-- How a text is written: whether it stands for bytes, whether
backslashes have no meaning, and what ends it. -/
structure Quotation where
  isBytes : Bool
  isRaw : Bool
  quote : Char
  isLong : Bool

/-- The text behind the end of a quotation. The number bounds the length. -/
def closeQuote? (quotation : Quotation) : Nat → List Char → Option (List Char)
  | 0, _ => none
  | _ + 1, [] => none
  | steps + 1, c :: rest =>
      if c = '\\' then
        if quotation.isBytes && rest.head?.any fun d => 0x80 ≤ d.toNat then none
        else if quotation.isRaw then (rest.tail?).bind (closeQuote? quotation steps)
        else (dropEscape? quotation.isBytes rest).bind (closeQuote? quotation steps)
      else if c = quotation.quote && !quotation.isLong then some rest
      else if c = quotation.quote && rest.take 2 = [c, c] then some (rest.drop 2)
      else if (c = '\n' && !quotation.isLong) || (quotation.isBytes && 0x80 ≤ c.toNat) then none
      else closeQuote? quotation steps rest

/-- The letters before a quotation, if they can stand there:
whether it is bytes, and whether it is raw. -/
def openingOf? (letters : List Char) : Option (Bool × Bool) :=
  match letters.map Char.toLower with
  | [] => some (false, false)
  | ['u'] => some (false, false)
  | ['r'] => some (false, true)
  | ['b'] => some (true, false)
  | ['b', 'r'] => some (true, true)
  | ['r', 'b'] => some (true, true)
  | _ => none

def quotation? (text : List Char) : Option (Bool × List Char) :=
  match openingOf? (text.takeWhile Char.isAlpha), text.dropWhile Char.isAlpha with
  | some (isBytes, isRaw), quote :: rest =>
      if quote ≠ '\'' && quote ≠ '"' then none
      else
        let isLong := rest.take 2 = [quote, quote]
        let content := if isLong then rest.drop 2 else rest
        (closeQuote? ⟨isBytes, isRaw, quote, isLong⟩ (content.length + 1) content).map fun rest =>
          (isBytes, rest)
  | _, _ => none

def opensQuotation (text : List Char) : Bool :=
  (text.dropWhile Char.isAlpha).head?.any fun c => c = '\'' || c = '"'

/-- The text behind quotations of one sort that stand side by side.
The number bounds how many there can be. -/
def quotations? (bracketed isBytes : Bool) : Nat → List Char → Option (List Char)
  | 0, text => some text
  | steps + 1, text => match dropBlanks bracketed text with
      | c :: rest =>
          if opensQuotation (c :: rest) then
            match quotation? (c :: rest) with
            | some (other, rest) =>
                if other = isBytes then quotations? bracketed isBytes steps rest else none
            | none => none
          else some text
      | [] => some text

/-! ### Literals -/

def words : List (List Char) := ["True".toList, "False".toList, "None".toList]

def simple? (bracketed : Bool) (text : List Char) : Option (Kind × List Char) :=
  match text with
  | '.' :: '.' :: '.' :: rest => some (.other true, rest)
  | text =>
      let word := text.takeWhile Text.isWordChar
      if opensQuotation text then
        (quotation? text).bind fun (isBytes, rest) =>
          (quotations? bracketed isBytes rest.length rest).map fun rest => (.other true, rest)
      else if words.contains word then some (.other true, text.drop word.length)
      else number? text

mutual

/-- A literal that is no sum and no tuple without brackets, and the text behind it and the blanks
after it. The number bounds the depth and the length. -/
def operand? (bracketed : Bool) : Nat → List Char → Option (Kind × List Char)
  | 0, _ => none
  | steps + 1, text => match dropBlanks bracketed text with
      | '+' :: rest => signed? bracketed steps rest
      | '-' :: rest => signed? bracketed steps rest
      | '(' :: rest =>
          (inRound? steps rest).map fun (kind, rest) => (kind, dropBlanks bracketed rest)
      | '[' :: rest =>
          (members? ']' steps (dropBlanks true rest)).map fun (_, rest) =>
            (.other false, dropBlanks bracketed rest)
      | '{' :: rest =>
          (inCurly? steps (dropBlanks true rest)).map fun rest =>
            (.other false, dropBlanks bracketed rest)
      | 's' :: 'e' :: 't' :: rest => match dropBlanks bracketed rest with
          | '(' :: rest => match dropBlanks true rest with
              | ')' :: rest => some (.other false, dropBlanks bracketed rest)
              | _ => none
          | _ => none
      | rest => (simple? bracketed rest).map fun (kind, rest) => (kind, dropBlanks bracketed rest)

def signed? (bracketed : Bool) : Nat → List Char → Option (Kind × List Char)
  | 0, _ => none
  | steps + 1, text =>
      (operand? bracketed steps text).bind fun (kind, rest) => kind.withSign?.map fun kind =>
        (kind, rest)

def literal? (bracketed : Bool) : Nat → List Char → Option (Kind × List Char)
  | 0, _ => none
  | steps + 1, text => (operand? bracketed steps text).bind fun (left, rest) =>
      match rest with
      | sign :: more =>
          if sign = '+' || sign = '-' then
            (operand? bracketed steps more).bind fun (right, rest) =>
              (left.sum? right).bind fun kind => match rest with
                | '+' :: _ => none
                | '-' :: _ => none
                | rest => some (kind, rest)
          else some (left, rest)
      | [] => some (left, [])

def members? (closing : Char) : Nat → List Char → Option (Bool × List Char)
  | 0, _ => none
  | steps + 1, text =>
      if text.head? = some closing then some (true, text.drop 1)
      else (literal? true steps text).bind fun (kind, rest) => match rest with
        | ',' :: rest =>
            (members? closing steps (dropBlanks true rest)).map fun (fixed, rest) =>
              (kind.isFixed && fixed, rest)
        | c :: rest => if c = closing then some (kind.isFixed, rest) else none
        | [] => none

/-- What stands behind an opening round bracket: a literal
alone is itself, and others make a tuple. -/
def inRound? : Nat → List Char → Option (Kind × List Char)
  | 0, _ => none
  | steps + 1, text => match dropBlanks true text with
      | ')' :: rest => some (.other true, rest)
      | text => (literal? true steps text).bind fun (kind, rest) => match rest with
          | ')' :: rest => some (kind, rest)
          | ',' :: rest =>
              (members? ')' steps (dropBlanks true rest)).map fun (fixed, rest) =>
                (.other (kind.isFixed && fixed), rest)
          | _ => none

def inCurly? : Nat → List Char → Option (List Char)
  | 0, _ => none
  | steps + 1, text => match text with
      | '}' :: rest => some rest
      | text => (literal? true steps text).bind fun (kind, rest) =>
          if !kind.isFixed then none
          else match rest with
            | '}' :: rest => some rest
            | ',' :: rest =>
                (members? '}' steps (dropBlanks true rest)).bind fun (fixed, rest) =>
                  if fixed then some rest else none
            | ':' :: rest => (literal? true steps rest).bind fun (_, rest) => entries? steps rest
            | _ => none

def entries? : Nat → List Char → Option (List Char)
  | 0, _ => none
  | steps + 1, text => match text with
      | '}' :: rest => some rest
      | ',' :: rest => match dropBlanks true rest with
          | '}' :: rest => some rest
          | text =>
              (literal? true steps text).bind fun (kind, rest) => match kind.isFixed, rest with
              | true, ':' :: rest =>
                  (literal? true steps rest).bind fun (_, rest) => entries? steps rest
              | _, _ => none
      | _ => none

end

/-- The literals of a tuple without brackets, behind a comma.
The number bounds how many there can be. -/
def moreMembers? : Nat → List Char → Option (List Char)
  | 0, _ => none
  | steps + 1, text => match dropBlanks false text with
      | [] => some []
      | '\n' :: rest => some ('\n' :: rest)
      | '#' :: rest => some ('#' :: rest)
      | text => (literal? false (3 * text.length + 3) text).bind fun (_, rest) => match rest with
          | ',' :: rest => moreMembers? steps rest
          | rest => some rest

/-- A text without the comments in front of its first line that is none;
`inComment` says whether the text begins in one. -/
def dropCommentLines (inComment : Bool) : List Char → List Char
  | [] => []
  | c :: rest =>
      if c = '\n' then dropCommentLines false rest
      else if inComment || c = '#' then dropCommentLines true rest
      else c :: rest

def isLiteral (text : List Char) : Bool :=
  let text := dropCommentLines false
    (Text.unifyLineEnds (text.dropWhile fun c => c = ' ' || c = '\t'))
  if text.contains '\x00' then false
  else match literal? false (3 * text.length + 3) text with
    | none => false
    | some (_, rest) =>
        let behind := match rest with
          | ',' :: rest => moreMembers? (rest.length + 1) rest
          | rest => some rest
        match behind with
        | some rest => (dropBlanks true rest).isEmpty
        | none => false

/-- Whether a handler can be called with an argument: a name, a name
with literals in round brackets, or a literal. -/
def isArgument (text : List Char) : Bool :=
  let isNamePart (c : Char) : Bool := Text.isWordChar c || c = '.'
  match text.dropWhile isNamePart with
  | [] => true
  | '(' :: rest =>
      if rest.getLast? = some ')' && !rest.contains '\n' then isLiteral ('(' :: rest)
        else isLiteral text
  | _ => isLiteral text

end TaskGraph.Console.Literal
