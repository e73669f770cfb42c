import TaskGraph.Number.Hexadecimal
import TaskGraph.Pattern.Match
import TaskGraph.Text.CharacterName
import TaskGraph.Text.Identifier
import TaskGraph.Text.Integer
set_option autoImplicit false

/-! Reading the text of a pattern: characters, sets, groups, alternatives, repetitions, anchors,
tests of what stands around a place, and references to groups. Flags at the very start hold for the
whole pattern, others for their group. -/

namespace TaskGraph.Pattern

inductive Fault where
  | malformed
  | tooOften
  | numberTooLong
  | conflictingFlags
deriving DecidableEq

/-- How the characters of a pattern are meant: in any case, the point for line feeds too, the
anchors at lines too, blanks and comments left out, and the classes in ASCII only. -/
structure Mode where
  anyCase : Bool
  everyChar : Bool
  byLine : Bool
  spaced : Bool
  asciiOnly : Bool

def Mode.folding (mode : Mode) : Folding :=
  if !mode.anyCase then .exact else if mode.asciiOnly then .ascii else .all

/-- What is known of the groups of a pattern while it is read: how many have begun, the widths of
those that have ended, their names, how many had begun before the outermost look behind, and the
greatest number that a condition asks for. A look behind of no fixed width is `uneven`. -/
structure Groups where
  count : Nat
  closed : List (Nat × Width)
  names : List (List Char × Nat)
  outside : Option Nat
  asked : Nat
  uneven : Bool

def Groups.width (groups : Groups) (number : Nat) : Width :=
  (groups.closed.lookup number).getD .none

/-- Whether a group can be referred to: it has ended, and before
the look behind that the reference is in. -/
def Groups.canRefer (groups : Groups) (number : Nat) : Bool :=
  (groups.closed.lookup number).isSome && match groups.outside with
    | some count => decide (number ≤ count)
    | none => true

abbrev Read (α : Type) := Except Fault (α × List Char)

/-! ### Escapes -/

def classOf? (mode : Mode) (c : Char) : Option SetItem :=
  match c with
  | 'd' => some (.kind .digit false mode.asciiOnly)
  | 'D' => some (.kind .digit true mode.asciiOnly)
  | 's' => some (.kind .blank false mode.asciiOnly)
  | 'S' => some (.kind .blank true mode.asciiOnly)
  | 'w' => some (.kind .word false mode.asciiOnly)
  | 'W' => some (.kind .word true mode.asciiOnly)
  | _ => none

def controlOf? (c : Char) : Option Nat :=
  match c with
  | 'a' => some 7
  | 'f' => some 12
  | 'n' => some 10
  | 'r' => some 13
  | 't' => some 9
  | 'v' => some 11
  | _ => none

def hexCode (width : Nat) (text : List Char) : Read Nat :=
  let digits := text.take width
  match hexNumber? digits with
  | some code =>
      if digits.length < width || 0x10ffff < code then .error .malformed
        else .ok (code, text.drop width)
  | none => .error .malformed

def isOctal (c : Char) : Bool := '0' ≤ c && c ≤ '7'

def octalValue (digits : List Char) : Nat :=
  digits.foldl (fun n c => 8 * n + (c.toNat - '0'.toNat)) 0

def namedCode (text : List Char) : Read Nat :=
  match text with
  | '\x7b' :: rest =>
      match rest.dropWhile (· ≠ '\x7d') with
      | _ :: after => match Text.characterNamed? (rest.takeWhile (· ≠ '\x7d')) with
          | some code => .ok (code, after)
          | none => .error .malformed
      | [] => .error .malformed
  | _ => .error .malformed

def escapedCode : List Char → Read Nat
  | [] => .error .malformed
  | 'x' :: rest => hexCode 2 rest
  | 'u' :: rest => hexCode 4 rest
  | 'U' :: rest => hexCode 8 rest
  | 'N' :: rest => namedCode rest
  | c :: rest => match controlOf? c with
      | some code => .ok (code, rest)
      | none => if c.isAlphanum then .error .malformed else .ok (c.toNat, rest)

/-! ### Sets -/

def setItem (mode : Mode) : List Char → Read SetItem
  | [] => .error .malformed
  | '\\' :: 'b' :: rest => .ok (.code 8, rest)
  | '\\' :: c :: rest =>
      if isOctal c then
        let digits := c :: (rest.take 2).takeWhile isOctal
        if 0o377 < octalValue digits then .error .malformed
        else .ok (.code (octalValue digits), rest.drop (digits.length - 1))
      else match classOf? mode c with
        | some found => .ok (found, rest)
        | none => (escapedCode (c :: rest)).map fun (code, rest) => (.code code, rest)
  | c :: rest => .ok (.code c.toNat, rest)

def rangeOf : SetItem → SetItem → Except Fault SetItem
  | .code first, .code last => if first ≤ last then .ok (.range first last) else .error .malformed
  | _, _ => .error .malformed

/-- Reads the members of a set up to its bracket. The number bounds the steps. -/
def setItems (mode : Mode) : Nat → Bool → List Char → Read (List SetItem)
  | 0, _, _ => .error .malformed
  | steps + 1, first, text =>
      match text with
      | [] => .error .malformed
      | c :: rest =>
          if c = ']' && !first then .ok ([], rest)
          else match setItem mode (c :: rest) with
            | .error fault => .error fault
            | .ok (item, '-' :: ']' :: rest) => .ok ([item, .code '-'.toNat], rest)
            | .ok (item, '-' :: rest) =>
                match setItem mode rest with
                | .error fault => .error fault
                | .ok (last, rest) => match rangeOf item last with
                    | .error fault => .error fault
                    | .ok range =>
                        (setItems mode steps false rest).map fun (more, rest) =>
                          (range :: more, rest)
            | .ok (item, rest) =>
                (setItems mode steps false rest).map fun (more, rest) => (item :: more, rest)

def charSet (mode : Mode) (text : List Char) : Read CharSet :=
  let (negated, text) := match text with
    | '^' :: rest => (true, rest)
    | rest => (false, rest)
  (setItems mode (text.length + 1) true text).map fun (items, rest) =>
    (⟨negated, items.eraseDups⟩, rest)

/-! ### Pieces -/

/-- A piece of a pattern. A group without a mark of its own is a row of pieces. -/
inductive Piece where
  | single (pattern : Pattern)
  | row (pattern : Pattern) (items : List Pattern)

def inRow : List Pattern → Pattern
  | [] => .empty
  | [pattern] => pattern
  | pattern :: rest => .both pattern (inRow rest)

def Piece.patterns : Piece → List Pattern
  | single pattern => [pattern]
  | row _ items => items

def isSameTest : Pattern → Pattern → Bool
  | .one f s, .one g t => f = g && s = t
  | .anyChar s, .anyChar t => s = t
  | .place p, .place q => p = q
  | .again f m, .again g n => f = g && m = n
  | _, _ => false

def commonTest? : List (List Pattern) → Option Pattern
  | (first :: _) :: others =>
      if others.all fun row => match row with
        | other :: _ => isSameTest other first
        | [] => false
      then (if isSameTest first first then some first else none) else none
  | _ => none

/-- Splits off the tests that all rows begin with. The number bounds them. -/
def splitCommon : Nat → List (List Pattern) → List Pattern × List (List Pattern)
  | 0, rows => ([], rows)
  | steps + 1, rows => match commonTest? rows with
      | some test =>
          let (tests, rest) := splitCommon steps (rows.map (List.drop 1))
          (test :: tests, rest)
      | none => ([], rows)

def setOf? : List Pattern → Option (List SetItem)
  | [.one _ ⟨false, items⟩] => some items
  | _ => none

def oneOf : List (List Pattern) → Pattern
  | [] => .empty
  | [row] => inRow row
  | row :: rest => .either (inRow row) (oneOf rest)

/-- The row of patterns that alternatives come to. What they begin with in common is tested once,
and alternatives that are single characters are one set. -/
def alternatives (mode : Mode) (rows : List (List Pattern)) : List Pattern :=
  match rows with
  | [row] => row
  | rows =>
      let (tests, rest) := splitCommon (rows.flatMap id).length rows
      tests ++ [match rest.mapM setOf? with
        | some sets => .one mode.folding ⟨false, sets.flatten.eraseDups⟩
        | none => oneOf rest]

/-! ### Repetitions -/

structure Bounds where
  least : Nat
  most : Option Nat

def tooOften : Nat := 4294967295

def boundOf (digits : List Char) : Except Fault Nat :=
  if mostDigits < digits.length then .error .numberTooLong
  else if tooOften ≤ decimalValue digits then .error .tooOften
  else .ok (decimalValue digits)

/-- The bounds that the digits between braces give, the last of them if there is a comma. -/
def boundsOf (low : List Char) (high : Option (List Char)) : Except Fault Bounds :=
  let bound (digits : List Char) : Except Fault (Option Nat) :=
    if digits.isEmpty then .ok none else (boundOf digits).map some
  match bound low, bound (high.getD low) with
  | .error fault, _ => .error fault
  | _, .error fault => .error fault
  | .ok least, .ok most =>
      let least := least.getD 0
      if most.any (· < least) then .error .malformed else .ok ⟨least, most⟩

def braces? (text : List Char) : Option (Read Bounds) :=
  let low := text.takeWhile Char.isDigit
  let finish (high : Option (List Char)) (rest : List Char) : Read Bounds :=
    if rest = ['\\'] then .error .malformed
    else (boundsOf low high).map fun bounds => (bounds, rest)
  match text.dropWhile Char.isDigit with
  | '\x7d' :: rest => if low.isEmpty then none else some (finish none rest)
  | ',' :: tail => match tail.dropWhile Char.isDigit with
      | '\x7d' :: rest => some (finish (some (tail.takeWhile Char.isDigit)) rest)
      | _ => none
  | _ => none

def bounds? : List Char → Option (Read Bounds)
  | '*' :: rest => some (.ok (⟨0, none⟩, rest))
  | '+' :: rest => some (.ok (⟨1, none⟩, rest))
  | '?' :: rest => some (.ok (⟨0, some 1⟩, rest))
  | '\x7b' :: rest => braces? rest
  | _ => none

def mannerOf : List Char → Manner × List Char
  | '?' :: rest => (.lazy, rest)
  | '+' :: rest => (.possessive, rest)
  | text => (.greedy, text)

def repeatLast (manner : Manner) (bounds : Bounds) : List Piece → Except Fault (List Piece)
  | .single (.place _) :: _ => .error .malformed
  | .single (.times _ _ _ _) :: _ => .error .malformed
  | .single pattern :: rest =>
      .ok (.single (.times manner pattern bounds.least bounds.most) :: rest)
  | .row pattern _ :: rest => .ok (.single (.times manner pattern bounds.least bounds.most) :: rest)
  | [] => .error .malformed

/-! ### Flags -/

structure Flags where
  set : List Char
  cleared : List Char

def isFlag (c : Char) : Bool := ['i', 'm', 's', 'x', 'a', 't', 'u'].contains c

def choosesClasses (c : Char) : Bool := c = 'a' || c = 'u'

def clash (flags : List Char) : Bool := flags.contains 'a' && flags.contains 'u'

/-- Reads flags: those that hold for the whole pattern end with a bracket, those of a group with a
colon, behind a hyphen those that are cleared. -/
def readFlags (text : List Char) : Read Flags :=
  let set := text.takeWhile isFlag
  let rest := text.dropWhile isFlag
  if clash set then .error .malformed
  else match rest with
    | ')' :: _ => .ok (⟨set, []⟩, rest)
    | ':' :: _ => if set.contains 't' then .error .malformed else .ok (⟨set, []⟩, rest)
    | '-' :: tail =>
        let cleared := tail.takeWhile isFlag
        let wrong := set.contains 't' || cleared.isEmpty ||
          (cleared.any fun c => choosesClasses c || c = 't' || set.contains c)
        match tail.dropWhile isFlag with
        | ':' :: rest => if wrong then .error .malformed else .ok (⟨set, cleared⟩, ':' :: rest)
        | _ => .error .malformed
    | _ => .error .malformed

def Mode.apply (mode : Mode) (flags : Flags) : Mode :=
  let value (letter : Char) (before : Bool) : Bool :=
    (before || flags.set.contains letter) && !flags.cleared.contains letter
  { anyCase := value 'i' mode.anyCase
    everyChar := value 's' mode.everyChar
    byLine := value 'm' mode.byLine
    spaced := value 'x' mode.spaced
    asciiOnly := if flags.set.contains 'u' then false
      else mode.asciiOnly || flags.set.contains 'a' }

/-! ### Blanks and comments -/

def behindMark? (mark : Char) : List Char → Option (List Char)
  | [] => none
  | ['\\'] => none
  | '\\' :: _ :: rest => behindMark? mark rest
  | c :: rest => if c = mark then some rest else behindMark? mark rest

def endsOpen : List Char → Bool
  | [] => false
  | ['\\'] => true
  | '\\' :: _ :: rest => endsOpen rest
  | _ :: rest => endsOpen rest

def behindLine (text : List Char) : Except Fault (List Char) :=
  match behindMark? '\n' text with
  | some rest => .ok rest
  | none => if endsOpen text then .error .malformed else .ok []

def isFiller (c : Char) : Bool := c = ' ' || (9 ≤ c.toNat && c.toNat ≤ 13)

/-- The text after the blanks and comments at its start. The number bounds them. -/
def skipFillers (mode : Mode) : Nat → List Char → Except Fault (List Char)
  | 0, text => .ok text
  | steps + 1, text =>
      match text with
      | '(' :: '?' :: '#' :: rest => match behindMark? ')' rest with
          | some rest => skipFillers mode steps rest
          | none => .error .malformed
      | c :: rest =>
          if mode.spaced && isFiller c then skipFillers mode steps rest
          else if mode.spaced && c = '#' then
            match behindLine rest with
            | .ok rest => skipFillers mode steps rest
            | .error fault => .error fault
          else .ok text
      | [] => .ok []

/-! ### Groups -/

inductive Opening where
  | numbered (name : Option (List Char))
  | bare
  | flagged (mode : Mode)
  | atomic
  | look (backwards negated : Bool)
  | condition (number : Nat)
  | reference (number : Nat)

def nameUntil (mark : Char) (text : List Char) : Read (List Char) :=
  match text.dropWhile (· ≠ mark) with
  | _ :: rest => .ok (text.takeWhile (· ≠ mark), rest)
  | [] => .error .malformed

def conditionOf (groups : Groups) (given : List Char) : Except Fault Nat :=
  if Text.isName given then
    match groups.names.lookup given with
    | some number => .ok number
    | none => .error .malformed
  else match Text.integer? given with
    | some number =>
        if 0 < number && number < 1073741823 then .ok number.toNat else .error .malformed
    | none => .error .malformed

def opening (mode : Mode) (groups : Groups) : List Char → Read Opening
  | '?' :: 'P' :: '<' :: rest => (nameUntil '>' rest).bind fun (name, rest) =>
      if Text.isName name && (groups.names.lookup name).isNone then
        .ok (.numbered (some name), rest)
      else .error .malformed
  | '?' :: 'P' :: '=' :: rest => (nameUntil ')' rest).bind fun (name, rest) =>
      match groups.names.lookup name with
      | some number =>
          if groups.canRefer number then .ok (.reference number, rest) else .error .malformed
      | none => .error .malformed
  | '?' :: ':' :: rest => .ok (.bare, rest)
  | '?' :: '>' :: rest => .ok (.atomic, rest)
  | '?' :: '=' :: rest => .ok (.look false false, rest)
  | '?' :: '!' :: rest => .ok (.look false true, rest)
  | '?' :: '<' :: '=' :: rest => .ok (.look true false, rest)
  | '?' :: '<' :: '!' :: rest => .ok (.look true true, rest)
  | '?' :: '(' :: rest => (nameUntil ')' rest).bind fun (given, rest) =>
      match conditionOf groups given with
      | .error fault => .error fault
      | .ok number =>
          if groups.outside.isSome && !groups.canRefer number then .error .malformed
          else .ok (.condition number, rest)
  | '?' :: c :: rest =>
      if isFlag c || c = '-' then
        match readFlags (c :: rest) with
        | .ok (flags, ':' :: rest) => .ok (.flagged (mode.apply flags), rest)
        | .ok _ => .error .malformed
        | .error fault => .error fault
      else .error .malformed
  | ['?'] => .error .malformed
  | rest => .ok (.numbered none, rest)

def Groups.begin (groups : Groups) (name : Option (List Char)) : Groups :=
  let number := groups.count + 1
  { groups with count := number, names := name.toList.map (·, number) ++ groups.names }

def Groups.finish (groups : Groups) (number : Nat) (body : Pattern) : Groups :=
  { groups with closed := (number, body.width groups.width) :: groups.closed }

def widestLook : Nat := 4294967295

def Groups.lookBehind (groups : Groups) (negated : Bool) (body : Pattern) : Pattern × Groups :=
  let width := body.width groups.width
  (.behind negated width.least body,
    { groups with
      uneven := groups.uneven || width.most != some width.least || widestLook < width.least })

def escape (mode : Mode) (groups : Groups) : List Char → Read Pattern
  | 'b' :: rest => .ok (.place (.edge false mode.asciiOnly), rest)
  | 'B' :: rest => .ok (.place (.edge true mode.asciiOnly), rest)
  | 'A' :: rest => .ok (.place .start, rest)
  | 'Z' :: rest => .ok (.place .finish, rest)
  | '0' :: rest =>
      let digits := (rest.take 2).takeWhile isOctal
      .ok (.one mode.folding ⟨false, [.code (octalValue digits)]⟩, rest.drop digits.length)
  | c :: rest =>
      if c.isDigit then
        let second := (rest.take 1).takeWhile Char.isDigit
        let third := (rest.drop 1).take 1 |>.takeWhile isOctal
        let digits := c :: second ++ third
        if isOctal c && !second.isEmpty && second.all isOctal && !third.isEmpty then
          if 0o377 < octalValue digits then .error .malformed
          else .ok (.one mode.folding ⟨false, [.code (octalValue digits)]⟩, rest.drop 2)
        else
          let number := decimalValue (c :: second)
          if groups.canRefer number then .ok (.again mode.folding number, rest.drop second.length)
          else .error .malformed
      else match classOf? mode c with
        | some found => .ok (.one mode.folding ⟨false, [found]⟩, rest)
        | none => (escapedCode (c :: rest)).map fun (code, rest) =>
            (.one mode.folding ⟨false, [.code code]⟩, rest)
  | [] => .error .malformed

def Mode.startAnchor (mode : Mode) : Pattern := .place (if mode.byLine then .lineStart else .start)

def Mode.finishAnchor (mode : Mode) : Pattern :=
  .place (if mode.byLine then .lineFinish else .lastFinish)

def plainPiece (mode : Mode) (groups : Groups) : List Char → Read Pattern
  | '.' :: rest => .ok (.anyChar mode.everyChar, rest)
  | '^' :: rest => .ok (mode.startAnchor, rest)
  | '$' :: rest => .ok (mode.finishAnchor, rest)
  | '[' :: rest => (charSet mode rest).map fun (set, rest) => (.one mode.folding set, rest)
  | '\\' :: rest => escape mode groups rest
  | c :: rest => .ok (.one mode.folding ⟨false, [.code c.toNat]⟩, rest)
  | [] => .error .malformed

/-! ### Whole patterns -/

abbrev GroupRead (α : Type) := Except Fault (α × Groups × List Char)

mutual

/-- Reads alternatives up to a closing bracket or the end, each a row of
patterns. The first number bounds the steps. -/
def readRows : Nat → Mode → Groups → List Char → GroupRead (List (List Pattern))
  | 0, _, _, _ => .error .malformed
  | steps + 1, mode, groups, text =>
      match readRow steps mode groups [] text with
      | .ok (row, groups, '|' :: rest) => match readRows steps mode groups rest with
          | .ok (rows, groups, rest) => .ok (row :: rows, groups, rest)
          | .error fault => .error fault
      | .ok (row, groups, rest) => .ok ([row], groups, rest)
      | .error fault => .error fault

/-- Reads pieces up to a bar, a closing bracket or the end;
those read before are given in reverse. -/
def readRow : Nat → Mode → Groups → List Piece → List Char → GroupRead (List Pattern)
  | 0, _, _, _, _ => .error .malformed
  | steps + 1, mode, groups, done, text =>
      match skipFillers mode text.length text with
      | .error fault => .error fault
      | .ok text =>
          let finished : GroupRead (List Pattern) :=
            .ok (done.reverse.flatMap Piece.patterns, groups, text)
          match text with
          | [] => finished
          | '|' :: _ => finished
          | ')' :: _ => finished
          | '(' :: rest =>
              match readGroup steps mode groups rest with
              | .ok (piece, groups, rest) => readRow steps mode groups (piece :: done) rest
              | .error fault => .error fault
          | text => match bounds? text with
              | some (.error fault) => .error fault
              | some (.ok (bounds, rest)) =>
                  let (manner, rest) := mannerOf rest
                  match repeatLast manner bounds done with
                  | .ok done => readRow steps mode groups done rest
                  | .error fault => .error fault
              | none => match plainPiece mode groups text with
                  | .ok (pattern, rest) => readRow steps mode groups (.single pattern :: done) rest
                  | .error fault => .error fault

def readGroup : Nat → Mode → Groups → List Char → GroupRead Piece
  | 0, _, _, _ => .error .malformed
  | steps + 1, mode, groups, text =>
      let inside (mode : Mode) (groups : Groups) (rest : List Char) : GroupRead (List Pattern) :=
        match readRows steps mode groups rest with
        | .ok (rows, groups, ')' :: rest) => .ok (alternatives mode rows, groups, rest)
        | .ok _ => .error .malformed
        | .error fault => .error fault
      match opening mode groups text with
      | .error fault => .error fault
      | .ok (.reference number, rest) => .ok (.single (.again mode.folding number), groups, rest)
      | .ok (.numbered name, rest) =>
          let number := groups.count + 1
          match inside mode (groups.begin name) rest with
          | .ok (items, groups, rest) =>
              .ok (.single (.group number (inRow items)), groups.finish number (inRow items), rest)
          | .error fault => .error fault
      | .ok (.bare, rest) =>
          (inside mode groups rest).map fun (items, after) => (.row (inRow items) items, after)
      | .ok (.flagged inner, rest) =>
          (inside inner groups rest).map fun (items, after) =>
            (.single (.both (inRow items) .empty), after)
      | .ok (.atomic, rest) =>
          (inside mode groups rest).map fun (items, after) =>
            (.single (.atomic (inRow items)), after)
      | .ok (.look false negated, rest) =>
          (inside mode groups rest).map fun (items, after) =>
            (.single (.ahead negated (inRow items)), after)
      | .ok (.look true negated, rest) =>
          let outside := some (groups.outside.getD groups.count)
          match inside mode { groups with outside } rest with
          | .ok (items, inner, rest) =>
              let within := { inner with outside := groups.outside }
              let (pattern, after) := within.lookBehind negated (inRow items)
              .ok (.single pattern, after, rest)
          | .error fault => .error fault
      | .ok (.condition number, rest) =>
          let asking := { groups with asked := max groups.asked number }
          match readRow steps mode asking [] rest with
          | .ok (yes, groups, ')' :: rest) =>
              .ok (.single (.ifGroup number (inRow yes) .empty), groups, rest)
          | .ok (yes, groups, '|' :: rest) => match readRow steps mode groups [] rest with
              | .ok (no, groups, ')' :: rest) =>
                  .ok (.single (.ifGroup number (inRow yes) (inRow no)), groups, rest)
              | .ok _ => .error .malformed
              | .error fault => .error fault
          | .ok _ => .error .malformed
          | .error fault => .error fault

end

/-- The flags at the very start of a pattern, in several groups, and the
text after them. The number bounds the groups. -/
def leadingFlags : Nat → Mode → List Char → List Char → Except Fault (List Char × List Char)
  | 0, _, seen, text => .ok (seen, text)
  | steps + 1, mode, seen, text =>
      match skipFillers mode text.length text with
      | .error fault => .error fault
      | .ok ('(' :: '?' :: c :: rest) =>
          if isFlag c then
            match readFlags (c :: rest) with
            | .ok (flags, ')' :: rest) =>
                leadingFlags steps (mode.apply flags) (seen ++ flags.set) rest
            | .ok _ => .ok (seen, '(' :: '?' :: c :: rest)
            | .error fault => .error fault
          else .ok (seen, '(' :: '?' :: c :: rest)
      | .ok text => .ok (seen, text)

def Mode.plain : Mode := ⟨false, false, false, false, false⟩

def ofText (text : List Char) : Except Fault Pattern :=
  match leadingFlags text.length .plain [] text with
  | .error fault => .error fault
  | .ok (flags, rest) =>
      let mode := Mode.plain.apply ⟨flags.filter (· ≠ 'u'), []⟩
      match readRows (4 * rest.length + 4) mode ⟨0, [], [], none, 0, false⟩ rest with
      | .error fault => .error fault
      | .ok (rows, groups, rest) =>
          let pattern := inRow (alternatives mode rows)
          if clash flags then .error .conflictingFlags
          else if !rest.isEmpty || groups.count < groups.asked || groups.uneven ||
              (flags.contains 't' && pattern.hasRepetition) then .error .malformed
          else .ok pattern

end TaskGraph.Pattern
