import TaskGraph.Yaml.ScalarText
set_option autoImplicit false

/-! Splitting a YAML text into tokens. Indentation opens and closes blocks outside brackets, and
what turns out to be the key of a mapping, when its colon is reached on the same line, gets a key
token before it afterwards. -/

namespace TaskGraph.Yaml

/-- A place that may turn out to be the start of a key.
`position` is the number of tokens before it. -/
structure KeyCandidate where
  position : Nat
  required : Bool
  index : Nat
  line : Nat
  column : Nat

/-- The state between two tokens. The tokens are kept in reverse, and so are the columns of the
blocks around the current one. -/
structure Lexer where
  place : Cursor
  flowLevel : Nat
  indent : Int
  outerIndents : List Int
  keyAllowed : Bool
  candidates : List (Nat × KeyCandidate)
  tokens : List Token
  count : Nat

namespace Lexer

def start (text : List Char) : Lexer := ⟨Cursor.start text, 0, -1, [], true, [], [], 0⟩

def emit (token : Token) (lexer : Lexer) : Lexer :=
  { lexer with tokens := token :: lexer.tokens, count := lexer.count + 1 }

def emitAt (position : Nat) (token : Token) (lexer : Lexer) : Lexer :=
  let later := lexer.count - position
  { lexer with
    tokens := lexer.tokens.take later ++ token :: lexer.tokens.drop later
    count := lexer.count + 1 }

def skip (count : Nat) (lexer : Lexer) : Lexer := { lexer with place := lexer.place.skip count }

def allowKey (allowed : Bool) (lexer : Lexer) : Lexer := { lexer with keyAllowed := allowed }

def missingColon {α : Type} : Except Error α := .error (.malformed "a key needs a colon")

/-- Forgets the candidate of the current level; one that must be a key cannot be forgotten. -/
def dropCandidate (lexer : Lexer) : Except Error Lexer :=
  match lexer.candidates.lookup lexer.flowLevel with
  | some candidate =>
      if candidate.required then missingColon
      else
        let others := lexer.candidates.filter fun entry => entry.1 ≠ lexer.flowLevel
        .ok { lexer with candidates := others }
  | none => .ok lexer

def isStale (place : Cursor) (candidate : KeyCandidate) : Bool :=
  candidate.line ≠ place.line || 1024 < place.index - candidate.index

def dropStale (lexer : Lexer) : Except Error Lexer :=
  if lexer.candidates.any fun entry => isStale lexer.place entry.2 && entry.2.required then
    missingColon
  else
    let fresh := lexer.candidates.filter fun entry => !isStale lexer.place entry.2
    .ok { lexer with candidates := fresh }

/-- Remembers that a key may begin here. It must be one if it begins a line of the current block. -/
def saveCandidate (lexer : Lexer) : Except Error Lexer :=
  if lexer.keyAllowed then
    lexer.dropCandidate.map fun lexer =>
      let candidate : KeyCandidate :=
        { position := lexer.count
          required := lexer.flowLevel = 0 && lexer.indent = lexer.place.column
          index := lexer.place.index
          line := lexer.place.line
          column := lexer.place.column }
      { lexer with candidates := (lexer.flowLevel, candidate) :: lexer.candidates }
  else .ok lexer

def closeBlocks (column : Int) : List Int → Lexer → Lexer
  | [], lexer => lexer
  | outer :: rest, lexer =>
      if column < lexer.indent then
        closeBlocks column rest { lexer.emit .blockEnd with indent := outer, outerIndents := rest }
      else lexer

def unwind (column : Int) (lexer : Lexer) : Lexer :=
  if lexer.flowLevel = 0 then closeBlocks column lexer.outerIndents lexer else lexer

/-- Opens a block at a column if the current one stands
further out; its token goes to a position. -/
def openBlock (column : Nat) (position : Nat) (token : Token) (lexer : Lexer) : Lexer :=
  if lexer.indent < column then
    { lexer.emitAt position token with indent := column, outerIndents :=
      lexer.indent :: lexer.outerIndents }
  else lexer

/-- Moves to the next token over spaces, comments and line ends; a new line may begin with a key. -/
def skipToToken : Nat → Lexer → Lexer
  | 0, lexer => lexer
  | steps + 1, lexer =>
      let place := lexer.place.skipSpaces
      let place := if place.peek == some '#' then place.skipWhile fun c => !isBreak c else place
      match place.lineBreak? with
      | some (_, after) =>
          skipToToken steps
            { lexer with place := after, keyAllowed := lexer.keyAllowed || lexer.flowLevel = 0 }
      | none => { lexer with place }

def atMargin (lexer : Lexer) : Except Error Lexer :=
  (lexer.unwind (-1)).dropCandidate.map (allowKey false)

def openFlow (token : Token) (lexer : Lexer) : Except Error Lexer :=
  lexer.saveCandidate.map fun lexer =>
    (({ lexer with flowLevel := lexer.flowLevel + 1, keyAllowed := true }).skip 1).emit token

def closeFlow (token : Token) (lexer : Lexer) : Except Error Lexer :=
  if lexer.flowLevel = 0 then .error (.malformed "a closing bracket without an opening one")
  else
    lexer.dropCandidate.map fun lexer =>
      (({ lexer with flowLevel := lexer.flowLevel - 1, keyAllowed := false }).skip 1).emit token

def flowEntry (lexer : Lexer) : Except Error Lexer :=
  (lexer.allowKey true).dropCandidate.map fun lexer => (lexer.skip 1).emit .flowEntry

def openHere (token : Token) (reason : String) (lexer : Lexer) : Except Error Lexer :=
  if lexer.flowLevel ≠ 0 then .ok lexer
  else if lexer.keyAllowed then .ok (lexer.openBlock lexer.place.column lexer.count token)
  else .error (.malformed reason)

def blockEntry (lexer : Lexer) : Except Error Lexer :=
  match lexer.openHere .blockSequenceStart "an item cannot begin here" with
  | .error cause => .error cause
  | .ok lexer =>
      (lexer.allowKey true).dropCandidate.map fun lexer => (lexer.skip 1).emit .blockEntry

def keyMark (lexer : Lexer) : Except Error Lexer :=
  match lexer.openHere .blockMappingStart "a key cannot begin here" with
  | .error cause => .error cause
  | .ok lexer =>
      (lexer.allowKey (lexer.flowLevel = 0)).dropCandidate.map fun lexer => (lexer.skip 1).emit .key

/-- Reads the colon before a value. If a key can have begun
before it, that is where its token goes. -/
def valueMark (lexer : Lexer) : Except Error Lexer :=
  match lexer.candidates.lookup lexer.flowLevel with
  | some candidate =>
      let lexer :=
        { lexer with candidates := lexer.candidates.filter fun entry => entry.1 ≠ lexer.flowLevel }
      let lexer := lexer.emitAt candidate.position .key
      let lexer :=
        if lexer.flowLevel = 0 then
          lexer.openBlock candidate.column candidate.position .blockMappingStart
        else lexer
      .ok (((lexer.allowKey false).skip 1).emit .value)
  | none =>
      match lexer.openHere .blockMappingStart "a value cannot begin here" with
      | .error cause => .error cause
      | .ok lexer =>
          (lexer.allowKey (lexer.flowLevel = 0)).dropCandidate.map fun lexer =>
            (lexer.skip 1).emit .value

def keyLike {α : Type} (read : Cursor → Lexed α) (token : α → Token) (lexer : Lexer) :
    Except Error Lexer :=
  match lexer.saveCandidate with
  | .error cause => .error cause
  | .ok lexer => (read lexer.place).map fun (content, place) =>
      ({ lexer with place, keyAllowed := false }).emit (token content)

/-- Reads a plain scalar. After its last line a key may begin if the line is over. -/
def plain (lexer : Lexer) : Except Error Lexer :=
  lexer.saveCandidate.map fun lexer =>
    let read := plainText (lexer.flowLevel ≠ 0) (lexer.indent + 1) (lexer.place.size + 1)
      [] lexer.place
    ({ lexer with place := read.place, keyAllowed := read.broken }).emit (.scalar read.content true)

def block (folded : Bool) (lexer : Lexer) : Except Error Lexer :=
  match (lexer.allowKey true).dropCandidate with
  | .error cause => .error cause
  | .ok lexer => (blockScalar folded lexer.indent lexer.place).map fun (content, place) =>
      ({ lexer with place }).emit (.scalar content false)

def beginsPlain (inFlow : Bool) (c : Char) (after : Option Char) : Bool :=
  !(atBlank (some c) || "-?:,[]\x7b\x7d#&*!|>'\"%@\x60".toList.contains c) ||
    (!atBlank after && (c = '-' || (!inFlow && (c = '?' || c = ':'))))

def readToken (c : Char) (lexer : Lexer) : Except Error Lexer :=
  let after := lexer.place.peekAt 1
  let inFlow := lexer.flowLevel ≠ 0
  let atMarker := lexer.place.column = 0 && lexer.place.atMarker
  if c = '%' && lexer.place.column = 0 then
    match lexer.atMargin with
    | .error cause => .error cause
    | .ok lexer => (directive lexer.place).map fun (content, place) =>
        ({ lexer with place }).emit (.directive content)
  else if c = '-' && atMarker then
    lexer.atMargin.map fun lexer => (lexer.skip 3).emit .documentStart
  else if c = '.' && atMarker then
    lexer.atMargin.map fun lexer => (lexer.skip 3).emit .documentEnd
  else if c = '[' then lexer.openFlow .flowSequenceStart
  else if c = '\x7b' then lexer.openFlow .flowMappingStart
  else if c = ']' then lexer.closeFlow .flowSequenceEnd
  else if c = '\x7d' then lexer.closeFlow .flowMappingEnd
  else if c = ',' then lexer.flowEntry
  else if c = '-' && atBlank after then lexer.blockEntry
  else if c = '?' && (inFlow || atBlank after) then lexer.keyMark
  else if c = ':' && (inFlow || atBlank after) then lexer.valueMark
  else if c = '*' then lexer.keyLike anchorName .alias
  else if c = '&' then lexer.keyLike anchorName .anchor
  else if c = '!' then lexer.keyLike tag fun (handle, suffix) => .tag handle suffix
  else if c = '|' && !inFlow then lexer.block false
  else if c = '>' && !inFlow then lexer.block true
  else if c = '\'' then lexer.keyLike (quotedScalar false) fun content => .scalar content false
  else if c = '"' then lexer.keyLike (quotedScalar true) fun content => .scalar content false
  else if beginsPlain inFlow c after then lexer.plain
  else .error (.malformed "no token begins with this character")

def run : Nat → Lexer → List Token
  | 0, lexer => lexer.tokens.reverse
  | steps + 1, lexer =>
      let lexer := lexer.skipToToken (lexer.place.size + 1)
      let broken (cause : Error) : List Token := (lexer.emit (.broken cause)).tokens.reverse
      match lexer.dropStale with
      | .error cause => broken cause
      | .ok lexer =>
          let lexer := lexer.unwind lexer.place.column
          match lexer.place.peek with
          | none => match (lexer.unwind (-1)).dropCandidate with
              | .error cause => broken cause
              | .ok lexer => (lexer.emit .streamEnd).tokens.reverse
          | some c => match lexer.readToken c with
              | .error cause => broken cause
              | .ok lexer => run steps lexer

end Lexer

def isAllowed (c : Char) : Bool :=
  let n := c.toNat
  n = 9 || n = 10 || n = 13 || (0x20 ≤ n && n ≤ 0x7e) || n = 0x85 || (0xa0 ≤ n && n ≤ 0xd7ff) ||
    (0xe000 ≤ n && n ≤ 0xfffd) || 0x10000 ≤ n

/-- The tokens of a text. A byte order mark at its start is no part of it. -/
def tokensOf (text : List Char) : List Token :=
  if text.all isAllowed then
    let lexer := Lexer.start text
    let lexer := if text.head? == some byteOrderMark then lexer.skip 1 else lexer
    lexer.run (text.length + 2)
  else [.broken (.malformed "a character that is not allowed")]

end TaskGraph.Yaml
