set_option autoImplicit false

/-! The types of scalars without a tag: null, truth values, numbers and moments have texts of their
own, and any other text is a text. -/

namespace TaskGraph.Yaml

/-- The type that a tag names. `merge` and `default` are those of the keys `<<` and `=`. -/
inductive Tag where
  | null
  | truth
  | integer
  | float
  | timestamp
  | binary
  | text
  | sequence
  | mapping
  | set
  | orderedMapping
  | pairs
  | merge
  | default
  | unknown (name : List Char)
deriving DecidableEq

def Tag.standardPrefix : List Char := "tag:yaml.org,2002:".toList

def Tag.ofName (name : List Char) : Tag :=
  let short := name.drop standardPrefix.length
  if name.take standardPrefix.length ≠ standardPrefix then .unknown name
  else if short = "null".toList then .null
  else if short = "bool".toList then .truth
  else if short = "int".toList then .integer
  else if short = "float".toList then .float
  else if short = "timestamp".toList then .timestamp
  else if short = "binary".toList then .binary
  else if short = "str".toList then .text
  else if short = "seq".toList then .sequence
  else if short = "map".toList then .mapping
  else if short = "set".toList then .set
  else if short = "omap".toList then .orderedMapping
  else if short = "pairs".toList then .pairs
  else if short = "merge".toList then .merge
  else if short = "value".toList then .default
  else .unknown name

def nullWords : List (List Char) :=
  ["".toList, "~".toList, "null".toList, "Null".toList, "NULL".toList]

def truthWords : List (List Char) :=
  ["yes", "Yes", "YES", "no", "No", "NO", "true", "True", "TRUE", "false", "False", "FALSE", "on",
    "On", "ON", 
    "off", "Off", "OFF"].map String.toList

def dropSign : List Char → List Char
  | '+' :: rest => rest
  | '-' :: rest => rest
  | text => text

def isDigitOrLine (c : Char) : Bool := c.isDigit || c = '_'

def colonParts (text : List Char) : List (List Char) :=
  text.foldr (fun c parts => if c = ':' then [] :: parts else match parts with
    | [] => [[c]]
    | part :: rest => (c :: part) :: rest) [[]]

def isSixtieth : List Char → Bool
  | [c] => c.isDigit
  | [c, d] => ('0' ≤ c && c ≤ '5') && d.isDigit
  | _ => false

/-- Whether a text is digits and underscores after a first digit,
which is not zero if `positive` is set. -/
def isDigitRun (positive : Bool) : List Char → Bool
  | [] => false
  | c :: rest => c.isDigit && !(positive && c = '0') && rest.all isDigitOrLine

def isInteger (text : List Char) : Bool :=
  let digits := dropSign text
  match digits with
  | '0' :: 'b' :: rest => !rest.isEmpty && rest.all fun c => c = '0' || c = '1' || c = '_'
  | '0' :: 'x' :: rest =>
      !rest.isEmpty && rest.all fun c =>
        isDigitOrLine c || ('a' ≤ c && c ≤ 'f') || ('A' ≤ c && c ≤ 'F')
  | '0' :: rest => rest.all fun c => ('0' ≤ c && c ≤ '7') || c = '_'
  | _ => match colonParts digits with
      | first :: sixtieths => isDigitRun true first && sixtieths.all isSixtieth
      | [] => false

def isExponent : List Char → Bool
  | [] => true
  | e :: sign :: digits =>
      (e = 'e' || e = 'E') && (sign = '+' || sign = '-') && !digits.isEmpty &&
        digits.all Char.isDigit
  | _ => false

def isPointed (text : List Char) : Bool :=
  match text.dropWhile isDigitOrLine with
  | '.' :: rest =>
      isDigitRun false (text.takeWhile isDigitOrLine) && isExponent (rest.dropWhile isDigitOrLine)
  | _ => false

def isPointedSixties (text : List Char) : Bool :=
  let whole := text.takeWhile (· ≠ '.')
  match text.dropWhile (· ≠ '.') with
  | _ :: fraction => fraction.all isDigitOrLine && (match colonParts whole with
      | first :: sixtieths =>
          isDigitRun false first && !sixtieths.isEmpty && sixtieths.all isSixtieth
      | [] => false)
  | [] => false

def infiniteWords : List (List Char) := [".inf".toList, ".Inf".toList, ".INF".toList]

def nanWords : List (List Char) := [".nan".toList, ".NaN".toList, ".NAN".toList]

def isFloat (text : List Char) : Bool :=
  let digits := dropSign text
  isPointed digits || isPointedSixties digits || infiniteWords.contains digits ||
    nanWords.contains text || (match text with
      | '.' :: rest =>
          isDigitRun false (rest.takeWhile isDigitOrLine) && isExponent
            (rest.dropWhile isDigitOrLine)
      | _ => false)

/-- A moment as it is written: the parts of the date, and those of the time if there is one. -/
structure StampTime where
  hour : List Char
  minute : List Char
  second : List Char
  fraction : List Char
  zone : Option (Option (Bool × List Char × List Char))

structure Stamp where
  year : List Char
  month : List Char
  day : List Char
  time : Option StampTime

def takeDigits? (least most : Nat) (text : List Char) : Option (List Char × List Char) :=
  let digits := (text.take most).takeWhile Char.isDigit
  if digits.length < least then none else some (digits, text.drop digits.length)

def takeChar? (c : Char) : List Char → Option (List Char)
  | d :: rest => if c = d then some rest else none
  | [] => none

def isGap (c : Char) : Bool := c = ' ' || c = '\t'

/-- Reads a time zone up to the end of a text: nothing, `Z`, or hours and minutes with a sign. -/
def stampZone? (text : List Char) : Option (Option (Option (Bool × List Char × List Char))) :=
  if text.isEmpty then some none
  else match text.dropWhile isGap with
    | ['Z'] => some (some none)
    | sign :: rest =>
        if sign = '+' ∨ sign = '-' then do
          let (hour, rest) ← takeDigits? 1 2 rest
          if rest.isEmpty then return some (some (sign == '-', hour, []))
          let (minute, rest) ← takeDigits? 2 2 (← takeChar? ':' rest)
          if rest.isEmpty then return some (some (sign == '-', hour, minute)) else none
        else none
    | [] => none

def stampTime? (text : List Char) : Option StampTime := do
  let (hour, rest) ← takeDigits? 1 2 text
  let (minute, rest) ← takeDigits? 2 2 (← takeChar? ':' rest)
  let (second, rest) ← takeDigits? 2 2 (← takeChar? ':' rest)
  let (fraction, rest) := match rest with
    | '.' :: more => (more.takeWhile Char.isDigit, more.dropWhile Char.isDigit)
    | more => ([], more)
  let zone ← stampZone? rest
  return ⟨hour, minute, second, fraction, zone⟩

def stamp? (text : List Char) : Option Stamp := do
  let (year, rest) ← takeDigits? 4 4 text
  let (month, rest) ← takeDigits? 1 2 (← takeChar? '-' rest)
  let (day, rest) ← takeDigits? 1 2 (← takeChar? '-' rest)
  match rest with
  | [] => return ⟨year, month, day, none⟩
  | c :: more =>
      if c = 'T' ∨ c = 't' then return ⟨year, month, day, some (← stampTime? more)⟩
      else if isGap c then return ⟨year, month, day, some (← stampTime? (more.dropWhile isGap))⟩
      else none

/-- Whether a text is a moment. A date alone needs two digits each for month and day. -/
def isTimestamp (text : List Char) : Bool :=
  match stamp? text with
  | some stamp => stamp.time.isSome || (stamp.month.length = 2 && stamp.day.length = 2)
  | none => false

def dropLastFeed (text : List Char) : List Char :=
  if text.getLast? == some '\n' then text.dropLast else text

/-- The type of a scalar without a tag. One line feed at the end of its text does not count. A mark
of the format alone has a type without values. -/
def resolve (content : List Char) : Tag :=
  let text := if content = ['\n'] then content else dropLastFeed content
  if truthWords.contains text then .truth
  else if isFloat text then .float
  else if isInteger text then .integer
  else if text = ['<', '<'] then .merge
  else if nullWords.contains text then .null
  else if isTimestamp text then .timestamp
  else if text = ['='] then .default
  else if text = ['!'] ∨ text = ['&'] ∨ text = ['*'] then
    .unknown (Tag.standardPrefix ++ "yaml".toList)
  else .text

end TaskGraph.Yaml
