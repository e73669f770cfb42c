import TaskGraph.Text.Integer
import TaskGraph.Text.LetterCase
import TaskGraph.Value.Basic
import TaskGraph.Yaml.Cursor
import TaskGraph.Yaml.Resolve
set_option autoImplicit false

/-! The values of scalars, by their type. -/

namespace TaskGraph.Yaml

def digitValue? (base : Nat) (c : Char) : Option Nat :=
  let value :=
    if c.isDigit then c.toNat - '0'.toNat
    else if 'a' ≤ c ∧ c ≤ 'f' then c.toNat - 'a'.toNat + 10
    else if 'A' ≤ c ∧ c ≤ 'F' then c.toNat - 'A'.toNat + 10
    else base
  if value < base then some value else none

def digitsValue? (base : Nat) (digits : List Char) : Option Nat :=
  digits.foldl (fun number c => number.bind fun n => (digitValue? base c).map (base * n + ·))
    (some 0)

def dropBaseMark (base : Nat) : List Char → List Char
  | '0' :: mark :: rest =>
      if (base = 16 ∧ (mark = 'x' ∨ mark = 'X')) ∨ (base = 8 ∧ (mark = 'o' ∨ mark = 'O')) ∨
          (base = 2 ∧ (mark = 'b' ∨ mark = 'B')) then rest
      else '0' :: mark :: rest
  | text => text

/-- A text with the digits of every script in one script, and without the blanks at its ends. -/
def plainNumeral (text : List Char) : List Char :=
  (Text.trimBlanks text).map fun c => match Text.digitValue? c with
    | some digit => Char.ofNat ('0'.toNat + digit)
    | none => c

def integerIn? (base : Nat) (text : List Char) : Option Int :=
  let trimmed := plainNumeral text
  let digits := dropBaseMark base (dropSign trimmed)
  if digits.isEmpty || (base = 10 && mostDigits < digits.length) then none
  else (digitsValue? base digits).map fun n =>
    if trimmed.head? == some '-' then -Int.ofNat n else Int.ofNat n

def sixtiesValue (digits : List Int) : Int :=
  digits.foldl (fun number digit => 60 * number + digit) 0

def unsignedInteger? (text : List Char) : Option Int :=
  match text with
  | ['0'] => some 0
  | '0' :: 'b' :: digits => integerIn? 2 digits
  | '0' :: 'x' :: digits => integerIn? 16 digits
  | '0' :: _ => integerIn? 8 text
  | _ =>
      if text.contains ':' then ((colonParts text).mapM (integerIn? 10)).map sixtiesValue
      else integerIn? 10 text

def integerValue (content : List Char) : Except Error Int :=
  let text := content.filter (· ≠ '_')
  let digits := dropSign text
  if text.isEmpty || digits.isEmpty then .error .emptyNumber
  else match unsignedInteger? digits with
    | none => .error (.impossible (String.ofList content))
    | some number => .ok (if text.head? == some '-' then -number else number)

/-- Reads a number with a point, an infinity or a NaN, with blanks around it and a sign or not. -/
def floatIn? (text : List Char) : Option Binary64 :=
  let trimmed := plainNumeral text
  let negative := trimmed.head? == some '-'
  let word := dropSign trimmed
  if word = "inf".toList ∨ word = "infinity".toList then some (.infinite negative)
  else if word = "nan".toList then some (.nan 0)
  else Binary64.ofNumeral? trimmed

/-- The number whose digits in base sixty are given, the last one first, rounded after every step.
There is none if the place of a digit is too high for a number. -/
def sixtiesFloat? (digits : List Binary64) : Option Binary64 :=
  (digits.foldl
    (fun (sum : Option Binary64 × Nat) digit =>
      (sum.1.bind fun total =>
        (Binary64.ofNat? sum.2).map fun base => total.add (digit.multiply base), sum.2 * 60))
    (some (Binary64.zero false), 1)).1

def unsignedFloat (content text : List Char) : Except Error Binary64 :=
  if text = ".inf".toList then .ok (.infinite false)
  else if text = ".nan".toList then .ok (.nan 0)
  else if text.contains ':' then
    match (colonParts text).mapM floatIn? with
    | none => .error (.impossible (String.ofList content))
    | some digits =>
        (sixtiesFloat? digits.reverse).elim (.error (.overflow (String.ofList content))) .ok
  else (floatIn? text).elim (.error (.impossible (String.ofList content))) .ok

def floatValue (content : List Char) : Except Error Binary64 :=
  let text := (content.filter (· ≠ '_')).map Char.toLower
  let digits := dropSign text
  if text.isEmpty then .error .emptyNumber
  else (unsignedFloat content digits).map fun number =>
    if text.head? == some '-' then number.neg else number

def microseconds (fraction : List Char) : Nat :=
  let digits := fraction.take 6
  decimalValue digits * Nat.pow 10 (6 - digits.length)

def zoneOffset : Option (Option (Bool × List Char × List Char)) → Option Int
  | none => none
  | some none => some 0
  | some (some (negative, hour, minute)) =>
      let seconds := Int.ofNat (decimalValue hour * 3600 + decimalValue minute * 60)
      some (if negative then -seconds else seconds)

/-- The date or moment of a stamp. Offsets are less than a day. -/
def Stamp.value? (stamp : Stamp) : Option Value :=
  let day : Date := ⟨decimalValue stamp.year, decimalValue stamp.month, decimalValue stamp.day⟩
  match stamp.time with
  | none => if day.isValid then some (.date day) else none
  | some time =>
      let offset := zoneOffset time.zone
      let moment : DateTime :=
        { date := day
          hour := decimalValue time.hour
          minute := decimalValue time.minute
          second := decimalValue time.second
          microsecond := microseconds time.fraction
          offset }
      if moment.isValid && (offset.getD 0).natAbs < 86400 then some (.moment moment) else none

def timestampValue (content : List Char) : Except Error Value :=
  match stamp? (dropLastFeed content) with
  | none => .error (.noTimestamp (String.ofList content))
  | some stamp => match stamp.value? with
      | none => .error (.impossible (String.ofList content))
      | some value => .ok value

def sixBits? (c : Char) : Option Nat :=
  if 'A' ≤ c ∧ c ≤ 'Z' then some (c.toNat - 'A'.toNat)
  else if 'a' ≤ c ∧ c ≤ 'z' then some (c.toNat - 'a'.toNat + 26)
  else if c.isDigit then some (c.toNat - '0'.toNat + 52)
  else if c = '+' then some 62
  else if c = '/' then some 63
  else none

/-- Reads bytes written in base 64. `seen` counts the characters of the current group, `bits` holds
what they left over and `padding` counts the padding since the last of them. Characters outside the
alphabet are skipped. -/
def binaryFrom (seen bits padding : Nat) : List Char → Option (List UInt8)
  | [] => if seen = 0 then some [] else none
  | c :: rest =>
      if c = '=' then
        if 2 ≤ seen then
          if 4 ≤ seen + padding + 1 then some [] else binaryFrom seen bits (padding + 1) rest
        else binaryFrom seen bits padding rest
      else match sixBits? c with
        | none => binaryFrom seen bits padding rest
        | some new =>
            if seen = 0 then binaryFrom 1 new 0 rest
            else if seen = 1 then
              (binaryFrom 2 (new % 16) 0 rest).map (UInt8.ofNat (bits * 4 + new / 16) :: ·)
            else if seen = 2 then
              (binaryFrom 3 (new % 4) 0 rest).map (UInt8.ofNat (bits * 16 + new / 4) :: ·)
            else (binaryFrom 0 0 0 rest).map (UInt8.ofNat (bits * 64 + new) :: ·)

def binaryValue (content : List Char) : Except Error Value :=
  if content.all fun c => c.toNat < 0x80 then
    match binaryFrom 0 0 0 content with
    | some bytes => .ok (.bytes bytes)
    | none => .error (.malformed "base 64 without end")
  else .error (.malformed "base 64 outside ASCII")

def truthValue (content : List Char) : Except Error Bool :=
  let word := Text.lower content
  if ["yes".toList, "true".toList, "on".toList].contains word then .ok true
  else if ["no".toList, "false".toList, "off".toList].contains word then .ok false
  else .error (.noTruth (String.ofList word))

/-- The value of a scalar of a type; the types of collections and unknown ones have no scalars. -/
def scalarValue (tag : Tag) (content : List Char) : Except Error Value :=
  match tag with
  | .null => .ok .null
  | .truth => (truthValue content).map .bool
  | .integer => (integerValue content).map .int
  | .float => (floatValue content).map .float
  | .timestamp => timestampValue content
  | .binary => binaryValue content
  | .text => .ok (.text (String.ofList content))
  | _ => .error (.malformed "a type without scalars")

end TaskGraph.Yaml
