import TaskGraph.Config.Basic
import TaskGraph.Text.Blank
import TaskGraph.Text.Utf8
import TaskGraph.Workflow.Rejection
set_option autoImplicit false

/-! Reading the fields of a record from values: integers also from truth values, whole floats and
numerals, texts also from UTF-8 bytes, tuples also from lists and sets. -/

namespace TaskGraph

inductive Kind where
  | task
  | group
deriving DecidableEq

def Kind.word : Kind → String
  | task => "task"
  | group => "group"

namespace Coercion

/-- Reads a run of digits, with a minus sign before it or not; a leading zero stands alone. A text
that is longer than an integer can be as text is too large, whatever follows. -/
def plainNumeral (text : List Char) : Except Problem Int :=
  let (negative, digits) := match text with
    | '-' :: rest => (true, rest)
    | rest => (false, rest)
  let signs := text.length - digits.length
  if digits.isEmpty || (digits.head? == some '0' && 1 < digits.length) then .error .noNumeral
  else if mostDigits < signs + (digits.takeWhile Char.isDigit).length then .error .tooLarge
  else if !digits.all Char.isDigit then .error .noNumeral
  else .ok (if negative then -Int.ofNat (decimalValue digits) else Int.ofNat (decimalValue digits))

/-- Drops leading zeros, with underscores among them, before another
digit; of nothing but zeros the last character stays. -/
def dropZeros : Char → List Char → Option (List Char)
  | last, [] => some [last]
  | last, c :: rest =>
      if c = '0' ∨ c = '_' then dropZeros c rest
      else if c.isDigit then some (c :: rest)
      else if c = '.' then some (last :: c :: rest)
      else none

def fromFirstDigit? : List Char → Option (List Char)
  | [] => none
  | c :: rest =>
      if c = '0' then dropZeros c rest
      else if c.isDigit ∨ c = '-' then some (c :: rest)
      else none

def dropZeroFraction (text : List Char) : List Char :=
  let whole := text.takeWhile (· ≠ '.')
  match text.dropWhile (· ≠ '.') with
  | _ :: '0' :: fraction => if fraction.all (· = '0') then whole else text
  | _ => text

def hasDoubleUnderscore : List Char → Bool
  | '_' :: '_' :: _ => true
  | _ :: rest => hasDoubleUnderscore rest
  | [] => false

def dropUnderscores (text : List Char) : List Char :=
  if text.head? == some '_' || text.getLast? == some '_' || hasDoubleUnderscore text then text
  else text.filter (· ≠ '_')

def dropPlus : List Char → List Char
  | '+' :: rest => rest
  | text => text

/-- Reads an integer from a text: blanks around it, a sign, leading zeros, single underscores
between digits and a fraction of zeros are allowed. -/
def numeral (text : List Char) : Except Problem Int :=
  let trimmed := Text.trimBlanks text
  match plainNumeral trimmed with
  | .error .noNumeral =>
      match fromFirstDigit? (dropPlus trimmed) with
      | none => .error .noNumeral
      | some digits => plainNumeral (dropUnderscores (dropZeroFraction digits))
  | read => read

def integer : Value → Reading Int
  | .int number => .ok number
  | .bool truth => .ok (if truth then 1 else 0)
  | .float number =>
      if !number.isFinite then Reading.refuse .notFinite
      else match number.toInt? with
        | none => Reading.refuse .fractional
        | some whole => if whole.natAbs < Nat.pow 2 63 then .ok whole else Reading.refuse .tooLarge
  | .text content => match numeral content.toList with
      | .ok number => .ok number
      | .error problem => Reading.refuse problem
  | .bytes content => match ((Text.decodeUtf8? content).map numeral).getD (.error .noNumeral) with
      | .ok number => .ok number
      | .error problem => Reading.refuse problem
  | _ => Reading.refuse .notInteger

def optionalInteger : Value → Reading (Option Int)
  | .null => .ok none
  | value => (integer value).map some

def text : Value → Reading String
  | .text content => .ok content
  | .bytes content => match Text.decodeUtf8? content with
      | some characters => .ok (String.ofList characters)
      | none => Reading.refuse .malformedText
  | _ => Reading.refuse .notText

def kind (value : Value) : Reading Kind :=
  match text value with
  | .ok "task" => .ok .task
  | .ok "group" => .ok .group
  | _ => Reading.refuse .notKind

def config : Value → Reading Config
  | .config fields _ => .ok (Config.ofFields fields).freeze
  | _ => Reading.refuse .notConfig

def tuple {α : Type} (item : Value → Reading α) : Value → Reading (List α)
  | .tuple items => Reading.all 0 (items.map item)
  | .list items => Reading.all 0 (items.map item)
  | .set items => Reading.all 0 (items.map item)
  | _ => Reading.refuse .notTuple

def textFields (entries : List (Value × Value)) : Fields Value :=
  entries.filterMap fun entry => match entry.1 with
    | .text name => some (name, entry.2)
    | _ => none

def required {α : Type} (fields : Fields Value) (name : String) (read : Value → Reading α) :
    Reading α :=
  match fields.get? name with
  | some value => Reading.within (.field name) (read value)
  | none => Reading.within (.field name) (Reading.refuse .missing)

def optional {α : Type} (fields : Fields Value) (name : String) (default : α)
    (read : Value → Reading α) :
    Reading α :=
  match fields.get? name with
  | some value => Reading.within (.field name) (read value)
  | none => .ok default

end Coercion
end TaskGraph
