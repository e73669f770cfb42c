import TaskGraph.Number.Decimal
import TaskGraph.Text.Blank
import TaskGraph.Text.WordClass
set_option autoImplicit false

/-! Integers as text: blanks around, a sign or none, and decimal digits of any script, between which
single underscores can stand. An integer has at most a fixed number of digits as text, in both
directions. -/

namespace TaskGraph.Text

def digitValue? (c : Char) : Option Nat :=
  if c.isDigit then some (c.toNat - '0'.toNat)
  else (digitRanges.find? fun range => range.1 ≤ c.toNat && c.toNat ≤ range.2).map fun range =>
    (c.toNat - range.1) % 10

def plainDigits? : List Char → Option (List Nat)
  | [] => none
  | [c] => (digitValue? c).map fun digit => [digit]
  | c :: '_' :: rest => match digitValue? c, plainDigits? rest with
      | some digit, some digits => some (digit :: digits)
      | _, _ => none
  | c :: rest => match digitValue? c, plainDigits? rest with
      | some digit, some digits => some (digit :: digits)
      | _, _ => none

def ofDigits (digits : List Nat) : Nat := digits.foldl (fun number digit => 10 * number + digit) 0

def natural? (row : List Char) : Option Nat :=
  (plainDigits? row).bind fun digits => if digits.length ≤ mostDigits then
    some (ofDigits digits) else none

def integer? (text : List Char) : Option Int :=
  match trimBlanks text with
  | '-' :: row => (natural? row).map fun number => -Int.ofNat number
  | '+' :: row => (natural? row).map Int.ofNat
  | row => (natural? row).map Int.ofNat

end TaskGraph.Text
