set_option autoImplicit false

/-! Hexadecimal text of natural numbers. -/

namespace TaskGraph

def hexValue? (c : Char) : Option Nat :=
  if c.isDigit then some (c.toNat - '0'.toNat)
  else if 'a' ≤ c ∧ c ≤ 'f' then some (c.toNat - 'a'.toNat + 10)
  else if 'A' ≤ c ∧ c ≤ 'F' then some (c.toNat - 'A'.toNat + 10)
  else none

def hexNumber? (digits : List Char) : Option Nat :=
  digits.foldl (fun number c => number.bind fun n => (hexValue? c).map (16 * n + ·)) (some 0)

end TaskGraph
