set_option autoImplicit false

/-! Double-precision numbers as exact values. A finite number is a significand times a power of
two, so comparison, quotient and rounding are integer arithmetic and no operation is opaque to a
proof. -/

namespace TaskGraph

def roundHalfEven (num den : Nat) : Nat :=
  let quotient := num / den
  let rest := num % den
  if 2 * rest < den ∨ (2 * rest = den ∧ quotient % 2 = 0) then quotient else quotient + 1

/-- A double-precision number. `finite negative significand exponent` is
`± significand · 2 ^ exponent`, always with the least exponent the format allows, so that equal
numbers of one sign are equal terms. A `nan` carries a tag, which tells one from another. -/
inductive Binary64 where
  | finite (negative : Bool) (significand : Nat) (exponent : Int)
  | infinite (negative : Bool)
  | nan (tag : Nat)
deriving DecidableEq

namespace Binary64

def leastExponent : Int := -1074

def greatestExponent : Int := 971

def zero (negative : Bool) : Binary64 := finite negative 0 leastExponent

def scaled (num den : Nat) (exponent : Int) : Nat × Nat :=
  (num * Nat.pow 2 (-exponent).toNat, den * Nat.pow 2 exponent.toNat)

def binaryOrder (num den : Nat) : Int :=
  let guess : Int := Int.ofNat num.log2 - Int.ofNat den.log2
  let (low, high) := scaled num den guess
  if high ≤ low then guess else guess - 1

/-- The number nearest to `num / den`, a half going to the even significand, with the given sign.
Past the greatest finite number the result is infinite. -/
def nearest (negative : Bool) (num den : Nat) : Binary64 :=
  if num = 0 then
    zero negative
  else
    let exponent := max leastExponent (binaryOrder num den - 52)
    let (above, below) := scaled num den exponent
    let rounded := roundHalfEven above below
    let (significand, exponent) :=
      if rounded = Nat.pow 2 53 then (Nat.pow 2 52, exponent + 1) else (rounded, exponent)
    if greatestExponent < exponent then infinite negative
    else finite negative significand exponent

def ofInt (n : Int) : Binary64 := nearest (n < 0) n.natAbs 1

def ofRat (q : Rat) : Binary64 := nearest (q < 0) q.num.natAbs q.den

def toRat? : Binary64 → Option Rat
  | finite negative significand exponent =>
      let (num, den) := scaled significand 1 (-exponent)
      some (mkRat (if negative then -Int.ofNat num else Int.ofNat num) den)
  | infinite _ => none
  | nan _ => none

def isFinite : Binary64 → Bool
  | finite _ _ _ => true
  | _ => false

def toInt? (x : Binary64) : Option Int :=
  match x.toRat? with
  | some q => if q.den = 1 then some q.num else none
  | none => none

def equal : Binary64 → Binary64 → Bool
  | nan _, _ => false
  | _, nan _ => false
  | infinite s, infinite t => s == t
  | finite s m e, finite t n f => (m == 0 && n == 0) || (s == t && m == n && e == f)
  | _, _ => false

def neg : Binary64 → Binary64
  | finite negative significand exponent => finite (!negative) significand exponent
  | infinite negative => infinite (!negative)
  | nan tag => nan tag

def add (left right : Binary64) : Binary64 :=
  match left, right with
  | nan tag, _ => nan tag
  | _, nan tag => nan tag
  | infinite negative, infinite other => if negative = other then infinite negative else nan 0
  | infinite negative, _ => infinite negative
  | _, infinite negative => infinite negative
  | finite negative 0 _, finite other 0 _ => zero (negative && other)
  | left, right => match left.toRat?, right.toRat? with
      | some p, some q => ofRat (p + q)
      | _, _ => nan 0

def multiply : Binary64 → Binary64 → Binary64
  | nan tag, _ => nan tag
  | _, nan tag => nan tag
  | infinite negative, infinite other => infinite (negative != other)
  | infinite negative, finite other factor _ =>
      if factor = 0 then nan 0 else infinite (negative != other)
  | finite negative factor _, infinite other =>
      if factor = 0 then nan 0 else infinite (negative != other)
  | finite negative left exponent, finite other right power =>
      let (num, den) := scaled (left * right) 1 (-(exponent + power))
      nearest (negative != other) num den

def ofNat? (n : Nat) : Option Binary64 :=
  match nearest false n 1 with
  | infinite _ => none
  | number => some number

end Binary64

/-- A number as it is compared: a rational between two
infinities, or a NaN, which is not ordered. -/
inductive Magnitude where
  | below
  | exact (value : Rat)
  | above
  | unordered
deriving DecidableEq

namespace Magnitude

def lt : Magnitude → Magnitude → Bool
  | unordered, _ => false
  | _, unordered => false
  | below, below => false
  | below, _ => true
  | exact _, below => false
  | exact p, exact q => decide (p < q)
  | exact _, above => true
  | above, _ => false

def le (left right : Magnitude) : Bool :=
  match left, right with
  | unordered, _ => false
  | _, unordered => false
  | _, _ => !lt right left

end Magnitude

def Binary64.magnitude : Binary64 → Magnitude
  | .nan _ => .unordered
  | .infinite true => .below
  | .infinite false => .above
  | x@(.finite _ _ _) => .exact (x.toRat?.getD 0)

end TaskGraph
