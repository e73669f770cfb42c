import TaskGraph.Number.Binary64
set_option autoImplicit false

/-! Decimal text of double-precision numbers: the fewest digits that read back, and the nearest
number to a decimal numeral. -/

namespace TaskGraph

def decimalValue (digits : List Char) : Nat :=
  digits.foldl (fun n c => 10 * n + (if c.isDigit then c.toNat - '0'.toNat else 0)) 0

def decimalDigits (n : Nat) : List Char := Nat.toDigits 10 n

/-- The greatest number of decimal digits that an integer has as text, in reading and in writing. -/
def mostDigits : Nat := 4300

def isWritable (number : Int) : Bool := number.natAbs < Nat.pow 10 mostDigits

def padZeros (width n : Nat) : List Char :=
  let digits := decimalDigits n
  List.replicate (width - digits.length) '0' ++ digits

namespace Binary64

/-- The place of the decimal point of `num / den > 0`: the `k` with `10 ^ (k-1) ≤ num / den < 10 ^
k`. -/
def decimalOrder (num den : Nat) : Int :=
  if den ≤ num then
    Int.ofNat (decimalDigits (num / den)).length
  else
    let places := (decimalDigits (den / num)).length
    if den ≤ num * Nat.pow 10 (places - 1) then 2 - Int.ofNat places else 1 - Int.ofNat places

/-- The numbers that round to `± significand · 2 ^ exponent` lie between `low / den` and `high /
den`; `value / den` is the number itself. Both ends count iff the significand is even. -/
structure Rounding where
  low : Nat
  value : Nat
  high : Nat
  den : Nat
  closed : Bool

/-- The interval that rounds to a positive finite number. Just above a
power of two the lower half is half as wide. -/
def rounding (significand : Nat) (exponent : Int) : Rounding :=
  let narrow := significand = Nat.pow 2 52 ∧ leastExponent < exponent
  let up := Nat.pow 2 (exponent - 2).toNat
  { low := (4 * significand - if narrow then 1 else 2) * up
    value := 4 * significand * up
    high := (4 * significand + 2) * up
    den := Nat.pow 2 (2 - exponent).toNat
    closed := significand % 2 = 0 }

def Rounding.holds (interval : Rounding) (digits : Nat) (place : Int) : Bool :=
  let point := digits * Nat.pow 10 place.toNat * interval.den
  let scale := Nat.pow 10 (-place).toNat
  if interval.closed then interval.low * scale ≤ point ∧ point ≤ interval.high * scale
  else interval.low * scale < point ∧ point < interval.high * scale

/-- The neighbour of the value on the grid of step `10 ^ place`
that reads back, the nearer one if both do. -/
def Rounding.onGrid? (interval : Rounding) (place : Int) : Option Nat :=
  let num := interval.value * Nat.pow 10 (-place).toNat
  let den := interval.den * Nat.pow 10 place.toNat
  let near := roundHalfEven num den
  let floor := num / den
  let far := if near = floor then floor + 1 else floor
  if interval.holds near place then some near
  else if interval.holds far place then some far
  else none

def Rounding.firstGrid (interval : Rounding) (order : Int) : Nat → Nat → Nat × Int
  | 0, count => (roundHalfEven interval.value interval.den, order - Int.ofNat count)
  | tries + 1, count =>
      let place := order - Int.ofNat count
      match interval.onGrid? place with
      | some digits => (digits, place)
      | none => interval.firstGrid order tries (count + 1)

def trimZeros (digits : List Char) : List Char :=
  (digits.reverse.dropWhile (· == '0')).reverse

/-- The fewest digits that read back as the number, and the
place of the point before or after them. -/
def shortest (significand : Nat) (exponent : Int) : List Char × Int :=
  let interval := rounding significand exponent
  let order := decimalOrder interval.value interval.den
  let (digits, place) := interval.firstGrid order 17 1
  let row := decimalDigits digits
  (trimZeros row, Int.ofNat row.length + place)

/-- Lays out digits around the point: positional while `-4 < point ≤ 16`, with an exponent of at
least two digits otherwise. -/
def layout (digits : List Char) (point : Int) : List Char :=
  if -4 < point ∧ point ≤ 16 then
    if point ≤ 0 then
      ['0', '.'] ++ List.replicate (-point).toNat '0' ++ digits
    else
      let whole := digits.take point.toNat
      let fraction := digits.drop point.toNat
      whole ++ List.replicate (point.toNat - digits.length) '0' ++ ['.'] ++
        (if fraction.isEmpty then ['0'] else fraction)
  else
    let power := point - 1
    let mantissa := match digits with
      | [] => ['0']
      | [d] => [d]
      | d :: rest => d :: '.' :: rest
    mantissa ++ ['e', if power < 0 then '-' else '+'] ++ padZeros 2 power.natAbs

/-- The text of a number: the fewest digits that read back, always with a point or an exponent. -/
def text : Binary64 → String
  | nan _ => "nan"
  | infinite negative => if negative then "-inf" else "inf"
  | finite negative significand exponent =>
      let body :=
        if significand = 0 then ['0', '.', '0']
        else
          let (digits, point) := shortest significand exponent
          layout digits point
      String.ofList (if negative then '-' :: body else body)

/-- The number nearest to `± digits · 10 ^ place`. Far outside the range
of the format the powers of ten are not formed. -/
def ofDecimal (negative : Bool) (digits : Nat) (place : Int) : Binary64 :=
  let order := Int.ofNat (decimalDigits digits).length + place
  if digits = 0 then zero negative
  else if 310 < order then infinite negative
  else if order < -330 then zero negative
  else nearest negative (digits * Nat.pow 10 place.toNat) (Nat.pow 10 (-place).toNat)

def exponentOf? : List Char → Option Int
  | [] => some 0
  | c :: rest =>
      if c == 'e' || c == 'E' then
        let (negative, digits) := match rest with
          | '-' :: more => (true, more)
          | '+' :: more => (false, more)
          | more => (false, more)
        if digits.isEmpty || !digits.all Char.isDigit then none
        else some (if negative then -Int.ofNat (decimalValue digits)
          else Int.ofNat (decimalValue digits))
      else none

/-- Reads an unsigned numeral: digits with at most one point
among or beside them, then an exponent. -/
def unsignedNumeral? (negative : Bool) (text : List Char) : Option Binary64 :=
  let whole := text.takeWhile Char.isDigit
  let rest := text.dropWhile Char.isDigit
  let (fraction, tail) := match rest with
    | '.' :: more => (more.takeWhile Char.isDigit, more.dropWhile Char.isDigit)
    | more => ([], more)
  if whole.isEmpty && fraction.isEmpty then none
  else
    (exponentOf? tail).map fun power =>
      ofDecimal negative (decimalValue (whole ++ fraction)) (power - Int.ofNat fraction.length)

def ofNumeral? : List Char → Option Binary64
  | '-' :: rest => unsignedNumeral? true rest
  | '+' :: rest => unsignedNumeral? false rest
  | text => unsignedNumeral? false text

end Binary64
end TaskGraph
