import TaskGraph.Schema.Keyword.Fixed
set_option autoImplicit false

/-! The keywords for numbers and for sizes: bounds, and what a number must be a multiple of. -/

namespace TaskGraph.Schema

/-- The number of a value that is a number. Truth values are none. -/
def numberOf? : Value → Option Magnitude
  | .bool _ => none
  | value => value.magnitude?

def boundKeyword (breaks : Magnitude → Magnitude → Bool) (words : String)
    (bound value : Value) : Outcome :=
  match numberOf? value with
  | none => .clean
  | some number => .taking bound.magnitude? .unfit fun limit =>
      .demand (!breaks number limit) [value, bound] (value.display ++ words ++ bound.display)

/-! ### Multiples -/

def asFloat (number : Int) : Except Fault Binary64 :=
  let float := Binary64.ofInt number
  if float.isFinite then .ok float else .error .tooLarge

def isWholeQuotient (number divisor : Rat) : Bool := divisor ≠ 0 && (number / divisor).den = 1

/-- Whether the quotient of a float by a float that is not zero is whole. It is rounded, unless it
is too large to be told from infinity. `exact` is the number itself, if it is finite. -/
def isFloatMultiple (number divisor : Binary64) (exact : Option Rat) : Except Fault Bool :=
  match number, divisor with
  | .nan _, _ => .error .unreadable
  | _, .nan _ => .error .unreadable
  | .infinite _, .infinite _ => .error .unreadable
  | .infinite _, _ => .error .tooLarge
  | _, .infinite _ => .ok true
  | _, _ =>
      let p := number.toRat?.getD 0
      let q := divisor.toRat?.getD 1
      let quotient := Binary64.ofRat (p / q)
      .ok (if quotient.isFinite then quotient.toInt?.isSome else isWholeQuotient (exact.getD p) q)

/-- Whether a number leaves nothing when it is divided by an integer; a
float is divided by the float nearest to it. -/
def isIntegerMultiple (number : Value) (divisor : Int) : Except Fault Bool :=
  match number with
  | .float number => match asFloat divisor with
      | .error fault => .error fault
      | .ok float =>
          if divisor = 0 then .error .zeroDivisor
          else match number.toRat?, float.toRat? with
            | some p, some q => .ok (isWholeQuotient p q)
            | _, _ => .ok false
  | .int number => if divisor = 0 then .error .zeroDivisor else .ok (number % divisor = 0)
  | _ => .error .unfit

def isMultiple (number divisor : Value) : Except Fault Bool :=
  match divisor with
  | .int divisor => isIntegerMultiple number divisor
  | .bool truth => isIntegerMultiple number (if truth then 1 else 0)
  | .float divisor =>
      let operand : Except Fault (Binary64 × Option Rat) := match number with
        | .int number => (asFloat number).map fun float => (float, some (number : Rat))
        | .float number => .ok (number, number.toRat?)
        | _ => .error .unfit
      match operand with
      | .error fault => .error fault
      | .ok (float, exact) =>
          if divisor.equal (.zero false) then .error .zeroDivisor
            else isFloatMultiple float divisor exact
  | _ => .error .unfit

def multipleKeyword (divisor value : Value) : Outcome :=
  match numberOf? value with
  | none => .clean
  | some _ => .given (isMultiple value divisor) fun fits =>
      .demand fits [value, divisor] (value.display ++ " is not a multiple of " ++ divisor.display)

/-! ### Sizes -/

def leastKeyword (size : Nat) (words : String) (bound value : Value) : Outcome :=
  .taking bound.magnitude? .unfit fun limit =>
    .demand (!Magnitude.lt (.exact size) limit) [value]
      (value.display ++ if bound.wholeNumber? = some 1 then " should be non-empty" else words)

def mostKeyword (size : Nat) (words : String) (bound value : Value) : Outcome :=
  .taking bound.magnitude? .unfit fun limit =>
    .demand (!Magnitude.lt limit (.exact size)) [value]
      (value.display ++ if bound.wholeNumber? = some 0 then " is expected to be empty" else words)

end TaskGraph.Schema
