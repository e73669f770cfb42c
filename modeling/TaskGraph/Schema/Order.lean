import TaskGraph.Value.Equality
set_option autoImplicit false

/-! The order of values: numbers, texts, bytes, dates, moments, rows of them, and sets by inclusion.
Sorting finds the run in order that a row begins with and puts every further member into its place
by halving, so that it is defined also where the order is partial. -/

namespace TaskGraph.Value

/-- The order of rows in which the first difference decides; `none` where there is no order. -/
def lessRow (less : Value → Value → Option Bool) : List Value → List Value → Option Bool
  | [], [] => some false
  | [], _ :: _ => some true
  | _ :: _, [] => some false
  | x :: xs, y :: ys => if same x y then lessRow less xs ys else less x y

def lessBytes : List UInt8 → List UInt8 → Bool
  | [], [] => false
  | [], _ :: _ => true
  | _ :: _, [] => false
  | x :: xs, y :: ys => if x = y then lessBytes xs ys else x < y

/-- Whether a value is before another one; `none` where there is
no order. The number bounds the depth. -/
def less? : Nat → Value → Value → Option Bool
  | 0, _, _ => none
  | depth + 1, left, right =>
      match left, right with
      | text s, text t => some (decide (s < t))
      | bytes s, bytes t => some (lessBytes s t)
      | list xs, list ys => lessRow (less? depth) xs ys
      | tuple xs, tuple ys => lessRow (less? depth) xs ys
      | set xs, set ys => some (decide (xs.length < ys.length) && sameMembers xs ys)
      | date d, date e => some (decide (d.dayNumber < e.dayNumber))
      | moment t, moment u => match t.instant?, u.instant? with
          | some p, some q => some (decide (p < q))
          | none, none => some (decide (t.localMicroseconds < u.localMicroseconds))
          | _, _ => none
      | left, right => match left.magnitude?, right.magnitude? with
          | some p, some q => some (p.lt q)
          | _, _ => none

def before? (left right : Value) : Option Bool := less? (left.depth + 1) left right

/-! ### Sorting -/

/-- The members that go on in a run behind a value, each before the one
that it follows or none of them, and the others. -/
def splitRun (less : Value → Value → Option Bool) (falling : Bool) (last : Value) :
    List Value → Option (List Value × List Value)
  | [] => some ([], [])
  | item :: rest => match less item last with
      | none => none
      | some found =>
          if found = falling then (splitRun less falling item rest).map fun (run, rest) =>
            (item :: run, rest)
          else some ([], item :: rest)

/-- The run that a row begins with, in order, and the others. A falling run is turned round. -/
def firstRun? (less : Value → Value → Option Bool) : List Value → Option (List Value × List Value)
  | first :: second :: rest => match less second first with
      | none => none
      | some falling => (splitRun less falling second rest).map fun (run, rest) =>
          (if falling then (first :: second :: run).reverse else first :: second :: run, rest)
  | items => some (items, [])

/-- The place between two bounds at which a value is put into a row in order, found by halving. The
first number bounds the steps. -/
def placeIn? (less : Value → Value → Option Bool) (item : Value) (sorted : Array Value) :
    Nat → Nat → Nat → Option Nat
  | 0, low, _ => some low
  | steps + 1, low, high =>
      if high ≤ low then some low
      else
        let middle := low + (high - low) / 2
        match less item (sorted.getD middle null) with
        | none => none
        | some true => placeIn? less item sorted steps low middle
        | some false => placeIn? less item sorted steps (middle + 1) high

def insertAll? (less : Value → Value → Option Bool) : List Value → Array Value →
    Option (Array Value)
  | [], sorted => some sorted
  | item :: rest, sorted => match placeIn? less item sorted sorted.size 0 sorted.size with
      | none => none
      | some place => insertAll? less rest (sorted.insertIdxIfInBounds place item)

/-- A row in order, equal values as they stood, if all values that are compared have an order. -/
def sortBy? (less : Value → Value → Option Bool) (items : List Value) : Option (List Value) :=
  (firstRun? less items).bind fun (run, rest) => (insertAll? less rest run.toArray).map Array.toList

def inOrder? (items : List Value) : Option (List Value) := sortBy? before? items

end TaskGraph.Value
