import TaskGraph.Value.Equality
set_option autoImplicit false

/-! The members of a set: each value once, in the order of the table that holds them. A number has
its first place by its hash and is moved on from places that are taken, so the order depends on the
numbers and little on the order in which they came. The hashes of other values differ from run to
run; a set with such a member lists them as they came. -/

namespace TaskGraph.Value

/-! ### Hashes -/

def hashModulus : Nat := Nat.pow 2 61 - 1

def signedHash (negative : Bool) (size : Nat) : Int :=
  let rest := Int.ofNat (size % hashModulus)
  let signed := if negative then -rest else rest
  if signed = -1 then -2 else signed

/-- The hash of a number. A power of two depends on its
exponent modulo 61 only, since 2⁶¹ leaves 1. -/
def hash? : Value → Option Int
  | bool truth => some (if truth then 1 else 0)
  | int number => some (signedHash (number < 0) number.natAbs)
  | float (.finite negative significand exponent) =>
      some (signedHash negative (significand * Nat.pow 2 (Int.emod exponent 61).toNat))
  | float (.infinite negative) => some (if negative then -314159 else 314159)
  | _ => none

structure Hashed where
  hash : Nat
  value : Value

def hashed? (value : Value) : Option Hashed :=
  value.hash?.map fun hash => ⟨(Int.emod hash (Int.ofNat (Nat.pow 2 64))).toNat, value⟩

/-! ### Tables -/

abbrev Table := Array (Option Hashed)

def Table.ofPlaces (count : Nat) : Table := Array.replicate count none

def placesBeyond (count : Nat) : Nat := max 8 (Nat.pow 2 (Nat.log2 count + 1))

def Table.listed (table : Table) : List Hashed := table.toList.filterMap id

/-- The free place for a member: at or within nine of a first place, if the table goes on so far,
else from a place that the other bits of the hash have a part in. The number bounds the attempts. -/
def Table.freePlace? (table : Table) : Nat → Nat → Nat → Option Nat
  | 0, _, _ => none
  | attempts + 1, place, bits =>
      let reach := if place + 9 < table.size then 10 else 1
      match (List.range' place reach).find? fun near => (table.getD near none).isNone with
      | some near => some near
      | none =>
          let bits := bits / 32
          table.freePlace? attempts ((place * 5 + 1 + bits) % table.size) bits

/-- Puts a member into a table. After thirteen attempts no bits of the hash are left, and from then
on no place is tried twice. -/
def Table.put (table : Table) (member : Hashed) : Table :=
  match table.freePlace? (table.size + 13) (member.hash % table.size) member.hash with
  | none => table
  | some place => table.setIfInBounds place (some member)

def Table.resize (table : Table) (count : Nat) : Table :=
  table.listed.foldl Table.put (Table.ofPlaces (placesBeyond count))

/-- Adds a member to a table. A table with three fifths of its places taken becomes larger. -/
def Table.add (table : Table) (member : Hashed) : Table :=
  let wider := table.put member
  let taken := wider.listed.length
  if 5 * taken < 3 * (wider.size - 1) then wider
  else wider.resize (if 50000 < taken then 2 * taken else 4 * taken)

/-! ### Sets -/

def withoutRepeats (items : List Value) : List Value :=
  items.foldl
    (fun members item => if members.any (same item) then members else members ++ [item]) []

/-- Different values in the order in which a set lists them that began with a number of places. -/
def listMembers (places : Nat) (members : List Value) : List Value :=
  let hashes := members.filterMap hashed?
  if hashes.length < members.length then members
  else (hashes.foldl Table.add (Table.ofPlaces places)).listed.map (·.value)

def relist (members : List Value) : List Value := listMembers 8 members

/-- The set of the keys of a mapping. It begins with places for all of them, and lists them as it
does when a definition with it has been copied twice, to be read and to be compiled. -/
def setOfKeys (keys : List Value) : Value :=
  let members := withoutRepeats keys
  let count := members.length
  .set (relist (relist
    (listMembers (if 5 * count < 21 then 8 else placesBeyond (2 * count)) members)))

end TaskGraph.Value
