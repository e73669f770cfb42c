import TaskGraph.Pattern.CharSet
set_option autoImplicit false

/-! Search patterns for texts, and the least and the greatest
number of characters that they take. -/

namespace TaskGraph

/-- How a repetition goes on: as long as it can, only if it has to, or
as long as it can without ever giving back. -/
inductive Pattern.Manner where
  | greedy
  | lazy
  | possessive
deriving DecidableEq

/-- A place that a pattern asks for. The edges of words are
those of all scripts or of ASCII only. -/
inductive Pattern.Anchor where
  | start
  | lineStart
  | finish
  | lastFinish
  | lineFinish
  | edge (negated asciiOnly : Bool)
deriving DecidableEq

/-- A search pattern. Groups are numbered; `again` is the text of a group once more, and `ifGroup`
depends on whether a group took part. -/
inductive Pattern where
  | empty
  | anyChar (feeds : Bool)
  | one (folding : Pattern.Folding) (set : Pattern.CharSet)
  | both (first second : Pattern)
  | either (left right : Pattern)
  | times (manner : Pattern.Manner) (body : Pattern) (least : Nat) (most : Option Nat)
  | place (anchor : Pattern.Anchor)
  | ahead (negated : Bool) (body : Pattern)
  | behind (negated : Bool) (width : Nat) (body : Pattern)
  | group (number : Nat) (body : Pattern)
  | atomic (body : Pattern)
  | again (folding : Pattern.Folding) (number : Nat)
  | ifGroup (number : Nat) (yes no : Pattern)

namespace Pattern

structure Width where
  least : Nat
  most : Option Nat
deriving DecidableEq

def Width.none : Width := ⟨0, some 0⟩

def Width.add (first second : Width) : Width :=
  ⟨first.least + second.least, first.most.bind fun one => second.most.map (one + ·)⟩

def Width.alternative (left right : Width) : Width :=
  ⟨min left.least right.least, left.most.bind fun one => right.most.map (max one ·)⟩

/-- The width of a repetition. What takes nothing can be repeated without end. -/
def Width.times (body : Width) (least : Nat) (most : Option Nat) : Width :=
  ⟨body.least * least,
    match body.most, most with
    | some 0, _ => some 0
    | _, some 0 => some 0
    | some width, some most => some (width * most)
    | _, _ => Option.none⟩

def width (groups : Nat → Width) : Pattern → Width
  | empty => .none
  | anyChar _ => ⟨1, some 1⟩
  | one _ _ => ⟨1, some 1⟩
  | both first second => (first.width groups).add (second.width groups)
  | either left right => (left.width groups).alternative (right.width groups)
  | times _ body least most => (body.width groups).times least most
  | place _ => .none
  | ahead _ _ => .none
  | behind _ _ _ => .none
  | group _ body => body.width groups
  | atomic body => body.width groups
  | again _ number => groups number
  | ifGroup _ yes no => (yes.width groups).alternative (no.width groups)

def hasRepetition : Pattern → Bool
  | both first second => first.hasRepetition || second.hasRepetition
  | either left right => left.hasRepetition || right.hasRepetition
  | times _ _ _ _ => true
  | ahead _ body => body.hasRepetition
  | behind _ _ body => body.hasRepetition
  | group _ body => body.hasRepetition
  | atomic body => body.hasRepetition
  | ifGroup _ yes no => yes.hasRepetition || no.hasRepetition
  | _ => false

end Pattern
end TaskGraph
