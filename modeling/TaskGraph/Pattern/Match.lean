import TaskGraph.Pattern.Basic
set_option autoImplicit false

/-! Matching a pattern: a search through the ways to match in their order, each given what is to
follow. The first way in which everything that follows matches as well is taken. -/

namespace TaskGraph.Pattern

structure Mark where
  start : Nat
  finish : Option Nat

structure Spot where
  index : Nat
  groups : List (Nat × Mark)

/-- What is to be matched from a place on; it gives the place where everything has matched. -/
abbrev Rest := Spot → Option Spot

def putMark (number : Nat) (mark : Mark) : List (Nat × Mark) → List (Nat × Mark)
  | [] => [(number, mark)]
  | entry :: rest =>
      if entry.1 = number then (number, mark) :: rest else entry :: putMark number mark rest

def Spot.opening (spot : Spot) (number : Nat) : Spot :=
  let finish := (spot.groups.lookup number).bind (·.finish)
  { spot with groups := putMark number ⟨spot.index, finish⟩ spot.groups }

def Spot.closing (spot : Spot) (number : Nat) : Spot :=
  match spot.groups.lookup number with
  | some mark =>
      { spot with groups := putMark number { mark with finish := some spot.index } spot.groups }
  | none => spot

/-- Where a group that took part began, and the length of its text. A group that has begun anew
behind its last end has none. -/
def Spot.captured? (spot : Spot) (number : Nat) : Option (Nat × Nat) :=
  match spot.groups.lookup number with
  | some ⟨start, some finish⟩ => if start ≤ finish then some (start, finish - start) else none
  | _ => none

def passes (text : Array Char) (test : Char → Bool) (index : Nat) : Bool :=
  if h : index < text.size then test text[index] else false

def isRepeated (text : Array Char) (folding : Folding) : Nat → Nat → Nat → Bool
  | 0, _, _ => true
  | count + 1, first, second =>
      passes text (fun c => passes text (fun d => folding.fold c.toNat = folding.fold d.toNat)
        second) first &&
        isRepeated text folding count (first + 1) (second + 1)

/-- Whether a place is one that an anchor asks for. An empty text
has neither edges nor places that are none. -/
def Anchor.holds (anchor : Anchor) (text : Array Char) (index : Nat) : Bool :=
  match anchor with
  | start => index = 0
  | lineStart => index = 0 || passes text (· = '\n') (index - 1)
  | finish => text.size ≤ index
  | lastFinish => text.size ≤ index || (text.size = index + 1 && passes text (· = '\n') index)
  | lineFinish => text.size ≤ index || passes text (· = '\n') index
  | edge negated asciiOnly =>
      let isWord := passes text (CharClass.word.holds asciiOnly)
      text.size != 0 && ((index != 0 && isWord (index - 1)) != isWord index) != negated

def sweep (text : Array Char) (test : Char → Bool) : Nat → Nat → Nat
  | 0, index => index
  | room + 1, index => if passes text test index then sweep text test room (index + 1) else index

def retreat (follow : Rest) (groups : List (Nat × Mark)) : Nat → Nat → Option Spot
  | 0, index => follow ⟨index, groups⟩
  | count + 1, index => match follow ⟨index, groups⟩ with
      | some found => some found
      | none => retreat follow groups count (index - 1)

/-- Tries what follows at a place, then at the places behind it as long
as characters pass a test, at most so many. -/
def advance (text : Array Char) (test : Char → Bool) (follow : Rest) (groups : List (Nat × Mark)) :
    Nat → Nat → Option Spot
  | 0, index => follow ⟨index, groups⟩
  | room + 1, index => match follow ⟨index, groups⟩ with
      | some found => some found
      | none =>
          if passes text test index then advance text test follow groups room (index + 1) else none

def repeatChar (text : Array Char) (test : Char → Bool) (manner : Manner) (least : Nat)
    (most : Option Nat) (follow : Rest) : Rest := fun spot =>
  let left := text.size - spot.index
  let room := match most with
    | some most => min most left
    | none => left
  let reached := sweep text test (if manner = .lazy then min least left else room) spot.index
  let count := reached - spot.index
  if count < least then none
  else match manner with
    | .greedy => retreat follow spot.groups (count - least) reached
    | .lazy => advance text test follow spot.groups (room - least) reached
    | .possessive => follow { spot with index := reached }

def matchChar (text : Array Char) (test : Char → Bool) (follow : Rest) : Rest := fun spot =>
  if passes text test spot.index then follow { spot with index := spot.index + 1 } else none

/-- A repetition that goes on as long as it can, or only if it has to. Past the least number of
times it is not tried again at the place where it was tried last. The first number bounds the
repetitions. -/
def repeatBody (step : Rest → Rest) (eager : Bool) (least : Nat) (most : Option Nat)
    (follow : Rest) :
    Nat → Nat → Option Nat → Rest
  | 0, _, _, _ => none
  | bound + 1, count, last, spot =>
      if count < least then step
        (repeatBody step eager least most follow bound (count + 1) last) spot
      else
        let onward := (match most with
          | some most => decide (count < most)
          | none => true) && last != some spot.index
        if !onward then follow spot
        else if eager then
          match step (repeatBody step eager least most follow bound (count + 1) (some spot.index))
            spot with
          | some found => some found
          | none => follow spot
        else
          match follow spot with
          | some found => some found
          | none =>
              step (repeatBody step eager least most follow bound (count + 1) (some spot.index))
                spot

/-- A repetition that never gives back what it took. The first number bounds the repetitions. -/
def repeatFirmly (step : Rest) (least : Nat) (most : Option Nat) : Nat → Nat → Option Nat → Rest
  | 0, _, _, _ => none
  | bound + 1, count, last, spot =>
      if count < least then (step spot).bind (repeatFirmly step least most bound (count + 1) last)
      else
        let onward := (match most with
          | some most => decide (count < most)
          | none => true) && last != some spot.index
        if !onward then some spot
        else match step spot with
          | some next => repeatFirmly step least most bound (count + 1) (some spot.index) next
          | none => some spot

def run (text : Array Char) : Pattern → Rest → Rest
  | empty, follow => follow
  | anyChar feeds, follow => matchChar text (fun c => feeds || c != '\n') follow
  | one folding set, follow => matchChar text (set.holds folding) follow
  | both first second, follow => run text first (run text second follow)
  | either left right, follow => fun spot =>
      match run text left follow spot with
      | some found => some found
      | none => run text right follow spot
  | times manner (one folding set) least most, follow =>
      repeatChar text (set.holds folding) manner least most follow
  | times manner (anyChar feeds) least most, follow =>
      repeatChar text (fun c => feeds || c != '\n') manner least most follow
  | times .possessive body least most, follow => fun spot =>
      (repeatFirmly (run text body some) least most (least + text.size + 3) 0 none spot).bind follow
  | times manner body least most, follow =>
      repeatBody (run text body) (manner = .greedy) least most follow (least + text.size + 3) 0 none
  | place anchor, follow => fun spot => if anchor.holds text spot.index then follow spot else none
  | ahead negated body, follow => fun spot =>
      match run text body some spot with
      | some found => if negated then none else follow { spot with groups := found.groups }
      | none => if negated then follow spot else none
  | behind negated width body, follow => fun spot =>
      match (if spot.index < width then none
          else run text body some { spot with index := spot.index - width }) with
      | some found => if negated then none else follow { spot with groups := found.groups }
      | none => if negated then follow spot else none
  | group number body, follow => fun spot =>
      run text body (fun reached => follow (reached.closing number)) (spot.opening number)
  | atomic body, follow => fun spot => (run text body some spot).bind follow
  | again folding number, follow => fun spot =>
      match spot.captured? number with
      | some (start, length) =>
          if isRepeated text folding length start spot.index then
            follow { spot with index := spot.index + length }
          else none
      | none => none
  | ifGroup number yes no, follow => fun spot =>
      if (spot.captured? number).isSome then run text yes follow spot else run text no follow spot

/-- Whether a pattern, given as the search for it from a place on,
occurs at one of so many places from an index on. -/
def occursFrom (search : Rest) : Nat → Nat → Bool
  | 0, index => (search ⟨index, []⟩).isSome
  | count + 1, index => (search ⟨index, []⟩).isSome || occursFrom search count (index + 1)

def occursIn (pattern : Pattern) (text : List Char) : Bool :=
  occursFrom (pattern.run text.toArray some) text.length 0

end TaskGraph.Pattern
