import TaskGraph.Text.Blank
import TaskGraph.Text.LetterCase
import TaskGraph.Text.WordClass
set_option autoImplicit false

/-! Sets of characters in search patterns, and which characters
they hold when letter case does not count. -/

namespace TaskGraph.Pattern

inductive Folding where
  | exact
  | ascii
  | all
deriving DecidableEq

def Folding.fold : Folding → Nat → Nat
  | exact, code => code
  | ascii, code => Text.smallAscii code
  | all, code => Text.small code

def Folding.isCased : Folding → Nat → Bool
  | exact, _ => false
  | ascii, code => Text.isCasedAscii code
  | all, code => Text.isCased code

/-- The folded code points that count as one with a folded code point, itself among them. -/
def Folding.alike : Folding → Nat → List Nat
  | all, code => code :: Text.kindred code
  | _, code => [code]

def Folding.sources : Folding → Nat → List Nat
  | exact, code => [code]
  | ascii, code =>
      if Text.isCasedAscii code then (if 0x61 ≤ code then [code, code - 32] else []) else [code]
  | all, code => Text.formsOf code

inductive CharClass where
  | digit
  | blank
  | word
deriving DecidableEq

def CharClass.holds (kind : CharClass) (asciiOnly : Bool) (c : Char) : Bool :=
  if asciiOnly then
    match kind with
    | digit => c.isDigit
    | blank => c = ' ' || (9 ≤ c.toNat && c.toNat ≤ 13)
    | word => c.isAlphanum || c = '_'
  else
    match kind with
    | digit => Text.isDecimalDigit c
    | blank => Text.isSpace c
    | word => Text.isWordChar c

inductive SetItem where
  | code (point : Nat)
  | range (first last : Nat)
  | kind (found : CharClass) (negated asciiOnly : Bool)
deriving DecidableEq

structure CharSet where
  negated : Bool
  items : List SetItem
deriving DecidableEq

/-- The least code point outside the first plane. From there on, single
members of sets are compared without folding them. -/
def planeSize : Nat := 0x10000

def Folding.hasCasedIn (folding : Folding) (first last : Nat) : Bool :=
  match folding with
  | exact => false
  | ascii => (first ≤ 0x5a && 0x41 ≤ last) || (first ≤ 0x7a && 0x61 ≤ last)
  | all => Text.hasCasedIn first last

/-- Whether an item makes letter case matter for the set it is
in, where letter case does not count. -/
def SetItem.isCased (folding : Folding) : SetItem → Bool
  | code point => folding != .exact && (folding.isCased point || planeSize ≤ folding.fold point)
  | range first last => folding != .exact && (planeSize ≤ last || folding.hasCasedIn first last)
  | kind _ _ _ => false

def SetItem.holds (c : Char) : SetItem → Bool
  | code point => c.toNat = point
  | range first last => first ≤ c.toNat && c.toNat ≤ last
  | kind found negated asciiOnly => found.holds asciiOnly c != negated

def SetItem.holdsFolded (folding : Folding) (c : Char) : SetItem → Bool
  | code point =>
      if planeSize ≤ folding.fold point then c.toNat = point
      else (folding.alike (folding.fold point)).contains c.toNat
  | range first last =>
      (first < planeSize &&
        (folding.alike c.toNat).any fun form => (folding.sources form).any fun source =>
          first ≤ source && source ≤ last && source < planeSize) ||
      (planeSize ≤ last &&
        ((first ≤ c.toNat && c.toNat ≤ last) ||
          (first ≤ Text.capital c.toNat && Text.capital c.toNat ≤ last)))
  | kind found negated asciiOnly => found.holds asciiOnly c != negated

def Folding.matchesCode (folding : Folding) (point : Nat) (c : Char) : Bool :=
  if folding.isCased point then
    (folding.alike (folding.fold point)).contains (folding.fold c.toNat)
  else c.toNat = point

/-- Whether a set holds a character. Where letter case matters,
the folded character is looked for. -/
def CharSet.holds (folding : Folding) (set : CharSet) (c : Char) : Bool :=
  (match set.items with
    | [.code point] => folding.matchesCode point c
    | items =>
        if items.any (SetItem.isCased folding) then
          items.any (SetItem.holdsFolded folding (Char.ofNat (folding.fold c.toNat)))
        else items.any (SetItem.holds c)) != set.negated

end TaskGraph.Pattern
