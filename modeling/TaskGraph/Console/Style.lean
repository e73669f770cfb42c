import TaskGraph.Console.Color
import TaskGraph.Text.Blank
import TaskGraph.Text.LetterCase
set_option autoImplicit false

/-! Names of styles. Different names can mean one style; the canonical name of a style lists its
emphases in a fixed order, then its colours and its link. -/

namespace TaskGraph.Console

inductive Emphasis where
  | bold | dim | italic | underline | blink | blink2 | reverse | conceal | strike
      | underline2 | frame | encircle
  | overline
deriving DecidableEq

def Emphasis.all : List Emphasis :=
  [bold, dim, italic, underline, blink, blink2, reverse, conceal, strike, underline2,
    frame, encircle, overline]

def Emphasis.word : Emphasis → String
  | bold => "bold"
  | dim => "dim"
  | italic => "italic"
  | underline => "underline"
  | blink => "blink"
  | blink2 => "blink2"
  | reverse => "reverse"
  | conceal => "conceal"
  | strike => "strike"
  | underline2 => "underline2"
  | frame => "frame"
  | encircle => "encircle"
  | overline => "overline"

def Emphasis.ofWord? (word : String) : Option Emphasis :=
  match word with
  | "b" => some bold
  | "d" => some dim
  | "i" => some italic
  | "u" => some underline
  | "r" => some reverse
  | "c" => some conceal
  | "s" => some strike
  | "uu" => some underline2
  | "o" => some overline
  | word => all.find? fun emphasis => emphasis.word = word

/-- A style: the emphases that it sets or clears, the latest first, and its colours and link. -/
structure Style where
  emphases : List (Emphasis × Bool)
  color : Option String
  background : Option String
  link : Option String

namespace Style

def plain : Style := ⟨[], none, none, none⟩

def wordsOf (text : List Char) : List (List Char) :=
  let rec go (word : List Char) : List Char → List (List Char)
    | [] => if word.isEmpty then [] else [word.reverse]
    | c :: rest =>
        if !Text.isSpace c then go (c :: word) rest
        else if word.isEmpty then go [] rest
        else word.reverse :: go [] rest
  go [] text

inductive Opening where
  | on
  | not
  | link

/-- Why a name is not understood: it says nothing, or it has a colour that cannot be read. -/
inductive Flaw where
  | unknown
  | unreadable
deriving DecidableEq

def withColor {α : Type} (word : List Char) (follow : Except Flaw α) : Except Flaw α :=
  match ColorWord.ofWord word with
  | .color => follow
  | .unknown => .error .unknown
  | .unreadable => .error .unreadable

/-- Adds what the words of a name say, the first of them behind an opening word if there was one. -/
def ofWords (style : Style) : Option Opening → List (List Char) → Except Flaw Style
  | none, [] => .ok style
  | some _, [] => .error .unknown
  | some .on, given :: rest =>
      let color := Text.lower given
      withColor color (ofWords { style with background := some (String.ofList color) } none rest)
  | some .not, given :: rest =>
      match Emphasis.ofWord? (String.ofList given) with
      | some emphasis =>
          ofWords { style with emphases := (emphasis, false) :: style.emphases } none rest
      | none => .error .unknown
  | some .link, given :: rest => ofWords { style with link := some (String.ofList given) } none rest
  | none, given :: rest =>
      let word := Text.lower given
      match String.ofList word with
      | "on" => ofWords style (some .on) rest
      | "not" => ofWords style (some .not) rest
      | "link" => ofWords style (some .link) rest
      | name =>
          match Emphasis.ofWord? name with
          | some emphasis =>
              ofWords { style with emphases := (emphasis, true) :: style.emphases } none rest
          | none => withColor word (ofWords { style with color := some name } none rest)
termination_by structural _ words => words

def ofName (name : List Char) : Except Flaw Style :=
  if Text.trimSpace name = ['n', 'o', 'n', 'e'] then .ok plain
    else ofWords plain none (wordsOf name)

def name (style : Style) : String :=
  let emphases := Emphasis.all.filterMap fun emphasis =>
    (style.emphases.lookup emphasis).map fun set => if set then emphasis.word
      else "not " ++ emphasis.word
  let background := style.background.toList.flatMap fun color => ["on", color]
  let link := style.link.toList.flatMap fun target => ["link", target]
  match emphases ++ style.color.toList ++ background ++ link with
  | [] => "none"
  | words => String.intercalate " " words

/-- The canonical form of a name, or `none` if a colour in it cannot be read. A name that says
nothing only loses its outer blanks and its capitals. -/
def canonical? (given : List Char) : Option (List Char) :=
  match ofName given with
  | .ok style => some style.name.toList
  | .error .unknown => some (Text.lower (Text.trimSpace given))
  | .error .unreadable => none

end Style
end TaskGraph.Console
