import TaskGraph.Console.EmojiTable
import TaskGraph.Text.Blank
import TaskGraph.Text.LetterCase
set_option autoImplicit false

/-! Pictures named between colons. A name may end in a mark that asks for the coloured or the plain
form. Names that stand for no picture stay as they are, with their colons. -/

namespace TaskGraph.Console

def colonName? : List Char → Option (List Char × List Char)
  | [] => none
  | c :: rest =>
      if c = ':' then some ([], rest)
      else if Text.isSpace c then none
      else (colonName? rest).map fun (name, after) => (c :: name, after)

def dropEnding? (ending text : List Char) : Option (List Char) :=
  if ending.isSuffixOf text then some (text.take (text.length - ending.length)) else none

def regionSign (letter : Char) : Char := Char.ofNat (0x1f1e6 + (letter.toNat - 'A'.toNat))

def regionNamed (name : List Char) : List Char :=
  let opening := "flag_for_".toList
  if opening.isPrefixOf name then name.drop opening.length else name

def flagOf? (name : List Char) : Option (List Char) :=
  (regionTable.lookup (String.ofList (regionNamed name))).map fun letters =>
    letters.toList.map regionSign

def tones : List (String × Char) :=
  [("_light_skin_tone", '🏻'), ("_medium-light_skin_tone", '🏼'), ("_medium_skin_tone", '🏽'),
    ("_medium-dark_skin_tone", '🏾'), ("_dark_skin_tone", '🏿')]

/-- A picture in a tone, which stands behind the first character
in the place of a mark for the form. -/
def inTone (tone : Char) : List Char → List Char
  | first :: '\ufe0f' :: rest => first :: tone :: rest
  | first :: rest => first :: tone :: rest
  | [] => []

def tonedOf? (name : List Char) : Option (List Char) :=
  tones.findSome? fun (ending, tone) =>
    (dropEnding? ending.toList name).bind fun base =>
      let base := String.ofList base
      if tonedNames.contains base then (pictureTable.lookup base).map fun picture =>
        inTone tone picture.toList
      else none

def pictureOf? (name : List Char) : Option (List Char) :=
  match pictureTable.lookup (String.ofList name) with
  | some picture => some picture.toList
  | none => match flagOf? name with
      | some flag => some flag
      | none => tonedOf? name

def emojiOf? (given : List Char) : Option (List Char) :=
  let picture (name mark : List Char) : Option (List Char) :=
    (pictureOf? (Text.lower name)).map (· ++ mark)
  match dropEnding? ['-', 'e', 'm', 'o', 'j', 'i'] given,
    dropEnding? ['-', 't', 'e', 'x', 't'] given with
  | some name, _ => picture name ['\ufe0f']
  | none, some name => picture name ['\ufe0e']
  | none, none => picture given []

/-- A text with its named pictures put in. The number bounds how many names there can be. -/
def putEmojiWithin : Nat → List Char → List Char
  | 0, text => text
  | _ + 1, [] => []
  | steps + 1, c :: rest =>
      if c = ':' then
        match colonName? rest with
        | some (name, after) =>
            (emojiOf? name).getD (':' :: name ++ [':']) ++ putEmojiWithin steps after
        | none => c :: putEmojiWithin steps rest
      else c :: putEmojiWithin steps rest

def putEmoji (text : List Char) : List Char := putEmojiWithin text.length text

end TaskGraph.Console
