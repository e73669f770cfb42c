import TaskGraph.Text.CharacterName.Ancient
import TaskGraph.Text.CharacterName.Brahmic
import TaskGraph.Text.CharacterName.Cuneiform
import TaskGraph.Text.CharacterName.Eastern
import TaskGraph.Text.CharacterName.Hieroglyphs
import TaskGraph.Text.CharacterName.Mathematics
import TaskGraph.Text.CharacterName.Minority
import TaskGraph.Text.CharacterName.Music
import TaskGraph.Text.CharacterName.Pictographs
import TaskGraph.Text.CharacterName.Presentation
import TaskGraph.Text.CharacterName.SignWriting
import TaskGraph.Text.CharacterName.Southern
import TaskGraph.Text.CharacterName.Syllabaries
import TaskGraph.Text.CharacterName.Symbols
import TaskGraph.Text.CharacterName.Western
import TaskGraph.Number.Decimal
import TaskGraph.Number.Hexadecimal
set_option autoImplicit false

/-! Characters by their names: those listed for each script, other names in
use, and the families of names that a rule gives. -/

namespace TaskGraph.Text.CharacterName

def listed : List (List Run) :=
  [western, southern, eastern, symbols, syllabaries, presentation, ancient, brahmic,
    cuneiform, hieroglyphs, minority, music, mathematics, signWriting, pictographs]

def others : List (Nat × String) :=
  [(0x0, "NULL|NUL"), (0x1, "START OF HEADING|SOH"), (0x2, "START OF TEXT|STX"),
    (0x3, "END OF TEXT|ETX"), (0x4, "END OF TRANSMISSION|EOT"), (0x5, "ENQUIRY|ENQ"),
    (0x6, "ACKNOWLEDGE|ACK"), (0x7, "ALERT|BEL"), (0x8, "BACKSPACE|BS"),
    (0x9, "CHARACTER TABULATION|HORIZONTAL TABULATION|HT|TAB"),
    (0xa, "LINE FEED|NEW LINE|END OF LINE|LF|NL|EOL"),
    (0xb, "LINE TABULATION|VERTICAL TABULATION|VT"), (0xc, "FORM FEED|FF"),
    (0xd, "CARRIAGE RETURN|CR"), (0xe, "SHIFT OUT|LOCKING-SHIFT ONE|SO"),
    (0xf, "SHIFT IN|LOCKING-SHIFT ZERO|SI"), (0x10, "DATA LINK ESCAPE|DLE"),
    (0x11, "DEVICE CONTROL ONE|DC1"), (0x12, "DEVICE CONTROL TWO|DC2"),
    (0x13, "DEVICE CONTROL THREE|DC3"), (0x14, "DEVICE CONTROL FOUR|DC4"),
    (0x15, "NEGATIVE ACKNOWLEDGE|NAK"), (0x16, "SYNCHRONOUS IDLE|SYN"),
    (0x17, "END OF TRANSMISSION BLOCK|ETB"), (0x18, "CANCEL|CAN"), (0x19, "END OF MEDIUM|EOM"),
    (0x1a, "SUBSTITUTE|SUB"), (0x1b, "ESCAPE|ESC"),
    (0x1c, "INFORMATION SEPARATOR FOUR|FILE SEPARATOR|FS"),
    (0x1d, "INFORMATION SEPARATOR THREE|GROUP SEPARATOR|GS"),
    (0x1e, "INFORMATION SEPARATOR TWO|RECORD SEPARATOR|RS"),
    (0x1f, "INFORMATION SEPARATOR ONE|UNIT SEPARATOR|US"), (0x20, "SP"), (0x7f, "DELETE|DEL"),
    (0x80, "PADDING CHARACTER|PAD"), (0x81, "HIGH OCTET PRESET|HOP"),
    (0x82, "BREAK PERMITTED HERE|BPH"), (0x83, "NO BREAK HERE|NBH"), (0x84, "INDEX|IND"),
    (0x85, "NEXT LINE|NEL"), (0x86, "START OF SELECTED AREA|SSA"),
    (0x87, "END OF SELECTED AREA|ESA"),
    (0x88, "CHARACTER TABULATION SET|HORIZONTAL TABULATION SET|HTS"),
    (0x89, "CHARACTER TABULATION WITH JUSTIFICATION|HORIZONTAL TABULATION WITH JUSTIFICATION|HTJ"),
    (0x8a, "LINE TABULATION SET|VERTICAL TABULATION SET|VTS"),
    (0x8b, "PARTIAL LINE FORWARD|PARTIAL LINE DOWN|PLD"),
    (0x8c, "PARTIAL LINE BACKWARD|PARTIAL LINE UP|PLU"),
    (0x8d, "REVERSE LINE FEED|REVERSE INDEX|RI"), (0x8e, "SINGLE SHIFT TWO|SINGLE-SHIFT-2|SS2"),
    (0x8f, "SINGLE SHIFT THREE|SINGLE-SHIFT-3|SS3"), (0x90, "DEVICE CONTROL STRING|DCS"),
    (0x91, "PRIVATE USE ONE|PRIVATE USE-1|PU1"), (0x92, "PRIVATE USE TWO|PRIVATE USE-2|PU2"),
    (0x93, "SET TRANSMIT STATE|STS"), (0x94, "CANCEL CHARACTER|CCH"), (0x95, "MESSAGE WAITING|MW"),
    (0x96, "START OF GUARDED AREA|START OF PROTECTED AREA|SPA"),
    (0x97, "END OF GUARDED AREA|END OF PROTECTED AREA|EPA"), (0x98, "START OF STRING|SOS"),
    (0x99, "SINGLE GRAPHIC CHARACTER INTRODUCER|SGC"), (0x9a, "SINGLE CHARACTER INTRODUCER|SCI"),
    (0x9b, "CONTROL SEQUENCE INTRODUCER|CSI"), (0x9c, "STRING TERMINATOR|ST"),
    (0x9d, "OPERATING SYSTEM COMMAND|OSC"), (0x9e, "PRIVACY MESSAGE|PM"),
    (0x9f, "APPLICATION PROGRAM COMMAND|APC"), (0xa0, "NBSP"), (0xad, "SHY"),
    (0x1a2, "LATIN CAPITAL LETTER GHA"), (0x1a3, "LATIN SMALL LETTER GHA"), (0x34f, "CGJ"),
    (0x61c, "ALM"), (0x709, "SYRIAC SUBLINEAR COLON SKEWED LEFT"), (0xcde, "KANNADA LETTER LLLA"),
    (0xe9d, "LAO LETTER FO FON"), (0xe9f, "LAO LETTER FO FAY"), (0xea3, "LAO LETTER RO"),
    (0xea5, "LAO LETTER LO"), (0xfd0, "TIBETAN MARK BKA- SHOG GI MGO RGYAN"),
    (0x11ec, "HANGUL JONGSEONG YESIEUNG-KIYEOK"), (0x11ed, "HANGUL JONGSEONG YESIEUNG-SSANGKIYEOK"),
    (0x11ee, "HANGUL JONGSEONG SSANGYESIEUNG"), (0x11ef, "HANGUL JONGSEONG YESIEUNG-KHIEUKH"),
    (0x180b, "FVS1"), (0x180c, "FVS2"), (0x180d, "FVS3"), (0x180e, "MVS"), (0x180f, "FVS4"),
    (0x200b, "ZWSP"), (0x200c, "ZWNJ"), (0x200d, "ZWJ"), (0x200e, "LRM"), (0x200f, "RLM"),
    (0x202a, "LRE"), (0x202b, "RLE"), (0x202c, "PDF"), (0x202d, "LRO"), (0x202e, "RLO"),
    (0x202f, "NNBSP"), (0x205f, "MMSP"), (0x2060, "WJ"), (0x2066, "LRI"), (0x2067, "RLI"),
    (0x2068, "FSI"), (0x2069, "PDI"), (0x2118, "WEIERSTRASS ELLIPTIC FUNCTION"),
    (0x2448, "MICR ON US SYMBOL"), (0x2449, "MICR DASH SYMBOL"),
    (0x2b7a, "LEFTWARDS TRIANGLE-HEADED ARROW WITH DOUBLE VERTICAL STROKE"),
    (0x2b7c, "RIGHTWARDS TRIANGLE-HEADED ARROW WITH DOUBLE VERTICAL STROKE"),
    (0xa015, "YI SYLLABLE ITERATION MARK"), (0xaa6e, "MYANMAR LETTER KHAMTI LLA"),
    (0xfe18, "PRESENTATION FORM FOR VERTICAL RIGHT WHITE LENTICULAR BRACKET"),
    (0xfeff, "BYTE ORDER MARK|BOM|ZWNBSP"), (0x122d4, "CUNEIFORM SIGN NU11 TENU"),
    (0x122d5, "CUNEIFORM SIGN NU11 OVER NU11 BUR OVER BUR"),
    (0x16e56, "MEDEFAIDRIN CAPITAL LETTER H"), (0x16e57, "MEDEFAIDRIN CAPITAL LETTER NG"),
    (0x16e76, "MEDEFAIDRIN SMALL LETTER H"), (0x16e77, "MEDEFAIDRIN SMALL LETTER NG"),
    (0x1b001, "HENTAIGANA LETTER E-1"),
    (0x1d0c5, "BYZANTINE MUSICAL SYMBOL FTHORA SKLIRON CHROMA VASIS")]

/-- Characters whose names are a word and the number of the character in hexadecimal digits. -/
structure Family where
  word : String
  ranges : List (Nat × Nat)

def families : List Family :=
  [⟨"CJK COMPATIBILITY IDEOGRAPH-", [(0xf900, 0xfa6d), (0xfa70, 0xfad9), (0x2f800, 0x2fa1d)]⟩,
    ⟨"KHITAN SMALL SCRIPT CHARACTER-", [(0x18b00, 0x18cd5)]⟩,
    ⟨"NUSHU CHARACTER-", [(0x1b170, 0x1b2fb)]⟩]

/-- The ideographs that more than one language shares. Their names are in capitals. -/
def ideographs : Family :=
  ⟨"CJK UNIFIED IDEOGRAPH-",
    [(0x3400, 0x4dbf), (0x4e00, 0x9fff), (0x20000, 0x2a6df), (0x2a700, 0x2b738),
    (0x2b740, 0x2b81d), (0x2b820, 0x2cea1), (0x2ceb0, 0x2ebe0), (0x30000, 0x3134a)]⟩

def behind? (word : String) (name : List Char) : Option (List Char) :=
  if word.toList.isPrefixOf name then some (name.drop word.length) else none

/-- The number in hexadecimal digits that follows the word of a
family, if it is that of one of its characters. -/
def Family.code? (family : Family) (name : List Char) : Option Nat :=
  ((behind? family.word name).bind hexNumber?).filter fun code =>
    family.ranges.any fun range => range.1 ≤ code && code ≤ range.2

/-- The character of a family with a name that is numbered in four digits or, where these do not
suffice, in as many as there are. -/
def Family.canonical? (family : Family) (name : List Char) : Option Nat :=
  (family.code? name).filter fun code =>
    (behind? family.word name).map List.length = some (if code < 0x10000 then 4 else 5)

def ideograph? (name : List Char) : Option Nat :=
  (ideographs.code? name).filter fun _ =>
    (behind? ideographs.word name).any fun digits =>
      (digits.length = 4 || digits.length = 5) && !digits.any fun c => 'a' ≤ c && c ≤ 'f'

/-! ### Syllables -/

def leadingSounds : List String := ["G", "GG", "N", "D", "DD", "R", "M", "B", "BB",
    "S", "SS", "", "J", "JJ", "C", "K", "T", "P", "H"]

def vowels : List String :=
  ["A", "AE", "YA", "YAE", "EO", "E", "YEO", "YE", "O", "WA", "WAE", "OE", "YO", "U", "WEO", "WE",
    "WI", "YU", "EU", "YI", "I"]

def trailingSounds : List String :=
  ["", "G", "GG", "GS", "N", "NJ", "NH", "D", "L", "LG", "LM", "LB", "LS", "LT", "LP", "LH", "M",
    "B", "BS", "S", "SS", "NG", "J", "C", "K", "T", "P", "H"]

def longestSound? (sounds : List String) (text : List Char) : Option (Nat × List Char) :=
  let step (best : Option (Nat × Nat)) (entry : String × Nat) : Option (Nat × Nat) :=
    if entry.1.toList.isPrefixOf text && best.all (fun found => found.2 < entry.1.length)
    then some (entry.2, entry.1.length) else best
  (sounds.zipIdx.foldl step none).map fun (place, length) => (place, text.drop length)

def syllable? (sounds : List Char) : Option Nat :=
  match longestSound? leadingSounds sounds with
  | none => none
  | some (leading, sounds) => match longestSound? vowels sounds with
      | none => none
      | some (vowel, sounds) => match longestSound? trailingSounds sounds with
          | some (trailing, []) =>
              some (0xac00 + (leading * vowels.length + vowel) * trailingSounds.length + trailing)
          | _ => none

def selector? (digits : List Char) : Option Nat :=
  let number := decimalValue digits
  if digits.isEmpty || !digits.all Char.isDigit || digits.head? = some '0' || 256 < number then none
  else some (if number ≤ 16 then 0xfe00 + (number - 1) else 0xe0100 + (number - 17))

end TaskGraph.Text.CharacterName

namespace TaskGraph.Text

/-- The code point of the character with a name. Small letters count as capitals, but not in the
names of syllables and of shared ideographs. -/
def characterNamed? (name : List Char) : Option Nat :=
  match CharacterName.behind? "HANGUL SYLLABLE " name with
  | some sounds => CharacterName.syllable? sounds
  | none =>
      if (CharacterName.behind? CharacterName.ideographs.word name).isSome then
        CharacterName.ideograph? name
      else
        let name := name.map Char.toUpper
        let shown := String.ofList name
        (CharacterName.listed.findSome? fun runs => runs.findSome? (·.code? name))
          <|> ((CharacterName.others.find? fun other => (other.2.splitOn "|").contains shown).map
            (·.1))
          <|> (CharacterName.families.findSome? (·.canonical? name))
          <|> ((CharacterName.behind? "VS" name).bind CharacterName.selector?)

end TaskGraph.Text
