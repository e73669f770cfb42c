import TaskGraph.Number.Hexadecimal
import TaskGraph.Text.Utf8
set_option autoImplicit false

/-! Percent signs with two hexadecimal digits, which stand for bytes in addresses. -/

namespace TaskGraph.Text

/-- The bytes of ASCII characters, those after percent signs resolved. A
percent sign without digits stands for itself. -/
def percentBytes : List Char → List UInt8
  | [] => []
  | '%' :: high :: low :: rest => match hexNumber? [high, low] with
      | some byte => UInt8.ofNat byte :: percentBytes rest
      | none => UInt8.ofNat '%'.toNat :: percentBytes (high :: low :: rest)
  | c :: rest => UInt8.ofNat c.toNat :: percentBytes rest

/-- A text with its percent signs resolved. Every stretch of ASCII characters is decoded on its own;
those before are given in reverse. -/
def decodePercentAfter (stretch : List Char) : List Char → List Char
  | [] => decodeUtf8Lossy (percentBytes stretch.reverse)
  | c :: rest =>
      if c.toNat < 0x80 then decodePercentAfter (c :: stretch) rest
      else decodeUtf8Lossy (percentBytes stretch.reverse) ++ c :: decodePercentAfter [] rest

def decodePercent (text : List Char) : List Char := decodePercentAfter [] text

end TaskGraph.Text
