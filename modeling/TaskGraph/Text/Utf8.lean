set_option autoImplicit false

/-! UTF-8. Strict decoding reads a byte at a time and keeps the value collected so far, the number
of bytes it still waits for and the least value that needs so many bytes. Lossy decoding puts a
replacement where bytes are no character. -/

namespace TaskGraph.Text

/-- Decodes from the middle of a character: `need` more bytes complete `value`, which must be at
least `least`. -/
def decodeFrom (need value least : Nat) : List UInt8 → Option (List Char)
  | [] => if need = 0 then some [] else none
  | byte :: rest =>
      let b := byte.toNat
      if need = 0 then
        if b < 0x80 then (decodeFrom 0 0 0 rest).map (Char.ofNat b :: ·)
        else if b < 0xc2 then none
        else if b < 0xe0 then decodeFrom 1 (b - 0xc0) 0x80 rest
        else if b < 0xf0 then decodeFrom 2 (b - 0xe0) 0x800 rest
        else if b < 0xf5 then decodeFrom 3 (b - 0xf0) 0x10000 rest
        else none
      else if 0x80 ≤ b ∧ b < 0xc0 then
        let value := value * 64 + (b - 0x80)
        if need = 1 then
          if least ≤ value ∧ value.isValidChar then
            (decodeFrom 0 0 0 rest).map (Char.ofNat value :: ·)
          else none
        else decodeFrom (need - 1) value least rest
      else none

def decodeUtf8? (bytes : List UInt8) : Option (List Char) := decodeFrom 0 0 0 bytes

/-- A character of which some bytes were read: how many more it needs, the
value so far, and the bounds of the next byte. -/
structure Unfinished where
  need : Nat
  value : Nat
  low : Nat
  high : Nat

def replacement : Char := '\ufffd'

def beginChar (byte : Nat) : List Char × Option Unfinished :=
  if byte < 0x80 then ([Char.ofNat byte], none)
  else if byte < 0xc2 ∨ 0xf4 < byte then ([replacement], none)
  else if byte < 0xe0 then ([], some ⟨1, byte - 0xc0, 0x80, 0xbf⟩)
  else if byte < 0xf0 then
    ([], some ⟨2, byte - 0xe0, if byte = 0xe0 then 0xa0 else 0x80, if byte = 0xed then
      0x9f else 0xbf⟩)
  else ([], some ⟨3, byte - 0xf0, if byte = 0xf0 then 0x90 else 0x80, if byte = 0xf4 then
    0x8f else 0xbf⟩)

/-- Decodes from the middle of a character. The longest beginning of a
character that is broken off is replaced as one. -/
def decodeLossyFrom (unfinished : Option Unfinished) : List UInt8 → List Char
  | [] => if unfinished.isSome then [replacement] else []
  | byte :: rest =>
      let b := byte.toNat
      match unfinished with
      | none => (beginChar b).1 ++ decodeLossyFrom (beginChar b).2 rest
      | some part =>
          if part.low ≤ b ∧ b ≤ part.high then
            let value := part.value * 64 + (b - 0x80)
            if part.need = 1 then Char.ofNat value :: decodeLossyFrom none rest
            else decodeLossyFrom (some ⟨part.need - 1, value, 0x80, 0xbf⟩) rest
          else replacement :: (beginChar b).1 ++ decodeLossyFrom (beginChar b).2 rest

def decodeUtf8Lossy (bytes : List UInt8) : List Char := decodeLossyFrom none bytes

def encodeUtf8 (text : List Char) : List UInt8 := text.flatMap String.utf8EncodeChar

end TaskGraph.Text
