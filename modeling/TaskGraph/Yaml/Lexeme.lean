import TaskGraph.Number.Decimal
import TaskGraph.Number.Hexadecimal
import TaskGraph.Text.Utf8
import TaskGraph.Yaml.Token
set_option autoImplicit false

/-! Reading the tokens that are names: directives, anchors, aliases and tags. -/

namespace TaskGraph.Yaml

abbrev Lexed (α : Type) := Except Error (α × Cursor)

def isNameChar (c : Char) : Bool := c.isAlphanum || c = '-' || c = '_'

def isUriChar (c : Char) : Bool := c.isAlphanum || "-;/?:@&=+$,_.!~*'()[]%".toList.contains c

def uriEscapes : Nat → Cursor → List UInt8 → Lexed (List UInt8)
  | 0, place, bytes => .ok (bytes.reverse, place)
  | steps + 1, place, bytes =>
      if place.peek == some '%' then
        match place.rest with
        | _ :: a :: b :: _ =>
            match hexNumber? [a, b] with
            | some byte => uriEscapes steps (place.skip 3) (UInt8.ofNat byte :: bytes)
            | none => .error (.malformed "a percent sign needs two hexadecimal digits")
        | _ => .error (.malformed "a percent sign needs two hexadecimal digits")
      else .ok (bytes.reverse, place)

def uriChars : Nat → Cursor → Lexed (List Char)
  | 0, place => .ok ([], place)
  | steps + 1, place =>
      match place.peek with
      | none => .ok ([], place)
      | some c =>
          if c = '%' then
            match uriEscapes place.size place [] with
            | .error cause => .error cause
            | .ok (bytes, after) =>
                match Text.decodeUtf8? bytes with
                | none => .error (.malformed "a tag is not UTF-8")
                | some decoded =>
                    (uriChars steps after).map fun (more, last) => (decoded ++ more, last)
          else if isUriChar c then (uriChars steps place.next).map fun (more, last) =>
            (c :: more, last)
          else .ok ([], place)

def uri (place : Cursor) : Lexed (List Char) :=
  match uriChars place.size place with
  | .error cause => .error cause
  | .ok (content, after) =>
      if after.index = place.index then .error (.malformed "a tag is empty")
        else .ok (content, after)

def tagHandle (place : Cursor) : Lexed (List Char) :=
  if place.peek ≠ some '!' then .error (.malformed "a tag handle begins with an exclamation mark")
  else if place.peekAt 1 == some ' ' then .ok (['!'], place.next)
  else
    let (name, after) := place.next.takeWhile isNameChar
    if after.peek == some '!' then .ok ('!' :: name ++ ['!'], after.next)
    else .error (.malformed "a tag handle ends with an exclamation mark")

def wholeNumber (place : Cursor) : Lexed Nat :=
  let (digits, after) := place.takeWhile Char.isDigit
  if digits.isEmpty then .error (.malformed "a version needs digits")
    else .ok (decimalValue digits, after)

def directiveEnd (place : Cursor) : Except Error Cursor :=
  let place := place.skipSpaces
  let place := if place.peek == some '#' then place.skipWhile fun c => !isBreak c else place
  if atBreak place.peek then .ok place.skipBreak else .error (.malformed "a directive goes on")

def versionDirective (place : Cursor) : Lexed Directive :=
  match wholeNumber place.skipSpaces with
  | .error cause => .error cause
  | .ok (major, after) =>
      if after.peek ≠ some '.' then .error (.malformed "a version needs a point")
      else match wholeNumber after.next with
        | .error cause => .error cause
        | .ok (_, last) =>
            if atSpace last.peek then .ok (.version major, last)
              else .error (.malformed "a version goes on")

def tagDirective (place : Cursor) : Lexed Directive :=
  match tagHandle place.skipSpaces with
  | .error cause => .error cause
  | .ok (handle, after) =>
      if after.peek ≠ some ' ' then .error (.malformed "a tag directive needs a space")
      else match uri after.skipSpaces with
        | .error cause => .error cause
        | .ok (content, last) =>
            if atSpace last.peek then .ok (.tag handle content, last)
            else .error (.malformed "a tag directive goes on")

def directive (place : Cursor) : Lexed Directive :=
  let (name, after) := place.next.takeWhile isNameChar
  if name.isEmpty then .error (.malformed "a directive needs a name")
  else if !atSpace after.peek then .error (.malformed "a directive name goes on")
  else
    let read : Lexed Directive :=
      if name = ['Y', 'A', 'M', 'L'] then versionDirective after
      else if name = ['T', 'A', 'G'] then tagDirective after
      else .ok (.other, after.skipWhile fun c => !isBreak c)
    match read with
    | .error cause => .error cause
    | .ok (content, last) => (directiveEnd last).map fun place => (content, place)

def anchorName (place : Cursor) : Lexed (List Char) :=
  let (name, after) := place.next.takeWhile isNameChar
  let ends := match after.peek with
    | none => true
    | some c => atBlank (some c) || "?:,]\x7d%@\x60".toList.contains c
  if name.isEmpty then .error (.malformed "an anchor needs a name")
  else if ends then .ok (name, after)
  else .error (.malformed "an anchor name goes on")

def hasHandle (word : List Char) : Bool := (word.takeWhile fun c => !atSpace (some c)).contains '!'

/-- Reads a tag: a full one between angle brackets, a lone mark, or a handle and a suffix. -/
def tag (place : Cursor) : Lexed (Option (List Char) × List Char) :=
  let read : Lexed (Option (List Char) × List Char) :=
    if place.peekAt 1 == some '<' then
      match uri (place.skip 2) with
      | .error cause => .error cause
      | .ok (suffix, after) =>
          if after.peek == some '>' then .ok ((none, suffix), after.next)
          else .error (.malformed "a tag needs its closing bracket")
    else if atBlank (place.peekAt 1) then .ok ((none, ['!']), place.next)
    else
      let handle : Lexed (List Char) :=
        if hasHandle (place.rest.drop 1) then tagHandle place else .ok (['!'], place.next)
      match handle with
      | .error cause => .error cause
      | .ok (handle, after) => (uri after).map fun (suffix, last) => ((some handle, suffix), last)
  match read with
  | .error cause => .error cause
  | .ok (content, after) =>
      if atSpace after.peek then .ok (content, after) else .error (.malformed "a tag goes on")

end TaskGraph.Yaml
