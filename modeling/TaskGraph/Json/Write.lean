import TaskGraph.Json.Basic
import TaskGraph.Text.Quoted
set_option autoImplicit false

/-! The text of a JSON document, two spaces further in at each level,
in ASCII or with all characters as they are. -/

namespace TaskGraph.Json

def unitEscape (unit : Nat) : List Char := '\\' :: 'u' :: Text.hexDigits 4 unit

def unitsEscape (c : Char) : List Char :=
  let n := c.toNat
  if n < 0x10000 then unitEscape n
  else unitEscape (0xd800 + (n - 0x10000) / 0x400) ++ unitEscape (0xdc00 + (n - 0x10000) % 0x400)

def writeChar (ascii : Bool) (c : Char) : List Char :=
  if c = '"' then ['\\', '"']
  else if c = '\\' then ['\\', '\\']
  else if c = '\n' then ['\\', 'n']
  else if c = '\r' then ['\\', 'r']
  else if c = '\t' then ['\\', 't']
  else if c = '\x08' then ['\\', 'b']
  else if c = '\x0c' then ['\\', 'f']
  else if c.toNat < 0x20 ∨ (ascii ∧ 0x7e < c.toNat) then unitsEscape c
  else [c]

def writeText (ascii : Bool) (content : String) : List Char :=
  '"' :: content.toList.flatMap (writeChar ascii) ++ ['"']

def newline (level : Nat) : List Char := '\n' :: List.replicate (2 * level) ' '

mutual

def writeAt (ascii : Bool) (level : Nat) : Json → List Char
  | null => ['n', 'u', 'l', 'l']
  | bool truth => if truth then ['t', 'r', 'u', 'e'] else ['f', 'a', 'l', 's', 'e']
  | int number => (toString number).toList
  | float number => (nameOf.floatText number).toList
  | text content => writeText ascii content
  | list [] => ['[', ']']
  | list (first :: rest) =>
      '[' :: newline (level + 1) ++ writeAt ascii (level + 1) first ++
        writeItems ascii (level + 1) rest ++ newline level ++ [']']
  | object [] => ['\x7b', '\x7d']
  | object ((name, first) :: rest) =>
      '\x7b' :: newline (level + 1) ++ writeText ascii name ++ ':' :: ' ' ::
        writeAt ascii (level + 1) first ++
        writeMembers ascii (level + 1) rest ++ newline level ++ ['\x7d']

def writeItems (ascii : Bool) (level : Nat) : List Json → List Char
  | [] => []
  | item :: rest => ',' :: newline level ++ writeAt ascii level item ++ writeItems ascii level rest

def writeMembers (ascii : Bool) (level : Nat) : List (String × Json) → List Char
  | [] => []
  | (name, item) :: rest =>
      ',' :: newline level ++ writeText ascii name ++ ':' :: ' ' :: writeAt ascii level item ++
        writeMembers ascii level rest

end

def write (ascii : Bool) (document : Json) : List Char := writeAt ascii 0 document

end TaskGraph.Json
