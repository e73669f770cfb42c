set_option autoImplicit false

/-! Blank characters: those with the Unicode property White_Space. Spaces in the wider sense are the
blanks and the four control characters that separate records. -/

namespace TaskGraph.Text

def isBlank (c : Char) : Bool :=
  let n := c.toNat
  (9 ≤ n && n ≤ 13) || n == 0x20 || n == 0x85 || n == 0xa0 || n == 0x1680 ||
    (0x2000 ≤ n && n ≤ 0x200a) ||
    n == 0x2028 || n == 0x2029 || n == 0x202f || n == 0x205f || n == 0x3000

def trimBlanks (text : List Char) : List Char :=
  ((text.dropWhile isBlank).reverse.dropWhile isBlank).reverse

def isSpace (c : Char) : Bool := isBlank c || (0x1c ≤ c.toNat && c.toNat ≤ 0x1f)

def trimSpaceRight (text : List Char) : List Char := (text.reverse.dropWhile isSpace).reverse

def trimSpace (text : List Char) : List Char := trimSpaceRight (text.dropWhile isSpace)

end TaskGraph.Text
