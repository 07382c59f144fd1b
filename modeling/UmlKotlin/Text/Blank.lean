/-!
White space. A character is space when it has the Unicode property White_Space or is one of
the four information separators U+001C to U+001F; the zero-width characters are not space.
A text is blank when it has no other character.
-/

set_option autoImplicit false

namespace UmlKotlin.Text

def isSpace (c : Char) : Bool :=
  let n := c.toNat
  (9 ≤ n && n ≤ 13) || (0x1C ≤ n && n ≤ 0x20) || n == 0x85 || n == 0xA0 || n == 0x1680 ||
    (0x2000 ≤ n && n ≤ 0x200A) || n == 0x2028 || n == 0x2029 || n == 0x202F || n == 0x205F ||
    n == 0x3000

def trimEnd (cs : List Char) : List Char := (cs.reverse.dropWhile isSpace).reverse

def trimChars (cs : List Char) : List Char := trimEnd (cs.dropWhile isSpace)

def trim (s : String) : String := String.ofList (trimChars s.toList)

def isBlank (s : String) : Bool := s.toList.all isSpace

/-- An absent text is blank too. -/
def blank (s : Option String) : Bool := s.all isBlank

end UmlKotlin.Text
