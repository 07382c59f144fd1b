/-!
Cutting texts: at line boundaries, and at separator characters.
-/

set_option autoImplicit false

namespace UmlKotlin.Text

/-- The characters that end a line: line feed, vertical tab, form feed, carriage return, the
information separators U+001C to U+001E, next line, and the two Unicode separators. -/
def isLineBreak (c : Char) : Bool :=
  let n := c.toNat
  (10 ≤ n && n ≤ 13) || (0x1C ≤ n && n ≤ 0x1E) || n == 0x85 || n == 0x2028 || n == 0x2029

/-- The lines of a text without their ends. A carriage return and a line feed end one line
together, and a break at the very end opens no further line. -/
def lines : List Char → List (List Char)
  | [] => []
  | '\r' :: '\n' :: rest => [] :: lines rest
  | c :: rest =>
    if isLineBreak c then [] :: lines rest
    else match lines rest with
      | [] => [[c]]
      | l :: ls => (c :: l) :: ls

/-- What stands between the separator characters: one piece more than there are separators. -/
def pieces (separator : Char → Bool) : List Char → List (List Char)
  | [] => [[]]
  | c :: rest =>
    if separator c then [] :: pieces separator rest
    else match pieces separator rest with
      | [] => [[c]]
      | p :: ps => (c :: p) :: ps

/-- The maximal runs of characters that are not separators. -/
def runs (separator : Char → Bool) (cs : List Char) : List (List Char) :=
  (pieces separator cs).filter (· ≠ [])

def splitAt (separator : Char) (s : String) : List String :=
  (pieces (· == separator) s.toList).map String.ofList

def afterLast (separator : Char) (s : String) : String :=
  String.ofList (s.toList.reverse.takeWhile (· ≠ separator)).reverse

end UmlKotlin.Text
