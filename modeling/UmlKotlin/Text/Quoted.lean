import UmlKotlin.Text.Hidden

/-!
Texts shown between quotation marks, in messages. Single marks are used, or double ones where the
text has single marks only. The backslash, the mark itself and characters that are not printable
are escaped.
-/

set_option autoImplicit false

namespace UmlKotlin.Text

def isPrintable (c : Char) : Bool :=
  let n := c.toNat
  0x20 ≤ n && !(hiddenRanges.any fun r => r.1 ≤ n && n ≤ r.2)

def hex (width n : Nat) : List Char :=
  let digits := Nat.toDigits 16 n
  List.replicate (width - digits.length) '0' ++ digits

def quoteChar (mark c : Char) : List Char :=
  if c = mark || c = '\\' then ['\\', c]
  else if c = '\t' then ['\\', 't']
  else if c = '\n' then ['\\', 'n']
  else if c = '\r' then ['\\', 'r']
  else if isPrintable c then [c]
  else if c.toNat ≤ 0xFF then '\\' :: 'x' :: hex 2 c.toNat
  else if c.toNat ≤ 0xFFFF then '\\' :: 'u' :: hex 4 c.toNat
  else '\\' :: 'U' :: hex 8 c.toNat

def quote (s : String) : String :=
  let cs := s.toList
  let mark := if cs.contains '\'' && !cs.contains '"' then '"' else '\''
  String.ofList ([mark] ++ cs.flatMap (quoteChar mark) ++ [mark])

end UmlKotlin.Text
