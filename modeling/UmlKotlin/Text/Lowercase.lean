import UmlKotlin.Text.CaseTable

/-!
Lower-casing over all of Unicode. Every character has its simple lower-case letter, with two
exceptions: the dotted capital I becomes an i with a combining dot, and a capital sigma at the
end of a word becomes the final sigma.
-/

set_option autoImplicit false

namespace UmlKotlin.Text

namespace Case

def lowerBeyondAscii (c : Char) : Char :=
  let n := c.toNat
  match lowerRuns.find? fun r => r.first ≤ n && n ≤ r.last && (n - r.first) % r.step == 0 with
  | some r => Char.ofNat ((n : Int) + r.shift).toNat
  | none => c

def lower (c : Char) : Char :=
  if c.toNat < 0x80 then c.toLower else lowerBeyondAscii c

def isCased (c : Char) : Bool := within casedRanges c.toNat

def isIgnorable (c : Char) : Bool := within ignorableRanges c.toNat

/-- Whether the nearest character that is not case-ignorable is a cased one. -/
def nextIsCased (cs : List Char) : Bool :=
  match cs.dropWhile isIgnorable with
  | c :: _ => isCased c
  | [] => false

/-- A capital sigma is final when a cased character stands before it and none after it. -/
def sigma (before after : List Char) : Char :=
  if nextIsCased before && !nextIsCased after then 'ς' else 'σ'

end Case

/-- Characters in lower case; `before` holds the characters already passed, nearest first. -/
def lowerFrom (before : List Char) : List Char → List Char
  | [] => []
  | c :: rest =>
    (if c = 'İ' then ['i', '\u0307']
      else if c = 'Σ' then [Case.sigma before rest]
      else [Case.lower c]) ++ lowerFrom (c :: before) rest

def toLower (s : String) : String := String.ofList (lowerFrom [] s.toList)

end UmlKotlin.Text
