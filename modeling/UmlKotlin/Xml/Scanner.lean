import UmlKotlin.Xml.Doctype
import UmlKotlin.Xml.Remark

/-!
Scanning XML text: the character classes of XML 1.0, and small scanners that take something off
the front of the characters or fail. On their way they note what they learn about the document.
-/

set_option autoImplicit false

namespace UmlKotlin.Xml

/-- Line ends in their one form: a carriage return, alone or before a line feed, is a line feed. -/
def unifyLineEnds : List Char → List Char
  | [] => []
  | '\r' :: '\n' :: rest => '\n' :: unifyLineEnds rest
  | '\r' :: rest => '\n' :: unifyLineEnds rest
  | c :: rest => c :: unifyLineEnds rest

/-- What is left to scan, and what has been noted so far. -/
structure Source where
  chars : List Char
  /-- There are no more characters left than this. -/
  size : Nat
  doctype : Doctype
  remarks : Remarks := {}
  /-- The cost of the texts that entities have brought in. -/
  spent : Nat := 0
  /-- The identifiers that elements have. -/
  ids : List String := []

def Source.ofChars (doctype : Doctype) (chars : List Char) : Source :=
  { chars, size := chars.length, doctype }

/-- Something taken off the front of a source; no result is a violation of the grammar. -/
abbrev Scanner (α : Type) := StateT Source Option α

namespace Scanner

variable {α : Type}

def onChars (f : List Char → Option (α × List Char)) : Scanner α := fun s =>
  (f s.chars).map fun r => (r.1, { s with chars := r.2 })

def rest : Scanner (List Char) := fun s => some (s.chars, s)

def require (b : Bool) : Scanner Unit := if b then pure () else failure

def doctype : Scanner Doctype := fun s => some (s.doctype, s)

def modifyDoctype (f : Doctype → Doctype) : Scanner Unit := fun s =>
  some ((), { s with doctype := f s.doctype })

def remark (severity : Severity) : Scanner Unit := fun s =>
  some ((), { s with remarks := s.remarks.add severity })

def allowance : Nat := 1000000

def fixedCost : Nat := 20

def spend (length : Nat) : Scanner Unit := fun s =>
  let spent := s.spent + length + fixedCost
  if spent ≤ allowance then some ((), { s with spent }) else none

def sees (text : String) : Scanner Bool := fun s => some (text.toList.isPrefixOf s.chars, s)

def atEnd : Scanner Bool := fun s => some (s.chars.isEmpty, s)

def literal (text : String) : Scanner Unit := onChars fun cs =>
  if text.toList.isPrefixOf cs then some ((), cs.drop text.toList.length) else none

def span (p : Char → Bool) : Scanner (List Char) := onChars fun cs =>
  some (cs.takeWhile p, cs.dropWhile p)

def span1 (p : Char → Bool) : Scanner (List Char) := do
  let cs ← span p
  require (!cs.isEmpty)
  pure cs

def blanks : Scanner Unit := do let _ ← span isBlank

def blanks1 : Scanner Unit := do let _ ← span1 isBlank

/-- Optional white space; the answer tells whether there was any. -/
def blanks? : Scanner Bool := do
  let cs ← span isBlank
  pure (!cs.isEmpty)

def anyName : Scanner String := onChars fun cs => match cs with
  | c :: cs' =>
    if isNameStart c then some (String.ofList (c :: cs'.takeWhile isNameChar), cs'.dropWhile isNameChar)
    else none
  | [] => none

/-- A name, or one part of a name, has at most this many octets. -/
def maxName : Nat := 50000

def isShort (name : String) : Bool := name.utf8ByteSize ≤ maxName

def name : Scanner String := do
  let text ← anyName
  require (isShort text)
  pure text

/-- The characters before the first occurrence of `stop`, and those after it. -/
def cutAt (stop : List Char) : List Char → Option (List Char × List Char)
  | [] => none
  | c :: cs =>
    if stop.isPrefixOf (c :: cs) then some ([], (c :: cs).drop stop.length)
    else (cutAt stop cs).map fun r => (c :: r.1, r.2)

def upTo (stop : String) : Scanner (List Char) := do
  let cs ← onChars (cutAt stop.toList)
  require (cs.all isChar)
  pure cs

def quote : Scanner Char := onChars fun cs => match cs with
  | '"' :: cs => some ('"', cs)
  | '\'' :: cs => some ('\'', cs)
  | _ => none

def quoted (p : Char → Bool) : Scanner (List Char) := do
  let q ← quote
  let cs ← span fun c => c ≠ q && p c
  literal q.toString
  pure cs

/-- Repetition for as long as `more` says so, at most as often as there are characters. -/
def many (more : Scanner Bool) (item : Scanner α) : Scanner (List α) := fun s => go s.size s
where
  go : Nat → Scanner (List α)
    | 0 => pure []
    | n + 1 => do
      if ← more then
        let a ← item
        let as ← go n
        pure (a :: as)
      else pure []

/-- All of a text scanned in place of what is left, to which the scan then returns. -/
def inside (text : List Char) (scan : Scanner α) : Scanner α := fun s =>
  match scan.run { s with chars := text, size := text.length } with
  | some (a, t) => if t.chars.isEmpty then some (a, { t with chars := s.chars, size := s.size }) else none
  | none => none

end Scanner

open Scanner

/-- A comment, after its opening `<!--`: two hyphens stand in it only at its end. -/
def comment : Scanner Unit := do
  let _ ← upTo "--"
  literal ">"

/-- The targets of instructions that may begin with `xml`. -/
def knownTargets : List String := ["xml-stylesheet", "xml-model"]

/-- The target of an instruction. The name `xml` in any letter case is none; a name that begins
so draws a warning unless it is known, and a colon draws an error. -/
def target : Scanner Unit := do
  let written ← name
  let cs := written.toList.map Char.toLower
  require (cs != ['x', 'm', 'l'])
  if ['x', 'm', 'l'].isPrefixOf cs && !knownTargets.contains written then remark .warning
  if written.toList.contains ':' then remark .error

def instruction : Scanner Unit := do
  target
  if ← sees "?>" then literal "?>"
  else
    blanks1
    let _ ← upTo "?>"

def charOfNumber (n : Nat) : Scanner Char := do
  require (n ≤ 0x10FFFF && isChar (Char.ofNat n) && (Char.ofNat n).toNat == n)
  pure (Char.ofNat n)

def numberOf (base : Nat) (digits : List Char) : Nat :=
  digits.foldl (fun n c =>
    n * base + (if c.isDigit then c.toNat - '0'.toNat else c.toLower.toNat - 'a'.toNat + 10)) 0

def isHexDigit (c : Char) : Bool := c.isDigit || ('a' ≤ c && c ≤ 'f') || ('A' ≤ c && c ≤ 'F')

def predefined : List (String × Char) :=
  [("lt", '<'), ("gt", '>'), ("amp", '&'), ("quot", '"'), ("apos", '\'')]

/-- What an ampersand refers to: a character, or the name of an entity. -/
inductive Reference
  | char (c : Char)
  | entity (name : String)
  deriving DecidableEq, Repr

def reference : Scanner Reference := do
  if ← sees "#x" then
    literal "#x"
    let digits ← span1 isHexDigit
    literal ";"
    return .char (← charOfNumber (numberOf 16 digits))
  else if ← sees "#" then
    literal "#"
    let digits ← span1 Char.isDigit
    literal ";"
    return .char (← charOfNumber (numberOf 10 digits))
  else
    let entity ← name
    literal ";"
    match predefined.lookup entity with
    | some c => return .char c
    | none => return .entity entity

end UmlKotlin.Xml
