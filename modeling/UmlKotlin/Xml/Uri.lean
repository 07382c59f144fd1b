import UmlKotlin.Xml.Scanner

/-!
The syntax of URI references (RFC 3986), which the name of a namespace has to follow.
-/

set_option autoImplicit false

namespace UmlKotlin.Xml.Uri

def isPlain (c : Char) : Bool :=
  c.isAlphanum || "-._~!$&'()*+,;=".toList.contains c

/-- Characters of one class, or percent signs with two hexadecimal digits: what follows them. -/
def afterRun (allowed : Char → Bool) : List Char → List Char
  | '%' :: a :: b :: cs =>
    if isHexDigit a && isHexDigit b then afterRun allowed cs else '%' :: a :: b :: cs
  | c :: cs => if allowed c then afterRun allowed cs else c :: cs
  | [] => []

def isSegmentChar (c : Char) : Bool := isPlain c || c == ':' || c == '@'

def afterScheme? (cs : List Char) : Option (List Char) :=
  match cs with
  | c :: rest =>
    let rest := rest.dropWhile fun d => d.isAlphanum || d == '+' || d == '-' || d == '.'
    match rest with
    | ':' :: rest => if c.isAlpha then some rest else none
    | _ => none
  | [] => none

def maxService : Nat := 2147483647

/-- The text after the number of a service, which has a digit when its colon is there. -/
def afterService? (cs : List Char) : Option (List Char) :=
  match cs with
  | ':' :: rest =>
    match rest.takeWhile Char.isDigit with
    | [] => none
    | digits => if numberOf 10 digits ≤ maxService then some (rest.dropWhile Char.isDigit) else none
  | _ => some cs

/-- The text after one number of an address: one digit, two that do not begin with a zero, or three
that begin with a one or with at most two and five. -/
def afterByte? (cs : List Char) : Option (List Char) :=
  match cs.takeWhile Char.isDigit with
  | [] => none
  | [_] => some (cs.drop 1)
  | [a, _] => if a = '0' then none else some (cs.drop 2)
  | a :: b :: _ => if a = '1' || (a = '2' && b ≤ '5') then some (cs.drop 3) else none

def afterPoint? : List Char → Option (List Char)
  | '.' :: cs => some cs
  | _ => none

def afterAddress? (cs : List Char) : Option (List Char) := do
  let cs ← afterPoint? (← afterByte? cs)
  let cs ← afterPoint? (← afterByte? cs)
  let cs ← afterPoint? (← afterByte? cs)
  afterByte? cs

/-- The text after the name of a host, which ends with an address where it begins with one. -/
def afterHost (cs : List Char) : List Char := (afterAddress? cs).getD (afterRun isPlain cs)

def afterAuthority? (cs : List Char) : Option (List Char) :=
  let host := match afterRun (fun c => isPlain c || c == ':') cs with
    | '@' :: rest => rest
    | _ => cs
  match host with
  | '[' :: rest =>
    match rest.dropWhile (· ≠ ']') with
    | ']' :: rest => afterService? rest
    | _ => none
  | _ => afterService? (afterHost host)

/-- The text after the path that follows an authority: empty, or begun by a slash. -/
def afterRooted (cs : List Char) : List Char :=
  match cs with
  | '/' :: _ => afterRun (fun c => isSegmentChar c || c == '/') cs
  | _ => cs

/-- The text after an authority with its path, or after a path alone. -/
def afterHierarchy? (firstSegment : Char → Bool) (cs : List Char) : Option (List Char) :=
  match cs with
  | '/' :: '/' :: rest => (afterAuthority? rest).map afterRooted
  | '/' :: _ => some (afterRooted cs)
  | _ =>
    let rest := afterRun firstSegment cs
    some (if rest.length < cs.length then afterRooted rest else rest)

def endsWell (cs : List Char) : Bool :=
  let cs := match cs with
    | '?' :: rest => afterRun (fun c => isSegmentChar c || c == '/' || c == '?') rest
    | _ => cs
  match cs with
  | '#' :: rest =>
    (afterRun (fun c => isSegmentChar c || c == '/' || c == '?' || c == '[' || c == ']') rest).isEmpty
  | _ => cs.isEmpty

/-- A URI names its scheme; a reference relative to one does not. -/
inductive Form
  | absolute
  | relative
  deriving DecidableEq, Repr

/-- The form of a URI reference; none if the text is no URI reference. -/
def form? (s : String) : Option Form :=
  let cs := s.toList
  let absolute := (afterScheme? cs).bind (afterHierarchy? isSegmentChar)
  let relative := afterHierarchy? (fun c => isPlain c || c == '@') cs
  if absolute.any endsWell then some .absolute
  else if relative.any endsWell then some .relative
  else none

end UmlKotlin.Xml.Uri
