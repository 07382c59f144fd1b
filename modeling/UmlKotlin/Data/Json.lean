import UmlKotlin.Data.Value

/-!
JSON in its strict form (RFC 8259): no comments, no trailing commas, no numbers beyond the
grammar, and no escape for half of a surrogate pair. Of entries with the same key the last counts.
A text is read exactly (`parse?`), or in the numbers of 64 bits (`load?`).
-/

set_option autoImplicit false

namespace UmlKotlin.Data.Json

def isBlank (c : Char) : Bool := c == ' ' || c == '\t' || c == '\n' || c == '\r'

def skip (cs : List Char) : List Char := cs.dropWhile isBlank

def hexDigit? (c : Char) : Option Nat :=
  if c.isDigit then some (c.toNat - '0'.toNat)
  else if 'a' ≤ c && c ≤ 'f' then some (c.toNat - 'a'.toNat + 10)
  else if 'A' ≤ c && c ≤ 'F' then some (c.toNat - 'A'.toNat + 10)
  else none

def unit? (a b c d : Char) : Option Nat := do
  some ((((← hexDigit? a) * 16 + (← hexDigit? b)) * 16 + (← hexDigit? c)) * 16 + (← hexDigit? d))

def escape? (c : Char) : Option Char :=
  [('"', '"'), ('\\', '\\'), ('/', '/'), ('b', '\x08'), ('f', '\x0c'), ('n', '\n'), ('r', '\r'),
    ('t', '\t')].lookup c

/-- The characters of a string up to its closing quotation mark, and what follows. -/
def stringBody : List Char → Option (List Char × List Char)
  | [] => none
  | '"' :: cs => some ([], cs)
  | '\\' :: 'u' :: a :: b :: c :: d :: cs => do
    let u ← unit? a b c d
    if u < 0xD800 || 0xE000 ≤ u then
      (stringBody cs).map fun r => (Char.ofNat u :: r.1, r.2)
    else if 0xDC00 ≤ u then none
    else match cs with
      | '\\' :: 'u' :: a :: b :: c :: d :: cs => do
        let v ← unit? a b c d
        if 0xDC00 ≤ v && v < 0xE000 then
          (stringBody cs).map fun r =>
            (Char.ofNat (0x10000 + (u - 0xD800) * 0x400 + (v - 0xDC00)) :: r.1, r.2)
        else none
      | _ => none
  | '\\' :: e :: cs => do
    let c ← escape? e
    (stringBody cs).map fun r => (c :: r.1, r.2)
  | c :: cs => if c.toNat < 0x20 || c = '\\' then none
    else (stringBody cs).map fun r => (c :: r.1, r.2)

def digits? (cs : List Char) : Option (List Char × List Char) :=
  match cs.takeWhile Char.isDigit with
  | [] => none
  | ds => some (ds, cs.dropWhile Char.isDigit)

def natOf (ds : List Char) : Nat := ds.foldl (fun n c => n * 10 + (c.toNat - '0'.toNat)) 0

def fraction? : List Char → Option (List Char × List Char)
  | '.' :: cs => digits? cs
  | cs => some ([], cs)

def exponent? : List Char → Option (Option Int × List Char)
  | e :: cs =>
    if e = 'e' || e = 'E' then
      match cs with
      | '+' :: cs => (digits? cs).map fun r => (some (natOf r.1), r.2)
      | '-' :: cs => (digits? cs).map fun r => (some (-natOf r.1), r.2)
      | cs => (digits? cs).map fun r => (some (natOf r.1), r.2)
    else some (none, e :: cs)
  | [] => some (none, [])

def minInt : Int := -Int.pow 2 63

def maxInt : Int := Int.pow 2 64 - 1

/-- Limits on what a text may spell: whether whole numbers beyond 64 bits are rounded, and how deep
lists and records lie in one another. -/
structure Limits where
  narrow : Bool
  depth : Nat

def float? (negative : Bool) (digits : Nat) (exponent : Int) : Option Scalar :=
  let d := Double.ofDecimal negative digits exponent
  if d.isFinite then some (.float d) else none

/-- A number without its sign. No zero stands in front of other digits. -/
def number? (limits : Limits) (negative : Bool) (cs : List Char) : Option (Scalar × List Char) := do
  let (whole, cs) ← match cs with
    | '0' :: cs => some (['0'], cs)
    | cs => digits? cs
  let (fraction, cs) ← fraction? cs
  let (exponent, cs) ← exponent? cs
  if fraction.isEmpty && exponent.isNone then
    let i : Int := if negative then -natOf whole else natOf whole
    if limits.narrow && !(minInt ≤ i && i ≤ maxInt) then
      (float? negative (natOf whole) 0).map (·, cs)
    else some (.int i, cs)
  else
    (float? negative (natOf (whole ++ fraction)) (exponent.getD 0 - fraction.length)).map (·, cs)

def after? (word : String) (cs : List Char) : Option (List Char) :=
  if word.toList.isPrefixOf cs then some (cs.drop word.toList.length) else none

mutual

/-- A value, without white space in front; every level takes at least one character. -/
def value? (limits : Limits) : Nat → Nat → List Char → Option (Value × List Char)
  | 0, _, _ => none
  | fuel + 1, depth, cs =>
    match cs with
    | '"' :: cs => (stringBody cs).map fun r => (.text (String.ofList r.1), r.2)
    | '{' :: cs =>
      if limits.depth ≤ depth then none
      else match skip cs with
        | '}' :: cs => some (.record [], cs)
        | cs => (entries? limits fuel (depth + 1) cs).map fun r => (Value.ofEntries r.1, r.2)
    | '[' :: cs =>
      if limits.depth ≤ depth then none
      else match skip cs with
        | ']' :: cs => some (.list [], cs)
        | cs => (items? limits fuel (depth + 1) cs).map fun r => (.list r.1, r.2)
    | '-' :: cs => (number? limits true cs).map fun r => (.scalar r.1, r.2)
    | cs =>
      match after? "true" cs, after? "false" cs, after? "null" cs with
      | some cs, _, _ => some (.scalar (.bool true), cs)
      | _, some cs, _ => some (.scalar (.bool false), cs)
      | _, _, some cs => some (.null, cs)
      | none, none, none => (number? limits false cs).map fun r => (.scalar r.1, r.2)

def items? (limits : Limits) : Nat → Nat → List Char → Option (List Value × List Char)
  | 0, _, _ => none
  | fuel + 1, depth, cs => do
    let (item, cs) ← value? limits fuel depth (skip cs)
    match skip cs with
    | ',' :: cs => (items? limits fuel depth cs).map fun r => (item :: r.1, r.2)
    | ']' :: cs => some ([item], cs)
    | _ => none

def entries? (limits : Limits) :
    Nat → Nat → List Char → Option (List (Scalar × Value) × List Char)
  | 0, _, _ => none
  | fuel + 1, depth, cs => do
    let (key, cs) ← match skip cs with
      | '"' :: cs => stringBody cs
      | _ => none
    let (value, cs) ← match skip cs with
      | ':' :: cs => value? limits fuel depth (skip cs)
      | _ => none
    let entry := (Scalar.text (String.ofList key), value)
    match skip cs with
    | ',' :: cs => (entries? limits fuel depth cs).map fun r => (entry :: r.1, r.2)
    | '}' :: cs => some ([entry], cs)
    | _ => none

end

def valueOf? (limits : Limits) (cs : List Char) : Option Value := do
  let (value, cs) ← value? limits (cs.length + 1) 0 (skip cs)
  if (skip cs).isEmpty then some value else none

/-- The value that a text spells, if it spells one, with whole numbers of any size. -/
def parse? (cs : List Char) : Option Value := valueOf? ⟨false, cs.length⟩ cs

/-- Lists and records lie at most this deep in one another. -/
def maxDepth : Nat := 1024

/-- The value that a text spells, if it spells one, in numbers of 64 bits. -/
def load? (cs : List Char) : Option Value := valueOf? ⟨true, maxDepth⟩ cs

end UmlKotlin.Data.Json
