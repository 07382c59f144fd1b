import UmlKotlin.Data.Json
import UmlKotlin.Text.Lines

/-!
Scalars of YAML 1.1 that are written without quotation marks: by its form such a scalar is nothing,
a truth value, a number, a day or a moment, or else a text.
-/

set_option autoImplicit false

namespace UmlKotlin.Data.Yaml

inductive Meaning
  | datum (s : Scalar)
  /-- A number, day or moment that does not exist. -/
  | nonexistent
  /-- The key of entries to be merged in. -/
  | merge
  /-- The mark of a default value, which is a text as a key and nothing elsewhere. -/
  | standIn
  deriving DecidableEq, Repr

def sign (cs : List Char) : Bool × List Char :=
  match cs with
  | '-' :: cs => (true, cs)
  | '+' :: cs => (false, cs)
  | cs => (false, cs)

def isBinary (c : Char) : Bool := c == '0' || c == '1'

def isOctal (c : Char) : Bool := '0' ≤ c && c ≤ '7'

def isHex (c : Char) : Bool := (Json.hexDigit? c).isSome

def isRun (digit : Char → Bool) (cs : List Char) : Bool :=
  !cs.isEmpty && cs.all fun c => digit c || c == '_'

/-- The value of digits in a base; underscores do not count. -/
def valueOf (base : Nat) (cs : List Char) : Nat :=
  (cs.filterMap Json.hexDigit?).foldl (fun n d => n * base + d) 0

def isSixtieth (cs : List Char) : Bool :=
  match cs with
  | [a] => a.isDigit
  | [a, b] => '0' ≤ a && a ≤ '5' && b.isDigit
  | _ => false

/-- A whole number in decimal has at most this many digits. -/
def maxDigits : Nat := 4300

/-- The value of digits in a base; there is none without any digit. -/
def based? (base : Nat) (cs : List Char) : Option Nat :=
  if cs.all (· == '_') then none else some (valueOf base cs)

/-- The value of digits in decimal; there is none if there are too many. -/
def decimal? (cs : List Char) : Option Nat :=
  if maxDigits < (cs.filter (· ≠ '_')).length then none else some (valueOf 10 cs)

def sixtieths? (parts : List (List Char)) : Option Nat :=
  (parts.mapM decimal?).map fun ns => ns.foldl (fun n part => n * 60 + part) 0

def isDigitOrGap (c : Char) : Bool := c.isDigit || c == '_'

/-- A whole number without its sign: its value, if it has one, for a text of such a form. -/
def natural? (cs : List Char) : Option (Option Nat) :=
  match cs with
  | ['0'] => some (some 0)
  | '0' :: 'b' :: ds => if isRun isBinary ds then some (based? 2 ds) else none
  | '0' :: 'x' :: ds => if isRun isHex ds then some (based? 16 ds) else none
  | '0' :: ds => if isRun isOctal ds then some (some (valueOf 8 ds)) else none
  | c :: ds =>
    if !c.isDigit then none
    else if ds.all isDigitOrGap then some (decimal? cs)
    else match Text.pieces (· == ':') cs with
      | head :: parts =>
        if head.all isDigitOrGap && parts.all isSixtieth then some (sixtieths? (head :: parts))
        else none
      | [] => none
  | [] => none

def exponent? (cs : List Char) : Option Int :=
  match cs with
  | [] => some 0
  | e :: s :: d :: ds =>
    if (e == 'e' || e == 'E') && (s == '+' || s == '-') && (d :: ds).all Char.isDigit then
      let n := valueOf 10 (d :: ds)
      some (if s == '-' then -(n : Int) else n)
    else none
  | _ => none

def decimal (whole places : List Char) (exponent : Int) : Double :=
  Double.ofDecimal false (valueOf 10 (whole ++ places))
    (exponent - (places.filter (· ≠ '_')).length)

/-- The sum of parts of which each counts sixty times as much as the next one, the last first. -/
def sexagesimal (parts : List Double) : Double :=
  (parts.foldl (fun (sum, base) part =>
    (sum.add (part.mul (Double.ofInt base)), base * 60)) (Double.zero false, (1 : Int))).1

def fraction? (signed : Bool) (cs : List Char) : Option Double :=
  let spelling := String.ofList cs
  if [".inf", ".Inf", ".INF"].contains spelling then some (.infinite false)
  else if !signed && [".nan", ".NaN", ".NAN"].contains spelling then some .nan
  else
    let whole := cs.takeWhile isDigitOrGap
    match cs.drop whole.length with
    | '.' :: rest =>
      let places := rest.takeWhile isDigitOrGap
      let begins := match whole with
        | [] => !signed && places.head?.any Char.isDigit
        | c :: _ => c.isDigit
      if begins then (exponent? (rest.drop places.length)).map (decimal whole places) else none
    | ':' :: _ =>
      match Text.pieces (· == '.') cs with
      | [before, places] =>
        match Text.pieces (· == ':') before with
        | head :: parts =>
          if head.head?.any Char.isDigit && parts.all isSixtieth && places.all isDigitOrGap then
            match (head :: parts).reverse with
            | last :: others =>
              some (sexagesimal (decimal last places 0 :: others.map fun p => decimal p [] 0))
            | [] => none
          else none
        | [] => none
      | _ => none
    | _ => none

/-- A number of one or two digits, but no fewer than `least`, and what follows. -/
def short? (least : Nat) (cs : List Char) : Option (Nat × List Char) :=
  let ds := (cs.take 2).takeWhile Char.isDigit
  if ds.length < least then none else some (valueOf 10 ds, cs.drop ds.length)

def after? (c : Char) : List Char → Option (List Char)
  | d :: cs => if d = c then some cs else none
  | [] => none

def zone? (cs : List Char) : Option (Option Int) :=
  match cs.dropWhile (· == ' ') with
  | [] => if cs.isEmpty then some none else none
  | ['Z'] => some (some 0)
  | s :: cs => do
    if s ≠ '+' && s ≠ '-' then none
    let (hours, cs) ← short? 1 cs
    let minutes ← match cs with
      | [] => some 0
      | cs => do
        let (minutes, cs) ← short? 2 (← after? ':' cs)
        if cs.isEmpty then some minutes else none
    let offset : Int := hours * 60 + minutes
    some (some (if s = '-' then -offset else offset))

def microsOf (digits : List Char) : Nat :=
  let ds := digits.take 6
  valueOf 10 ds * Nat.pow 10 (6 - ds.length)

def time? (cs : List Char) : Option (Nat × Nat × Nat × Nat × Option Int) := do
  let (hour, cs) ← short? 1 cs
  let (minute, cs) ← short? 2 (← after? ':' cs)
  let (second, cs) ← short? 2 (← after? ':' cs)
  let (digits, cs) := match cs with
    | '.' :: cs => (cs.takeWhile Char.isDigit, cs.dropWhile Char.isDigit)
    | cs => ([], cs)
  some (hour, minute, second, microsOf digits, ← zone? cs)

/-- What a day or a moment stands for, for a text of such a form. A day by itself has two digits for
the month and for the day of the month. -/
def day? (cs : List Char) : Option Meaning := do
  let year := cs.takeWhile Char.isDigit
  if year.length ≠ 4 then none
  let rest ← after? '-' (cs.drop 4)
  let (month, behind) ← short? 1 rest
  let (day, behind) ← short? 1 (← after? '-' behind)
  let date? := Date.of? (valueOf 10 year) month day
  match behind with
  | [] => if cs.length = 10 then some ((date?.map fun d => .datum (.date d)).getD .nonexistent) else none
  | c :: time =>
    if c ≠ 'T' && c ≠ 't' && c ≠ ' ' then none
    let time := if c = ' ' then time.dropWhile (· == ' ') else time
    let (hour, minute, second, micro, offset) ← time? time
    let moment? := date?.bind fun d => Moment.of? d hour minute second micro offset
    some ((moment?.map fun m => .datum (.moment m)).getD .nonexistent)

def plain (spelling : String) : Meaning :=
  if ["", "~", "null", "Null", "NULL"].contains spelling then .datum .null
  else if ["yes", "Yes", "YES", "true", "True", "TRUE", "on", "On", "ON"].contains spelling then
    .datum (.bool true)
  else if ["no", "No", "NO", "false", "False", "FALSE", "off", "Off", "OFF"].contains spelling then
    .datum (.bool false)
  else if spelling = "<<" then .merge
  else if spelling = "=" then .standIn
  else
    let cs := spelling.toList
    let (negative, digits) := sign cs
    let signed := digits.length < cs.length
    match natural? digits, fraction? signed digits, day? cs with
    | some (some n), _, _ => .datum (.int (if negative then -n else n))
    | some none, _, _ => .nonexistent
    | none, some d, _ => .datum (.float (if negative then d.neg else d))
    | none, none, some meaning => meaning
    | none, none, none => .datum (.text spelling)

end UmlKotlin.Data.Yaml
