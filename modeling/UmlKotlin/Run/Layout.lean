import UmlKotlin.Data.Display

/-!
Layouts of log lines. A layout is a text in which percent signs introduce fields: a name in
parentheses, flags, a width, a precision and the letter of a conversion. A text that has no field at
all is no layout.
-/

set_option autoImplicit false

namespace UmlKotlin.Run

open Data (Scalar)

/-- What stands between the name of a field and the letter of its conversion. -/
structure Shape where
  flags : List Char := []
  width : Nat := 0
  precision : Option Nat := none
  deriving DecidableEq, Repr

inductive Piece
  | text (c : Char)
  | field (name : String) (shape : Shape) (conversion : Char)
  deriving DecidableEq, Repr

abbrev Layout := List Piece

namespace Shape

def has (s : Shape) (flag : Char) : Bool := s.flags.contains flag

/-- A text put into the width of a field, behind a lead such as a sign. Spaces fill up in front of
both, zeros between them. -/
def fill (s : Shape) (zeros : Bool) (lead body : List Char) : List Char :=
  let missing := s.width - (lead.length + body.length)
  if s.has '-' then lead ++ body ++ List.replicate missing ' '
  else if zeros && s.has '0' then lead ++ List.replicate missing '0' ++ body
  else List.replicate missing ' ' ++ lead ++ body

def sign (s : Shape) : List Char :=
  if s.has '+' then ['+'] else if s.has ' ' then [' '] else []

def showText (s : Shape) (cs : List Char) : List Char :=
  s.fill false [] (cs.take (s.precision.getD cs.length))

/-- A whole number in a base, with as many digits as the precision asks for. -/
def showWhole (s : Shape) (base : Nat) (mark : List Char) (n : Nat) : List Char :=
  let digits := Nat.toDigits base n
  let zeros := List.replicate (s.precision.getD 0 - digits.length) '0'
  s.fill true (s.sign ++ (if s.has '#' then mark else [])) (zeros ++ digits)

def places (point : Bool) (digits : List Char) : List Char :=
  if digits.isEmpty && !point then [] else '.' :: digits

def fixed (point : Bool) (precision n : Nat) : List Char :=
  Nat.toDigits 10 n ++ places point (List.replicate precision '0')

/-- The digits of a number rounded to one digit and as many places, and the power of ten of the first
one. A half goes to the even neighbour. -/
def rounded (precision n : Nat) : List Char × Nat :=
  let exponent := (Nat.toDigits 10 n).length - 1
  let m := if precision < exponent then Data.Double.roundEven n (Nat.pow 10 (exponent - precision))
    else n * Nat.pow 10 (precision - exponent)
  let digits := Nat.toDigits 10 m
  (digits.take (precision + 1), exponent + (digits.length - (precision + 1)))

def scientific (point : Bool) (letter : Char) (digits : List Char) (exponent : Nat) : List Char :=
  digits.take 1 ++ places point (digits.drop 1) ++ [letter, '+'] ++
    (if exponent < 10 then ['0'] else []) ++ Nat.toDigits 10 exponent

/-- A number in the shorter one of both forms, without zeros at its end unless asked for. -/
def general (full : Bool) (letter : Char) (precision n : Nat) : List Char :=
  let (digits, exponent) := rounded (precision - 1) n
  let trim (ds : List Char) : List Char :=
    if full then ds else (ds.reverse.dropWhile (· == '0')).reverse
  if exponent < precision then
    digits.take (exponent + 1) ++ places full (trim (digits.drop (exponent + 1)))
  else scientific full letter (digits.take 1 ++ trim (digits.drop 1)) exponent

def showNumber? (s : Shape) (conversion : Char) (n : Nat) : Option (List Char) :=
  let precision := s.precision.getD 6
  let point := s.has '#'
  let upper : Bool := conversion.isUpper
  let letter := if upper then 'E' else 'e'
  match conversion.toLower with
  | 'd' | 'i' | 'u' => if upper then none else some (showWhole { s with flags := s.flags.erase '#' } 10 [] n)
  | 'o' => if upper then none else some (s.showWhole 8 ['0', 'o'] n)
  | 'x' =>
    let digits := s.showWhole 16 ['0', 'x'] n
    some (if upper then digits.map Char.toUpper else digits)
  | 'f' => some (s.fill true s.sign (fixed point precision n))
  | 'e' =>
    let (digits, exponent) := rounded precision n
    some (s.fill true s.sign (scientific point letter digits exponent))
  | 'g' => some (s.fill true s.sign (general point letter (max 1 precision) n))
  | 'c' => some (s.fill false [] [Char.ofNat n])
  | _ => none

def escapeAll (cs : List Char) : List Char :=
  let hex (width n : Nat) : List Char :=
    let digits := Nat.toDigits 16 n
    List.replicate (width - digits.length) '0' ++ digits
  cs.flatMap fun c =>
    let n := c.toNat
    if n < 0x80 then [c]
    else if n < 0x100 then '\\' :: 'x' :: hex 2 n
    else if n < 0x10000 then '\\' :: 'u' :: hex 4 n
    else '\\' :: 'U' :: hex 8 n

def render (s : Shape) (conversion : Char) (value : Scalar) : List Char :=
  match conversion, value with
  | '%', _ => ['%']
  | 's', _ => s.showText value.display.toList
  | 'r', _ => s.showText value.displayInside.toList
  | 'a', _ => s.showText (escapeAll value.displayInside.toList)
  | _, .int n => (s.showNumber? conversion n.toNat).getD value.display.toList
  | 'c', .text t => s.fill false [] t.toList
  | _, _ => value.display.toList

end Shape

namespace Layout

def isFlag (c : Char) : Bool := ['#', '0', '+', ' ', '-'].contains c

def isNameChar (c : Char) : Bool := c.isAlphanum || c == '_' || 0x80 ≤ c.toNat

/-- The letters of conversions; their case does not matter here. -/
def isConversion (c : Char) : Bool := "diouxefgcrsa%".toList.contains c.toLower

/-- A number in decimal, or zero without digits, and what follows. -/
def number (cs : List Char) : Nat × List Char :=
  let digits := cs.takeWhile Char.isDigit
  (digits.foldl (fun n c => n * 10 + (c.toNat - '0'.toNat)) 0, cs.drop digits.length)

/-- What follows a letter that tells the size of a number, which does not matter. -/
def dropSize (cs : List Char) : List Char :=
  match cs with
  | 'h' :: cs | 'l' :: cs | 'L' :: cs => cs
  | cs => cs

def shape (cs : List Char) : Shape × List Char :=
  let flags := cs.takeWhile isFlag
  let (width, cs) := number (cs.drop flags.length)
  match cs with
  | '.' :: cs =>
    let (precision, cs) := number cs
    ({ flags, width, precision := some precision }, dropSize cs)
  | cs => ({ flags, width }, dropSize cs)

def dropMeasure (cs : List Char) : List Char :=
  match cs with
  | '*' :: cs => cs
  | cs => cs.dropWhile Char.isDigit

def beginsField (cs : List Char) : Bool :=
  match cs with
  | '%' :: '(' :: cs =>
    let name := cs.takeWhile isNameChar
    match cs.drop name.length with
    | ')' :: cs =>
      let cs := dropMeasure (cs.dropWhile isFlag)
      let cs := match cs with
        | '.' :: places => if (dropMeasure places).length < places.length then dropMeasure places else cs
        | cs => cs
      !name.isEmpty && cs.head?.any isConversion
    | _ => false
  | _ => false

def hasField : List Char → Bool
  | [] => false
  | c :: cs => beginsField (c :: cs) || hasField cs

def pieces : Nat → List Char → Layout
  | 0, _ => []
  | _, [] => []
  | n + 1, '%' :: '(' :: cs =>
    let name := cs.takeWhile (· ≠ ')')
    match shape (cs.drop (name.length + 1)) with
    | (shape, conversion :: cs) => .field (String.ofList name) shape conversion :: pieces n cs
    | (_, []) => []
  | n + 1, '%' :: cs =>
    match shape cs with
    | (_, '%' :: cs) => .text '%' :: pieces n cs
    | _ => .text '%' :: pieces n cs
  | n + 1, c :: cs => .text c :: pieces n cs

/-- The layout that a text spells, if it has a field; an empty text stands for the message alone. -/
def ofText? (text : String) : Option Layout :=
  let cs := if text = "" then "%(message)s".toList else text.toList
  if hasField cs then some (pieces cs.length cs) else none

/-- A line in a layout; `field?` gives the values of fields. -/
def render (layout : Layout) (field? : String → Option Scalar) : String :=
  String.ofList (layout.flatMap fun
    | .text c => [c]
    | .field name shape conversion => shape.render conversion ((field? name).getD (.text "")))

/-- The layout where none is chosen: level, source and message. -/
def standard : Layout :=
  [.field "levelname" {} 's', .text ':', .field "name" {} 's', .text ':', .field "message" {} 's']

end Layout

end UmlKotlin.Run
