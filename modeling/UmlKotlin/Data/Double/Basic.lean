/-!
Numbers in the format of 64 bits (IEEE 754), computed from exact numbers: a nonnegative fraction is
rounded to the nearest number of the format, and of two that are equally near to the even one.
-/

set_option autoImplicit false

namespace UmlKotlin.Data

/-- A number in the format of 64 bits. A finite one is its mantissa times a power of two, up to its
sign; a zero has a sign too. -/
inductive Double
  | finite (negative : Bool) (mantissa : Nat) (exponent : Int)
  | infinite (negative : Bool)
  | nan
  deriving DecidableEq, Repr

namespace Double

/-- A mantissa has fewer bits than this plus one. -/
def bits : Nat := 52

def minExponent : Int := -1074

def maxExponent : Int := 971

def zero (negative : Bool) : Double := .finite negative 0 minExponent

def scaleDown (num den : Nat) : Int → Nat × Nat
  | .ofNat e => (num, den * Nat.pow 2 e)
  | .negSucc e => (num * Nat.pow 2 (e + 1), den)

/-- The whole number nearest to a fraction, an even one if two are equally near. -/
def roundEven (num den : Nat) : Nat :=
  let q := num / den
  let r := num % den
  if 2 * r < den then q
  else if den < 2 * r then q + 1
  else if q % 2 = 0 then q else q + 1

/-- The exponent of the number nearest to a fraction that is not zero: its mantissa has all bits
unless the exponent is the least one. -/
def exponentFor (num den : Nat) : Int :=
  let low := max minExponent ((Nat.log2 num : Int) - Nat.log2 den - (bits + 1))
  let scaled := scaleDown num den low
  if scaled.1 / scaled.2 < Nat.pow 2 (bits + 1) then low else low + 1

def round (negative : Bool) (num den : Nat) : Double :=
  if num = 0 then zero negative
  else
    let e := exponentFor num den
    let scaled := scaleDown num den e
    let m := roundEven scaled.1 scaled.2
    let (m, e) := if m = Nat.pow 2 (bits + 1) then (Nat.pow 2 bits, e + 1) else (m, e)
    if maxExponent < e then .infinite negative else .finite negative m e

def width (n : Nat) : Nat := (Nat.toDigits 10 n).length

/-- No number has a decimal point as far to the right as this. -/
def farRight : Int := 310

/-- What has its decimal point as far to the left as this is next to nothing. -/
def farLeft : Int := -330

def ofDecimal (negative : Bool) (digits : Nat) (exponent : Int) : Double :=
  let point := exponent + width digits
  if digits = 0 || point < farLeft then zero negative
  else if farRight < point then .infinite negative
  else match exponent with
    | .ofNat e => round negative (digits * Nat.pow 10 e) 1
    | .negSucc e => round negative digits (Nat.pow 10 (e + 1))

def ofInt (i : Int) : Double := round (i < 0) i.natAbs 1

def isFinite : Double → Bool
  | .finite _ _ _ => true
  | _ => false

def isZero : Double → Bool
  | .finite _ m _ => m = 0
  | _ => false

def neg : Double → Double
  | .finite s m e => .finite (!s) m e
  | .infinite s => .infinite (!s)
  | .nan => .nan

def toInt? : Double → Option Int
  | .finite s m e =>
    let magnitude := match e with
      | .ofNat e => some (m * Nat.pow 2 e)
      | .negSucc e => if m % Nat.pow 2 (e + 1) = 0 then some (m / Nat.pow 2 (e + 1)) else none
    magnitude.map fun n => if s then -(n : Int) else n
  | _ => none

def inLeastUnits (s : Bool) (m : Nat) (e : Int) : Int :=
  let n := m * Nat.pow 2 (e - minExponent).toNat
  if s then -(n : Int) else n

def unitsPerOne : Nat := Nat.pow 2 (-minExponent).toNat

/-- The sum of two numbers of which none is special; others have none. -/
def add : Double → Double → Double
  | .finite s m e, .finite t n f =>
    let sum := inLeastUnits s m e + inLeastUnits t n f
    if sum = 0 then zero (s && t) else round (sum < 0) sum.natAbs unitsPerOne
  | .infinite s, .finite _ _ _ => .infinite s
  | .finite _ _ _, .infinite t => .infinite t
  | .infinite s, .infinite t => if s = t then .infinite s else .nan
  | _, _ => .nan

def mul : Double → Double → Double
  | .finite s m e, .finite t n f =>
    match e + f with
    | .ofNat g => round (s != t) (m * n * Nat.pow 2 g) 1
    | .negSucc g => round (s != t) (m * n) (Nat.pow 2 (g + 1))
  | .infinite s, .finite t n _ => if n = 0 then .nan else .infinite (s != t)
  | .finite s m _, .infinite t => if m = 0 then .nan else .infinite (s != t)
  | .infinite s, .infinite t => .infinite (s != t)
  | _, _ => .nan

end Double

end UmlKotlin.Data
