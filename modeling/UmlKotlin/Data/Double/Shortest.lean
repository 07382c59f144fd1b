import UmlKotlin.Data.Double.Basic

/-!
The shortest decimal spelling of a number: the fewest digits that read back as it, and of those the
nearest.
-/

set_option autoImplicit false

namespace UmlKotlin.Data.Double

/-- Digits, and the place of the decimal point: so many digits stand before it. -/
structure Spelling where
  digits : Nat
  point : Int
  deriving DecidableEq, Repr

namespace Spelling

def read (s : Spelling) : Double := ofDecimal false s.digits (s.point - width s.digits)

def trimmed (s : Spelling) : Spelling := { s with digits := go s.digits s.digits }
where
  go : Nat → Nat → Nat
    | 0, n => n
    | fuel + 1, n => if n % 10 = 0 && n ≠ 0 then go fuel (n / 10) else n

end Spelling

def scaleDownTen (num den : Nat) : Int → Nat × Nat
  | .ofNat e => (num, den * Nat.pow 10 e)
  | .negSucc e => (num * Nat.pow 10 (e + 1), den)

/-- The place of the decimal point of a fraction that is not zero: the least power of ten above it. -/
def pointOf (num den : Nat) : Int :=
  let start := ((Nat.log2 num : Int) - Nat.log2 den) * 30103 / 100000 - 1
  let above (k : Int) : Bool := let s := scaleDownTen num den k; s.1 < s.2
  (((List.range 5).map fun (i : Nat) => start + (i : Int)).find? above).getD start

/-- The spelling of a fraction with `count` digits that reads back as `d`: of its two neighbours the
nearer one that does. -/
def spelledWith? (d : Double) (num den : Nat) (point : Int) (count : Nat) : Option Spelling :=
  let (num, den) := scaleDownTen num den (point - count)
  let below := num / den
  let spelling (n : Nat) : Spelling := ⟨n, point - count + width n⟩
  let order := if 2 * (num % den) < den || (2 * (num % den) = den && below % 2 = 0)
    then [below, below + 1] else [below + 1, below]
  (order.map spelling).find? fun s => s.digits ≠ 0 && s.read = d

def shortest (mantissa : Nat) (exponent : Int) : Spelling :=
  let (num, den) := match exponent with
    | .ofNat e => (mantissa * Nat.pow 2 e, 1)
    | .negSucc e => (mantissa, Nat.pow 2 (e + 1))
  let point := pointOf num den
  let found := (List.range 17).findSome? fun n =>
    spelledWith? (.finite false mantissa exponent) num den point (n + 1)
  (found.getD ⟨mantissa, point⟩).trimmed

/-- A number is spelled with an exponent from this many digits before its decimal point on. -/
def manyDigits : Int := 17

/-- A number is spelled with an exponent from this many zeros behind its decimal point on. -/
def manyZeros : Int := 4

def exponentText (e : Int) : String :=
  let digits := toString e.natAbs
  "e" ++ (if e < 0 then "-" else "+") ++ (if digits.length < 2 then "0" ++ digits else digits)

/-- The text of a spelling. Without an exponent there is at least one digit behind the point; with
one there is one digit before it, and the point only stands before further digits. -/
def Spelling.toText (s : Spelling) : String :=
  let cs := (toString s.digits).toList
  if s.point < manyDigits && -manyZeros < s.point then
    match s.point with
    | .ofNat 0 => "0." ++ String.ofList cs
    | .ofNat p =>
      let whole := cs.take p ++ List.replicate (p - cs.length) '0'
      let places := cs.drop p
      String.ofList whole ++ "." ++ (if places.isEmpty then "0" else String.ofList places)
    | .negSucc z => "0." ++ String.ofList (List.replicate (z + 1) '0' ++ cs)
  else
    let places := cs.drop 1
    String.ofList (cs.take 1) ++ (if places.isEmpty then "" else "." ++ String.ofList places) ++
      exponentText (s.point - 1)

def toText : Double → String
  | .finite s m e =>
    (if s then "-" else "") ++ (if m = 0 then "0.0" else (shortest m e).toText)
  | .infinite s => if s then "-inf" else "inf"
  | .nan => "nan"

end UmlKotlin.Data.Double
