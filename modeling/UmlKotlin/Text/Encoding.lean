/-!
Character encodings of documents, and what octets say under each of them. Decoding stops at
the first octets that encode nothing; the characters before them are kept.
-/

set_option autoImplicit false

namespace UmlKotlin.Text

abbrev Octets := List UInt8

/-- How the octets of a text end: with a character, amid one, or where they encode nothing. -/
inductive Ending
  | whole
  | cut
  | broken
  deriving DecidableEq, Repr

/-- The characters that were read, and how the octets end. -/
structure Decoded where
  chars : List Char
  ending : Ending
  deriving DecidableEq, Repr

namespace Decoded

def done : Decoded := ⟨[], .whole⟩

def cut : Decoded := ⟨[], .cut⟩

def broken : Decoded := ⟨[], .broken⟩

def push (c : Char) (d : Decoded) : Decoded := ⟨c :: d.chars, d.ending⟩

def whole (d : Decoded) : Bool := d.ending = .whole

end Decoded

inductive Encoding
  | windows1252
  | utf8
  | latin1
  | latin9
  | ascii
  | utf16Little
  | utf16Big
  deriving DecidableEq, Repr

namespace Encoding

/-- The character of an octet of windows-1252 between 0x80 and 0x9F; five octets have none. -/
def windowsSymbol? (b : UInt8) : Option Char :=
  match b.toNat with
  | 0x80 => some '€' | 0x82 => some '‚' | 0x83 => some 'ƒ' | 0x84 => some '„'
  | 0x85 => some '…' | 0x86 => some '†' | 0x87 => some '‡' | 0x88 => some 'ˆ'
  | 0x89 => some '‰' | 0x8A => some 'Š' | 0x8B => some '‹' | 0x8C => some 'Œ'
  | 0x8E => some 'Ž' | 0x91 => some '\u2018' | 0x92 => some '\u2019' | 0x93 => some '\u201C'
  | 0x94 => some '\u201D' | 0x95 => some '•' | 0x96 => some '\u2013' | 0x97 => some '\u2014'
  | 0x98 => some '\u02DC' | 0x99 => some '™' | 0x9A => some 'š' | 0x9B => some '›'
  | 0x9C => some 'œ' | 0x9E => some 'ž' | 0x9F => some 'Ÿ'
  | _ => none

def latin1Char (b : UInt8) : Char := Char.ofNat b.toNat

def windows1252Char? (b : UInt8) : Option Char :=
  if 0x80 ≤ b && b ≤ 0x9F then windowsSymbol? b else some (latin1Char b)

def latin9Char (b : UInt8) : Char :=
  match b.toNat with
  | 0xA4 => '€' | 0xA6 => 'Š' | 0xA8 => 'š' | 0xB4 => 'Ž' | 0xB8 => 'ž' | 0xBC => 'Œ'
  | 0xBD => 'œ' | 0xBE => 'Ÿ'
  | _ => latin1Char b

def asciiChar? (b : UInt8) : Option Char := if b < 0x80 then some (latin1Char b) else none

def decodeSingle (char? : UInt8 → Option Char) : Octets → Decoded
  | [] => .done
  | b :: rest => match char? b with
    | some c => (decodeSingle char? rest).push c
    | none => .broken

def isTail (b : UInt8) : Bool := 0x80 ≤ b && b ≤ 0xBF

def tailBits (b : UInt8) : Nat := b.toNat % 0x40

/-- UTF-8 in its strict form: shortest spellings only, no surrogates, nothing above U+10FFFF. -/
def decodeUtf8 : Octets → Decoded
  | [] => .done
  | a :: rest =>
    if a < 0x80 then (decodeUtf8 rest).push (Char.ofNat a.toNat)
    else if a < 0xC2 || a > 0xF4 then .broken
    else match rest with
    | [] => .cut
    | b :: rest =>
      if !isTail b then .broken
      else if a < 0xE0 then
        (decodeUtf8 rest).push (Char.ofNat (a.toNat % 0x20 * 0x40 + tailBits b))
      else match rest with
      | [] => .cut
      | c :: rest =>
        if !isTail c then .broken
        else if a < 0xF0 then
          if (a == 0xE0 && b < 0xA0) || (a == 0xED && b > 0x9F) then .broken
          else (decodeUtf8 rest).push
            (Char.ofNat (a.toNat % 0x10 * 0x1000 + tailBits b * 0x40 + tailBits c))
        else match rest with
        | [] => .cut
        | d :: rest =>
          if !isTail d || (a == 0xF0 && b < 0x90) || (a == 0xF4 && b > 0x8F) then .broken
          else (decodeUtf8 rest).push
            (Char.ofNat (a.toNat % 0x08 * 0x40000 + tailBits b * 0x1000 + tailBits c * 0x40 +
              tailBits d))

/-- The 16-bit units of an octet string, by the value of a pair of octets, and whether no single
octet is left. -/
def units (value : UInt8 → UInt8 → Nat) : Octets → List Nat × Bool
  | a :: b :: rest => let r := units value rest; (value a b :: r.1, r.2)
  | [] => ([], true)
  | [_] => ([], false)

/-- The characters of 16-bit units, after which the octets end as given; a surrogate counts in a
pair only. -/
def decodeUnits (ending : Ending) : List Nat → Decoded
  | [] => ⟨[], ending⟩
  | u :: rest =>
    if u < 0xD800 || 0xE000 ≤ u then (decodeUnits ending rest).push (Char.ofNat u)
    else if 0xDC00 ≤ u then .broken
    else match rest with
      | [] => .cut
      | v :: rest =>
        if 0xDC00 ≤ v && v < 0xE000 then
          (decodeUnits ending rest).push
            (Char.ofNat (0x10000 + (u - 0xD800) * 0x400 + (v - 0xDC00)))
        else .broken

def littleEndian (a b : UInt8) : Nat := a.toNat + 0x100 * b.toNat

def bigEndian (a b : UInt8) : Nat := b.toNat + 0x100 * a.toNat

def decodeUtf16 (value : UInt8 → UInt8 → Nat) (octets : Octets) : Decoded :=
  let r := units value octets
  decodeUnits (if r.2 then .whole else .cut) r.1

/-- The characters without the mark that may stand in front of a text. -/
def withoutMark (d : Decoded) : Decoded :=
  match d.chars with
  | '\uFEFF' :: rest => ⟨rest, d.ending⟩
  | _ => d

/-- What the octets say. UTF-8 and UTF-16 may begin with a byte order mark, which is no
character of the text. -/
def decode (e : Encoding) (octets : Octets) : Decoded :=
  match e with
  | windows1252 => decodeSingle windows1252Char? octets
  | utf8 => withoutMark (decodeUtf8 octets)
  | latin1 => decodeSingle (fun b => some (latin1Char b)) octets
  | latin9 => decodeSingle (fun b => some (latin9Char b)) octets
  | ascii => decodeSingle asciiChar? octets
  | utf16Little => withoutMark (decodeUtf16 littleEndian octets)
  | utf16Big => withoutMark (decodeUtf16 bigEndian octets)

/-- The encoding of a name; letter case does not matter. UTF-16 has the lower octet of a unit first
unless its name says otherwise. -/
def ofName? (name : String) : Option Encoding :=
  let names : List (String × Encoding) := [
    ("windows-1252", windows1252), ("cp1252", windows1252), ("ms-ansi", windows1252),
    ("utf-8", utf8), ("utf8", utf8),
    ("iso-8859-1", latin1), ("iso8859-1", latin1), ("iso_8859-1", latin1), ("latin1", latin1),
    ("iso-latin-1", latin1), ("l1", latin1),
    ("iso-8859-15", latin9), ("iso8859-15", latin9), ("iso_8859-15", latin9), ("latin-9", latin9),
    ("us-ascii", ascii), ("ascii", ascii), ("us", ascii),
    ("utf-16", utf16Little), ("utf16", utf16Little), ("utf-16le", utf16Little), ("utf16le", utf16Little),
    ("utf-16be", utf16Big), ("utf16be", utf16Big)]
  names.lookup (String.ofList (name.toList.map Char.toLower))

end Encoding

def toUtf8 (s : String) : Octets := s.toUTF8.data.toList

end UmlKotlin.Text
