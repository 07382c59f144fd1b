import UmlKotlin.Text.Encoding
import UmlKotlin.Xml.Document

/-!
Documents as octets, in the encoding that they themselves tell: by a byte order mark, else by their
XML declaration, else UTF-8.
-/

set_option autoImplicit false

namespace UmlKotlin.Xml

open Text (Encoding Octets)

/-- The encoding that the XML declaration names, as far as the document has one; a declaration that
ASCII can be read in is in no encoding of 16-bit units. -/
def declaredEncoding (octets : Octets) : Option Encoding :=
  let head := Encoding.latin1.decode octets
  match declaration?.run (Source.ofChars {} (unifyLineEnds head.chars)) with
  | some (some declaration, _) =>
    match declaration.encoding with
    | none => some .utf8
    | some name =>
      (Encoding.ofName? name).map fun e =>
        match e with
        | .utf16Little | .utf16Big => .utf8
        | e => e
  | _ => some .utf8

/-- The encoding of a document; none if it names one that is not supported. -/
def encodingOf (octets : Octets) : Option Encoding :=
  match octets with
  | 0xEF :: 0xBB :: 0xBF :: _ => some .utf8
  | 0xFF :: 0xFE :: _ => some .utf16Little
  | 0xFE :: 0xFF :: _ => some .utf16Big
  | 0x3C :: 0 :: 0x3F :: 0 :: _ => some .utf16Little
  | 0 :: 0x3C :: 0 :: 0x3F :: _ => some .utf16Big
  | _ => declaredEncoding octets

/-- The root element of an acceptable document, in which references to entities are replaced. -/
def rootOf (octets : Octets) : Option Element := do
  let encoding ← encodingOf octets
  let decoded := encoding.decode octets
  let reading := read true decoded.chars
  if decoded.whole && reading.acceptable then
    match reading.events with
    | .start e :: _ => some e
    | _ => none
  else none

end UmlKotlin.Xml
