import UmlKotlin.Text.Encoding
import UmlKotlin.Text.Quoted
import UmlKotlin.Xml.Document
import UmlKotlin.Xmi.Extraction

/-!
Loading a model from the octets of a document. A document type declaration is refused as soon as
the root begins; any other violation of XML refuses the document too.
-/

set_option autoImplicit false

namespace UmlKotlin.Xmi

open Text (Encoding Octets)

inductive LoadError
  | unknownEncoding (name : String)
  /-- The name of the encoding holds what no document may hold. -/
  | unusableEncoding (name : String)
  | doctype
  | malformed
  deriving DecidableEq, Repr

def LoadError.message : LoadError → String
  | .unknownEncoding name => "unknown encoding: '" ++ name ++ "'"
  | .unusableEncoding name => "not the name of an encoding: " ++ Text.quote name
  | .doctype => "DTD is not allowed in XMI input"
  | .malformed => "Failed to parse XMI input:"

def defaultEncoding : String := "windows-1252"

/-- What no document may hold; it stands for octets that encode nothing. -/
def undecoded : Char := '\uFFFF'

def blockSize : Nat := 32768

/-- The characters of the first so many blocks, if these octets can be decoded. -/
def blocks? (encoding : Encoding) (octets : Octets) (count : Nat) : Option (List Char) :=
  let decoded := encoding.decode (octets.take (count * blockSize))
  if decoded.ending = .broken then none else some decoded.chars

/-- The characters of all the blocks in front of the first one that cannot be decoded. -/
def wholeBlocks (encoding : Encoding) (octets : Octets) : List Char :=
  let counts := List.range (octets.length / blockSize + 1)
  (counts.reverse.findSome? (blocks? encoding octets)).getD []

/-- What reading a document in the given encoding finds; the document's own declaration of an
encoding does not count. UTF-8 is decoded on the way, any other encoding block by block before the
characters of a block are read. -/
def readingOf (encoding : Encoding) (octets : Octets) : Xml.Reading :=
  let decoded := encoding.decode octets
  match decoded.ending with
  | .whole => Xml.read false decoded.chars
  | .cut => Xml.read false (decoded.chars ++ [undecoded])
  | .broken =>
    let read := if encoding = .utf8 then decoded.chars else wholeBlocks encoding octets
    Xml.read false (read ++ [undecoded])

def eventsOf (encoding : Encoding) (octets : Octets) : Except LoadError (List Xml.Event) :=
  let reading := readingOf encoding octets
  if reading.doctype && !reading.events.isEmpty then .error .doctype
  else if reading.acceptable then .ok reading.events
  else .error .malformed

/-- The model that a document declares, its references not yet resolved. An empty name of an
encoding stands for the default one. -/
def load (encoding : String) (skipped : List String) (octets : Octets) : Except LoadError Uml.Model :=
  let name := if encoding = "" then defaultEncoding else encoding
  if !name.toList.all Xml.isChar then .error (.unusableEncoding name)
  else match Encoding.ofName? name with
    | none => .error (.unknownEncoding name)
    | some encoding => (eventsOf encoding octets).map (extract skipped)

end UmlKotlin.Xmi
