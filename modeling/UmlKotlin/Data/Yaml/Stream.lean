import UmlKotlin.Text.Encoding

/-!
A YAML file as a stream of characters. It is read in blocks, so that a fault of its characters is
met only when its block is reached; a mistake in the syntax that stands in an earlier block is met
first.
-/

set_option autoImplicit false

namespace UmlKotlin.Data.Yaml

inductive Error
  /-- The octets encode no characters. -/
  | encoding
  /-- A character stands in the text that cannot be shown. -/
  | character
  /-- No token begins where one should. -/
  | token
  /-- The tokens do not fit together. -/
  | grammar
  /-- There is more than one document. -/
  | document
  /-- A key is no scalar, or a mark for merging or for a default stands where it means nothing. -/
  | construction
  /-- A number, day, moment or character does not exist. -/
  | range
  /-- A character number takes more than 31 bits. -/
  | overflow
  /-- Collections lie too deep in one another. -/
  | depth
  deriving DecidableEq, Repr

/-- The characters that can be read, and the error behind the last of them unless the text ends. -/
structure Stream where
  chars : List Char
  failure : Option Error := none
  deriving DecidableEq, Repr

namespace Stream

def isShown (c : Char) : Bool :=
  let n := c.toNat
  n == 0x09 || n == 0x0A || n == 0x0D || (0x20 ≤ n && n ≤ 0x7E) || n == 0x85 ||
    (0xA0 ≤ n && n ≤ 0xFFFD) || 0x10000 ≤ n

/-- How many characters a block has; the first one has twice as many. -/
def blockSize : Nat := 4096

def wholeBlocks (n : Nat) (cs : List Char) : List Char :=
  if n < 2 * blockSize then [] else cs.take (n / blockSize * blockSize)

/-- The stream of characters behind which the given error stands, up to the block with the first
fault. -/
def ofChars (cs : List Char) (failure : Option Error) : Stream :=
  let cs := if failure.isSome then wholeBlocks cs.length cs else cs
  match cs.findIdx? fun c => !isShown c with
  | some i => ⟨wholeBlocks i cs, some .character⟩
  | none => ⟨cs, failure⟩

/-- Line ends in their one form: a carriage return, alone or before a line feed, is a line feed. -/
def unifyLineEnds : List Char → List Char
  | [] => []
  | '\r' :: '\n' :: rest => '\n' :: unifyLineEnds rest
  | '\r' :: rest => '\n' :: unifyLineEnds rest
  | c :: rest => c :: unifyLineEnds rest

def groupSize : Nat := 8192

/-- What the octets say up to the first group that does not decode; `more` groups may follow the
first `known` ones. -/
def soundGroups (octets : Text.Octets) (known : Nat) : Nat → Text.Octets
  | 0 => octets.take (known * groupSize)
  | more + 1 =>
    let next := octets.take ((known + 1) * groupSize)
    if (Text.Encoding.decodeUtf8 next).ending = .broken then octets.take (known * groupSize)
    else soundGroups octets (known + 1) more

def ofOctets (octets : Text.Octets) : Stream :=
  let decoded := Text.Encoding.decodeUtf8 octets
  if decoded.whole then ofChars (unifyLineEnds decoded.chars) none
  else
    let sound := soundGroups octets 0 (octets.length / groupSize + 1)
    ofChars (unifyLineEnds (Text.Encoding.decodeUtf8 sound).chars) (some .encoding)

end Stream

end UmlKotlin.Data.Yaml
