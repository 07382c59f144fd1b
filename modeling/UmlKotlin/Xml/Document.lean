import UmlKotlin.Xml.Namespaces
import UmlKotlin.Xml.Subset

/-!
Documents. Reading a document gives the events of its elements, in document order, up to the
first violation of the grammar, and tells whether the document is acceptable.
-/

set_option autoImplicit false

namespace UmlKotlin.Xml

open Scanner

/-- Elements may lie this deep in one another, the root counting as one. -/
def maxDepth : Nat := 256

/-- What reading a document found: the events before the first violation, whether a document
type declaration stands before the root, and whether the document is acceptable: it follows the
grammar, and its last remark is no error. -/
structure Reading where
  events : List Event
  doctype : Bool
  acceptable : Bool
  deriving DecidableEq, Repr

namespace Reading

def nothing : Reading := ⟨[], false, false⟩

def after (events : List Event) (r : Reading) : Reading := { r with events := events ++ r.events }

end Reading

structure StartTag where
  name : String
  attributes : List (String × String)

def spaceValues : List String := ["default", "preserve"]

def writtenName : Scanner String := do
  let text ← anyName
  let written := WrittenName.ofText text
  require (written.isComplete && written.lead.all isShort && isShort written.base)
  if !written.isProper then remark .error
  pure text

def writtenAttribute (element : String) : Scanner (String × String) := do
  let key ← writtenName
  blanks
  literal "="
  blanks
  let type := (((← doctype).rule? element key).map (·.type)).getD .text
  let value ← attributeValue type
  if key = "xml:space" && !spaceValues.contains value then remark .warning
  match (Declared.ofAttribute? key value).bind (·.remark) with
  | some severity => remark severity
  | none => pure ()
  pure (key, value)

def atTagEnd : Scanner Bool := do return (← sees ">") || (← sees "/>")

/-- Whether no attribute comes next: the tag ends, or the text ends, or there is a control
character. -/
def atLastAttribute : Scanner Bool := do
  let cs ← rest
  return (← atTagEnd) || !(cs.head?.any fun c => ' ' ≤ c)

def startTag : Scanner StartTag := do
  let tag ← writtenName
  blanks
  if ← atLastAttribute then return ⟨tag, []⟩
  let first ← writtenAttribute tag
  let others ← many (do
    if ← atTagEnd then pure false
    else
      blanks1
      pure !(← atLastAttribute)) (writtenAttribute tag)
  return ⟨tag, first :: others⟩

/-- The end of a start tag; the answer tells whether the element ends here too. -/
def startTagEnd : Scanner Bool := do
  let closed ← sees "/"
  if closed then literal "/"
  literal ">"
  pure closed

def endTag : Scanner String := do
  let tag ← anyName
  blanks
  literal ">"
  pure tag

/-- What lies around some content: the bindings in force, how many elements are open, and whether
identifiers are noted. -/
structure Surroundings where
  bindings : Bindings := Bindings.initial
  depth : Nat := 0
  identifying : Bool := true

/-- An open element: its name as written and expanded, and the bindings inside it. -/
structure Open where
  written : String
  name : QualifiedName
  inner : Bindings

/-- An element whose start tag comes next, without the end of its tag. -/
def element (around : Surroundings) (opened : List Open) : Scanner (Element × Open) := do
  let tag ← startTag
  let outer := (opened.head?.map (·.inner)).getD around.bindings
  let (e, inner) ← expand outer tag.name tag.attributes
  if around.identifying then
    let _ ← tag.attributes.mapM fun a => noteIdentifier tag.name a.1 a.2
  require (around.depth + opened.length < maxDepth)
  pure (e, ⟨tag.name, e.name, inner⟩)

/-- The end of a start tag, with the events of the element so far and the elements then open. -/
def begun (e : Element) (self : Open) (opened : List Open) : Scanner (List Event × List Open) := do
  if ← startTagEnd then pure ([.start e, .finish e.name], opened)
  else pure ([.start e], self :: opened)

/-- One piece of content: a tag, character data, a comment, an instruction, a section of unparsed
text, or a reference, whose entity `entityContent` reads. The answer holds its events and the
elements then open, innermost first. -/
def piece (entityContent : Surroundings → List Char → Scanner Unit) (around : Surroundings)
    (opened : List Open) : Scanner (List Event × List Open) := do
  if ← sees "</" then
    literal "</"
    let written ← endTag
    match opened with
    | inner :: outer =>
      require (written = inner.written)
      pure ([.finish inner.name], outer)
    | [] => failure
  else if ← sees "<!--" then
    literal "<!--"
    comment
    pure ([], opened)
  else if ← sees "<?" then
    literal "<?"
    instruction
    pure ([], opened)
  else if ← sees "<![CDATA[" then
    literal "<![CDATA["
    let _ ← upTo "]]>"
    pure ([], opened)
  else if ← sees "<" then
    literal "<"
    let (e, self) ← element around opened
    begun e self opened
  else if ← sees "&" then
    literal "&"
    match ← reference with
    | .char _ => pure ()
    | .entity e =>
      match (← doctype).entity? e with
      | some (.text text) =>
        spend text.length
        entityContent { depth := around.depth + opened.length, identifying := false } text
      | some .outside => failure
      | none => undeclared
    pure ([], opened)
  else
    let cs ← span1 fun c => c ≠ '<' && c ≠ '&' && isChar c
    require ((cutAt "]]>".toList cs).isNone)
    pure ([], opened)

/-- The text of an entity as content: its elements end in it, and prefixes from around it are not in
force in it. Such texts lie at most as deep in one another as is given. -/
def entityContent : Nat → Surroundings → List Char → Scanner Unit
  | 0, _, _ => failure
  | room + 1, around, text => inside text fun s => go room around s.size [] s
where
  go (room : Nat) (around : Surroundings) : Nat → List Open → Scanner Unit
    | 0, opened => require opened.isEmpty
    | n + 1, opened => do
      if ← atEnd then require opened.isEmpty
      else
        let (_, opened) ← piece (entityContent room) around opened
        go room around n opened

def miscellany : Scanner Unit := do
  let _ ← many (do
    blanks
    return (← sees "<!--") || (← sees "<?")) (do
    if ← sees "<!--" then
      literal "<!--"
      comment
    else
      literal "<?"
      instruction)

/-- Whether nothing but comments, instructions and white space is left, and the document is
acceptable. -/
def endsWell (s : Source) : Bool :=
  match miscellany.run s with
  | some (_, t) => t.chars.isEmpty && t.remarks.acceptable
  | none => false

/-- The events from inside the open elements on, innermost first; every piece takes at least one
character. -/
def content : Nat → List Open → Source → Reading
  | 0, _, s => ⟨[], s.doctype.present, false⟩
  | fuel + 1, opened, s =>
    if opened.isEmpty then ⟨[], s.doctype.present, endsWell s⟩
    else match (piece (entityContent entityDepth) {} opened).run s with
      | some ((events, opened), t) => (content fuel opened t).after events
      | none => ⟨[], s.doctype.present, false⟩

/-- The events from the root on, after its opening bracket. The root begins even if its start tag
does not end. -/
def root (s : Source) : Reading :=
  match (element {} []).run s with
  | none => ⟨[], s.doctype.present, false⟩
  | some ((e, self), t) =>
    match (begun e self []).run t with
    | none => ⟨[.start e], s.doctype.present, false⟩
    | some ((events, opened), t) => (content (s.size + 1) opened t).after events

def assigned (word : String) (p : Char → Bool) : Scanner (List Char) := do
  literal word
  blanks
  literal "="
  blanks
  quoted p

structure Declaration where
  encoding : Option String
  standalone : Bool
  deriving DecidableEq, Repr

def isVersion (cs : List Char) : Bool :=
  match cs with
  | '1' :: '.' :: digits => digits.all Char.isDigit
  | _ => false

def isEncodingName (cs : List Char) : Bool :=
  match cs with
  | c :: cs => c.isAlpha && cs.all fun d => d.isAlphanum || d == '.' || d == '_' || d == '-'
  | [] => false

def declaration : Scanner Declaration := do
  blanks1
  let version ← assigned "version" isChar
  require (isVersion version)
  let spaced ← blanks?
  let encoding ← (do
    if ← sees "encoding" then
      require spaced
      let encoding ← assigned "encoding" isChar
      require (isEncodingName encoding)
      pure (some (String.ofList encoding))
    else pure none)
  let spaced ← (do if encoding.isSome then blanks? else pure spaced)
  let standalone ← (do
    if ← sees "standalone" then
      require spaced
      let standalone ← assigned "standalone" isChar
      require (standalone == "yes".toList || standalone == "no".toList)
      pure (standalone == "yes".toList)
    else pure false)
  blanks
  literal "?>"
  pure ⟨encoding, standalone⟩

def declaration? : Scanner (Option Declaration) := do
  let cs ← rest
  match cs with
  | '<' :: '?' :: 'x' :: 'm' :: 'l' :: c :: _ =>
    if isBlank c then
      literal "<?xml"
      return some (← declaration)
    else return none
  | _ => return none

/-- What stands before the root: the XML declaration, and at most one document type
declaration. -/
def prolog : Scanner Unit := do
  if let some declaration ← declaration? then
    modifyDoctype fun d => { d with standalone := declaration.standalone }
  miscellany
  if ← sees "<!DOCTYPE" then
    literal "<!DOCTYPE"
    Doctype.declaration
    miscellany

/-- A document read from its characters. `replacing` tells whether references to entities give way
to the texts of the entities. -/
def read (replacing : Bool) (chars : List Char) : Reading :=
  match (do prolog; literal "<").run (Source.ofChars { replacing } (unifyLineEnds chars)) with
  | none => .nothing
  | some (_, s) => root s

end UmlKotlin.Xml
