import UmlKotlin.Xml.AttributeValue

/-!
Document type declarations. A declaration is read for its grammar and for what it declares; the
texts of parameter entities are read in their places. Nothing outside the document is fetched.
-/

set_option autoImplicit false

namespace UmlKotlin.Xml

open Scanner

namespace Doctype

def isPublicChar (c : Char) : Bool :=
  c.isAlphanum || c == ' ' || c == '\n' || " -'()+,./:=?;!*#@$_%".toList.contains c

def systemLiteral : Scanner (List Char) := quoted isChar

def publicLiteral : Scanner Unit := do let _ ← quoted isPublicChar

/-- An optional reference to something outside, which is a public identifier, a system identifier
or both; a public identifier may stand alone only where `publicOnly` allows it. The system
identifier is the answer, an empty one where there is none. -/
def externalId? (publicOnly : Bool) : Scanner (Option (List Char)) := do
  if ← sees "SYSTEM" then
    literal "SYSTEM"
    blanks1
    return some (← systemLiteral)
  else if ← sees "PUBLIC" then
    literal "PUBLIC"
    blanks1
    publicLiteral
    let spaced ← blanks?
    let more := (← sees "\"") || (← sees "'")
    if more || !publicOnly then
      require spaced
      return some (← systemLiteral)
    else return some []
  else return none

def separated {α : Type} (separator : String) (item : Scanner α) : Scanner (List α) := do
  let items ← many (do
    blanks
    pure !(← sees ")")) (do
    literal separator
    blanks
    item)
  literal ")"
  pure items

def repetition? : Scanner Unit := onChars fun cs => match cs with
  | '?' :: cs => some ((), cs)
  | '*' :: cs => some ((), cs)
  | '+' :: cs => some ((), cs)
  | _ => some ((), cs)

/-- Groups of element content lie at most this deep in one another. -/
def groupDepth : Nat := 256

/-- A group of element content, after its opening parenthesis: one kind of separator only. -/
def group : Nat → Scanner Unit
  | 0 => failure
  | room + 1 => do
    let item : Scanner Unit := do
      if ← sees "(" then
        literal "("
        group room
      else
        let _ ← name
        repetition?
    blanks
    item
    blanks
    let _ ← separated (if ← sees "|" then "|" else ",") item
    repetition?

def mixed : Scanner Unit := do
  blanks
  if ← sees ")" then
    literal ")"
    if ← sees "*" then literal "*"
  else
    let _ ← separated "|" name
    literal "*"

def contentModel : Scanner Unit := do
  if ← sees "EMPTY" then literal "EMPTY"
  else if ← sees "ANY" then literal "ANY"
  else
    literal "("
    blanks
    if ← sees "#PCDATA" then
      literal "#PCDATA"
      mixed
    else group groupDepth

def elementDeclaration : Scanner Unit := do
  blanks1
  let element ← name
  blanks1
  contentModel
  blanks
  literal ">"
  if (← doctype).elements.contains element then remark .error
  modifyDoctype fun d => { d with elements := element :: d.elements }

def oneOf {α : Type} : List (String × α) → Scanner α
  | [] => failure
  | (text, a) :: texts => (do literal text; pure a) <|> oneOf texts

/-- The tokens that come again later, once for each time but the last. -/
def repeated : List String → List String
  | [] => []
  | token :: tokens => if tokens.contains token then token :: repeated tokens else repeated tokens

/-- One or more tokens between bars in parentheses. Each one that comes again draws a remark. -/
def choices (token : Scanner String) : Scanner Unit := do
  literal "("
  blanks
  let first ← token
  let others ← separated "|" token
  (repeated (first :: others)).forM fun _ => remark .error

/-- The words for types of attributes. A word stands before those that it begins with. -/
def typeWords : List (String × AttributeType) :=
  [("CDATA", .text), ("IDREFS", .names), ("IDREF", .name), ("ID", .identifier),
    ("ENTITY", .name), ("ENTITIES", .names), ("NMTOKENS", .tokens), ("NMTOKEN", .token)]

def attributeType : Scanner AttributeType := do
  if ← sees "NOTATION" then
    literal "NOTATION"
    blanks1
    choices name
    pure .name
  else if ← sees "(" then
    choices (do return String.ofList (← span1 isNameChar))
    pure .tokens
  else oneOf typeWords

def attributeDefault (type : AttributeType) : Scanner (Option String) := do
  if ← sees "#REQUIRED" then
    literal "#REQUIRED"
    pure none
  else if ← sees "#IMPLIED" then
    literal "#IMPLIED"
    pure none
  else
    if ← sees "#FIXED" then
      literal "#FIXED"
      blanks1
    return some (← attributeValue type)

/-- One more rule for an attribute, unless there is one. A default without the form of its type draws
a remark, and so does a second identifier of one element. -/
def declareAttribute (rule : AttributeRule) : Scanner Unit := do
  if rule.name = "xml:id" && rule.type ≠ .identifier then remark .error
  if rule.default.any fun value => !rule.type.accepts value.toList then remark .error
  let d ← doctype
  if (d.rule? rule.element rule.name).isSome then remark .warning
  else
    if rule.type = .identifier && (d.rulesOf rule.element).any (·.type = .identifier) then
      remark .error
    modifyDoctype fun d => { d with rules := d.rules ++ [rule] }

def attributeRule (element : String) : Scanner Unit := do
  let key ← name
  blanks1
  let type ← attributeType
  blanks1
  let default ← attributeDefault type
  declareAttribute ⟨element, key, type, default⟩

def attributeDeclaration : Scanner Unit := do
  blanks1
  let element ← name
  let _ ← many (do
      let spaced ← blanks?
      if ← sees ">" then pure false
      else
        require spaced
        pure true) (attributeRule element)
  literal ">"

def parameterReference : Scanner (Option Entity) := do
  let parameter ← name
  literal ";"
  modifyDoctype fun d => { d with parametric := true }
  let found := (← doctype).parameter? parameter
  if found.isNone then undeclared
  pure found

/-- One piece of an entity value: character references are replaced, references to entities stay. -/
def replacementPiece : Scanner (List Char) := do
  if ← sees "&#" then
    literal "&"
    match ← reference with
    | .char c => pure [c]
    | .entity _ => failure
  else if ← sees "&" then
    literal "&"
    let entity ← name
    literal ";"
    pure (('&' :: entity.toList) ++ [';'])
  else span1 fun c => c ≠ '&' && c ≠ '%' && isChar c

/-- The replacement text of an entity value. A parameter entity has no place in it, and a reference
to one that is not declared ends it. -/
def replacement : Scanner (List Char) := do
  let q ← quote
  let written ← span fun c => c ≠ q && c ≠ '\x00'
  literal q.toString
  inside written (do
    let pieces ← many (do pure !((← atEnd) || (← sees "%"))) replacementPiece
    if ← sees "%" then
      literal "%"
      require (← parameterReference).isNone
      let _ ← span fun _ => true
    pure pieces.flatten)

/-- Something outside the document that an entity stands for: a part of a resource has no place. -/
def resource : Scanner Entity := do
  match ← externalId? false with
  | some system =>
    require (!system.contains '#')
    pure .outside
  | none => failure

def allowsPredefined (c : Char) (replacement : List Char) : Bool :=
  let decimal := (toString c.toNat).toList
  let hex := (Nat.toDigits 16 c.toNat)
  (replacement = [c] && (c = '>' || c = '\'' || c = '"')) ||
    replacement = '&' :: '#' :: decimal ++ [';'] ||
    replacement.map Char.toLower = '&' :: '#' :: 'x' :: hex ++ [';']

/-- One more general entity; a predefined character keeps its meaning. -/
def declareEntity (entity : String) (value : Entity) : Scanner Unit := do
  match predefined.lookup entity, value with
  | some c, .text replacement => if allowsPredefined c replacement then pure () else remark .warning
  | some _, .outside => remark .warning
  | none, _ => modifyDoctype fun d => { d with entities := d.entities ++ [(entity, value)] }

def entityDeclaration : Scanner Unit := do
  blanks1
  let parameter ← sees "%"
  if parameter then
    literal "%"
    blanks1
  let entity ← name
  if entity.toList.contains ':' then remark .error
  blanks1
  let value ← (do
    if (← sees "\"") || (← sees "'") then return Entity.text (← replacement)
    else
      let value ← resource
      if !parameter then
        if ← blanks? then
          if ← sees "NDATA" then
            literal "NDATA"
            blanks1
            if !(← sees ">") then
              let _ ← name
      return value)
  if parameter then
    modifyDoctype fun d => { d with parameters := d.parameters ++ [(entity, value)] }
  else declareEntity entity value
  blanks
  literal ">"

def notationDeclaration : Scanner Unit := do
  blanks1
  let notationName ← name
  if notationName.toList.contains ':' then remark .error
  blanks1
  require (← externalId? true).isSome
  blanks
  literal ">"
  if (← doctype).notations.contains notationName then remark .error
  modifyDoctype fun d => { d with notations := notationName :: d.notations }

/-- One item of the internal subset; `parameterText` reads the text of a parameter entity. -/
def subsetItem (parameterText : Scanner Unit) : Scanner Unit := do
  if ← sees "<!--" then
    literal "<!--"
    comment
  else if ← sees "<?" then
    literal "<?"
    instruction
  else if ← sees "<!ELEMENT" then
    literal "<!ELEMENT"
    elementDeclaration
  else if ← sees "<!ATTLIST" then
    literal "<!ATTLIST"
    attributeDeclaration
  else if ← sees "<!NOTATION" then
    literal "<!NOTATION"
    notationDeclaration
  else if ← sees "<!ENTITY" then
    literal "<!ENTITY"
    entityDeclaration
  else
    literal "%"
    match ← parameterReference with
    | some (.text text) =>
      spend text.length
      inside text parameterText
    | _ => pure ()

/-- The text of a parameter entity: items of the internal subset. Such texts lie at most as deep in
one another as is given. -/
def parameterText : Nat → Scanner Unit
  | 0 => failure
  | room + 1 => do
    let _ ← many (do
      blanks
      pure !(← atEnd)) (subsetItem (parameterText room))

def subset : Scanner Unit := do
  let _ ← many (do
    blanks
    pure !(← sees "]")) (subsetItem (parameterText entityDepth))
  literal "]"

def declaration : Scanner Unit := do
  blanks1
  let _ ← name
  blanks
  let outside ← externalId? false
  modifyDoctype fun d => { d with present := true, outside := outside.isSome }
  blanks
  if ← sees "[" then
    literal "["
    subset
    blanks
  literal ">"

end Doctype

end UmlKotlin.Xml
