import UmlKotlin.Text.Lines
import UmlKotlin.Xml.Name

/-!
What a document type declaration declares: entities, parameter entities, elements, notations, and
rules for attributes.
-/

set_option autoImplicit false

namespace UmlKotlin.Xml

/-- What a declared entity stands for: a text, or something outside the document. -/
inductive Entity
  | text (replacement : List Char)
  | outside
  deriving DecidableEq, Repr

/-- The types of attributes: any text, an identifier, one name or several, one token of name
characters or several. All but the first are written between single spaces. -/
inductive AttributeType
  | text
  | identifier
  | name
  | names
  | token
  | tokens
  deriving DecidableEq, Repr

namespace AttributeType

/-- Whether a value in its normal form has the form of the type. -/
def accepts (type : AttributeType) (value : List Char) : Bool :=
  match type with
  | text => true
  | identifier | name => isNameText value
  | names => (Text.pieces (· == ' ') value).all isNameText
  | token => isTokenText value
  | tokens => (Text.pieces (· == ' ') (value.dropWhile isBlank)).all isTokenText

end AttributeType

/-- A declared attribute of an element, both named as they are written. -/
structure AttributeRule where
  element : String
  name : String
  type : AttributeType
  default : Option String
  deriving DecidableEq, Repr

structure Doctype where
  /-- References to entities give way to the texts of the entities. Where they do, parameter
  entities are not looked up. -/
  replacing : Bool := false
  /-- There is a document type declaration. -/
  present : Bool := false
  /-- The document claims that nothing outside it matters. -/
  standalone : Bool := false
  /-- The declaration refers to something outside the document. -/
  outside : Bool := false
  /-- A parameter entity was referred to. -/
  parametric : Bool := false
  entities : List (String × Entity) := []
  parameters : List (String × Entity) := []
  rules : List AttributeRule := []
  /-- The names of the elements that are declared. -/
  elements : List String := []
  /-- The names of the notations that are declared. -/
  notations : List String := []
  deriving DecidableEq, Repr

namespace Doctype

def entity? (d : Doctype) (name : String) : Option Entity := d.entities.lookup name

def parameter? (d : Doctype) (name : String) : Option Entity :=
  if d.replacing then none else d.parameters.lookup name

def rule? (d : Doctype) (element name : String) : Option AttributeRule :=
  d.rules.find? fun r => r.element = element && r.name = name

def rulesOf (d : Doctype) (element : String) : List AttributeRule :=
  d.rules.filter fun r => r.element = element

def defaults (d : Doctype) (element : String) : List (String × String) :=
  (d.rulesOf element).filterMap fun r => r.default.map (r.name, ·)

/-- The attributes that an element has by default, as far as their values have the form of their
types. -/
def fittingDefaults (d : Doctype) (element : String) : List (String × String) :=
  (d.rulesOf element).filterMap fun r =>
    (r.default.filter fun value => r.type.accepts value.toList).map (r.name, ·)

/-- Whether every entity has to be declared in the document itself. -/
def complete (d : Doctype) : Bool := d.standalone || !(d.outside || d.parametric)

end Doctype

/-- A value as tokens: without spaces at its ends, and with single spaces inside. -/
def singleSpaced : List Char → List Char
  | [] => []
  | ' ' :: cs =>
    match singleSpaced cs with
    | [] => []
    | ' ' :: rest => ' ' :: rest
    | rest => ' ' :: rest
  | c :: cs => c :: singleSpaced cs

def tokensOf (value : List Char) : List Char := singleSpaced (value.dropWhile (· = ' '))

end UmlKotlin.Xml
