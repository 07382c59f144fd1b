import UmlKotlin.Table
import UmlKotlin.Text.Lines
import UmlKotlin.Text.Paragraph

/-!
Class models: classes with properties, associations between properties, packages and types. A
fact that was declared is kept apart from a link that resolution derives, so that forgetting the
links gives back the declared model.
-/

set_option autoImplicit false

namespace UmlKotlin.Uml

open Text (addParagraph joinParagraphs)

/-- Links that resolution derives for a property: the class that is its type, or else the name
of a primitive type; its association; the property at the other end; and what the association
documents about it. Classes, associations and properties are given by their identifiers. -/
structure Links where
  type : Option String := none
  primitiveType : Option String := none
  association : Option String := none
  inverse : Option String := none
  associationDocumentation : Option String := none
  deriving DecidableEq, Repr

/-- A property of a class, or an end of an association. -/
structure Property where
  id : String
  name : Option String := none
  typeId : Option String := none
  hrefType : Option String := none
  associationId : Option String := none
  aggregation : Option String := none
  lower : Option String := none
  upper : Option String := none
  deprecated : Bool := false
  deprecationMessage : Option String := none
  documentation : Option String := none
  stereotypes : List String := []
  metadata : Table String String := ∅
  links : Links := {}

def isUnbounded (upper : Option String) : Bool := upper = some "*" || upper = some "-1"

def adjoin (text : String) (texts : List String) : List String :=
  if texts.contains text then texts else texts ++ [text]

namespace Property

def addDocumentation (text : Option String) (p : Property) : Property :=
  { p with documentation := addParagraph p.documentation text }

def addStereotype (text : String) (p : Property) : Property :=
  { p with stereotypes := adjoin text p.stereotypes }

def addMetadata (facts : Table String String) (p : Property) : Property :=
  { p with metadata := p.metadata.union facts }

/-- The property's own documentation, followed by what its association documents about it. -/
def fullDocumentation (p : Property) : Option String :=
  joinParagraphs [p.documentation, p.links.associationDocumentation]

def isMany (p : Property) : Bool := isUnbounded p.upper

def isRequired (p : Property) : Bool := p.lower = some "1"

def isNullable (p : Property) : Bool := !p.isMany && !p.isRequired

/-- The name that a property is sorted by: its own name, or its identifier where it has none. -/
def sortName (p : Property) : String :=
  match p.name with
  | some name => if name = "" then p.id else name
  | none => p.id

def declared (p : Property) : Property := { p with links := {} }

end Property

/-- A member of a class: the property that the model lists under an identifier, or a property that
another one has since replaced in the model and that only its class still holds. -/
inductive Member
  | listed (id : String)
  | detached (property : Property)

/-- A class. Its superclass is a derived link, given by identifier. -/
structure Class where
  id : String
  name : String
  packagePath : List String := []
  abstract : Bool := false
  deprecated : Bool := false
  deprecationMessage : Option String := none
  members : List Member := []
  generalizationId : Option String := none
  documentation : Option String := none
  stereotypes : List String := []
  metadata : Table String String := ∅
  superclass : Option String := none

namespace Class

def addDocumentation (text : Option String) (c : Class) : Class :=
  { c with documentation := addParagraph c.documentation text }

def addStereotype (text : String) (c : Class) : Class :=
  { c with stereotypes := adjoin text c.stereotypes }

def addMetadata (facts : Table String String) (c : Class) : Class :=
  { c with metadata := c.metadata.union facts }

/-- Value types are neither abstract nor marked as root entities. -/
def isComplexDatatype (rootStereotype : String) (c : Class) : Bool :=
  !c.stereotypes.contains rootStereotype && !c.abstract

def declared (c : Class) : Class := { c with superclass := none }

end Class

/-- An association, with the documentation of its two sides. -/
structure Association where
  id : String
  name : Option String := none
  memberEndIds : List String := []
  ownedEndIds : List String := []
  bidirectional : Bool := false
  deprecated : Bool := false
  deprecationMessage : Option String := none
  sourceRoleName : Option String := none
  targetRoleName : Option String := none
  sourceDocumentation : Option String := none
  targetDocumentation : Option String := none
  metadata : Table String String := ∅

namespace Association

def addSourceDocumentation (text : Option String) (a : Association) : Association :=
  { a with sourceDocumentation := addParagraph a.sourceDocumentation text }

def addTargetDocumentation (text : Option String) (a : Association) : Association :=
  { a with targetDocumentation := addParagraph a.targetDocumentation text }

def endIds (a : Association) : List String := a.memberEndIds ++ a.ownedEndIds

end Association

/-- A class model. `retired` holds classes that were taken out of the model and that the links of
other classes may still reach until they are resolved again. -/
structure Model where
  classes : Table String Class := ∅
  properties : Table String Property := ∅
  associations : Table String Association := ∅
  packages : Table String (List String) := ∅
  types : Table String String := ∅
  retired : Table String Class := ∅

/-- Pairs of a name and an identifier are ordered by name, then by identifier, both by code
point. -/
def notAfter (a b : String × String) : Bool := a.1 < b.1 || (a.1 == b.1 && a.2 ≤ b.2)

namespace Model

def property? (m : Model) : Member → Option Property
  | .listed id => m.properties.get? id
  | .detached p => some p

def propertiesOf (m : Model) (c : Class) : List Property := c.members.filterMap m.property?

def sortedProperties (m : Model) (c : Class) : List Property :=
  (m.propertiesOf c).mergeSort fun p q => notAfter (p.sortName, p.id) (q.sortName, q.id)

def sortedClasses (m : Model) : List (String × Class) :=
  m.classes.entries.mergeSort fun c d => notAfter (c.2.name, c.2.id) (d.2.name, d.2.id)

def classNamed? (m : Model) (name : String) : Option Class :=
  (m.sortedClasses.find? fun c => c.2.name == name).map (·.2)

def modifyClass (m : Model) (id : String) (f : Class → Class) : Model :=
  { m with classes := m.classes.modify id f }

def modifyProperty (m : Model) (id : String) (f : Property → Property) : Model :=
  { m with properties := m.properties.modify id f }

def modifyAssociation (m : Model) (id : String) (f : Association → Association) : Model :=
  { m with associations := m.associations.modify id f }

/-- A member that no longer stands for the property listed under `id`, but for `p` itself. -/
def Member.release (id : String) (p : Property) : Member → Member
  | .listed id' => if id' = id then .detached p else .listed id'
  | .detached q => .detached q

/-- The classes that have a property listed under `id` keep it as it is now. -/
def release (m : Model) (id : String) : Model :=
  match m.properties.get? id with
  | none => m
  | some p =>
    let keep (_ : String) (c : Class) : Class :=
      { c with members := c.members.map (Member.release id p) }
    { m with classes := m.classes.map keep, retired := m.retired.map keep }

/-- A property entered under its identifier; one that was listed there stays with its classes. -/
def putProperty (m : Model) (p : Property) : Model :=
  let m := m.release p.id
  { m with properties := m.properties.insert p.id p }

def putClass (m : Model) (c : Class) : Model :=
  { m with classes := m.classes.insert c.id c }

def putAssociation (m : Model) (a : Association) : Model :=
  { m with associations := m.associations.insert a.id a }

/-- The model without a property; the classes that have it keep it. -/
def removeProperty (m : Model) (id : String) : Model :=
  let m := m.release id
  { m with properties := m.properties.erase id }

/-- The model without a class; links that lead to it still do. -/
def removeClass (m : Model) (id : String) : Model :=
  match m.classes.get? id with
  | none => m
  | some c => { m with classes := m.classes.erase id, retired := m.retired.insert id c }

def linkedClass? (m : Model) (key : String) : Option Class :=
  (m.classes.get? key).or (m.retired.get? key)

def classId (m : Model) (key : String) : String := ((m.linkedClass? key).map (·.id)).getD key

def propertyId (m : Model) (key : String) : String := ((m.properties.get? key).map (·.id)).getD key

def associationId (m : Model) (key : String) : String :=
  ((m.associations.get? key).map (·.id)).getD key

/-- The class of the model that has an identifier; of several the last one. -/
def bearer? (m : Model) (id : String) : Option Class :=
  (m.classes.values.filter fun c => c.id == id).getLast?

def isOwned (m : Model) (id : String) : Bool :=
  m.classes.values.any fun c => c.members.any fun
    | .listed id' => id' == id
    | .detached _ => false

end Model

end UmlKotlin.Uml
