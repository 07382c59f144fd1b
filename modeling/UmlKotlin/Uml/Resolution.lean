import UmlKotlin.Uml.Model

/-!
Resolution. The links of every property and class are computed anew from the declared facts, the
documentation of association sides is handed to the properties at their ends, and a deprecated
association deprecates its ends.
-/

set_option autoImplicit false

namespace UmlKotlin.Uml

open Text (blank addParagraph)

namespace Model

/-- The key under which a property's metadata holds the type that its tool shows. -/
def toolTypeKey : String := "ea.properties.type"

def typeOf (m : Model) (p : Property) : Option String :=
  p.typeId.filter fun id => !blank (some id) && m.classes.contains id

/-- The name of a property's primitive type: what the type table says about its type identifier,
or its referenced type where it has no identifier; if that is blank, the type in its metadata. A
property whose type is a class has none. -/
def primitiveTypeOf (m : Model) (p : Property) : Option String :=
  if (m.typeOf p).isSome then none
  else
    let declared := if blank p.typeId then p.hrefType else p.typeId.bind m.types.get?
    let name := if blank declared then p.metadata.get? toolTypeKey else declared
    name.filter fun name => !blank (some name)

def associationOf (m : Model) (p : Property) : Option (String × Association) :=
  if blank p.associationId then none
  else p.associationId.bind fun id => (m.associations.get? id).map (id, ·)

/-- The other end of a two-way association with two member ends, of which the property is one. -/
def inverseOf (m : Model) (p : Property) : Option String := do
  let (_, a) ← m.associationOf p
  if !a.bidirectional then none
  match a.memberEndIds with
  | [e, f] =>
    let other ← if p.id = e then some f else if p.id = f then some e else none
    if m.properties.contains other then some other else none
  | _ => none

/-- The links of a property as far as it can be told from the declared facts alone. -/
def linksOf (m : Model) (p : Property) : Links where
  type := m.typeOf p
  primitiveType := m.primitiveTypeOf p
  association := (m.associationOf p).map (·.1)
  inverse := m.inverseOf p

def superclassOf (m : Model) (c : Class) : Option String :=
  c.generalizationId.filter fun id => !blank (some id) && m.classes.contains id

def endNamed? (m : Model) (a : Association) (role : String) : Option String :=
  a.memberEndIds.find? fun id => (m.properties.get? id).any fun p => p.name == some role

/-- The documentation of one side of an association, handed to the end that has its role name. -/
def documentEnd (m : Model) (a : Association) (role documentation : Option String) : Model :=
  match role with
  | none => m
  | some name =>
    if blank role || blank documentation then m
    else match m.endNamed? a name with
      | none => m
      | some id => m.modifyProperty id fun p =>
          { p with links := { p.links with
              associationDocumentation :=
                addParagraph (addParagraph none p.links.associationDocumentation) documentation } }

/-- The documentation of an association's sides: the source side counts in a two-way association
only, and comes first. -/
def documentEnds (m : Model) (a : Association) : Model :=
  let m := if a.bidirectional then m.documentEnd a a.sourceRoleName a.sourceDocumentation else m
  m.documentEnd a a.targetRoleName a.targetDocumentation

def resolveReferences (m : Model) : Model :=
  let linked : Model := { m with
    properties := m.properties.map fun _ p => { p with links := m.linksOf p }
    classes := m.classes.map fun _ c => { c with superclass := m.superclassOf c }
    retired := ∅ }
  m.associations.values.foldl documentEnds linked

def deprecateWith (message : Option String) (p : Property) : Property :=
  { p with deprecated := true, deprecationMessage := message }

def deprecateEnds (m : Model) (a : Association) : Model :=
  if a.deprecated then
    a.endIds.foldl (fun m id => m.modifyProperty id (deprecateWith a.deprecationMessage)) m
  else m

def applyAssociationDeprecations (m : Model) : Model :=
  m.associations.values.foldl deprecateEnds m

/-- All links computed anew, and the ends of deprecated associations deprecated. -/
def resolve (m : Model) : Model := m.resolveReferences.applyAssociationDeprecations

inductive Dangling
  | association (property association : String)
  | superclass (className superclass : String)
  deriving DecidableEq, Repr

def Dangling.message : Dangling → String
  | .association p a => "Property " ++ p ++ " references unknown association " ++ a
  | .superclass c g => "Class " ++ c ++ " generalizes unknown class " ++ g

/-- The references of a model that lead nowhere: those of its properties, then those of its
classes. -/
def dangling (m : Model) : List Dangling :=
  let associations := m.properties.values.filterMap fun p => do
    let id ← p.associationId
    if blank (some id) || m.associations.contains id then none
    else some (Dangling.association p.id id)
  let superclasses := m.classes.values.filterMap fun c => do
    let id ← c.generalizationId
    if blank (some id) || m.classes.contains id then none
    else some (Dangling.superclass c.name id)
  associations ++ superclasses

end Model

end UmlKotlin.Uml
