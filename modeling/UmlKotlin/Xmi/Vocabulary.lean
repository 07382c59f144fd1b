import UmlKotlin.Xml.Element

/-!
The vocabulary of class models as modelling tools export them in XMI 2.1: a UML section and an
extension section with what the tool adds.
-/

set_option autoImplicit false

namespace UmlKotlin.Xmi

open Xml (QualifiedName)

namespace Vocabulary

def xmiSpace : String := "http://schema.omg.org/spec/XMI/2.1"

def profileSpace : String := "http://www.sparxsystems.com/profiles/thecustomprofile/1.0"

def xmiId : QualifiedName := ⟨some xmiSpace, "id"⟩

def xmiIdref : QualifiedName := ⟨some xmiSpace, "idref"⟩

def xmiType : QualifiedName := ⟨some xmiSpace, "type"⟩

def classType : String := "uml:Class"

def associationType : String := "uml:Association"

def packageType : String := "uml:Package"

def namedTypes : List String := ["uml:PrimitiveType", "uml:DataType", "uml:Enumeration"]

def unnamedClass : String := "Unnamed"

def unknownProperty : String := "unknown"

/-- Names of packages that stand for the model as a whole. -/
def skippedPackages : List String := ["FINT", "Model"]

def deprecatedTag : String := "DEPRECATED"

def associationConnector : String := "Association"

def bothWays : String := "Bi-Directional"

def propertyFlags : List String :=
  ["visibility", "isStatic", "isReadOnly", "isDerived", "isOrdered", "isUnique", "isDerivedUnion"]

def flagLead : String := "uml."

def propertiesLead : String := "ea.properties."

def projectLead : String := "ea.project."

def extendedLead : String := "ea.extended."

end Vocabulary

/-- The elements that mean something, whatever their namespace. -/
inductive Construct
  | packagedElement
  | ownedAttribute
  | ownedEnd
  | memberEnd
  | type
  | lowerValue
  | upperValue
  | generalization
  | ownedComment
  | annotatedElement
  | connector
  | source
  | target
  | role
  | tags
  | tag
  | element
  | properties
  | project
  | extendedProperties
  | attribute
  | documentation
  | bounds
  | stereotype
  deriving DecidableEq, Repr

def Construct.ofName? (base : String) : Option Construct :=
  [("packagedElement", Construct.packagedElement), ("ownedAttribute", .ownedAttribute),
    ("ownedEnd", .ownedEnd), ("memberEnd", .memberEnd), ("type", .type),
    ("lowerValue", .lowerValue), ("upperValue", .upperValue), ("generalization", .generalization),
    ("ownedComment", .ownedComment), ("annotatedElement", .annotatedElement),
    ("connector", .connector), ("source", .source), ("target", .target), ("role", .role),
    ("tags", .tags), ("tag", .tag), ("element", .element), ("properties", .properties),
    ("project", .project), ("extendedProperties", .extendedProperties), ("attribute", .attribute),
    ("documentation", .documentation), ("bounds", .bounds),
    ("stereotype", .stereotype)].lookup base

end UmlKotlin.Xmi
