import UmlKotlin.Proofs.Kotlin.Reference
import UmlKotlin.Kotlin.Generator

/-!
The outline of a source file: what its declaration refers to, before it is decided how a reference
is spelled. A declaration is its outline with every reference spelled (`Outline.declaration`).
-/

set_option autoImplicit false

namespace UmlKotlin.Kotlin

open Uml (Property)
open Profile (CollectionType)

inductive FieldType
  | single (base : Reference) (nullable : Bool)
  | many (collection base : Reference) (empty : Option String)
  deriving DecidableEq, Repr

namespace FieldType

def references : FieldType → List Reference
  | .single base _ => [base]
  | .many collection base _ => [base, collection]

def text (spell : Reference → String) : FieldType → String
  | .single base nullable => if nullable then spell base ++ "?" else spell base
  | .many collection base _ => spell collection ++ "<" ++ spell base ++ ">"

def default : FieldType → Option String
  | .single _ nullable => if nullable then some "null" else none
  | .many _ _ empty => empty

theorem text_congr {t : FieldType} {spell spell' : Reference → String}
    (h : ∀ r ∈ t.references, spell r = spell' r) : t.text spell = t.text spell' := by
  cases t with
  | single base nullable => simp only [text, h base (by simp [references])]
  | many collection base empty =>
    simp only [text, h base (by simp [references]), h collection (by simp [references])]

end FieldType

structure Field where
  property : Property
  type : FieldType

namespace Field

def inherited (reserved : List String) (spell : Reference → String) (f : Field) : Parameter where
  name := propertyName reserved f.property.name
  type := f.type.text spell
  default := f.type.default
  isProperty := false

def own (reserved : List String) (spell : Reference → String) (f : Field) : Parameter where
  name := propertyName reserved f.property.name
  type := f.type.text spell
  default := f.type.default
  documentation := f.property.fullDocumentation
  deprecation :=
    Generator.deprecationOf f.property.deprecated f.property.deprecationMessage

end Field

def Generator.assemble (g : Generator) (c : Uml.Class) (inherited own : List Parameter)
    (superclass : Option String) (interfaces : List String) : ClassDeclaration where
  package := g.packageOf c
  name := g.classNameOf c
  abstract := c.abstract
  parameters := inherited ++ own
  superclass
  superclassArguments := inherited.map (·.name)
  interfaces
  documentation := c.documentation
  deprecation := deprecationOf c.deprecated c.deprecationMessage

/-- A source file before its references are spelled. -/
structure Outline where
  inherited : List Field
  own : List Field
  superclass : Option Reference
  interfaces : List Reference

namespace Outline

def references (o : Outline) : List Reference :=
  o.inherited.flatMap (·.type.references) ++ o.own.flatMap (·.type.references) ++
    o.superclass.toList ++ o.interfaces

def declaration (g : Generator) (c : Uml.Class) (spell : Reference → String) (o : Outline) :
    ClassDeclaration :=
  g.assemble c (o.inherited.map (Field.inherited g.target.reserved spell))
    (o.own.map (Field.own g.target.reserved spell)) (o.superclass.map spell)
    (o.interfaces.map spell)

end Outline

namespace Generator

def classReference (g : Generator) (key : String) : Except PlanError Reference := do
  let c ← g.listed key
  pure (.named (g.packageOf c) (g.classNameOf c))

def builtinReference (g : Generator) (name : String) : Reference :=
  match g.target.builtins.get? name with
  | some package => if package = "" then .verbatim name else .named package name
  | none => .verbatim name

def primitiveReference (g : Generator) (raw : Option String) : Except PlanError Reference :=
  match g.target.primitive raw with
  | some name => .ok (g.builtinReference name)
  | none => .error .noName

def collectionReference (g : Generator) (c : CollectionType) : Reference :=
  match c.name? with
  | some name => g.builtinReference name
  | none => .verbatim (g.target.unnamedText c.type)

def markerReference (g : Generator) (name : Option String) : Except PlanError Reference :=
  match name with
  | some name => .ok (.named g.markers.package name)
  | none => .error .noName

def baseReference (g : Generator) (p : Property) : Except PlanError Reference :=
  match p.links.type with
  | some id => g.classReference id
  | none => g.primitiveReference p.links.primitiveType

def meantType (g : Generator) (p : Property) (owner : Uml.Class) : Except PlanError FieldType := do
  let base ← g.baseReference p
  if p.isMany then
    let collection ← g.collectionFor owner
    pure (.many (g.collectionReference collection) base collection.empty)
  else pure (.single base !p.isRequired)

def field (g : Generator) (owner : Uml.Class) (p : Property) : Except PlanError Field :=
  Field.mk p <$> g.meantType p owner

def fieldsOf (g : Generator) (owner : Uml.Class) : Except PlanError (List Field) :=
  (g.model.sortedProperties owner).mapM (g.field owner)

def markerReferences (g : Generator) (has : Bool) (name : Option String) :
    Except PlanError (List Reference) :=
  if has then (fun r => [r]) <$> g.markerReference name else pure []

def interfaceReferences (g : Generator) (c : Uml.Class) : Except PlanError (List Reference) := do
  let roots ← g.markerReferences (!c.superclass.isSome) g.markers.rootEntity
  let values ← g.markerReferences (g.isComplexDatatype c) g.markers.complexDatatype
  pure (roots ++ values)

def superclassReference (g : Generator) (c : Uml.Class) : Except PlanError (Option Reference) :=
  match c.superclass with
  | some id => some <$> g.classReference id
  | none => pure none

def outline (g : Generator) (id : String) (c : Uml.Class) : Except PlanError Outline := do
  let above ← g.ancestors id c
  let inherited ← above.mapM g.fieldsOf
  let own ← g.fieldsOf c
  let superclass ← g.superclassReference c
  let interfaces ← g.interfaceReferences c
  pure { inherited := inherited.flatten, own, superclass, interfaces }

end Generator

end UmlKotlin.Kotlin
