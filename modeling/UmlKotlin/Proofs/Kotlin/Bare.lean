import UmlKotlin.Proofs.Kotlin.Filling
import UmlKotlin.Proofs.Outcome
import UmlKotlin.Proofs.Uml.Bare

/-!
Source files of models without what is said about their entities. Main statement: the plan of a file
is then the same, without documentation and deprecation marks (`plan_bare`).
-/

set_option autoImplicit false

namespace UmlKotlin.Kotlin

open Uml (Property)

def Parameter.bare (p : Parameter) : Parameter :=
  { p with documentation := none, deprecation := none }

def ClassDeclaration.bare (d : ClassDeclaration) : ClassDeclaration :=
  { d with
    documentation := none
    deprecation := none
    parameters := d.parameters.map Parameter.bare }

def Field.bare (f : Field) : Field := ⟨f.property.bare, f.type⟩

def Outline.bare (o : Outline) : Outline :=
  { o with inherited := o.inherited.map Field.bare, own := o.own.map Field.bare }

namespace Generator

def bare (g : Generator) : Generator := { g with model := g.model.bare }

variable (g : Generator)

/-! ### Names and references -/

theorem namesake_bare (c : Uml.Class) : g.bare.namesake c.bare = (g.namesake c).bare := by
  rw [namesake, bare, Uml.Model.bearer?_bare, namesake]
  have id : c.bare.id = c.id := rfl
  rw [id]
  cases g.model.bearer? c.id <;> rfl

theorem classNameOf_bare (c : Uml.Class) : g.bare.classNameOf c.bare = g.classNameOf c := by
  rw [classNameOf, namesake_bare, classNameOf]
  rfl

theorem packageOf_bare (c : Uml.Class) : g.bare.packageOf c.bare = g.packageOf c := by
  rw [packageOf, namesake_bare, packageOf]
  rfl

theorem listed_bare (key : String) : g.bare.listed key = (g.listed key).map Uml.Class.bare := by
  have listed (c : Uml.Class) :
      (g.bare.model.bearer? c.bare.id).isSome = (g.model.bearer? c.id).isSome := by
    rw [bare, Uml.Model.bearer?_bare, Option.isSome_map]
    rfl
  have link : g.bare.model.linkedClass? key = (g.model.linkedClass? key).map Uml.Class.bare :=
    Uml.Model.linkedClass?_bare _ _
  rw [Generator.listed, link, Option.filter_map, Generator.listed]
  simp only [Function.comp_def, listed]
  cases (g.model.linkedClass? key).filter _ <;> rfl

theorem classReference_bare (key : String) : g.bare.classReference key = g.classReference key := by
  rw [classReference, listed_bare, classReference]
  cases g.listed key with
  | error e => rfl
  | ok c =>
    change Except.ok (Reference.named _ _) = _
    rw [packageOf_bare, classNameOf_bare]
    rfl

theorem superclassReference_bare (c : Uml.Class) :
    g.bare.superclassReference c.bare = g.superclassReference c := by
  have superclass : c.bare.superclass = c.superclass := rfl
  simp only [superclassReference, superclass, classReference_bare]

theorem interfaceReferences_bare (c : Uml.Class) :
    g.bare.interfaceReferences c.bare = g.interfaceReferences c := rfl

/-! ### Fields -/

theorem meantType_bare (p : Property) (owner : Uml.Class) :
    g.bare.meantType p.bare owner.bare = g.meantType p owner := by
  have base : g.bare.baseReference p.bare = g.baseReference p := by
    have type : p.bare.links.type = p.links.type := rfl
    simp only [baseReference, type, classReference_bare]
    rfl
  rw [meantType, base]
  rfl

theorem field_bare (p : Property) (owner : Uml.Class) :
    g.bare.field owner.bare p.bare = (g.field owner p).map Field.bare := by
  rw [field, meantType_bare, field]
  cases g.meantType p owner <;> rfl

theorem fieldsOf_bare (owner : Uml.Class) :
    g.bare.fieldsOf owner.bare = (g.fieldsOf owner).map (List.map Field.bare) := by
  have sorted : g.bare.model.sortedProperties owner.bare =
      (g.model.sortedProperties owner).map Property.bare := Uml.Model.sortedProperties_bare _ _
  rw [fieldsOf, sorted]
  exact mapM_map (fun p => g.field_bare p owner) _

theorem ancestors_bare (id : String) (c : Uml.Class) :
    g.bare.ancestors id c.bare = (g.ancestors id c).map (List.map Uml.Class.bare) := by
  have above : g.bare.model.ancestors id c.bare = _ := Uml.Model.ancestors_bare _ id c
  rw [ancestors, above, ancestors]
  cases g.model.ancestors id c <;> rfl

/-! ### Files -/

theorem outline_bare (id : String) (c : Uml.Class) :
    g.bare.outline id c.bare = (g.outline id c).map Outline.bare := by
  rw [outline, ancestors_bare, outline]
  cases g.ancestors id c with
  | error e => rfl
  | ok above =>
    have inherited : (above.map Uml.Class.bare).mapM g.bare.fieldsOf =
        (above.mapM g.fieldsOf).map (List.map (List.map Field.bare)) := mapM_map g.fieldsOf_bare above
    change ((above.map Uml.Class.bare).mapM g.bare.fieldsOf >>= fun _ => _) = _
    rw [inherited, fieldsOf_bare, superclassReference_bare, interfaceReferences_bare]
    change _ = Except.map _ (above.mapM g.fieldsOf >>= fun _ => _)
    cases above.mapM g.fieldsOf with
    | error e => rfl
    | ok groups =>
      cases g.fieldsOf c with
      | error e => rfl
      | ok own =>
        cases g.superclassReference c with
        | error e => rfl
        | ok superclass =>
          cases g.interfaceReferences c with
          | error e => rfl
          | ok interfaces =>
            have flat : (groups.map (List.map Field.bare)).flatten =
                groups.flatten.map Field.bare := List.map_flatten.symm
            change Except.ok (Outline.mk _ _ _ _) = _
            rw [flat]
            rfl

theorem references_bare (o : Outline) : o.bare.references = o.references := by
  simp only [Outline.references, Outline.bare, List.flatMap_map]
  rfl

theorem closed_bare (c : Uml.Class) (o : Outline) : g.bare.closed c.bare o.bare = g.closed c o := by
  rw [closed, references_bare, opened, packageOf_bare, classNameOf_bare]
  rfl

theorem declaration_bare (c : Uml.Class) (spell : Reference → String) (o : Outline) :
    o.bare.declaration g.bare c.bare spell = (o.declaration g c spell).bare := by
  simp only [Outline.declaration, assemble, packageOf_bare, classNameOf_bare]
  simp only [Outline.bare, ClassDeclaration.bare, List.map_append, List.map_map]
  rfl

/-- The plan of a file does not depend on what is said about the entities of the model, but for the
documentation and the deprecation marks in it. -/
theorem plan_bare (id : String) (c : Uml.Class) :
    g.bare.plan id c.bare = (g.plan id c).map ClassDeclaration.bare := by
  rw [plan_eq, outline_bare, plan_eq]
  cases g.outline id c with
  | error e => rfl
  | ok o =>
    simp only [Except.map, closed_bare, declaration_bare]
    rfl

end Generator

end UmlKotlin.Kotlin
