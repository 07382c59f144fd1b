import UmlKotlin.Proofs.Kotlin.Planning
import UmlKotlin.Proofs.Uml.Counterpart

/-!
Source files of counterparts. Main statement: if every class of a model has a counterpart in another
one, counterparts have the same file (`file_counterpart`).
-/

set_option autoImplicit false

namespace UmlKotlin.Kotlin.Generator

open Uml (Model Property)
open Uml.Model (Counterpart Mirrors Listed)

def withModel (g : Generator) (n : Model) : Generator := { g with model := n }

variable {g : Generator} {n : Model} {id key : String} {c d : Uml.Class}

theorem namesake_eq (distinct : (g.model.classes.values.map (·.id)).Nodup)
    (listed : g.model.classes.get? key = some c) : g.namesake c = c := by
  rw [namesake, Model.bearer?_eq distinct listed, Option.getD_some]

theorem className_counterpart (h : g.model.Mirrors n) (listed : Listed g.model n c d) :
    (g.withModel n).classNameOf d = g.classNameOf c := by
  obtain ⟨counterpart, key, here, there⟩ := listed
  have name : ((g.withModel n).namesake d).name = (g.namesake c).name := by
    rw [namesake_eq h.distinct here, namesake_eq h.distinct' there, counterpart.name]
  rw [classNameOf, name]
  rfl

theorem package_counterpart (h : g.model.Mirrors n) (listed : Listed g.model n c d) :
    (g.withModel n).packageOf d = g.packageOf c := by
  obtain ⟨counterpart, key, here, there⟩ := listed
  have path : ((g.withModel n).namesake d).packagePath = (g.namesake c).packagePath := by
    rw [namesake_eq h.distinct here, namesake_eq h.distinct' there, counterpart.facts]
  rw [packageOf, path]
  rfl

theorem classReference_counterpart (h : g.model.Mirrors n)
    (here : g.model.classes.get? key = some c) :
    (g.withModel n).classReference key = g.classReference key := by
  obtain ⟨d, there, counterpart⟩ := h.counterpart here
  have listed : Listed g.model n c d := ⟨counterpart, key, here, there⟩
  rw [(classReference_eq_ok_iff h.closed).mpr ⟨c, here, rfl⟩]
  refine (classReference_eq_ok_iff h.closed').mpr ⟨d, there, ?_⟩
  rw [package_counterpart h listed, className_counterpart h listed]

/-! ### Fields -/

theorem isComplexDatatype_counterpart (counterpart : Counterpart g.model n c d) :
    (g.withModel n).isComplexDatatype d = g.isComplexDatatype c := by
  rw [counterpart.facts]
  rfl

theorem field_counterpart (h : g.model.Mirrors n) (counterpart : Counterpart g.model n c d)
    {p : Property}
    (type : ∀ key, p.links.type = some key → ∃ s, g.model.classes.get? key = some s) :
    (g.withModel n).field d p = g.field c p := by
  have base : (g.withModel n).baseReference p = g.baseReference p := by
    unfold baseReference
    cases link : p.links.type with
    | none => rfl
    | some key =>
      obtain ⟨s, listed⟩ := type key link
      exact classReference_counterpart h listed
  have collection : (g.withModel n).collectionFor d = g.collectionFor c := by
    rw [collectionFor, isComplexDatatype_counterpart counterpart]
    rfl
  rw [field, meantType, base, collection]
  rfl

theorem fieldsOf_counterpart (h : g.model.Mirrors n) (detached : g.model.DetachedClosed)
    (listed : Listed g.model n c d) : (g.withModel n).fieldsOf d = g.fieldsOf c := by
  obtain ⟨counterpart, key, here, -⟩ := listed
  have properties : (g.withModel n).model.sortedProperties d = g.model.sortedProperties c :=
    counterpart.properties
  rw [fieldsOf, properties]
  refine mapM_congr (List.forall₂_same.mpr fun p member => ?_)
  exact field_counterpart h counterpart fun key link =>
    h.closed.listed_type detached here member link

/-! ### Files -/

theorem superclassReference_counterpart (h : g.model.Mirrors n) (listed : Listed g.model n c d) :
    (g.withModel n).superclassReference d = g.superclassReference c := by
  obtain ⟨counterpart, key, here, -⟩ := listed
  rw [superclassReference, counterpart.superclass, superclassReference]
  cases link : c.superclass with
  | none => rfl
  | some key =>
    obtain ⟨s, above⟩ := h.closed.superclass here link
    simp only [classReference_counterpart h above]

theorem interfaceReferences_counterpart (counterpart : Counterpart g.model n c d) :
    (g.withModel n).interfaceReferences d = g.interfaceReferences c := by
  rw [interfaceReferences, counterpart.superclass, isComplexDatatype_counterpart counterpart]
  rfl

theorem sourcePath_counterpart (h : g.model.Mirrors n) (listed : Listed g.model n c d)
    (output : String) : (g.withModel n).sourcePath output d = g.sourcePath output c := by
  rw [sourcePath, package_counterpart h listed, className_counterpart h listed]
  rfl

section

variable (h : g.model.Mirrors n) (detached : g.model.DetachedClosed)
  (here : g.model.classes.get? id = some c) (there : n.classes.get? id = some d)
  (counterpart : Counterpart g.model n c d)

include h detached here there counterpart

theorem outline_counterpart : (g.withModel n).outline id d = g.outline id c := by
  have listed : Listed g.model n c d := ⟨counterpart, id, here, there⟩
  have own := fieldsOf_counterpart h detached listed
  rw [outline, outline, own, superclassReference_counterpart h listed,
    interfaceReferences_counterpart counterpart]
  rcases Model.ancestors_counterparts h here there counterpart with
    ⟨above, above', up, up', pairs⟩ | ⟨cycle, up, up'⟩
  · have inherited : above'.mapM (g.withModel n).fieldsOf = above.mapM g.fieldsOf :=
      mapM_congr (pairs.imp fun a b pair => fieldsOf_counterpart h detached pair)
    have up' : (g.withModel n).ancestors id d = .ok above' := ancestors_eq_ok_iff.mpr up'
    rw [ancestors_eq_ok_iff.mpr up, up']
    change (above'.mapM (g.withModel n).fieldsOf >>= _) = (above.mapM g.fieldsOf >>= _)
    rw [inherited]
  · have up' : (g.withModel n).ancestors id d = .error (.cycle cycle) := ancestors_eq_error up'
    rw [ancestors_eq_error up, up']
    rfl

theorem plan_counterpart : (g.withModel n).plan id d = g.plan id c := by
  have listed : Listed g.model n c d := ⟨counterpart, id, here, there⟩
  have package := package_counterpart h listed
  have name := className_counterpart h listed
  rw [plan_eq, outline_counterpart h detached here there counterpart, plan_eq]
  cases g.outline id c with
  | error e => rfl
  | ok o =>
    have closed : (g.withModel n).closed d o = g.closed c o := by
      rw [Generator.closed, opened, package, name]
      rfl
    have declaration (spell : Reference → String) :
        o.declaration (g.withModel n) d spell = o.declaration g c spell := by
      rw [Outline.declaration, assemble, package, name, counterpart.facts]
      rfl
    simp only [Except.map, closed, declaration]

theorem render_counterpart : (g.withModel n).render id d = g.render id c := by
  rw [render, render, plan_counterpart h detached here there counterpart]

theorem file_counterpart (output : String) :
    (g.withModel n).file output id d = g.file output id c := by
  rw [Generator.file, Generator.file, sourcePath_counterpart h ⟨counterpart, id, here, there⟩,
    render_counterpart h detached here there counterpart]

end

end UmlKotlin.Kotlin.Generator
