import UmlKotlin.Proofs.Kotlin.Confinement
import UmlKotlin.Proofs.Kotlin.Constructor
import UmlKotlin.Proofs.Kotlin.Files
import UmlKotlin.Proofs.Kotlin.Visibility
import UmlKotlin.Proofs.Xmi.Typing

/-!
What the files of a run import. Main statement: a file imports classes of the model and markers
only, under names that no built-in type has, and what it says for a class stands for that class; a
run that goes through has a file for each of them (`imports_generated`).
-/

set_option autoImplicit false

namespace UmlKotlin.Kotlin

namespace Generator

variable {g : Generator} {output id : String} {c : Uml.Class}

/-- The name of a class of the model, with its package. -/
def Generates (g : Generator) (package name : String) : Prop :=
  ∃ key s, g.model.classes.get? key = some s ∧ package = g.packageOf s ∧ name = g.classNameOf s

theorem Generates.simple {package name : String} (h : g.Generates package name) :
    '.' ∉ name.toList := by
  obtain ⟨key, s, -, -, rfl⟩ := h
  exact fun point => absurd (isAlphanum_of_mem_className point) (by decide)

theorem Generates.declared {fs : List GeneratedFile} {package name : String}
    (h : g.Generates package name) (done : g.files output = (fs, none)) :
    ∃ file ∈ fs, ∃ d, file.content = Source.text (Source.classLines d) ∧
      d.package = package ∧ d.name = name := by
  obtain ⟨key, s, hs, rfl, rfl⟩ := h
  obtain ⟨file, member, made⟩ := file_of_completed done hs
  obtain ⟨-, d, hd, content⟩ := file_eq_ok_iff.mp made
  obtain ⟨o, -, rfl⟩ := plan_eq_ok_iff.mp hd
  exact ⟨file, member, _, content, rfl, rfl⟩

/-- What a file may import: a class of the model or a marker by its full name, and under a name that
no built-in type has. The name of a marker is all that is configured after the package: if there is a
point in it, a built-in type may have its last segment as its name. -/
structure MayImport (g : Generator) (full package name : String) : Prop where
  qualified : full = qualify package name
  named : package ≠ ""
  origin : g.Generates package name ∨ package = g.markers.package ∧
    (g.markers.rootEntity = some name ∨ g.markers.complexDatatype = some name)
  builtin : g.target.builtins.get? name = none
  last : '.' ∉ name.toList → Text.afterLast '.' full = name

theorem builtinReference_named {name package name' : String}
    (h : g.builtinReference name = .named package name') :
    g.target.builtins.get? name' = some package := by
  unfold builtinReference at h
  split at h
  · rename_i found
    split at h
    · cases h
    · cases h
      exact found
  · cases h

theorem Origin.named (closed : g.model.Closed) {package name : String}
    (h : g.Origin (.named package name)) : g.Generates package name ∨
      g.target.builtins.get? name = some package ∨ package = g.markers.package ∧
        (g.markers.rootEntity = some name ∨ g.markers.complexDatatype = some name) := by
  generalize same : Reference.named package name = r at h
  cases h with
  | @listed key s found =>
    obtain ⟨rfl, rfl⟩ := Reference.named.inj same
    exact .inl ⟨key, s, (listed_eq_ok_iff closed).mp found, rfl, rfl⟩
  | primitive found => exact .inr (.inl (builtinReference_named same.symm))
  | collection found =>
    unfold collectionReference at same
    split at same
    · exact .inr (.inl (builtinReference_named same.symm))
    · cases same
  | marker given =>
    obtain ⟨rfl, rfl⟩ := Reference.named.inj same
    exact .inr (.inr ⟨rfl, given⟩)

theorem mayImport_of_mem_imports (closed : g.model.Closed) {o : Outline}
    (ho : g.outline id c = .ok o) {full : String} (h : full ∈ (g.closed c o).imports) :
    ∃ package name, g.MayImport full package name := by
  have accounts : (g.opened c).Accounts o.references (g.closed c o) :=
    ImportScope.accounts_referAll rfl o.references
  obtain ⟨package, name, member, rfl, named, -, fresh, -⟩ :=
    accounts.imported (mem_distinctSorted.mp h)
  -- what a file binds from the start it never imports
  have builtin : g.target.builtins.get? name = none := by
    rw [opened, ImportScope.bound_opening] at fresh
    split at fresh
    · cases fresh
    · simpa using fresh
  refine ⟨package, name, rfl, named, ?_, builtin, afterLast_qualify named⟩
  rcases (origin_of_mem_references ho _ member).named closed with generated | known | marker
  · exact .inl generated
  · cases builtin.symm.trans known
  · exact .inr marker

/-! ### References to classes -/

end Generator

def FieldType.base : FieldType → Reference
  | .single base _ => base
  | .many _ base _ => base

/-- A text stands for a type in a file: it is the full name of the type, or its name alone where the
file has that name stand for it, because the type is of the same package, imported or built in. -/
def ImportScope.StandsFor (s : ImportScope) (builtins : Table String String)
    (text package name : String) : Prop :=
  text = qualify package name ∨ text = name ∧ s.bound.get? name = some (qualify package name) ∧
    (package = s.package ∨ qualify package name ∈ s.imports ∨ builtins.get? name = some package)

namespace Generator

variable {g : Generator} {output id : String} {c : Uml.Class}

theorem standsFor_of_generates (root : g.root ≠ "") {o : Outline} {package name : String}
    (generated : g.Generates package name) (member : .named package name ∈ o.references) :
    (g.closed c o).StandsFor g.target.builtins ((g.closed c o).spell (.named package name))
      package name := by
  have simple := generated.simple
  have named : package ≠ "" := by
    obtain ⟨key, s, -, rfl, -⟩ := generated
    exact packageName_ne_empty root
  have here : g.packageOf c ≠ "" := packageName_ne_empty root
  have accounts : (g.opened c).Accounts o.references (g.closed c o) :=
    ImportScope.accounts_referAll rfl o.references
  obtain ⟨full, bound⟩ := Option.isSome_iff_exists.mp
    (ImportScope.settled_referAll (g.opened c) member)
  rw [ImportScope.spell]
  split
  · rename_i short
    refine .inr ⟨rfl, short, ?_⟩
    rcases bound_origin short with ⟨-, same⟩ | ⟨-, p, builtin, same⟩ | ⟨-, p, -, same, near⟩
    · have package := qualify_inj named here (same.trans (qualify_eq here name).symm)
      exact .inl (package.trans accounts.package.symm)
    · have filled : p ≠ "" := by
        rcases Profile.Target.builtins_package builtin with rfl | rfl <;> decide
      have package := qualify_inj named filled (same.trans (qualify_eq filled name).symm)
      exact .inr (.inr (package ▸ builtin))
    · rcases near with rfl | rfl | imported
      · -- without a package the full name would be the simple name
        have point := point_mem_qualify named name
        rw [same] at point
        exact absurd point simple
      · exact .inl ((qualify_inj named here same).trans accounts.package.symm)
      · exact .inr (.inl (mem_distinctSorted.mpr imported))
  · exact .inl rfl

theorem base_mem_references {t : FieldType} : t.base ∈ t.references := by
  cases t <;> simp [FieldType.base, FieldType.references]

theorem base_of_field (closed : g.model.Closed) {o : Outline} (ho : g.outline id c = .ok o)
    {f : Field} (hf : f ∈ o.inherited ++ o.own) {key : String}
    (link : f.property.links.type = some key) : ∃ s, g.model.classes.get? key = some s ∧
      f.type.base = .named (g.packageOf s) (g.classNameOf s) ∧ f.type.base ∈ o.references := by
  have written : f.type.base ∈ o.references := by
    rw [Outline.references, ← List.flatMap_append]
    exact List.mem_append_left _ (List.mem_append_left _
      (List.mem_flatMap.mpr ⟨f, hf, base_mem_references⟩))
  obtain ⟨owner, meant⟩ := meantType_of_outline ho hf
  obtain ⟨base, found, type⟩ := meantType_cases meant
  have same : f.type.base = base := by
    rcases type with type | ⟨_, _, -, type⟩ <;> rw [type] <;> rfl
  rw [baseReference, link] at found
  obtain ⟨s, hs, named⟩ := (classReference_eq_ok_iff closed).mp found
  exact ⟨s, hs, same.trans named.symm, written⟩

/-- What only classes hold was never resolved and has no links. -/
theorem detachedClosed_extract (skipped : List String) {events : List Xml.Event}
    (nested : Xml.WellNested events) : (Xmi.extract skipped events).DetachedClosed := by
  intro id key c p found detached link
  obtain ⟨-, -, -, -, -, -, links⟩ := Xmi.read_again_of_detached nested found detached
  rw [links] at link
  cases link

/-- A file imports classes of the model and markers only, and what it says for the class of a
property or for the superclass stands for that class of the model. A run that goes through declares
each class of the model in one of its files, and nothing but a circle of superclasses or a name that
the settings lack keeps the run on what well-nested events declare from going through. -/
theorem imports_generated {m : Uml.Model} (resolved : g.model = m.resolve) (root : g.root ≠ "")
    (output : String) :
    (∀ file ∈ (g.files output).1, ∃ id c d o, g.model.classes.get? id = some c ∧
      g.sourcePath output c = .ok file.path ∧ g.plan id c = .ok d ∧
      file.content = Source.text (Source.classLines d) ∧ g.outline id c = .ok o ∧
      d = { o.declaration g c (g.closed c o).spell with imports := (g.closed c o).imports } ∧
      (∀ full ∈ d.imports, ∃ package name, g.MayImport full package name) ∧
      (∀ f ∈ o.inherited ++ o.own, ∀ key, f.property.links.type = some key →
        ∃ s, g.model.classes.get? key = some s ∧
          f.type.base = .named (g.packageOf s) (g.classNameOf s) ∧
          (g.closed c o).StandsFor g.target.builtins ((g.closed c o).spell f.type.base)
            (g.packageOf s) (g.classNameOf s)) ∧
      (∀ key, c.superclass = some key → ∃ s text, g.model.classes.get? key = some s ∧
        d.superclass = some text ∧
        (g.closed c o).StandsFor g.target.builtins text (g.packageOf s) (g.classNameOf s))) ∧
    (∀ fs, g.files output = (fs, none) → ∀ package name, g.Generates package name →
      ∃ file ∈ fs, ∃ d, file.content = Source.text (Source.classLines d) ∧
        d.package = package ∧ d.name = name) ∧
    (∀ skipped events, Xml.WellNested events → m = Xmi.extract skipped events →
      g.target.Complete → g.target.extension?.isSome → g.markers.Named →
      (∀ id c, g.model.classes.get? id = some c → ∃ above, g.model.ancestors id c = .ok above) →
      ∃ fs, g.files output = (fs, none)) := by
  have closed : g.model.Closed := resolved ▸ m.resolve_closed
  refine ⟨?_, fun fs done package name generated => generated.declared done, ?_⟩
  · intro file hf
    obtain ⟨id, c, hc, made⟩ := class_of_mem_files hf
    obtain ⟨path, d, hd, content⟩ := file_eq_ok_iff.mp made
    obtain ⟨o, ho, rfl⟩ := plan_eq_ok_iff.mp hd
    refine ⟨id, c, _, o, hc, path, hd, content, ho, rfl,
      fun full => mayImport_of_mem_imports closed ho, ?_, ?_⟩
    · intro f hf key link
      obtain ⟨s, hs, base, written⟩ := base_of_field closed ho hf link
      refine ⟨s, hs, base, ?_⟩
      rw [base] at written ⊢
      exact standsFor_of_generates root ⟨key, s, hs, rfl, rfl⟩ written
    · intro key link
      obtain ⟨s, hs⟩ := closed.superclass hc link
      have above := superclass_of_outline closed link hs ho
      have written : .named (g.packageOf s) (g.classNameOf s) ∈ o.references := by
        simp [Outline.references, above]
      refine ⟨s, _, hs, ?_, standsFor_of_generates root ⟨key, s, hs, rfl, rfl⟩ written⟩
      simp [Outline.declaration, assemble, above]
  · intro skipped events nested extracted target extension markers acyclic
    have detached : g.model.DetachedClosed :=
      resolved ▸ extracted ▸ Uml.Model.DetachedClosed.resolve (detachedClosed_extract skipped nested)
    apply exists_completed
    intro id c hc
    obtain ⟨above, up⟩ := acyclic id c hc
    obtain ⟨d, hd⟩ := exists_plan closed target markers detached hc up
    exact exists_file extension hd

private def places : Uml.Model where
  classes := ⟨[
    ("A", { id := "A", name := "Adresse", packagePath := ["Felles"] }),
    ("P", { id := "P", name := "Person", packagePath := ["Personal"], members := [.listed "a"] })],
    by simp⟩
  properties := ⟨[("a", { id := "a", name := some "adresse", typeId := some "A" })], by simp⟩

private def placeFiles : Generator where
  model := places.resolve
  root := "no.fint.model"
  target := Profile.Bundled.target

private theorem places_completed : ∃ fs, placeFiles.files "out" = (fs, none) := by
  have classes : placeFiles.model.classes.values = [
      { id := "A", name := "Adresse", packagePath := ["Felles"] },
      { id := "P", name := "Person", packagePath := ["Personal"], members := [.listed "a"] }] := rfl
  have detached : placeFiles.model.DetachedClosed :=
    Uml.Model.detachedClosed_of_listed (by simp [classes])
  apply exists_completed
  intro id c hc
  have top : c.superclass = none := by
    have member : c ∈ placeFiles.model.classes.values := Table.mem_values.mpr ⟨id, hc⟩
    simp only [classes, List.mem_cons, List.not_mem_nil, or_false] at member
    rcases member with rfl | rfl <;> rfl
  have up : placeFiles.model.ancestors id c = .ok [] :=
    (Uml.Model.ancestors_eq_ok_iff hc).mpr ⟨.top (by rw [Uml.Model.parent?, top]; rfl), by simp⟩
  obtain ⟨d, hd⟩ := exists_plan places.resolve_closed Profile.Bundled.target_complete
    ⟨⟨_, rfl⟩, ⟨_, rfl⟩⟩ detached hc up
  exact exists_file rfl hd

theorem imports_generated_person : ∃ fs, placeFiles.files "out" = (fs, none) ∧
    (∀ file ∈ fs, ∃ d, file.content = Source.text (Source.classLines d) ∧
      ∀ full ∈ d.imports, ∃ package name, placeFiles.MayImport full package name) ∧
    ∃ file ∈ fs, ∃ d, file.content = Source.text (Source.classLines d) ∧
      d.package = "no.fint.model.felles" ∧ d.name = "Adresse" := by
  have address : placeFiles.Generates "no.fint.model.felles" "Adresse" :=
    ⟨"A", _, rfl, by decide +kernel, by decide +kernel⟩
  obtain ⟨fs, done⟩ := places_completed
  obtain ⟨files, declared, -⟩ :=
    imports_generated (g := placeFiles) (m := places) rfl (by decide) "out"
  refine ⟨fs, done, fun file hf => ?_, declared fs done _ _ address⟩
  obtain ⟨-, -, d, -, -, -, -, content, -, -, imports, -⟩ := files file (by rw [done]; exact hf)
  exact ⟨d, content, imports⟩

end Generator

end UmlKotlin.Kotlin
