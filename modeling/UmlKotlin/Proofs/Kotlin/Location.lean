import UmlKotlin.Proofs.Kotlin.Filling
import UmlKotlin.Proofs.Kotlin.SourcePath
import UmlKotlin.Proofs.Profile.Bundled

/-!
Where the file of a class is put and what package it declares. Main statement: the file stands below
the directory of the root package, in directories that have the names that the declared package has
below the root, and two classes have one path only if they have one package and one name
(`source_paths_confined`).
-/

set_option autoImplicit false

namespace UmlKotlin.Kotlin.Generator

open Workspace (Path.Plain Path.parts Path.isAbsolute Path.inside Path.join Path.joinAll)

variable {g : Generator} {output extension : String} {c c' : Uml.Class}

theorem namesake_of_alone (alone : ∀ d ∈ g.model.classes.values, d.id = c.id → d = c) :
    g.namesake c = c := by
  rw [namesake]
  cases found : g.model.bearer? c.id with
  | none => rfl
  | some d =>
    have bears := List.mem_of_getLast? found
    obtain ⟨member, same⟩ := List.mem_filter.mp bears
    exact alone d member (beq_iff_eq.mp same)

theorem packageOf_eq_intercalate (g : Generator) (c : Uml.Class) :
    g.packageOf c = ".".intercalate (g.root :: g.segments c) := rfl

theorem packageOf_eq_iff : g.packageOf c = g.packageOf c' ↔ g.segments c = g.segments c' := by
  constructor
  · intro same
    have cut := congrArg (Text.splitAt '.') same
    rwa [splitAt_packageOf, splitAt_packageOf, List.append_cancel_left_eq] at cut
  · intro same
    rw [packageOf_eq_intercalate, packageOf_eq_intercalate, same]

theorem sourcePath_eq (ending : g.target.extension? = some extension) (output : String)
    (c : Uml.Class) : g.sourcePath output c = .ok (Path.inside (g.rootDirectory output) ++
      "/".intercalate (g.segments c ++ [g.classNameOf c ++ extension])) := by
  have plain : ∀ segment ∈ g.segments c, Path.Plain segment := fun _ => plain_of_mem_segments
  have relative : Path.isAbsolute (g.classNameOf c ++ extension) = false :=
    Workspace.Path.isAbsolute_plain (plain_className _ _) extension
  rw [sourcePath, ending]
  dsimp only
  rw [splitAt_packageOf, Path.joinAll, List.foldl_append, ← Path.joinAll, ← Path.joinAll,
    Workspace.Path.join_joinAll plain relative]
  rfl

/-- Behind the directory that all paths have in common, the last directory and the name of the file
can be told: no name of a class contains a slash. -/
theorem sourcePath_eq_iff (ending : g.target.extension? = some extension) :
    g.sourcePath output c = g.sourcePath output c' ↔
      g.packageOf c = g.packageOf c' ∧ g.classNameOf c = g.classNameOf c' := by
  constructor
  · intro same
    obtain ⟨first, rest, cut⟩ :=
      List.exists_cons_of_ne_nil (Workspace.Path.parts_ne_nil extension)
    have made := sourcePath_eq ending output c
    obtain ⟨parts, -⟩ := parts_sourcePath ending made
    obtain ⟨parts', -⟩ := parts_sourcePath ending (same ▸ made)
    rw [parts, parts_className cut, parts_className cut, List.append_assoc, List.append_assoc,
      List.append_cancel_left_eq] at parts'
    obtain ⟨segments, name⟩ := segments_of_parts parts'
    exact ⟨packageOf_eq_iff.mpr segments, name⟩
  · rintro ⟨packages, names⟩
    rw [sourcePath_eq ending, sourcePath_eq ending, packageOf_eq_iff.mp packages, names]

theorem render_begins {id text : String} (rendered : g.render id c = .ok text) :
    ∃ rest, text = "package " ++ g.packageOf c ++ "\n" ++ rest := by
  rw [render, bind_eq_ok_iff] at rendered
  obtain ⟨d, planned, made⟩ := rendered
  obtain ⟨o, -, shape⟩ := plan_eq_ok_iff.mp planned
  have package : d.package = g.packageOf c := by
    rw [shape]
    rfl
  obtain ⟨lines, begins⟩ : ∃ lines, Source.classLines d =
      ("package " ++ g.packageOf c) :: "" :: lines := by
    rw [← package]
    exact ⟨_, rfl⟩
  cases made
  refine ⟨"\n".intercalate ("" :: lines) ++ "\n", ?_⟩
  rw [begins, Source.text, String.intercalate_cons_cons]
  simp only [String.append_assoc]

/-- For every class there is a path. Behind the root package it has nothing but the names of plain
directories, which the package that the file declares has too, and the name of the class; and only
classes that are called the same have one path. The names are those of the class that bears the
identifier; a class that shares its identifier with no other one bears it. -/
theorem source_paths_confined (ending : g.target.extension? = some extension) (output : String) :
    (∀ c, g.sourcePath output c = .ok (Path.inside (g.rootDirectory output) ++
      "/".intercalate (g.segments c ++ [g.classNameOf c ++ extension]))) ∧
    (∀ c, ∀ segment ∈ g.segments c, segment ≠ "" ∧
      ∀ x ∈ segment.toList, isSmall x = true ∨ x = '_') ∧
    (∀ c, g.classNameOf c ≠ "" ∧ ∀ x ∈ (g.classNameOf c).toList, x.isAlphanum = true) ∧
    (∀ id c text, g.render id c = .ok text →
      ∃ rest, text = "package " ++ ".".intercalate (g.root :: g.segments c) ++ "\n" ++ rest) ∧
    (∀ c c', g.sourcePath output c = g.sourcePath output c' ↔
      g.packageOf c = g.packageOf c' ∧ g.classNameOf c = g.classNameOf c') ∧
    (∀ c, (g.segments c).length = (g.namesake c).packagePath.length) ∧
    ∀ c, (∀ d ∈ g.model.classes.values, d.id = c.id → d = c) → g.namesake c = c := by
  refine ⟨sourcePath_eq ending output, ?_, ?_, ?_, ?_, ?_, ?_⟩
  · intro c segment member
    obtain ⟨name, -, rfl⟩ := List.mem_map.mp member
    exact ⟨packageSegment_ne_empty _ _, fun _ => isSmall_of_mem_packageSegment⟩
  · intro c
    exact ⟨className_ne_empty _ _, fun _ => isAlphanum_of_mem_className⟩
  · intro id c text rendered
    exact render_begins rendered
  · intro c c'
    exact sourcePath_eq_iff ending
  · intro c
    exact List.length_map ..
  · intro c alone
    exact namesake_of_alone alone

private def wayOut : Uml.Class where
  id := "A"
  name := "/Ond.klasse"
  packagePath := ["../etc", "", "Ærlig Pakke"]

private def strays : Generator where
  model := { classes := ⟨[("A", wayOut)], by simp⟩ }
  root := "no.fint"
  target := Profile.Bundled.target

theorem source_paths_confined_way_out : strays.target.extension? = some ".kt" ∧
    strays.sourcePath "ut/" wayOut = .ok "ut/no/fint/etc/model/aerlig_pakke/OndKlasse.kt" ∧
    ∃ rest, strays.render "A" wayOut = .ok ("package no.fint.etc.model.aerlig_pakke\n" ++ rest) := by
  have ending : strays.target.extension? = some ".kt" := rfl
  obtain ⟨path, -, -, package, -⟩ := source_paths_confined ending "ut/"
  have shown : Path.inside (strays.rootDirectory "ut/") ++ "/".intercalate
      (strays.segments wayOut ++ [strays.classNameOf wayOut ++ ".kt"]) =
        "ut/no/fint/etc/model/aerlig_pakke/OndKlasse.kt" := by decide +kernel
  have declared : "package " ++ ".".intercalate (strays.root :: strays.segments wayOut) ++ "\n" =
      "package no.fint.etc.model.aerlig_pakke\n" := by decide +kernel
  refine ⟨ending, (path wayOut).trans (congrArg _ shown), ?_⟩
  cases rendered : strays.render "A" wayOut with
  | error e =>
    have some : (strays.render "A" wayOut).toBool = true := by decide +kernel
    rw [rendered] at some
    cases some
  | ok text =>
    obtain ⟨rest, begins⟩ := package "A" wayOut text rendered
    rw [declared] at begins
    exact ⟨rest, by rw [begins]⟩

end UmlKotlin.Kotlin.Generator
