import UmlKotlin.Proofs.Kotlin.Planning
import UmlKotlin.Proofs.Uml.Order

/-!
The files of a run. Each is the file of a class (`class_of_mem_files`), and they come in the order
of the classes up to the first class that has none (`upToError_cases`).
-/

set_option autoImplicit false

namespace UmlKotlin.Kotlin

namespace Generator

theorem mem_of_upToError {α ε : Type} {results : List (Except ε α)} {a : α}
    (h : a ∈ (upToError results).1) : .ok a ∈ results := by
  induction results with
  | nil => cases h
  | cons r results ih =>
    cases r with
    | error e => cases h
    | ok b =>
      rcases List.mem_cons.mp h with rfl | h
      · exact List.mem_cons_self
      · exact List.mem_cons_of_mem _ (ih h)

theorem upToError_eq_none_iff {α ε : Type} {results : List (Except ε α)} {as : List α} :
    upToError results = (as, none) ↔ results = as.map Except.ok := by
  induction results generalizing as with
  | nil => cases as <;> simp [upToError]
  | cons r results ih =>
    cases r with
    | error e => cases as <;> simp [upToError]
    | ok a =>
      cases as with
      | nil => simp [upToError]
      | cons b as =>
        rw [List.map_cons, List.cons.injEq, ← ih, upToError]
        simp [Prod.ext_iff, and_assoc]

theorem snd_upToError {α ε : Type} {results : List (Except ε α)}
    (h : ∀ r ∈ results, ∃ a, r = .ok a) : (upToError results).2 = none := by
  induction results with
  | nil => rfl
  | cons r results ih =>
    obtain ⟨a, rfl⟩ := h r List.mem_cons_self
    exact ih fun r hr => h r (List.mem_cons_of_mem _ hr)

theorem exists_results {α β ε : Type} {f : α → Except ε β} {l : List α}
    (h : ∀ a ∈ l, ∃ b, f a = .ok b) : ∃ bs : List β, l.map f = bs.map .ok := by
  have through : (upToError (l.map f)).2 = none := by
    apply snd_upToError
    intro r hr
    obtain ⟨a, member, rfl⟩ := List.mem_map.mp hr
    exact h a member
  exact ⟨_, upToError_eq_none_iff.mp (Prod.ext rfl through)⟩

theorem upToError_cases {α β ε : Type} (f : α → Except ε β) (l : List α) :
    (∃ bs, upToError (l.map f) = (bs, none) ∧ List.Forall₂ (fun a b => f a = .ok b) l bs) ∨
    ∃ before a after bs e, l = before ++ a :: after ∧ f a = .error e ∧
      upToError (l.map f) = (bs, some e) ∧ List.Forall₂ (fun a b => f a = .ok b) before bs := by
  induction l with
  | nil => exact .inl ⟨[], rfl, .nil⟩
  | cons a l ih =>
    cases first : f a with
    | error e => exact .inr ⟨[], a, l, [], e, rfl, first, by rw [List.map_cons, first]; rfl, .nil⟩
    | ok b =>
      rw [List.map_cons, first, upToError]
      rcases ih with ⟨bs, results, each⟩ | ⟨before, a', after, bs, e, rfl, failed, results, each⟩
      · exact .inl ⟨b :: bs, by rw [results], .cons first each⟩
      · exact .inr ⟨a :: before, a', after, b :: bs, e, rfl, failed, by rw [results],
          .cons first each⟩

variable {g : Generator} {output id : String} {c : Uml.Class}

theorem file_eq_ok_iff {file : GeneratedFile} : g.file output id c = .ok file ↔
    g.sourcePath output c = .ok file.path ∧
      ∃ d, g.plan id c = .ok d ∧ file.content = Source.text (Source.classLines d) := by
  obtain ⟨path, content⟩ := file
  simp only [Generator.file, render, bind_eq_ok_iff]
  constructor
  · rintro ⟨path', hp, content', ⟨d, hd, hc⟩, h⟩
    cases h
    cases hc
    exact ⟨hp, d, hd, rfl⟩
  · rintro ⟨hp, d, hd, rfl⟩
    exact ⟨path, hp, _, ⟨d, hd, rfl⟩, rfl⟩

theorem exists_file {d : ClassDeclaration} (extension : g.target.extension?.isSome)
    (hd : g.plan id c = .ok d) : ∃ file, g.file output id c = .ok file := by
  obtain ⟨ending, named⟩ := Option.isSome_iff_exists.mp extension
  have path : ∃ path, g.sourcePath output c = .ok path := by
    rw [sourcePath, named]
    exact ⟨_, rfl⟩
  obtain ⟨path, hp⟩ := path
  exact ⟨⟨path, _⟩, file_eq_ok_iff.mpr ⟨hp, d, hd, rfl⟩⟩

theorem exists_file_of_ancestors {above : List Uml.Class} (closed : g.model.Closed)
    (target : g.target.Complete) (extension : g.target.extension?.isSome)
    (markers : g.markers.Named) (detached : g.model.DetachedClosed)
    (listed : g.model.classes.get? id = some c) (up : g.model.ancestors id c = .ok above) :
    ∃ file, g.file output id c = .ok file := by
  obtain ⟨d, planned⟩ := exists_plan closed target markers detached listed up
  exact exists_file extension planned

theorem file_eq_error {e : PlanError} (extension : g.target.extension?.isSome)
    (hd : g.plan id c = .error e) : g.file output id c = .error e := by
  obtain ⟨ending, named⟩ := Option.isSome_iff_exists.mp extension
  rw [Generator.file, sourcePath, named, render, hd]
  rfl

theorem class_of_mem_files {file : GeneratedFile} (h : file ∈ (g.files output).1) :
    ∃ id c, g.model.classes.get? id = some c ∧ g.file output id c = .ok file := by
  obtain ⟨⟨id, c⟩, listed, made⟩ := List.mem_map.mp (mem_of_upToError h)
  exact ⟨id, c, Uml.Model.mem_sortedClasses.mp listed, made⟩

theorem file_of_completed {fs : List GeneratedFile} (done : g.files output = (fs, none))
    (hc : g.model.classes.get? id = some c) : ∃ file ∈ fs, g.file output id c = .ok file := by
  have result : g.file output id c ∈ g.model.sortedClasses.map fun c => g.file output c.1 c.2 :=
    List.mem_map.mpr ⟨(id, c), Uml.Model.mem_sortedClasses.mpr hc, rfl⟩
  rw [upToError_eq_none_iff.mp done] at result
  obtain ⟨file, member, made⟩ := List.mem_map.mp result
  exact ⟨file, member, made.symm⟩

theorem exists_completed (h : ∀ id c, g.model.classes.get? id = some c →
    ∃ file, g.file output id c = .ok file) : ∃ fs, g.files output = (fs, none) := by
  have each : ∀ c ∈ g.model.sortedClasses, ∃ file, g.file output c.1 c.2 = .ok file :=
    fun c listed => h c.1 c.2 (Uml.Model.mem_sortedClasses.mp listed)
  obtain ⟨fs, results⟩ := exists_results each
  refine ⟨fs, ?_⟩
  rw [files, upToError_eq_none_iff]
  exact results

end Generator

end UmlKotlin.Kotlin
