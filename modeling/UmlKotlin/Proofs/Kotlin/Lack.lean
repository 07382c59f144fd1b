import UmlKotlin.Proofs.Kotlin.Files

/-!
What a profile with both kinds of collections spares a run: no class is without a source file because
a collection is missing (`not_lack_of_files`).
-/

set_option autoImplicit false

namespace UmlKotlin.Kotlin

def PlanError.isLack : PlanError → Bool
  | .noCollection _ _ => true
  | _ => false

namespace Generator

open Uml (Property)

variable {g : Generator} {id key output : String} {c : Uml.Class} {p : Property} {e : PlanError}

theorem not_lack_of_classReference (failed : g.classReference key = .error e) :
    e.isLack = false := by
  rcases bind_eq_error_iff.mp failed with unlisted | ⟨c, -, made⟩
  · unfold listed at unlisted
    split at unlisted
    · cases unlisted
    · cases unlisted
      rfl
  · cases made

theorem not_lack_of_baseReference (failed : g.baseReference p = .error e) : e.isLack = false := by
  unfold baseReference at failed
  split at failed
  · exact not_lack_of_classReference failed
  · unfold primitiveReference at failed
    split at failed
    · cases failed
    · cases failed
      rfl

theorem not_lack_of_markerReferences {has : Bool} {name : Option String}
    (failed : g.markerReferences has name = .error e) : e.isLack = false := by
  unfold markerReferences at failed
  split at failed
  · have unnamed := map_eq_error_iff.mp failed
    unfold markerReference at unnamed
    split at unnamed
    · cases unnamed
    · cases unnamed
      rfl
  · cases failed

theorem not_lack_of_interfaceReferences (failed : g.interfaceReferences c = .error e) :
    e.isLack = false := by
  rcases bind_eq_error_iff.mp failed with roots | ⟨roots, -, failed⟩
  · exact not_lack_of_markerReferences roots
  · rcases bind_eq_error_iff.mp failed with values | ⟨values, -, made⟩
    · exact not_lack_of_markerReferences values
    · cases made

theorem not_lack_of_superclassReference (failed : g.superclassReference c = .error e) :
    e.isLack = false := by
  unfold superclassReference at failed
  split at failed
  · exact not_lack_of_classReference (map_eq_error_iff.mp failed)
  · cases failed

section

variable (kinds : ∀ ordered, ∃ t, g.target.collection? ordered = some t)

include kinds

theorem not_lack_of_meantType (failed : g.meantType p c = .error e) : e.isLack = false := by
  rcases bind_eq_error_iff.mp failed with base | ⟨base, -, failed⟩
  · exact not_lack_of_baseReference base
  · split at failed
    · obtain ⟨t, there⟩ := kinds (g.isComplexDatatype c)
      rw [collectionFor, there] at failed
      cases failed
    · cases failed

theorem not_lack_of_fieldsOf (failed : g.fieldsOf c = .error e) : e.isLack = false := by
  obtain ⟨p, -, failed⟩ := exists_error_of_mapM failed
  exact not_lack_of_meantType kinds (map_eq_error_iff.mp failed)

theorem not_lack_of_outline (failed : g.outline id c = .error e) : e.isLack = false := by
  rcases bind_eq_error_iff.mp failed with up | ⟨above, -, failed⟩
  · unfold ancestors at up
    split at up
    · cases up
    · cases up
      rfl
  rcases bind_eq_error_iff.mp failed with inherited | ⟨groups, -, failed⟩
  · obtain ⟨a, -, failed⟩ := exists_error_of_mapM inherited
    exact not_lack_of_fieldsOf kinds failed
  rcases bind_eq_error_iff.mp failed with own | ⟨own, -, failed⟩
  · exact not_lack_of_fieldsOf kinds own
  rcases bind_eq_error_iff.mp failed with superclass | ⟨superclass, -, failed⟩
  · exact not_lack_of_superclassReference superclass
  rcases bind_eq_error_iff.mp failed with interfaces | ⟨interfaces, -, made⟩
  · exact not_lack_of_interfaceReferences interfaces
  · cases made

theorem not_lack_of_file (failed : g.file output id c = .error e) : e.isLack = false := by
  rcases bind_eq_error_iff.mp failed with path | ⟨path, -, failed⟩
  · unfold sourcePath at path
    split at path
    · cases path
      rfl
    · cases path
  rcases bind_eq_error_iff.mp failed with content | ⟨content, -, made⟩
  · rcases bind_eq_error_iff.mp content with planned | ⟨d, -, made⟩
    · rw [plan_eq] at planned
      exact not_lack_of_outline kinds (map_eq_error_iff.mp planned)
    · cases made
  · cases made

theorem not_lack_of_files (failed : (g.files output).2 = some e) : e.isLack = false := by
  rcases upToError_cases (fun d => g.file output d.1 d.2) g.model.sortedClasses with
    ⟨fs, results, -⟩ | ⟨before, d, after, fs, e', -, stopped, results, -⟩
  · rw [files, results] at failed
    cases failed
  · rw [files, results] at failed
    cases failed
    exact not_lack_of_file kinds stopped

end

end Generator

end UmlKotlin.Kotlin
