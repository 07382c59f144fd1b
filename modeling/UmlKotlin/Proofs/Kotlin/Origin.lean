import UmlKotlin.Proofs.Kotlin.Planning

/-!
Where the references of a file come from: the classes that its links lead to, the types of the
profile, and the markers (`origin_of_mem_references`).
-/

set_option autoImplicit false

namespace UmlKotlin.Kotlin.Generator

open Uml (Property)

inductive Origin (g : Generator) : Reference → Prop
  | listed {key : String} {c : Uml.Class} (found : g.listed key = .ok c) :
    g.Origin (.named (g.packageOf c) (g.classNameOf c))
  | primitive {raw : Option String} {name : String} (found : g.target.primitive raw = some name) :
    g.Origin (g.builtinReference name)
  | collection {ordered : Bool} {c : Profile.CollectionType}
    (found : g.target.collection? ordered = some c) : g.Origin (g.collectionReference c)
  | marker {name : String}
    (given : g.markers.rootEntity = some name ∨ g.markers.complexDatatype = some name) :
    g.Origin (.named g.markers.package name)

variable {g : Generator}

theorem origin_of_classReference {key : String} {r : Reference}
    (h : g.classReference key = .ok r) : g.Origin r := by
  obtain ⟨c, found, h⟩ := bind_eq_ok_iff.mp h
  cases h
  exact .listed found

theorem origin_of_baseReference {p : Property} {r : Reference} (h : g.baseReference p = .ok r) :
    g.Origin r := by
  unfold baseReference at h
  cases type : p.links.type with
  | some key =>
    rw [type] at h
    exact origin_of_classReference h
  | none =>
    rw [type] at h
    simp only [primitiveReference] at h
    cases found : g.target.primitive p.links.primitiveType with
    | none => simp [found] at h
    | some name =>
      simp only [found] at h
      cases h
      exact .primitive found

theorem meantType_cases {p : Property} {owner : Uml.Class} {t : FieldType}
    (h : g.meantType p owner = .ok t) : ∃ base, g.baseReference p = .ok base ∧
      (t = .single base (!p.isRequired) ∨ ∃ ordered c, g.target.collection? ordered = some c ∧
        t = .many (g.collectionReference c) base c.empty) := by
  obtain ⟨base, found, h⟩ := bind_eq_ok_iff.mp h
  refine ⟨base, found, ?_⟩
  cases many : p.isMany with
  | false =>
    rw [many] at h
    cases h
    exact .inl rfl
  | true =>
    rw [many, if_pos rfl] at h
    obtain ⟨c, collection, h⟩ := bind_eq_ok_iff.mp h
    cases h
    unfold collectionFor at collection
    dsimp only at collection
    split at collection
    · rename_i c' there
      cases collection
      exact .inr ⟨_, c, there, rfl⟩
    · cases collection

theorem origin_of_meantType {p : Property} {owner : Uml.Class} {t : FieldType}
    (h : g.meantType p owner = .ok t) : ∀ r ∈ t.references, g.Origin r := by
  obtain ⟨base, found, rfl | ⟨ordered, c, collection, rfl⟩⟩ := meantType_cases h
  · simpa [FieldType.references] using origin_of_baseReference found
  · simpa [FieldType.references] using
      ⟨origin_of_baseReference found, Origin.collection collection⟩

theorem meantType_of_fieldsOf {owner : Uml.Class} {fields : List Field}
    (h : g.fieldsOf owner = .ok fields) {f : Field} (hf : f ∈ fields) :
    g.meantType f.property owner = .ok f.type := by
  obtain ⟨p, -, typed⟩ := mem_of_mapM h hf
  obtain ⟨t, ht, rfl⟩ := map_eq_ok_iff.mp typed
  exact ht

theorem meantType_of_outline {id : String} {c : Uml.Class} {o : Outline}
    (ho : g.outline id c = .ok o) {f : Field} (hf : f ∈ o.inherited ++ o.own) :
    ∃ owner, g.meantType f.property owner = .ok f.type := by
  obtain ⟨above, groups, -, inherited, flat, own, -⟩ := outline_eq_ok_iff.mp ho
  rcases List.mem_append.mp hf with hf | hf
  · obtain ⟨group, member, hf⟩ := List.mem_flatten.mp (flat ▸ hf)
    obtain ⟨a, -, fields⟩ := mem_of_mapM inherited member
    exact ⟨a, meantType_of_fieldsOf fields hf⟩
  · exact ⟨c, meantType_of_fieldsOf own hf⟩

theorem origin_of_superclassReference {c : Uml.Class} {superclass : Option Reference}
    (h : g.superclassReference c = .ok superclass) : ∀ r ∈ superclass, g.Origin r := by
  unfold superclassReference at h
  cases link : c.superclass with
  | none =>
    rw [link] at h
    cases h
    simp
  | some key =>
    rw [link] at h
    obtain ⟨r, found, rfl⟩ := map_eq_ok_iff.mp h
    simpa using origin_of_classReference found

theorem origin_of_markerReferences {has : Bool} {name : Option String} {rs : List Reference}
    (h : g.markerReferences has name = .ok rs)
    (given : name = g.markers.rootEntity ∨ name = g.markers.complexDatatype) :
    ∀ r ∈ rs, g.Origin r := by
  cases has with
  | false =>
    cases h
    simp
  | true =>
    obtain ⟨r, found, rfl⟩ := map_eq_ok_iff.mp h
    cases name with
    | none => cases found
    | some name =>
      cases found
      simpa using Origin.marker (given.imp Eq.symm Eq.symm)

theorem origin_of_interfaceReferences {c : Uml.Class} {rs : List Reference}
    (h : g.interfaceReferences c = .ok rs) : ∀ r ∈ rs, g.Origin r := by
  obtain ⟨roots, hroots, h⟩ := bind_eq_ok_iff.mp h
  obtain ⟨values, hvalues, h⟩ := bind_eq_ok_iff.mp h
  cases h
  intro r hr
  rcases List.mem_append.mp hr with hr | hr
  · exact origin_of_markerReferences hroots (.inl rfl) r hr
  · exact origin_of_markerReferences hvalues (.inr rfl) r hr

/-- Everything that a file refers to is a class that a link leads to, a type of the profile or a
marker. -/
theorem origin_of_mem_references {id : String} {c : Uml.Class} {o : Outline}
    (ho : g.outline id c = .ok o) : ∀ r ∈ o.references, g.Origin r := by
  obtain ⟨-, -, -, -, -, -, superclass, interfaces⟩ := outline_eq_ok_iff.mp ho
  have field {f : Field} (hf : f ∈ o.inherited ++ o.own) : ∀ r ∈ f.type.references, g.Origin r := by
    obtain ⟨owner, meant⟩ := meantType_of_outline ho hf
    exact origin_of_meantType meant
  intro r hr
  rw [Outline.references, ← List.flatMap_append] at hr
  rcases List.mem_append.mp hr with hr | hr
  · rcases List.mem_append.mp hr with hr | hr
    · obtain ⟨f, hf, hr⟩ := List.mem_flatMap.mp hr
      exact field hf r hr
    · exact origin_of_superclassReference superclass r (Option.mem_toList.mp hr)
  · exact origin_of_interfaceReferences interfaces r hr

end UmlKotlin.Kotlin.Generator
