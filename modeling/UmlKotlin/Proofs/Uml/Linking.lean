import UmlKotlin.Proofs.Uml.Inverse

/-!
Where the links of a resolved model lead. A link is set exactly if what was declared names an entity
of the model, and then leads to that entity; a type is a class or the name of a primitive type, not
both; an inverse is the other end of the property's own association. Main statement:
`resolve_leadsInto`.
-/

set_option autoImplicit false

namespace UmlKotlin.Uml

open Text (blank)

/-- An identifier, if it is given and not blank, names what a table lists under it. -/
structure Names {α : Type} (given : Option String) (t : Table String α) (key : String) (a : α) :
    Prop where
  given : given = some key
  filled : blank (some key) = false
  listed : t.get? key = some a

structure Property.LeadsInto (p : Property) (m : Model) : Prop where
  type (key : String) : p.links.type = some key ↔ ∃ c, Names p.typeId m.classes key c ∧ c.id = key
  exclusive : p.links.type.isSome → p.links.primitiveType = none
  primitiveType (name : String) : p.links.primitiveType = some name → blank (some name) = false
  association (key : String) :
    p.links.association = some key ↔ ∃ a, Names p.associationId m.associations key a ∧ a.id = key
  inverse (key : String) : p.links.inverse = some key →
    (∃ q, m.properties.get? key = some q ∧ q.id = key) ∧
      ∃ x a, p.links.association = some x ∧ m.associations.get? x = some a ∧
        a.bidirectional = true ∧
        (a.memberEndIds = [p.id, key] ∨ a.memberEndIds = [key, p.id])

/-- The link of a class to its superclass leads into a model. -/
structure Class.LeadsInto (c : Class) (m : Model) : Prop where
  superclass (key : String) :
    c.superclass = some key ↔ ∃ s, Names c.generalizationId m.classes key s ∧ s.id = key
  top : c.superclass = none ↔ blank c.generalizationId = true ∨
    ∃ key, c.generalizationId = some key ∧ m.classes.get? key = none

namespace Model

/-- Every entity is listed under its own identifier. -/
structure Keyed (m : Model) : Prop where
  classes : m.classes.KeyedBy (·.id)
  properties : m.properties.KeyedBy (·.id)
  associations : m.associations.KeyedBy (·.id)

variable {m : Model} {p : Property} {c : Class} {key : String}

theorem Keyed.resolve (h : m.Keyed) : m.resolve.Keyed := by
  rw [resolve_eq]
  exact ⟨h.classes.map fun _ _ => rfl, h.properties.map m.id_resolved, h.associations⟩

private theorem filter_eq_some_iff {α : Type} {given : Option String} {t : Table String α} :
    (given.filter fun id => !blank (some id) && t.contains id) = some key ↔
      ∃ a, Names given t key a := by
  rw [Option.filter_eq_some_iff, Bool.and_eq_true, Bool.not_eq_true', Table.contains_eq_isSome,
    Option.isSome_iff_exists]
  constructor
  · rintro ⟨given, filled, a, listed⟩
    exact ⟨a, given, filled, listed⟩
  · rintro ⟨a, given, filled, listed⟩
    exact ⟨given, filled, a, listed⟩

theorem typeOf_eq_some_iff : m.typeOf p = some key ↔ ∃ c, Names p.typeId m.classes key c :=
  filter_eq_some_iff

theorem superclassOf_eq_some_iff :
    m.superclassOf c = some key ↔ ∃ s, Names c.generalizationId m.classes key s :=
  filter_eq_some_iff

theorem superclassOf_eq_none_iff : m.superclassOf c = none ↔ blank c.generalizationId = true ∨
    ∃ key, c.generalizationId = some key ∧ m.classes.get? key = none := by
  cases given : c.generalizationId with
  | none => simp [superclassOf, given, blank]
  | some key =>
    simp only [superclassOf, given, Option.filter_some, Table.contains_eq_isSome]
    cases blank (some key) <;> cases found : m.classes.get? key <;> simp [found]

theorem associationOf_eq_some_iff {a : Association} :
    m.associationOf p = some (key, a) ↔ Names p.associationId m.associations key a := by
  unfold associationOf
  constructor
  · intro found
    split at found
    · cases found
    · rename_i filled
      obtain ⟨id, given, found⟩ := Option.bind_eq_some_iff.mp found
      obtain ⟨a', listed, same⟩ := Option.map_eq_some_iff.mp found
      cases same
      exact ⟨given, by simpa [given] using filled, listed⟩
  · rintro ⟨given, filled, listed⟩
    simp [given, filled, listed]

theorem primitiveTypeOf_eq_some {name : String} (h : m.primitiveTypeOf p = some name) :
    m.typeOf p = none ∧ blank (some name) = false := by
  unfold primitiveTypeOf at h
  split at h
  · cases h
  · rename_i untyped
    obtain ⟨-, filled⟩ := Option.filter_eq_some_iff.mp h
    exact ⟨by simpa using untyped, by simpa using filled⟩

theorem linksOf_leadsInto (keyed : m.Keyed) (links : p.links = m.resolvedLinks key p) :
    p.LeadsInto m := by
  have type : p.links.type = m.typeOf p := by rw [links]; rfl
  have primitive : p.links.primitiveType = m.primitiveTypeOf p := by rw [links]; rfl
  have association : p.links.association = (m.associationOf p).map (·.1) := by rw [links]; rfl
  have inverse : p.links.inverse = m.inverseOf p := by rw [links]; rfl
  refine ⟨fun key => ?_, fun typed => ?_, fun name named => ?_, fun key => ?_, fun key paired => ?_⟩
  · rw [type, typeOf_eq_some_iff]
    exact exists_congr fun c => (and_iff_left_of_imp fun h => keyed.classes h.listed).symm
  · rw [type] at typed
    rw [primitive]
    cases named : m.primitiveTypeOf p with
    | none => rfl
    | some name =>
      rw [(primitiveTypeOf_eq_some named).1] at typed
      cases typed
  · exact (primitiveTypeOf_eq_some (primitive ▸ named)).2
  · rw [association, Option.map_eq_some_iff]
    constructor
    · rintro ⟨⟨id, a⟩, found, rfl⟩
      have named := associationOf_eq_some_iff.mp found
      exact ⟨a, named, keyed.associations named.listed⟩
    · rintro ⟨a, named, -⟩
      exact ⟨(key, a), associationOf_eq_some_iff.mpr named, rfl⟩
  · obtain ⟨⟨x, a, found, both, ends⟩, there⟩ := inverseOf_eq_some_iff.mp (inverse ▸ paired)
    rw [Table.contains_eq_isSome, Option.isSome_iff_exists] at there
    obtain ⟨q, listed⟩ := there
    have named := associationOf_eq_some_iff.mp found
    exact ⟨⟨q, listed, keyed.properties listed⟩, x, a, by rw [association, found, Option.map_some],
      named.listed, both, ends⟩

/-- In a resolved model all links of the listed properties and of the classes lead where the
declared identifiers say, into the model; nothing that was taken out of it can be reached. -/
theorem resolve_leadsInto (keyed : m.Keyed) :
    (∀ id p, m.resolve.properties.get? id = some p → p.LeadsInto m.resolve) ∧
    (∀ id c, m.resolve.classes.get? id = some c → c.LeadsInto m.resolve) ∧
    ∀ key, m.resolve.linkedClass? key = m.resolve.classes.get? key := by
  refine ⟨fun id p found => ?_, fun id c found => ?_, m.resolve_closed.linkedClass?_eq⟩
  · refine linksOf_leadsInto keyed.resolve (?_ : p.links = m.resolve.resolvedLinks id p)
    obtain ⟨p', -, rfl⟩ := get?_resolve.mp found
    rw [m.resolve_ground.resolvedLinks_eq, links_resolved]
    obtain ⟨deprecated, message, eq⟩ := m.resolved_facts id p'
    rw [eq]
    rfl
  · have superclass : c.superclass = m.resolve.superclassOf c := by
      rw [resolve_eq, Table.get?_map] at found
      obtain ⟨c', -, rfl⟩ := Option.map_eq_some_iff.mp found
      rw [m.resolve_ground.superclassOf_eq]
      rfl
    refine ⟨fun key => ?_, ?_⟩
    · rw [superclass, superclassOf_eq_some_iff]
      exact exists_congr fun s => (and_iff_left_of_imp fun h => keyed.resolve.classes h.listed).symm
    · rw [superclass, superclassOf_eq_none_iff]

private def students : Model where
  classes := ⟨[
    ("P", { id := "P", name := "Person", members := [.listed "p"], superclass := some "gone" }),
    ("S", { id := "S", name := "Student", members := [.listed "q"],
            generalizationId := some "P" })], by simp⟩
  properties := ⟨[
    ("p", { id := "p", typeId := some "S", associationId := some "R" }),
    ("q", { id := "q", typeId := some "P", associationId := some "R", links := {
        type := some "gone"
        primitiveType := some "string" } })], by simp⟩
  associations :=
    ⟨[("R", { id := "R", memberEndIds := ["p", "q"], bidirectional := true })], by simp⟩

theorem resolve_leadsInto_students : students.Keyed ∧
    (∃ q, students.resolve.properties.get? "q" = some q ∧ q.LeadsInto students.resolve ∧
      q.links.type = some "P" ∧ q.links.inverse = some "p") ∧
    ∃ c, students.resolve.classes.get? "S" = some c ∧ c.LeadsInto students.resolve ∧
      c.superclass = some "P" := by
  have keyed : students.Keyed := by
    constructor <;> exact Table.keyedBy_iff.mpr (by simp [students])
  obtain ⟨properties, classes, -⟩ := resolve_leadsInto keyed
  exact ⟨keyed, ⟨_, rfl, properties "q" _ rfl, rfl, by decide⟩, _, rfl, classes "S" _ rfl, rfl⟩

end Model

end UmlKotlin.Uml
