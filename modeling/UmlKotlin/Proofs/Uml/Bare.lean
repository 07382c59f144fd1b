import UmlKotlin.Proofs.Uml.Hierarchy
import UmlKotlin.Proofs.Uml.Resolution

/-!
Models without what is said about their entities: no documentation, and no deprecation. Main
statements: looking things up and walking up the ancestors goes through with it (`ancestors_bare`),
and so does resolution (`bare_resolve`).
-/

set_option autoImplicit false

namespace UmlKotlin.Uml

def Links.bare (l : Links) : Links := { l with associationDocumentation := none }

def Property.bare (p : Property) : Property :=
  { p with
    deprecated := false
    deprecationMessage := none
    documentation := none
    links := p.links.bare }

def Member.bare : Member → Member
  | .listed id => .listed id
  | .detached p => .detached p.bare

def Class.bare (c : Class) : Class :=
  { c with
    deprecated := false
    deprecationMessage := none
    documentation := none
    members := c.members.map Member.bare }

def Association.bare (a : Association) : Association :=
  { a with
    deprecated := false
    deprecationMessage := none
    sourceDocumentation := none
    targetDocumentation := none }

namespace Model

def bare (m : Model) : Model :=
  { m with
    classes := m.classes.map fun _ c => c.bare
    properties := m.properties.map fun _ p => p.bare
    associations := m.associations.map fun _ a => a.bare
    retired := m.retired.map fun _ c => c.bare }

variable (m : Model)

theorem linkedClass?_bare (key : String) :
    m.bare.linkedClass? key = (m.linkedClass? key).map Class.bare := by
  simp only [linkedClass?, bare, Table.get?_map, Option.map_or]

theorem bearer?_bare (id : String) : m.bare.bearer? id = (m.bearer? id).map Class.bare := by
  simp only [bearer?, bare, Table.values_map, List.filter_map, List.getLast?_map]
  rfl

theorem property?_bare (member : Member) :
    m.bare.property? member.bare = (m.property? member).map Property.bare := by
  cases member with
  | listed id => exact Table.get?_map _ _ _
  | detached p => rfl

theorem sortedProperties_bare (c : Class) :
    m.bare.sortedProperties c.bare = (m.sortedProperties c).map Property.bare := by
  have properties : m.bare.propertiesOf c.bare = (m.propertiesOf c).map Property.bare := by
    simp only [propertiesOf, Class.bare, List.filterMap_map, List.map_filterMap]
    congr 1
    funext member
    exact m.property?_bare member
  rw [sortedProperties, properties, sortedProperties]
  exact (List.map_mergeSort (f := Property.bare) fun _ _ _ _ => rfl).symm

/-! ### Ancestors -/

/-- What climbing finds, seen without what is said about it. -/
private def bareFound : Except (List Class) (List Class) → Except (List Class) (List Class)
  | .ok above => .ok (above.map Class.bare)
  | .error met => .error (met.map Class.bare)

theorem climb_bare (unseen met : List String) (above : List Class) (c : Class) :
    m.bare.climb unseen met (above.map Class.bare) c.bare =
      bareFound (m.climb unseen met above c) := by
  have superclass (c : Class) : c.bare.superclass = c.superclass := rfl
  have id (c : Class) : c.bare.id = c.id := rfl
  induction unseen, met, above, c using climb.induct m with
  | case1 unseen met above c top =>
    rw [climb_eq, climb_eq, superclass, top]
    rfl
  | case2 unseen met above c key link nowhere =>
    rw [climb_eq, climb_eq, superclass, link]
    simp only [linkedClass?_bare, nowhere]
    rfl
  | case3 unseen met above c key link s found again =>
    rw [climb_eq, climb_eq, superclass, link]
    simp [linkedClass?_bare, found, id, again, bareFound]
  | case4 unseen met above c key link s found fresh open_ ih =>
    rw [climb_eq, climb_eq, superclass, link]
    simp only [linkedClass?_bare, found, Option.map_some, id, if_neg fresh, if_pos open_]
    exact ih
  | case5 unseen met above c key link s found fresh seen =>
    rw [climb_eq, climb_eq, superclass, link]
    simp [linkedClass?_bare, found, id, fresh, seen, bareFound]

theorem ancestors_bare (id : String) (c : Class) :
    m.bare.ancestors id c.bare = (m.ancestors id c).map (List.map Class.bare) := by
  have keys : m.bare.classes.keys ++ m.bare.retired.keys = m.classes.keys ++ m.retired.keys := by
    rw [bare, Table.keys_map, Table.keys_map]
  have climbed := m.climb_bare ((m.classes.keys ++ m.retired.keys).erase id) [c.id] [] c
  rw [ancestors, ancestors, keys]
  rw [List.map_nil] at climbed
  have own : c.bare.id = c.id := rfl
  rw [own, climbed]
  cases m.climb ((m.classes.keys ++ m.retired.keys).erase id) [c.id] [] c with
  | ok above => rfl
  | error met =>
    have names : (met.map Class.bare).map (·.name) = met.map (·.name) := by
      rw [List.map_map]
      rfl
    simp only [bareFound, names]
    rfl

/-! ### Resolution -/

theorem associationOf_bare (p : Property) : m.bare.associationOf p.bare =
    (m.associationOf p).map fun found => (found.1, found.2.bare) := by
  simp only [associationOf, bare, Property.bare, Table.get?_map]
  split
  · rfl
  · cases p.associationId with
    | none => rfl
    | some id =>
      rw [Option.bind_some, Option.bind_some, Option.map_map, Option.map_map]
      rfl

theorem contains_bare (id : String) : m.bare.classes.contains id = m.classes.contains id := by
  rw [Table.contains, bare, Table.keys_map, Table.contains]

theorem linksOf_bare (p : Property) : m.bare.linksOf p.bare = m.linksOf p := by
  have properties (id : String) : m.bare.properties.contains id = m.properties.contains id := by
    rw [Table.contains, bare, Table.keys_map, Table.contains]
  have type : m.bare.typeOf p.bare = m.typeOf p := by
    simp only [typeOf, contains_bare]
    rfl
  have primitive : m.bare.primitiveTypeOf p.bare = m.primitiveTypeOf p := by
    simp only [primitiveTypeOf, type]
    rfl
  have inverse : m.bare.inverseOf p.bare = m.inverseOf p := by
    simp only [inverseOf, associationOf_bare, properties]
    cases m.associationOf p <;> rfl
  rw [linksOf, type, primitive, inverse, associationOf_bare, linksOf, Option.map_map]
  rfl

theorem resolve_bare : m.resolve.bare = { m.bare with
    properties := m.bare.properties.map fun _ p => { p with links := m.bare.linksOf p }
    classes := m.bare.classes.map fun _ c => { c with superclass := m.bare.superclassOf c }
    retired := ∅ } := by
  have property (id : String) (p : Property) :
      (m.resolved id p).bare = { p.bare with links := m.bare.linksOf p.bare } := by
    obtain ⟨deprecated, message, facts⟩ := m.resolved_facts id p
    rw [facts, linksOf_bare]
    rfl
  have superclass (c : Class) : m.bare.superclassOf c.bare = m.superclassOf c := by
    simp only [superclassOf, contains_bare]
    rfl
  rw [resolve_eq]
  simp only [bare, Table.map_map, property] at superclass ⊢
  simp only [superclass]
  rfl

theorem bare_resolve {n : Model} (same : m.bare = n.bare) : m.resolve.bare = n.resolve.bare := by
  rw [resolve_bare, resolve_bare, same]

end Model

end UmlKotlin.Uml
