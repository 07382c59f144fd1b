import UmlKotlin.Proofs.Uml.Resolution

/-!
Types of properties. Resolution gives every property that the model lists the type that its declared
facts say, and leaves a property that only its class still holds as it is. Main statement: all
properties of all classes have their types exactly if none of the latter has a type to be given
(`allTyped_resolve_iff`).
-/

set_option autoImplicit false

namespace UmlKotlin.Uml.Model

/-- A property has the type that its declared facts give it. -/
def Typed (m : Model) (p : Property) : Prop :=
  p.links.type = m.typeOf p ∧ p.links.primitiveType = m.primitiveTypeOf p

instance (m : Model) (p : Property) : Decidable (m.Typed p) := inferInstanceAs (Decidable (_ ∧ _))

def AllTyped (m : Model) : Prop := ∀ c ∈ m.classes.values, ∀ p ∈ m.propertiesOf c, m.Typed p

instance (m : Model) : Decidable m.AllTyped :=
  inferInstanceAs (Decidable (∀ c ∈ m.classes.values, ∀ p ∈ m.propertiesOf c, m.Typed p))

variable {m : Model} {id : String} {p : Property} {c : Class}

theorem types_resolve (m : Model) (p : Property) :
    m.resolve.typeOf p = m.typeOf p ∧ m.resolve.primitiveTypeOf p = m.primitiveTypeOf p := by
  have links := m.resolve_ground.linksOf_eq p
  exact ⟨congrArg Links.type links, congrArg Links.primitiveType links⟩

theorem typed_of_listed (found : m.resolve.properties.get? id = some p) : m.resolve.Typed p := by
  obtain ⟨p', -, rfl⟩ := get?_resolve.mp found
  obtain ⟨type, primitive⟩ := m.types_resolve (m.resolved id p')
  rw [Typed, type, primitive, links_resolved]
  obtain ⟨deprecated, message, eq⟩ := m.resolved_facts id p'
  rw [eq]
  exact ⟨rfl, rfl⟩

theorem mem_values_resolve : c ∈ m.resolve.classes.values ↔
    ∃ c' ∈ m.classes.values, { c' with superclass := m.superclassOf c' } = c := by
  rw [resolve_eq, Table.values_map, List.mem_map]

theorem allTyped_resolve_iff
    (unlinked : ∀ c ∈ m.classes.values, ∀ p, .detached p ∈ c.members → p.links = {}) :
    m.resolve.AllTyped ↔ ∀ c ∈ m.classes.values, ∀ p, .detached p ∈ c.members →
      m.typeOf p = none ∧ m.primitiveTypeOf p = none := by
  constructor
  · intro typed c hc p detached
    have here := typed _ (mem_values_resolve.mpr ⟨c, hc, rfl⟩) p
      (List.mem_filterMap.mpr ⟨_, detached, rfl⟩)
    rw [Typed, unlinked c hc p detached, (m.types_resolve p).1, (m.types_resolve p).2] at here
    exact ⟨here.1.symm, here.2.symm⟩
  · intro untyped c hc p property
    obtain ⟨c', hc', rfl⟩ := mem_values_resolve.mp hc
    obtain ⟨member, among, stands⟩ := List.mem_filterMap.mp property
    cases member with
    | listed id => exact typed_of_listed stands
    | detached q =>
      cases stands
      obtain ⟨type, primitive⟩ := untyped c' hc' p among
      rw [Typed, unlinked c' hc' p among, (m.types_resolve p).1, (m.types_resolve p).2, type,
        primitive]
      exact ⟨rfl, rfl⟩

end UmlKotlin.Uml.Model
