import UmlKotlin.Proofs.Uml.Resolution

/-!
The marks that deprecated associations leave on properties. Main statement: resolution marks a
property with the message of the last deprecated association that has it as an end, and changes no
other declared fact of the model (`resolve_marks`).
-/

set_option autoImplicit false

namespace UmlKotlin.Uml

/-- A deprecated association that has the property listed under `id` among its ends. -/
def Association.Deprecates (a : Association) (id : String) : Prop :=
  a.deprecated = true ∧ (id ∈ a.memberEndIds ∨ id ∈ a.ownedEndIds)

namespace Model

/-- Of the associations in the order of the table, the last one that deprecates the property
listed under `id`. -/
def LastDeprecator (m : Model) (id : String) (a : Association) : Prop :=
  ∃ before after, m.associations.values = before ++ a :: after ∧ a.Deprecates id ∧
    ∀ b ∈ after, ¬ b.Deprecates id

variable {m : Model} {id : String} {a : Association}

private theorem deprecates_iff :
    (a.deprecated && a.endIds.contains id) = true ↔ a.Deprecates id := by
  simp [Association.Deprecates, Association.endIds]

theorem deprecator?_eq_some_iff : m.deprecator? id = some a ↔ m.LastDeprecator id a := by
  rw [deprecator?, List.getLast?_filter, List.find?_eq_some_iff_append, LastDeprecator]
  simp only [Bool.not_eq_true', Bool.eq_false_iff, ne_eq, deprecates_iff]
  constructor
  · rintro ⟨marks, after, before, split, later⟩
    refine ⟨before.reverse, after.reverse, ?_, marks, ?_⟩
    · rw [← List.reverse_reverse m.associations.values, split, List.reverse_append,
        List.reverse_cons, List.append_assoc, List.singleton_append]
    · intro b member
      exact later b (List.mem_reverse.mp member)
  · rintro ⟨before, after, split, marks, later⟩
    refine ⟨marks, after.reverse, before.reverse, ?_, ?_⟩
    · rw [split, List.reverse_append, List.reverse_cons, List.append_assoc, List.singleton_append]
    · intro b member
      exact later b (List.mem_reverse.mp member)

theorem deprecator?_eq_none_iff :
    m.deprecator? id = none ↔ ∀ a ∈ m.associations.values, ¬ a.Deprecates id := by
  rw [deprecator?, List.getLast?_eq_none_iff, List.filter_eq_nil_iff]
  simp only [deprecates_iff]

theorem resolved_of_lastDeprecator (last : m.LastDeprecator id a) (p : Property) :
    m.resolved id p = { p with
      links := m.resolvedLinks id p
      deprecated := true
      deprecationMessage := a.deprecationMessage } := by
  rw [resolved, marked, deprecator?_resolveReferences, deprecator?_eq_some_iff.mpr last]
  rfl

theorem resolved_of_unmarked (unmarked : ∀ a ∈ m.associations.values, ¬ a.Deprecates id)
    (p : Property) : m.resolved id p = { p with links := m.resolvedLinks id p } := by
  rw [resolved, marked, deprecator?_resolveReferences, deprecator?_eq_none_iff.mpr unmarked]

theorem exists_lastDeprecator (h : ∃ a ∈ m.associations.values, a.Deprecates id) :
    ∃ a, m.LastDeprecator id a := by
  cases found : m.deprecator? id with
  | none =>
    obtain ⟨a, member, marks⟩ := h
    exact absurd marks (deprecator?_eq_none_iff.mp found a member)
  | some a => exact ⟨a, deprecator?_eq_some_iff.mp found⟩

/-- Properties that a deprecated association has as ends, under whatever name and however often,
are deprecated with the message of the last one. All other declared facts are as before, and so is
the order of every table. -/
theorem resolve_marks (m : Model) :
    (∀ id p, m.properties.get? id = some p →
      ((∃ a ∈ m.associations.values, a.Deprecates id) →
        ∃ a, m.LastDeprecator id a ∧ ∃ links, m.resolve.properties.get? id = some { p with
          links, deprecated := true, deprecationMessage := a.deprecationMessage }) ∧
      ((∀ a ∈ m.associations.values, ¬ a.Deprecates id) →
        ∃ links, m.resolve.properties.get? id = some { p with links })) ∧
    (∀ id c, m.classes.get? id = some c →
      ∃ superclass, m.resolve.classes.get? id = some { c with superclass }) ∧
    m.resolve.properties.keys = m.properties.keys ∧ m.resolve.classes.keys = m.classes.keys ∧
    m.resolve.associations = m.associations ∧ m.resolve.packages = m.packages ∧
    m.resolve.types = m.types := by
  refine ⟨?_, ?_, ?_, ?_, ?_, ?_, ?_⟩
  · intro id p listed
    have found : m.resolve.properties.get? id = some (m.resolved id p) :=
      get?_resolve.mpr ⟨p, listed, rfl⟩
    constructor
    · intro some
      obtain ⟨a, last⟩ := exists_lastDeprecator some
      exact ⟨a, last, _, found.trans (congrArg _ (resolved_of_lastDeprecator last p))⟩
    · intro unmarked
      exact ⟨_, found.trans (congrArg _ (resolved_of_unmarked unmarked p))⟩
  · intro id c listed
    refine ⟨m.superclassOf c, ?_⟩
    rw [get?_class_resolve, listed]
    rfl
  all_goals rw [resolve_eq]
  · exact Table.keys_map _ _
  · exact Table.keys_map _ _

/-- Two deprecated associations that share an end. The first one has it twice, and an end that is
not there; the second one has no message. -/
private def sharedEnd : Model where
  properties := ⟨[("p", { id := "p", name := some "elev" }),
    ("q", { id := "q", name := some "skole", deprecationMessage := some "Bruk enhet." })],
    by simp⟩
  associations := ⟨[
    ("X", {
      id := "X"
      memberEndIds := ["p", "q"]
      ownedEndIds := ["q", "borte"]
      deprecated := true
      deprecationMessage := some "Utgår." }),
    ("Y", { id := "Y", ownedEndIds := ["q"], deprecated := true })], by simp⟩

theorem resolve_marks_shared_end : (∃ a ∈ sharedEnd.associations.values, a.Deprecates "q") ∧
    ∃ links, sharedEnd.resolve.properties.get? "q" = some {
      id := "q"
      name := some "skole"
      deprecated := true
      links } := by
  have some : ∃ a ∈ sharedEnd.associations.values, a.Deprecates "q" :=
    ⟨_, List.mem_cons_self, rfl, .inl (by simp)⟩
  obtain ⟨a, last, links, found⟩ := ((resolve_marks sharedEnd).1 "q" _ rfl).1 some
  -- it is the second association that counts, though it says nothing
  cases deprecator?_eq_some_iff.mpr last
  exact ⟨some, links, found⟩

end Model

end UmlKotlin.Uml
