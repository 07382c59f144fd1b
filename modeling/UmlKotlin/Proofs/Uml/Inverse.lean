import UmlKotlin.Proofs.Uml.Resolution

/-!
Inverses. The inverse of a property is the other end of the association that the property itself
points at. Main statement: inverses are symmetric exactly if every other end is paired back by the
association that it points at in turn; that two properties are the two ends of a two-way association
is not enough (`inverse_symmetric_iff`).
-/

set_option autoImplicit false

namespace UmlKotlin.Uml

namespace Model

/-- The property's own association is a two-way association with two member ends, the property and
another one. -/
def Pairs (m : Model) (p : Property) (other : String) : Prop :=
  ∃ id a, m.associationOf p = some (id, a) ∧ a.bidirectional = true ∧
    (a.memberEndIds = [p.id, other] ∨ a.memberEndIds = [other, p.id])

variable {m : Model} {p q : Property} {k l : String}

/-- Of two ends, the one that the property is not; the second, if it is both. -/
def otherEnd? (p : Property) : List String → Option String
  | [e, f] => if p.id = e then some f else if p.id = f then some e else none
  | _ => none

theorem otherEnd?_eq_some_iff {ends : List String} :
    otherEnd? p ends = some l ↔ ends = [p.id, l] ∨ ends = [l, p.id] := by
  match ends with
  | [] => simp [otherEnd?]
  | [e] => simp [otherEnd?]
  | [e, f] =>
    by_cases first : p.id = e
    · subst first
      simp only [otherEnd?, reduceIte, Option.some.injEq, List.cons.injEq, true_and, and_true]
      constructor
      · exact Or.inl
      · rintro (other | ⟨same, other⟩)
        · exact other
        · exact other.trans same
    · by_cases second : p.id = f
      · subst second
        simp [otherEnd?, first, Ne.symm first, eq_comm]
      · simp [otherEnd?, first, second, Ne.symm first, Ne.symm second]
  | e :: f :: g :: rest => simp [otherEnd?]

theorem inverseOf_eq (m : Model) (p : Property) :
    m.inverseOf p = (m.associationOf p).bind fun found =>
      if found.2.bidirectional then (otherEnd? p found.2.memberEndIds).filter m.properties.contains
      else none := by
  rw [inverseOf]
  cases m.associationOf p with
  | none => rfl
  | some found =>
    obtain ⟨id, a⟩ := found
    cases both : a.bidirectional with
    | false => simp [both]
    | true =>
      simp only [Option.bind_eq_bind, Option.bind_some, both, Bool.not_true, Bool.false_eq_true,
        reduceIte]
      rcases a.memberEndIds with _ | ⟨e, _ | ⟨f, _ | ⟨g, rest⟩⟩⟩
      · rfl
      · rfl
      · by_cases first : p.id = e
        · simp [otherEnd?, first, Option.filter]
        · by_cases second : p.id = f
          · have other : f ≠ e := second ▸ first
            simp [otherEnd?, second, other, Option.filter]
          · simp [otherEnd?, first, second]
      · rfl

theorem inverseOf_eq_some_iff :
    m.inverseOf p = some l ↔ m.Pairs p l ∧ m.properties.contains l = true := by
  rw [inverseOf_eq, Pairs, Option.bind_eq_some_iff]
  constructor
  · rintro ⟨⟨id, a⟩, association, other⟩
    obtain ⟨both, other⟩ := Option.ite_none_right_eq_some.mp other
    obtain ⟨other, there⟩ := Option.filter_eq_some_iff.mp other
    exact ⟨⟨id, a, association, both, otherEnd?_eq_some_iff.mp other⟩, there⟩
  · rintro ⟨⟨id, a, association, both, ends⟩, there⟩
    refine ⟨(id, a), association, ?_⟩
    rw [if_pos both, otherEnd?_eq_some_iff.mpr ends, Option.filter_some_pos there]

theorem inverse_resolved_iff (found : m.resolve.properties.get? k = some p) :
    p.links.inverse = some l ↔ m.Pairs p l ∧ m.properties.contains l = true := by
  obtain ⟨p', -, rfl⟩ := get?_resolve.mp found
  rw [links_resolved]
  obtain ⟨deprecated, message, eq⟩ := m.resolved_facts k p'
  rw [eq]
  exact inverseOf_eq_some_iff (p := p')

theorem pairs_resolved_iff : m.Pairs (m.resolved k p) l ↔ m.Pairs p l := by
  obtain ⟨deprecated, message, eq⟩ := m.resolved_facts k p
  rw [eq]
  exact Iff.rfl

theorem Pairs.symm (h : m.Pairs p q.id) (same : p.associationId = q.associationId) :
    m.Pairs q p.id := by
  obtain ⟨id, a, association, both, ends⟩ := h
  have association : m.associationOf q = some (id, a) := by
    rw [← association, associationOf, associationOf, same]
  exact ⟨id, a, association, both, ends.symm⟩

def SymmetricInverses (m : Model) : Prop :=
  ∀ k p l q, m.properties.get? k = some p → m.properties.get? l = some q →
    p.links.inverse = some l → q.links.inverse = some k

/-- Whether the inverse of an inverse leads back is up to the association of the other end alone; if
both ends point at the same association, it does. So inverses are symmetric exactly if every other
end is paired back by its own association. -/
theorem inverse_symmetric_iff (m : Model) :
    (m.resolve.SymmetricInverses ↔ ∀ k p l q, m.properties.get? k = some p →
      m.properties.get? l = some q → m.Pairs p l → m.Pairs q k) ∧
    (∀ k p l q, m.resolve.properties.get? k = some p → m.resolve.properties.get? l = some q →
      p.links.inverse = some l → (q.links.inverse = some k ↔ m.Pairs q k)) ∧
    ∀ k p l q, m.resolve.properties.get? k = some p → m.resolve.properties.get? l = some q →
      p.id = k → q.id = l → p.associationId = q.associationId →
      p.links.inverse = some l → q.links.inverse = some k := by
  have there {k : String} {p : Property} (found : m.resolve.properties.get? k = some p) :
      m.properties.contains k = true := by
    obtain ⟨p', found, -⟩ := get?_resolve.mp found
    rw [Table.contains_eq_isSome, found]
    rfl
  have back (k : String) (p : Property) (l : String) (q : Property)
      (hp : m.resolve.properties.get? k = some p) (hq : m.resolve.properties.get? l = some q) :
      q.links.inverse = some k ↔ m.Pairs q k := by
    rw [inverse_resolved_iff hq]
    exact and_iff_left (there hp)
  refine ⟨⟨?_, ?_⟩, fun k p l q hp hq _ => back k p l q hp hq, ?_⟩
  · intro symmetric k p l q hp hq pairs
    have hp := get?_resolve.mpr ⟨p, hp, rfl⟩
    have hq := get?_resolve.mpr ⟨q, hq, rfl⟩
    have link := (back l _ k _ hq hp).mpr (pairs_resolved_iff.mpr pairs)
    exact pairs_resolved_iff.mp ((back k _ l _ hp hq).mp (symmetric k _ l _ hp hq link))
  · intro paired k p l q hp hq link
    have pairs := (back l q k p hq hp).mp link
    obtain ⟨p', hp', rfl⟩ := get?_resolve.mp hp
    obtain ⟨q', hq', rfl⟩ := get?_resolve.mp hq
    have pairs := paired k p' l q' hp' hq' (pairs_resolved_iff.mp pairs)
    exact (back k _ l _ hp hq).mpr (pairs_resolved_iff.mpr pairs)
  · rintro k p l q hp hq rfl rfl same link
    exact (back _ p _ q hp hq).mpr (((back _ q _ p hq hp).mp link).symm same)

private def twoWay (association : Option String) : Model where
  properties := ⟨[("p", { id := "p", associationId := some "X" }),
    ("q", { id := "q", associationId := association })], by simp⟩
  associations :=
    ⟨[("X", { id := "X", memberEndIds := ["p", "q"], bidirectional := true })], by simp⟩

theorem inverse_of_inverse :
    (((twoWay (some "X")).resolve.properties.get? "q").map (·.links.inverse)) = some (some "p") := by
  have hp : (twoWay (some "X")).resolve.properties.get? "p" = some _ := rfl
  have hq : (twoWay (some "X")).resolve.properties.get? "q" = some _ := rfl
  have link := (inverse_symmetric_iff (twoWay (some "X"))).2.2 "p" _ "q" _ hp hq rfl rfl rfl
    (by decide)
  rw [hq, Option.map_some, link]

/-- An end that points at no association is an inverse without one. -/
theorem inverse_without_inverse :
    ((twoWay none).resolve.properties.get? "p").map (·.links.inverse) = some (some "q") ∧
      ((twoWay none).resolve.properties.get? "q").map (·.links.inverse) = some none ∧
      ¬ (twoWay none).resolve.SymmetricInverses := by
  refine ⟨by decide, by decide, fun symmetric => ?_⟩
  have link := symmetric "p" _ "q" _ rfl rfl (by decide)
  revert link
  decide

end Model

end UmlKotlin.Uml
