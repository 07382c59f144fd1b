import Mathlib.Data.List.Nodup
import UmlKotlin.Proofs.Uml.Hierarchy
import UmlKotlin.Proofs.Uml.Order
import UmlKotlin.Proofs.Uml.Resolution

/-!
Classes of one model with counterparts in another one. Main statement: if every class of a model has
a counterpart, the ancestors of counterparts are counterparts, one by one, or run in the same circle
(`ancestors_counterparts`).
-/

set_option autoImplicit false

namespace UmlKotlin.Uml.Model

/-- A class of the second model that has the facts of one of the first, and the same properties by
name; only the order in which they were declared may be another one. -/
structure Counterpart (m n : Model) (c d : Class) : Prop where
  facts : d = { c with members := d.members }
  properties : n.sortedProperties d = m.sortedProperties c

/-- Every class of the first model has a counterpart in the second one, which is listed under the
same identifier. The identifiers of classes are distinct in both, and links lead into both. -/
structure Mirrors (m n : Model) : Prop where
  closed : m.Closed
  closed' : n.Closed
  distinct : (m.classes.values.map (·.id)).Nodup
  distinct' : (n.classes.values.map (·.id)).Nodup
  counterpart {key : String} {c : Class} : m.classes.get? key = some c →
    ∃ d, n.classes.get? key = some d ∧ Counterpart m n c d

def Listed (m n : Model) (c d : Class) : Prop :=
  Counterpart m n c d ∧ ∃ key, m.classes.get? key = some c ∧ n.classes.get? key = some d

variable {m n : Model} {c d : Class} {key : String}

namespace Counterpart

variable (h : Counterpart m n c d)

include h

theorem id : d.id = c.id := by rw [h.facts]

theorem name : d.name = c.name := by rw [h.facts]

theorem superclass : d.superclass = c.superclass := by rw [h.facts]

theorem rank : d.rank = c.rank := by rw [Class.rank, h.name, h.id, Class.rank]

end Counterpart

theorem nodup_resolve (h : (m.classes.values.map (·.id)).Nodup) :
    (m.resolve.classes.values.map (·.id)).Nodup := by
  rw [resolve_eq, Table.values_map, List.map_map]
  exact h

theorem bearer?_eq (distinct : (m.classes.values.map (·.id)).Nodup)
    (listed : m.classes.get? key = some c) : m.bearer? c.id = some c := by
  have member : c ∈ m.classes.values := Table.mem_values.mpr ⟨key, listed⟩
  have bears : c ∈ m.classes.values.filter fun d => d.id == c.id :=
    List.mem_filter.mpr ⟨member, by simp⟩
  rw [bearer?]
  cases last : (m.classes.values.filter fun d => d.id == c.id).getLast? with
  | none => exact absurd bears (by simp [List.getLast?_eq_none_iff.mp last])
  | some d =>
    obtain ⟨member', same⟩ := List.mem_filter.mp (List.mem_of_getLast? last)
    rw [List.inj_on_of_nodup_map distinct member' member (by simpa using same)]

theorem Mirrors.superclass (h : m.Mirrors n) (listed : Listed m n c d)
    (link : c.superclass = some key) : d.superclass = some key ∧
      ∃ s t, m.linkedClass? key = some s ∧ n.linkedClass? key = some t ∧ Listed m n s t := by
  obtain ⟨counterpart, id, here, -⟩ := listed
  obtain ⟨s, above⟩ := h.closed.superclass here link
  obtain ⟨t, above', counterpart'⟩ := h.counterpart above
  refine ⟨counterpart.superclass ▸ link, s, t, ?_, ?_, counterpart', key, above, above'⟩
  · rwa [h.closed.linkedClass?_eq]
  · rwa [h.closed'.linkedClass?_eq]

theorem climb_counterparts (h : m.Mirrors n) {unseen unseen' met : List String}
    {above above' : List Class} (listed : Listed m n c d)
    (pairs : List.Forall₂ (Listed m n) above above') (covers : m.Covers unseen met)
    (covers' : n.Covers unseen' met) :
    (∃ l l', m.climb unseen met above c = .ok l ∧ n.climb unseen' met above' d = .ok l' ∧
      List.Forall₂ (Listed m n) l l') ∨
    ∃ l l', m.climb unseen met above c = .error l ∧ n.climb unseen' met above' d = .error l' ∧
      List.Forall₂ (Listed m n) l l' := by
  induction unseen, met, above, c using climb.induct m generalizing unseen' above' d with
  | case1 unseen met above c top =>
    refine .inl ⟨above, above', ?_, ?_, pairs⟩
    · rw [climb_eq, top]
    · rw [climb_eq, listed.1.superclass, top]
  | case2 unseen met above c key link nowhere =>
    obtain ⟨-, s, -, leads, -⟩ := h.superclass listed link
    cases nowhere.symm.trans leads
  | case3 unseen met above c key link s leads again =>
    obtain ⟨link', s', t, leads', leads'', listed'⟩ := h.superclass listed link
    cases leads.symm.trans leads'
    refine .inr ⟨above.reverse ++ [s], above'.reverse ++ [t], ?_, ?_, ?_⟩
    · rw [climb_eq, link]
      simp [leads, again]
    · rw [climb_eq, link']
      simp [leads'', listed'.1.id, again]
    · exact List.rel_append (List.rel_reverse pairs) (.cons listed' .nil)
  | case4 unseen met above c key link s leads fresh untried ih =>
    obtain ⟨link', s', t, leads', leads'', listed'⟩ := h.superclass listed link
    cases leads.symm.trans leads'
    have same := listed'.1.id
    have untried' : key ∈ unseen' := covers' key t leads'' (same ▸ fresh)
    have up := covers'.up leads''
    rw [same] at up
    rw [climb_eq m, climb_eq n, link, link']
    simp only [leads, leads'', same, if_neg fresh, if_pos untried, if_pos untried']
    exact ih listed' (.cons listed' pairs) (covers.up leads) up
  | case5 unseen met above c key link s leads fresh tried =>
    exact absurd (covers key s leads fresh) tried

theorem ancestors_counterparts (h : m.Mirrors n) {id : String}
    (listed : m.classes.get? id = some c) (listed' : n.classes.get? id = some d)
    (counterpart : Counterpart m n c d) :
    (∃ above above', m.ancestors id c = .ok above ∧ n.ancestors id d = .ok above' ∧
      List.Forall₂ (Listed m n) above above') ∨
    ∃ cycle, m.ancestors id c = .error cycle ∧ n.ancestors id d = .error cycle := by
  have covers' := covers_others listed'
  rw [counterpart.id] at covers'
  unfold ancestors
  rw [counterpart.id, counterpart.name]
  rcases climb_counterparts h ⟨counterpart, id, listed, listed'⟩ .nil (covers_others listed)
      covers' with ⟨l, l', climbed, climbed', pairs⟩ | ⟨l, l', climbed, climbed', pairs⟩
  · exact .inl ⟨l, l', by simp [climbed], by simp [climbed'], pairs⟩
  · have names : l'.map (·.name) = l.map (·.name) := by
      clear climbed climbed'
      induction pairs with
      | nil => rfl
      | cons first _ ih => rw [List.map_cons, List.map_cons, first.1.name, ih]
    exact .inr ⟨⟨c.name :: l.map (·.name)⟩, by simp [climbed], by simp [climbed', names]⟩

end UmlKotlin.Uml.Model
