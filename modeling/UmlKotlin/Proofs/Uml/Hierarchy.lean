import UmlKotlin.Proofs.Table
import UmlKotlin.Uml.Hierarchy

/-!
Chains of superclasses. Main statement: the ancestors of a class are the whole chain above it, and
they are found exactly when no identifier comes twice on the way (`ancestors_eq_ok_iff`).
-/

set_option autoImplicit false

namespace UmlKotlin.Uml.Model

def parent? (m : Model) (c : Class) : Option Class := c.superclass.bind m.linkedClass?

/-- The classes above a class, the topmost first, up to one whose link leads nowhere. -/
inductive Ancestry (m : Model) : Class → List Class → Prop
  | top {c : Class} : m.parent? c = none → Ancestry m c []
  | child {c s : Class} {above : List Class} :
      m.parent? c = some s → Ancestry m s above → Ancestry m c (above ++ [s])

theorem Ancestry.unique {m : Model} {c : Class} {l l' : List Class}
    (h : Ancestry m c l) (h' : Ancestry m c l') : l = l' := by
  induction h generalizing l' with
  | top hp =>
    cases h' with
    | top => rfl
    | child hp' _ => cases hp.symm.trans hp'
  | child hp _ ih =>
    cases h' with
    | top hp' => cases hp.symm.trans hp'
    | child hp' rest =>
      cases hp.symm.trans hp'
      rw [ih rest]

theorem Ancestry.linked {m : Model} {c s : Class} {above : List Class} (h : Ancestry m c above)
    (hs : s ∈ above) : ∃ key, m.linkedClass? key = some s := by
  induction h with
  | top => cases hs
  | child hp _ ih =>
    rcases List.mem_append.mp hs with hs | hs
    · exact ih hs
    · obtain rfl := List.mem_singleton.mp hs
      obtain ⟨key, -, hk⟩ := Option.bind_eq_some_iff.mp hp
      exact ⟨key, hk⟩

/-- One step up: the superclass is put in front unless its identifier was met or its link was
followed before. -/
theorem climb_eq (m : Model) (unseen met : List String) (above : List Class) (c : Class) :
    m.climb unseen met above c =
      match c.superclass with
      | none => .ok above
      | some key =>
        match m.linkedClass? key with
        | none => .ok above
        | some s =>
          if s.id ∈ met then .error (above.reverse ++ [s])
          else if key ∈ unseen then m.climb (unseen.erase key) (s.id :: met) (s :: above) s
          else .error (above.reverse ++ [s]) := by
  refine (climb.eq_1 m unseen met above c).trans ?_
  cases c.superclass with
  | none => rfl
  | some key => cases h : m.linkedClass? key <;> simp [h]

theorem climb_sound {m : Model} {unseen met : List String} {above l : List Class} {c : Class}
    (h : m.climb unseen met above c = .ok l) :
    ∃ chain, Ancestry m c chain ∧ l = chain ++ above ∧
      (chain.map (·.id)).Nodup ∧ ∀ s ∈ chain, s.id ∉ met := by
  induction unseen, met, above, c using climb.induct m with
  | case1 unseen met above c hs =>
    rw [climb_eq, hs] at h
    cases h
    exact ⟨[], .top (by simp [parent?, hs]), rfl, List.nodup_nil, by simp⟩
  | case2 unseen met above c key hs hk =>
    rw [climb_eq, hs] at h
    simp only [hk] at h
    cases h
    exact ⟨[], .top (by simp [parent?, hs, hk]), rfl, List.nodup_nil, by simp⟩
  | case3 unseen met above c key hs s hk hm =>
    rw [climb_eq, hs] at h
    simp [hk, hm] at h
  | case4 unseen met above c key hs s hk hm hu ih =>
    rw [climb_eq, hs] at h
    simp only [hk, if_neg hm, if_pos hu] at h
    obtain ⟨chain, up, rfl, nodup, fresh⟩ := ih h
    have apart : s.id ∉ chain.map (·.id) := by
      intro member
      obtain ⟨t, ht, same⟩ := List.mem_map.mp member
      exact fresh t ht (same ▸ List.mem_cons_self)
    refine ⟨chain ++ [s], .child (by simp [parent?, hs, hk]) up, by simp, ?_, ?_⟩
    · rw [List.map_append, List.nodup_append]
      refine ⟨nodup, by simp, ?_⟩
      intro x hx y hy same
      obtain rfl : y = s.id := by simpa using hy
      exact apart (same ▸ hx)
    · intro t ht
      rcases List.mem_append.mp ht with ht | ht
      · exact fun hmet => fresh t ht (List.mem_cons_of_mem _ hmet)
      · obtain rfl := List.mem_singleton.mp ht
        exact hm
  | case5 unseen met above c key hs s hk hm hu =>
    rw [climb_eq, hs] at h
    simp [hk, hm, hu] at h

def Covers (m : Model) (unseen met : List String) : Prop :=
  ∀ key s, m.linkedClass? key = some s → s.id ∉ met → key ∈ unseen

theorem Covers.up {m : Model} {unseen met : List String} {key : String} {s : Class}
    (h : m.Covers unseen met) (link : m.linkedClass? key = some s) :
    m.Covers (unseen.erase key) (s.id :: met) := by
  intro key' t link' fresh
  have other : key' ≠ key := by
    rintro rfl
    cases link.symm.trans link'
    exact fresh List.mem_cons_self
  exact (List.mem_erase_of_ne other).mpr
    (h key' t link' fun member => fresh (List.mem_cons_of_mem _ member))

theorem climb_complete {m : Model} {unseen met : List String} {above chain : List Class}
    {c : Class} (up : Ancestry m c chain) (nodup : (chain.map (·.id)).Nodup)
    (fresh : ∀ s ∈ chain, s.id ∉ met) (covers : m.Covers unseen met) :
    m.climb unseen met above c = .ok (chain ++ above) := by
  induction up generalizing unseen met above with
  | @top c hp =>
    rw [climb_eq]
    cases hs : c.superclass with
    | none => rfl
    | some key =>
      have hk : m.linkedClass? key = none := by simpa [parent?, hs] using hp
      simp [hk]
  | @child c s chain hp up ih =>
    obtain ⟨key, hs, hk⟩ := Option.bind_eq_some_iff.mp hp
    have hm : s.id ∉ met := fresh s (by simp)
    have hu : key ∈ unseen := covers key s hk hm
    rw [List.map_append, List.nodup_append] at nodup
    obtain ⟨nodup, -, apart⟩ := nodup
    rw [climb_eq, hs]
    simp only [hk, if_neg hm, if_pos hu, List.append_assoc]
    apply ih nodup _ (covers.up hk)
    intro t ht hmet
    rcases List.mem_cons.mp hmet with same | hmet
    · exact apart t.id (List.mem_map.mpr ⟨t, ht, rfl⟩) s.id (by simp) same
    · exact fresh t (by simp [ht]) hmet

theorem linkedClass?_isSome {m : Model} {key : String} {s : Class}
    (h : m.linkedClass? key = some s) : key ∈ m.classes.keys ++ m.retired.keys := by
  rw [List.mem_append]
  rcases Option.or_eq_some_iff.mp h with h | ⟨-, h⟩
  · exact .inl (Table.mem_keys.mpr ⟨s, h⟩)
  · exact .inr (Table.mem_keys.mpr ⟨s, h⟩)

theorem covers_others {m : Model} {id : String} {c : Class} (listed : m.classes.get? id = some c) :
    m.Covers ((m.classes.keys ++ m.retired.keys).erase id) [c.id] := by
  intro key s link fresh
  have other : key ≠ id := by
    rintro rfl
    rw [linkedClass?, listed] at link
    cases link
    exact fresh List.mem_cons_self
  exact (List.mem_erase_of_ne other).mpr (linkedClass?_isSome link)

theorem ancestors_sound {m : Model} {id : String} {c : Class} {above : List Class}
    (h : m.ancestors id c = .ok above) :
    Ancestry m c above ∧ (c.id :: above.map (·.id)).Nodup := by
  unfold ancestors at h
  cases climbed : m.climb ((m.classes.keys ++ m.retired.keys).erase id) [c.id] [] c with
  | error met => simp [climbed] at h
  | ok l =>
    simp only [climbed] at h
    cases h
    obtain ⟨chain, up, rfl, nodup, fresh⟩ := climb_sound climbed
    rw [List.append_nil]
    refine ⟨up, List.nodup_cons.mpr ⟨?_, nodup⟩⟩
    intro member
    obtain ⟨s, hs, same⟩ := List.mem_map.mp member
    exact fresh s hs (by simp [same])

/-- The ancestors of a class are all classes above it; there are such exactly when no identifier
comes twice among the class and those above it. -/
theorem ancestors_eq_ok_iff {m : Model} {id : String} {c : Class} {above : List Class}
    (listed : m.classes.get? id = some c) :
    m.ancestors id c = .ok above ↔
      Ancestry m c above ∧ (c.id :: above.map (·.id)).Nodup := by
  refine ⟨ancestors_sound, ?_⟩
  rintro ⟨up, nodup⟩
  obtain ⟨fresh, nodup⟩ := List.nodup_cons.mp nodup
  have climbed : m.climb ((m.classes.keys ++ m.retired.keys).erase id) [c.id] [] c =
      .ok (above ++ []) := by
    apply climb_complete up nodup _ (covers_others listed)
    exact fun s hs same => fresh (List.mem_map.mpr ⟨s, hs, List.mem_singleton.mp same⟩)
  simp only [ancestors, climbed, List.append_nil]

theorem ancestors_of_parent {m : Model} {id key : String} {c s : Class} {above : List Class}
    (listed : m.classes.get? id = some c) (parent : m.parent? c = some s)
    (listed' : m.classes.get? key = some s) (h : m.ancestors id c = .ok above) :
    ∃ above', m.ancestors key s = .ok above' ∧ above = above' ++ [s] := by
  obtain ⟨up, nodup⟩ := (ancestors_eq_ok_iff listed).mp h
  cases up with
  | top hp => cases parent.symm.trans hp
  | @child _ _ above' hp rest =>
    cases parent.symm.trans hp
    refine ⟨above', (ancestors_eq_ok_iff listed').mpr ⟨rest, ?_⟩, rfl⟩
    have tail := (List.nodup_cons.mp nodup).2
    rw [List.map_append] at tail
    exact (List.perm_append_singleton _ _).nodup_iff.mp tail

end UmlKotlin.Uml.Model
