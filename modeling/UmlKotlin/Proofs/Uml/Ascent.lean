import Mathlib.Data.List.Chain
import UmlKotlin.Proofs.Uml.Hierarchy
import UmlKotlin.Proofs.Uml.Resolution

/-!
The way up from a class. Superclass links are followed one by one until there is none or one leads to
an identifier that was met before; that comes to an end after as many steps as there are classes to go
to, and it is what the ancestors of a class are found by (`ascent_ancestors`). What was passed when an
identifier is met again is a chain of different classes that the last link leads back into
(`Ascent.returns`).
-/

set_option autoImplicit false

namespace UmlKotlin.Uml.Model

def Above (m : Model) (c s : Class) : Prop := m.parent? c = some s

/-- How going on from a class ends, given the identifiers met and the classes passed, the nearest
first, and after how many steps. -/
inductive Ascent (m : Model) : List String → List Class → Class → Nat →
    Except (List Class) (List Class) → Prop
  | top {met : List String} {above : List Class} {c : Class} :
      m.parent? c = none → Ascent m met above c 0 (.ok above)
  | again {met : List String} {above : List Class} {c s : Class} :
      m.Above c s → s.id ∈ met → Ascent m met above c 1 (.error (above.reverse ++ [s]))
  | up {met : List String} {above : List Class} {c s : Class} {steps : Nat}
      {result : Except (List Class) (List Class)} :
      m.Above c s → s.id ∉ met → Ascent m (s.id :: met) (s :: above) s steps result →
      Ascent m met above c (steps + 1) result

def report (c : Class) : Except (List Class) (List Class) → Except InheritanceCycle (List Class)
  | .ok above => .ok above
  | .error met => .error ⟨c.name :: met.map (·.name)⟩

variable {m : Model} {met : List String} {above : List Class} {c s : Class} {steps : Nat}
  {result : Except (List Class) (List Class)}

theorem Ascent.unique {steps' : Nat} {result' : Except (List Class) (List Class)}
    (h : Ascent m met above c steps result) (h' : Ascent m met above c steps' result') :
    steps = steps' ∧ result = result' := by
  induction h generalizing steps' result' with
  | top none =>
    cases h' with
    | top => exact ⟨rfl, rfl⟩
    | again up => cases none.symm.trans up
    | up up => cases none.symm.trans up
  | again up known =>
    cases h' with
    | top none => cases none.symm.trans up
    | again up' =>
      cases up.symm.trans up'
      exact ⟨rfl, rfl⟩
    | up up' fresh =>
      cases up.symm.trans up'
      exact absurd known fresh
  | up up fresh _ ih =>
    cases h' with
    | top none => cases none.symm.trans up
    | again up' known =>
      cases up.symm.trans up'
      exact absurd known fresh
    | up up' _ rest =>
      cases up.symm.trans up'
      obtain ⟨rfl, same⟩ := ih rest
      exact ⟨rfl, same⟩

/-- As long as links to classes not met are among the unseen ones, climbing goes all the way up. -/
theorem ascent_climb {unseen : List String} (covers : m.Covers unseen met) :
    ∃ steps, steps ≤ unseen.length + 1 ∧
      Ascent m met above c steps (m.climb unseen met above c) := by
  induction unseen, met, above, c using climb.induct m with
  | case1 unseen met above c top =>
    rw [climb_eq, top]
    exact ⟨0, by omega, .top (by simp [parent?, top])⟩
  | case2 unseen met above c key link nowhere =>
    rw [climb_eq, link]
    simp only [nowhere]
    exact ⟨0, by omega, .top (by simp [parent?, link, nowhere])⟩
  | case3 unseen met above c key link s leads known =>
    have up : m.Above c s := by rw [Above, parent?, link, Option.bind_some, leads]
    rw [climb_eq, link]
    simp only [leads, if_pos known]
    exact ⟨1, by omega, .again up known⟩
  | case4 unseen met above c key link s leads fresh untried ih =>
    have up : m.Above c s := by rw [Above, parent?, link, Option.bind_some, leads]
    rw [climb_eq, link]
    simp only [leads, if_neg fresh, if_pos untried]
    obtain ⟨steps, bound, rest⟩ := ih (covers.up leads)
    have shorter := List.length_erase_of_mem untried
    have some := List.length_pos_of_mem untried
    exact ⟨steps + 1, by omega, .up up fresh rest⟩
  | case5 unseen met above c key link s leads fresh tried =>
    exact absurd (covers key s leads fresh) tried

theorem ascent_ancestors {id : String} (listed : m.classes.get? id = some c) :
    ∃ steps result, steps ≤ m.classes.size + m.retired.size ∧ Ascent m [c.id] [] c steps result ∧
      m.ancestors id c = report c result := by
  have covers := covers_others listed
  obtain ⟨steps, bound, ends⟩ := @ascent_climb m _ [] c _ covers
  refine ⟨steps, _, ?_, ends, ?_⟩
  · have own : id ∈ m.classes.keys ++ m.retired.keys :=
      List.mem_append_left _ (Table.mem_keys.mpr ⟨c, listed⟩)
    have others := List.length_erase_of_mem own
    have some := List.length_pos_of_mem own
    simp only [List.length_append, Table.keys, List.length_map] at others some
    simp only [Table.size]
    simp only [Table.keys] at bound
    omega
  · rw [ancestors]
    cases m.climb ((m.classes.keys ++ m.retired.keys).erase id) [c.id] [] c <;> rfl

/-! ### What was passed -/

/-- The classes passed from `c` on, with the identifiers met: each is the superclass of the one
before, and no two have one identifier. -/
structure Passed (m : Model) (c : Class) (met : List String) (above : List Class) (here : Class) :
    Prop where
  here : (c :: above.reverse).getLast? = some here
  linked : (c :: above.reverse).IsChain m.Above
  ids : (c :: above.reverse).map (·.id) = met.reverse
  distinct : met.Nodup

theorem Passed.start (m : Model) (c : Class) : Passed m c [c.id] [] c :=
  ⟨rfl, .singleton c, rfl, by simp⟩

theorem Passed.onward {here : Class} (h : Passed m c met above here) (up : m.Above here s) :
    (c :: above.reverse ++ [s]).IsChain m.Above := by
  rw [List.isChain_append]
  refine ⟨h.linked, .singleton s, ?_⟩
  intro x last y next
  rw [h.here] at last
  cases last
  cases next
  exact up

theorem Passed.up {here : Class} (h : Passed m c met above here) (up : m.Above here s)
    (fresh : s.id ∉ met) : Passed m c (s.id :: met) (s :: above) s := by
  have longer : c :: (s :: above).reverse = (c :: above.reverse) ++ [s] := by simp
  refine ⟨?_, ?_, ?_, List.nodup_cons.mpr ⟨fresh, h.distinct⟩⟩
  · rw [longer, List.getLast?_append]
    rfl
  · rw [longer]
    exact h.onward up
  · rw [longer, List.map_append, h.ids, List.reverse_cons]
    rfl

/-- A way up from `c` through other classes, all different, whose last link leads to an identifier
that was met on the way. -/
structure Returns (m : Model) (c : Class) (others : List Class) (s : Class) : Prop where
  linked : (c :: others ++ [s]).IsChain m.Above
  distinct : ((c :: others).map (·.id)).Nodup
  again : s.id ∈ (c :: others).map (·.id)

theorem Ascent.returns {here : Class} {found : List Class} (passed : Passed m c met above here)
    (h : Ascent m met above here steps (.error found)) :
    ∃ others s, found = others ++ [s] ∧ Returns m c others s := by
  generalize failed : (Except.error found : Except (List Class) (List Class)) = result at h
  induction h with
  | top => cases failed
  | again up known =>
    cases failed
    refine ⟨_, _, rfl, passed.onward up, ?_, ?_⟩
    · rw [passed.ids]
      exact List.nodup_reverse.mpr passed.distinct
    · rw [passed.ids]
      exact List.mem_reverse.mpr known
  | up up fresh _ ih => exact ih (passed.up up fresh) failed

end UmlKotlin.Uml.Model
