import Mathlib.Logic.Relation
import UmlKotlin.Proofs.Uml.Ascent

/-!
Circles of superclasses. The ancestors of a class cannot be told exactly if going up from the class
leads to one that is above itself (`ancestors_eq_error_iff`). Main statement: the search for them
always ends, with the complete chain above the class or with the names on the way to the first class
met twice (`ancestors_complete_or_cyclic`).
-/

set_option autoImplicit false

namespace UmlKotlin.Uml.Model

open Relation (ReflTransGen TransGen)

/-- Going up from a class leads to one that is above itself. -/
def RunsIntoCycle (m : Model) (c : Class) : Prop :=
  ∃ s, ReflTransGen m.Above c s ∧ TransGen m.Above s s

variable {m : Model} {c s : Class} {above : List Class}

theorem Ancestry.of_above (h : Ancestry m c above) (up : m.Above c s) :
    ∃ above', Ancestry m s above' ∧ above'.length < above.length := by
  cases h with
  | top none => cases none.symm.trans up
  | child parent rest =>
    cases parent.symm.trans up
    exact ⟨_, rest, by simp⟩

theorem Ancestry.of_transGen (h : Ancestry m c above) (up : TransGen m.Above c s) :
    ∃ above', Ancestry m s above' ∧ above'.length < above.length := by
  induction up with
  | single up => exact h.of_above up
  | tail _ up ih =>
    obtain ⟨above', rest, shorter⟩ := ih
    obtain ⟨above'', top, shorter'⟩ := rest.of_above up
    exact ⟨above'', top, Nat.lt_trans shorter' shorter⟩

/-- The chain above a class that is above itself would be shorter than itself. -/
theorem Ancestry.not_runsIntoCycle (h : Ancestry m c above) : ¬ m.RunsIntoCycle c := by
  rintro ⟨s, reach, cycle⟩
  have chain : ∃ above', Ancestry m s above' := by
    rcases Relation.reflTransGen_iff_eq_or_transGen.mp reach with rfl | up
    · exact ⟨above, h⟩
    · obtain ⟨above', rest, -⟩ := h.of_transGen up
      exact ⟨above', rest⟩
  obtain ⟨above', rest⟩ := chain
  obtain ⟨above'', again, shorter⟩ := rest.of_transGen cycle
  rw [rest.unique again] at shorter
  exact Nat.lt_irrefl _ shorter

theorem Ancestry.of_reach (top : m.parent? s = none) (reach : ReflTransGen m.Above c s) :
    ∃ above, Ancestry m c above := by
  induction reach using ReflTransGen.head_induction_on with
  | refl => exact ⟨[], .top top⟩
  | head up _ ih =>
    obtain ⟨above, rest⟩ := ih
    exact ⟨_, .child up rest⟩

theorem Ancestry.exists_top (h : Ancestry m c above) :
    ∃ s, ReflTransGen m.Above c s ∧ m.parent? s = none := by
  induction h with
  | top none => exact ⟨_, .refl, none⟩
  | child up _ ih =>
    obtain ⟨s, reach, top⟩ := ih
    exact ⟨s, .head up reach, top⟩

theorem reach_of_linked {others : List Class} (h : (c :: others).IsChain m.Above) :
    ∀ t ∈ c :: others, ReflTransGen m.Above c t :=
  h.induction (ReflTransGen m.Above c) _ (fun _ _ up reach => reach.tail up) fun _ => .refl

theorem returns_of_ancestors {id : String} {cycle : InheritanceCycle}
    (listed : m.classes.get? id = some c) (h : m.ancestors id c = .error cycle) :
    ∃ others s, cycle.chain = (c :: others ++ [s]).map (·.name) ∧ Returns m c others s := by
  obtain ⟨steps, result, -, ends, reported⟩ := ascent_ancestors listed
  rw [h] at reported
  cases result with
  | ok above => cases reported
  | error found =>
    cases reported
    obtain ⟨others, s, rfl, returns⟩ := ends.returns (.start m c)
    exact ⟨others, s, rfl, returns⟩

theorem Closed.superclass_eq_none (h : m.Closed) {id : String} (listed : m.classes.get? id = some c)
    (top : m.parent? c = none) : c.superclass = none := by
  cases link : c.superclass with
  | none => rfl
  | some key =>
    obtain ⟨s, leads⟩ := h.superclass listed link
    rw [parent?, link, Option.bind_some, h.linkedClass?_eq, leads] at top
    cases top

theorem Ancestry.ascends (h : Ancestry m c above) : above.getLast? = m.parent? c ∧
    (above.IsChain fun s t => m.Above t s) ∧ ∀ s, above.head? = some s → m.parent? s = none := by
  induction h with
  | top none => exact ⟨none.symm, .nil, by simp⟩
  | @child c s above up rest ih =>
    obtain ⟨direct, linked, root⟩ := ih
    refine ⟨by simp [up], ?_, ?_⟩
    · rw [List.isChain_append]
      refine ⟨linked, .singleton s, ?_⟩
      intro t last u next
      cases next
      exact direct.symm.trans last
    · intro t first
      cases above with
      | nil =>
        cases first
        exact direct.symm
      | cons root' above => exact root t first

/-- All classes above `c`, the topmost first and the superclass of `c` last: each is the superclass of
the one behind it, the topmost has none, and neither `c` nor any of them comes twice. -/
structure Complete (m : Model) (c : Class) (above : List Class) : Prop where
  direct : above.getLast? = m.parent? c
  linked : above.IsChain fun s t => m.Above t s
  root (s : Class) : above.head? = some s → s.superclass = none
  distinct : (c.id :: above.map (·.id)).Nodup

theorem complete_of_ancestors (closed : m.Closed) {id : String}
    (h : m.ancestors id c = .ok above) : Complete m c above := by
  obtain ⟨chain, distinct⟩ := ancestors_sound h
  obtain ⟨direct, linked, root⟩ := chain.ascends
  refine ⟨direct, linked, fun s first => ?_, distinct⟩
  obtain ⟨key, leads⟩ := chain.linked (List.mem_of_mem_head? first)
  rw [closed.linkedClass?_eq] at leads
  exact closed.superclass_eq_none leads (root s first)

section

variable (closed : m.Closed) (keyed : m.classes.KeyedBy (·.id))
  (listed : m.classes.get? c.id = some c)

include closed keyed

theorem listed_of_above (up : m.Above c s) : m.classes.get? s.id = some s := by
  obtain ⟨key, -, leads⟩ := Option.bind_eq_some_iff.mp up
  rw [closed.linkedClass?_eq] at leads
  exact keyed.get?_key leads

include listed

theorem listed_of_reach (reach : ReflTransGen m.Above c s) : m.classes.get? s.id = some s := by
  cases reach with
  | refl => exact listed
  | tail _ up => exact listed_of_above closed keyed up

theorem Returns.mem {others : List Class} (h : Returns m c others s) : s ∈ c :: others := by
  have found (t : Class) (member : t ∈ c :: others ++ [s]) : m.classes.get? t.id = some t :=
    listed_of_reach closed keyed listed (reach_of_linked h.linked t member)
  obtain ⟨t, member, same⟩ := List.mem_map.mp h.again
  have twice := found t (List.mem_append_left _ member)
  rw [same, found s (by simp)] at twice
  cases twice
  exact member

theorem Returns.runsIntoCycle {others : List Class} (h : Returns m c others s) :
    m.RunsIntoCycle c := by
  refine ⟨s, reach_of_linked h.linked s (by simp), ?_⟩
  obtain ⟨before, after, split⟩ := List.append_of_mem (h.mem closed keyed listed)
  -- the part of the way from the class met twice up to itself
  have linked := h.linked
  rw [split, List.append_assoc, List.cons_append, List.isChain_split] at linked
  obtain ⟨next, rest, circle⟩ := List.exists_cons_of_ne_nil (List.concat_ne_nil s after)
  rw [circle, List.isChain_cons_cons] at linked
  obtain ⟨-, up, onward⟩ := linked
  exact TransGen.head' up (reach_of_linked onward s (circle ▸ by simp))

end

section

variable (closed : m.Closed) (keyed : m.classes.KeyedBy (·.id)) {id : String}
  (listed : m.classes.get? id = some c)

include closed keyed listed

theorem ancestors_eq_error_iff :
    (∃ cycle, m.ancestors id c = .error cycle) ↔ m.RunsIntoCycle c := by
  constructor
  · rintro ⟨cycle, h⟩
    obtain ⟨others, s, -, returns⟩ := returns_of_ancestors listed h
    exact returns.runsIntoCycle closed keyed (keyed.get?_key listed)
  · intro cycle
    cases found : m.ancestors id c with
    | error e => exact ⟨e, rfl⟩
    | ok above =>
      exact absurd cycle ((ancestors_eq_ok_iff listed).mp found).1.not_runsIntoCycle

theorem runsIntoCycle_iff :
    m.RunsIntoCycle c ↔ ∀ s, ReflTransGen m.Above c s → s.superclass ≠ none := by
  constructor
  · intro cycle s reach none
    obtain ⟨above, ends⟩ := Ancestry.of_reach (by rw [parent?, none]; rfl) reach
    exact ends.not_runsIntoCycle cycle
  · intro endless
    cases found : m.ancestors id c with
    | error cycle => exact (ancestors_eq_error_iff closed keyed listed).mp ⟨cycle, found⟩
    | ok above =>
      obtain ⟨s, reach, top⟩ := (ancestors_sound found).1.exists_top
      have listed' := listed_of_reach closed keyed (keyed.get?_key listed) reach
      exact absurd (closed.superclass_eq_none listed' top) (endless s reach)

end

/-- The search for the ancestors of a class of a resolved model ends, after no more steps than there
are classes. It fails exactly if there is no class without superclass on the way up, and then reports
the names on the way to the first class met twice; otherwise it finds all classes above. -/
theorem ancestors_complete_or_cyclic {m n : Model} (resolved : n = m.resolve)
    (keyed : n.classes.KeyedBy (·.id)) {id : String} {c : Class}
    (listed : n.classes.get? id = some c) :
    (∃ steps result, steps ≤ n.classes.size ∧ Ascent n [c.id] [] c steps result ∧
      n.ancestors id c = report c result) ∧
    ((∃ cycle, n.ancestors id c = .error cycle) ↔
      ∀ s, ReflTransGen n.Above c s → s.superclass ≠ none) ∧
    (∀ cycle, n.ancestors id c = .error cycle → ∃ others s,
      cycle.chain = (c :: others ++ [s]).map (·.name) ∧
        (c :: others ++ [s]).IsChain n.Above ∧ s ∈ c :: others ∧
        ((c :: others).map (·.id)).Nodup) ∧
    ∀ above, n.ancestors id c = .ok above → Complete n c above := by
  have closed : n.Closed := resolved ▸ m.resolve_closed
  refine ⟨?_, ?_, ?_, fun above => complete_of_ancestors closed⟩
  · obtain ⟨steps, result, bound, ends, reported⟩ := ascent_ancestors listed
    have none : n.retired.size = 0 := by rw [closed.retired]; rfl
    exact ⟨steps, result, by omega, ends, reported⟩
  · exact (ancestors_eq_error_iff closed keyed listed).trans (runsIntoCycle_iff closed keyed listed)
  · intro cycle failed
    obtain ⟨others, s, names, returns⟩ := returns_of_ancestors listed failed
    exact ⟨others, s, names, returns.linked, returns.mem closed keyed (keyed.get?_key listed),
      returns.distinct⟩

private def loop : Model where
  classes := ⟨[
    ("A", { id := "A", name := "Adresse", generalizationId := some "B" }),
    ("B", { id := "B", name := "Bil", generalizationId := some "S" }),
    ("S", { id := "S", name := "Sykkel", generalizationId := some "B" })], by simp⟩

private def vehicle (id name other : String) : Class where
  id := id
  name := name
  generalizationId := some other
  superclass := some other

theorem ancestors_complete_or_cyclic_loop : ∃ a, loop.resolve.classes.get? "A" = some a ∧
    loop.resolve.classes.KeyedBy (·.id) ∧
    loop.resolve.ancestors "A" a = .error ⟨["Adresse", "Bil", "Sykkel", "Bil"]⟩ ∧
    ∀ s, ReflTransGen loop.resolve.Above a s → s.superclass ≠ none := by
  have keyed : loop.resolve.classes.KeyedBy (·.id) := Table.keyedBy_iff.mpr (by decide)
  have listed : loop.resolve.classes.get? "A" = some (vehicle "A" "Adresse" "B") := rfl
  have first : loop.resolve.Above (vehicle "A" "Adresse" "B") (vehicle "B" "Bil" "S") := rfl
  have forth : loop.resolve.Above (vehicle "B" "Bil" "S") (vehicle "S" "Sykkel" "B") := rfl
  have back : loop.resolve.Above (vehicle "S" "Sykkel" "B") (vehicle "B" "Bil" "S") := rfl
  obtain ⟨⟨steps, result, -, ends, reported⟩, endless, -⟩ :=
    ancestors_complete_or_cyclic (m := loop) rfl keyed listed
  obtain ⟨-, rfl⟩ :=
    ends.unique (.up first (by decide) (.up forth (by decide) (.again back (by decide))))
  exact ⟨_, listed, keyed, reported, endless.mp ⟨_, reported⟩⟩

end UmlKotlin.Uml.Model
