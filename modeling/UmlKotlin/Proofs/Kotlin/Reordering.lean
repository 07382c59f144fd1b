import UmlKotlin.Proofs.Kotlin.Counterpart
import UmlKotlin.Proofs.Kotlin.Files

/-!
The order of declarations. Main statement: it does not matter in which order classes, properties and
the members of classes were declared; the same files come in the same order, up to the same failure
(`files_reordered`).
-/

set_option autoImplicit false

namespace UmlKotlin

namespace Uml.Model

/-- Models that declare the same, each in its own order. Only the associations and their ends come
in the same order. -/
structure Reordered (m n : Model) : Prop where
  classes (id : String) : Option.Rel
    (fun c d => d = { c with members := d.members } ∧ c.members.Perm d.members)
    (m.classes.get? id) (n.classes.get? id)
  properties (id : String) : m.properties.get? id = n.properties.get? id
  associations : m.associations = n.associations
  packages (id : String) : m.packages.get? id = n.packages.get? id
  types (id : String) : m.types.get? id = n.types.get? id

/-- Classes and properties have identifiers of their own, and the members of classes are properties
of the model. -/
structure Distinct (m : Model) : Prop where
  classes : (m.classes.values.map (·.id)).Nodup
  properties : (m.properties.values.map (·.id)).Nodup
  members : ∀ c ∈ m.classes.values, ∀ member ∈ c.members,
    ∃ id p, member = .listed id ∧ m.properties.get? id = some p

variable {m n : Model} {id : String} {c d : Class}

namespace Reordered

theorem right (h : m.Reordered n) (listed : m.classes.get? id = some c) :
    ∃ d, n.classes.get? id = some d ∧ d = { c with members := d.members } ∧
      c.members.Perm d.members := by
  have pair := h.classes id
  rw [listed] at pair
  generalize n.classes.get? id = found at pair
  cases pair with
  | some related => exact ⟨_, rfl, related⟩

theorem left (h : m.Reordered n) (listed : n.classes.get? id = some d) :
    ∃ c, m.classes.get? id = some c ∧ d = { c with members := d.members } := by
  have pair := h.classes id
  rw [listed] at pair
  generalize m.classes.get? id = found at pair
  cases pair with
  | some related => exact ⟨_, rfl, related.1⟩

theorem agree (h : m.Reordered n) : m.Agree n fun _ => True where
  classes id _ := by
    have pair := h.classes id
    rw [Table.contains_eq_isSome, Table.contains_eq_isSome]
    generalize m.classes.get? id = found, n.classes.get? id = found' at pair ⊢
    cases pair <;> rfl
  types := h.types
  associations := h.associations
  names _ _ id _ := by rw [h.properties]

theorem distinct (h : m.Reordered n) (distinct : (m.classes.values.map (·.id)).Nodup) :
    (n.classes.values.map (·.id)).Nodup := by
  rw [Table.nodup_values_iff] at distinct ⊢
  intro k k' d d' listed listed' same
  obtain ⟨c, here, facts⟩ := h.left listed
  obtain ⟨c', here', facts'⟩ := h.left listed'
  rw [facts, facts'] at same
  exact distinct k k' c c' here here' same

theorem property?_resolve (h : m.Reordered n) : n.resolve.property? = m.resolve.property? := by
  funext member
  cases member with
  | detached p => rfl
  | listed id =>
    simp only [property?, resolve_eq, Table.get?_map, ← h.properties]
    cases m.properties.get? id with
    | none => rfl
    | some p =>
      rw [Option.map_some, Option.map_some, h.agree.resolved_eq fun _ _ => trivial]

end Reordered

theorem Distinct.apart (h : m.Distinct) (listed : c ∈ m.classes.values) {p q : Property}
    (hp : p ∈ c.members.filterMap m.resolve.property?)
    (hq : q ∈ c.members.filterMap m.resolve.property?) (same : p.id = q.id) : p = q := by
  have origin {p : Property} (hp : p ∈ c.members.filterMap m.resolve.property?) :
      ∃ id p', m.properties.get? id = some p' ∧ p = m.resolved id p' := by
    obtain ⟨member, among, found⟩ := List.mem_filterMap.mp hp
    obtain ⟨id, -, rfl, -⟩ := h.members c listed member among
    obtain ⟨p', there, rfl⟩ := get?_resolve.mp found
    exact ⟨id, p', there, rfl⟩
  obtain ⟨id, p', there, rfl⟩ := origin hp
  obtain ⟨id', q', there', rfl⟩ := origin hq
  rw [id_resolved, id_resolved] at same
  obtain rfl := Table.nodup_values_iff.mp h.properties id id' p' q' there there' same
  cases there.symm.trans there'
  rfl

theorem mirrors_of_reordered (h : m.Reordered n) (distinct : m.Distinct) :
    m.resolve.Mirrors n.resolve := by
  refine ⟨m.resolve_closed, n.resolve_closed, nodup_resolve distinct.classes,
    nodup_resolve (h.distinct distinct.classes), fun {key c} listed => ?_⟩
  rw [get?_class_resolve] at listed
  obtain ⟨c, here, rfl⟩ := Option.map_eq_some_iff.mp listed
  obtain ⟨d, there, facts, perm⟩ := h.right here
  refine ⟨{ d with superclass := n.superclassOf d }, by rw [get?_class_resolve, there]; rfl, ?_, ?_⟩
  · have superclass : n.superclassOf d = m.superclassOf c := by
      rw [facts, h.agree.superclassOf_eq fun _ _ => trivial]
      rfl
    rw [superclass, facts]
  · have member : c ∈ m.classes.values := Table.mem_values.mpr ⟨key, here⟩
    rw [sortedProperties, propertiesOf, h.property?_resolve]
    refine (sorted_eq_of_perm (fun p : Property => (p.sortName, p.id))
      (perm.filterMap m.resolve.property?) fun p hp q hq same => ?_).symm
    exact distinct.apart member hp hq (congrArg Prod.snd same)

end Uml.Model

namespace Kotlin.Generator

open Uml (Model)

variable {g : Generator} {m n : Model}

/-- Classes that are listed under the same identifier in both models, as counterparts. -/
private def Paired (m n : Model) (c d : String × Uml.Class) : Prop :=
  c.1 = d.1 ∧ m.classes.get? c.1 = some c.2 ∧ n.classes.get? d.1 = some d.2 ∧
    m.Counterpart n c.2 d.2

theorem paired_of_reordered (reordered : m.Reordered n) (distinct : m.Distinct) :
    List.Forall₂ (Paired m.resolve n.resolve) m.resolve.sortedClasses n.resolve.sortedClasses := by
  have mirrors := Model.mirrors_of_reordered reordered distinct
  refine Uml.forall₂_of_ascending (Model.sortedClasses_ascending mirrors.distinct)
    (Model.sortedClasses_ascending mirrors.distinct')
    (fun c d ⟨_, _, _, counterpart⟩ => counterpart.rank.symm) ?_ ?_
  · rintro ⟨id, c⟩ member
    have here := Model.mem_sortedClasses.mp member
    obtain ⟨d, there, counterpart⟩ := mirrors.counterpart here
    exact ⟨(id, d), Model.mem_sortedClasses.mpr there, rfl, here, there, counterpart⟩
  · rintro ⟨id, d⟩ member
    have there := Model.mem_sortedClasses.mp member
    rw [Model.get?_class_resolve] at there
    obtain ⟨d', declared, -⟩ := Option.map_eq_some_iff.mp there
    obtain ⟨c', declared', -⟩ := reordered.left declared
    have here : m.resolve.classes.get? id = some { c' with superclass := m.superclassOf c' } := by
      rw [Model.get?_class_resolve, declared']
      rfl
    obtain ⟨d'', there', counterpart⟩ := mirrors.counterpart here
    rw [← Model.get?_class_resolve] at there
    cases there.symm.trans there'
    exact ⟨(id, _), Model.mem_sortedClasses.mpr here, rfl, here, there, counterpart⟩

/-- The files of a run do not depend on the order in which classes, properties and the members of
classes were declared. They come for the same classes in the same order, and a class that has none
has none for the same reason. That classes have identifiers of their own holds of whatever events
declare: they are listed under their identifiers (`Xmi.keyed_extract`). -/
theorem files_reordered (reordered : m.Reordered n) (distinct : m.Distinct)
    (resolved : g.model = m.resolve) (output : String) :
    (g.withModel n.resolve).files output = g.files output ∧
      n.resolve.sortedClasses.map (fun d => (d.1, (g.withModel n.resolve).file output d.1 d.2)) =
        m.resolve.sortedClasses.map fun c => (c.1, g.file output c.1 c.2) := by
  have mirrors : g.model.Mirrors n.resolve := by
    rw [resolved]
    exact Model.mirrors_of_reordered reordered distinct
  have detached : g.model.DetachedClosed := by
    apply Uml.Model.detachedClosed_of_listed
    intro c hc member among
    rw [resolved, Model.resolve_eq, Table.values_map] at hc
    obtain ⟨c', declared, rfl⟩ := List.mem_map.mp hc
    obtain ⟨id, -, same, -⟩ := distinct.members c' declared member among
    exact ⟨id, same⟩
  have pairs := paired_of_reordered reordered distinct
  rw [← resolved] at pairs
  have results : n.resolve.sortedClasses.map
        (fun d => (d.1, (g.withModel n.resolve).file output d.1 d.2)) =
      g.model.sortedClasses.map fun c => (c.1, g.file output c.1 c.2) := by
    rw [← List.forall₂_eq_eq_eq, List.forall₂_map_left_iff, List.forall₂_map_right_iff]
    refine pairs.flip.imp ?_
    rintro ⟨id, d⟩ ⟨id', c⟩ ⟨same, here, there, counterpart⟩
    cases same
    rw [file_counterpart mirrors detached here there counterpart]
  refine ⟨?_, resolved ▸ results⟩
  have files := congrArg (List.map Prod.snd) results
  rw [List.map_map, List.map_map] at files
  exact congrArg upToError files

private def studentFirst : Model where
  classes := ⟨[
    ("S", { id := "S", name := "Student", members := [.listed "q", .listed "r"],
            generalizationId := some "P" }),
    ("P", { id := "P", name := "Person", members := [.listed "p"] })], by simp⟩
  properties := ⟨[
    ("q", { id := "q", name := some "skole" }), ("r", { id := "r", name := some "linje" }),
    ("p", { id := "p", name := some "navn" })], by simp⟩

private def personFirst : Model where
  classes := ⟨[
    ("P", { id := "P", name := "Person", members := [.listed "p"] }),
    ("S", { id := "S", name := "Student", members := [.listed "r", .listed "q"],
            generalizationId := some "P" })], by simp⟩
  properties := ⟨[
    ("p", { id := "p", name := some "navn" }), ("q", { id := "q", name := some "skole" }),
    ("r", { id := "r", name := some "linje" })], by simp⟩

private def studentFiles : Generator where
  model := studentFirst.resolve
  root := "no.fint.model"
  target := Profile.Bundled.target

theorem files_reordered_students : studentFirst.Reordered personFirst ∧ studentFirst.Distinct ∧
    (studentFiles.withModel personFirst.resolve).files "out" = studentFiles.files "out" := by
  have reordered : studentFirst.Reordered personFirst := by
    refine ⟨fun id => ?_, fun id => ?_, rfl, fun _ => rfl, fun _ => rfl⟩
    · by_cases student : id = "S"
      · subst student
        exact .some ⟨rfl, .swap _ _ _⟩
      by_cases person : id = "P"
      · subst person
        exact .some ⟨rfl, .refl _⟩
      have none : studentFirst.classes.get? id = none ∧ personFirst.classes.get? id = none := by
        simp [Table.get?_eq_none_iff, Table.keys, studentFirst, personFirst, student, person]
      rw [none.1, none.2]
      exact .none
    · ext p
      rw [Table.get?_eq_some_iff, Table.get?_eq_some_iff]
      simp only [studentFirst, personFirst, List.mem_cons, List.not_mem_nil, or_false]
      tauto
  have distinct : studentFirst.Distinct := by
    refine ⟨by decide, by decide, fun c listed member among => ?_⟩
    have there (id : String) (known : id ∈ ["p", "q", "r"]) (same : member = .listed id) :
        ∃ id p, member = .listed id ∧ studentFirst.properties.get? id = some p := by
      refine ⟨id, ?_⟩
      simp only [List.mem_cons, List.not_mem_nil, or_false] at known
      rcases known with rfl | rfl | rfl <;> exact ⟨_, same, rfl⟩
    simp only [studentFirst, Table.values, List.map_cons, List.map_nil, List.mem_cons,
      List.not_mem_nil, or_false] at listed
    rcases listed with rfl | rfl
    all_goals simp only [List.mem_cons, List.not_mem_nil, or_false] at among
    · rcases among with same | same
      · exact there "q" (by simp) same
      · exact there "r" (by simp) same
    · exact there "p" (by simp) among
  exact ⟨reordered, distinct, (files_reordered reordered distinct rfl "out").1⟩

end Kotlin.Generator

end UmlKotlin
