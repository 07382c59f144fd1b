import UmlKotlin.Proofs.Kotlin.Counterpart
import UmlKotlin.Proofs.Kotlin.Files
import UmlKotlin.Proofs.Uml.Linking

/-!
One more class in a model. Main statement: all other files stay as they are, and the file of the new
class is put at its place between them (`files_extended`).
-/

set_option autoImplicit false

namespace UmlKotlin

namespace Uml.Model

/-- The second model has one more class, whose properties are new as well. Nothing in the first
model refers to any of them. What the class alone holds has no type, as nothing has before a model
is resolved. -/
structure Extends (m n : Model) (x : Class) : Prop where
  classes (id : String) : n.classes.get? id = if id = x.id then some x else m.classes.get? id
  fresh : m.classes.get? x.id = none
  properties (id : String) : .listed id ∉ x.members → n.properties.get? id = m.properties.get? id
  listed (id : String) : .listed id ∈ x.members → m.properties.get? id = none ∧
    (∀ a ∈ m.associations.values, id ∉ a.endIds) ∧ ∀ c ∈ m.classes.values, .listed id ∉ c.members
  detached (p : Property) : .detached p ∈ x.members → p.links.type = none
  associations : n.associations = m.associations
  packages (id : String) : n.packages.get? id = m.packages.get? id
  types (id : String) : n.types.get? id = m.types.get? id
  untyped : ∀ p ∈ m.properties.values, p.typeId ≠ some x.id
  ungeneralized : ∀ c ∈ m.classes.values, c.generalizationId ≠ some x.id

variable {m n : Model} {x c : Class} {id : String}

namespace Extends

theorem agree (h : m.Extends n x) : m.Agree n fun id => id ≠ x.id where
  classes id other := by
    rw [Table.contains_eq_isSome, Table.contains_eq_isSome, h.classes, if_neg other]
  types id := (h.types id).symm
  associations := h.associations.symm
  names a listed id member := by
    rw [h.properties id]
    intro own
    obtain ⟨-, unlisted, -⟩ := h.listed id own
    exact unlisted a listed (List.mem_append_left _ member)

theorem ne_of_listed (h : m.Extends n x) (listed : m.resolve.classes.get? id = some c) :
    id ≠ x.id := by
  rintro rfl
  rw [get?_class_resolve, h.fresh] at listed
  cases listed

theorem get?_resolve (h : m.Extends n x) (other : id ≠ x.id) :
    n.resolve.classes.get? id = m.resolve.classes.get? id := by
  rw [get?_class_resolve, get?_class_resolve, h.classes, if_neg other]
  cases found : m.classes.get? id with
  | none => rfl
  | some c =>
    have listed : c ∈ m.classes.values := Table.mem_values.mpr ⟨id, found⟩
    rw [Option.map_some, Option.map_some, h.agree.superclassOf_eq fun id given same =>
      h.ungeneralized c listed (same ▸ given)]

theorem property?_resolve (h : m.Extends n x) (listed : c ∈ m.classes.values) {member : Member}
    (among : member ∈ c.members) : n.resolve.property? member = m.resolve.property? member := by
  cases member with
  | detached p => rfl
  | listed id =>
    have old : .listed id ∉ x.members := by
      intro own
      obtain ⟨-, -, unlisted⟩ := h.listed id own
      exact unlisted c listed among
    simp only [property?, resolve_eq, Table.get?_map, h.properties id old]
    cases found : m.properties.get? id with
    | none => rfl
    | some p =>
      have known : p ∈ m.properties.values := Table.mem_values.mpr ⟨id, found⟩
      rw [Option.map_some, Option.map_some, h.agree.resolved_eq fun id given same =>
        h.untyped p known (same ▸ given)]

theorem keyed (h : m.Extends n x) (keyed : m.classes.KeyedBy (·.id)) :
    n.classes.KeyedBy (·.id) := by
  intro id c listed
  rw [h.classes] at listed
  split at listed
  · rename_i new
    cases listed
    exact new.symm
  · exact keyed listed

theorem counterpart (h : m.Extends n x) (listed : m.resolve.classes.get? id = some c) :
    n.resolve.classes.get? id = some c ∧ m.resolve.Counterpart n.resolve c c := by
  refine ⟨by rw [h.get?_resolve (h.ne_of_listed listed), listed], rfl, ?_⟩
  rw [get?_class_resolve] at listed
  obtain ⟨c', declared, rfl⟩ := Option.map_eq_some_iff.mp listed
  have member : c' ∈ m.classes.values := Table.mem_values.mpr ⟨id, declared⟩
  have properties : n.resolve.propertiesOf { c' with superclass := m.superclassOf c' } =
      m.resolve.propertiesOf { c' with superclass := m.superclassOf c' } :=
    List.filterMap_congr fun member' among => h.property?_resolve member among
  rw [sortedProperties, properties, sortedProperties]

theorem mirrors (h : m.Extends n x) (keyed : m.classes.KeyedBy (·.id)) :
    m.resolve.Mirrors n.resolve := by
  exact ⟨m.resolve_closed, n.resolve_closed, nodup_resolve keyed.nodup,
    nodup_resolve (h.keyed keyed).nodup, fun listed => ⟨_, h.counterpart listed⟩⟩

theorem detachedClosed (h : m.Extends n x) (detached : m.DetachedClosed) : n.DetachedClosed := by
  intro id key c p listed member link
  rw [h.classes] at listed
  split at listed
  · cases listed
    cases (h.detached p member).symm.trans link
  · obtain ⟨s, above⟩ := detached listed member link
    refine ⟨s, ?_⟩
    rw [h.classes, if_neg, above]
    rintro rfl
    rw [h.fresh] at above
    cases above

theorem mem_sortedClasses (h : m.Extends n x) {e : String × Class} :
    e ∈ n.resolve.sortedClasses ↔ e = (x.id, { x with superclass := n.superclassOf x }) ∨
      e ∈ m.resolve.sortedClasses := by
  have new : n.resolve.classes.get? x.id = some { x with superclass := n.superclassOf x } := by
    rw [get?_class_resolve, h.classes, if_pos rfl]
    rfl
  have absent : m.resolve.classes.get? x.id = none := by
    rw [get?_class_resolve, h.fresh]
    rfl
  obtain ⟨id, c⟩ := e
  rw [Model.mem_sortedClasses, Model.mem_sortedClasses]
  by_cases here : id = x.id
  · subst here
    simp [new, absent, eq_comm]
  · simp [h.get?_resolve here, here]

theorem sortedClasses (h : m.Extends n x) (keyed : m.classes.KeyedBy (·.id)) :
    ∃ before after, m.resolve.sortedClasses = before ++ after ∧
      n.resolve.sortedClasses =
        before ++ (x.id, { x with superclass := n.superclassOf x }) :: after ∧
      (∀ c ∈ before, c.2.rank < x.rank) ∧ ∀ c ∈ after, x.rank < c.2.rank := by
  have mirrors := h.mirrors keyed
  have ascending := sortedClasses_ascending mirrors.distinct
  have other : ∀ c ∈ m.resolve.sortedClasses, c.2.rank ≠ x.rank := by
    rintro ⟨id, c⟩ member same
    have listed := Model.mem_sortedClasses.mp member
    rw [get?_class_resolve] at listed
    obtain ⟨c, declared, rfl⟩ := Option.map_eq_some_iff.mp listed
    have own : c.id = id := keyed declared
    have same : c.id = x.id := congrArg Prod.snd (toLex.injective same)
    rw [← own, same, h.fresh] at declared
    cases declared
  obtain ⟨before, after, split, low, high⟩ := exists_place ascending other
  refine ⟨before, after, split, ?_, low, high⟩
  rw [split, List.pairwise_append] at ascending
  obtain ⟨front, back, across⟩ := ascending
  have ascending' : (before ++ (x.id, { x with superclass := n.superclassOf x }) :: after).Pairwise
      fun c d => c.2.rank < d.2.rank := by
    refine List.pairwise_append.mpr ⟨front, List.pairwise_cons.mpr ⟨high, back⟩, ?_⟩
    intro c hc d hd
    rcases List.mem_cons.mp hd with rfl | hd
    · exact low c hc
    · exact across c hc d hd
  have members {e : String × Class} : e ∈ n.resolve.sortedClasses ↔
      e ∈ before ++ (x.id, { x with superclass := n.superclassOf x }) :: after := by
    rw [h.mem_sortedClasses, split]
    simp only [List.mem_append, List.mem_cons]
    tauto
  rw [← List.forall₂_eq_eq_eq]
  exact forall₂_of_ascending (sortedClasses_ascending mirrors.distinct') ascending'
    (fun _ _ same => by rw [same]) (fun e member => ⟨e, members.mp member, rfl⟩)
    fun e member => ⟨e, members.mpr member, rfl⟩

end Extends

end Uml.Model

namespace Kotlin.Generator

open Uml (Model)

variable {g : Generator} {m n : Model} {x : Uml.Class}

theorem file_unchanged (extended : m.Extends n x) (keyed : m.classes.KeyedBy (·.id))
    (detached : m.DetachedClosed) (resolved : g.model = m.resolve) (output : String) {id : String}
    {c : Uml.Class} (listed : m.resolve.classes.get? id = some c) :
    (g.withModel n.resolve).render id c = g.render id c ∧
      (g.withModel n.resolve).sourcePath output c = g.sourcePath output c ∧
      (g.withModel n.resolve).file output id c = g.file output id c := by
  obtain ⟨there, counterpart⟩ := extended.counterpart listed
  have mirrors := extended.mirrors keyed
  have detached' : m.resolve.DetachedClosed := detached.resolve
  rw [← resolved] at listed counterpart mirrors detached'
  exact ⟨render_counterpart mirrors detached' listed there counterpart,
    sourcePath_counterpart mirrors ⟨counterpart, id, listed, there⟩ output,
    file_counterpart mirrors detached' listed there counterpart output⟩

/-- A new class that nothing refers to leaves all other files as they are: their classes have the
same texts at the same paths, and its own file is put at its place between them. That classes are
listed under their identifiers, and that what only classes hold has no types outside the model,
holds of whatever well-nested events declare (`Xmi.keyed_extract`, `detachedClosed_extract`). -/
theorem files_extended (extended : m.Extends n x) (keyed : m.classes.KeyedBy (·.id))
    (detached : m.DetachedClosed) (resolved : g.model = m.resolve) (output : String) :
    (∀ id c, m.resolve.classes.get? id = some c → n.resolve.classes.get? id = some c ∧
      (g.withModel n.resolve).render id c = g.render id c ∧
      (g.withModel n.resolve).sourcePath output c = g.sourcePath output c) ∧
    ∃ x' before after, n.resolve.classes.get? x.id = some x' ∧
      x' = { x with superclass := n.superclassOf x } ∧
      m.resolve.sortedClasses = before ++ after ∧
      n.resolve.sortedClasses = before ++ (x.id, x') :: after ∧
      (∀ c ∈ before, c.2.rank < x'.rank) ∧ (∀ c ∈ after, x'.rank < c.2.rank) ∧
      (g.withModel n.resolve).files output =
        upToError (before.map (fun c => g.file output c.1 c.2) ++
          (g.withModel n.resolve).file output x.id x' :: after.map fun c => g.file output c.1 c.2) ∧
      (g.target.Complete → g.target.extension?.isSome → g.markers.Named →
        (∀ id c, m.resolve.classes.get? id = some c →
          ∃ above, m.resolve.ancestors id c = .ok above) →
        (∃ above, n.resolve.ancestors x.id x' = .ok above) →
        ∃ fs file gs, fs.length = before.length ∧ g.files output = (fs ++ gs, none) ∧
          (g.withModel n.resolve).file output x.id x' = .ok file ∧
          (g.withModel n.resolve).files output = (fs ++ file :: gs, none)) := by
  have unchanged {id : String} {c : Uml.Class} (listed : m.resolve.classes.get? id = some c) :=
    file_unchanged extended keyed detached resolved output listed
  obtain ⟨before, after, split, split', low, high⟩ := extended.sortedClasses keyed
  have new : n.resolve.classes.get? x.id = some { x with superclass := n.superclassOf x } := by
    rw [← Model.mem_sortedClasses, split']
    simp
  have listed {c : String × Uml.Class} (member : c ∈ before ++ after) :
      m.resolve.classes.get? c.1 = some c.2 := Model.mem_sortedClasses.mp (split ▸ member)
  have files' : (g.withModel n.resolve).files output =
      upToError (before.map (fun c => g.file output c.1 c.2) ++
        (g.withModel n.resolve).file output x.id { x with superclass := n.superclassOf x } ::
          after.map fun c => g.file output c.1 c.2) := by
    have sorted : (g.withModel n.resolve).model.sortedClasses = _ := split'
    have front := List.map_congr_left fun c (member : c ∈ before) =>
      (unchanged (listed (List.mem_append_left after member))).2.2
    have back := List.map_congr_left fun c (member : c ∈ after) =>
      (unchanged (listed (List.mem_append_right before member))).2.2
    rw [files, sorted, List.map_append, List.map_cons, front, back]
  refine ⟨fun id c here => ?_, _, before, after, new, rfl, split, split', low, high, files', ?_⟩
  · obtain ⟨render, path, -⟩ := unchanged here
    exact ⟨(extended.counterpart here).1, render, path⟩
  rintro target extension markers acyclic ⟨above, up⟩
  have each (c : String × Uml.Class) (member : c ∈ before ++ after) :
      ∃ f, g.file output c.1 c.2 = .ok f := by
    have detached' : g.model.DetachedClosed := resolved ▸ detached.resolve
    have here := listed member
    obtain ⟨above, up⟩ := acyclic c.1 c.2 here
    rw [← resolved] at here up
    exact exists_file_of_ancestors (resolved ▸ m.resolve_closed) target extension markers detached'
      here up
  have own : ∃ file, (g.withModel n.resolve).file output x.id
      { x with superclass := n.superclassOf x } = .ok file :=
    exists_file_of_ancestors (g := g.withModel n.resolve) n.resolve_closed target extension markers
      (Model.DetachedClosed.resolve (extended.detachedClosed detached)) new up
  obtain ⟨file, made⟩ := own
  obtain ⟨fs, front⟩ := exists_results fun c member => each c (List.mem_append_left _ member)
  obtain ⟨gs, back⟩ := exists_results fun c member => each c (List.mem_append_right _ member)
  refine ⟨fs, file, gs, ?_, ?_, made, ?_⟩
  · have length := congrArg List.length front
    simpa using length.symm
  · rw [files, resolved, split, upToError_eq_none_iff, List.map_append, front, back,
      List.map_append]
  · rw [files', upToError_eq_none_iff, front, back, made, List.map_append, List.map_cons]

private def persons : Model where
  classes := ⟨[("P", { id := "P", name := "Person", members := [.listed "p"] })], by simp⟩
  properties := ⟨[("p", { id := "p", name := some "navn" })], by simp⟩

private def student : Uml.Class where
  id := "S"
  name := "Student"
  members := [.listed "q"]
  generalizationId := some "P"

private def personsAndStudent : Model where
  classes := ⟨[("S", student),
    ("P", { id := "P", name := "Person", members := [.listed "p"] })], by simp⟩
  properties := ⟨[("p", { id := "p", name := some "navn" }),
    ("q", { id := "q", name := some "veileder", typeId := some "P" })], by simp⟩

private def personFiles : Generator where
  model := persons.resolve
  root := "no.fint.model"
  target := Profile.Bundled.target

private theorem persons_extended : persons.Extends personsAndStudent student := by
  have other {id : String} (person : id ≠ "P") : persons.classes.get? id = none := by
    simp [Table.get?_eq_none_iff, Table.keys, persons, person]
  refine {
    classes := fun id => ?_
    fresh := rfl
    properties := fun id old => ?_
    listed := fun id among => ?_
    detached := by simp [student]
    associations := rfl
    packages := fun _ => rfl
    types := fun _ => rfl
    untyped := by simp [persons, Table.values]
    ungeneralized := by simp [persons, Table.values] }
  · by_cases new : id = "S"
    · subst new
      rfl
    by_cases person : id = "P"
    · subst person
      rfl
    have new' : id ≠ student.id := new
    rw [other person, if_neg new', Table.get?_eq_none_iff]
    simp [Table.keys, personsAndStudent, new, person]
  · have new : id ≠ "q" := by
      rintro rfl
      exact old (by simp [student])
    ext p
    rw [Table.get?_eq_some_iff, Table.get?_eq_some_iff]
    simp [personsAndStudent, persons, new]
  · cases List.mem_singleton.mp among
    refine ⟨rfl, fun a listed => ?_, by simp [persons, Table.values]⟩
    cases listed

theorem files_extended_student : persons.Extends personsAndStudent student ∧
    persons.classes.KeyedBy (·.id) ∧ persons.DetachedClosed ∧
    ∃ fs file gs, personFiles.files "out" = (fs ++ gs, none) ∧
      (personFiles.withModel personsAndStudent.resolve).files "out" = (fs ++ file :: gs, none) := by
  have keyed : persons.classes.KeyedBy (·.id) := Table.keyedBy_iff.mpr (by simp [persons])
  have detached : persons.DetachedClosed :=
    Model.detachedClosed_of_listed (by simp [persons, Table.values])
  have acyclic : ∀ id c, persons.resolve.classes.get? id = some c →
      ∃ above, persons.resolve.ancestors id c = .ok above := by
    intro id c listed
    have member : c ∈ persons.resolve.classes.values := Table.mem_values.mpr ⟨id, listed⟩
    obtain rfl : c = { id := "P", name := "Person", members := [.listed "p"] } :=
      List.mem_singleton.mp member
    exact ⟨[], (Model.ancestors_eq_ok_iff listed).mpr ⟨.top rfl, by simp⟩⟩
  obtain ⟨-, x', before, after, new, same, -, -, -, -, -, inserted⟩ :=
    files_extended (g := personFiles) persons_extended keyed detached rfl "out"
  have acyclic' : ∃ above, personsAndStudent.resolve.ancestors "S" x' = .ok above := by
    subst same
    exact ⟨_, (Model.ancestors_eq_ok_iff new).mpr ⟨.child rfl (.top rfl), by decide⟩⟩
  obtain ⟨fs, file, gs, -, files, -, files'⟩ := inserted Profile.Bundled.target_complete rfl
    ⟨⟨_, rfl⟩, ⟨_, rfl⟩⟩ acyclic acyclic'
  exact ⟨persons_extended, keyed, detached, fs, file, gs, files, files'⟩

end Kotlin.Generator

end UmlKotlin
