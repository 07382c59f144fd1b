import UmlKotlin.Proofs.Outcome
import UmlKotlin.Proofs.Kotlin.Filling
import UmlKotlin.Proofs.Profile.Bundled
import UmlKotlin.Proofs.Uml.Hierarchy
import UmlKotlin.Proofs.Uml.Resolution

/-!
When a class has a source file. Main statement: nothing but a circle of superclasses stands in the
way of a class whose links lead somewhere, if the profile and the markers have the names that are
asked for (`exists_plan`).
-/

set_option autoImplicit false

namespace UmlKotlin

structure Kotlin.Markers.Named (k : Kotlin.Markers) : Prop where
  rootEntity : ∃ name, k.rootEntity = some name
  complexDatatype : ∃ name, k.complexDatatype = some name

/-- The types of the properties that only their class still holds are listed, too. -/
def Uml.Model.DetachedClosed (m : Uml.Model) : Prop :=
  ∀ {id key : String} {c : Uml.Class} {p : Uml.Property}, m.classes.get? id = some c →
    .detached p ∈ c.members → p.links.type = some key → ∃ s, m.classes.get? key = some s

theorem Uml.Model.detachedClosed_of_listed {m : Uml.Model}
    (h : ∀ c ∈ m.classes.values, ∀ member ∈ c.members, ∃ id, member = .listed id) :
    m.DetachedClosed := by
  intro id key c p hc detached
  have there : c ∈ m.classes.values := Table.mem_values.mpr ⟨id, hc⟩
  obtain ⟨id', same⟩ := h c there _ detached
  cases same

theorem Uml.Model.DetachedClosed.resolve {m : Uml.Model} (h : m.DetachedClosed) :
    m.resolve.DetachedClosed := by
  intro id key c p hc detached link
  rw [get?_class_resolve] at hc ⊢
  obtain ⟨c', declared, rfl⟩ := Option.map_eq_some_iff.mp hc
  obtain ⟨s, listed⟩ := h declared detached link
  exact ⟨_, by rw [listed]; rfl⟩

theorem Uml.Model.Closed.parent?_eq {m : Uml.Model} (h : m.Closed) {key : String}
    {c s : Uml.Class} (link : c.superclass = some key) (hs : m.classes.get? key = some s) :
    m.parent? c = some s := by
  rw [parent?, link, Option.bind_some, h.linkedClass?_eq, hs]

theorem Uml.Model.Closed.listed_type {m : Uml.Model} (h : m.Closed) (detached : m.DetachedClosed)
    {id key : String} {c : Uml.Class} {p : Uml.Property} (hc : m.classes.get? id = some c)
    (hp : p ∈ m.sortedProperties c) (link : p.links.type = some key) :
    ∃ s, m.classes.get? key = some s := by
  have hp : p ∈ m.propertiesOf c := (List.mergeSort_perm _ _).mem_iff.mp hp
  obtain ⟨member, hm, found⟩ := List.mem_filterMap.mp hp
  cases member with
  | listed id' => exact h.type found link
  | detached q =>
    cases found
    exact detached hc hm link

namespace Kotlin.Generator

open Uml (Model Property)

theorem outline_eq_ok_iff {g : Generator} {id : String} {c : Uml.Class} {o : Outline} :
    g.outline id c = .ok o ↔ ∃ above groups, g.ancestors id c = .ok above ∧
      above.mapM g.fieldsOf = .ok groups ∧ groups.flatten = o.inherited ∧
      g.fieldsOf c = .ok o.own ∧ g.superclassReference c = .ok o.superclass ∧
      g.interfaceReferences c = .ok o.interfaces := by
  simp only [outline, bind_eq_ok_iff]
  constructor
  · rintro ⟨above, up, groups, inherited, own, ho, superclass, hs, interfaces, hi, h⟩
    cases h
    exact ⟨above, groups, up, inherited, rfl, ho, hs, hi⟩
  · rintro ⟨above, groups, up, inherited, flat, ho, hs, hi⟩
    exact ⟨above, up, groups, inherited, o.own, ho, o.superclass, hs, o.interfaces, hi, by
      rw [flat]; rfl⟩

theorem ancestors_eq_ok_iff {g : Generator} {id : String} {c : Uml.Class}
    {above : List Uml.Class} :
    g.ancestors id c = .ok above ↔ g.model.ancestors id c = .ok above := by
  unfold ancestors
  cases g.model.ancestors id c <;> simp

theorem ancestors_eq_error {g : Generator} {id : String} {c : Uml.Class}
    {cycle : Uml.InheritanceCycle} (h : g.model.ancestors id c = .error cycle) :
    g.ancestors id c = .error (.cycle cycle) := by
  rw [ancestors, h]

/-- Links lead to what is listed: a class of the model bears its identifier, alone or with others. -/
theorem listed_eq_ok_iff {g : Generator} (closed : g.model.Closed) {key : String} {c : Uml.Class} :
    g.listed key = .ok c ↔ g.model.classes.get? key = some c := by
  rw [listed, closed.linkedClass?_eq]
  cases found : g.model.classes.get? key with
  | none => simp
  | some s =>
    have member : s ∈ g.model.classes.values := Table.mem_values.mpr ⟨key, found⟩
    have bearer : (g.model.bearer? s.id).isSome := by
      rw [Model.bearer?, List.getLast?_isSome]
      intro none
      exact List.not_mem_nil (none ▸ List.mem_filter.mpr ⟨member, by simp⟩)
    simp [Option.filter, bearer]

theorem classReference_eq_ok_iff {g : Generator} (closed : g.model.Closed) {key : String}
    {r : Reference} : g.classReference key = .ok r ↔
      ∃ c, g.model.classes.get? key = some c ∧ .named (g.packageOf c) (g.classNameOf c) = r := by
  rw [classReference, bind_eq_ok_iff]
  constructor
  · rintro ⟨c, hc, h⟩
    cases h
    exact ⟨c, (listed_eq_ok_iff closed).mp hc, rfl⟩
  · rintro ⟨c, hc, rfl⟩
    exact ⟨c, (listed_eq_ok_iff closed).mpr hc, rfl⟩

theorem exists_baseReference {g : Generator} (closed : g.model.Closed)
    (target : g.target.Complete) {p : Property}
    (type : ∀ key, p.links.type = some key → ∃ s, g.model.classes.get? key = some s) :
    ∃ r, g.baseReference p = .ok r := by
  unfold baseReference
  cases link : p.links.type with
  | none =>
    obtain ⟨name, named⟩ := target.primitive p.links.primitiveType
    exact ⟨_, by rw [primitiveReference, named]⟩
  | some key =>
    obtain ⟨s, hs⟩ := type key link
    exact ⟨_, (classReference_eq_ok_iff closed).mpr ⟨s, hs, rfl⟩⟩

theorem exists_meantType {g : Generator} (closed : g.model.Closed) (target : g.target.Complete)
    {p : Property} (owner : Uml.Class)
    (type : ∀ key, p.links.type = some key → ∃ s, g.model.classes.get? key = some s) :
    ∃ t, g.meantType p owner = .ok t := by
  obtain ⟨base, hb⟩ := exists_baseReference closed target type
  obtain ⟨collection, hc⟩ := target.collection (g.isComplexDatatype owner)
  have there : g.collectionFor owner = .ok collection := by simp only [collectionFor, hc]
  cases many : p.isMany with
  | true =>
    refine ⟨.many (g.collectionReference collection) base collection.empty, ?_⟩
    rw [meantType, hb, many, there]
    rfl
  | false =>
    refine ⟨.single base !p.isRequired, ?_⟩
    rw [meantType, hb, many]
    rfl

theorem exists_fieldsOf {g : Generator} (closed : g.model.Closed) (target : g.target.Complete)
    (detached : g.model.DetachedClosed) {id : String} {c : Uml.Class}
    (h : g.model.classes.get? id = some c) : ∃ fields, g.fieldsOf c = .ok fields := by
  apply exists_mapM
  intro p hp
  obtain ⟨t, ht⟩ := exists_meantType closed target c fun key link =>
    closed.listed_type detached h hp link
  exact ⟨⟨p, t⟩, map_eq_ok_iff.mpr ⟨t, ht, rfl⟩⟩

theorem listed_of_mem_ancestors {g : Generator} (closed : g.model.Closed) {id : String}
    {c s : Uml.Class} {above : List Uml.Class} (hc : g.model.classes.get? id = some c)
    (h : g.model.ancestors id c = .ok above) (hs : s ∈ above) :
    ∃ key, g.model.classes.get? key = some s := by
  obtain ⟨up, -⟩ := (Model.ancestors_eq_ok_iff hc).mp h
  obtain ⟨key, link⟩ := up.linked hs
  exact ⟨key, closed.linkedClass?_eq key ▸ link⟩

theorem exists_superclassReference {g : Generator} (closed : g.model.Closed) {id : String}
    {c : Uml.Class} (hc : g.model.classes.get? id = some c) :
    ∃ r, g.superclassReference c = .ok r := by
  unfold superclassReference
  cases link : c.superclass with
  | none => exact ⟨none, rfl⟩
  | some key =>
    obtain ⟨s, hs⟩ := closed.superclass hc link
    exact ⟨_, map_eq_ok_iff.mpr ⟨_, (classReference_eq_ok_iff closed).mpr ⟨s, hs, rfl⟩, rfl⟩⟩

theorem exists_interfaceReferences {g : Generator} (markers : g.markers.Named) (c : Uml.Class) :
    ∃ rs, g.interfaceReferences c = .ok rs := by
  have marker (has : Bool) {name : Option String} (named : ∃ n, name = some n) :
      ∃ rs, g.markerReferences has name = .ok rs := by
    obtain ⟨n, rfl⟩ := named
    cases has with
    | false => exact ⟨[], rfl⟩
    | true => exact ⟨[.named g.markers.package n], rfl⟩
  obtain ⟨roots, hr⟩ := marker (!c.superclass.isSome) markers.rootEntity
  obtain ⟨values, hv⟩ := marker (g.isComplexDatatype c) markers.complexDatatype
  exact ⟨roots ++ values, by rw [interfaceReferences, hr, hv]; rfl⟩

theorem exists_outline {g : Generator} (closed : g.model.Closed) (target : g.target.Complete)
    (markers : g.markers.Named) (detached : g.model.DetachedClosed) {id : String} {c : Uml.Class}
    {above : List Uml.Class} (hc : g.model.classes.get? id = some c)
    (h : g.model.ancestors id c = .ok above) : ∃ o, g.outline id c = .ok o := by
  obtain ⟨groups, inherited⟩ := exists_mapM (f := g.fieldsOf) (l := above) fun a ha => by
    obtain ⟨key, hk⟩ := listed_of_mem_ancestors closed hc h ha
    exact exists_fieldsOf closed target detached hk
  obtain ⟨own, ho⟩ := exists_fieldsOf closed target detached hc
  obtain ⟨superclass, hs⟩ := exists_superclassReference closed hc
  obtain ⟨interfaces, hi⟩ := exists_interfaceReferences markers c
  exact ⟨⟨groups.flatten, own, superclass, interfaces⟩, outline_eq_ok_iff.mpr
    ⟨above, groups, ancestors_eq_ok_iff.mpr h, inherited, rfl, ho, hs, hi⟩⟩

theorem exists_plan {g : Generator} (closed : g.model.Closed) (target : g.target.Complete)
    (markers : g.markers.Named) (detached : g.model.DetachedClosed) {id : String} {c : Uml.Class}
    {above : List Uml.Class} (hc : g.model.classes.get? id = some c)
    (h : g.model.ancestors id c = .ok above) : ∃ d, g.plan id c = .ok d := by
  obtain ⟨o, ho⟩ := exists_outline closed target markers detached hc h
  exact ⟨_, plan_eq_ok_iff.mpr ⟨o, ho, rfl⟩⟩

end Kotlin.Generator

end UmlKotlin
