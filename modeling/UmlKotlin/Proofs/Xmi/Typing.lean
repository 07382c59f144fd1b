import UmlKotlin.Proofs.Kotlin.Outline
import UmlKotlin.Proofs.Uml.Typing
import UmlKotlin.Proofs.Xmi.Reading
import UmlKotlin.Proofs.Xml.Document
import UmlKotlin.Xmi.Load

/-!
Types of the properties of a document. A property whose identifier is read again leaves the model and
is not resolved, though its class still holds it. Main statement: all properties of all classes that
well-nested events declare have their types exactly if no such property has a type to be given
(`typed_iff_of_wellNested`); every document that loads is read as such events (`events_of_load`).
-/

set_option autoImplicit false

namespace UmlKotlin.Xmi

open Extraction (propertyOf)
open Kotlin (Generator)
open Text (Octets)
open Uml (Model Property Fact Origin lastRead? membersOf)
open Xml (Event WellNested)

variable {skipped : List String} {events : List Event} {octets : Octets} {encoding id : String}
  {m : Model} {c : Uml.Class} {p : Property}

theorem wellNested_of_eventsOf {enc : Text.Encoding} (h : eventsOf enc octets = .ok events) :
    WellNested events := by
  simp only [eventsOf] at h
  split at h
  · cases h
  · split at h
    · rename_i acceptable
      cases h
      unfold readingOf at acceptable ⊢
      dsimp only at acceptable ⊢
      split at acceptable <;> exact Xml.wellNested_of_acceptable acceptable
    · cases h

/-- A document is loaded from well-nested events. -/
theorem events_of_load (h : load encoding skipped octets = .ok m) :
    ∃ enc events, eventsOf enc octets = .ok events ∧ WellNested events ∧
      m = extract skipped events := by
  unfold load at h
  dsimp only at h
  generalize (if encoding = "" then defaultEncoding else encoding) = name at h
  split at h
  · cases h
  · split at h
    · cases h
    · rename_i enc _
      cases read : eventsOf enc octets with
      | error e =>
        rw [read] at h
        cases h
      | ok events =>
        rw [read] at h
        exact ⟨enc, events, read, wellNested_of_eventsOf read, (Except.ok.inj h).symm⟩

theorem links_of_reading {f : Fact} {e : String × Origin} (member : f ∈ factsOf skipped events)
    (reads : f.reading? = some e) : e.2.links = {} := by
  have among : e ∈ (factsOf skipped events).filterMap Fact.reading? :=
    List.mem_filterMap.mpr ⟨f, member, reads⟩
  rw [readings_factsOf] at among
  obtain ⟨element, -, rfl⟩ := List.mem_map.mp among
  rfl

theorem members_behind (h : WellNested events)
    (found : (extract skipped events).classes.get? id = some c) : ∃ before path later,
      factsOf skipped events = before ++ .classAt id path :: later ∧
        (∀ f ∈ later, ∀ e ∈ f.class?, e.1 ≠ id) ∧
        c.members.map Uml.Member.held = membersOf id later := by
  have there : id ∈ ((factsOf skipped events).filterMap Fact.class?).map (·.1) := by
    rw [← List.mem_eraseDups, ← Model.keys_classes (declarations_extract skipped h)]
    exact Table.mem_keys.mpr ⟨c, found⟩
  obtain ⟨before, path, later, split, last⟩ := Uml.exists_last_class there
  exact ⟨before, path, later, split, last,
    congrArg Prod.snd (declaration_extract h found split last)⟩

/-- A detached property was read behind the last declaration of its class, and its identifier was read
again behind it; it has no links. -/
theorem read_again_of_detached (h : WellNested events)
    (found : (extract skipped events).classes.get? id = some c)
    (detached : .detached p ∈ c.members) : ∃ before f later,
      factsOf skipped events = before ++ f :: later ∧ f.memberOf? id = some p.origin ∧
        (lastRead? p.id later).isSome ∧ p.links = {} := by
  obtain ⟨before, path, behind, split, -, held⟩ := members_behind h found
  have among : Uml.Held.detached p.origin ∈ membersOf id behind := by
    rw [← held]
    exact List.mem_map.mpr ⟨_, detached, rfl⟩
  obtain ⟨front, f, later, split', given, again⟩ := Uml.read_again_of_detached among
  have split : factsOf skipped events = (before ++ .classAt id path :: front) ++ f :: later := by
    rw [split, split']
    simp
  have links : p.origin.links = {} :=
    links_of_reading (by rw [split]; simp) (Fact.reading?_of_memberOf? given)
  exact ⟨_, f, later, split, given, again, links⟩

theorem property_of_member (h : WellNested events)
    (found : (extract skipped events).classes.get? id = some c) {member : Uml.Member}
    (among : member ∈ c.members) : ∃ p, (extract skipped events).property? member = some p := by
  obtain ⟨before, path, later, split, -, held⟩ := members_behind h found
  have last (k : String) (o : Origin) (read : lastRead? k later = some o) :
      (extract skipped events).declarations.properties.get? k = some o := by
    rw [declarations_extract skipped h, Uml.Declarations.get?_property_ofFacts, split,
      Uml.lastRead?_append]
    simp [lastRead?, read]
  have origins := Uml.origins_membersOf id last
  have stands : (extract skipped events).declarations.origin? member.held ∈
      (membersOf id later).map (extract skipped events).declarations.origin? :=
    List.mem_map.mpr ⟨_, held ▸ List.mem_map.mpr ⟨member, among, rfl⟩, rfl⟩
  rw [origins, Model.origin?_held] at stands
  obtain ⟨o, -, stands⟩ := List.mem_map.mp stands
  obtain ⟨p, property, -⟩ := Option.map_eq_some_iff.mp stands.symm
  exact ⟨p, property⟩

theorem not_detached (h : WellNested events) (nodup : ((readElements events).map readId).Nodup)
    (found : (extract skipped events).classes.get? id = some c) : .detached p ∉ c.members := by
  intro detached
  obtain ⟨before, f, later, split, given, again, -⟩ := read_again_of_detached h found detached
  have ids : ((factsOf skipped events).filterMap Fact.reading?).map (·.1) =
      (readElements events).map readId := by
    rw [readings_factsOf, List.map_map]
    rfl
  rw [← ids, split, List.filterMap_append, List.map_append,
    List.filterMap_cons_some (Fact.reading?_of_memberOf? given)] at nodup
  have once := (List.nodup_cons.mp (List.nodup_append.mp nodup).2.1).1
  exact once (Uml.isSome_lastRead?_iff.mp again)

/-- All properties of all classes that well-nested events declare have their types exactly if no
detached one has a type to be given; listed ones always have theirs, and detached ones are written
with the type of what has none. A member is detached if its identifier is read again behind it, so
all have their types if no identifier is read twice. -/
theorem typed_iff_of_wellNested (nested : WellNested events) (extracted : m = extract skipped events) :
    (m.resolve.AllTyped ↔ ∀ c ∈ m.classes.values, ∀ p, .detached p ∈ c.members →
      m.typeOf p = none ∧ m.primitiveTypeOf p = none) ∧
    (∀ c ∈ m.resolve.classes.values, ∀ member ∈ c.members,
      ∃ p, m.resolve.property? member = some p ∧
        (m.resolve.Typed p ∨ member = .detached p ∧ p.links = {})) ∧
    (∀ g : Generator, g.model = m.resolve → ∀ c ∈ m.resolve.classes.values,
      ∀ p ∈ m.resolve.propertiesOf c,
        (m.resolve.Typed p → ∀ key, m.resolve.typeOf p = some key →
          g.baseReference p = g.classReference key) ∧
        (¬ m.resolve.Typed p → g.baseReference p = g.primitiveReference none)) ∧
    (∀ id c, m.classes.get? id = some c → ∃ before path later,
      factsOf skipped events = before ++ .classAt id path :: later ∧
        (∀ f ∈ later, ∀ e ∈ f.class?, e.1 ≠ id) ∧
        c.members.map Uml.Member.held = membersOf id later) ∧
    (((readElements events).map readId).Nodup → m.resolve.AllTyped) := by
  subst extracted
  have unlinked (c : Uml.Class) (hc : c ∈ (extract skipped events).classes.values) (p : Property)
      (detached : .detached p ∈ c.members) : p.links = {} := by
    obtain ⟨id, found⟩ := Table.mem_values.mp hc
    obtain ⟨-, -, -, -, -, -, links⟩ := read_again_of_detached nested found detached
    exact links
  have member_cases (c : Uml.Class) (hc : c ∈ (extract skipped events).resolve.classes.values)
      (member : Uml.Member) (among : member ∈ c.members) :
      ∃ p, (extract skipped events).resolve.property? member = some p ∧
        ((extract skipped events).resolve.Typed p ∨ member = .detached p ∧ p.links = {}) := by
    obtain ⟨c', hc', rfl⟩ := Model.mem_values_resolve.mp hc
    obtain ⟨id, declared⟩ := Table.mem_values.mp hc'
    obtain ⟨p, stands⟩ := property_of_member nested declared among
    cases member with
    | listed k =>
      have found := Model.get?_resolve.mpr ⟨p, stands, rfl⟩
      exact ⟨_, found, .inl (Model.typed_of_listed found)⟩
    | detached q =>
      cases stands
      exact ⟨p, rfl, .inr ⟨rfl, unlinked c' hc' p among⟩⟩
  refine ⟨Model.allTyped_resolve_iff unlinked, member_cases, ?_,
    fun id c found => members_behind nested found, ?_⟩
  · intro g _ c hc p property
    refine ⟨fun typed key type => ?_, fun untyped => ?_⟩
    · rw [Generator.baseReference, typed.1, type]
    · obtain ⟨member, among, stands⟩ := List.mem_filterMap.mp property
      obtain ⟨p', stands', either⟩ := member_cases c hc member among
      obtain rfl : p' = p := Option.some.inj (stands'.symm.trans stands)
      obtain typed | ⟨-, links⟩ := either
      · exact absurd typed untyped
      · rw [Generator.baseReference, links]
  · intro nodup
    refine (Model.allTyped_resolve_iff unlinked).mpr fun c hc p detached => ?_
    obtain ⟨id, found⟩ := Table.mem_values.mp hc
    exact absurd detached (not_detached nested nodup found)

private def twoAttributes (first second : String) : String :=
  "<xmi:XMI xmlns:xmi='http://schema.omg.org/spec/XMI/2.1'>" ++
    "<packagedElement xmi:type='uml:Class' xmi:id='A' name='Person'>" ++
      "<ownedAttribute" ++ first ++ " name='bolig'><type xmi:idref='B'/></ownedAttribute>" ++
      "<ownedAttribute" ++ second ++ " name='hytte'><type xmi:idref='B'/></ownedAttribute>" ++
    "</packagedElement>" ++
    "<packagedElement xmi:type='uml:Class' xmi:id='B' name='Bygning'/>" ++
  "</xmi:XMI>"

theorem loads (document : String) (check : Model → Prop) [DecidablePred check]
    (h : (load "utf-8" [] (Text.toUtf8 document)).toOption.any (fun m => decide (check m)) = true) :
    ∃ m, load "utf-8" [] (Text.toUtf8 document) = .ok m ∧ check m := by
  cases read : load "utf-8" [] (Text.toUtf8 document) with
  | error e =>
    rw [read] at h
    cases h
  | ok m =>
    rw [read] at h
    exact ⟨m, rfl, of_decide_eq_true h⟩

private def isListed : Uml.Member → Bool
  | .listed _ => true
  | .detached _ => false

set_option maxRecDepth 100000 in
theorem typed_of_distinct_ids : ∃ m,
    load "utf-8" [] (Text.toUtf8 (twoAttributes " xmi:id='p'" " xmi:id='q'")) = .ok m ∧
      m.resolve.AllTyped := by
  obtain ⟨m, loaded, listed⟩ := loads (twoAttributes " xmi:id='p'" " xmi:id='q'")
    (fun m => m.classes.values.all (fun c => c.members.all isListed) = true)
    (by decide +kernel)
  obtain ⟨-, events, -, nested, extracted⟩ := events_of_load loaded
  refine ⟨m, loaded, (typed_iff_of_wellNested nested extracted).1.mpr fun c hc p detached => ?_⟩
  have here := List.all_eq_true.mp (List.all_eq_true.mp listed c hc) _ detached
  cases here

set_option maxRecDepth 100000 in
/-- The first of two attributes without identifiers has no type, though the class that it names is
there. -/
theorem untyped_of_missing_ids : ∃ m,
    load "utf-8" [] (Text.toUtf8 (twoAttributes "" "")) = .ok m ∧ ¬ m.resolve.AllTyped ∧
      ∃ c ∈ m.resolve.classes.values, ∃ p ∈ m.resolve.propertiesOf c,
        p.typeId = some "B" ∧ m.resolve.classes.contains "B" = true ∧ p.links.type = none :=
  loads _ _ (by decide +kernel)

end UmlKotlin.Xmi
