import UmlKotlin.Proofs.Xmi.Facts

/-!
What extraction reads. Main statement: a model has the entities that its document declares, in
document order, and each class and association has the properties and ends that begin inside its
element (`extract_captures`).
-/

set_option autoImplicit false

namespace UmlKotlin.Xmi

open Extraction (propertyOf)
open Uml (Model Fact Origin Declarations membersOf)
open Xml (Element Event Occurrence WellNested openAfter occurrences beginnings)

/-- The identifiers under which a document declares something of a kind. -/
def declaredIds (kind : String) (events : List Event) : List String :=
  (beginnings events).filterMap (declaredId? kind)

/-- Whether an element stands for a construct, and the innermost packaged element of a kind that is
open around it has an identifier. -/
def isInside (c : Construct) (kind id : String) (o : Occurrence) : Bool :=
  constructOf? o.element == some c && innermostId? kind o.around == some id

def elementsInside (c : Construct) (kind id : String) (events : List Event) : List Element :=
  ((occurrences events).filter (isInside c kind id)).map (·.element)

/-- Whether an element declares a property of a class or an owned end of an association. -/
def isRead (o : Occurrence) : Bool :=
  constructOf? o.element == some .ownedAttribute &&
      (innermostId? Vocabulary.classType o.around).isSome ||
    constructOf? o.element == some .ownedEnd &&
      (innermostId? Vocabulary.associationType o.around).isSome

def readElements (events : List Event) : List Element :=
  ((occurrences events).filter isRead).map (·.element)

def readId (e : Element) : String :=
  ((e.get? Vocabulary.xmiId).filter (· ≠ "")).getD Vocabulary.unknownProperty

variable {skipped : List String} {events : List Event} {around : List Element} {o : Occurrence}
  {id : String} {before later : List Fact} {f : Fact}

theorem id_origin_propertyOf (e : Element) : (propertyOf e).origin.id = readId e := by
  simp only [propertyOf, Uml.Property.origin, readId]
  cases e.get? Vocabulary.xmiId with
  | none => rfl
  | some id =>
    by_cases empty : id = ""
    · simp [empty, Option.filter]
    · simp [empty, Option.filter]

/-! ### Facts of members and ends -/

theorem bind_packagedFact?_eq_none {α : Type} {pick : Fact → Option α}
    (package : ∀ id path, pick (.packageAt id path) = none)
    (cls : ∀ id path, pick (.classAt id path) = none)
    (association : ∀ id, pick (.association id) = none)
    (type : ∀ id name, pick (.typeNamed id name) = none) (o : Occurrence) :
    (packagedFact? skipped o).bind pick = none := by
  rcases packagedFact?_cases skipped o with
    ⟨-, fact⟩ | ⟨id, -, ⟨-, fact⟩ | ⟨-, fact⟩ | ⟨-, fact⟩ | ⟨-, fact⟩⟩
  · rw [fact]
    rfl
  · rw [fact]
    exact package _ _
  · rw [fact]
    exact cls _ _
  · rw [fact]
    exact association _
  · rw [fact]
    split
    · cases (o.element.plain? "name").filter _ with
      | none => rfl
      | some name => exact type _ _
    · rfl

theorem parts_factOf? (skipped : List String) (id : String) (o : Occurrence) :
    (factOf? skipped o).bind (Fact.memberOf? id) =
        (if isInside .ownedAttribute Vocabulary.classType id o then
          some (propertyOf o.element).origin else none) ∧
      (factOf? skipped o).bind (Fact.ownedEndOf? id) =
        (if isInside .ownedEnd Vocabulary.associationType id o then some (readId o.element)
        else none) ∧
      (factOf? skipped o).bind (Fact.memberEndOf? id) =
        (if isInside .memberEnd Vocabulary.associationType id o then referredId? o.element
        else none) ∧
      (factOf? skipped o).bind Fact.reading? =
        if isRead o then some (readId o.element, (propertyOf o.element).origin) else none := by
  cases construct : constructOf? o.element with
  | none => simp [factOf?, isInside, isRead, construct]
  | some c =>
    cases c with
    | packagedElement =>
      rw [factOf?_packaged (by simp [isPackaged, construct])]
      simp only [isInside, isRead, construct]
      refine ⟨?_, ?_, ?_, ?_⟩ <;>
        exact bind_packagedFact?_eq_none (fun _ _ => rfl) (fun _ _ => rfl) (fun _ => rfl)
          (fun _ _ => rfl) o
    | ownedAttribute =>
      cases owner : innermostId? Vocabulary.classType o.around with
      | none => simp [factOf?, isInside, isRead, construct, owner]
      | some owner =>
        simp [factOf?, isInside, isRead, construct, owner, Fact.memberOf?, Fact.ownedEndOf?,
          Fact.memberEndOf?, Fact.reading?, id_origin_propertyOf]
    | ownedEnd =>
      cases owner : innermostId? Vocabulary.associationType o.around with
      | none => simp [factOf?, isInside, isRead, construct, owner]
      | some owner =>
        simp [factOf?, isInside, isRead, construct, owner, Fact.memberOf?, Fact.ownedEndOf?,
          Fact.memberEndOf?, Fact.reading?, id_origin_propertyOf]
    | memberEnd =>
      cases owner : innermostId? Vocabulary.associationType o.around with
      | none => simp [factOf?, isInside, isRead, construct, owner]
      | some owner =>
        cases ref : referredId? o.element <;>
          simp [factOf?, isInside, isRead, construct, owner, ref, Fact.memberOf?,
            Fact.ownedEndOf?, Fact.memberEndOf?, Fact.reading?]
    | _ => simp [factOf?, isInside, isRead, construct]

theorem members_factsOf (skipped : List String) (id : String) (events : List Event) :
    (factsOf skipped events).filterMap (Fact.memberOf? id) =
      (elementsInside .ownedAttribute Vocabulary.classType id events).map fun e =>
        (propertyOf e).origin := by
  rw [filterMap_factsOf]
  simp only [(parts_factOf? skipped id _).1]
  rw [elementsInside, List.map_map, ← List.filterMap_eq_map, List.filterMap_filter]
  rfl

theorem ownedEnds_factsOf (skipped : List String) (id : String) (events : List Event) :
    (factsOf skipped events).filterMap (Fact.ownedEndOf? id) =
      (elementsInside .ownedEnd Vocabulary.associationType id events).map readId := by
  rw [filterMap_factsOf]
  simp only [(parts_factOf? skipped id _).2.1]
  rw [elementsInside, List.map_map, ← List.filterMap_eq_map, List.filterMap_filter]
  rfl

theorem memberEnds_factsOf (skipped : List String) (id : String) (events : List Event) :
    (factsOf skipped events).filterMap (Fact.memberEndOf? id) =
      (elementsInside .memberEnd Vocabulary.associationType id events).filterMap referredId? := by
  rw [filterMap_factsOf]
  simp only [(parts_factOf? skipped id _).2.2.1]
  rw [elementsInside, List.filterMap_map, List.filterMap_filter]
  rfl

theorem readings_factsOf (skipped : List String) (events : List Event) :
    (factsOf skipped events).filterMap Fact.reading? =
      (readElements events).map fun e => (readId e, (propertyOf e).origin) := by
  rw [filterMap_factsOf]
  simp only [(parts_factOf? skipped "" _).2.2.2]
  rw [readElements, List.map_map, ← List.filterMap_eq_map, List.filterMap_filter]
  rfl

theorem ids_factsOf {α : Type} {kind : String} {pick : Fact → Option (String × α)}
    {value : Occurrence → α}
    (picked : ∀ o, (factOf? skipped o).bind pick = (declaredId? kind o.element).map (·, value o)) :
    ((factsOf skipped events).filterMap pick).map (·.1) = declaredIds kind events := by
  rw [filterMap_factsOf, List.map_filterMap, declaredIds, ← Xml.element_occurrences,
    List.filterMap_map]
  simp only [picked, Option.map_map, Function.comp_def, Option.map_id']

theorem types_factsOf (skipped : List String) (events : List Event) :
    (factsOf skipped events).filterMap Fact.type? = (beginnings events).filterMap declaredType? := by
  rw [filterMap_factsOf, ← Xml.element_occurrences, List.filterMap_map]
  simp only [(entities_factOf? skipped _).2.2.2, Function.comp_def]

theorem declared_before {α : Type} {kind : String} {pick : Fact → Option (String × α)}
    {value : Occurrence → α}
    (picked : ∀ o, (factOf? skipped o).bind pick = (declaredId? kind o.element).map (·, value o))
    (h : openAfter events = some around) (split : factsOf skipped events = before ++ f :: later)
    (inside : ∀ o, factOf? skipped o = some f → innermostId? kind o.around = some id) :
    id ∈ (before.filterMap pick).map (·.1) := by
  obtain ⟨front, back, cut, rfl, rest⟩ := List.filterMap_eq_append_iff.mp split
  obtain ⟨silent, o, behind, cut', nothing, fact, -⟩ := List.filterMap_eq_cons_iff.mp rest
  obtain ⟨e, member, declared⟩ := declared_of_innermost (inside o fact)
  have cut : occurrences events = (front ++ silent) ++ o :: behind := by
    rw [cut, cut', List.append_assoc]
  obtain ⟨o', begun, rfl⟩ := Xml.begun_of_occurrence h cut member
  have entity : (factOf? skipped o').bind pick = some (id, value o') := by
    rw [picked, declared]
    rfl
  have front : o' ∈ front := by
    rcases List.mem_append.mp begun with front | silent
    · exact front
    · rw [nothing o' silent] at entity
      cases entity
  rw [List.filterMap_filterMap]
  exact List.mem_map.mpr ⟨_, List.mem_filterMap.mpr ⟨o', front, entity⟩, rfl⟩

/-! ### Entities with their parts -/

/-- An entity that is declared once: nothing in front of its declaration is a part of it, and it is
not declared behind. -/
theorem declared_once {α β : Type} {kind : String} {pick : Fact → Option (String × α)}
    {value : Occurrence → α} {a : α} (part : Fact → Option β)
    (picked : ∀ o, (factOf? skipped o).bind pick = (declaredId? kind o.element).map (·, value o))
    (inside : ∀ o g b, factOf? skipped o = some g → part g = some b →
      innermostId? kind o.around = some id)
    (h : openAfter events = some around) (nodup : (declaredIds kind events).Nodup)
    (split : factsOf skipped events = before ++ f :: later) (fact : pick f = some (id, a)) :
    (∀ g ∈ before, part g = none) ∧ ∀ g ∈ later, ∀ e ∈ pick g, e.1 ≠ id := by
  rw [← ids_factsOf picked, split, List.filterMap_append, List.filterMap_cons_some fact,
    List.map_append, List.map_cons, List.nodup_append, List.nodup_cons] at nodup
  obtain ⟨-, ⟨behind, -⟩, apart⟩ := nodup
  constructor
  · intro g member
    by_contra given
    obtain ⟨b, given⟩ := Option.ne_none_iff_exists'.mp given
    obtain ⟨front, back, rfl⟩ := List.append_of_mem member
    have front := declared_before picked h (split.trans (List.append_assoc _ _ _))
      fun o fact => inside o g b fact given
    refine apart id ?_ id List.mem_cons_self rfl
    rw [List.filterMap_append, List.map_append]
    exact List.mem_append_left _ front
  · rintro g member e entry rfl
    exact behind (List.mem_map.mpr ⟨e, List.mem_filterMap.mpr ⟨g, member, entry⟩, rfl⟩)

theorem declarations_extract (skipped : List String) (h : WellNested events) :
    (extract skipped events).declarations = .ofFacts (factsOf skipped events) :=
  (extract_declarations skipped events).trans (declarations_ofEvents h)

theorem innermost_of_isInside {c : Construct} {kind : String} (h : isInside c kind id o = true) :
    innermostId? kind o.around = some id := by
  rw [isInside, Bool.and_eq_true] at h
  exact eq_of_beq h.2

theorem innermost_of_part (fact : factOf? skipped o = some f) :
    ((f.memberOf? id).isSome → innermostId? Vocabulary.classType o.around = some id) ∧
      ((f.ownedEndOf? id).isSome → innermostId? Vocabulary.associationType o.around = some id) ∧
      ((f.memberEndOf? id).isSome → innermostId? Vocabulary.associationType o.around = some id) := by
  obtain ⟨member, ownedEnd, memberEnd, -⟩ := parts_factOf? skipped id o
  rw [fact, Option.bind_some] at member ownedEnd memberEnd
  rw [member, ownedEnd, memberEnd]
  refine ⟨fun some => ?_, fun some => ?_, fun some => ?_⟩ <;>
    split at some <;> first | exact innermost_of_isInside ‹_› | cases some

theorem declaration_extract {path : List String} {c : Uml.Class} (h : WellNested events)
    (found : (extract skipped events).classes.get? id = some c)
    (split : factsOf skipped events = before ++ .classAt id path :: later)
    (last : ∀ g ∈ later, ∀ e ∈ g.class?, e.1 ≠ id) : c.declaration = (path, membersOf id later) := by
  have same : (Declarations.ofFacts (before ++ .classAt id path :: later)).classes.get? id =
      some (path, membersOf id later) := Declarations.get?_class_ofFacts last
  rw [← split, ← declarations_extract skipped h, Model.declarations, Table.get?_map, found] at same
  exact Option.some.inj same

theorem members_extract (h : WellNested events)
    (nodup : (declaredIds Vocabulary.classType events).Nodup) {c : Uml.Class}
    (found : (extract skipped events).classes.get? id = some c) :
    c.members.map Uml.Member.held = membersOf id (factsOf skipped events) := by
  have known := declarations_extract skipped h
  have there : id ∈ ((factsOf skipped events).filterMap Fact.class?).map (·.1) := by
    rw [← List.mem_eraseDups, ← Model.keys_classes known]
    exact Table.mem_keys.mpr ⟨c, found⟩
  obtain ⟨⟨id, path⟩, member, rfl⟩ := List.mem_map.mp there
  obtain ⟨f, fact, classed⟩ := List.mem_filterMap.mp member
  obtain ⟨before, later, split⟩ := List.append_of_mem fact
  obtain ⟨first, last⟩ := declared_once (Fact.memberOf? id)
    (fun o => (entities_factOf? skipped o).2.1)
    (fun o g b fact given => (innermost_of_part fact).1 (by simp [given])) h nodup split classed
  cases f with
  | classAt id' path' =>
    cases classed
    rw [split, Uml.membersOf_append_of_none _ first]
    exact congrArg Prod.snd (declaration_extract h found split last)
  | _ => cases classed

theorem ends_extract (h : WellNested events)
    (nodup : (declaredIds Vocabulary.associationType events).Nodup) {a : Uml.Association}
    (found : (extract skipped events).associations.get? id = some a) :
    a.memberEndIds = (factsOf skipped events).filterMap (Fact.memberEndOf? id) ∧
      a.ownedEndIds = (factsOf skipped events).filterMap (Fact.ownedEndOf? id) := by
  have known := declarations_extract skipped h
  have there : id ∈ ((factsOf skipped events).filterMap Fact.association?).map (·.1) := by
    rw [← List.mem_eraseDups, ← Model.keys_associations known]
    exact Table.mem_keys.mpr ⟨a, found⟩
  obtain ⟨⟨id, _⟩, member, rfl⟩ := List.mem_map.mp there
  obtain ⟨f, fact, associated⟩ := List.mem_filterMap.mp member
  obtain ⟨before, later, split⟩ := List.append_of_mem fact
  have picked (o : Occurrence) := (entities_factOf? skipped o).2.2.1
  obtain ⟨noMember, last⟩ := declared_once (Fact.memberEndOf? id) picked
    (fun o g b fact given => (innermost_of_part fact).2.2 (by simp [given])) h nodup split associated
  obtain ⟨noOwned, -⟩ := declared_once (Fact.ownedEndOf? id) picked
    (fun o g b fact given => (innermost_of_part fact).2.1 (by simp [given])) h nodup split associated
  cases f with
  | association id' =>
    cases associated
    have held : a.declaration = (later.filterMap (Fact.memberEndOf? id),
        later.filterMap (Fact.ownedEndOf? id)) := by
      have same : (Declarations.ofFacts (before ++ .association id :: later)).associations.get? id =
          some (later.filterMap (Fact.memberEndOf? id), later.filterMap (Fact.ownedEndOf? id)) :=
        Declarations.get?_association_ofFacts last
      rw [← split, ← known, Model.declarations, Table.get?_map, found] at same
      exact Option.some.inj same
    have members := congrArg Prod.fst held
    have owned := congrArg Prod.snd held
    rw [split, List.filterMap_append, List.filterMap_append, List.filterMap_eq_nil_iff.mpr noMember,
      List.filterMap_eq_nil_iff.mpr noOwned]
    exact ⟨members, owned⟩
  | _ => cases associated

/-- A model has the entities that its document declares, each under the identifiers in the order in
which they are first declared, and an identifier stands for the property that is read last under it.
If no class and no association is declared twice, a class has one property for each attribute inside
its element, and an association the ends inside its element, all in document order. -/
theorem extract_captures (skipped : List String) (events : List Event) (h : WellNested events) :
    (extract skipped events).classes.keys =
      (declaredIds Vocabulary.classType events).eraseDups ∧
    (extract skipped events).associations.keys =
      (declaredIds Vocabulary.associationType events).eraseDups ∧
    (extract skipped events).packages.keys =
      (declaredIds Vocabulary.packageType events).eraseDups ∧
    (extract skipped events).types.keys =
      (((beginnings events).filterMap declaredType?).map (·.1)).eraseDups ∧
    (extract skipped events).properties.keys = ((readElements events).map readId).eraseDups ∧
    (∀ id, ((extract skipped events).properties.get? id).map (·.origin) =
      (((readElements events).filter fun e => readId e = id).getLast?).map fun e =>
        (propertyOf e).origin) ∧
    ((declaredIds Vocabulary.classType events).Nodup →
      (declaredIds Vocabulary.associationType events).Nodup →
      (∀ id c, (extract skipped events).classes.get? id = some c →
        c.members.map (fun member =>
            ((extract skipped events).property? member).map (·.origin)) =
          (elementsInside .ownedAttribute Vocabulary.classType id events).map fun e =>
            some (propertyOf e).origin) ∧
      ∀ id a, (extract skipped events).associations.get? id = some a →
        a.memberEndIds = (elementsInside .memberEnd Vocabulary.associationType id events).filterMap
            referredId? ∧
          a.ownedEndIds =
            (elementsInside .ownedEnd Vocabulary.associationType id events).map readId) := by
  have known := declarations_extract skipped h
  have properties : (extract skipped events).properties.map (fun _ p => p.origin) =
      .ofList ((readElements events).map fun e => (readId e, (propertyOf e).origin)) := by
    have same := congrArg Declarations.properties known
    rwa [Declarations.properties_ofFacts, readings_factsOf] at same
  refine ⟨?_, ?_, ?_, ?_, ?_, ?_, fun classes associations => ⟨?_, ?_⟩⟩
  · rw [Model.keys_classes known, ids_factsOf fun o => (entities_factOf? skipped o).2.1]
  · rw [Model.keys_associations known, ids_factsOf fun o => (entities_factOf? skipped o).2.2.1]
  · have packages : (extract skipped events).packages = _ :=
      (congrArg Declarations.packages known).trans (Declarations.packages_ofFacts _)
    rw [packages, Table.keys_ofList, ids_factsOf fun o => (entities_factOf? skipped o).1]
  · have types : (extract skipped events).types = _ :=
      (congrArg Declarations.types known).trans (Declarations.types_ofFacts _)
    rw [types, types_factsOf, Table.keys_ofList]
  · have keys := congrArg Table.keys properties
    rwa [Table.keys_map, Table.keys_ofList, List.map_map] at keys
  · intro id
    have value := congrArg (Table.get? · id) properties
    simp only [Table.get?_map, Table.get?_ofList, List.filter_map, List.getLast?_map,
      Option.map_map] at value
    exact value
  · intro id c found
    have held := members_extract h classes found
    have origins : (membersOf id (factsOf skipped events)).map
        (Declarations.ofFacts (factsOf skipped events)).origin? = _ :=
      Uml.origins_membersOf id fun k o last => (Declarations.get?_property_ofFacts _ k).trans last
    rw [← held, ← known, members_factsOf, List.map_map, List.map_map] at origins
    simpa only [Function.comp_def, Model.origin?_held] using origins
  · intro id a found
    obtain ⟨members, owned⟩ := ends_extract h associations found
    rw [members, owned, memberEnds_factsOf, ownedEnds_factsOf]
    exact ⟨rfl, rfl⟩

theorem captured_class_and_association :
    let cls : Element := ⟨⟨none, "packagedElement"⟩,
      [⟨Vocabulary.xmiType, Vocabulary.classType⟩, ⟨Vocabulary.xmiId, "C"⟩], []⟩
    let type : Element := ⟨⟨none, "packagedElement"⟩, [⟨Vocabulary.xmiType, "uml:DataType"⟩], []⟩
    let first : Element := ⟨⟨none, "ownedAttribute"⟩, [⟨Vocabulary.xmiId, "a"⟩], []⟩
    let second : Element := ⟨⟨none, "ownedAttribute"⟩, [], []⟩
    let association : Element := ⟨⟨none, "packagedElement"⟩,
      [⟨Vocabulary.xmiType, Vocabulary.associationType⟩, ⟨Vocabulary.xmiId, "A"⟩], []⟩
    let memberEnd : Element := ⟨⟨none, "memberEnd"⟩, [⟨Vocabulary.xmiIdref, "a"⟩], []⟩
    let ownedEnd : Element := ⟨⟨none, "ownedEnd"⟩, [⟨Vocabulary.xmiId, "e"⟩], []⟩
    let events := [Event.start cls, .start first, .finish first.name, .start type, .start second,
      .finish second.name, .finish type.name, .finish cls.name, .start association,
      .start memberEnd, .finish memberEnd.name, .start ownedEnd, .finish ownedEnd.name,
      .finish association.name]
    WellNested events ∧ (extract [] events).properties.keys = ["a", "unknown", "e"] ∧
      ((extract [] events).classes.get? "C").map (fun c => c.members.map fun member =>
        ((extract [] events).property? member).map (·.origin)) =
          some [some (propertyOf first).origin, some (propertyOf second).origin] ∧
      ((extract [] events).associations.get? "A").map (fun a => (a.memberEndIds, a.ownedEndIds)) =
        some (["a"], ["e"]) := by
  intro cls type first second association memberEnd ownedEnd events
  have nested : WellNested events := by decide
  obtain ⟨classes, associations, -, -, properties, -, parts⟩ := extract_captures [] events nested
  obtain ⟨members, ends⟩ := parts (by decide) (by decide)
  have c : "C" ∈ (extract [] events).classes.keys := by rw [classes]; decide
  have a : "A" ∈ (extract [] events).associations.keys := by rw [associations]; decide
  obtain ⟨c, hc⟩ := Table.mem_keys.mp c
  obtain ⟨a, ha⟩ := Table.mem_keys.mp a
  refine ⟨nested, properties.trans (by decide), ?_, ?_⟩
  · rw [hc, Option.map_some, members "C" c hc]
    rfl
  · obtain ⟨memberEnds, ownedEnds⟩ := ends "A" a ha
    rw [ha, Option.map_some, memberEnds, ownedEnds]
    decide

end UmlKotlin.Xmi
