import UmlKotlin.Proofs.Xmi.Packaging

/-!
What a document declares, element by element. Each element declares at most one fact, which depends
on the element and on what is open around it (`factOf?`). Main statement: at every point of
well-nested events the model declares the facts of the elements that have begun
(`declarations_ofEvents`).
-/

set_option autoImplicit false

namespace UmlKotlin.Xmi

open Extraction (propertyOf)
open Text (blank)
open Uml (Model Fact Declarations)
open Xml (Element Event Occurrence openAfter occurrences nesting_induction)

def packagedFact? (skipped : List String) (o : Occurrence) : Option Fact :=
  (givenId? o.element).bind fun id =>
    if kindOf o.element = Vocabulary.packageType then
      some (.packageAt id (pathAt skipped (o.element :: o.around)))
    else if kindOf o.element = Vocabulary.classType then
      some (.classAt id (pathAt skipped o.around))
    else if kindOf o.element = Vocabulary.associationType then some (.association id)
    else if Vocabulary.namedTypes.contains (kindOf o.element) then
      ((o.element.plain? "name").filter fun name => !blank (some name)).map (.typeNamed id)
    else none

/-- The identifier that an element refers to, unless it is blank. -/
def referredId? (e : Element) : Option String :=
  (e.get? Vocabulary.xmiIdref).filter fun id => !blank (some id)

def declaredType? (e : Element) : Option (String × String) :=
  if isPackaged e ∧ kindOf e ∈ Vocabulary.namedTypes then
    (givenId? e).bind fun id =>
      ((e.plain? "name").filter fun name => !blank (some name)).map (id, ·)
  else none

def factOf? (skipped : List String) (o : Occurrence) : Option Fact :=
  match constructOf? o.element with
  | some .packagedElement => packagedFact? skipped o
  | some .ownedAttribute => (innermostId? Vocabulary.classType o.around).map fun owner =>
      .member owner (propertyOf o.element).origin
  | some .ownedEnd => (innermostId? Vocabulary.associationType o.around).map fun owner =>
      .ownedEnd owner (propertyOf o.element).origin
  | some .memberEnd => (referredId? o.element).bind fun ref =>
      (innermostId? Vocabulary.associationType o.around).map fun owner => .memberEnd owner ref
  | _ => none

def factsOf (skipped : List String) (events : List Event) : List Fact :=
  (occurrences events).filterMap (factOf? skipped)

variable {skipped : List String} {events : List Event} {around : List Element} {x : Extraction}
  {e : Element} {o : Occurrence} {id : String}

/-! ### Facts of packaged elements -/

theorem declaredId?_eq_none {kind : String} (h : isPackaged e = false) :
    declaredId? kind e = none := by
  simp [declaredId?, isOfKind, h]

theorem declaredId?_of_packaged {kind : String} (h : isPackaged e = true) :
    declaredId? kind e = if kindOf e = kind then givenId? e else none := by
  simp [declaredId?, isOfKind, h]

theorem factOf?_packaged (h : isPackaged o.element = true) :
    factOf? skipped o = packagedFact? skipped o := by
  rw [factOf?, eq_of_beq h]

theorem bind_factOf?_other {α : Type} {pick : Fact → Option α}
    (member : ∀ owner origin, pick (.member owner origin) = none)
    (ownedEnd : ∀ owner origin, pick (.ownedEnd owner origin) = none)
    (memberEnd : ∀ owner ref, pick (.memberEnd owner ref) = none)
    (other : isPackaged o.element = false) : (factOf? skipped o).bind pick = none := by
  have other : constructOf? o.element ≠ some .packagedElement := ne_of_beq_false other
  unfold factOf?
  split
  · contradiction
  · cases innermostId? Vocabulary.classType o.around with
    | none => rfl
    | some owner => exact member _ _
  · cases innermostId? Vocabulary.associationType o.around with
    | none => rfl
    | some owner => exact ownedEnd _ _
  · cases referredId? o.element with
    | none => rfl
    | some ref =>
      cases innermostId? Vocabulary.associationType o.around with
      | none => rfl
      | some owner => exact memberEnd _ _
  · rfl

/-- All that a packaged element can declare: nothing without an identifier, or else what its kind
says. -/
theorem packagedFact?_cases (skipped : List String) (o : Occurrence) :
    (givenId? o.element = none ∧ packagedFact? skipped o = none) ∨
    ∃ id, givenId? o.element = some id ∧
      ((kindOf o.element = Vocabulary.packageType ∧ packagedFact? skipped o =
          some (.packageAt id (pathAt skipped (o.element :: o.around)))) ∨
        (kindOf o.element = Vocabulary.classType ∧ packagedFact? skipped o =
          some (.classAt id (pathAt skipped o.around))) ∨
        (kindOf o.element = Vocabulary.associationType ∧ packagedFact? skipped o =
          some (.association id)) ∨
        (kindOf o.element ∉ [Vocabulary.packageType, Vocabulary.classType,
            Vocabulary.associationType] ∧
          packagedFact? skipped o = if kindOf o.element ∈ Vocabulary.namedTypes then
            ((o.element.plain? "name").filter fun name => !blank (some name)).map (.typeNamed id)
            else none)) := by
  cases given : givenId? o.element with
  | none => exact .inl ⟨rfl, by rw [packagedFact?, given]; rfl⟩
  | some id =>
    refine .inr ⟨id, rfl, ?_⟩
    rw [packagedFact?, given, Option.bind_some]
    by_cases package : kindOf o.element = Vocabulary.packageType
    · exact .inl ⟨package, if_pos package⟩
    rw [if_neg package]
    by_cases cls : kindOf o.element = Vocabulary.classType
    · exact .inr (.inl ⟨cls, if_pos cls⟩)
    rw [if_neg cls]
    by_cases association : kindOf o.element = Vocabulary.associationType
    · exact .inr (.inr (.inl ⟨association, if_pos association⟩))
    rw [if_neg association]
    exact .inr (.inr (.inr ⟨by simp [package, cls, association], by simp⟩))

theorem entities_factOf? (skipped : List String) (o : Occurrence) :
    (factOf? skipped o).bind Fact.package? = (declaredId? Vocabulary.packageType o.element).map
        (·, pathAt skipped (o.element :: o.around)) ∧
      (factOf? skipped o).bind Fact.class? =
        (declaredId? Vocabulary.classType o.element).map (·, pathAt skipped o.around) ∧
      (factOf? skipped o).bind Fact.association? =
        (declaredId? Vocabulary.associationType o.element).map (·, ()) ∧
      (factOf? skipped o).bind Fact.type? = declaredType? o.element := by
  cases packaged : isPackaged o.element with
  | false =>
    rw [declaredType?, if_neg (by simp [packaged])]
    simp only [declaredId?_eq_none packaged]
    refine ⟨?_, ?_, ?_, ?_⟩ <;>
      exact bind_factOf?_other (fun _ _ => rfl) (fun _ _ => rfl) (fun _ _ => rfl) packaged
  | true =>
    simp only [factOf?_packaged packaged, declaredId?_of_packaged packaged, declaredType?, packaged,
      true_and]
    rcases packagedFact?_cases skipped o with
      ⟨given, fact⟩ | ⟨id, given, ⟨kind, fact⟩ | ⟨kind, fact⟩ | ⟨kind, fact⟩ | ⟨kind, fact⟩⟩
    · simp [given, fact]
    · simp [kind, given, fact, Fact.package?, Fact.class?, Fact.association?, Fact.type?,
        Vocabulary.packageType, Vocabulary.classType, Vocabulary.associationType,
        Vocabulary.namedTypes]
    · simp [kind, given, fact, Fact.package?, Fact.class?, Fact.association?, Fact.type?,
        Vocabulary.packageType, Vocabulary.classType, Vocabulary.associationType,
        Vocabulary.namedTypes]
    · simp [kind, given, fact, Fact.package?, Fact.class?, Fact.association?, Fact.type?,
        Vocabulary.packageType, Vocabulary.classType, Vocabulary.associationType,
        Vocabulary.namedTypes]
    · simp only [List.mem_cons, List.not_mem_nil, or_false, not_or] at kind
      rw [if_neg kind.1, if_neg kind.2.1, if_neg kind.2.2, fact]
      split
      · cases (o.element.plain? "name").filter _ <;>
          simp [given, Fact.package?, Fact.class?, Fact.association?, Fact.type?]
      · simp

/-! ### Facts as they are declared -/

namespace Extraction

theorem declarations_startPackagedElement (h : x.openings = openingsAt skipped around)
    (packaged : isPackaged e = true) :
    (x.startPackagedElement e).model.declarations = (packagedFact? skipped ⟨e, around⟩).elim
      x.model.declarations x.model.declarations.record := by
  have outside : x.packagePath = pathAt skipped around := packagePath_eq h
  rcases packagedFact?_cases skipped ⟨e, around⟩ with
    ⟨given, fact⟩ | ⟨id, given, ⟨kind, fact⟩ | ⟨kind, fact⟩ | ⟨kind, fact⟩ | ⟨kind, fact⟩⟩
  · rw [fact, startPackagedElement]
    rw [givenId?] at given
    simp only [given]
    rfl
  · have package : opensPackage e = true := by
      rw [opensPackage_eq packaged, given, kind]
      rfl
    have inside := pathInside_eq h package
    rw [givenId?] at given
    rw [kindOf] at kind
    rw [fact, startPackagedElement]
    simp only [given, kind, inside]
    rfl
  · rw [givenId?] at given
    rw [kindOf] at kind
    rw [fact, startPackagedElement]
    simp only [given, kind, outside]
    exact Model.declarations_putClass _ _
  · rw [givenId?] at given
    rw [kindOf] at kind
    rw [fact, startPackagedElement]
    simp only [given, kind]
    exact Model.declarations_putAssociation _ _
  · rw [givenId?] at given
    simp only [List.mem_cons, List.not_mem_nil, or_false, not_or] at kind
    rw [kindOf] at kind
    rw [fact, startPackagedElement]
    simp only [given, kind, reduceIte]
    by_cases typed : (e.get? Vocabulary.xmiType).getD "" ∈ Vocabulary.namedTypes
    · cases e.plain? "name" with
      | none => simp [kindOf, typed, blank]
      | some name =>
        by_cases silent : blank (some name) = true
        · simp [kindOf, typed, silent, Option.filter]
        · simp [kindOf, typed, silent, Option.filter]
          rfl
    · simp [kindOf, typed]

theorem filter_innermost {α : Type} {kind : String} {t : Table String α}
    (h : x.openings = openingsAt skipped around)
    (known : ∀ id ∈ innermostId? kind around, id ∈ t.keys) :
    (x.innermost kind).filter t.contains = innermostId? kind around := by
  rw [innermost_eq h]
  cases found : innermostId? kind around with
  | none => rfl
  | some id => exact Option.filter_some_pos (by simpa [Table.contains] using known id found)

theorem declarations_startOwnedAttribute (x : Extraction) (e : Element) :
    (x.startOwnedAttribute e).model.declarations =
      (x.currentClass.map fun owner => Fact.member owner (propertyOf e).origin).elim
        x.model.declarations x.model.declarations.record := by
  rw [startOwnedAttribute]
  cases x.currentClass with
  | none => rfl
  | some owner =>
    have added := Model.declarations_modifyClass_comm (x.model.putProperty (propertyOf e)) owner
      (f := fun c => { c with members := c.members ++ [.listed (propertyOf e).id] })
      (g := fun c => (c.1, c.2 ++ [.listed (propertyOf e).id]))
      (by simp [Uml.Class.declaration, Uml.Member.held])
    rw [Model.declarations_putProperty] at added
    exact added

theorem declarations_startOwnedEnd (x : Extraction) (e : Element) :
    (x.startOwnedEnd e).model.declarations =
      (x.currentAssociation.map fun owner => Fact.ownedEnd owner (propertyOf e).origin).elim
        x.model.declarations x.model.declarations.record := by
  rw [startOwnedEnd]
  cases x.currentAssociation with
  | none => rfl
  | some owner =>
    have added := Model.declarations_modifyAssociation_comm
      (x.model.putProperty (propertyOf e)) owner
      (f := fun a => { a with ownedEndIds := a.ownedEndIds ++ [(propertyOf e).id] })
      (g := fun a => (a.1, a.2 ++ [(propertyOf e).id])) (fun _ => rfl)
    rw [Model.declarations_putProperty] at added
    exact added

theorem declarations_startMemberEnd (x : Extraction) (e : Element) :
    (x.startMemberEnd e).model.declarations = ((referredId? e).bind fun ref =>
        x.currentAssociation.map fun owner => Fact.memberEnd owner ref).elim
      x.model.declarations x.model.declarations.record := by
  rw [startMemberEnd, referredId?]
  cases e.get? Vocabulary.xmiIdref with
  | none => rfl
  | some ref =>
    dsimp only
    by_cases silent : blank (some ref) = true
    · rw [if_pos silent, Option.filter_some_neg (by simp [silent])]
      rfl
    · rw [if_neg silent, Option.filter_some_pos (by simpa using silent), Option.bind_some]
      cases x.currentAssociation with
      | none => rfl
      | some owner =>
        exact Model.declarations_modifyAssociation_comm x.model owner
          (f := fun a => { a with memberEndIds := a.memberEndIds ++ [ref] })
          (g := fun a => (a.1 ++ [ref], a.2)) (fun _ => rfl)

theorem declarations_step_start (h : x.openings = openingsAt skipped around)
    (classes : ∀ id ∈ innermostId? Vocabulary.classType around, id ∈ x.model.classes.keys)
    (associations : ∀ id ∈ innermostId? Vocabulary.associationType around,
      id ∈ x.model.associations.keys) :
    (x.step (.start e)).model.declarations = (factOf? skipped ⟨e, around⟩).elim
      x.model.declarations x.model.declarations.record := by
  have owner : x.currentClass = innermostId? Vocabulary.classType around :=
    filter_innermost h classes
  have association : x.currentAssociation = innermostId? Vocabulary.associationType around :=
    filter_innermost h associations
  cases construct : constructOf? e with
  | none =>
    simp only [factOf?, construct]
    exact (step_start_annotates (by simp [construct])).declarations
  | some c =>
    rw [step_start_eq construct]
    simp only [factOf?, construct]
    cases c with
    | packagedElement => exact declarations_startPackagedElement h (by simp [isPackaged, construct])
    | ownedAttribute => exact owner ▸ declarations_startOwnedAttribute x e
    | ownedEnd => exact association ▸ declarations_startOwnedEnd x e
    | memberEnd => exact association ▸ declarations_startMemberEnd x e
    | _ => exact (begin_annotates x e (by decide)).declarations

end Extraction

/-! ### Facts of all elements -/

theorem filterMap_factsOf {α : Type} (pick : Fact → Option α) :
    (factsOf skipped events).filterMap pick =
      (occurrences events).filterMap fun o => (factOf? skipped o).bind pick :=
  List.filterMap_filterMap

theorem declared_of_innermost {kind : String} (h : innermostId? kind around = some id) :
    ∃ e ∈ around, declaredId? kind e = some id := by
  obtain ⟨e, found, given⟩ := Option.bind_eq_some_iff.mp h
  have ofKind := List.find?_some found
  exact ⟨e, List.mem_of_find?_eq_some found, by rw [declaredId?, if_pos ofKind, given]⟩

theorem declared_of_open {α : Type} {kind : String} {pick : Fact → Option (String × α)}
    {value : Occurrence → α} (h : openAfter events = some around)
    (picked : ∀ o, (factOf? skipped o).bind pick = (declaredId? kind o.element).map (·, value o))
    (opened : innermostId? kind around = some id) :
    id ∈ (((factsOf skipped events).filterMap pick).map (·.1)).eraseDups := by
  obtain ⟨e, member, declared⟩ := declared_of_innermost opened
  obtain ⟨o, begun, rfl⟩ := Xml.begun_of_open h e member
  rw [List.mem_eraseDups, filterMap_factsOf]
  refine List.mem_map.mpr ⟨(id, value o), List.mem_filterMap.mpr ⟨o, begun, ?_⟩, rfl⟩
  rw [picked, declared]
  rfl

theorem declarations_ofEvents (h : openAfter events = some around) :
    (Extraction.ofEvents skipped events).model.declarations = .ofFacts (factsOf skipped events) := by
  refine nesting_induction (motive := fun events _ =>
    (Extraction.ofEvents skipped events).model.declarations =
      .ofFacts (factsOf skipped events)) ?_ ?_ ?_ h
  · rfl
  · intro pre around e before ih
    have more : factsOf skipped (pre ++ [.start e]) =
        factsOf skipped pre ++ (factOf? skipped ⟨e, around⟩).toList := by
      rw [factsOf, Xml.occurrences_append_start before]
      simp [factsOf, List.filterMap_eq_flatMap_toList]
    rw [Extraction.ofEvents_concat,
      Extraction.declarations_step_start (Extraction.openings_ofEvents before), more, ih]
    · cases factOf? skipped ⟨e, around⟩ with
      | none => simp
      | some f => exact (Declarations.ofFacts_append_singleton _ f).symm
    · intro id opened
      rw [Model.keys_classes ih]
      exact declared_of_open before (fun o => (entities_factOf? skipped o).2.1) opened
    · intro id opened
      rw [Model.keys_associations ih]
      exact declared_of_open before (fun o => (entities_factOf? skipped o).2.2.1) opened
  · intro pre e outer before ih
    have same : factsOf skipped (pre ++ [.finish e.name]) = factsOf skipped pre := by
      rw [factsOf, Xml.occurrences_append_finish before]
      rfl
    rw [Extraction.ofEvents_concat, same, ← ih, Extraction.model_step_finish]

theorem extract_declarations (skipped : List String) (events : List Event) :
    (extract skipped events).declarations =
      (Extraction.ofEvents skipped events).model.declarations :=
  Extraction.declarations_complete _

end UmlKotlin.Xmi
