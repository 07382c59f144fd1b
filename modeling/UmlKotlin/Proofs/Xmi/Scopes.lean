import UmlKotlin.Proofs.Uml.Change
import UmlKotlin.Proofs.Xmi.Containers
import UmlKotlin.Proofs.Xmi.Reading

/-!
Where the state of the extension section stands, told from the open elements. Main statements: at
every point of well-nested events the open scopes are those of the open connector, element and
attribute constructs (`scopes_ofEvents`), and what is referred to and read is what is innermost
(`situated_ofEvents`); a side of a connector that is remembered is open inside that connector
(`isSideOpen_of_connectorSide`); and a property that is being declared is the one that was read last,
from an element that is still open (`isReadingOpen_of_currentProperty`).
-/

set_option autoImplicit false

namespace UmlKotlin.Xmi

open Extraction (propertyOf ofEvents ofEvents_concat)
open Text (blank)
open Uml (Entity Model)
open Xml (Element Event Occurrence openAfter occurrences nesting_induction)

def Construct.scopeKind? : Construct → Option ScopeKind
  | .connector => some .connector
  | .element => some .element
  | .attribute => some .attribute
  | _ => none

def scopeKind? (e : Element) : Option ScopeKind := (constructOf? e).bind Construct.scopeKind?

/-- The innermost open connector, element or attribute construct, with its kind. -/
def innermostScope? (around : List Element) : Option (ScopeKind × Element) :=
  around.findSome? fun e => (scopeKind? e).map (·, e)

def scopedId? (kind : ScopeKind) (around : List Element) : Option String :=
  ((innermostScope? around).filter fun scope => scope.1 = kind).bind fun scope =>
    referredId? scope.2

/-- The entity of a model that the innermost scope names: a connector names an association, an
element a class and an attribute a property. -/
def namedEntity? (m : Model) (around : List Element) : Option Entity :=
  (innermostScope? around).bind fun (kind, e) => (referredId? e).bind fun id =>
    match kind with
    | .connector => if m.associations.contains id then some (.association id) else none
    | .element => if m.classes.contains id then some (.cls id) else none
    | .attribute => if m.properties.contains id then some (.property id) else none
    | .none => none

def Side.construct : Side → Construct
  | .source => .source
  | .target => .target

def isSideOpen (side : Side) (around : List Element) : Bool :=
  (around.takeWhile fun e => (scopeKind? e).isNone).any fun e =>
    constructOf? e == some side.construct

def isOwned (e : Element) : Bool :=
  constructOf? e == some .ownedAttribute || constructOf? e == some .ownedEnd

def lastReading? (events : List Event) : Option Occurrence :=
  ((occurrences events).filter isRead).getLast?

def isStillOpen (o : Occurrence) (around : List Element) : Prop :=
  o.element :: o.around <:+ around

variable {skipped : List String} {events : List Event} {around : List Element} {x y : Extraction}
  {e : Element}

namespace Extraction

/-- One extraction comes from another without a change of what the open elements have set up. -/
structure Continues (x y : Extraction) : Prop where
  scopes : y.scopes.scopes = x.scopes.scopes
  connectorSide : y.connectorSide = x.connectorSide
  currentProperty : y.currentProperty = x.currentProperty
  comment : y.comment = x.comment
  pendingComments : y.pendingComments = x.pendingComments

namespace Continues

variable {id : Option String}

theorem self : Continues x x := ⟨rfl, rfl, rfl, rfl, rfl⟩

theorem modifyClass {f : Uml.Class → Uml.Class} (h : Continues x y) :
    Continues x (y.modifyClass id f) := by
  cases id with
  | none => exact h
  | some id => exact ⟨h.1, h.2, h.3, h.4, h.5⟩

theorem modifyProperty {f : Uml.Property → Uml.Property} (h : Continues x y) :
    Continues x (y.modifyProperty id f) := by
  cases id with
  | none => exact h
  | some id => exact ⟨h.1, h.2, h.3, h.4, h.5⟩

theorem modifyAssociation {f : Uml.Association → Uml.Association} (h : Continues x y) :
    Continues x (y.modifyAssociation id f) := by
  cases id with
  | none => exact h
  | some id => exact ⟨h.1, h.2, h.3, h.4, h.5⟩

end Continues

theorem continues_startPackagedElement (x : Extraction) (e : Element) :
    Continues x (x.startPackagedElement e) := by
  unfold startPackagedElement
  dsimp only
  split
  · exact ⟨rfl, rfl, rfl, rfl, rfl⟩
  · split
    · exact ⟨rfl, rfl, rfl, rfl, rfl⟩
    · split
      · exact ⟨rfl, rfl, rfl, rfl, rfl⟩
      · split
        · exact ⟨rfl, rfl, rfl, rfl, rfl⟩
        · split <;> exact ⟨rfl, rfl, rfl, rfl, rfl⟩

theorem continues_startMemberEnd (x : Extraction) (e : Element) :
    Continues x (x.startMemberEnd e) := by
  unfold startMemberEnd
  split
  · exact .self
  · split
    · exact .self
    · exact Continues.self.modifyAssociation

theorem continues_startRole (x : Extraction) (e : Element) : Continues x (x.startRole e) := by
  unfold startRole
  split
  · exact Continues.self.modifyAssociation
  · exact Continues.self.modifyAssociation
  · exact .self

theorem continues_startTag (x : Extraction) (e : Element) : Continues x (x.startTag e) := by
  unfold startTag
  split
  · exact Continues.self.modifyAssociation.modifyClass.modifyProperty
  · exact .self

theorem continues_startProperties (x : Extraction) (e : Element) :
    Continues x (x.startProperties e) := by
  unfold startProperties
  split
  · split
    · exact .modifyAssociation ⟨rfl, rfl, rfl, rfl, rfl⟩
    · exact .self
  · exact Continues.self.modifyProperty
  · exact Continues.self.modifyClass
  · exact .self

theorem continues_startDocumentation (x : Extraction) (e : Element) :
    Continues x (x.startDocumentation e) := by
  unfold startDocumentation
  split
  · exact Continues.self.modifyProperty
  · split
    · exact Continues.self.modifyAssociation
    · exact Continues.self.modifyAssociation
    · exact .self

theorem continues_startStereotype (x : Extraction) (e : Element) :
    Continues x (x.startStereotype e) := by
  unfold startStereotype
  split
  · exact .self
  · split
    · exact .self
    · exact Continues.self.modifyProperty

def lasting : List Construct := [.ownedAttribute, .ownedEnd, .ownedComment, .annotatedElement,
  .connector, .source, .target, .element, .attribute]

theorem begin_continues {c : Construct} (x : Extraction) (e : Element) (other : c ∉ lasting) :
    Continues x (x.begin c e) := by
  cases c with
  | packagedElement => exact continues_startPackagedElement x e
  | memberEnd => exact continues_startMemberEnd x e
  | type | lowerValue | upperValue | bounds => exact Continues.self.modifyProperty
  | generalization | project | extendedProperties => exact Continues.self.modifyClass
  | role => exact continues_startRole x e
  | tag => exact continues_startTag x e
  | tags => exact ⟨rfl, rfl, rfl, rfl, rfl⟩
  | properties => exact continues_startProperties x e
  | documentation => exact continues_startDocumentation x e
  | stereotype => exact continues_startStereotype x e
  | _ => simp [lasting] at other

theorem finish_continues {c : Construct} (x : Extraction) (other : c ∉ lasting) :
    Continues x (x.finish c) := by
  cases c with
  | packagedElement =>
    simp only [finish, finishPackagedElement]
    split <;> exact ⟨rfl, rfl, rfl, rfl, rfl⟩
  | tags => exact ⟨rfl, rfl, rfl, rfl, rfl⟩
  | type | lowerValue | upperValue | bounds | memberEnd | generalization | project
  | extendedProperties | role | tag | properties | documentation | stereotype => exact .self
  | _ => simp [lasting] at other

theorem step_start_continues (other : ∀ c ∈ constructOf? e, c ∉ lasting) :
    Continues x (x.step (.start e)) := by
  cases construct : constructOf? e with
  | some c =>
    rw [step_start_eq construct]
    exact begin_continues x e (other c construct)
  | none =>
    rw [constructOf?] at construct
    simp only [step, construct]
    split
    · exact Continues.self.modifyClass.modifyProperty
    · exact .self

theorem step_finish_continues (other : ∀ c ∈ constructOf? e, c ∉ lasting) :
    Continues x (x.step (.finish e.name)) := by
  cases construct : constructOf? e with
  | some c =>
    rw [step_finish_eq construct]
    exact finish_continues x (other c construct)
  | none =>
    rw [constructOf?] at construct
    simp only [step, construct]
    exact .self

theorem continues_startOwnedAttribute (x : Extraction) (e : Element) :
    Continues x { x.startOwnedAttribute e with currentProperty := x.currentProperty } := by
  unfold startOwnedAttribute
  split <;> exact ⟨rfl, rfl, rfl, rfl, rfl⟩

theorem continues_startOwnedEnd (x : Extraction) (e : Element) :
    Continues x { x.startOwnedEnd e with currentProperty := x.currentProperty } := by
  unfold startOwnedEnd
  split <;> exact ⟨rfl, rfl, rfl, rfl, rfl⟩

/-! ### Open scopes -/

def scopeOf? (e : Element) : Option Scope :=
  (scopeKind? e).map fun kind => Scope.opening kind (e.get? Vocabulary.xmiIdref)

theorem scopes_step_start (x : Extraction) (e : Element) :
    (x.step (.start e)).scopes.scopes = (scopeOf? e).toList ++ x.scopes.scopes := by
  cases construct : constructOf? e with
  | none =>
    rw [(step_start_continues (by simp [construct])).scopes]
    simp [scopeOf?, scopeKind?, construct]
  | some c =>
    rw [step_start_eq construct]
    simp only [scopeOf?, scopeKind?, construct, Option.bind_some]
    cases c with
    | connector | element | «attribute» => rfl
    | ownedAttribute => exact (continues_startOwnedAttribute x e).scopes
    | ownedEnd => exact (continues_startOwnedEnd x e).scopes
    | ownedComment | annotatedElement => rfl
    | source | target =>
      simp only [begin, startSide]
      split <;> rfl
    | _ => exact (begin_continues x e (by decide)).scopes

theorem scopes_step_finish (x : Extraction) (e : Element) :
    (x.step (.finish e.name)).scopes.scopes =
      if (scopeKind? e).isSome then x.scopes.scopes.tail else x.scopes.scopes := by
  cases construct : constructOf? e with
  | none =>
    rw [(step_finish_continues (by simp [construct])).scopes]
    simp [scopeKind?, construct]
  | some c =>
    rw [step_finish_eq construct]
    simp only [scopeKind?, construct, Option.bind_some]
    cases c with
    | connector | element | «attribute» => exact x.scopes.scopes_pop
    | ownedComment =>
      obtain ⟨waiting, eq⟩ := x.finishOwnedComment_eq
      rw [finish, eq]
      rfl
    | ownedAttribute | ownedEnd | annotatedElement | source | target => rfl
    | _ => exact (finish_continues x (by decide)).scopes

theorem scopes_ofEvents (h : openAfter events = some around) :
    (ofEvents skipped events).scopes.scopes = around.filterMap scopeOf? := by
  refine nesting_induction (motive := fun events around =>
    (ofEvents skipped events).scopes.scopes = around.filterMap scopeOf?) ?_ ?_ ?_ h
  · rfl
  · intro pre around e _ before
    rw [ofEvents_concat, scopes_step_start, before, List.filterMap_cons]
    cases scopeOf? e <;> rfl
  · intro pre e outer _ before
    rw [ofEvents_concat, scopes_step_finish, before, List.filterMap_cons, scopeOf?]
    cases scopeKind? e <;> rfl

theorem current_ofEvents (h : openAfter events = some around) :
    (ofEvents skipped events).scopes.current = ((innermostScope? around).map fun scope =>
      Scope.opening scope.1 (scope.2.get? Vocabulary.xmiIdref)).getD Scope.inert := by
  have opened : scopeOf? = fun e => ((scopeKind? e).map (·, e)).map fun scope =>
      Scope.opening scope.1 (scope.2.get? Vocabulary.xmiIdref) := by
    funext e
    rw [scopeOf?, Option.map_map]
    rfl
  rw [ScopeStack.current, scopes_ofEvents h, List.head?_filterMap, innermostScope?,
    List.map_findSome?, opened]
  rfl

theorem refOf?_opening (kind other : ScopeKind) (ref : Option String) :
    (Scope.opening kind ref).refOf? other =
      if kind = other then ref.filter fun id => !blank (some id) else none := by
  cases ref with
  | none => simp [Scope.opening, Scope.inert, Scope.refOf?, blank]
  | some id =>
    by_cases silent : blank (some id) = true
    · simp [Scope.opening, Scope.inert, Scope.refOf?, silent, Option.filter]
    · simp [Scope.opening, Scope.refOf?, silent, Option.filter]

theorem refOf?_ofEvents (h : openAfter events = some around) (kind : ScopeKind) :
    (ofEvents skipped events).scopes.current.refOf? kind = scopedId? kind around := by
  rw [current_ofEvents h, scopedId?]
  cases innermostScope? around with
  | none => exact ite_self _
  | some scope =>
    rw [Option.map_some, Option.getD_some, refOf?_opening]
    by_cases same : scope.1 = kind
    · simp [same, Option.filter, referredId?]
    · simp [same, Option.filter]

/-! ### Sides of connectors -/

/-- What a remembered side says about the open elements: one of that side is open, and no connector
inside it. -/
def SideMark (side : Side) (around : List Element) : Prop :=
  ∃ inner e outer, around = inner ++ e :: outer ∧ constructOf? e = some side.construct ∧
    ∀ e ∈ inner, constructOf? e ≠ some .connector

theorem connectorSide_step_start (x : Extraction) (e : Element) :
    (x.step (.start e)).connectorSide = none ∨
    (∃ side : Side, (x.step (.start e)).connectorSide = some side ∧
      constructOf? e = some side.construct) ∨
    ((x.step (.start e)).connectorSide = x.connectorSide ∧ constructOf? e ≠ some .connector) := by
  cases construct : constructOf? e with
  | none => exact .inr (.inr ⟨(step_start_continues (by simp [construct])).connectorSide, by simp⟩)
  | some c =>
    rw [step_start_eq construct]
    cases c with
    | connector => exact .inl rfl
    | source =>
      simp only [begin, startSide]
      split
      · exact .inr (.inl ⟨.source, rfl, rfl⟩)
      · exact .inr (.inr ⟨rfl, by simp⟩)
    | target =>
      simp only [begin, startSide]
      split
      · exact .inr (.inl ⟨.target, rfl, rfl⟩)
      · exact .inr (.inr ⟨rfl, by simp⟩)
    | ownedAttribute => exact .inr (.inr ⟨(continues_startOwnedAttribute x e).connectorSide, by simp⟩)
    | ownedEnd => exact .inr (.inr ⟨(continues_startOwnedEnd x e).connectorSide, by simp⟩)
    | element | «attribute» | ownedComment | annotatedElement => exact .inr (.inr ⟨rfl, by simp⟩)
    | _ => exact .inr (.inr ⟨(begin_continues x e (by decide)).connectorSide, by simp⟩)

theorem connectorSide_step_finish (x : Extraction) (e : Element) :
    (x.step (.finish e.name)).connectorSide = none ∨
    ((x.step (.finish e.name)).connectorSide = x.connectorSide ∧
      ∀ side : Side, constructOf? e ≠ some side.construct) := by
  cases construct : constructOf? e with
  | none =>
    exact .inr ⟨(step_finish_continues (by simp [construct])).connectorSide, by simp⟩
  | some c =>
    rw [step_finish_eq construct]
    cases c with
    | connector | source | target => exact .inl rfl
    | ownedComment =>
      refine .inr ⟨?_, by rintro ⟨⟩ <;> simp [Side.construct]⟩
      obtain ⟨waiting, eq⟩ := x.finishOwnedComment_eq
      rw [finish, eq]
    | ownedAttribute | ownedEnd | annotatedElement | element | «attribute» =>
      exact .inr ⟨rfl, by rintro ⟨⟩ <;> simp [Side.construct]⟩
    | _ =>
      exact .inr ⟨(finish_continues x (by decide)).connectorSide,
        by rintro ⟨⟩ <;> simp [Side.construct]⟩

theorem sideMark_ofEvents (h : openAfter events = some around) :
    ∀ side ∈ (ofEvents skipped events).connectorSide, SideMark side around := by
  refine nesting_induction (motive := fun events around =>
    ∀ side ∈ (ofEvents skipped events).connectorSide, SideMark side around) ?_ ?_ ?_ h
  · rintro side ⟨⟩
  · intro pre around e _ before side remembered
    rw [ofEvents_concat] at remembered
    rcases connectorSide_step_start (ofEvents skipped pre) e with
      none | ⟨side', set, construct⟩ | ⟨same, noConnector⟩
    · rw [none] at remembered
      cases remembered
    · rw [set] at remembered
      cases remembered
      exact ⟨[], e, around, rfl, construct, by simp⟩
    · obtain ⟨inner, s, outer, rfl, construct, clear⟩ := before side (same ▸ remembered)
      exact ⟨e :: inner, s, outer, rfl, construct, by simpa using ⟨noConnector, clear⟩⟩
  · intro pre e outer _ before side remembered
    rw [ofEvents_concat] at remembered
    rcases connectorSide_step_finish (ofEvents skipped pre) e with none | ⟨same, noSide⟩
    · rw [none] at remembered
      cases remembered
    · obtain ⟨inner, s, rest, split, construct, clear⟩ := before side (same ▸ remembered)
      cases inner with
      | nil =>
        -- the side itself would end here
        cases split
        exact absurd construct (noSide side)
      | cons e' inner =>
        cases split
        exact ⟨inner, s, rest, rfl, construct, fun e he => clear e (List.mem_cons_of_mem _ he)⟩

theorem isSideOpen_of_connectorSide (h : openAfter events = some around) {side : Side}
    (remembered : (ofEvents skipped events).connectorSide = some side) {c : Element}
    (innermost : innermostScope? around = some (.connector, c)) : isSideOpen side around = true := by
  obtain ⟨front, c', back, rfl, kind, clear⟩ := List.findSome?_eq_some_iff.mp innermost
  simp only [Option.map_eq_some_iff, Prod.mk.injEq, Option.map_eq_none_iff] at kind clear
  obtain ⟨_, kind, rfl, rfl⟩ := kind
  obtain ⟨inner, s, outer, split, construct, noConnector⟩ := sideMark_ofEvents h side remembered
  have noScope : scopeKind? s = none := by
    cases side <;> simp [scopeKind?, construct, Side.construct, Construct.scopeKind?]
  have connector : constructOf? c' = some .connector := by
    obtain ⟨construct, same, ofKind⟩ := Option.bind_eq_some_iff.mp kind
    cases construct <;> simp_all [Construct.scopeKind?]
  have member : s ∈ front := by
    rcases List.append_eq_append_iff.mp split with ⟨between, rfl, tail⟩ | ⟨between, rfl, tail⟩
    · -- the connector would be inside the side
      exfalso
      cases between with
      | nil =>
        cases tail
        simp [noScope] at kind
      | cons e between =>
        cases tail
        exact noConnector c' (by simp) connector
    · cases between with
      | nil =>
        cases tail
        simp [noScope] at kind
      | cons e between =>
        cases tail
        simp
  rw [isSideOpen, List.takeWhile_append_of_pos fun e he => by simp [clear e he],
    List.takeWhile_cons_of_neg (by simp [kind]), List.append_nil, List.any_eq_true]
  exact ⟨s, member, by simp [construct]⟩

/-! ### The property that is being declared -/

/-- The state fits the open elements: what it refers to is what the innermost scope does, and what it
reads are the innermost class and the innermost association. -/
structure Situated (x : Extraction) (around : List Element) : Prop where
  scope (kind : ScopeKind) : x.scopes.current.refOf? kind = scopedId? kind around
  cls : x.currentClass = innermostId? Vocabulary.classType around
  association : x.currentAssociation = innermostId? Vocabulary.associationType around

theorem situated_ofEvents (h : openAfter events = some around) :
    (ofEvents skipped events).Situated around where
  scope := refOf?_ofEvents h
  cls := by
    refine filter_innermost (openings_ofEvents h) fun id opened => ?_
    rw [Model.keys_classes (declarations_ofEvents h)]
    exact declared_of_open h (fun o => (entities_factOf? skipped o).2.1) opened
  association := by
    refine filter_innermost (openings_ofEvents h) fun id opened => ?_
    rw [Model.keys_associations (declarations_ofEvents h)]
    exact declared_of_open h (fun o => (entities_factOf? skipped o).2.2.1) opened

theorem id_propertyOf (e : Element) : (propertyOf e).id = readId e := id_origin_propertyOf e

theorem currentProperty_step_start (situated : x.Situated around) :
    (x.step (.start e)).currentProperty =
      if isRead ⟨e, around⟩ then some (readId e) else x.currentProperty := by
  cases construct : constructOf? e with
  | none =>
    rw [(step_start_continues (by simp [construct])).currentProperty]
    simp [isRead, construct]
  | some c =>
    rw [step_start_eq construct]
    simp only [isRead, construct]
    cases c with
    | ownedAttribute =>
      rw [← situated.cls, begin, startOwnedAttribute]
      cases x.currentClass with
      | none => rfl
      | some owner => exact congrArg some (id_propertyOf e)
    | ownedEnd =>
      rw [← situated.association, begin, startOwnedEnd]
      cases x.currentAssociation with
      | none => rfl
      | some owner => exact congrArg some (id_propertyOf e)
    | source | target =>
      simp only [begin, startSide]
      split <;> rfl
    | ownedComment | annotatedElement | connector | element | «attribute» => rfl
    | _ => exact (begin_continues x e (by decide)).currentProperty

theorem currentProperty_step_finish (x : Extraction) (e : Element) :
    (x.step (.finish e.name)).currentProperty = if isOwned e then none else x.currentProperty := by
  cases construct : constructOf? e with
  | none =>
    rw [(step_finish_continues (by simp [construct])).currentProperty]
    simp [isOwned, construct]
  | some c =>
    rw [step_finish_eq construct]
    simp only [isOwned, construct]
    cases c with
    | ownedComment =>
      obtain ⟨waiting, eq⟩ := x.finishOwnedComment_eq
      rw [finish, eq]
      rfl
    | ownedAttribute | ownedEnd | annotatedElement | connector | source | target | element
    | «attribute» => rfl
    | _ => exact (finish_continues x (by decide)).currentProperty

end Extraction

theorem construct_of_isRead {o : Occurrence} (h : isRead o = true) :
    constructOf? o.element = some .ownedAttribute ∨ constructOf? o.element = some .ownedEnd := by
  simp only [isRead, Bool.or_eq_true, Bool.and_eq_true] at h
  exact h.imp (fun h => eq_of_beq h.1) fun h => eq_of_beq h.1

theorem isOwned_of_isRead {o : Occurrence} (h : isRead o = true) : isOwned o.element = true := by
  rcases construct_of_isRead h with construct | construct
  · simp [isOwned, construct]
  · simp [isOwned, construct]

theorem lastReading?_append_start (h : openAfter events = some around) :
    lastReading? (events ++ [.start e]) =
      if isRead ⟨e, around⟩ then some ⟨e, around⟩ else lastReading? events := by
  rw [lastReading?, Xml.occurrences_append_start h, List.filter_append]
  by_cases read : isRead ⟨e, around⟩ = true
  · simp [read]
  · simp [read, lastReading?]

theorem lastReading?_append_finish (h : openAfter events = some around) :
    lastReading? (events ++ [.finish e.name]) = lastReading? events := by
  rw [lastReading?, Xml.occurrences_append_finish h, lastReading?]

theorem isReadingOpen_of_currentProperty (h : openAfter events = some around) :
    ∀ id ∈ (ofEvents skipped events).currentProperty,
      ∃ o, lastReading? events = some o ∧ isStillOpen o around ∧ readId o.element = id := by
  refine nesting_induction (motive := fun events around =>
    ∀ id ∈ (ofEvents skipped events).currentProperty,
      ∃ o, lastReading? events = some o ∧ isStillOpen o around ∧ readId o.element = id) ?_ ?_ ?_ h
  · rintro id ⟨⟩
  · intro pre around e opened before id current
    rw [ofEvents_concat,
      Extraction.currentProperty_step_start (Extraction.situated_ofEvents opened)] at current
    rw [lastReading?_append_start opened]
    by_cases read : isRead ⟨e, around⟩ = true
    · rw [if_pos read] at current ⊢
      cases current
      exact ⟨⟨e, around⟩, rfl, List.suffix_rfl, rfl⟩
    · rw [if_neg read] at current ⊢
      obtain ⟨o, last, stillOpen, same⟩ := before id current
      exact ⟨o, last, stillOpen.trans (List.suffix_cons e around), same⟩
  · intro pre e outer opened before id current
    rw [ofEvents_concat] at current
    rw [lastReading?_append_finish opened]
    rw [Extraction.currentProperty_step_finish] at current
    by_cases owned : isOwned e = true
    · rw [if_pos owned] at current
      cases current
    · rw [if_neg owned] at current
      obtain ⟨o, last, stillOpen, named⟩ := before id current
      refine ⟨o, last, ?_, named⟩
      rcases List.suffix_cons_iff.mp stillOpen with ends | stillOpen
      · -- the element that was read would end here
        have read : isRead o = true := (List.mem_filter.mp (List.mem_of_getLast? last)).2
        cases ends
        exact absurd (isOwned_of_isRead read) owned
      · exact stillOpen

end UmlKotlin.Xmi
