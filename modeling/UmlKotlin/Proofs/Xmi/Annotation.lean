import UmlKotlin.Proofs.Xmi.Scopes

/-!
What the elements of the extension section change. Main statement: at every start of a well-nested
sequence of events such an element changes at most the entity that the innermost scope names, and
the facts of one side of a connector only while an element of that side is open in it; the type and
the bounds of a property are changed only while the element that it was read from is open
(`extensions_confined`).
-/

set_option autoImplicit false

namespace UmlKotlin.Xmi

open Extraction (ofEvents ofEvents_append)
open Uml (Association Entity Model Property)
open Xml (Element Event WellNested openAfter)

def extending : List Construct :=
  [.tag, .properties, .project, .extendedProperties, .documentation, .bounds, .stereotype, .role]

def typing : List Construct := [.type, .lowerValue, .upperValue]

def sideFacts (side : Side) (a : Association) : Option String × Option String :=
  match side with
  | .source => (a.sourceRoleName, a.sourceDocumentation)
  | .target => (a.targetRoleName, a.targetDocumentation)

namespace Extraction

variable {skipped : List String} {events : List Event} {around : List Element} {x y : Extraction}
  {e : Element} {entity : Option Entity} {id : Option String} {side : Side} {c : Construct}

/-- One extraction comes from another by changes of one entity, or of none. -/
structure Within (entity : Option Entity) (x y : Extraction) : Prop where
  model : Model.ChangesOnly entity x.model y.model
  scopes : y.scopes = x.scopes

namespace Within

theorem self : Within entity x x := ⟨.refl _ _, rfl⟩

theorem modifyClass {f : Uml.Class → Uml.Class} (h : Within entity x y)
    (named : ∀ i ∈ id, entity = some (.cls i)) : Within entity x (y.modifyClass id f) := by
  cases id with
  | none => exact h
  | some i =>
    cases named i rfl
    exact ⟨h.model.trans (.modifyClass _ i f), h.scopes⟩

theorem modifyProperty {f : Property → Property} (h : Within entity x y)
    (named : ∀ i ∈ id, entity = some (.property i)) : Within entity x (y.modifyProperty id f) := by
  cases id with
  | none => exact h
  | some i =>
    cases named i rfl
    exact ⟨h.model.trans (.modifyProperty _ i f), h.scopes⟩

theorem modifyAssociation {f : Association → Association} (h : Within entity x y)
    (named : ∀ i ∈ id, entity = some (.association i)) :
    Within entity x (y.modifyAssociation id f) := by
  cases id with
  | none => exact h
  | some i =>
    cases named i rfl
    exact ⟨h.model.trans (.modifyAssociation _ i f), h.scopes⟩

end Within

/-- What the current scope speaks about is the entity. -/
structure SpeaksAbout (x : Extraction) (entity : Option Entity) : Prop where
  association : ∀ i ∈ x.scopedAssociation, entity = some (.association i)
  cls : ∀ i ∈ x.scopedClass, entity = some (.cls i)
  property : ∀ i ∈ x.scopedProperty, entity = some (.property i)

namespace SpeaksAbout

theorem within (h : SpeaksAbout x entity) (changed : Within entity x y) : SpeaksAbout y entity := by
  obtain ⟨model, scopes⟩ := changed
  have associations : y.model.associations.contains = x.model.associations.contains := by
    funext i
    rw [Table.contains, model.associationKeys, Table.contains]
  have classes : y.model.classes.contains = x.model.classes.contains := by
    funext i
    rw [Table.contains, model.classKeys, Table.contains]
  have properties : y.model.properties.contains = x.model.properties.contains := by
    funext i
    rw [Table.contains, model.propertyKeys, Table.contains]
  constructor
  · rw [scopedAssociation, scopes, associations]
    exact h.association
  · rw [scopedClass, scopes, classes]
    exact h.cls
  · rw [scopedProperty, scopes, properties]
    exact h.property

theorem connected (h : SpeaksAbout x entity) :
    ∀ i ∈ x.connectedAssociation, entity = some (.association i) := by
  unfold connectedAssociation
  split
  · exact h.association
  · simp

end SpeaksAbout

theorem within_startRole (e : Element) (h : SpeaksAbout x entity) :
    Within entity x (x.startRole e) := by
  unfold startRole
  split
  · exact Within.self.modifyAssociation h.connected
  · exact Within.self.modifyAssociation h.connected
  · exact .self

theorem within_startTag (e : Element) (h : SpeaksAbout x entity) :
    Within entity x (x.startTag e) := by
  unfold startTag
  split
  -- three changes in a row, each looking up its entity after the one before
  · have association := (Within.self (x := x)).modifyAssociation
      (f := fun a => { a with deprecated := true, deprecationMessage := e.plain? "value" })
      h.association
    have cls := association.modifyClass
      (f := fun c => { c with deprecated := true, deprecationMessage := e.plain? "value" })
      (h.within association).cls
    exact cls.modifyProperty (h.within cls).property
  · exact .self

theorem within_startProperties (e : Element) (h : SpeaksAbout x entity) :
    Within entity x (x.startProperties e) := by
  unfold startProperties
  split
  · split
    · exact .modifyAssociation ⟨.refl _ _, rfl⟩ h.association
    · exact .self
  · exact Within.self.modifyProperty h.property
  · exact Within.self.modifyClass h.cls
  · exact .self

theorem within_startDocumentation (e : Element) (h : SpeaksAbout x entity) :
    Within entity x (x.startDocumentation e) := by
  unfold startDocumentation
  split
  · rename_i i current
    exact Within.self.modifyProperty (current ▸ h.property)
  · split
    · exact Within.self.modifyAssociation h.connected
    · exact Within.self.modifyAssociation h.connected
    · exact .self

theorem within_startStereotype (e : Element) (h : SpeaksAbout x entity) :
    Within entity x (x.startStereotype e) := by
  unfold startStereotype
  split
  · exact .self
  · split
    · exact .self
    · exact Within.self.modifyProperty h.property

theorem within_begin (e : Element) (speaks : c ∈ extending) (h : SpeaksAbout x entity) :
    Within entity x (x.begin c e) := by
  cases c with
  | tag => exact within_startTag e h
  | properties => exact within_startProperties e h
  | project | extendedProperties => exact Within.self.modifyClass h.cls
  | documentation => exact within_startDocumentation e h
  | bounds => exact Within.self.modifyProperty h.property
  | stereotype => exact within_startStereotype e h
  | role => exact within_startRole e h
  | _ => simp [extending] at speaks

/-! ### Sides -/

/-- The facts of a side are as they were, in all associations. -/
def KeepsSide (side : Side) (x y : Extraction) : Prop :=
  y.model.associations.map (fun _ a => sideFacts side a) =
    x.model.associations.map fun _ a => sideFacts side a

namespace KeepsSide

theorem self : KeepsSide side x x := rfl

theorem modifyClass {f : Uml.Class → Uml.Class} (h : KeepsSide side x y) :
    KeepsSide side x (y.modifyClass id f) := by
  cases id <;> exact h

theorem modifyProperty {f : Property → Property} (h : KeepsSide side x y) :
    KeepsSide side x (y.modifyProperty id f) := by
  cases id <;> exact h

theorem modifyAssociation {f : Association → Association} (h : KeepsSide side x y)
    (keeps : id = none ∨ ∀ a, sideFacts side (f a) = sideFacts side a) :
    KeepsSide side x (y.modifyAssociation id f) := by
  cases id with
  | none => exact h
  | some i =>
    have keeps := keeps.resolve_left (by simp)
    exact (Table.map_modify keeps _ i).trans h

end KeepsSide

theorem keepsSide_begin (e : Element) (speaks : c ∈ extending)
    (closed : x.connectorSide = some side → x.scopedAssociation = none) :
    KeepsSide side x (x.begin c e) := by
  have disconnected : x.connectorSide = some side → x.connectedAssociation = none := by
    intro current
    rw [connectedAssociation, closed current, ite_self]
  -- only roles and documentation speak about a side, and only about the one that is remembered
  cases c with
  | tag =>
    simp only [begin, startTag]
    split
    · exact (KeepsSide.self.modifyAssociation (.inr fun a => by cases side <;> rfl)).modifyClass
        |>.modifyProperty
    · exact .self
  | properties =>
    simp only [begin, startProperties]
    split
    · split
      · exact KeepsSide.modifyAssociation rfl (.inr fun a => by cases side <;> rfl)
      · exact .self
    · exact KeepsSide.self.modifyProperty
    · exact KeepsSide.self.modifyClass
    · exact .self
  | project | extendedProperties => exact KeepsSide.self.modifyClass
  | documentation =>
    simp only [begin, startDocumentation]
    split
    · exact KeepsSide.self.modifyProperty
    · split
      · rename_i current
        refine KeepsSide.self.modifyAssociation ?_
        cases side with
        | source => exact .inl (disconnected current)
        | target => exact .inr fun _ => rfl
      · rename_i current
        refine KeepsSide.self.modifyAssociation ?_
        cases side with
        | source => exact .inr fun _ => rfl
        | target => exact .inl (disconnected current)
      · exact .self
  | bounds => exact KeepsSide.self.modifyProperty
  | stereotype =>
    simp only [begin, startStereotype]
    split
    · exact .self
    · split
      · exact .self
      · exact KeepsSide.self.modifyProperty
  | role =>
    simp only [begin, startRole]
    split
    · rename_i current
      refine KeepsSide.self.modifyAssociation ?_
      cases side with
      | source => exact .inl (disconnected current)
      | target => exact .inr fun _ => rfl
    · rename_i current
      refine KeepsSide.self.modifyAssociation ?_
      cases side with
      | source => exact .inr fun _ => rfl
      | target => exact .inl (disconnected current)
    · exact .self
  | _ => simp [extending] at speaks

/-! ### The scope at a point -/

theorem innermostScope_of_current {kind : ScopeKind} {known : String → Bool} {i : String}
    (h : openAfter events = some around)
    (current : ((ofEvents skipped events).scopes.current.refOf? kind).filter known = some i) :
    ∃ e, innermostScope? around = some (kind, e) ∧ referredId? e = some i ∧ known i = true := by
  obtain ⟨current, known⟩ := Option.filter_eq_some_iff.mp current
  rw [refOf?_ofEvents h] at current
  obtain ⟨⟨kind', e⟩, found, referred⟩ := Option.bind_eq_some_iff.mp current
  obtain ⟨innermost, same⟩ := Option.filter_eq_some_iff.mp found
  obtain rfl : kind' = kind := of_decide_eq_true same
  exact ⟨e, innermost, referred, known⟩

theorem speaksAbout_ofEvents (skipped : List String) (h : openAfter events = some around) :
    SpeaksAbout (ofEvents skipped events) (namedEntity? (ofEvents skipped events).model around) := by
  constructor
  · intro i current
    obtain ⟨e, innermost, referred, known⟩ := innermostScope_of_current h current
    simp [namedEntity?, innermost, referred, known]
  · intro i current
    obtain ⟨e, innermost, referred, known⟩ := innermostScope_of_current h current
    simp [namedEntity?, innermost, referred, known]
  · intro i current
    obtain ⟨e, innermost, referred, known⟩ := innermostScope_of_current h current
    simp [namedEntity?, innermost, referred, known]

theorem scopedAssociation_of_closed (skipped : List String) (h : openAfter events = some around)
    (closed : isSideOpen side around = false)
    (remembered : (ofEvents skipped events).connectorSide = some side) :
    (ofEvents skipped events).scopedAssociation = none := by
  by_contra current
  obtain ⟨i, current⟩ := Option.ne_none_iff_exists'.mp current
  obtain ⟨e, innermost, -⟩ := innermostScope_of_current h current
  rw [isSideOpen_of_connectorSide h remembered innermost] at closed
  cases closed

theorem changesOnly_begin_typing (x : Extraction) (e : Element) (types : c ∈ typing) :
    Model.ChangesOnly (x.currentProperty.map .property) x.model (x.begin c e).model := by
  have modified (f : Property → Property) :
      Model.ChangesOnly (x.currentProperty.map .property) x.model
        (x.modifyProperty x.currentProperty f).model := by
    cases x.currentProperty with
    | none => exact .refl _ _
    | some i => exact .modifyProperty _ i f
  cases c with
  | type | lowerValue | upperValue => exact modified _
  | _ => simp [typing] at types

end Extraction

/-- At every start of a well-nested sequence of events: an element that speaks about what its scope
names changes that entity alone, and nothing if the innermost scope names nothing that is known; it
changes the facts of a side of associations only while an element of that side is open in the
innermost scope. A type or a bound changes nothing, or the property that was read last alone, whose
element is still open. -/
theorem extensions_confined (skipped : List String) (events pre post : List Event) (e : Element)
    (h : WellNested events) (split : events = pre ++ .start e :: post) :
    ∃ around, openAfter pre = some around ∧
      (∀ c ∈ constructOf? e, c ∈ extending →
        (ofEvents skipped pre).model.ChangesOnly
            (namedEntity? (ofEvents skipped pre).model around)
            (ofEvents skipped (pre ++ [.start e])).model ∧
          (namedEntity? (ofEvents skipped pre).model around = none →
            (ofEvents skipped (pre ++ [.start e])).model = (ofEvents skipped pre).model) ∧
          ∀ side, isSideOpen side around = false → ∀ id,
            ((ofEvents skipped (pre ++ [.start e])).model.associations.get? id).map
                (sideFacts side) =
              ((ofEvents skipped pre).model.associations.get? id).map (sideFacts side)) ∧
      ∀ c ∈ constructOf? e, c ∈ typing →
        (ofEvents skipped (pre ++ [.start e])).model = (ofEvents skipped pre).model ∨
          ∃ o, lastReading? pre = some o ∧ isStillOpen o around ∧
            (ofEvents skipped pre).model.ChangesOnly (some (.property (readId o.element)))
              (ofEvents skipped (pre ++ [.start e])).model := by
  subst split
  obtain ⟨around, opened⟩ := Xml.openAfter_prefix h
  refine ⟨around, opened, fun c construct speaks => ?_, fun c construct types => ?_⟩
  · rw [ofEvents_append, List.foldl_cons, List.foldl_nil, Extraction.step_start_eq construct]
    have changed := (Extraction.within_begin e speaks
      (Extraction.speaksAbout_ofEvents skipped opened)).model
    refine ⟨changed, fun unnamed => (unnamed ▸ changed).eq, fun side closed id => ?_⟩
    have kept := Extraction.keepsSide_begin e speaks
      (Extraction.scopedAssociation_of_closed skipped opened closed)
    have looked := congrArg (Table.get? · id) kept
    simpa only [Table.get?_map] using looked
  · rw [ofEvents_append, List.foldl_cons, List.foldl_nil, Extraction.step_start_eq construct]
    have changed := Extraction.changesOnly_begin_typing (ofEvents skipped pre) e types
    cases current : (ofEvents skipped pre).currentProperty with
    | none =>
      rw [current] at changed
      exact .inl changed.eq
    | some id =>
      rw [current] at changed
      obtain ⟨o, last, stillOpen, rfl⟩ := isReadingOpen_of_currentProperty opened id current
      exact .inr ⟨o, last, stillOpen, changed⟩

theorem role_changes_source :
    let association (id : String) : Element := ⟨⟨none, "packagedElement"⟩,
      [⟨Vocabulary.xmiType, Vocabulary.associationType⟩, ⟨Vocabulary.xmiId, id⟩], []⟩
    let connector : Element := ⟨⟨none, "connector"⟩, [⟨Vocabulary.xmiIdref, "A"⟩], []⟩
    let source : Element := ⟨⟨none, "source"⟩, [], []⟩
    let role : Element := ⟨⟨none, "role"⟩, [⟨⟨none, "name"⟩, "owner"⟩], []⟩
    let pre := [Event.start (association "A"), .finish (association "A").name,
      .start (association "B"), .finish (association "B").name, .start connector, .start source]
    let post := [Event.finish role.name, .finish source.name, .finish connector.name]
    let m := (ofEvents [] pre).model
    let n := (ofEvents [] (pre ++ [.start role])).model
    WellNested (pre ++ .start role :: post) ∧ m.ChangesOnly (some (.association "A")) n ∧
      (n.associations.get? "A").map (sideFacts .source) = some (some "owner", none) ∧
      (n.associations.get? "A").map (sideFacts .target) =
        (m.associations.get? "A").map (sideFacts .target) := by
  intro association connector source role pre post m n
  have nested : WellNested (pre ++ .start role :: post) := by decide
  obtain ⟨around, opened, extension, -⟩ :=
    extensions_confined [] (pre ++ .start role :: post) pre post role nested rfl
  obtain rfl : [source, connector] = around := Option.some.inj opened
  obtain ⟨changed, -, sides⟩ := extension .role rfl (by decide)
  have named : namedEntity? m [source, connector] = some (.association "A") := by decide
  exact ⟨nested, named ▸ changed, rfl, sides .target rfl "A"⟩

end UmlKotlin.Xmi
