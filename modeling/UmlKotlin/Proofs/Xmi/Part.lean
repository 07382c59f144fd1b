import UmlKotlin.Proofs.Xmi.Scopes

/-!
Parts of classes and properties. What most elements add to a model is no part of interest: marks of
deprecation, stereotypes, metadata, members and types (`Part`). Main statements: such elements leave
the part of every class and property as it is (`keeps_step_start`), and an element that creates a
class or a property gives it the part of a new one (`classes_startPackagedElement`,
`parts_startOwnedAttribute`, `parts_startOwnedEnd`).
-/

set_option autoImplicit false

namespace UmlKotlin.Xmi

open Extraction (propertyOf)
open Uml (Association Member Model Property)
open Xml (Element)

/-- A part of every class and a part of every property. Marks of deprecation, stereotypes, metadata,
members and types are no part of them, and what an element creates has the part of a new class or
property. -/
structure Part (α β : Type) where
  ofClass : Uml.Class → α
  ofProperty : Property → β
  newClass : α
  newProperty : β
  created (id name : String) (path : List String) (abstract : Bool) :
    ofClass { id := id, name := name, packagePath := path, abstract := abstract } = newClass
  read (e : Element) : ofProperty (propertyOf e) = newProperty
  members (c : Uml.Class) (members : List Member) : ofClass { c with members := members } = ofClass c
  classMark (c : Uml.Class) (message : Option String) :
    ofClass { c with deprecated := true, deprecationMessage := message } = ofClass c
  classMetadata (c : Uml.Class) (facts : Table String String) :
    ofClass (c.addMetadata facts) = ofClass c
  classStereotype (c : Uml.Class) (text : String) : ofClass (c.addStereotype text) = ofClass c
  mark (p : Property) (message : Option String) :
    ofProperty { p with deprecated := true, deprecationMessage := message } = ofProperty p
  metadata (p : Property) (facts : Table String String) :
    ofProperty (p.addMetadata facts) = ofProperty p
  stereotype (p : Property) (text : String) : ofProperty (p.addStereotype text) = ofProperty p
  type (p : Property) (id href : Option String) :
    ofProperty { p with typeId := id, hrefType := href } = ofProperty p

namespace Part

variable {α β : Type} (P : Part α β) {x y : Extraction} {around : List Element} {e : Element}

def classes (m : Model) : Table String α := m.classes.map fun _ c => P.ofClass c

def properties (m : Model) : Table String β := m.properties.map fun _ p => P.ofProperty p

structure Keeps (x y : Extraction) : Prop where
  classes : P.classes y.model = P.classes x.model
  properties : P.properties y.model = P.properties x.model

namespace Keeps

variable {P} {id : Option String}

theorem self : P.Keeps x x := ⟨rfl, rfl⟩

theorem modifyClass {f : Uml.Class → Uml.Class} (h : P.Keeps x y)
    (keeps : ∀ c, P.ofClass (f c) = P.ofClass c) : P.Keeps x (y.modifyClass id f) := by
  cases id with
  | none => exact h
  | some id => exact ⟨(Table.map_modify keeps _ id).trans h.classes, h.properties⟩

theorem modifyProperty {f : Property → Property} (h : P.Keeps x y)
    (keeps : ∀ p, P.ofProperty (f p) = P.ofProperty p) : P.Keeps x (y.modifyProperty id f) := by
  cases id with
  | none => exact h
  | some id => exact ⟨h.classes, (Table.map_modify keeps _ id).trans h.properties⟩

theorem modifyAssociation {f : Association → Association} (h : P.Keeps x y) :
    P.Keeps x (y.modifyAssociation id f) := by
  cases id with
  | none => exact h
  | some id => exact ⟨h.classes, h.properties⟩

end Keeps

/-! ### What is left alone -/

theorem keeps_startMemberEnd (x : Extraction) (e : Element) : P.Keeps x (x.startMemberEnd e) := by
  unfold Extraction.startMemberEnd
  split
  · exact .self
  · split
    · exact .self
    · exact Keeps.self.modifyAssociation

theorem keeps_startType (x : Extraction) (e : Element) : P.Keeps x (x.startType e) := by
  refine Keeps.self.modifyProperty fun p => ?_
  dsimp only
  split
  · split
    · rfl
    · exact P.type p _ _
  · split
    · exact P.type p _ _
    · exact P.type p _ _

theorem keeps_startSide (x : Extraction) (side : Side) : P.Keeps x (x.startSide side) := by
  unfold Extraction.startSide
  split
  · exact ⟨rfl, rfl⟩
  · exact .self

theorem keeps_startRole (x : Extraction) (e : Element) : P.Keeps x (x.startRole e) := by
  unfold Extraction.startRole
  split
  · exact Keeps.self.modifyAssociation
  · exact Keeps.self.modifyAssociation
  · exact .self

theorem keeps_startTag (x : Extraction) (e : Element) : P.Keeps x (x.startTag e) := by
  unfold Extraction.startTag
  split
  · refine .modifyProperty (.modifyClass (.modifyAssociation .self) ?_) ?_
    · exact fun c => P.classMark c _
    · exact fun p => P.mark p _
  · exact .self

theorem keeps_startStereotype (x : Extraction) (e : Element) :
    P.Keeps x (x.startStereotype e) := by
  unfold Extraction.startStereotype
  split
  · exact .self
  · split
    · exact .self
    · exact Keeps.self.modifyProperty fun p => P.stereotype p _

theorem keeps_applyStereotype (x : Extraction) (e : Element) :
    P.Keeps x (x.applyStereotype e) := by
  refine .modifyProperty (.modifyClass .self ?_) ?_
  · exact fun c => P.classStereotype c _
  · exact fun p => P.stereotype p _

/-- The constructs that may change a part: those that create something, and those that say something
about superclasses, bounds or documentation. -/
def telling : List Construct :=
  [.packagedElement, .ownedAttribute, .ownedEnd, .lowerValue, .upperValue, .generalization,
    .properties, .documentation, .bounds]

theorem keeps_begin {c : Construct} (x : Extraction) (e : Element) (other : c ∉ telling) :
    P.Keeps x (x.begin c e) := by
  cases c with
  | packagedElement | ownedAttribute | ownedEnd | lowerValue | upperValue | generalization
  | properties | documentation | bounds => simp [telling] at other
  | memberEnd => exact P.keeps_startMemberEnd x e
  | type => exact P.keeps_startType x e
  | project | extendedProperties => exact Keeps.self.modifyClass fun c => P.classMetadata c _
  | source | target => exact P.keeps_startSide x _
  | role => exact P.keeps_startRole x e
  | tag => exact P.keeps_startTag x e
  | stereotype => exact P.keeps_startStereotype x e
  | ownedComment | annotatedElement | connector | tags | element | «attribute» => exact ⟨rfl, rfl⟩

theorem keeps_step_start (x : Extraction) (other : ∀ c ∈ constructOf? e, c ∉ telling) :
    P.Keeps x (x.step (.start e)) := by
  cases construct : constructOf? e with
  | some c =>
    rw [Extraction.step_start_eq construct]
    exact P.keeps_begin x e (other c construct)
  | none =>
    rw [constructOf?] at construct
    simp only [Extraction.step, construct]
    split
    · exact P.keeps_applyStereotype x e
    · exact .self

/-! ### What is created -/

theorem classes_startPackagedElement (x : Extraction) (packaged : isPackaged e = true) :
    P.classes (x.startPackagedElement e).model = (declaredId? Vocabulary.classType e).elim
      (P.classes x.model) fun id => (P.classes x.model).insert id P.newClass := by
  rw [declaredId?_of_packaged packaged, kindOf, givenId?, Extraction.startPackagedElement]
  cases given : (e.get? Vocabulary.xmiId).filter fun id => !Text.blank (some id) with
  | none => simp
  | some id =>
    dsimp only
    by_cases package : (e.get? Vocabulary.xmiType).getD "" = Vocabulary.packageType
    · simp [package, classes, Vocabulary.packageType, Vocabulary.classType]
    rw [if_neg package]
    by_cases cls : (e.get? Vocabulary.xmiType).getD "" = Vocabulary.classType
    · rw [if_pos cls, if_pos cls, Option.elim_some, ← P.created id _ x.packagePath]
      exact Table.map_insert _ _ _ _
    rw [if_neg cls, if_neg cls]
    split
    · rfl
    · split <;> rfl

theorem properties_startPackagedElement (x : Extraction) (e : Element) :
    P.properties (x.startPackagedElement e).model = P.properties x.model := by
  unfold Extraction.startPackagedElement
  dsimp only
  split
  · rfl
  · split
    · rfl
    · split
      · rfl
      · split
        · rfl
        · split <;> rfl

theorem classes_putProperty (m : Model) (p : Property) :
    P.classes (m.putProperty p) = P.classes m := by
  unfold Model.putProperty Model.release
  dsimp only
  split
  · rfl
  · simp only [classes, Table.map_map, P.members]

theorem properties_putProperty (m : Model) (p : Property) : P.properties (m.putProperty p) =
    (P.properties m).insert p.id (P.ofProperty p) := by
  have kept : (m.release p.id).properties = m.properties := by
    unfold Model.release
    split <;> rfl
  rw [Model.putProperty, properties, kept]
  exact Table.map_insert _ _ _ _

theorem parts_readProperty (x : Extraction) (e : Element) :
    P.classes (x.readProperty (propertyOf e)).model = P.classes x.model ∧
      P.properties (x.readProperty (propertyOf e)).model =
        (P.properties x.model).insert (readId e) P.newProperty := by
  refine ⟨P.classes_putProperty _ _, (P.properties_putProperty _ _).trans ?_⟩
  rw [Extraction.id_propertyOf, P.read]

theorem parts_startOwnedAttribute (x : Extraction) (construct : constructOf? e = some .ownedAttribute)
    (situated : x.Situated around) :
    P.classes (x.startOwnedAttribute e).model = P.classes x.model ∧
      P.properties (x.startOwnedAttribute e).model = if isRead ⟨e, around⟩ then
        (P.properties x.model).insert (readId e) P.newProperty else P.properties x.model := by
  have read : isRead ⟨e, around⟩ = x.currentClass.isSome := by
    simp [isRead, construct, situated.cls]
  rw [read, Extraction.startOwnedAttribute]
  cases x.currentClass with
  | none => exact ⟨rfl, rfl⟩
  | some id =>
    obtain ⟨classes, properties⟩ := P.parts_readProperty x e
    refine ⟨?_, properties⟩
    exact (Table.map_modify (fun c => P.members c _) _ id).trans classes

theorem parts_startOwnedEnd (x : Extraction) (construct : constructOf? e = some .ownedEnd)
    (situated : x.Situated around) :
    P.classes (x.startOwnedEnd e).model = P.classes x.model ∧
      P.properties (x.startOwnedEnd e).model = if isRead ⟨e, around⟩ then
        (P.properties x.model).insert (readId e) P.newProperty else P.properties x.model := by
  have read : isRead ⟨e, around⟩ = x.currentAssociation.isSome := by
    simp [isRead, construct, situated.association]
  rw [read, Extraction.startOwnedEnd]
  cases x.currentAssociation with
  | none => exact ⟨rfl, rfl⟩
  | some id => exact P.parts_readProperty x e

end Part

end UmlKotlin.Xmi
