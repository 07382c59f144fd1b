import UmlKotlin.Proofs.Uml.Declaration
import UmlKotlin.Xmi.Extraction

/-!
Which events leave alone what is declared. Only packaged elements change what is known of the open
ones, and only packaged elements, owned attributes, owned ends and member ends declare something; the
beginning of any other element adds to what was declared before (`begin_annotates`), no end changes
the model (`model_step_finish`), and no waiting comment declares anything (`declarations_complete`).
-/

set_option autoImplicit false

namespace UmlKotlin.Xmi

open Xml (Element)
open Uml (Model Property Association)

def constructOf? (e : Element) : Option Construct := Construct.ofName? e.name.base

theorem origin_addMetadata (p : Property) (e : Element) :
    (p.addMetadata (leadAttributes Vocabulary.propertiesLead e)).origin = p.origin := by
  have other (flag : String) : Vocabulary.flagLead ++ flag ∉
      (leadAttributes Vocabulary.propertiesLead e).keys := by
    intro member
    obtain ⟨value, member⟩ := Table.mem_keys_ofList.mp member
    obtain ⟨a, -, same⟩ := List.mem_map.mp member
    have texts := congrArg String.toList (Prod.mk.inj same).1
    simp [Vocabulary.flagLead, Vocabulary.propertiesLead] at texts
  simp only [Property.origin, Property.addMetadata, Table.get?_union_of_not_mem (other _)]

namespace Extraction

variable {x y : Extraction} {id : Option String}

def openings (x : Extraction) : List String × List Frame × List (List String) :=
  (x.skipped, x.packaged, x.packagePaths)

/-- One extraction comes from another without a change of what is open and what is declared. -/
structure Annotates (x y : Extraction) : Prop where
  openings : y.openings = x.openings
  declarations : y.model.declarations = x.model.declarations

namespace Annotates

theorem aside (openings : y.openings = x.openings) (model : y.model = x.model) : Annotates x y where
  openings := openings
  declarations := by rw [model]

theorem self : Annotates x x := aside rfl rfl

theorem modifyClass {f : Uml.Class → Uml.Class} (h : Annotates x y)
    (keeps : ∀ c, (f c).declaration = c.declaration) : Annotates x (y.modifyClass id f) := by
  cases id with
  | none => exact h
  | some id => exact ⟨h.openings, (Model.declarations_modifyClass _ _ keeps).trans h.declarations⟩

theorem modifyProperty {f : Property → Property} (h : Annotates x y)
    (keeps : ∀ p, (f p).origin = p.origin) : Annotates x (y.modifyProperty id f) := by
  cases id with
  | none => exact h
  | some id => exact ⟨h.openings, (Model.declarations_modifyProperty _ _ keeps).trans h.declarations⟩

theorem modifyAssociation {f : Association → Association} (h : Annotates x y)
    (keeps : ∀ a, (f a).declaration = a.declaration) :
    Annotates x (y.modifyAssociation id f) := by
  cases id with
  | none => exact h
  | some id =>
    exact ⟨h.openings, (Model.declarations_modifyAssociation _ _ keeps).trans h.declarations⟩

end Annotates

theorem annotates_startType (x : Extraction) (e : Element) : Annotates x (x.startType e) := by
  refine Annotates.self.modifyProperty fun p => ?_
  dsimp only
  split <;> split <;> rfl

theorem annotates_startRole (x : Extraction) (e : Element) : Annotates x (x.startRole e) := by
  unfold startRole
  split
  · exact Annotates.self.modifyAssociation fun _ => rfl
  · exact Annotates.self.modifyAssociation fun _ => rfl
  · exact Annotates.self

theorem annotates_startTag (x : Extraction) (e : Element) : Annotates x (x.startTag e) := by
  unfold startTag
  split
  · exact .modifyProperty (.modifyClass (.modifyAssociation .self fun _ => rfl) fun _ => rfl)
      fun _ => rfl
  · exact Annotates.self

theorem annotates_startProperties (x : Extraction) (e : Element) :
    Annotates x (x.startProperties e) := by
  unfold startProperties
  split
  · split
    · exact .modifyAssociation (.aside rfl rfl) fun _ => rfl
    · exact Annotates.self
  · exact Annotates.self.modifyProperty fun p => origin_addMetadata p e
  · exact Annotates.self.modifyClass fun _ => rfl
  · exact Annotates.self

theorem annotates_startDocumentation (x : Extraction) (e : Element) :
    Annotates x (x.startDocumentation e) := by
  unfold startDocumentation
  split
  · exact Annotates.self.modifyProperty fun _ => rfl
  · split
    · exact Annotates.self.modifyAssociation fun _ => rfl
    · exact Annotates.self.modifyAssociation fun _ => rfl
    · exact Annotates.self

theorem annotates_startStereotype (x : Extraction) (e : Element) :
    Annotates x (x.startStereotype e) := by
  unfold startStereotype
  split
  · exact Annotates.self
  · split
    · exact Annotates.self
    · exact Annotates.self.modifyProperty fun _ => rfl

theorem annotates_startSide (x : Extraction) (side : Side) : Annotates x (x.startSide side) := by
  unfold startSide
  split
  · exact Annotates.aside rfl rfl
  · exact Annotates.self

theorem annotates_applyStereotype (x : Extraction) (e : Element) :
    Annotates x (x.applyStereotype e) :=
  .modifyProperty (.modifyClass .self fun _ => rfl) fun _ => rfl

def declaring : List Construct := [.packagedElement, .ownedAttribute, .ownedEnd, .memberEnd]

theorem begin_annotates {c : Construct} (x : Extraction) (e : Element) (other : c ∉ declaring) :
    Annotates x (x.begin c e) := by
  cases c with
  | packagedElement | ownedAttribute | ownedEnd | memberEnd => simp [declaring] at other
  | type => exact annotates_startType x e
  | lowerValue | upperValue | bounds => exact Annotates.self.modifyProperty fun _ => rfl
  | generalization | project | extendedProperties => exact Annotates.self.modifyClass fun _ => rfl
  | source | target => exact annotates_startSide x _
  | role => exact annotates_startRole x e
  | tag => exact annotates_startTag x e
  | properties => exact annotates_startProperties x e
  | documentation => exact annotates_startDocumentation x e
  | stereotype => exact annotates_startStereotype x e
  | _ => exact Annotates.aside rfl rfl

theorem begin_openings {c : Construct} (x : Extraction) (e : Element) (other : c ≠ .packagedElement) :
    (x.begin c e).openings = x.openings := by
  cases c with
  | packagedElement => exact absurd rfl other
  | ownedAttribute =>
    simp only [begin, startOwnedAttribute]
    split <;> rfl
  | ownedEnd =>
    simp only [begin, startOwnedEnd]
    split <;> rfl
  | memberEnd =>
    simp only [begin, startMemberEnd]
    split
    · rfl
    · split
      · rfl
      · cases x.currentAssociation <;> rfl
  | _ => exact (begin_annotates x e (by decide)).openings

theorem finishOwnedComment_eq (x : Extraction) :
    ∃ waiting, x.finishOwnedComment = { x with comment := none, pendingComments := waiting } := by
  unfold finishOwnedComment
  dsimp only
  split
  · exact ⟨_, rfl⟩
  · split
    · split <;> exact ⟨_, rfl⟩
    · exact ⟨_, rfl⟩

theorem model_finish (x : Extraction) (c : Construct) : (x.finish c).model = x.model := by
  cases c with
  | packagedElement =>
    simp only [finish, finishPackagedElement]
    split <;> rfl
  | ownedComment =>
    obtain ⟨waiting, eq⟩ := x.finishOwnedComment_eq
    rw [finish, eq]
  | _ => rfl

theorem openings_finish {c : Construct} (x : Extraction) (other : c ≠ .packagedElement) :
    (x.finish c).openings = x.openings := by
  cases c with
  | packagedElement => exact absurd rfl other
  | ownedComment =>
    obtain ⟨waiting, eq⟩ := x.finishOwnedComment_eq
    rw [finish, eq]
    rfl
  | _ => rfl

/-- What holds of the model and of every model with comments added to it holds at the end. -/
theorem complete_induction {motive : Model → Prop} (x : Extraction) (model : motive x.model)
    (add : ∀ m comments, motive m → motive (addComments m comments)) : motive x.complete :=
  List.foldlRecOn _ _ model fun m before comments _ => add m comments before

theorem declarations_complete (x : Extraction) :
    x.complete.declarations = x.model.declarations := by
  refine x.complete_induction (motive := fun m => m.declarations = x.model.declarations) rfl ?_
  intro m comments before
  rw [addComments, Model.declarations_modifyProperty, Model.declarations_modifyClass, before]
  · exact fun _ => rfl
  · exact fun _ => rfl

/-! ### Events -/

theorem step_start_eq {c : Construct} {e : Element} (h : constructOf? e = some c) :
    x.step (.start e) = x.begin c e := by
  rw [constructOf?] at h
  simp only [step, h]

theorem step_finish_eq {c : Construct} {e : Element} (h : constructOf? e = some c) :
    x.step (.finish e.name) = x.finish c := by
  rw [constructOf?] at h
  simp only [step, h]

theorem step_start_annotates {e : Element} (other : ∀ c ∈ constructOf? e, c ∉ declaring) :
    Annotates x (x.step (.start e)) := by
  cases construct : constructOf? e with
  | some c =>
    rw [step_start_eq construct]
    exact begin_annotates x e (other c construct)
  | none =>
    rw [constructOf?] at construct
    simp only [step, construct]
    split
    · exact annotates_applyStereotype x e
    · exact Annotates.self

theorem model_step_finish (x : Extraction) (name : Xml.QualifiedName) :
    (x.step (.finish name)).model = x.model := by
  simp only [step]
  split
  · exact x.model_finish _
  · rfl

theorem openings_step_start {e : Element} (other : constructOf? e ≠ some .packagedElement) :
    (x.step (.start e)).openings = x.openings := by
  cases construct : constructOf? e with
  | some c =>
    rw [step_start_eq construct]
    exact begin_openings x e (by rintro rfl; exact other construct)
  | none => exact (step_start_annotates (by simp [construct])).openings

theorem openings_step_finish {e : Element} (other : constructOf? e ≠ some .packagedElement) :
    (x.step (.finish e.name)).openings = x.openings := by
  cases construct : constructOf? e with
  | some c =>
    rw [step_finish_eq construct]
    exact openings_finish x (by rintro rfl; exact other construct)
  | none =>
    rw [constructOf?] at construct
    simp only [step, construct]

end Extraction

end UmlKotlin.Xmi
