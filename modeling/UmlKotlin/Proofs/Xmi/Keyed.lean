import UmlKotlin.Proofs.Uml.Linking
import UmlKotlin.Proofs.Xmi.Declaration

/-!
Identifiers. Main statement: whatever events declare is listed in the model under its own identifier
(`keyed_extract`).
-/

set_option autoImplicit false

namespace UmlKotlin

namespace Uml.Model.Keyed

variable {m : Model} {id : String}

theorem modifyClass (h : m.Keyed) {f : Class → Class} (keeps : ∀ c, (f c).id = c.id) :
    (m.modifyClass id f).Keyed :=
  ⟨h.classes.modify keeps id, h.properties, h.associations⟩

theorem modifyProperty (h : m.Keyed) {f : Property → Property} (keeps : ∀ p, (f p).id = p.id) :
    (m.modifyProperty id f).Keyed :=
  ⟨h.classes, h.properties.modify keeps id, h.associations⟩

theorem modifyAssociation (h : m.Keyed) {f : Association → Association}
    (keeps : ∀ a, (f a).id = a.id) : (m.modifyAssociation id f).Keyed :=
  ⟨h.classes, h.properties, h.associations.modify keeps id⟩

theorem putClass (h : m.Keyed) (c : Class) : (m.putClass c).Keyed :=
  ⟨h.classes.insert c, h.properties, h.associations⟩

theorem putAssociation (h : m.Keyed) (a : Association) : (m.putAssociation a).Keyed :=
  ⟨h.classes, h.properties, h.associations.insert a⟩

theorem release (h : m.Keyed) (id : String) : (m.release id).Keyed := by
  unfold Model.release
  split
  · exact h
  · exact ⟨h.classes.map fun _ _ => rfl, h.properties, h.associations⟩

theorem putProperty (h : m.Keyed) (p : Property) : (m.putProperty p).Keyed :=
  ⟨(h.release p.id).classes, (h.release p.id).properties.insert p, (h.release p.id).associations⟩

end Uml.Model.Keyed

namespace Xmi

open Uml (Model Property)
open Xml (Element Event)

namespace Extraction

variable {x : Extraction} {id : Option String}

theorem keyed_modifyClass (h : x.model.Keyed) {f : Uml.Class → Uml.Class}
    (keeps : ∀ c, (f c).id = c.id) : (x.modifyClass id f).model.Keyed := by
  cases id with
  | none => exact h
  | some id => exact h.modifyClass keeps

theorem keyed_modifyProperty (h : x.model.Keyed) {f : Property → Property}
    (keeps : ∀ p, (f p).id = p.id) : (x.modifyProperty id f).model.Keyed := by
  cases id with
  | none => exact h
  | some id => exact h.modifyProperty keeps

theorem keyed_modifyAssociation (h : x.model.Keyed) {f : Uml.Association → Uml.Association}
    (keeps : ∀ a, (f a).id = a.id) : (x.modifyAssociation id f).model.Keyed := by
  cases id with
  | none => exact h
  | some id => exact h.modifyAssociation keeps

theorem keyed_startPackagedElement (h : x.model.Keyed) (e : Element) :
    (x.startPackagedElement e).model.Keyed := by
  unfold startPackagedElement
  dsimp only
  split
  · exact h
  · split
    · exact ⟨h.classes, h.properties, h.associations⟩
    · split
      · exact h.putClass _
      · split
        · exact h.putAssociation _
        · split
          · exact ⟨h.classes, h.properties, h.associations⟩
          · exact h

theorem keyed_startOwnedAttribute (h : x.model.Keyed) (e : Element) :
    (x.startOwnedAttribute e).model.Keyed := by
  unfold startOwnedAttribute
  split
  · exact h
  · exact keyed_modifyClass (h.putProperty _) fun _ => rfl

theorem keyed_startOwnedEnd (h : x.model.Keyed) (e : Element) :
    (x.startOwnedEnd e).model.Keyed := by
  unfold startOwnedEnd
  split
  · exact h
  · exact keyed_modifyAssociation (h.putProperty _) fun _ => rfl

theorem keyed_startMemberEnd (h : x.model.Keyed) (e : Element) :
    (x.startMemberEnd e).model.Keyed := by
  unfold startMemberEnd
  split
  · exact h
  · split
    · exact h
    · exact keyed_modifyAssociation h fun _ => rfl

theorem keyed_startType (h : x.model.Keyed) (e : Element) : (x.startType e).model.Keyed := by
  refine keyed_modifyProperty h fun p => ?_
  dsimp only
  split <;> split <;> rfl

theorem keyed_startRole (h : x.model.Keyed) (e : Element) : (x.startRole e).model.Keyed := by
  unfold startRole
  split
  · exact keyed_modifyAssociation h fun _ => rfl
  · exact keyed_modifyAssociation h fun _ => rfl
  · exact h

theorem keyed_startTag (h : x.model.Keyed) (e : Element) : (x.startTag e).model.Keyed := by
  unfold startTag
  split
  · refine keyed_modifyProperty ?_ fun _ => rfl
    refine keyed_modifyClass ?_ fun _ => rfl
    exact keyed_modifyAssociation h fun _ => rfl
  · exact h

theorem keyed_startProperties (h : x.model.Keyed) (e : Element) :
    (x.startProperties e).model.Keyed := by
  unfold startProperties
  split
  · split
    · have marked : ({ x with connectorIsAssociation := true } : Extraction).model.Keyed := h
      exact keyed_modifyAssociation marked fun _ => rfl
    · exact h
  · exact keyed_modifyProperty h fun _ => rfl
  · exact keyed_modifyClass h fun _ => rfl
  · exact h

theorem keyed_startDocumentation (h : x.model.Keyed) (e : Element) :
    (x.startDocumentation e).model.Keyed := by
  unfold startDocumentation
  split
  · exact keyed_modifyProperty h fun _ => rfl
  · split
    · exact keyed_modifyAssociation h fun _ => rfl
    · exact keyed_modifyAssociation h fun _ => rfl
    · exact h

theorem keyed_startStereotype (h : x.model.Keyed) (e : Element) :
    (x.startStereotype e).model.Keyed := by
  unfold startStereotype
  split
  · exact h
  · split
    · exact h
    · exact keyed_modifyProperty h fun _ => rfl

theorem keyed_applyStereotype (h : x.model.Keyed) (e : Element) :
    (x.applyStereotype e).model.Keyed := by
  refine keyed_modifyProperty ?_ fun _ => rfl
  exact keyed_modifyClass h fun _ => rfl

theorem keyed_begin (h : x.model.Keyed) (c : Construct) (e : Element) :
    (x.begin c e).model.Keyed := by
  cases c with
  | packagedElement => exact keyed_startPackagedElement h e
  | ownedAttribute => exact keyed_startOwnedAttribute h e
  | ownedEnd => exact keyed_startOwnedEnd h e
  | memberEnd => exact keyed_startMemberEnd h e
  | type => exact keyed_startType h e
  | lowerValue | upperValue | bounds => exact keyed_modifyProperty h fun _ => rfl
  | generalization | project | extendedProperties => exact keyed_modifyClass h fun _ => rfl
  | source | target =>
    simp only [begin, startSide]
    split <;> exact h
  | role => exact keyed_startRole h e
  | tag => exact keyed_startTag h e
  | properties => exact keyed_startProperties h e
  | documentation => exact keyed_startDocumentation h e
  | stereotype => exact keyed_startStereotype h e
  | _ => exact h

theorem keyed_step (h : x.model.Keyed) (event : Event) : (x.step event).model.Keyed := by
  cases event with
  | start e =>
    simp only [step]
    split
    · exact keyed_begin h _ e
    · split
      · exact keyed_applyStereotype h e
      · exact h
  | finish name => rwa [model_step_finish]

theorem keyed_addComments {m : Model} (h : m.Keyed) (comments : String × List String) :
    (addComments m comments).Keyed := by
  refine Model.Keyed.modifyProperty ?_ fun _ => rfl
  exact h.modifyClass fun _ => rfl

theorem keyed_complete (h : x.model.Keyed) : x.complete.Keyed :=
  x.complete_induction h fun _ comments before => keyed_addComments before comments

end Extraction

theorem keyed_extract (skipped : List String) (events : List Event) :
    (extract skipped events).Keyed := by
  have steps (events : List Event) (x : Extraction) (h : x.model.Keyed) :
      (events.foldl Extraction.step x).model.Keyed := by
    induction events generalizing x with
    | nil => exact h
    | cons event events ih => exact ih _ (Extraction.keyed_step h event)
  have start : ({} : Model).Keyed := by
    constructor <;> exact Table.keyedBy_iff.mpr fun _ member => absurd member List.not_mem_nil
  exact Extraction.keyed_complete (steps events { skipped := skipped } start)

end Xmi

end UmlKotlin
