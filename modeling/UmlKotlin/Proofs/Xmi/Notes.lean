import UmlKotlin.Proofs.Uml.Documentation
import UmlKotlin.Proofs.Xmi.Part

/-!
What the elements of a document write about classes and properties as they begin. Main statement: at
every point of well-nested events the documentation of the model is what the elements that have
begun have written, one note after the other (`documentation_ofEvents`).
-/

set_option autoImplicit false

namespace UmlKotlin.Xmi

open Extraction (ofEvents ofEvents_concat)
open Uml (Documentation Model Note)
open Xml (Element Event Occurrence openAfter occurrences nesting_induction)

/-- What an element writes about a class: a class element creates it, and properties in its scope
document it. -/
def classNote? (o : Occurrence) : Option Note :=
  match constructOf? o.element with
  | some .packagedElement => (declaredId? Vocabulary.classType o.element).map .created
  | some .properties => (scopedId? .element o.around).map fun id =>
      .adds id (o.element.plain? "documentation")
  | _ => none

/-- What an element writes about a property: its own element creates it, and documentation in its
scope documents it. -/
def propertyNote? (o : Occurrence) : Option Note :=
  if isRead o then some (.created (readId o.element))
  else match constructOf? o.element with
  | some .documentation => (scopedId? .attribute o.around).map fun id =>
      .adds id (o.element.plain? "value")
  | _ => none

variable {skipped : List String} {events : List Event} {around : List Element} {x y : Extraction}
  {e : Element}

namespace Extraction

def documented : Part (Option String) (Option String) where
  ofClass := (·.documentation)
  ofProperty := (·.documentation)
  newClass := none
  newProperty := none
  created _ _ _ _ := rfl
  read _ := rfl
  members _ _ := rfl
  classMark _ _ := rfl
  classMetadata _ _ := rfl
  classStereotype _ _ := rfl
  mark _ _ := rfl
  metadata _ _ := rfl
  stereotype _ _ := rfl
  type _ _ _ := rfl

theorem documentation_of_keeps (h : documented.Keeps x y) :
    y.model.documentation = x.model.documentation :=
  congrArg₂ Documentation.mk h.classes h.properties

def writing : List Construct :=
  [.packagedElement, .ownedAttribute, .ownedEnd, .properties, .documentation]

theorem documentation_begin {c : Construct} (x : Extraction) (e : Element) (other : c ∉ writing) :
    (x.begin c e).model.documentation = x.model.documentation := by
  apply documentation_of_keeps
  cases c with
  | packagedElement | ownedAttribute | ownedEnd | properties | documentation =>
    simp [writing] at other
  | lowerValue | upperValue | bounds => exact Part.Keeps.self.modifyProperty fun _ => rfl
  | generalization => exact Part.Keeps.self.modifyClass fun _ => rfl
  | _ => exact documented.keeps_begin x e (by decide)

theorem documentation_startPackagedElement (x : Extraction) (packaged : isPackaged e = true) :
    (x.startPackagedElement e).model.documentation =
      { x.model.documentation with
        classes := (declaredId? Vocabulary.classType e).elim x.model.documentation.classes
          fun id => x.model.documentation.classes.insert id none } :=
  congrArg₂ Documentation.mk (documented.classes_startPackagedElement x packaged)
    (documented.properties_startPackagedElement x e)

theorem write_propertyNote (t : Table String (Option String)) (around : List Element)
    (other : constructOf? e ≠ some .documentation) :
    (propertyNote? ⟨e, around⟩).elim t (Note.write t) =
      if isRead ⟨e, around⟩ then t.insert (readId e) none else t := by
  unfold propertyNote?
  split
  · rfl
  · split
    · contradiction
    · rfl

theorem documentation_startOwnedAttribute (situated : x.Situated around)
    (construct : constructOf? e = some .ownedAttribute) :
    (x.startOwnedAttribute e).model.documentation =
      { x.model.documentation with
        properties := (propertyNote? ⟨e, around⟩).elim x.model.documentation.properties
          (Note.write x.model.documentation.properties) } := by
  rw [write_propertyNote _ _ (by simp [construct])]
  obtain ⟨classes, properties⟩ := documented.parts_startOwnedAttribute x construct situated
  exact congrArg₂ Documentation.mk classes properties

theorem documentation_startOwnedEnd (situated : x.Situated around)
    (construct : constructOf? e = some .ownedEnd) :
    (x.startOwnedEnd e).model.documentation =
      { x.model.documentation with
        properties := (propertyNote? ⟨e, around⟩).elim x.model.documentation.properties
          (Note.write x.model.documentation.properties) } := by
  rw [write_propertyNote _ _ (by simp [construct])]
  obtain ⟨classes, properties⟩ := documented.parts_startOwnedEnd x construct situated
  exact congrArg₂ Documentation.mk classes properties

theorem write_filter {α : Type} {docs : Table String (Option String)} {t : Table String α}
    (keys : docs.keys = t.keys) (ref text : Option String) :
    ((ref.filter t.contains).map (Note.adds · text)).elim docs (Note.write docs) =
      (ref.map (Note.adds · text)).elim docs (Note.write docs) := by
  cases ref with
  | none => rfl
  | some id =>
    by_cases known : t.contains id = true
    · rw [Option.filter_some_pos known]
    · have absent : id ∉ docs.keys := by simpa [Table.contains, ← keys] using known
      rw [Option.filter_some_neg (by simpa using known)]
      have kept : (Note.adds id text).write docs = docs := Table.modify_of_not_mem _ absent
      exact kept.symm

theorem documentation_startProperties (situated : x.Situated around)
    (construct : constructOf? e = some .properties) :
    (x.startProperties e).model.documentation =
      { x.model.documentation with
        classes := (classNote? ⟨e, around⟩).elim x.model.documentation.classes
          (Note.write x.model.documentation.classes) } := by
  have keys : x.model.documentation.classes.keys = x.model.classes.keys := Table.keys_map _ _
  have note : classNote? ⟨e, around⟩ = (x.scopes.current.refOf? .element).map
      (Note.adds · (e.plain? "documentation")) := by simp only [classNote?, construct, situated.scope]
  rw [note, ← write_filter keys, startProperties]
  -- in a scope of another kind no class is meant
  have other (h : x.scopes.current.kind ≠ .element) :
      x.scopes.current.refOf? .element = none := if_neg h
  split
  · rename_i kind
    rw [other (by simp [kind])]
    split
    · exact documentation_of_keeps (Part.Keeps.modifyAssociation ⟨rfl, rfl⟩)
    · rfl
  · rename_i kind
    rw [other (by simp [kind])]
    exact documentation_of_keeps (Part.Keeps.self.modifyProperty fun _ => rfl)
  · rw [← scopedClass]
    cases x.scopedClass with
    | none => rfl
    | some id => exact Model.documentation_addToClass _ _ fun _ => rfl
  · rename_i kind
    rw [other (by simp [kind])]
    rfl

theorem documentation_startDocumentation (situated : x.Situated around)
    (construct : constructOf? e = some .documentation) :
    (x.startDocumentation e).model.documentation =
      { x.model.documentation with
        properties := (propertyNote? ⟨e, around⟩).elim x.model.documentation.properties
          (Note.write x.model.documentation.properties) } := by
  have keys : x.model.documentation.properties.keys = x.model.properties.keys :=
    Table.keys_map _ _
  have note : propertyNote? ⟨e, around⟩ = (x.scopes.current.refOf? .attribute).map
      (Note.adds · (e.plain? "value")) := by simp [propertyNote?, isRead, construct, situated.scope]
  rw [note, ← write_filter keys, ← scopedProperty, startDocumentation]
  cases x.scopedProperty with
  | some id => exact Model.documentation_addToProperty _ _ fun _ => rfl
  | none =>
    dsimp only
    split
    · exact documentation_of_keeps Part.Keeps.self.modifyAssociation
    · exact documentation_of_keeps Part.Keeps.self.modifyAssociation
    · rfl

theorem documentation_step_start (situated : x.Situated around) :
    (x.step (.start e)).model.documentation = {
      classes := (classNote? ⟨e, around⟩).elim x.model.documentation.classes
        (Note.write x.model.documentation.classes)
      properties := (propertyNote? ⟨e, around⟩).elim x.model.documentation.properties
        (Note.write x.model.documentation.properties) } := by
  cases construct : constructOf? e with
  | none =>
    have unread : isRead ⟨e, around⟩ = false := by simp [isRead, construct]
    simp only [classNote?, propertyNote?, unread, construct]
    rw [constructOf?] at construct
    simp only [step, construct]
    split
    · exact documentation_of_keeps (documented.keeps_applyStereotype x e)
    · rfl
  | some c =>
    rw [step_start_eq construct]
    cases c with
    | packagedElement =>
      have unread : isRead ⟨e, around⟩ = false := by simp [isRead, construct]
      refine (documentation_startPackagedElement x (by simp [isPackaged, construct])).trans ?_
      simp only [classNote?, propertyNote?, unread, construct]
      cases declaredId? Vocabulary.classType e <;> rfl
    | ownedAttribute =>
      refine (documentation_startOwnedAttribute situated construct).trans ?_
      simp only [classNote?, construct]
      rfl
    | ownedEnd =>
      refine (documentation_startOwnedEnd situated construct).trans ?_
      simp only [classNote?, construct]
      rfl
    | properties =>
      have unread : isRead ⟨e, around⟩ = false := by simp [isRead, construct]
      refine (documentation_startProperties situated construct).trans ?_
      simp only [propertyNote?, unread, construct]
      rfl
    | documentation =>
      refine (documentation_startDocumentation situated construct).trans ?_
      simp only [classNote?, construct]
      rfl
    | _ =>
      simp only [classNote?, propertyNote?, isRead, construct]
      exact documentation_begin x e (by decide)

end Extraction

theorem documentation_ofEvents (h : openAfter events = some around) :
    (ofEvents skipped events).model.documentation = {
      classes := Note.written ((occurrences events).filterMap classNote?)
      properties := Note.written ((occurrences events).filterMap propertyNote?) } := by
  refine nesting_induction (motive := fun events _ =>
    (ofEvents skipped events).model.documentation = {
      classes := Note.written ((occurrences events).filterMap classNote?)
      properties := Note.written ((occurrences events).filterMap propertyNote?) }) ?_ ?_ ?_ h
  · rfl
  · intro pre around e opened before
    have more (note? : Occurrence → Option Note) :
        (occurrences (pre ++ [.start e])).filterMap note? =
          (occurrences pre).filterMap note? ++ (note? ⟨e, around⟩).toList := by
      rw [Xml.occurrences_append_start opened]
      simp [List.filterMap_eq_flatMap_toList]
    rw [ofEvents_concat, Extraction.documentation_step_start (Extraction.situated_ofEvents opened),
      before, more, more, Note.written_append_toList, Note.written_append_toList]
  · intro pre e outer opened before
    rw [ofEvents_concat, Extraction.model_step_finish, before, Xml.occurrences_append_finish opened]

end UmlKotlin.Xmi
