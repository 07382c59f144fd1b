import UmlKotlin.Proofs.Table
import UmlKotlin.Proofs.Text.Paragraph
import UmlKotlin.Uml.Model

/-!
What is written about the classes and the properties of a model. Main statement: if an entity is
created and text is written about it one note after the other, its documentation is what the notes
behind its creation add, joined in their order (`get?_written`).
-/

set_option autoImplicit false

namespace UmlKotlin.Uml

open Text (addParagraph joinParagraphs joinParagraphs_append_singleton)

/-- The documentation of the classes and of the properties. -/
structure Documentation where
  classes : Table String (Option String)
  properties : Table String (Option String)

def Model.documentation (m : Model) : Documentation where
  classes := m.classes.map fun _ c => c.documentation
  properties := m.properties.map fun _ p => p.documentation

/-- An entity is created without documentation, or a paragraph about it is added. -/
inductive Note
  | created (id : String)
  | adds (id : String) (text : Option String)
  deriving DecidableEq, Repr

namespace Note

def write (t : Table String (Option String)) : Note → Table String (Option String)
  | .created id => t.insert id none
  | .adds id text => t.modify id fun before => addParagraph before text

def about? (id : String) : Note → Option (Option String)
  | .created _ => none
  | .adds id' text => if id' = id then some text else none

def written (notes : List Note) : Table String (Option String) := notes.foldl write ∅

theorem written_append (notes more : List Note) :
    written (notes ++ more) = more.foldl write (written notes) :=
  List.foldl_append

theorem written_append_toList (notes : List Note) (note : Option Note) :
    written (notes ++ note.toList) = note.elim (written notes) (write (written notes)) := by
  cases note with
  | none => simp
  | some note => exact written_append notes [note]

/-- The documentation of an entity is what was written about it since it was created. -/
theorem get?_written {before later : List Note} {id : String} (last : .created id ∉ later) :
    (written (before ++ .created id :: later)).get? id =
      some (joinParagraphs (later.filterMap (about? id))) := by
  induction later using List.reverseRecOn with
  | nil =>
    rw [written_append, List.foldl_cons, List.foldl_nil, write, Table.get?_insert, if_pos rfl]
    rfl
  | append_singleton later note ih =>
    simp only [List.mem_append, List.mem_singleton, not_or] at last
    have ih := ih last.1
    rw [← List.cons_append, ← List.append_assoc, written_append, List.foldl_cons, List.foldl_nil,
      List.filterMap_append]
    cases note with
    | created id' =>
      have other : id ≠ id' := fun same => last.2 (congrArg Note.created same)
      rw [write, Table.get?_insert, if_neg other, ih]
      simp [List.filterMap_cons, about?]
    | adds id' text =>
      rw [write, Table.get?_modify]
      by_cases same : id = id'
      · subst same
        simp [ih, about?, joinParagraphs_append_singleton]
      · simp [ih, about?, same, Ne.symm same]

theorem created_of_get?_written {notes : List Note} {id : String} {text : Option String}
    (h : (written notes).get? id = some text) : created id ∈ notes := by
  induction notes using List.reverseRecOn generalizing text with
  | nil => cases h
  | append_singleton notes note ih =>
    rw [written_append, List.foldl_cons, List.foldl_nil] at h
    rw [List.mem_append]
    cases note with
    | created id' =>
      rw [write, Table.get?_insert] at h
      split at h
      · rename_i same
        exact .inr (by rw [same]; exact List.mem_singleton.mpr rfl)
      · exact .inl (ih h)
    | adds id' added =>
      rw [write, Table.get?_modify] at h
      split at h
      · obtain ⟨text, h, -⟩ := Option.map_eq_some_iff.mp h
        exact .inl (ih h)
      · exact .inl (ih h)

end Note

/-! ### Changes of a model -/

namespace Model

variable (m : Model) (id : String)

theorem documentation_addToClass {f : Class → Class} {text : Option String}
    (more : ∀ c, (f c).documentation = addParagraph c.documentation text) :
    (m.modifyClass id f).documentation =
      { m.documentation with classes := (Note.adds id text).write m.documentation.classes } := by
  have classes := @Table.map_modify_comm String Class (Option String) _ Class.documentation f
    (fun before => addParagraph before text) more m.classes id
  simp only [modifyClass, documentation, Note.write, classes]

theorem documentation_addToProperty {f : Property → Property} {text : Option String}
    (more : ∀ p, (f p).documentation = addParagraph p.documentation text) :
    (m.modifyProperty id f).documentation =
      { m.documentation with
        properties := (Note.adds id text).write m.documentation.properties } := by
  have properties := @Table.map_modify_comm String Property (Option String) _
    Property.documentation f (fun before => addParagraph before text) more m.properties id
  simp only [modifyProperty, documentation, Note.write, properties]

end Model

end UmlKotlin.Uml
