import UmlKotlin.Proofs.Xmi.Comments
import UmlKotlin.Proofs.Xmi.Notes

/-!
How documentation is put together. Main statement: what the model says about a class or a property is
what its scope says behind the element that creates it, followed by the comments about it, all in
document order, with a break between them (`documentation_assembled`).
-/

set_option autoImplicit false

namespace UmlKotlin.Xmi

open Extraction (ofEvents)
open Text (blank joinParagraphs joinParagraphs_append_singleton joinParagraphs_eq nonBlank?
  paragraphBreak paragraphs?)
open Uml (Documentation Model Note)
open Xml (Element Event Occurrence WellNested occurrences)

def classText? (id : String) (o : Occurrence) : Option String :=
  if constructOf? o.element = some .properties ∧ scopedId? .element o.around = some id then
    nonBlank? (o.element.plain? "documentation")
  else none

/-- The text that a documentation element in the scope of a property gives to it. -/
def propertyText? (id : String) (o : Occurrence) : Option String :=
  if constructOf? o.element = some .documentation ∧ scopedId? .attribute o.around = some id then
    nonBlank? (o.element.plain? "value")
  else none

def bodiesAbout (id : String) (comments : List (String × String)) : List String :=
  comments.filterMap fun c => if c.1 = id then some c.2 else none

variable {skipped : List String} {events : List Event} {before later : List Occurrence}
  {o : Occurrence} {id : String}

/-! ### Waiting comments -/

theorem get?_queued (comments : List (String × String)) (id : String) :
    (comments.foldl queue ∅).get? id =
      if bodiesAbout id comments = [] then none else some (bodiesAbout id comments) := by
  induction comments using List.reverseRecOn with
  | nil => rfl
  | append_singleton comments c ih =>
    rw [List.foldl_append, List.foldl_cons, List.foldl_nil, queue, Table.get?_insert]
    by_cases same : id = c.1
    · subst same
      have more : bodiesAbout c.1 (comments ++ [c]) = bodiesAbout c.1 comments ++ [c.2] := by
        simp [bodiesAbout]
      rw [if_pos rfl, more, if_neg (by simp), ih]
      by_cases first : bodiesAbout c.1 comments = []
      · simp [first]
      · simp [first]
    · have more : bodiesAbout id (comments ++ [c]) = bodiesAbout id comments := by
        simp [bodiesAbout, Ne.symm same]
      rw [if_neg same, more, ih]

theorem filled_bodiesAbout (os : List Occurrence) :
    ∀ body ∈ bodiesAbout id (commentsOf os), blank (some body) = false := by
  intro body member
  obtain ⟨c, comment, kept⟩ := List.mem_filterMap.mp member
  obtain rfl : c.2 = body := by
    split at kept
    · exact Option.some.inj kept
    · cases kept
  clear member kept
  induction os with
  | nil => cases comment
  | cons o later ih =>
    rcases List.mem_append.mp comment with comment | comment
    · split at comment
      · obtain ⟨target, -, body⟩ := Option.bind_eq_some_iff.mp (Option.mem_toList.mp comment)
        obtain ⟨body, given, rfl⟩ := Option.map_eq_some_iff.mp body
        exact Text.blank_of_nonBlank? given
      · cases comment
    · exact ih comment

def noteOf (c : String × List String) : Note := .adds c.1 (some (paragraphBreak.intercalate c.2))

theorem documentation_complete (x : Extraction) : x.complete.documentation = {
    classes := (x.pendingComments.entries.map noteOf).foldl Note.write x.model.documentation.classes
    properties :=
      (x.pendingComments.entries.map noteOf).foldl Note.write x.model.documentation.properties } := by
  have added (comments : List (String × List String)) (m : Model) :
      (comments.foldl Extraction.addComments m).documentation = {
        classes := (comments.map noteOf).foldl Note.write m.documentation.classes
        properties := (comments.map noteOf).foldl Note.write m.documentation.properties } := by
    induction comments generalizing m with
    | nil => rfl
    | cons c comments ih =>
      have step : (Extraction.addComments m c).documentation = {
          classes := (noteOf c).write m.documentation.classes
          properties := (noteOf c).write m.documentation.properties } := by
        rw [Extraction.addComments, Model.documentation_addToProperty _ _ fun _ => rfl,
          Model.documentation_addToClass _ _ fun _ => rfl]
        rfl
      rw [List.foldl_cons, ih, step]
      rfl
  exact added _ _

theorem documentation_extract (skipped : List String) (h : WellNested events) :
    (extract skipped events).documentation = {
      classes := Note.written ((occurrences events).filterMap classNote? ++
        (ofEvents skipped events).pendingComments.entries.map noteOf)
      properties := Note.written ((occurrences events).filterMap propertyNote? ++
        (ofEvents skipped events).pendingComments.entries.map noteOf) } := by
  have noted : (ofEvents skipped events).model.documentation = _ := documentation_ofEvents h
  rw [extract, documentation_complete]
  rw [← ofEvents, noted, Note.written_append, Note.written_append]

theorem joinParagraphs_notes (skipped : List String) (h : WellNested events)
    (apart : CommentsApart (occurrences events)) (notes : List Note) :
    joinParagraphs ((notes ++ (ofEvents skipped events).pendingComments.entries.map
        noteOf).filterMap (Note.about? id)) =
      paragraphs? ((notes.filterMap (Note.about? id)).filterMap nonBlank? ++
        bodiesAbout id (commentsOf (occurrences events))) := by
  have waiting : ((ofEvents skipped events).pendingComments.entries.map noteOf).filterMap
      (Note.about? id) = (((ofEvents skipped events).pendingComments.get? id).map fun bodies =>
        some (paragraphBreak.intercalate bodies)).toList := by
    rw [← Table.filterMap_entries, List.filterMap_map]
    rfl
  have filled : ∀ text ∈ (notes.filterMap (Note.about? id)).filterMap nonBlank?,
      blank (some text) = false := by
    intro text member
    obtain ⟨given, -, kept⟩ := List.mem_filterMap.mp member
    exact Text.blank_of_nonBlank? kept
  rw [List.filterMap_append, waiting, pendingComments_ofEvents skipped h apart, get?_queued]
  by_cases quiet : bodiesAbout id (commentsOf (occurrences events)) = []
  · rw [if_pos quiet, quiet, Option.map_none, Option.toList_none, List.append_nil, List.append_nil,
      joinParagraphs_eq]
  · have joined : some (paragraphBreak.intercalate
        (bodiesAbout id (commentsOf (occurrences events)))) =
          paragraphs? (bodiesAbout id (commentsOf (occurrences events))) := (if_neg quiet).symm
    rw [if_neg quiet, Option.map_some, Option.toList_some, joinParagraphs_append_singleton, joined,
      joinParagraphs_eq, Text.addParagraph_paragraphs? filled (filled_bodiesAbout _)]

/-- What is written about something since the last element that creates it, and then the comments
about it. -/
theorem get?_written_notes (skipped : List String) (h : WellNested events)
    (apart : CommentsApart (occurrences events)) {note? : Occurrence → Option Note}
    (split : occurrences events = before ++ o :: later) (created : note? o = some (.created id))
    (last : ∀ o' ∈ later, note? o' ≠ some (.created id)) :
    (Note.written ((occurrences events).filterMap note? ++
        (ofEvents skipped events).pendingComments.entries.map noteOf)).get? id =
      some (paragraphs? (((later.filterMap note?).filterMap (Note.about? id)).filterMap nonBlank? ++
        bodiesAbout id (commentsOf (occurrences events)))) := by
  have behind : Note.created id ∉ later.filterMap note? ++
      (ofEvents skipped events).pendingComments.entries.map noteOf := by
    rw [List.mem_append, not_or]
    constructor
    · intro member
      obtain ⟨o', member, again⟩ := List.mem_filterMap.mp member
      exact last o' member again
    · -- no comment creates anything
      simp [noteOf]
  rw [← joinParagraphs_notes skipped h apart, split, List.filterMap_append,
    List.filterMap_cons_some created, List.append_assoc, List.cons_append,
    Note.get?_written behind]

/-! ### Notes about classes and properties -/

theorem filterMap_classText (id : String) (os : List Occurrence) :
    ((os.filterMap classNote?).filterMap (Note.about? id)).filterMap nonBlank? =
      os.filterMap (classText? id) := by
  rw [List.filterMap_filterMap, List.filterMap_filterMap]
  congr 1
  funext o
  rw [classNote?, classText?]
  split
  · rename_i construct
    cases declaredId? Vocabulary.classType o.element <;> simp [construct, Note.about?]
  · rename_i construct
    cases named : scopedId? .element o.around with
    | none => simp
    | some id' =>
      by_cases same : id' = id
      · simp [construct, Note.about?, same]
      · simp [Note.about?, same]
  · rename_i other
    exact (if_neg fun both => other both.1).symm

theorem filterMap_propertyText (id : String) (os : List Occurrence) :
    ((os.filterMap propertyNote?).filterMap (Note.about? id)).filterMap nonBlank? =
      os.filterMap (propertyText? id) := by
  rw [List.filterMap_filterMap, List.filterMap_filterMap]
  congr 1
  funext o
  rw [propertyNote?, propertyText?]
  split
  · rename_i read
    rcases construct_of_isRead read with construct | construct
    · simp [construct, Note.about?]
    · simp [construct, Note.about?]
  · split
    · rename_i construct
      cases named : scopedId? .attribute o.around with
      | none => simp
      | some id' =>
        by_cases same : id' = id
        · simp [construct, Note.about?, same]
        · simp [Note.about?, same]
    · rename_i other
      exact (if_neg fun both => other both.1).symm

theorem classNote?_created : classNote? o = some (.created id) ↔
    declaredId? Vocabulary.classType o.element = some id := by
  cases packaged : isPackaged o.element with
  | true => simp [classNote?, eq_of_beq packaged]
  | false =>
    rw [declaredId?_eq_none packaged, classNote?]
    split
    · rename_i construct
      simp [isPackaged, construct] at packaged
    · simp
    · simp

theorem propertyNote?_created : propertyNote? o = some (.created id) ↔
    isRead o = true ∧ readId o.element = id := by
  rw [propertyNote?]
  split
  · rename_i read
    simp [read]
  · rename_i unread
    split
    · simp [unread]
    · simp [unread]

/-- The documentation of a class whose element is not followed by another one with its identifier is
what the properties in its scope behind it document, and then the comments about it; so is that of a
property, by the documentation elements in its scope. -/
theorem documentation_assembled (skipped : List String) (events : List Event) (id : String)
    (h : WellNested events) (apart : CommentsApart (occurrences events))
    (before later : List Occurrence) (o : Occurrence)
    (split : occurrences events = before ++ o :: later) :
    (declaredId? Vocabulary.classType o.element = some id →
      (∀ o' ∈ later, declaredId? Vocabulary.classType o'.element ≠ some id) →
      ((extract skipped events).classes.get? id).map (·.documentation) =
        some (paragraphs? (later.filterMap (classText? id) ++
          bodiesAbout id (commentsOf (occurrences events))))) ∧
    (isRead o = true ∧ readId o.element = id →
      (∀ o' ∈ later, isRead o' = true → readId o'.element ≠ id) →
      ((extract skipped events).properties.get? id).map (·.documentation) =
        some (paragraphs? (later.filterMap (propertyText? id) ++
          bodiesAbout id (commentsOf (occurrences events))))) := by
  have known := documentation_extract skipped h
  constructor
  · intro declared last
    have classes : (extract skipped events).documentation.classes.get? id = _ :=
      congrArg (fun d => d.classes.get? id) known
    rw [get?_written_notes skipped h apart split (classNote?_created.mpr declared)
      fun o' member again => last o' member (classNote?_created.mp again),
      filterMap_classText] at classes
    simpa only [Model.documentation, Table.get?_map] using classes
  · intro read last
    have properties : (extract skipped events).documentation.properties.get? id = _ :=
      congrArg (fun d => d.properties.get? id) known
    dsimp only at properties
    rw [get?_written_notes skipped h apart split (propertyNote?_created.mpr read) fun o' member again =>
      last o' member (propertyNote?_created.mp again).1 (propertyNote?_created.mp again).2,
      filterMap_propertyText] at properties
    simpa only [Model.documentation, Table.get?_map] using properties

theorem documentation_of_class_and_property :
    let cls : Element := ⟨⟨none, "packagedElement"⟩,
      [⟨Vocabulary.xmiType, Vocabulary.classType⟩, ⟨Vocabulary.xmiId, "C"⟩], []⟩
    let owned : Element := ⟨⟨none, "ownedAttribute"⟩, [⟨Vocabulary.xmiId, "p"⟩], []⟩
    let comment (body : String) : Element := ⟨⟨none, "ownedComment"⟩, [⟨⟨none, "body"⟩, body⟩], []⟩
    let annotated : Element := ⟨⟨none, "annotatedElement"⟩, [⟨Vocabulary.xmiIdref, "p"⟩], []⟩
    let element : Element := ⟨⟨none, "element"⟩, [⟨Vocabulary.xmiIdref, "C"⟩], []⟩
    let properties : Element := ⟨⟨none, "properties"⟩, [⟨⟨none, "documentation"⟩, "A house."⟩], []⟩
    let attributeElement : Element := ⟨⟨none, "attribute"⟩, [⟨Vocabulary.xmiIdref, "p"⟩], []⟩
    let documentation : Element := ⟨⟨none, "documentation"⟩, [⟨⟨none, "value"⟩, "Its size."⟩], []⟩
    let events := [Event.start cls, .start owned, .finish owned.name,
      .start (comment "With a roof."), .finish (comment "").name, .start (comment "In metres."),
      .start annotated, .finish annotated.name, .finish (comment "").name, .finish cls.name,
      .start element, .start properties, .finish properties.name, .finish element.name,
      .start attributeElement, .start documentation, .finish documentation.name, .finish attributeElement.name]
    WellNested events ∧ CommentsApart (occurrences events) ∧
      ((extract [] events).classes.get? "C").map (·.documentation) =
        some (some "A house.\n\nWith a roof.") ∧
      ((extract [] events).properties.get? "p").map (·.documentation) =
        some (some "Its size.\n\nIn metres.") := by
  intro cls owned comment annotated element properties attributeElement documentation events
  have nested : WellNested events := by decide
  have apart : CommentsApart (occurrences events) := by
    unfold CommentsApart
    decide
  obtain ⟨ofClass, -⟩ := documentation_assembled [] events "C" nested apart [] _ ⟨cls, []⟩ rfl
  obtain ⟨-, ofProperty⟩ :=
    documentation_assembled [] events "p" nested apart [⟨cls, []⟩] _ ⟨owned, [cls]⟩ rfl
  refine ⟨nested, apart, (ofClass (by decide) (by decide)).trans ?_,
    (ofProperty (by decide) (by decide)).trans ?_⟩
  · decide
  · decide

end UmlKotlin.Xmi
