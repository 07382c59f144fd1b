import Mathlib.Data.List.DropRight
import UmlKotlin.Proofs.Xmi.Documentation

/-!
What comments reach. A comment is about one thing, however many elements it annotates. Main
statement: its text is a paragraph about that thing, and it is one about anything else only where
the same text is also said otherwise (`comment_reaches_iff`).
-/

set_option autoImplicit false

namespace UmlKotlin.Xmi

open Extraction (ofEvents)
open Text (blank nonBlank? paragraphs?)
open Uml (Documentation Model Note)
open Xml (Element Event Occurrence WellNested occurrences)

/-! ### All that is said about something -/

def declaresClass (id : String) (o : Occurrence) : Bool :=
  declaredId? Vocabulary.classType o.element == some id

def declaresProperty (id : String) (o : Occurrence) : Bool := isRead o && readId o.element == id

/-- What a document says in the scopes of a class behind the last element that declares it. -/
def scopeTextsOfClass (id : String) (os : List Occurrence) : List String :=
  (os.rtakeWhile fun o => !declaresClass id o).filterMap (classText? id)

/-- What a document says in the scopes of a property behind the last element that declares it. -/
def scopeTextsOfProperty (id : String) (os : List Occurrence) : List String :=
  (os.rtakeWhile fun o => !declaresProperty id o).filterMap (propertyText? id)

/-- The paragraphs about a class: those of its scopes, and then the comments about it. -/
def textsOfClass (id : String) (os : List Occurrence) : List String :=
  scopeTextsOfClass id os ++ bodiesAbout id (commentsOf os)

def textsOfProperty (id : String) (os : List Occurrence) : List String :=
  scopeTextsOfProperty id os ++ bodiesAbout id (commentsOf os)

variable {skipped : List String} {events : List Event} {os later : List Occurrence}
  {o : Occurrence} {id body : String}

theorem exists_last {α : Type} {p : α → Bool} {xs : List α} (h : ∃ x ∈ xs, p x = true) :
    ∃ before x, xs = before ++ x :: xs.rtakeWhile (fun x => !p x) ∧ p x = true := by
  have front : xs.rdropWhile (fun x => !p x) ≠ [] := by
    intro none
    obtain ⟨x, member, hx⟩ := h
    simpa [hx] using List.rdropWhile_eq_nil_iff.mp none x member
  have last := List.rdropWhile_last_not (fun x => !p x) xs front
  refine ⟨(xs.rdropWhile fun x => !p x).dropLast, (xs.rdropWhile fun x => !p x).getLast front, ?_,
    by simpa using last⟩
  rw [List.append_cons, List.dropLast_append_getLast, List.rdropWhile_append_rtakeWhile]

theorem paragraphs_of_get? (h : WellNested events) (apart : CommentsApart (occurrences events))
    {note? : Occurrence → Option Note} {declares : Occurrence → Bool} {text : Option String}
    (created : ∀ o, note? o = some (.created id) ↔ declares o = true)
    (found : (Note.written ((occurrences events).filterMap note? ++
      (ofEvents skipped events).pendingComments.entries.map noteOf)).get? id = some text) :
    text = paragraphs? (((((occurrences events).rtakeWhile fun o => !declares o).filterMap
      note?).filterMap (Note.about? id)).filterMap nonBlank? ++
        bodiesAbout id (commentsOf (occurrences events))) := by
  have some : ∃ o ∈ occurrences events, declares o = true := by
    rcases List.mem_append.mp (Note.created_of_get?_written found) with made | waits
    · obtain ⟨o, member, made⟩ := List.mem_filterMap.mp made
      exact ⟨o, member, (created o).mp made⟩
    · -- no comment creates anything
      simp [noteOf] at waits
  obtain ⟨before, o, split, made⟩ := exists_last some
  have last : ∀ o' ∈ (occurrences events).rtakeWhile (fun o => !declares o),
      note? o' ≠ Option.some (.created id) := by
    intro o' member again
    simpa [(created o').mp again] using List.mem_rtakeWhile_imp member
  rw [get?_written_notes skipped h apart split ((created o).mpr made) last] at found
  exact (Option.some.inj found).symm

theorem documentation_eq_textsOfClass (h : WellNested events)
    (apart : CommentsApart (occurrences events)) {c : Uml.Class}
    (found : (extract skipped events).classes.get? id = some c) :
    c.documentation = paragraphs? (textsOfClass id (occurrences events)) := by
  have known := congrArg (fun d => d.classes.get? id) (documentation_extract skipped h)
  simp only [Model.documentation, Table.get?_map, found, Option.map_some] at known
  have created (o : Occurrence) : classNote? o = some (.created id) ↔ declaresClass id o = true := by
    rw [classNote?_created, declaresClass, beq_iff_eq]
  rw [paragraphs_of_get? h apart created known.symm, filterMap_classText]
  rfl

theorem documentation_eq_textsOfProperty (h : WellNested events)
    (apart : CommentsApart (occurrences events)) {p : Uml.Property}
    (found : (extract skipped events).properties.get? id = some p) :
    p.documentation = paragraphs? (textsOfProperty id (occurrences events)) := by
  have known := congrArg (fun d => d.properties.get? id) (documentation_extract skipped h)
  simp only [Model.documentation, Table.get?_map, found, Option.map_some] at known
  have created (o : Occurrence) :
      propertyNote? o = some (.created id) ↔ declaresProperty id o = true := by
    rw [propertyNote?_created, declaresProperty, Bool.and_eq_true, beq_iff_eq]
  rw [paragraphs_of_get? h apart created known.symm, filterMap_propertyText]
  rfl

/-! ### Which comments are about something -/

def target? (o : Occurrence) (later : List Occurrence) : Option String :=
  (nonBlank? (lastRef? none o later)).or (innermostId? Vocabulary.classType o.around)

/-- A comment refers to something by an annotated element right inside of it. -/
def Annotates (o : Occurrence) (later : List Occurrence) (id : String) : Prop :=
  ∃ a ∈ inside o later, isAnnotated a = true ∧ a.around = o.element :: o.around ∧
    a.element.get? Vocabulary.xmiIdref = some id

/-- A comment that is about something in the end, with its text. -/
structure IsAbout (o : Occurrence) (later : List Occurrence) (id body : String) : Prop where
  comment : isComment o.element = true
  target : target? o later = some id
  body : nonBlank? (o.element.plain? "body") = some body

theorem commentAbout?_eq_some : commentAbout? o (lastRef? none o later) = some (id, body) ↔
    target? o later = some id ∧ nonBlank? (o.element.plain? "body") = some body := by
  rw [commentAbout?, ← target?]
  cases target? o later with
  | none => simp
  | some target =>
    cases nonBlank? (o.element.plain? "body") with
    | none => simp
    | some text => simp

theorem mem_commentsOf : (id, body) ∈ commentsOf os ↔
    ∃ before o later, os = before ++ o :: later ∧ IsAbout o later id body := by
  induction os with
  | nil => simp [commentsOf]
  | cons first rest ih =>
    rw [commentsOf, List.mem_append, ih]
    constructor
    · rintro (own | ⟨before, o, later, rfl, about⟩)
      · by_cases comment : isComment first.element = true
        · rw [if_pos comment, Option.mem_toList, commentAbout?_eq_some] at own
          exact ⟨[], first, rest, rfl, comment, own.1, own.2⟩
        · rw [if_neg comment] at own
          cases own
      · exact ⟨first :: before, o, later, rfl, about⟩
    · rintro ⟨before, o, later, split, about⟩
      cases before with
      | nil =>
        obtain ⟨rfl, rfl⟩ := List.cons.inj split
        left
        rw [if_pos about.comment, Option.mem_toList, commentAbout?_eq_some]
        exact ⟨about.target, about.body⟩
      | cons _ before =>
        obtain ⟨rfl, rfl⟩ := List.cons.inj split
        exact .inr ⟨before, o, later, rfl, about⟩

theorem mem_bodiesAbout {comments : List (String × String)} :
    body ∈ bodiesAbout id comments ↔ (id, body) ∈ comments := by
  rw [bodiesAbout, List.mem_filterMap]
  constructor
  · rintro ⟨⟨id', body'⟩, member, kept⟩
    split at kept
    · rename_i same
      cases kept
      exact same ▸ member
    · cases kept
  · intro member
    exact ⟨(id, body), member, if_pos rfl⟩

def SaidByAnother (os before : List Occurrence) (id body : String) : Prop :=
  ∃ before' o later, os = before' ++ o :: later ∧ before' ≠ before ∧ IsAbout o later id body

/-- A comment is one of those about something if it is about it in the end, or if another one
says the same. -/
theorem mem_bodiesAbout_iff (before later : List Occurrence) (id : String)
    (comment : isComment o.element = true)
    (said : nonBlank? (o.element.plain? "body") = some body) :
    body ∈ bodiesAbout id (commentsOf (before ++ o :: later)) ↔
      target? o later = some id ∨ SaidByAnother (before ++ o :: later) before id body := by
  rw [mem_bodiesAbout, mem_commentsOf]
  constructor
  · rintro ⟨before', o', later', split, about⟩
    by_cases same : before' = before
    · subst same
      obtain ⟨rfl, rfl⟩ := List.cons.inj (List.append_cancel_left split)
      exact .inl about.target
    · exact .inr ⟨before', o', later', split, same, about⟩
  · rintro (target | ⟨before', o', later', split, -, about⟩)
    · exact ⟨before, o, later, rfl, comment, target, said⟩
    · exact ⟨before', o', later', split, about⟩

theorem target?_of_annotates (annotated : Annotates o later id)
    (alone : ∀ a ∈ inside o later, isAnnotated a = true →
      a.element.get? Vocabulary.xmiIdref = some id) (shown : blank (some id) = false) :
    target? o later = some id := by
  obtain ⟨a, member, isA, -, -⟩ := annotated
  have some : (inside o later).filter isAnnotated ≠ [] := by
    intro none
    exact List.not_mem_nil (none ▸ List.mem_filter.mpr ⟨member, isA⟩)
  have found := List.getLast?_eq_some_getLast some
  generalize ((inside o later).filter isAnnotated).getLast some = last at found
  obtain ⟨within, isLast⟩ := List.mem_filter.mp (List.mem_of_getLast? found)
  have ref : lastRef? none o later = Option.some id := by
    rw [lastRef?, found]
    exact alone last within isLast
  have kept : nonBlank? (Option.some id) = Option.some id :=
    Option.filter_some_pos (by simpa using shown)
  rw [target?, ref, kept, Option.some_or]

/-- The documentation of each class and each property is all that the document says about it. The
text of a comment is in it where the comment is about it in the end, and elsewhere only if a scope or
another comment says the same; a comment of which all annotated elements refer to one thing is about
that. -/
theorem comment_reaches_iff (skipped : List String) (h : WellNested events)
    (apart : CommentsApart (occurrences events)) :
    (∀ id c, (extract skipped events).classes.get? id = some c →
      c.documentation = paragraphs? (textsOfClass id (occurrences events))) ∧
    (∀ id p, (extract skipped events).properties.get? id = some p →
      p.documentation = paragraphs? (textsOfProperty id (occurrences events))) ∧
    ∀ before o later body id, occurrences events = before ++ o :: later →
      isComment o.element = true → nonBlank? (o.element.plain? "body") = some body →
      (body ∈ textsOfClass id (occurrences events) ↔ target? o later = some id ∨
        body ∈ scopeTextsOfClass id (occurrences events) ∨
          SaidByAnother (occurrences events) before id body) ∧
      (body ∈ textsOfProperty id (occurrences events) ↔ target? o later = some id ∨
        body ∈ scopeTextsOfProperty id (occurrences events) ∨
          SaidByAnother (occurrences events) before id body) ∧
      (Annotates o later id → (∀ a ∈ inside o later, isAnnotated a = true →
        a.element.get? Vocabulary.xmiIdref = some id) → blank (some id) = false →
          target? o later = some id) := by
  refine ⟨fun id c => documentation_eq_textsOfClass h apart,
    fun id p => documentation_eq_textsOfProperty h apart, ?_⟩
  intro before o later body id split comment said
  have about := mem_bodiesAbout_iff before later id comment said
  rw [← split] at about
  refine ⟨?_, ?_, target?_of_annotates⟩
  · rw [textsOfClass, List.mem_append, about, or_left_comm]
  · rw [textsOfProperty, List.mem_append, about, or_left_comm]

def commentOnTwo : List Event :=
  let cls (id : String) : Element := ⟨⟨none, "packagedElement"⟩,
    [⟨Vocabulary.xmiType, Vocabulary.classType⟩, ⟨Vocabulary.xmiId, id⟩], []⟩
  let comment : Element := ⟨⟨none, "ownedComment"⟩, [⟨⟨none, "body"⟩, "Begge."⟩], []⟩
  let annotated (id : String) : Element :=
    ⟨⟨none, "annotatedElement"⟩, [⟨Vocabulary.xmiIdref, id⟩], []⟩
  [.start (cls "A"), .finish (cls "A").name, .start (cls "B"), .finish (cls "B").name,
    .start comment, .start (annotated "A"), .finish (annotated "A").name,
    .start (annotated "B"), .finish (annotated "B").name, .finish comment.name]

theorem comment_reaches_last :
    WellNested commentOnTwo ∧ CommentsApart (occurrences commentOnTwo) ∧
      "Begge." ∈ textsOfClass "B" (occurrences commentOnTwo) ∧
      ((extract [] commentOnTwo).classes.get? "B").map (·.documentation) =
        some (paragraphs? (textsOfClass "B" (occurrences commentOnTwo))) := by
  have nested : WellNested commentOnTwo := by decide
  have apart : CommentsApart (occurrences commentOnTwo) := by
    unfold CommentsApart
    decide
  obtain ⟨classes, -, comments⟩ := comment_reaches_iff [] nested apart
  have split : occurrences commentOnTwo =
      (occurrences commentOnTwo).take 2 ++ (occurrences commentOnTwo)[2] ::
        (occurrences commentOnTwo).drop 3 := rfl
  obtain ⟨reached, -, -⟩ := comments _ _ _ "Begge." "B" split (by decide) (by decide)
  obtain ⟨c, found⟩ : ∃ c, (extract [] commentOnTwo).classes.get? "B" = some c :=
    Option.isSome_iff_exists.mp (by decide)
  refine ⟨nested, apart, reached.mpr (.inl (by decide)), ?_⟩
  rw [found, Option.map_some, classes "B" c found]

/-- The first of two classes that a comment annotates has no documentation. -/
theorem comment_misses_first :
    WellNested commentOnTwo ∧ CommentsApart (occurrences commentOnTwo) ∧
      ((occurrences commentOnTwo).filterMap fun o =>
        declaredId? Vocabulary.classType o.element) = ["A", "B"] ∧
      (∃ before o later, occurrences commentOnTwo = before ++ o :: later ∧
        isComment o.element = true ∧ nonBlank? (o.element.plain? "body") = some "Begge." ∧
        Annotates o later "A") ∧
      ((extract [] commentOnTwo).classes.get? "A").map (·.documentation) = some none := by
  refine ⟨by decide, ?_, by decide, ⟨(occurrences commentOnTwo).take 2,
    (occurrences commentOnTwo)[2], (occurrences commentOnTwo).drop 3, rfl, by decide, by decide,
    ?_⟩, by decide⟩
  · unfold CommentsApart
    decide
  · unfold Annotates
    decide

end UmlKotlin.Xmi
