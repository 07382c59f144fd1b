import UmlKotlin.Proofs.Text.Paragraph
import UmlKotlin.Proofs.Xmi.Scopes

/-!
Comments of a document. A comment is about what its last annotated element refers to, or else about
the innermost class around it. Main statement: if no comment is inside another one, the comments that
wait at the end are those of the document, in document order (`pendingComments_ofEvents`).
-/

set_option autoImplicit false

namespace UmlKotlin.Xmi

open Extraction (ofEvents ofEvents_concat)
open Text (blank nonBlank?)
open Xml (Element Event Occurrence WellNested openAfter occurrences occurrencesIn)

def isComment (e : Element) : Bool := constructOf? e == some .ownedComment

def isAnnotated (o : Occurrence) : Bool := constructOf? o.element == some .annotatedElement

/-- What begins inside an element, where what begins behind it is given. -/
def inside (o : Occurrence) (later : List Occurrence) : List Occurrence :=
  later.takeWhile fun o' => o.around.length < o'.around.length

/-- What a comment is about, and its text, where it has been said what it refers to. A blank comment
and one about nothing do not count. -/
def commentAbout? (o : Occurrence) (ref : Option String) : Option (String × String) :=
  ((nonBlank? ref).or (innermostId? Vocabulary.classType o.around)).bind fun target =>
    (nonBlank? (o.element.plain? "body")).map (target, ·)

/-- The last reference of an annotated element inside a comment, or else the given one. -/
def lastRef? (given : Option String) (o : Occurrence) (later : List Occurrence) : Option String :=
  (((inside o later).filter isAnnotated).getLast?).elim given fun a =>
    a.element.get? Vocabulary.xmiIdref

def commentsOf : List Occurrence → List (String × String)
  | [] => []
  | o :: later =>
    (if isComment o.element then commentAbout? o (lastRef? none o later) else none).toList ++
      commentsOf later

/-- No comment is inside another one. -/
def CommentsApart (os : List Occurrence) : Prop :=
  ∀ o ∈ os, isComment o.element → ∀ e ∈ o.around, isComment e = false

def queue (t : Table String (List String)) (comment : String × String) :
    Table String (List String) :=
  t.insert comment.1 ((t.get? comment.1).getD [] ++ [comment.2])

variable {skipped : List String} {events pre rest : List Event} {around outer : List Element}
  {x : Extraction} {e : Element} {o : Occurrence}

/-- What begins where some elements are open is inside no element that was open deeper. -/
theorem inside_occurrencesIn (h : around.length ≤ o.around.length) :
    inside o (occurrencesIn around rest) = [] := by
  induction rest generalizing around with
  | nil => rfl
  | cons event rest ih =>
    cases event with
    | start e => exact List.takeWhile_cons_of_neg (by simpa using h)
    | finish name =>
      exact ih (by rw [List.length_tail]; omega)

theorem lastRef?_cons (given : Option String) {o' : Occurrence} {later : List Occurrence}
    (within : o.around.length < o'.around.length) : lastRef? given o (o' :: later) =
      lastRef? (if isAnnotated o' then o'.element.get? Vocabulary.xmiIdref else given) o later := by
  rw [lastRef?, inside, List.takeWhile_cons_of_pos (by simpa using within), lastRef?, inside]
  by_cases annotated : isAnnotated o' = true
  · rw [if_pos annotated, List.filter_cons_of_pos annotated, List.getLast?_cons]
    cases (List.filter isAnnotated _).getLast? <;> rfl
  · rw [if_neg annotated, List.filter_cons_of_neg annotated]

theorem commentsOf_cons_of_plain {later : List Occurrence} (h : isComment o.element = false) :
    commentsOf (o :: later) = commentsOf later := by
  rw [commentsOf, if_neg (by simp [h])]
  rfl

theorem innermostId?_cons_comment (kind : String) (h : isComment e = true) :
    innermostId? kind (e :: around) = innermostId? kind around := by
  have other : isOfKind kind e = false := by simp [isOfKind, isPackaged, eq_of_beq h]
  rw [innermostId?, List.find?_cons_of_neg (by simp [other]), innermostId?]

/-! ### The open comment -/

namespace Extraction

theorem comment_step_start (x : Extraction) (e : Element) (around : List Element) :
    (x.step (.start e)).pendingComments = x.pendingComments ∧ (x.step (.start e)).comment =
      if isComment e then some ⟨e.plain? "body", none⟩
      else if isAnnotated ⟨e, around⟩ then
        x.comment.map fun c => { c with target := e.get? Vocabulary.xmiIdref }
      else x.comment := by
  cases construct : constructOf? e with
  | none =>
    have continues := step_start_continues (x := x) (e := e) (by simp [construct])
    simp [isComment, isAnnotated, construct, continues.comment, continues.pendingComments]
  | some c =>
    rw [step_start_eq construct]
    simp only [isComment, isAnnotated, construct]
    cases c with
    | ownedComment | annotatedElement | connector | element | «attribute» => exact ⟨rfl, rfl⟩
    | ownedAttribute =>
      have continues := continues_startOwnedAttribute x e
      exact ⟨continues.pendingComments, continues.comment⟩
    | ownedEnd =>
      have continues := continues_startOwnedEnd x e
      exact ⟨continues.pendingComments, continues.comment⟩
    | source | target =>
      simp only [begin, startSide]
      split <;> exact ⟨rfl, rfl⟩
    | _ =>
      exact ⟨(begin_continues x e (by decide)).pendingComments,
        (begin_continues x e (by decide)).comment⟩

theorem comment_step_finish (other : isComment e = false) :
    (x.step (.finish e.name)).pendingComments = x.pendingComments ∧
      (x.step (.finish e.name)).comment = x.comment := by
  cases construct : constructOf? e with
  | none =>
    have continues := step_finish_continues (x := x) (e := e) (by simp [construct])
    exact ⟨continues.pendingComments, continues.comment⟩
  | some c =>
    rw [step_finish_eq construct]
    cases c with
    | ownedComment => simp [isComment, construct] at other
    | annotatedElement | connector | element | «attribute» | ownedAttribute | ownedEnd | source
    | target => exact ⟨rfl, rfl⟩
    | _ =>
      exact ⟨(finish_continues x (by decide)).pendingComments,
        (finish_continues x (by decide)).comment⟩

theorem comment_finishOwnedComment {ref : Option String}
    (current : x.comment = some ⟨o.element.plain? "body", ref⟩)
    (innermost : x.innermost Vocabulary.classType = innermostId? Vocabulary.classType o.around) :
    x.finishOwnedComment.pendingComments =
        (commentAbout? o ref).toList.foldl queue x.pendingComments ∧
      x.finishOwnedComment.comment = none := by
  have given : nonBlank? (innermostId? Vocabulary.classType o.around) =
      innermostId? Vocabulary.classType o.around := by
    cases found : innermostId? Vocabulary.classType o.around with
    | none => rfl
    | some id =>
      obtain ⟨e, -, filled⟩ := Option.bind_eq_some_iff.mp found
      exact Option.filter_some_pos (Option.filter_eq_some_iff.mp filled).2
  have chosen : (nonBlank? ref).or (innermostId? Vocabulary.classType o.around) =
      nonBlank? (if blank ref then x.innermost Vocabulary.classType else ref) := by
    by_cases silent : blank ref = true
    · have nothing : nonBlank? ref = none := by
        cases ref with
        | none => rfl
        | some id => exact Option.filter_some_neg (by simp [silent])
      rw [if_pos silent, innermost, given, nothing, Option.none_or]
    · cases ref with
      | none => exact absurd rfl silent
      | some id =>
        have kept : nonBlank? (some id) = some id := Option.filter_some_pos (by simpa using silent)
        rw [if_neg silent, kept, Option.some_or]
  rw [finishOwnedComment, current, commentAbout?, chosen]
  dsimp only
  generalize (if blank ref then x.innermost Vocabulary.classType else ref) = target
  cases target with
  | none => exact ⟨rfl, rfl⟩
  | some target =>
    cases o.element.plain? "body" with
    | none => simp [nonBlank?]
    | some body =>
      by_cases silent : (blank (some target) || blank (some body)) = true
      · rcases Bool.or_eq_true_iff.mp silent with silent | silent
        · simp [nonBlank?, silent, Option.filter]
        · simp [nonBlank?, silent, Option.filter]
      · have filled := Bool.or_eq_false_iff.mp (eq_false_of_ne_true silent)
        simp [nonBlank?, filled, Option.filter, queue]

/-- How the comments that wait at a point lead to those that wait at the end: the comments that begin
behind the point come behind them; an open comment comes first, with what is still said about its
target. -/
structure Resumes (x : Extraction) (around : List Element) (later : List Occurrence)
    (final : Table String (List String)) : Prop where
  closed : x.comment = none → (∀ e ∈ around, isComment e = false) →
    final = (commentsOf later).foldl queue x.pendingComments
  opened (o : Occurrence) (inner : List Element) (ref : Option String) :
    x.comment = some ⟨o.element.plain? "body", ref⟩ → around = inner ++ o.element :: o.around →
      isComment o.element → (∀ e ∈ inner ++ o.around, isComment e = false) →
      final = ((commentAbout? o (lastRef? ref o later)).toList ++ commentsOf later).foldl queue
        x.pendingComments

namespace Resumes

variable {later : List Occurrence} {final : Table String (List String)}

theorem start (h : Resumes (x.step (.start e)) (e :: around) later final)
    (apart : CommentsApart (⟨e, around⟩ :: later)) :
    Resumes x around (⟨e, around⟩ :: later) final := by
  obtain ⟨closed, opened⟩ := h
  obtain ⟨waiting, comment⟩ := comment_step_start x e around
  rw [waiting, comment] at closed opened
  constructor
  · intro quiet clear
    by_cases begun : isComment e = true
    · rw [opened ⟨e, around⟩ [] none (if_pos begun) rfl begun clear, commentsOf, if_pos begun]
    · have still : (if isAnnotated ⟨e, around⟩ then
          x.comment.map fun c => { c with target := e.get? Vocabulary.xmiIdref }
          else x.comment) = none := by
        rw [quiet]
        exact ite_self _
      rw [closed (by rw [if_neg begun, still]) (by simpa [begun] using clear),
        commentsOf_cons_of_plain (by simpa using begun)]
  · intro o inner ref current split commented clear
    have plain : isComment e = false := by
      by_contra begun
      have inside := apart ⟨e, around⟩ List.mem_cons_self (by simpa using begun) o.element
        (by simp [split])
      simp [inside] at commented
    have still := opened o (e :: inner)
      (if isAnnotated ⟨e, around⟩ then e.get? Vocabulary.xmiIdref else ref)
      (by rw [if_neg (by simp [plain]), current]; split <;> rfl)
      (by rw [split, List.cons_append]) commented (by simpa [plain] using clear)
    have within : o.around.length < around.length := by
      simp [split]
      omega
    rw [still, lastRef?_cons ref within, commentsOf_cons_of_plain plain]

theorem finish (h : Resumes (x.step (.finish e.name)) outer later final)
    (innermost : x.innermost Vocabulary.classType = innermostId? Vocabulary.classType (e :: outer))
    (behind : ∀ o : Occurrence, o.around = outer → inside o later = []) :
    Resumes x (e :: outer) later final := by
  obtain ⟨closed, opened⟩ := h
  constructor
  · intro quiet clear
    obtain ⟨waiting, comment⟩ := comment_step_finish (x := x) (clear e List.mem_cons_self)
    rw [waiting, comment] at closed
    exact closed quiet fun e member => clear e (List.mem_cons_of_mem _ member)
  · intro o inner ref current split commented clear
    cases inner with
    | nil =>
      -- the comment ends here
      obtain ⟨rfl, rfl⟩ := List.cons.inj split
      rw [innermostId?_cons_comment _ commented] at innermost
      obtain ⟨waiting, comment⟩ := comment_finishOwnedComment current innermost
      rw [step_finish_eq (eq_of_beq commented), Extraction.finish, waiting] at closed
      rw [closed comment clear, lastRef?, behind o rfl, List.foldl_append]
      rfl
    | cons e' inner =>
      obtain ⟨rfl, rfl⟩ := List.cons.inj split
      obtain ⟨waiting, comment⟩ := comment_step_finish (x := x) (clear e List.mem_cons_self)
      rw [waiting, comment] at opened
      exact opened o inner ref current rfl commented
        fun e member => clear e (List.mem_cons_of_mem _ member)

end Resumes

end Extraction

/-! ### All comments -/

theorem openAfter_append_start (h : openAfter pre = some around) :
    openAfter (pre ++ [.start e]) = some (e :: around) := by
  rw [openAfter] at h ⊢
  rw [List.foldlM_append, h]
  rfl

theorem resumes_ofEvents (skipped : List String) (h : openAfter pre = some around)
    (nested : WellNested (pre ++ rest)) (apart : CommentsApart (occurrencesIn around rest)) :
    (ofEvents skipped pre).Resumes around (occurrencesIn around rest)
      (ofEvents skipped (pre ++ rest)).pendingComments := by
  induction rest generalizing pre around with
  | nil =>
    rw [List.append_nil] at nested ⊢
    refine ⟨fun _ _ => rfl, fun o inner ref _ split => ?_⟩
    -- a comment cannot be open at the end
    rw [WellNested, h] at nested
    simp [split] at nested
  | cons event rest ih =>
    rw [List.append_cons] at nested ⊢
    cases event with
    | start e =>
      have ih := ih (openAfter_append_start h) nested
        fun o member => apart o (List.mem_cons_of_mem _ member)
      rw [ofEvents_concat] at ih
      exact ih.start apart
    | finish name =>
      obtain ⟨outer, closed⟩ := Xml.openAfter_prefix nested
      obtain ⟨e, rfl, opened⟩ := Xml.open_of_append_finish closed
      obtain rfl : around = e :: outer := Option.some.inj (h.symm.trans opened)
      have ih := ih closed nested apart
      rw [ofEvents_concat] at ih
      have openings : (ofEvents skipped pre).openings = openingsAt skipped (e :: outer) :=
        Extraction.openings_ofEvents h
      exact ih.finish (Extraction.innermost_eq openings _) fun o same =>
        inside_occurrencesIn (congrArg List.length same).ge

theorem pendingComments_ofEvents (skipped : List String) (h : WellNested events)
    (apart : CommentsApart (occurrences events)) :
    (ofEvents skipped events).pendingComments =
      (commentsOf (occurrences events)).foldl queue ∅ :=
  (resumes_ofEvents skipped (rfl : openAfter [] = some []) h apart).closed rfl (by simp)

end UmlKotlin.Xmi
