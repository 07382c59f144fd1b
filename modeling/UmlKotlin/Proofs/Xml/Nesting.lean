import Mathlib.Data.List.Induction
import UmlKotlin.Xml.Element

/-!
Nesting of elements. After some events certain elements are open (`openAfter`); a sequence of events
is well nested if every end closes the innermost open element and none is open at the end. An
element begins inside the elements that are then open (`occurrences`). Main statements: what holds
before any event and is kept by every start and every fitting end holds at every point
(`nesting_induction`), and whatever is open at a point began before it (`begun_of_occurrence`).
-/

set_option autoImplicit false

namespace UmlKotlin.Xml

/-- The elements that are open after one more event, innermost first, if the event fits. -/
def follow (around : List Element) : Event → Option (List Element)
  | .start e => some (e :: around)
  | .finish name =>
    match around with
    | e :: outer => if e.name = name then some outer else none
    | [] => none

/-- The elements that are open after some events, innermost first, if every end fits. -/
def openAfter (events : List Event) : Option (List Element) := events.foldlM follow []

/-- Every end closes the innermost open element, and in the end none is open. -/
def WellNested (events : List Event) : Prop := openAfter events = some []

instance (events : List Event) : Decidable (WellNested events) :=
  inferInstanceAs (Decidable (openAfter events = some []))

def beginnings : List Event → List Element
  | [] => []
  | .start e :: rest => e :: beginnings rest
  | .finish _ :: rest => beginnings rest

/-- An element as it begins, with the elements that are open around it, innermost first. -/
structure Occurrence where
  element : Element
  around : List Element
  deriving DecidableEq, Repr

/-- The elements that begin, in document order, where some elements are open already. -/
def occurrencesIn (around : List Element) : List Event → List Occurrence
  | [] => []
  | .start e :: rest => ⟨e, around⟩ :: occurrencesIn (e :: around) rest
  | .finish _ :: rest => occurrencesIn around.tail rest

def occurrences (events : List Event) : List Occurrence := occurrencesIn [] events

variable {events inner pre : List Event} {around outer : List Element} {e : Element}

theorem follow_eq_some_iff {event : Event} : follow around event = some outer ↔
    (∃ e, event = .start e ∧ outer = e :: around) ∨
      ∃ e, event = .finish e.name ∧ around = e :: outer := by
  cases event with
  | start e => simp [follow, eq_comm]
  | finish name =>
    cases around with
    | nil => simp [follow]
    | cons e rest =>
      simp only [follow, Option.ite_none_right_eq_some, Option.some.injEq, Event.finish.injEq,
        List.cons.injEq, reduceCtorEq, false_and, exists_false, false_or]
      constructor
      · rintro ⟨rfl, rfl⟩
        exact ⟨e, rfl, rfl, rfl⟩
      · rintro ⟨e', rfl, rfl, rfl⟩
        exact ⟨rfl, rfl⟩

theorem openAfter_append_finish (h : openAfter pre = some (e :: outer)) :
    openAfter (pre ++ [.finish e.name]) = some outer := by
  rw [openAfter] at h ⊢
  rw [List.foldlM_append, h]
  simp [follow]

theorem open_of_append_finish {name : QualifiedName}
    (h : openAfter (pre ++ [.finish name]) = some outer) :
    ∃ e, e.name = name ∧ openAfter pre = some (e :: outer) := by
  rw [openAfter, List.foldlM_append] at h
  obtain ⟨around, before, h⟩ := Option.bind_eq_some_iff.mp h
  rw [List.foldlM_cons] at h
  obtain ⟨next, step, h⟩ := Option.bind_eq_some_iff.mp h
  cases h
  rcases follow_eq_some_iff.mp step with ⟨e, event, -⟩ | ⟨e, event, rfl⟩
  · cases event
  · cases event
    exact ⟨e, rfl, before⟩

/-- Induction along the events behind some others: a start opens an element inside those that are
open, and an end closes the innermost one. -/
theorem nesting_induction_behind {motive : List Event → List Element → Prop} {post : List Event}
    (opened : openAfter pre = some around) (nil : motive [] around)
    (start : ∀ post around e, openAfter (pre ++ post) = some around → motive post around →
      motive (post ++ [.start e]) (e :: around))
    (finish : ∀ post e outer, openAfter (pre ++ post) = some (e :: outer) →
      motive post (e :: outer) → motive (post ++ [.finish e.name]) outer)
    (h : openAfter (pre ++ post) = some outer) : motive post outer := by
  induction post using List.reverseRecOn generalizing outer with
  | nil =>
    rw [List.append_nil, opened] at h
    cases h
    exact nil
  | append_singleton post event ih =>
    rw [← List.append_assoc, openAfter, List.foldlM_append] at h
    obtain ⟨before, hb, h⟩ := Option.bind_eq_some_iff.mp h
    rw [List.foldlM_cons] at h
    obtain ⟨next, hn, h⟩ := Option.bind_eq_some_iff.mp h
    cases h
    rcases follow_eq_some_iff.mp hn with ⟨e, rfl, rfl⟩ | ⟨e, rfl, rfl⟩
    · exact start post before e hb (ih hb)
    · exact finish post e outer hb (ih hb)

theorem nesting_induction {motive : List Event → List Element → Prop} (nil : motive [] [])
    (start : ∀ pre around e, openAfter pre = some around → motive pre around →
      motive (pre ++ [.start e]) (e :: around))
    (finish : ∀ pre e outer, openAfter pre = some (e :: outer) → motive pre (e :: outer) →
      motive (pre ++ [.finish e.name]) outer)
    (h : openAfter events = some around) : motive events around := by
  have none : openAfter [] = some [] := rfl
  exact nesting_induction_behind none nil start finish h

theorem openAfter_prefix {post : List Event} (h : openAfter (pre ++ post) = some outer) :
    ∃ around, openAfter pre = some around := by
  rw [openAfter, List.foldlM_append] at h
  obtain ⟨around, before, -⟩ := Option.bind_eq_some_iff.mp h
  exact ⟨around, before⟩

private theorem foldlM_follow_append {opened closed : List Element}
    (h : inner.foldlM follow opened = some closed) :
    inner.foldlM follow (opened ++ outer) = some (closed ++ outer) := by
  induction inner generalizing opened with
  | nil =>
    cases h
    rfl
  | cons event inner ih =>
    rw [List.foldlM_cons] at h ⊢
    obtain ⟨next, hn, h⟩ := Option.bind_eq_some_iff.mp h
    have step : follow (opened ++ outer) event = some (next ++ outer) := by
      rcases follow_eq_some_iff.mp hn with ⟨e, rfl, rfl⟩ | ⟨e, rfl, rfl⟩
      · rfl
      · simp [follow]
    rw [step]
    exact ih h

theorem openAfter_element (h : openAfter pre = some around) (nested : WellNested inner) :
    openAfter (pre ++ .start e :: inner ++ [.finish e.name]) = some around := by
  refine openAfter_append_finish (e := e) ?_
  have content : inner.foldlM follow (e :: around) = some (e :: around) :=
    foldlM_follow_append nested
  rw [openAfter] at h ⊢
  rw [List.foldlM_append, h]
  exact content

/-! ### Elements as they begin -/

private theorem occurrencesIn_append {opened closed : List Element} {post : List Event}
    (h : pre.foldlM follow opened = some closed) :
    occurrencesIn opened (pre ++ post) = occurrencesIn opened pre ++ occurrencesIn closed post := by
  induction pre generalizing opened with
  | nil =>
    cases h
    rfl
  | cons event pre ih =>
    rw [List.foldlM_cons] at h
    obtain ⟨next, hn, rest⟩ := Option.bind_eq_some_iff.mp h
    clear h
    rcases follow_eq_some_iff.mp hn with ⟨e, rfl, rfl⟩ | ⟨e, rfl, rfl⟩
    · simp only [List.cons_append, occurrencesIn, ih rest]
    · simp only [List.cons_append, occurrencesIn, List.tail_cons, ih rest]

theorem occurrences_append {post : List Event} (h : openAfter pre = some around) :
    occurrences (pre ++ post) = occurrences pre ++ occurrencesIn around post :=
  occurrencesIn_append h

theorem occurrences_append_start (h : openAfter pre = some around) :
    occurrences (pre ++ [.start e]) = occurrences pre ++ [⟨e, around⟩] :=
  occurrences_append h

theorem occurrences_append_finish {name : QualifiedName} (h : openAfter pre = some around) :
    occurrences (pre ++ [.finish name]) = occurrences pre := by
  rw [occurrences_append h]
  simp [occurrencesIn]

theorem occurrencesIn_append_start {post : List Event} (opened : openAfter pre = some outer)
    (h : openAfter (pre ++ post) = some around) :
    occurrencesIn outer (post ++ [.start e]) = occurrencesIn outer post ++ [⟨e, around⟩] := by
  have whole := occurrences_append_start (e := e) h
  rw [List.append_assoc, occurrences_append opened, occurrences_append opened,
    List.append_assoc] at whole
  exact List.append_cancel_left whole

theorem occurrencesIn_append_finish {post : List Event} {name : QualifiedName}
    (opened : openAfter pre = some outer) (h : openAfter (pre ++ post) = some around) :
    occurrencesIn outer (post ++ [.finish name]) = occurrencesIn outer post := by
  have whole : occurrences (pre ++ post ++ [.finish name]) = occurrences (pre ++ post) :=
    occurrences_append_finish h
  rw [List.append_assoc, occurrences_append opened, occurrences_append opened] at whole
  exact List.append_cancel_left whole

private theorem split_at_occurrenceIn {opened : List Element} {before later : List Occurrence}
    {o : Occurrence} (h : events.foldlM follow opened = some outer)
    (split : occurrencesIn opened events = before ++ o :: later) :
    ∃ pre post, events = pre ++ .start o.element :: post ∧
      pre.foldlM follow opened = some o.around ∧ occurrencesIn opened pre = before ∧
      occurrencesIn (o.element :: o.around) post = later := by
  induction events generalizing opened before with
  | nil => cases before <;> cases split
  | cons event events ih =>
    rw [List.foldlM_cons] at h
    obtain ⟨next, hn, h⟩ := Option.bind_eq_some_iff.mp h
    cases event with
    | start e =>
      cases hn
      cases before with
      | nil =>
        cases split
        exact ⟨[], events, rfl, rfl, rfl, rfl⟩
      | cons first before =>
        obtain ⟨rfl, later⟩ := List.cons.inj split
        obtain ⟨pre, post, rfl, opened', rfl, rest⟩ := ih h later
        exact ⟨.start e :: pre, post, rfl, opened', rfl, rest⟩
    | finish name =>
      have closed : next = opened.tail := by
        rcases follow_eq_some_iff.mp hn with ⟨e, event, -⟩ | ⟨e, -, rfl⟩
        · cases event
        · rfl
      subst closed
      obtain ⟨pre, post, rfl, opened', rfl, rest⟩ := ih h split
      refine ⟨.finish name :: pre, post, rfl, ?_, rfl, rest⟩
      rw [List.foldlM_cons, hn]
      exact opened'

theorem split_at_occurrence {before later : List Occurrence} {o : Occurrence}
    (h : openAfter events = some outer) (split : occurrences events = before ++ o :: later) :
    ∃ pre post, events = pre ++ .start o.element :: post ∧ openAfter pre = some o.around ∧
      occurrences pre = before ∧ occurrencesIn (o.element :: o.around) post = later :=
  split_at_occurrenceIn h split

theorem start_of_occurrence {o : Occurrence} (h : o ∈ occurrencesIn around events) :
    .start o.element ∈ events := by
  induction events generalizing around with
  | nil => cases h
  | cons event events ih =>
    cases event with
    | start e =>
      rcases List.mem_cons.mp h with rfl | h
      · exact List.mem_cons_self
      · exact List.mem_cons_of_mem _ (ih h)
    | finish name => exact List.mem_cons_of_mem _ (ih h)

theorem element_occurrences (events : List Event) :
    (occurrences events).map (·.element) = beginnings events := by
  have general (around : List Element) :
      (occurrencesIn around events).map (·.element) = beginnings events := by
    induction events generalizing around with
    | nil => rfl
    | cons event events ih =>
      cases event with
      | start e => simp [occurrencesIn, beginnings, ih]
      | finish name => simp [occurrencesIn, beginnings, ih]
  exact general []

theorem begun_of_open (h : openAfter events = some around) :
    ∀ e ∈ around, ∃ o ∈ occurrences events, o.element = e := by
  refine nesting_induction (motive := fun events around =>
    ∀ e ∈ around, ∃ o ∈ occurrences events, o.element = e) ?_ ?_ ?_ h
  · simp
  · intro pre around e before ih e' he'
    rw [occurrences_append_start before]
    rcases List.mem_cons.mp he' with rfl | he'
    · exact ⟨⟨e', around⟩, by simp, rfl⟩
    · obtain ⟨o, ho, same⟩ := ih e' he'
      exact ⟨o, List.mem_append_left _ ho, same⟩
  · intro pre e outer before ih e' he'
    rw [occurrences_append_finish before]
    exact ih e' (List.mem_cons_of_mem _ he')

theorem begun_of_occurrence {before later : List Occurrence} {o : Occurrence}
    (h : openAfter events = some around) (split : occurrences events = before ++ o :: later)
    {e : Element} (he : e ∈ o.around) : ∃ o' ∈ before, o'.element = e := by
  revert before later
  refine nesting_induction (motive := fun events _ => ∀ before later,
    occurrences events = before ++ o :: later → ∃ o' ∈ before, o'.element = e) ?_ ?_ ?_ h _ _
  · intro before later split
    cases before <;> cases split
  · intro pre around e' opened ih before later split
    rw [occurrences_append_start opened] at split
    rcases List.eq_nil_or_concat later with rfl | ⟨later, last, rfl⟩
    · -- the element began with this very event
      obtain ⟨rfl, last⟩ := List.append_inj' split rfl
      cases last
      exact begun_of_open opened e he
    · have split : occurrences pre ++ [⟨e', around⟩] = (before ++ o :: later) ++ [last] := by
        simpa using split
      exact ih before later (List.append_inj' split rfl).1
  · intro pre e' outer opened ih before later split
    rw [occurrences_append_finish opened] at split
    exact ih before later split

end UmlKotlin.Xml
