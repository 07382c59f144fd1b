import Mathlib.Data.List.TakeWhile
import UmlKotlin.Proofs.Xmi.Comments
import UmlKotlin.Proofs.Xmi.Superclass

/-!
Which declaration counts. While the element of a property is open its bounds are set, by the last
element that does; later its scopes offer bounds, and the first offer that is not blank fills in what
was left blank. Main statement: this decides the bounds of a property that is read once, and the
first generalization that is not blank the superclass of a class that is declared once
(`extract_precedence`).
-/

set_option autoImplicit false

namespace UmlKotlin.Xmi

open Extraction (ofEvents ofEvents_concat)
open Text (firstNonBlank foldl_firstNonBlank nonBlank?)
open Xml (Element Event Occurrence WellNested nesting_induction_behind occurrences occurrencesIn
  occurrencesIn_append_finish occurrencesIn_append_start openAfter split_at_occurrence)

def lastValue? (b : Bound) (os : List Occurrence) : Option String :=
  ((os.filter fun o => constructOf? o.element == some b.construct).getLast?).bind fun o =>
    o.element.plain? "value"

def offers (b : Bound) (id : String) (os : List Occurrence) : List (Option String) :=
  (os.filter (offersBounds id)).map fun o => o.element.plain? b.key

/-- A property that is read once. No element of a property is inside its own, and bounds are offered
only behind it. -/
structure ReadAlone (os : List Occurrence) (id : String) (before : List Occurrence) (o : Occurrence)
    (later : List Occurrence) : Prop where
  split : os = before ++ o :: later
  read : isRead o = true
  named : readId o.element = id
  once : ∀ o' ∈ before ++ later, isRead o' = true → readId o'.element ≠ id
  alone : ∀ o' ∈ inside o later, isOwned o'.element = false
  behind : ∀ o' ∈ before ++ inside o later, offersBounds id o' = false

/-- What begins behind the element of a property: nothing that would disturb it while it is open, and
no other element that declares the same property. -/
structure Secluded (o : Occurrence) (later : List Occurrence) : Prop where
  once : ∀ o' ∈ later, isRead o' = true → readId o'.element ≠ readId o.element
  alone : ∀ o' ∈ inside o later, isOwned o'.element = false
  behind : ∀ o' ∈ inside o later, offersBounds (readId o.element) o' = false

/-- How an element stands to what is open, after what has begun since. Either it is open, nothing but
what is inside it has begun, and the property that is being declared is its own; or it is closed,
and nothing that begins later is inside it. -/
inductive Standing (o : Occurrence) (later : List Occurrence) (around : List Element)
    (current : Option String) : Prop
  | opened (inner : List Element) (split : around = inner ++ o.element :: o.around)
      (plain : ∀ e ∈ inner, isOwned e = false) (all : inside o later = later)
      (own : current = some (readId o.element))
  | closed (ended : around.length ≤ o.around.length ∨
        ∃ o' ∈ later, o'.around.length ≤ o.around.length)
      (other : current ≠ some (readId o.element))

variable {skipped : List String} {pre post : List Event} {around : List Element}
  {later : List Occurrence} {o o' : Occurrence} {b : Bound} {id : String}

/-! ### What is inside an element -/

theorem inside_append_of_open {inner : List Element} (all : inside o later = later)
    (split : o'.around = inner ++ o.element :: o.around) :
    inside o (later ++ [o']) = later ++ [o'] := by
  have within : o.around.length < o'.around.length := by
    rw [split, List.length_append, List.length_cons]
    omega
  have each : ∀ o' ∈ later, decide (o.around.length < o'.around.length) = true :=
    List.takeWhile_eq_self_iff.mp all
  rw [inside, List.takeWhile_append_of_pos each, List.takeWhile_cons_of_pos (by simpa using within),
    List.takeWhile_nil]

theorem inside_append_of_ended (ended : o'.around.length ≤ o.around.length ∨
      ∃ o' ∈ later, o'.around.length ≤ o.around.length) :
    inside o (later ++ [o']) = inside o later := by
  rw [inside, List.takeWhile_append]
  split
  · rename_i whole
    have all : inside o later = later := (List.takeWhile_prefix _).eq_of_length whole
    have out : o'.around.length ≤ o.around.length := by
      rcases ended with out | ⟨o'', member, out⟩
      · exact out
      · have within : decide (o.around.length < o''.around.length) = true :=
          List.takeWhile_eq_self_iff.mp all o'' member
        have within := of_decide_eq_true within
        omega
    rw [List.takeWhile_cons_of_neg (by simpa using out), List.append_nil, all]
  · rfl

theorem mem_inside_append (h : o' ∈ inside o later) (more : List Occurrence) :
    o' ∈ inside o (later ++ more) := by
  rw [inside, List.takeWhile_append]
  split
  · exact List.mem_append_left _ ((List.takeWhile_prefix _).subset h)
  · exact h

theorem ReadAlone.secluded {os before : List Occurrence} (h : ReadAlone os id before o later) :
    Secluded o later where
  once o' member read := h.named ▸ h.once o' (List.mem_append_right _ member) read
  alone := h.alone
  behind o' member := h.named ▸ h.behind o' (List.mem_append_right _ member)

theorem Secluded.of_append {more : List Occurrence} (h : Secluded o (later ++ more)) :
    Secluded o later where
  once o' member := h.once o' (List.mem_append_left _ member)
  alone o' member := h.alone o' (mem_inside_append member more)
  behind o' member := h.behind o' (mem_inside_append member more)

/-! ### While the element of a property is open -/

namespace Standing

variable {x : Extraction} {e : Element}

theorem start (h : Standing o later around x.currentProperty)
    (situated : x.Situated around) (secluded : Secluded o (later ++ [⟨e, around⟩])) :
    Standing o (later ++ [⟨e, around⟩]) (e :: around) (x.step (.start e)).currentProperty := by
  rw [Extraction.currentProperty_step_start situated]
  cases h with
  | opened inner split plain all own =>
    have all : inside o (later ++ [⟨e, around⟩]) = later ++ [⟨e, around⟩] :=
      inside_append_of_open all split
    have other : isOwned e = false := secluded.alone ⟨e, around⟩ (by rw [all]; simp)
    -- a property that is read here would lie inside the element
    have unread : isRead ⟨e, around⟩ ≠ true := by
      intro read
      rw [isOwned_of_isRead read] at other
      cases other
    rw [if_neg unread]
    refine .opened (e :: inner) (by rw [split, List.cons_append]) ?_ all own
    simpa using ⟨other, plain⟩
  | closed ended other =>
    refine .closed (.inr ?_) ?_
    · rcases ended with out | ⟨o', member, out⟩
      · exact ⟨⟨e, around⟩, by simp, out⟩
      · exact ⟨o', by simp [member], out⟩
    · by_cases read : isRead ⟨e, around⟩ = true
      · rw [if_pos read]
        intro same
        exact secluded.once ⟨e, around⟩ (by simp) read (Option.some.inj same)
      · rw [if_neg read]
        exact other

theorem finish {outer : List Element} (h : Standing o later (e :: outer) x.currentProperty)
    (read : isRead o = true) :
    Standing o later outer (x.step (.finish e.name)).currentProperty := by
  rw [Extraction.currentProperty_step_finish]
  cases h with
  | opened inner split plain all own =>
    cases inner with
    | nil =>
      -- the element itself ends, and with it the declaration of its property
      obtain ⟨rfl, rfl⟩ := List.cons.inj split
      rw [if_pos (isOwned_of_isRead read)]
      exact .closed (.inl le_rfl) (by simp)
    | cons e' inner =>
      obtain ⟨rfl, rfl⟩ := List.cons.inj split
      have other : isOwned e = false := plain e List.mem_cons_self
      rw [other]
      exact .opened inner rfl (fun e' member => plain e' (List.mem_cons_of_mem _ member)) all own
  | closed ended other =>
    refine .closed ?_ ?_
    · rcases ended with out | before
      · left
        rw [List.length_cons] at out
        omega
      · exact .inr before
    · split
      · simp
      · exact other

end Standing

/-! ### Bounds -/

theorem lastValue?_append (b : Bound) (os : List Occurrence) (o : Occurrence) :
    lastValue? b (os ++ [o]) = if constructOf? o.element = some b.construct then
      o.element.plain? "value" else lastValue? b os := by
  rw [lastValue?, List.filter_append]
  by_cases value : constructOf? o.element = some b.construct
  · simp [value]
  · simp [value, lastValue?]

theorem offers_append (b : Bound) (id : String) (os : List Occurrence) (o : Occurrence) :
    offers b id (os ++ [o]) =
      offers b id os ++ if offersBounds id o then [o.element.plain? b.key] else [] := by
  rw [offers, List.filter_append, List.map_append, ← offers]
  by_cases offered : offersBounds id o = true
  · simp [offered]
  · simp [offered]

theorem offers_of_silent {os : List Occurrence} (silent : ∀ o ∈ os, offersBounds id o = false) :
    offers b id os = [] := by
  have none : os.filter (offersBounds id) = [] := by
    rw [List.filter_eq_nil_iff]
    intro o member
    simp [silent o member]
  rw [offers, none, List.map_nil]

/-- A bound of a property that is declared, after what has begun since: the last value inside its
element, and then the offers of its scopes. -/
def boundSince (b : Bound) (o : Occurrence) (later : List Occurrence) : Option String :=
  (offers b (readId o.element) later).foldl firstNonBlank (lastValue? b (inside o later))

theorem Standing.boundAfter_eq {current : Option String} (b : Bound)
    (h : Standing o later o'.around current) (secluded : Secluded o (later ++ [o'])) :
    boundAfter b (readId o.element) current (some (boundSince b o later)) o' =
      some (boundSince b o (later ++ [o'])) := by
  have other : ¬ (isRead o' = true ∧ readId o'.element = readId o.element) :=
    fun both => secluded.once o' (by simp) both.1 both.2
  rw [boundAfter, if_neg other]
  cases h with
  | opened inner split plain all own =>
    -- while the element is open all that begins is inside it, and nothing has been offered
    have whole := inside_append_of_open all split
    have behind := secluded.behind
    rw [whole] at behind
    have silent : offersBounds (readId o.element) o' = false := behind o' (by simp)
    have quiet : offers b (readId o.element) later = [] :=
      offers_of_silent fun o'' member => behind o'' (List.mem_append_left _ member)
    rw [boundSince, boundSince, whole, all, offers_append, lastValue?_append, silent, quiet]
    by_cases value : constructOf? o'.element = some b.construct
    · simp [value, own]
    · simp [value]
  | closed ended foreign =>
    rw [boundSince, boundSince, inside_append_of_ended ended, offers_append,
      if_neg fun both => foreign both.2]
    by_cases offered : offersBounds (readId o.element) o' = true
    · simp [offered]
    · simp [offered]

/-- What holds once the element of a property has begun: it stands as it does to what is open, and a
bound is what has been said since. -/
structure Since (b : Bound) (o : Occurrence) (later : List Occurrence) (around : List Element)
    (x : Extraction) : Prop where
  standing : Standing o later around x.currentProperty
  bound : (x.model.properties.get? (readId o.element)).map b.of = some (boundSince b o later)

namespace Since

variable {x : Extraction} {e : Element}

theorem of_read (b : Bound) (read : isRead o = true) (situated : x.Situated o.around) :
    Since b o [] (o.element :: o.around) (x.step (.start o.element)) where
  standing := by
    rw [Extraction.currentProperty_step_start situated, if_pos read]
    exact .opened [] rfl (by simp) rfl rfl
  bound := by
    rw [bound_step_start b _ situated, boundAfter, if_pos ⟨read, rfl⟩]
    rfl

theorem start (h : Since b o later around x) (situated : x.Situated around)
    (secluded : Secluded o (later ++ [⟨e, around⟩])) :
    Since b o (later ++ [⟨e, around⟩]) (e :: around) (x.step (.start e)) where
  standing := h.standing.start situated secluded
  bound := by
    rw [bound_step_start b _ situated, h.bound]
    exact h.standing.boundAfter_eq b secluded

theorem finish {outer : List Element} (h : Since b o later (e :: outer) x) (read : isRead o = true) :
    Since b o later outer (x.step (.finish e.name)) where
  standing := h.standing.finish read
  bound := by rw [Extraction.model_step_finish, h.bound]

end Since

theorem since_ofEvents (skipped : List String) (b : Bound) (read : isRead o = true)
    (opened : openAfter pre = some o.around)
    (h : openAfter (pre ++ [.start o.element] ++ post) = some around) :
    Secluded o (occurrencesIn (o.element :: o.around) post) →
      Since b o (occurrencesIn (o.element :: o.around) post) around
        (ofEvents skipped (pre ++ [.start o.element] ++ post)) := by
  have begun : openAfter (pre ++ [.start o.element]) = some (o.element :: o.around) :=
    openAfter_append_start opened
  refine nesting_induction_behind (motive := fun post around =>
    Secluded o (occurrencesIn (o.element :: o.around) post) →
      Since b o (occurrencesIn (o.element :: o.around) post) around
        (ofEvents skipped (pre ++ [.start o.element] ++ post))) begun ?_ ?_ ?_ h
  · intro _
    rw [List.append_nil, ofEvents_concat]
    exact .of_read b read (Extraction.situated_ofEvents opened)
  · intro post around e opened before secluded
    rw [occurrencesIn_append_start begun opened] at secluded ⊢
    rw [← List.append_assoc, ofEvents_concat]
    exact (before secluded.of_append).start (Extraction.situated_ofEvents opened) secluded
  · intro post e outer opened before secluded
    rw [occurrencesIn_append_finish begun opened] at secluded ⊢
    rw [← List.append_assoc, ofEvents_concat]
    exact (before secluded).finish read

theorem bound_extract (skipped : List String) {events : List Event} {before : List Occurrence}
    (h : WellNested events) (alone : ReadAlone (occurrences events) id before o later)
    (b : Bound) : ((extract skipped events).properties.get? id).map b.of =
      some ((nonBlank? (lastValue? b (inside o later))).or
        (((offers b id (occurrences events)).findSome? nonBlank?).or
          (lastValue? b (inside o later)))) := by
  -- what comes before the element offers nothing, and neither does the element itself
  have offered : offers b id (occurrences events) = offers b id later := by
    have silent : ∀ o' ∈ before, offersBounds id o' = false :=
      fun o' member => alone.behind o' (List.mem_append_left _ member)
    have own : offersBounds id o = false := by
      rcases construct_of_isRead alone.read with construct | construct
      · simp [offersBounds, construct]
      · simp [offersBounds, construct]
    rw [alone.split, offers, List.filter_append, List.map_append, ← offers,
      offers_of_silent silent, List.nil_append, List.filter_cons_of_neg (by simp [own]), ← offers]
  obtain ⟨pre, post, rfl, opened, -, rfl⟩ := split_at_occurrence h alone.split
  rw [offered]
  rw [List.append_cons] at h ⊢
  have bound := (since_ofEvents skipped b alone.read opened h alone.secluded).bound
  rw [alone.named] at bound
  calc ((extract skipped (pre ++ [.start o.element] ++ post)).properties.get? id).map b.of
      = some (boundSince b o (occurrencesIn (o.element :: o.around) post)) := by
        rw [← bound, ← get?_properties, ← get?_properties]
        exact congrArg (Table.get? · id) (part_complete b _).2
    _ = _ := by rw [boundSince, foldl_firstNonBlank, alone.named]

/-- Superclasses and bounds follow their order of precedence. The superclass of a class that is
declared once is the first one that its generalizations name and that is not blank. A bound of a
property that is read alone is the last value set inside its element; where that is blank, it is the
first one that its scopes offer and that is not blank; and where there is none either, it stays what
it was. -/
theorem extract_precedence (skipped : List String) (events : List Event) (id : String)
    (h : WellNested events) :
    ((declaredIds Vocabulary.classType events).count id = 1 →
      ((extract skipped events).classes.get? id).map (·.generalizationId) =
        some ((elementsInside .generalization Vocabulary.classType id events).findSome? fun e =>
          nonBlank? (e.plain? "general"))) ∧
    ∀ before o later, ReadAlone (occurrences events) id before o later → ∀ b : Bound,
      ((extract skipped events).properties.get? id).map b.of =
        some ((nonBlank? (lastValue? b (inside o later))).or
          (((offers b id (occurrences events)).findSome? nonBlank?).or
            (lastValue? b (inside o later)))) :=
  ⟨superclass_extract skipped h, fun _ _ _ alone => bound_extract skipped h alone⟩

theorem extract_precedence_of_house :
    let cls : Element := ⟨⟨none, "packagedElement"⟩,
      [⟨Vocabulary.xmiType, Vocabulary.classType⟩, ⟨Vocabulary.xmiId, "C"⟩], []⟩
    let general (id : String) : Element := ⟨⟨none, "generalization"⟩, [⟨⟨none, "general"⟩, id⟩], []⟩
    let owned : Element := ⟨⟨none, "ownedAttribute"⟩, [⟨Vocabulary.xmiId, "p"⟩], []⟩
    let lower (bound : String) : Element := ⟨⟨none, "lowerValue"⟩, [⟨⟨none, "value"⟩, bound⟩], []⟩
    let upper (bound : String) : Element := ⟨⟨none, "upperValue"⟩, [⟨⟨none, "value"⟩, bound⟩], []⟩
    let scope : Element := ⟨⟨none, "attribute"⟩, [⟨Vocabulary.xmiIdref, "p"⟩], []⟩
    let bounds (lower upper : String) : Element :=
      ⟨⟨none, "bounds"⟩, [⟨⟨none, "lower"⟩, lower⟩, ⟨⟨none, "upper"⟩, upper⟩], []⟩
    let whole (e : Element) : List Event := [.start e, .finish e.name]
    let inScope (e : Element) : List Event := .start scope :: whole e ++ [.finish scope.name]
    let events := .start cls :: whole (general " ") ++ whole (general "Building") ++
      whole (general "Site") ++ .start owned :: whole (lower " ") ++ whole (upper "1") ++
      whole (upper "*") ++ [.finish owned.name, .finish cls.name] ++ inScope (bounds "" "2") ++
      inScope (bounds "0" "3") ++ inScope (bounds "1" "4")
    WellNested events ∧ (declaredIds Vocabulary.classType events).count "C" = 1 ∧
      (∃ before later, ReadAlone (occurrences events) "p" before ⟨owned, [cls]⟩ later) ∧
      ((extract [] events).classes.get? "C").map (·.generalizationId) = some (some "Building") ∧
      ((extract [] events).properties.get? "p").map (·.lower) = some (some "0") ∧
      ((extract [] events).properties.get? "p").map (·.upper) = some (some "*") := by
  intro cls general owned lower upper scope bounds whole inScope events
  have nested : WellNested events := by decide
  have once : (declaredIds Vocabulary.classType events).count "C" = 1 := by decide
  have alone : ReadAlone (occurrences events) "p" ((occurrences events).take 4) ⟨owned, [cls]⟩
      ((occurrences events).drop 5) :=
    ⟨by decide, by decide, by decide, by decide, by decide, by decide⟩
  obtain ⟨superclass, -⟩ := extract_precedence [] events "C" nested
  obtain ⟨-, bound⟩ := extract_precedence [] events "p" nested
  refine ⟨nested, once, ⟨_, _, alone⟩, (superclass once).trans ?_,
    (bound _ _ _ alone .lower).trans ?_, (bound _ _ _ alone .upper).trans ?_⟩
  · decide
  · decide
  · decide

end UmlKotlin.Xmi
