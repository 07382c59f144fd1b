import UmlKotlin.Proofs.Xml.Nesting
import UmlKotlin.Xml.Document

/-!
The events of documents. Main statement: the events of an acceptable document are well nested
(`wellNested_of_acceptable`).
-/

set_option autoImplicit false

namespace UmlKotlin.Xml

namespace Scanner

variable {α β : Type}

def Ensures (x : Scanner α) (P : α → Prop) : Prop := ∀ s a t, x.run s = some (a, t) → P a

theorem Ensures.pure {P : α → Prop} {a : α} (h : P a) : Ensures (Pure.pure a) P := by
  intro s b t run
  cases run
  exact h

theorem Ensures.failure {P : α → Prop} : Ensures Alternative.failure P := by
  intro s a t run
  cases run

theorem Ensures.bind {x : Scanner α} {f : α → Scanner β} {P : α → Prop} {Q : β → Prop}
    (first : Ensures x P) (rest : ∀ a, P a → Ensures (f a) Q) : Ensures (x >>= f) Q := by
  intro s b t run
  rw [StateT.run_bind] at run
  obtain ⟨⟨a, s'⟩, taken, run⟩ := Option.bind_eq_some_iff.mp run
  exact rest a (first s a s' taken) s' b t run

theorem Ensures.andThen {x : Scanner α} {f : α → Scanner β} {Q : β → Prop}
    (rest : ∀ a, Ensures (f a) Q) : Ensures (x >>= f) Q :=
  Ensures.bind (P := fun _ => True) (fun _ _ _ _ => trivial) fun a _ => rest a

theorem Ensures.ite {b : Bool} {x y : Scanner α} {P : α → Prop} (yes : Ensures x P)
    (no : Ensures y P) : Ensures (if b then x else y) P := by
  cases b with
  | true => exact yes
  | false => exact no

theorem Ensures.choose {text : String} {x y : Scanner α} {P : α → Prop} (yes : Ensures x P)
    (no : Ensures y P) : Ensures (do if ← sees text then x else y) P :=
  .andThen fun _ => .ite yes no

end Scanner

open Scanner

/-- Events that lead from some open elements, known by their names, to others. -/
def Leads (events : List Event) (opened closed : List Open) : Prop :=
  ∀ around : List Element, around.map (·.name) = opened.map (·.name) →
    ∃ outer, events.foldlM follow around = some outer ∧ outer.map (·.name) = closed.map (·.name)

theorem leads_nothing (opened : List Open) : Leads [] opened opened :=
  fun around names => ⟨around, rfl, names⟩

theorem leads_start {e : Element} {self : Open} (opened : List Open) (name : self.name = e.name) :
    Leads [.start e] opened (self :: opened) :=
  fun around names => ⟨e :: around, rfl, by simp [names, name]⟩

theorem leads_empty (e : Element) (opened : List Open) :
    Leads [.start e, .finish e.name] opened opened :=
  fun around names => ⟨around, by simp [follow], names⟩

theorem leads_finish (inner : Open) (outer : List Open) :
    Leads [.finish inner.name] (inner :: outer) outer := by
  intro around names
  cases around with
  | nil => cases names
  | cons e around =>
    obtain ⟨name, names⟩ := List.cons.inj names
    exact ⟨around, by simp [follow, name], names⟩

theorem Leads.append {events events' : List Event} {opened middle closed : List Open}
    (first : Leads events opened middle) (rest : Leads events' middle closed) :
    Leads (events ++ events') opened closed := by
  intro around names
  obtain ⟨between, run, names⟩ := first around names
  obtain ⟨outer, run', names⟩ := rest between names
  refine ⟨outer, ?_, names⟩
  rw [List.foldlM_append, run]
  exact run'

theorem element_name (around : Surroundings) (opened : List Open) :
    Ensures (element around opened) fun r => r.2.name = r.1.name := by
  unfold element
  refine .andThen fun tag => .andThen fun r => ?_
  refine .ite ?_ ?_
  · exact .andThen fun _ => .andThen fun _ => .pure rfl
  · exact .andThen fun _ => .pure rfl

theorem begun_leads {e : Element} {self : Open} (opened : List Open) (name : self.name = e.name) :
    Ensures (begun e self opened) fun r => Leads r.1 opened r.2 := by
  unfold begun
  refine .andThen fun closed => .ite ?_ ?_
  · exact .pure (leads_empty e opened)
  · exact .pure (leads_start opened name)

theorem piece_leads (entityContent : Surroundings → List Char → Scanner Unit)
    (around : Surroundings) (opened : List Open) :
    Ensures (piece entityContent around opened) fun r => Leads r.1 opened r.2 := by
  have same : Leads [] opened opened := leads_nothing opened
  unfold piece
  apply Ensures.choose
  · refine .andThen fun _ => .andThen fun written => ?_
    cases opened with
    | nil => exact .failure
    | cons inner outer => exact .andThen fun _ => .pure (leads_finish inner outer)
  apply Ensures.choose
  · exact .andThen fun _ => .andThen fun _ => .pure same
  apply Ensures.choose
  · exact .andThen fun _ => .andThen fun _ => .pure same
  apply Ensures.choose
  · exact .andThen fun _ => .andThen fun _ => .pure same
  apply Ensures.choose
  · refine .andThen fun _ => .bind (element_name around opened) fun r name => ?_
    exact begun_leads opened name
  apply Ensures.choose
  · refine .andThen fun _ => .andThen fun reference => ?_
    cases reference with
    | char c => exact .pure same
    | entity name =>
      refine .andThen fun doctype => ?_
      dsimp only
      split
      · exact .andThen fun _ => .andThen fun _ => .pure same
      · exact .andThen fun _ => .pure same
      · exact .andThen fun _ => .pure same
  · exact .andThen fun _ => .andThen fun _ => .pure same

theorem leads_content (fuel : Nat) (opened : List Open) (s : Source)
    (acceptable : (content fuel opened s).acceptable = true) :
    Leads (content fuel opened s).events opened [] := by
  induction fuel generalizing opened s with
  | zero => cases acceptable
  | succ fuel ih =>
    rw [content] at acceptable ⊢
    cases opened with
    | nil => exact leads_nothing []
    | cons inner outer =>
      simp only [List.isEmpty_cons, Bool.false_eq_true, reduceIte] at acceptable ⊢
      cases taken : (piece (entityContent entityDepth) {} (inner :: outer)).run s with
      | none => simp [taken] at acceptable
      | some r =>
        obtain ⟨⟨events, opened⟩, t⟩ := r
        simp only [taken] at acceptable ⊢
        exact (piece_leads _ _ _ _ _ _ taken).append (ih opened t acceptable)

theorem leads_root (s : Source) (acceptable : (root s).acceptable = true) :
    Leads (root s).events [] [] := by
  unfold root at acceptable ⊢
  cases first : (element {} []).run s with
  | none => simp [first] at acceptable
  | some r =>
    obtain ⟨⟨e, self⟩, t⟩ := r
    have name : self.name = e.name := element_name _ _ _ _ _ first
    simp only [first] at acceptable ⊢
    cases tag : (begun e self []).run t with
    | none => simp [tag] at acceptable
    | some r =>
      obtain ⟨⟨events, opened⟩, t'⟩ := r
      simp only [tag] at acceptable ⊢
      exact (begun_leads [] name _ _ _ tag).append (leads_content _ _ _ acceptable)

/-- In an acceptable document every end closes the innermost open element, and all elements end. -/
theorem wellNested_of_acceptable {replacing : Bool} {chars : List Char}
    (acceptable : (read replacing chars).acceptable = true) :
    WellNested (read replacing chars).events := by
  unfold read at acceptable ⊢
  split at acceptable
  · cases acceptable
  · rename_i s begins
    obtain ⟨outer, run, names⟩ := leads_root s acceptable [] rfl
    cases outer with
    | nil => exact run
    | cons e outer => cases names

end UmlKotlin.Xml
