import UmlKotlin.Proofs.Text.Paragraph
import UmlKotlin.Proofs.Xmi.Part

/-!
What generalizations and bounds leave in a model. Each element that begins decides a superclass or a
bound by itself, from what was there before it (`superclass_step_start`, `bound_step_start`). Main
statement: the superclass of a class that is declared once is the first one that is not blank among
those that the generalizations inside the class name (`superclass_extract`).
-/

set_option autoImplicit false

namespace UmlKotlin.Xmi

open Extraction (ofEvents ofEvents_concat)
open Text (firstNonBlank foldl_firstNonBlank nonBlank?)
open Uml (Model Property)
open Xml (Element Event Occurrence WellNested openAfter occurrences nesting_induction)

inductive Bound
  | lower
  | upper
  deriving DecidableEq, Repr

namespace Bound

def of (b : Bound) (p : Property) : Option String :=
  match b with
  | .lower => p.lower
  | .upper => p.upper

def construct : Bound → Construct
  | .lower => .lowerValue
  | .upper => .upperValue

def key : Bound → String
  | .lower => "lower"
  | .upper => "upper"

end Bound

/-- Whether an element offers bounds for the property with an identifier: it is in its scope. -/
def offersBounds (id : String) (o : Occurrence) : Bool :=
  constructOf? o.element == some .bounds && scopedId? .attribute o.around == some id

def superclassAfter (id : String) (before : Option (Option String)) (o : Occurrence) :
    Option (Option String) :=
  if declaredId? Vocabulary.classType o.element = some id then some none
  else if isInside .generalization Vocabulary.classType id o then
    before.map (firstNonBlank · (o.element.plain? "general"))
  else before

/-- What a bound of a property is once an element has begun, where the property that is being
declared is known. -/
def boundAfter (b : Bound) (id : String) (current : Option String)
    (before : Option (Option String)) (o : Occurrence) : Option (Option String) :=
  if isRead o ∧ readId o.element = id then some none
  else if constructOf? o.element = some b.construct ∧ current = some id then
    before.map fun _ => o.element.plain? "value"
  else if offersBounds id o then before.map (firstNonBlank · (o.element.plain? b.key))
  else before

variable {skipped : List String} {events : List Event} {around : List Element} {x y : Extraction}
  {e : Element} {b : Bound} {id : String}

def Bound.part (b : Bound) : Part (Option String) (Option String) where
  ofClass := (·.generalizationId)
  ofProperty := b.of
  newClass := none
  newProperty := none
  created _ _ _ _ := rfl
  read _ := by cases b <;> rfl
  members _ _ := rfl
  classMark _ _ := rfl
  classMetadata _ _ := rfl
  classStereotype _ _ := rfl
  mark _ _ := by cases b <;> rfl
  metadata _ _ := by cases b <;> rfl
  stereotype _ _ := by cases b <;> rfl
  type _ _ _ := by cases b <;> rfl

theorem of_addDocumentation (b : Bound) (p : Property) (text : Option String) :
    b.of (p.addDocumentation text) = b.of p := by
  cases b <;> rfl

theorem keeps_startProperties (b : Bound) (x : Extraction) (e : Element) :
    b.part.Keeps x (x.startProperties e) := by
  unfold Extraction.startProperties
  split
  · split
    · exact Part.Keeps.modifyAssociation ⟨rfl, rfl⟩
    · exact .self
  · exact Part.Keeps.self.modifyProperty fun p => b.part.metadata p _
  · exact Part.Keeps.self.modifyClass fun _ => rfl
  · exact .self

theorem keeps_startDocumentation (b : Bound) (x : Extraction) (e : Element) :
    b.part.Keeps x (x.startDocumentation e) := by
  unfold Extraction.startDocumentation
  dsimp only
  split
  · exact Part.Keeps.self.modifyProperty fun p => of_addDocumentation b p _
  · split
    · exact Part.Keeps.self.modifyAssociation
    · exact Part.Keeps.self.modifyAssociation
    · exact .self

theorem part_complete (b : Bound) (x : Extraction) :
    b.part.classes x.complete = b.part.classes x.model ∧
      b.part.properties x.complete = b.part.properties x.model := by
  refine x.complete_induction (motive := fun m => b.part.classes m = b.part.classes x.model ∧
    b.part.properties m = b.part.properties x.model) ⟨rfl, rfl⟩ ?_
  intro m comments before
  let text := some (Text.paragraphBreak.intercalate comments.2)
  have ofClass (c : Uml.Class) : (c.addDocumentation text).generalizationId = c.generalizationId :=
    rfl
  have ofProperty (p : Property) : b.of (p.addDocumentation text) = b.of p :=
    of_addDocumentation b p text
  exact ⟨(Table.map_modify ofClass m.classes comments.1).trans before.1,
    (Table.map_modify ofProperty m.properties comments.1).trans before.2⟩

/-! ### One element -/

theorem classes_step_start (b : Bound) (situated : x.Situated around)
    (packaged : constructOf? e ≠ some .packagedElement)
    (generalization : constructOf? e ≠ some .generalization) :
    b.part.classes (x.step (.start e)).model = b.part.classes x.model := by
  cases construct : constructOf? e with
  | none => exact (b.part.keeps_step_start x (by simp [construct])).classes
  | some c =>
    rw [construct] at packaged generalization
    rw [Extraction.step_start_eq construct]
    cases c with
    | packagedElement => exact absurd rfl packaged
    | generalization => exact absurd rfl generalization
    | ownedAttribute => exact (b.part.parts_startOwnedAttribute x construct situated).1
    | ownedEnd => exact (b.part.parts_startOwnedEnd x construct situated).1
    | lowerValue | upperValue =>
      simp only [Extraction.begin, Extraction.startLowerValue, Extraction.startUpperValue]
      cases x.currentProperty <;> rfl
    | bounds =>
      simp only [Extraction.begin, Extraction.startBounds]
      cases x.scopedProperty <;> rfl
    | properties => exact (keeps_startProperties b x e).classes
    | documentation => exact (keeps_startDocumentation b x e).classes
    | _ => exact (b.part.keeps_begin x e (by decide)).classes

theorem properties_step_start (b : Bound)
    (attribute' : constructOf? e ≠ some .ownedAttribute)
    (ownedEnd : constructOf? e ≠ some .ownedEnd) (value : constructOf? e ≠ some b.construct)
    (bounds : constructOf? e ≠ some .bounds) :
    b.part.properties (x.step (.start e)).model = b.part.properties x.model := by
  cases construct : constructOf? e with
  | none => exact (b.part.keeps_step_start x (by simp [construct])).properties
  | some c =>
    rw [construct] at attribute' ownedEnd value bounds
    rw [Extraction.step_start_eq construct]
    cases c with
    | ownedAttribute => exact absurd rfl attribute'
    | ownedEnd => exact absurd rfl ownedEnd
    | bounds => exact absurd rfl bounds
    | packagedElement => exact b.part.properties_startPackagedElement x e
    | generalization =>
      simp only [Extraction.begin, Extraction.startGeneralization]
      cases x.currentClass <;> rfl
    | lowerValue =>
      cases b with
      | lower => exact absurd rfl value
      | upper =>
        have kept (p : Property) : Bound.upper.of { p with lower := e.plain? "value" } = p.upper :=
          rfl
        exact (Part.Keeps.self.modifyProperty kept).properties
    | upperValue =>
      cases b with
      | lower =>
        have kept (p : Property) : Bound.lower.of { p with upper := e.plain? "value" } = p.lower :=
          rfl
        exact (Part.Keeps.self.modifyProperty kept).properties
      | upper => exact absurd rfl value
    | properties => exact (keeps_startProperties b x e).properties
    | documentation => exact (keeps_startDocumentation b x e).properties
    | _ => exact (b.part.keeps_begin x e (by decide)).properties

theorem get?_classes (b : Bound) (m : Model) (id : String) :
    (b.part.classes m).get? id = (m.classes.get? id).map (·.generalizationId) :=
  Table.get?_map _ _ _

theorem get?_properties (b : Bound) (m : Model) (id : String) :
    (b.part.properties m).get? id = (m.properties.get? id).map b.of :=
  Table.get?_map _ _ _

theorem superclass_step_start (id : String) (situated : x.Situated around) :
    ((x.step (.start e)).model.classes.get? id).map (·.generalizationId) =
      superclassAfter id ((x.model.classes.get? id).map (·.generalizationId)) ⟨e, around⟩ := by
  rw [← get?_classes .lower, ← get?_classes .lower]
  by_cases packaged : constructOf? e = some .packagedElement
  · have outside : isInside .generalization Vocabulary.classType id ⟨e, around⟩ = false := by
      simp [isInside, packaged]
    rw [Extraction.step_start_eq packaged, superclassAfter, outside]
    simp only [Extraction.begin]
    rw [Bound.lower.part.classes_startPackagedElement x (by simp [isPackaged, packaged])]
    cases declaredId? Vocabulary.classType e with
    | none => rfl
    | some id' =>
      rw [Option.elim_some, Table.get?_insert]
      by_cases same : id = id'
      · simp [same, Bound.part]
      · simp [same, Ne.symm same]
  have undeclared : declaredId? Vocabulary.classType e = none :=
    declaredId?_eq_none (by simpa [isPackaged] using packaged)
  rw [superclassAfter, if_neg (by simp [undeclared])]
  by_cases generalization : constructOf? e = some .generalization
  · have inside : isInside .generalization Vocabulary.classType id ⟨e, around⟩ =
        (x.currentClass == some id) := by
      simp [isInside, generalization, situated.cls]
    rw [Extraction.step_start_eq generalization, inside]
    simp only [Extraction.begin, Extraction.startGeneralization]
    cases x.currentClass with
    | none => rfl
    | some owner =>
      simp only [Extraction.modifyClass, Model.modifyClass, get?_classes, Table.get?_modify]
      by_cases same : id = owner
      · simp [same, Option.map_map, Function.comp_def]
      · simp [same, Ne.symm same]
  · rw [classes_step_start .lower situated packaged generalization, isInside,
      beq_false_of_ne generalization, Bool.false_and, if_neg Bool.false_ne_true]

theorem bound_of_read (b : Bound) (id : String) (current : Option String)
    (properties : b.part.properties y.model = if isRead ⟨e, around⟩ then
      (b.part.properties x.model).insert (readId e) none else b.part.properties x.model)
    (value : constructOf? e ≠ some b.construct) (bounds : constructOf? e ≠ some .bounds) :
    (y.model.properties.get? id).map b.of =
      boundAfter b id current ((x.model.properties.get? id).map b.of) ⟨e, around⟩ := by
  have offers : offersBounds id ⟨e, around⟩ = false := by simp [offersBounds, bounds]
  rw [← get?_properties, ← get?_properties, properties, boundAfter, offers]
  by_cases read : isRead ⟨e, around⟩ = true
  · by_cases same : id = readId e
    · simp [read, same, Table.get?_insert]
    · simp [read, same, Ne.symm same, Table.get?_insert, value]
  · simp [read, value]

theorem get?_modifyProperty {β : Type} {f : Property → Property} {part : Property → β} (g : β → β)
    (of : ∀ p, part (f p) = g (part p)) (x : Extraction) (ref : Option String) (id : String) :
    ((x.modifyProperty ref f).model.properties.get? id).map part =
      if ref = some id then ((x.model.properties.get? id).map part).map g
      else (x.model.properties.get? id).map part := by
  cases ref with
  | none => rfl
  | some ref =>
    simp only [Extraction.modifyProperty, Model.modifyProperty, Table.get?_modify,
      Option.some.injEq]
    by_cases same : id = ref
    · simp [same, Option.map_map, Function.comp_def, of]
    · simp [same, Ne.symm same]

theorem bound_startValue (b : Bound) (construct : constructOf? e = some b.construct)
    (x : Extraction) (id : String) : ((x.step (.start e)).model.properties.get? id).map b.of =
      if x.currentProperty = some id then
        ((x.model.properties.get? id).map b.of).map fun _ => e.plain? "value"
      else (x.model.properties.get? id).map b.of := by
  rw [Extraction.step_start_eq construct]
  cases b with
  | lower =>
    have set (p : Property) : Bound.lower.of { p with lower := e.plain? "value" } =
        e.plain? "value" := rfl
    exact get?_modifyProperty (fun _ => e.plain? "value") set x x.currentProperty id
  | upper =>
    have set (p : Property) : Bound.upper.of { p with upper := e.plain? "value" } =
        e.plain? "value" := rfl
    exact get?_modifyProperty (fun _ => e.plain? "value") set x x.currentProperty id

theorem bound_startBounds (b : Bound) (x : Extraction) (e : Element) (id : String) :
    ((x.startBounds e).model.properties.get? id).map b.of =
      if x.scopes.current.refOf? .attribute = some id then
        ((x.model.properties.get? id).map b.of).map (firstNonBlank · (e.plain? b.key))
      else (x.model.properties.get? id).map b.of := by
  have offered (p : Property) : b.of { p with
      lower := firstNonBlank p.lower (e.plain? "lower")
      upper := firstNonBlank p.upper (e.plain? "upper") } =
        firstNonBlank (b.of p) (e.plain? b.key) := by
    cases b <;> rfl
  refine (get?_modifyProperty (firstNonBlank · (e.plain? b.key)) offered x _ id).trans ?_
  rw [Extraction.scopedProperty]
  cases found : x.model.properties.get? id with
  | none => simp
  | some p =>
    have known : x.model.properties.contains id = true := by
      rw [Table.contains_eq_isSome, found]
      rfl
    -- the model has the property, so that it does not matter whether the scope's is asked for
    have same : (x.scopes.current.refOf? .attribute).filter x.model.properties.contains = some id ↔
        x.scopes.current.refOf? .attribute = some id := by
      rw [Option.filter_eq_some_iff]
      exact ⟨fun both => both.1, fun named => ⟨named, known⟩⟩
    simp only [same]

theorem bound_step_start (b : Bound) (id : String) (situated : x.Situated around) :
    ((x.step (.start e)).model.properties.get? id).map b.of =
      boundAfter b id x.currentProperty ((x.model.properties.get? id).map b.of) ⟨e, around⟩ := by
  by_cases owned : constructOf? e = some .ownedAttribute
  · have read := (b.part.parts_startOwnedAttribute x owned situated).2
    rw [Extraction.step_start_eq owned]
    exact bound_of_read b id _ read (by rw [owned]; cases b <;> simp [Bound.construct])
      (by simp [owned])
  by_cases ownedEnd : constructOf? e = some .ownedEnd
  · have read := (b.part.parts_startOwnedEnd x ownedEnd situated).2
    rw [Extraction.step_start_eq ownedEnd]
    exact bound_of_read b id _ read (by rw [ownedEnd]; cases b <;> simp [Bound.construct])
      (by simp [ownedEnd])
  have unread : isRead ⟨e, around⟩ = false := by simp [isRead, owned, ownedEnd]
  rw [boundAfter, unread, if_neg (by simp)]
  by_cases value : constructOf? e = some b.construct
  · have offers : offersBounds id ⟨e, around⟩ = false := by
      cases b <;> simp [offersBounds, value, Bound.construct]
    simp only [bound_startValue b value, value, true_and, offers]
    rfl
  rw [if_neg (by simp [value])]
  by_cases bounds : constructOf? e = some .bounds
  · rw [Extraction.step_start_eq bounds]
    simp [Extraction.begin, bound_startBounds, situated.scope, offersBounds, bounds]
  · have kept := properties_step_start (x := x) b owned ownedEnd value bounds
    rw [← get?_properties, ← get?_properties, kept, offersBounds, beq_false_of_ne bounds,
      Bool.false_and, if_neg Bool.false_ne_true]

/-! ### Superclasses -/

theorem superclass_ofEvents (skipped : List String) (id : String)
    (h : openAfter events = some around) :
    ((ofEvents skipped events).model.classes.get? id).map (·.generalizationId) =
      (occurrences events).foldl (superclassAfter id) none := by
  refine nesting_induction (motive := fun events _ =>
    ((ofEvents skipped events).model.classes.get? id).map (·.generalizationId) =
      (occurrences events).foldl (superclassAfter id) none) ?_ ?_ ?_ h
  · rfl
  · intro pre around e opened before
    rw [ofEvents_concat, superclass_step_start id (Extraction.situated_ofEvents opened), before,
      Xml.occurrences_append_start opened, List.foldl_append, List.foldl_cons, List.foldl_nil]
  · intro pre e outer opened before
    rw [ofEvents_concat, Extraction.model_step_finish, before, Xml.occurrences_append_finish opened]

theorem foldl_superclassAfter {os : List Occurrence}
    (undeclared : ∀ o ∈ os, declaredId? Vocabulary.classType o.element ≠ some id)
    (before : Option (Option String)) :
    os.foldl (superclassAfter id) before = before.map fun superclass =>
      ((os.filter (isInside .generalization Vocabulary.classType id)).map fun o =>
        o.element.plain? "general").foldl firstNonBlank superclass := by
  induction os generalizing before with
  | nil => simp
  | cons o os ih =>
    rw [List.foldl_cons, ih fun o' member => undeclared o' (List.mem_cons_of_mem _ member),
      superclassAfter, if_neg (undeclared o List.mem_cons_self)]
    by_cases inside : isInside .generalization Vocabulary.classType id o = true
    · simp [inside, Option.map_map, Function.comp_def]
    · simp [inside]

theorem not_isInside_before {c : Construct} {before later : List Occurrence} {o : Occurrence}
    (h : openAfter events = some around) (split : occurrences events = before ++ o :: later)
    (undeclared : ∀ o ∈ before, declaredId? Vocabulary.classType o.element ≠ some id) :
    ∀ o' ∈ before, isInside c Vocabulary.classType id o' = false := by
  intro o' member
  by_contra inside
  have innermost := innermost_of_isInside (by simpa using inside)
  obtain ⟨e, open', declared⟩ := declared_of_innermost innermost
  obtain ⟨front, back, rfl⟩ := List.append_of_mem member
  rw [List.append_assoc, List.cons_append] at split
  obtain ⟨o'', begun, rfl⟩ := Xml.begun_of_occurrence h split open'
  exact undeclared o'' (List.mem_append_left _ begun) declared

theorem split_of_countP_eq_one {α : Type} {p : α → Bool} {l : List α} (h : l.countP p = 1) :
    ∃ before a later, l = before ++ a :: later ∧ p a = true ∧
      (∀ b ∈ before, p b = false) ∧ ∀ b ∈ later, p b = false := by
  have some : 0 < l.countP p := by omega
  obtain ⟨a, member, holds⟩ := List.countP_pos_iff.mp some
  obtain ⟨before, later, rfl⟩ := List.append_of_mem member
  rw [List.countP_append, List.countP_cons_of_pos holds] at h
  have first : before.countP p = 0 := by omega
  have rest : later.countP p = 0 := by omega
  refine ⟨before, a, later, rfl, holds, ?_, ?_⟩
  · simpa using List.countP_eq_zero.mp first
  · simpa using List.countP_eq_zero.mp rest

theorem superclass_extract (skipped : List String) (h : WellNested events)
    (once : (declaredIds Vocabulary.classType events).count id = 1) :
    ((extract skipped events).classes.get? id).map (·.generalizationId) =
      some ((elementsInside .generalization Vocabulary.classType id events).findSome? fun e =>
        nonBlank? (e.plain? "general")) := by
  have counted : (occurrences events).countP
      (fun o => declaredId? Vocabulary.classType o.element == some id) = 1 := by
    rw [← once, declaredIds, ← Xml.element_occurrences, List.count_filterMap, List.countP_map]
    rfl
  obtain ⟨before, o, later, split, declared, first, last⟩ := split_of_countP_eq_one counted
  have declared : declaredId? Vocabulary.classType o.element = some id := eq_of_beq declared
  have first : ∀ o ∈ before, declaredId? Vocabulary.classType o.element ≠ some id :=
    fun o member => ne_of_beq_false (first o member)
  have last : ∀ o ∈ later, declaredId? Vocabulary.classType o.element ≠ some id :=
    fun o member => ne_of_beq_false (last o member)
  have kept : ((extract skipped events).classes.get? id).map (·.generalizationId) =
      (occurrences events).foldl (superclassAfter id) none := by
    rw [← superclass_ofEvents skipped id h, ← get?_classes .lower, ← get?_classes .lower]
    exact congrArg (Table.get? · id) (part_complete .lower _).1
  have inside : (occurrences events).filter (isInside .generalization Vocabulary.classType id) =
      later.filter (isInside .generalization Vocabulary.classType id) := by
    have none : before.filter (isInside .generalization Vocabulary.classType id) = [] := by
      rw [List.filter_eq_nil_iff]
      intro o' member
      simp [not_isInside_before h split first o' member]
    have other : isInside .generalization Vocabulary.classType id o = false := by
      cases packaged : isPackaged o.element with
      | true => simp [isInside, eq_of_beq packaged]
      | false => simp [declaredId?_eq_none packaged] at declared
    rw [split, List.filter_append, none, List.nil_append, List.filter_cons_of_neg (by simp [other])]
  calc ((extract skipped events).classes.get? id).map (·.generalizationId)
      = later.foldl (superclassAfter id) (some none) := by
        rw [kept, split, List.foldl_append, List.foldl_cons, foldl_superclassAfter first,
          Option.map_none, superclassAfter, if_pos declared]
    _ = some (((later.filter (isInside .generalization Vocabulary.classType id)).map fun o =>
          o.element.plain? "general").findSome? nonBlank?) := by
        rw [foldl_superclassAfter last, Option.map_some, foldl_firstNonBlank, Option.or_none]
        rfl
    _ = _ := by
        rw [elementsInside, inside, List.findSome?_map, List.findSome?_map]
        rfl

end UmlKotlin.Xmi
