import UmlKotlin.Proofs.Uml.Linking
import UmlKotlin.Proofs.Uml.Typing

/-!
The names that may stand for the type of a property: what the type table says about its type
identifier, its referenced type, and the type in its metadata. If its type is no class, the first of
them that is not blank is to count. Main statement: it does, but for the referenced type of a
property whose type identifier leads nowhere (`followsNames_iff`).
-/

set_option autoImplicit false

namespace UmlKotlin.Uml

open Text (blank)

def filled (name : Option String) : Option String := name.filter fun name => !blank (some name)

theorem filled_eq_none_iff {name : Option String} : filled name = none ↔ blank name = true := by
  cases name <;> simp [filled, blank]

theorem filled_of_blank_eq_false {name : Option String} (h : blank name = false) :
    filled name = name := by
  cases name with
  | none => cases h
  | some name => simp [filled, h]

def firstFilled (names : List (Option String)) : Option String := names.findSome? filled

@[simp] theorem firstFilled_nil : firstFilled [] = none := rfl

theorem firstFilled_cons (name : Option String) (names : List (Option String)) :
    firstFilled (name :: names) = if blank name then firstFilled names else name := by
  cases empty : blank name with
  | true => simp [firstFilled, filled_eq_none_iff.mpr empty]
  | false =>
    cases name with
    | none => cases empty
    | some name => simp [firstFilled, filled, empty]

theorem firstFilled_singleton (name : Option String) : firstFilled [name] = filled name := by
  rw [firstFilled_cons, firstFilled_nil]
  cases empty : blank name with
  | true => rw [filled_eq_none_iff.mpr empty, if_pos rfl]
  | false => rw [filled_of_blank_eq_false empty, if_neg Bool.false_ne_true]

/-- A name in the middle is missed if it is the first that is not blank and no other one is it. -/
theorem firstFilled_without_iff {first middle last : Option String} :
    firstFilled [first, last] = firstFilled [first, middle, last] ↔
      ¬ (blank first = true ∧ blank middle = false ∧ filled last ≠ middle) := by
  simp only [firstFilled_cons first, firstFilled_cons middle, firstFilled_singleton]
  cases blank first <;> cases blank middle <;> simp

variable {m : Model} {p : Property}

def Model.tableName (m : Model) (p : Property) : Option String :=
  if blank p.typeId then none else p.typeId.bind m.types.get?

def Property.toolName (p : Property) : Option String := p.metadata.get? Model.toolTypeKey

/-- The type of a property is the class that its type identifier names, or else the first name that
is not blank. -/
structure Property.FollowsNames (p : Property) (m : Model) : Prop where
  listed (key : String) (c : Class) : Names p.typeId m.classes key c →
    p.links.type = some key ∧ p.links.primitiveType = none
  name : (∀ key c, ¬ Names p.typeId m.classes key c) → p.links.type = none ∧
    p.links.primitiveType = firstFilled [m.tableName p, p.hrefType, p.toolName]

/-- A type identifier that names neither a class nor a type stands in front of a referenced type,
which is not the name that the metadata gives instead. -/
structure Property.LosesReference (p : Property) (m : Model) : Prop where
  identified : blank p.typeId = false
  classless : ∀ key c, ¬ Names p.typeId m.classes key c
  nameless : blank (p.typeId.bind m.types.get?) = true
  referenced : blank p.hrefType = false
  other : filled p.toolName ≠ p.hrefType

namespace Model

theorem typeOf_eq_none_iff :
    m.typeOf p = none ↔ ∀ key c, ¬ Names p.typeId m.classes key c := by
  rw [Option.eq_none_iff_forall_ne_some]
  refine forall_congr' fun key => ?_
  rw [Ne, typeOf_eq_some_iff, not_exists]

theorem primitiveTypeOf_eq (classless : m.typeOf p = none) : m.primitiveTypeOf p =
    firstFilled [if blank p.typeId then p.hrefType else p.typeId.bind m.types.get?, p.toolName] := by
  have untyped : ¬ (m.typeOf p).isSome = true := by simp [classless]
  rw [primitiveTypeOf, if_neg untyped, firstFilled_cons, firstFilled_singleton]
  generalize (if blank p.typeId then p.hrefType else p.typeId.bind m.types.get?) = declared
  change filled (if blank declared then p.toolName else declared) = _
  cases empty : blank declared with
  | true => simp
  | false => simp [filled_of_blank_eq_false empty]

theorem links_of_class {key : String} {c : Class} (typed : m.Typed p)
    (named : Names p.typeId m.classes key c) :
    p.links.type = some key ∧ p.links.primitiveType = none := by
  have class_ := typeOf_eq_some_iff.mpr ⟨c, named⟩
  refine ⟨typed.1.trans class_, ?_⟩
  rw [typed.2, primitiveTypeOf, if_pos (by simp [class_])]

theorem followsNames_of_typed (typed : m.Typed p) :
    p.FollowsNames m ↔ ¬ p.LosesReference m := by
  by_cases classless : ∀ key c, ¬ Names p.typeId m.classes key c
  · have untyped := typeOf_eq_none_iff.mpr classless
    have follows : p.FollowsNames m ↔
        p.links.primitiveType = firstFilled [m.tableName p, p.hrefType, p.toolName] :=
      ⟨fun h => (h.name classless).2,
        fun h => ⟨fun key c named => absurd named (classless key c),
          fun _ => ⟨typed.1.trans untyped, h⟩⟩⟩
    rw [follows, typed.2, primitiveTypeOf_eq untyped, tableName]
    cases identified : blank p.typeId with
    | true =>
      -- without a type identifier there is nothing in front of the referenced type
      have kept : ¬ p.LosesReference m := by
        intro lost
        rw [lost.identified] at identified
        cases identified
      simp [kept, firstFilled_cons none, blank]
    | false =>
      simp only [Bool.false_eq_true, if_false]
      rw [firstFilled_without_iff]
      apply not_congr
      constructor
      · rintro ⟨nameless, referenced, other⟩
        exact ⟨identified, classless, nameless, referenced, other⟩
      · intro lost
        exact ⟨lost.nameless, lost.referenced, lost.other⟩
  · have kept : ¬ p.LosesReference m := fun lost => classless lost.classless
    exact ⟨fun _ => kept, fun _ => ⟨fun key c named => links_of_class typed named,
      fun none => absurd none classless⟩⟩

/-- In a resolved model a class that the type identifier of a property names is its type. Any other
property has as its type the first name that is not blank, of the referenced type and the name in
the metadata if it has no type identifier, and of the names in the type table and in the metadata if
it has one. That is the first of all three names unless the referenced type is lost. -/
theorem followsNames_iff (m : Model) (id : String)
    (found : m.resolve.properties.get? id = some p) :
    (∀ key c, Names p.typeId m.resolve.classes key c →
      p.links.type = some key ∧ p.links.primitiveType = none) ∧
    ((∀ key c, ¬ Names p.typeId m.resolve.classes key c) → p.links.type = none ∧
      p.links.primitiveType = firstFilled
        [if blank p.typeId then p.hrefType else p.typeId.bind m.resolve.types.get?, p.toolName]) ∧
    (p.FollowsNames m.resolve ↔ ¬ p.LosesReference m.resolve) := by
  have typed := typed_of_listed found
  refine ⟨fun key c named => links_of_class typed named, fun classless => ?_,
    followsNames_of_typed typed⟩
  have untyped := typeOf_eq_none_iff.mpr classless
  exact ⟨typed.1.trans untyped, typed.2.trans (primitiveTypeOf_eq untyped)⟩

private def referring : Model where
  properties := ⟨[
    ("a", { id := "a", typeId := some " ", hrefType := some "Boolean" }),
    ("b", { id := "b", typeId := some "gone", hrefType := some "Boolean" })], by simp⟩

theorem followsNames_of_blank_id : ∃ p, referring.resolve.properties.get? "a" = some p ∧
    p.FollowsNames referring.resolve ∧ p.links.primitiveType = some "Boolean" := by
  refine ⟨_, rfl, (followsNames_iff referring "a" rfl).2.2.mpr fun lost => ?_, rfl⟩
  exact absurd lost.identified (by decide)

/-- Behind a type identifier that the type table does not know, a referenced type is passed over. -/
theorem reference_lost_behind_id : ∃ p, referring.resolve.properties.get? "b" = some p ∧
    p.hrefType = some "Boolean" ∧ p.links = {} ∧ ¬ p.FollowsNames referring.resolve := by
  refine ⟨_, rfl, rfl, rfl, fun follows => ?_⟩
  have classless : ∀ key c, ¬ Names (some "gone") referring.resolve.classes key c :=
    fun key c named => by cases named.listed
  exact absurd (follows.name classless).2 (by decide)

end Model

end UmlKotlin.Uml
