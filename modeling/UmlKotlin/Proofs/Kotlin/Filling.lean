import UmlKotlin.Proofs.Kotlin.Outline

/-!
Planning a file step by step. Every step fills in a template, and what is filled in first keeps its
spelling while the rest is filled in (`Fills.and`). Main statement: the plan of a file is its outline
with every reference spelled as the scope at the end of the file has it (`plan_eq`).
-/

set_option autoImplicit false

namespace UmlKotlin.Kotlin

open Uml (Property)
open Profile (CollectionType)

/-- A form with gaps for references. What is filled in depends on the spelling of those references
alone. -/
structure Template (β α : Type) where
  references : β → List Reference
  fill : (Reference → String) → β → α
  steady : ∀ {b : β} {spell spell' : Reference → String},
    (∀ r ∈ references b, spell r = spell' r) → fill spell b = fill spell' b

/-- A planning step that fills in a template: it refers to what the template refers to, and its
result has the references spelled as they are from then on. -/
def Fills {α β : Type} (x : Planning α) (o : Except PlanError β) (t : Template β α) : Prop :=
  ∀ s : ImportScope, x s = o.map fun b =>
    (t.fill (s.referAll (t.references b)).spell b, s.referAll (t.references b))

namespace Template

variable {α β : Type}

def list (t : Template β α) : Template (List β) (List α) where
  references bs := bs.flatMap t.references
  fill spell bs := bs.map (t.fill spell)
  steady h := List.map_congr_left fun b hb =>
    t.steady fun r hr => h r (List.mem_flatMap.mpr ⟨b, hb, hr⟩)

def and {γ δ : Type} (t : Template β α) (t' : Template δ γ) : Template (β × δ) (α × γ) where
  references b := t.references b.1 ++ t'.references b.2
  fill spell b := (t.fill spell b.1, t'.fill spell b.2)
  steady h := Prod.ext (t.steady fun r hr => h r (List.mem_append_left _ hr))
    (t'.steady fun r hr => h r (List.mem_append_right _ hr))

def reference : Template Reference String where
  references r := [r]
  fill spell r := spell r
  steady h := h _ List.mem_cons_self

def optional : Template (Option Reference) (Option String) where
  references := Option.toList
  fill spell := Option.map spell
  steady {b} _ _ h := by
    cases b with
    | none => rfl
    | some r => simp [h r (by simp)]

def fieldType : Template FieldType (String × Option String) where
  references := FieldType.references
  fill spell t := (t.text spell, t.default)
  steady h := by rw [FieldType.text_congr h]

def inherited (reserved : List String) : Template Field Parameter where
  references f := f.type.references
  fill := Field.inherited reserved
  steady h := by rw [Field.inherited, FieldType.text_congr h, Field.inherited]

def own (reserved : List String) : Template Field Parameter where
  references f := f.type.references
  fill := Field.own reserved
  steady h := by rw [Field.own, FieldType.text_congr h, Field.own]

def outline (g : Generator) (c : Uml.Class) : Template Outline ClassDeclaration where
  references := Outline.references
  fill := Outline.declaration g c
  steady {o} spell spell' h := by
    have inherited : (inherited g.target.reserved).list.fill spell o.inherited =
        (Template.inherited g.target.reserved).list.fill spell' o.inherited :=
      Template.steady _ fun r hr => h r (by simp_all [Outline.references, list, Template.inherited])
    have own : (own g.target.reserved).list.fill spell o.own =
        (Template.own g.target.reserved).list.fill spell' o.own :=
      Template.steady _ fun r hr => h r (by simp_all [Outline.references, list, Template.own])
    have superclass : optional.fill spell o.superclass = optional.fill spell' o.superclass :=
      optional.steady fun r hr => h r (by simp_all [Outline.references, optional])
    have interfaces : reference.list.fill spell o.interfaces =
        reference.list.fill spell' o.interfaces :=
      reference.list.steady fun r hr => h r (by simp_all [Outline.references, list, reference])
    change g.assemble c _ _ _ _ = g.assemble c _ _ _ _
    exact congr (congr (congr (congrArg _ inherited) own) superclass) interfaces

theorem fill_later (t : Template β α) (s : ImportScope) (b : β) (rs : List Reference) :
    t.fill (s.referAll (t.references b ++ rs)).spell b =
      t.fill (s.referAll (t.references b)).spell b :=
  t.steady fun _ hr => s.spell_referAll_append hr rs

end Template

/-! ### Planning fills in outlines -/

namespace Fills

variable {α β γ : Type} {x : Planning α} {o : Except PlanError β} {t : Template β α}

theorem bind_apply (h : Fills x o t) (k : α → Planning γ) (s : ImportScope) :
    (x >>= k) s = o.bind fun b =>
      k (t.fill (s.referAll (t.references b)).spell b) (s.referAll (t.references b)) := by
  change (x s).bind (fun a => k a.1 a.2) = _
  rw [h s]
  cases o <;> rfl

theorem map {δ : Type} {t' : Template δ γ} (h : Fills x o t) (f : α → γ) (g : β → δ)
    (refs : ∀ b, t'.references (g b) = t.references b)
    (fill : ∀ spell b, t'.fill spell (g b) = f (t.fill spell b)) :
    Fills (f <$> x) (g <$> o) t' := by
  intro s
  change (x s).bind (fun a => .ok (f a.1, a.2)) = _
  rw [h s]
  cases o with
  | error e => rfl
  | ok b =>
    change Except.ok (f (t.fill _ b), _) = Except.ok (t'.fill _ (g b), _)
    rw [refs, fill]

theorem and {δ : Type} {y : Planning γ} {o' : Except PlanError δ} {t' : Template δ γ}
    (hx : Fills x o t) (hy : Fills y o' t') :
    Fills (do let a ← x; let a' ← y; pure (a, a')) (do let b ← o; let b' ← o'; pure (b, b'))
      (t.and t') := by
  intro s
  rw [hx.bind_apply]
  cases o with
  | error e => rfl
  | ok b =>
    change (y >>= fun a' => pure (t.fill (s.referAll (t.references b)).spell b, a')) _ = _
    rw [hy.bind_apply]
    cases o' with
    | error e => rfl
    | ok b' =>
      have first := t.fill_later s b (t'.references b')
      have refs : (t.and t').references (b, b') = t.references b ++ t'.references b' := rfl
      change Except.ok (_, _) = Except.ok ((t.fill _ b, t'.fill _ b'), _)
      rw [refs, first.symm, ImportScope.referAll_append]

theorem mapM {ι : Type} {x : ι → Planning α} {o : ι → Except PlanError β} (l : List ι)
    (h : ∀ i, Fills (x i) (o i) t) : Fills (l.mapM x) (l.mapM o) t.list := by
  induction l with
  | nil => exact fun s => rfl
  | cons i l ih =>
    have both : Fills _ _ t.list := ((h i).and ih).map (fun a => a.1 :: a.2) (fun b => b.1 :: b.2)
      (fun _ => rfl) (fun _ _ => rfl)
    simpa using both

end Fills

namespace Generator

theorem refer_fills (package name : String) :
    Fills (refer package name) (.ok (.named package name)) .reference := by
  intro s
  have text := s.fst_reference package name
  change Except.ok ((s.reference package name).1, (s.reference package name).2) = _
  rw [text]
  rfl

theorem pure_fills (text : String) :
    Fills (pure text) (.ok (.verbatim text)) .reference :=
  fun _ => rfl

theorem referToClass_fills (g : Generator) (key : String) :
    Fills (g.referToClass key) (g.classReference key) .reference := by
  unfold referToClass classReference
  cases g.listed key with
  | error e => exact fun _ => rfl
  | ok c => exact refer_fills (g.packageOf c) (g.classNameOf c)

theorem referToBuiltin_fills (g : Generator) (name : String) :
    Fills (g.referToBuiltin name) (.ok (g.builtinReference name)) .reference := by
  unfold referToBuiltin builtinReference
  cases g.target.builtins.get? name with
  | none => exact pure_fills name
  | some package =>
    by_cases empty : package = ""
    · simp only [empty, reduceIte]
      exact pure_fills name
    · simp only [empty, reduceIte]
      exact refer_fills package name

theorem referToPrimitive_fills (g : Generator) (raw : Option String) :
    Fills (g.referToPrimitive raw) (g.primitiveReference raw) .reference := by
  unfold referToPrimitive primitiveReference
  cases g.target.primitive raw with
  | none => exact fun _ => rfl
  | some name => exact referToBuiltin_fills g name

theorem referToCollection_fills (g : Generator) (c : CollectionType) :
    Fills (g.referToCollection c) (.ok (g.collectionReference c)) .reference := by
  unfold referToCollection collectionReference
  cases c.name? with
  | none => exact pure_fills _
  | some name => exact referToBuiltin_fills g name

theorem referToMarker_fills (g : Generator) (name : Option String) :
    Fills (g.referToMarker name) (g.markerReference name) .reference := by
  cases name with
  | none => exact fun _ => rfl
  | some name => exact refer_fills g.markers.package name

private def referToBase (g : Generator) (p : Property) : Planning String :=
  match p.links.type with
  | some id => g.referToClass id
  | none => g.referToPrimitive p.links.primitiveType

private theorem referToBase_fills (g : Generator) (p : Property) :
    Fills (g.referToBase p) (g.baseReference p) .reference := by
  unfold referToBase baseReference
  cases p.links.type with
  | some id => exact referToClass_fills g id
  | none => exact referToPrimitive_fills g _

private theorem fieldType_eq (g : Generator) (p : Property) (owner : Uml.Class) :
    g.fieldType p owner = g.referToBase p >>= fun base =>
      if p.isMany then do
        let collection ← g.collectionFor owner
        let type ← g.referToCollection collection
        pure (type ++ "<" ++ base ++ ">", collection.empty)
      else if p.isRequired then pure (base, none)
      else pure (base ++ "?", some "null") := by
  unfold fieldType referToBase
  cases p.links.type <;> rfl

theorem fieldType_fills (g : Generator) (p : Property) (owner : Uml.Class) :
    Fills (g.fieldType p owner) (g.meantType p owner) .fieldType := by
  intro s
  rw [fieldType_eq, (referToBase_fills g p).bind_apply, meantType]
  cases g.baseReference p with
  | error e => rfl
  | ok base =>
    change (if p.isMany then _ else _ : Planning _) _ = Except.map _ (if p.isMany then _ else _)
    by_cases many : p.isMany = true
    · rw [if_pos many, if_pos many]
      cases g.collectionFor owner with
      | error e => rfl
      | ok collection =>
        change (g.referToCollection collection >>= fun type =>
          pure (type ++ "<" ++ (s.referAll [base]).spell base ++ ">", collection.empty)) _ = _
        rw [(referToCollection_fills g collection).bind_apply]
        -- the base type is written before the collection type
        have first := Template.reference.fill_later s base [g.collectionReference collection]
        change (s.referAll [base, _]).spell base = (s.referAll [base]).spell base at first
        rw [← first]
        rfl
    · rw [if_neg many, if_neg many]
      cases required : p.isRequired <;> rfl

theorem inheritedParameter_fills (g : Generator) (owner : Uml.Class) (p : Property) :
    Fills (g.inheritedParameter owner p) (g.field owner p) (.inherited g.target.reserved) := by
  let write (written : String × Option String) : Parameter := {
    name := propertyName g.target.reserved p.name
    type := written.1
    default := written.2
    isProperty := false }
  change Fills (write <$> g.fieldType p owner) (Field.mk p <$> g.meantType p owner) _
  exact (fieldType_fills g p owner).map write (Field.mk p) (fun _ => rfl) (fun _ _ => rfl)

theorem ownParameter_fills (g : Generator) (owner : Uml.Class) (p : Property) :
    Fills (g.ownParameter owner p) (g.field owner p) (.own g.target.reserved) := by
  let write (written : String × Option String) : Parameter := {
    name := propertyName g.target.reserved p.name
    type := written.1
    default := written.2
    documentation := p.fullDocumentation
    deprecation := deprecationOf p.deprecated p.deprecationMessage }
  change Fills (write <$> g.fieldType p owner) (Field.mk p <$> g.meantType p owner) _
  exact (fieldType_fills g p owner).map write (Field.mk p) (fun _ => rfl) (fun _ _ => rfl)

theorem inheritedParameters_fills (g : Generator) (above : List Uml.Class) :
    Fills (g.inheritedParameters above) (List.flatten <$> above.mapM g.fieldsOf)
      (.list (.inherited g.target.reserved)) := by
  have groups : Fills (above.mapM fun a => (g.model.sortedProperties a).mapM (g.inheritedParameter a))
      (above.mapM g.fieldsOf) (.list (.list (.inherited g.target.reserved))) :=
    Fills.mapM above fun a => Fills.mapM _ (inheritedParameter_fills g a)
  exact groups.map List.flatten List.flatten
    (fun fields => by
      simp only [Template.list, List.flatMap_def, List.map_flatten, List.flatten_flatten,
        List.map_map]
      rfl)
    (fun spell fields => by simp [Template.list, List.map_flatten])

theorem ownParameters_fills (g : Generator) (c : Uml.Class) :
    Fills ((g.model.sortedProperties c).mapM (g.ownParameter c)) (g.fieldsOf c)
      (.list (.own g.target.reserved)) :=
  Fills.mapM _ (ownParameter_fills g c)

private def referToSuperclass (g : Generator) (c : Uml.Class) : Planning (Option String) :=
  match c.superclass with
  | some id => some <$> g.referToClass id
  | none => pure none

private theorem referToSuperclass_fills (g : Generator) (c : Uml.Class) :
    Fills (g.referToSuperclass c) (g.superclassReference c) .optional := by
  unfold referToSuperclass superclassReference
  cases c.superclass with
  | none => exact fun _ => rfl
  | some id => exact (referToClass_fills g id).map some some (fun _ => rfl) (fun _ _ => rfl)

private def referToMarkers (g : Generator) (has : Bool) (name : Option String) :
    Planning (List String) :=
  if has then (fun text => [text]) <$> g.referToMarker name else pure []

private theorem referToMarkers_fills (g : Generator) (has : Bool) (name : Option String) :
    Fills (g.referToMarkers has name) (g.markerReferences has name) (.list .reference) := by
  cases has with
  | false => exact fun _ => rfl
  | true =>
    exact (referToMarker_fills g name).map (fun text => [text]) (fun r => [r])
      (fun _ => rfl) (fun _ _ => rfl)

private theorem interfaces_eq (g : Generator) (c : Uml.Class) :
    g.interfaces c = (do
      let roots ← g.referToMarkers (!c.superclass.isSome) g.markers.rootEntity
      let values ← g.referToMarkers (g.isComplexDatatype c) g.markers.complexDatatype
      pure (roots ++ values)) := by
  unfold interfaces referToMarkers
  cases c.superclass.isSome <;> cases g.isComplexDatatype c <;>
    simp

theorem interfaces_fills (g : Generator) (c : Uml.Class) :
    Fills (g.interfaces c) (g.interfaceReferences c) (.list .reference) := by
  have both : Fills _ _ (.list .reference) :=
    ((referToMarkers_fills g (!c.superclass.isSome) g.markers.rootEntity).and
      (referToMarkers_fills g (g.isComplexDatatype c) g.markers.complexDatatype)).map
      (fun texts => texts.1 ++ texts.2) (fun rs => rs.1 ++ rs.2)
      (fun _ => List.flatMap_append) (fun _ _ => List.map_append)
  rw [interfaces_eq, interfaceReferences]
  simpa using both

private theorem declare_eq (g : Generator) (id : String) (c : Uml.Class) :
    g.declare id c = (do
      let above ← g.ancestors id c
      let inherited ← g.inheritedParameters above
      let own ← (g.model.sortedProperties c).mapM (g.ownParameter c)
      let superclass ← g.referToSuperclass c
      let interfaces ← g.interfaces c
      pure (g.assemble c inherited own superclass interfaces)) := by
  unfold declare referToSuperclass assemble
  cases c.superclass <;> rfl

theorem declare_fills (g : Generator) (id : String) (c : Uml.Class) :
    Fills (g.declare id c) (g.outline id c) (.outline g c) := by
  rw [declare_eq, outline]
  cases g.ancestors id c with
  | error e => exact fun _ => rfl
  | ok above =>
    have parts : Fills _ _ (.outline g c) :=
      (((inheritedParameters_fills g above).and (ownParameters_fills g c)).and
        ((referToSuperclass_fills g c).and (interfaces_fills g c))).map
        (fun texts => g.assemble c texts.1.1 texts.1.2 texts.2.1 texts.2.2)
        (fun parts => Outline.mk parts.1.1 parts.1.2 parts.2.1 parts.2.2)
        (fun _ => by simp [Template.outline, Template.and, Outline.references, Template.list,
          Template.inherited, Template.own, Template.optional, Template.reference])
        (fun _ _ => rfl)
    change Fills (do
      let inherited ← g.inheritedParameters above
      let own ← (g.model.sortedProperties c).mapM (g.ownParameter c)
      let superclass ← g.referToSuperclass c
      let interfaces ← g.interfaces c
      pure (g.assemble c inherited own superclass interfaces)) (do
      let inherited ← above.mapM g.fieldsOf
      let own ← g.fieldsOf c
      let superclass ← g.superclassReference c
      let interfaces ← g.interfaceReferences c
      pure (Outline.mk inherited.flatten own superclass interfaces)) _
    simpa only [map_eq_pure_bind, bind_assoc, pure_bind] using parts

def opened (g : Generator) (c : Uml.Class) : ImportScope :=
  ImportScope.opening (g.packageOf c) (g.classNameOf c) g.target.builtins

/-- The scope of the file of a class at its end. -/
def closed (g : Generator) (c : Uml.Class) (o : Outline) : ImportScope :=
  (g.opened c).referAll o.references

theorem plan_eq (g : Generator) (id : String) (c : Uml.Class) :
    g.plan id c = (g.outline id c).map fun o =>
      { o.declaration g c (g.closed c o).spell with imports := (g.closed c o).imports } := by
  change ((g.declare id c) (g.opened c)).bind
    (fun r => .ok { r.1 with imports := r.2.imports }) = _
  rw [declare_fills g id c (g.opened c)]
  cases g.outline id c <;> rfl

theorem plan_eq_ok_iff {g : Generator} {id : String} {c : Uml.Class} {d : ClassDeclaration} :
    g.plan id c = .ok d ↔ ∃ o, g.outline id c = .ok o ∧
      d = { o.declaration g c (g.closed c o).spell with imports := (g.closed c o).imports } := by
  rw [plan_eq]
  cases g.outline id c with
  | error e => simp [Except.map]
  | ok o => simp [Except.map, eq_comm]

end Generator

end UmlKotlin.Kotlin
