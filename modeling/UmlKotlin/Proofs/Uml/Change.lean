import UmlKotlin.Proofs.Table
import UmlKotlin.Uml.Model

/-!
What a change of a model leaves alone. A change is confined to one class, property or association
if all others, and the packages and types, are as they were (`Model.ChangesOnly`); a change that is
confined to none is no change (`ChangesOnly.eq`).
-/

set_option autoImplicit false

namespace UmlKotlin.Uml

/-- What a model has under an identifier, besides its packages and types. -/
inductive Entity
  | cls (id : String)
  | property (id : String)
  | association (id : String)
  deriving DecidableEq, Repr

/-- One model differs from another in one entity at most, or not at all. -/
structure Model.ChangesOnly (entity : Option Entity) (m n : Model) : Prop where
  classKeys : n.classes.keys = m.classes.keys
  propertyKeys : n.properties.keys = m.properties.keys
  associationKeys : n.associations.keys = m.associations.keys
  classes (id : String) : entity ≠ some (.cls id) → n.classes.get? id = m.classes.get? id
  properties (id : String) :
    entity ≠ some (.property id) → n.properties.get? id = m.properties.get? id
  associations (id : String) :
    entity ≠ some (.association id) → n.associations.get? id = m.associations.get? id
  packages : n.packages = m.packages
  types : n.types = m.types
  retired : n.retired = m.retired

namespace Model.ChangesOnly

variable {entity : Option Entity} {l m n : Model} {id : String}

theorem refl (entity : Option Entity) (m : Model) : ChangesOnly entity m m :=
  ⟨rfl, rfl, rfl, fun _ _ => rfl, fun _ _ => rfl, fun _ _ => rfl, rfl, rfl, rfl⟩

theorem trans (h : ChangesOnly entity l m) (h' : ChangesOnly entity m n) :
    ChangesOnly entity l n where
  classKeys := h'.classKeys.trans h.classKeys
  propertyKeys := h'.propertyKeys.trans h.propertyKeys
  associationKeys := h'.associationKeys.trans h.associationKeys
  classes id other := (h'.classes id other).trans (h.classes id other)
  properties id other := (h'.properties id other).trans (h.properties id other)
  associations id other := (h'.associations id other).trans (h.associations id other)
  packages := h'.packages.trans h.packages
  types := h'.types.trans h.types
  retired := h'.retired.trans h.retired

theorem eq (h : ChangesOnly none m n) : n = m := by
  have classes : n.classes = m.classes :=
    Table.ext_get? h.classKeys fun id => h.classes id (by simp)
  have properties : n.properties = m.properties :=
    Table.ext_get? h.propertyKeys fun id => h.properties id (by simp)
  have associations : n.associations = m.associations :=
    Table.ext_get? h.associationKeys fun id => h.associations id (by simp)
  obtain ⟨-, -, -, -, -, -, packages, types, retired⟩ := h
  cases m
  cases n
  simp_all

private theorem get?_modify_other {α : Type} {t : Table String α} {k : String} {f : α → α}
    (other : id ≠ k) : (t.modify k f).get? id = t.get? id := by
  rw [Table.get?_modify, if_neg other]

theorem modifyClass (m : Model) (id : String) (f : Class → Class) :
    ChangesOnly (some (.cls id)) m (m.modifyClass id f) :=
  { refl _ m with
    classKeys := Table.keys_modify _ _ _
    classes := fun _ other => get?_modify_other (by rintro rfl; exact other rfl) }

theorem modifyProperty (m : Model) (id : String) (f : Property → Property) :
    ChangesOnly (some (.property id)) m (m.modifyProperty id f) :=
  { refl _ m with
    propertyKeys := Table.keys_modify _ _ _
    properties := fun _ other => get?_modify_other (by rintro rfl; exact other rfl) }

theorem modifyAssociation (m : Model) (id : String) (f : Association → Association) :
    ChangesOnly (some (.association id)) m (m.modifyAssociation id f) :=
  { refl _ m with
    associationKeys := Table.keys_modify _ _ _
    associations := fun _ other => get?_modify_other (by rintro rfl; exact other rfl) }

end Model.ChangesOnly

end UmlKotlin.Uml
