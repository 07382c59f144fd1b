import UmlKotlin.Proofs.Table
import UmlKotlin.Profile.Bundled
import UmlKotlin.Profile.Target

/-!
What the generator takes from the bundled profile. It has a type for everything that is asked for
(`Bundled.target_complete`), and all its types are built in (`Bundled.builtin_of_primitive`).
-/

set_option autoImplicit false

namespace UmlKotlin.Profile

/-- A profile that has a type for every primitive type and both collection types. -/
structure Target.Complete (t : Target) : Prop where
  primitive (raw : Option String) : ∃ name, t.primitive raw = some name
  collection (ordered : Bool) : ∃ c, t.collection? ordered = some c

namespace Bundled

def target : Target where
  name := "kotlin"
  extension? := some ".kt"
  defaultType := some "String"
  primitives := primitives.map fun _ type => type.text?
  collections := ⟨[(.text "ordered", ⟨.text "List", some "emptyList()"⟩),
    (.text "unique", ⟨.text "Set", some "emptySet()"⟩)], by simp⟩
  reserved := reservedWords

theorem ofProfile_bundled : Target.ofProfile bundled = .ok target := rfl

theorem eq_target {t : Target} (h : Target.ofProfile bundled = .ok t) : t = target := by
  cases ofProfile_bundled.symm.trans h
  rfl

theorem builtins_entries : target.builtins.entries = [("String", "kotlin"), ("Int", "kotlin"),
    ("Long", "kotlin"), ("Double", "kotlin"), ("Boolean", "kotlin"),
    ("List", "kotlin.collections"), ("Set", "kotlin.collections")] := rfl

theorem builtin_of_primitive (raw : Option String) :
    ∃ name, target.primitive raw = some name ∧ target.builtins.get? name = some "kotlin" := by
  have builtin : ∀ type ∈ target.defaultType :: target.primitives.values,
      ∃ name ∈ type, target.builtins.get? name = some "kotlin" := by decide
  cases raw with
  | none => exact builtin _ List.mem_cons_self
  | some raw =>
    cases found : target.primitives.get? (normalize raw) with
    | none => simpa [Target.primitive, found] using builtin _ List.mem_cons_self
    | some type =>
      have member : type ∈ target.primitives.values := Table.mem_values.mpr ⟨_, found⟩
      simpa [Target.primitive, found] using builtin type (List.mem_cons_of_mem _ member)

theorem builtin_of_collection (ordered : Bool) : ∃ c name, target.collection? ordered = some c ∧
    c.name? = some name ∧ target.builtins.get? name = some "kotlin.collections" := by
  cases ordered with
  | true => exact ⟨_, _, rfl, rfl, rfl⟩
  | false => exact ⟨_, _, rfl, rfl, rfl⟩

theorem target_complete : target.Complete where
  primitive raw := by
    obtain ⟨name, named, -⟩ := builtin_of_primitive raw
    exact ⟨name, named⟩
  collection ordered := by
    obtain ⟨c, -, found, -⟩ := builtin_of_collection ordered
    exact ⟨c, found⟩

end Bundled

end UmlKotlin.Profile
