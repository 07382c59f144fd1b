import UmlKotlin.Proofs.Outcome
import UmlKotlin.Proofs.Profile.Bundled

/-!
Profiles that hold nothing but texts. Main statement: such a profile has everything that generation
asks for, if it has both kinds of collections (`exists_target`).
-/

set_option autoImplicit false

namespace UmlKotlin

open Data (Value)

def Data.Value.isText (v : Value) : Bool := v.text?.isSome

theorem Data.Value.isText_iff {v : Value} : v.isText = true ↔ ∃ s, v = .text s := by
  unfold isText text?
  split <;> simp_all [Value.text]

/-- A profile of texts, with both kinds of collections. -/
structure Profile.Textual (p : Profile) : Prop where
  name : p.name.isText
  fileExtension : p.fileExtension.isText
  defaultType : p.defaultType.isText
  primitives : ∀ type ∈ p.primitives.values, type.isText
  collections : ∀ c ∈ p.collections.values, c.type.isText ∧ c.empty.isText
  reservedWords : ∀ word ∈ p.reservedWords, (Value.scalar word).isText
  kinds (ordered : Bool) : ∃ c, p.collection? ordered = some c

namespace Profile

open Target (mapValues)

theorem typeNameOf_text {v : Value} (h : v.isText) : ∃ name, typeNameOf v = .ok (some name) := by
  obtain ⟨s, rfl⟩ := Value.isText_iff.mp h
  exact ⟨s, rfl⟩

theorem ofCollection_text {c : Collection} (type : c.type.isText) :
    ∃ t, CollectionType.ofCollection c = .ok t := by
  obtain ⟨s, hs⟩ := Value.isText_iff.mp type
  rw [CollectionType.ofCollection, hs]
  exact ⟨_, rfl⟩

section

variable {κ α β : Type} [DecidableEq κ] {f : α → Except ShapeError β} {t : Table κ α}
  {u : Table κ β} {k : κ}

theorem exists_mapValues (h : ∀ a ∈ t.values, ∃ b, f a = .ok b) : ∃ u, mapValues f t = .ok u := by
  obtain ⟨entries, mapped⟩ := exists_mapM (l := t.entries)
      (f := fun e => do pure (e.1, ← f e.2)) fun e member => by
    obtain ⟨b, ok⟩ := h e.2 (Table.mem_values.mpr ⟨e.1, Table.get?_eq_some_iff.mpr member⟩)
    exact ⟨(e.1, b), bind_eq_ok_iff.mpr ⟨b, ok, rfl⟩⟩
  exact ⟨Table.ofList entries, bind_eq_ok_iff.mpr ⟨entries, mapped, rfl⟩⟩

theorem get?_mapValues (h : mapValues f t = .ok u) :
    (∀ b, u.get? k = some b → ∃ a, t.get? k = some a ∧ f a = .ok b) ∧
    (∀ a, t.get? k = some a → ∃ b, u.get? k = some b) := by
  obtain ⟨entries, mapped, made⟩ := bind_eq_ok_iff.mp h
  cases made
  refine ⟨fun b found => ?_, fun a found => ?_⟩
  · rw [Table.get?_ofList] at found
    obtain ⟨e, last, rfl⟩ := Option.map_eq_some_iff.mp found
    obtain ⟨member, here⟩ := List.mem_filter.mp (List.mem_of_getLast? last)
    obtain ⟨e', member', converted⟩ := mem_of_mapM mapped member
    obtain ⟨b, ok, same⟩ := bind_eq_ok_iff.mp converted
    cases same
    have here : e'.1 = k := of_decide_eq_true here
    exact ⟨e'.2, Table.get?_eq_some_iff.mpr (here ▸ member'), ok⟩
  · have keys : entries.map Prod.fst = t.keys := map_of_mapM (fun {e e'} converted => by
      obtain ⟨b, -, same⟩ := bind_eq_ok_iff.mp converted
      cases same
      rfl) mapped
    have member : k ∈ entries.map Prod.fst := by
      rw [keys]
      exact Table.mem_keys.mpr ⟨a, found⟩
    cases there : (Table.ofList entries).get? k with
    | some b => exact ⟨b, rfl⟩
    | none =>
      rw [Table.get?_eq_none_iff, Table.keys_ofList, List.mem_eraseDups] at there
      exact absurd member there

end

theorem exists_target {p : Profile} (textual : p.Textual) : ∃ target,
    Target.ofProfile p = .ok target ∧ target.Complete ∧ target.extension?.isSome := by
  obtain ⟨primitives, hp⟩ := exists_mapValues (f := typeNameOf) (t := p.primitives)
    fun v member => by
      obtain ⟨name, named⟩ := typeNameOf_text (textual.primitives v member)
      exact ⟨some name, named⟩
  obtain ⟨collections, hc⟩ := exists_mapValues (f := CollectionType.ofCollection)
    (t := p.collections) fun c member => ofCollection_text (textual.collections c member).1
  obtain ⟨default, hd⟩ := typeNameOf_text textual.defaultType
  obtain ⟨ending, he⟩ := Value.isText_iff.mp textual.fileExtension
  refine ⟨_, bind_eq_ok_iff.mpr ⟨primitives, hp, bind_eq_ok_iff.mpr ⟨some default, hd,
    bind_eq_ok_iff.mpr ⟨collections, hc, rfl⟩⟩⟩, ⟨fun raw => ?_, fun ordered => ?_⟩, by rw [he]; rfl⟩
  · cases raw with
    | none => exact ⟨default, rfl⟩
    | some raw =>
      cases found : primitives.get? (normalize raw) with
      | none => exact ⟨default, by simp [Target.primitive, found]⟩
      | some type =>
        obtain ⟨v, listed, converted⟩ := (get?_mapValues hp).1 type found
        have member := Table.mem_values.mpr ⟨_, listed⟩
        obtain ⟨name, named⟩ := typeNameOf_text (textual.primitives v member)
        cases named.symm.trans converted
        exact ⟨name, by simp [Target.primitive, found]⟩
  · obtain ⟨c, listed⟩ := textual.kinds ordered
    exact (get?_mapValues hc).2 c listed

theorem bundled_textual : bundled.Textual where
  name := rfl
  fileExtension := rfl
  defaultType := rfl
  primitives := by decide
  collections := by decide
  reservedWords := by decide
  kinds ordered := by
    cases ordered <;> exact ⟨_, rfl⟩

end Profile

end UmlKotlin
