import UmlKotlin.Profile.Load
import UmlKotlin.Proofs.Profile.Textual

/-!
The kinds of collections that a profile has. No settings take a kind away, so every profile that is
loaded over the bundled one has both (`hasKinds_of_load`), and so has what the generator takes from it
(`collection?_of_hasKinds`).
-/

set_option autoImplicit false

namespace UmlKotlin.Profile

open Data (Value Scalar)

def HasKinds (p : Profile) : Prop := ∀ ordered, ∃ c, p.collection? ordered = some c

theorem hasKinds_bundled : bundled.HasKinds := bundled_textual.kinds

theorem isSome_addCollection {kinds kinds' : Table Scalar Collection} {e : Scalar × Value}
    {kind : Scalar} (there : (kinds.get? kind).isSome)
    (added : addCollection kinds e = .ok kinds') : (kinds'.get? kind).isSome := by
  unfold addCollection at added
  split at added
  · cases added
    rw [Table.get?_insert]
    split
    · rfl
    · exact there
  · cases added

theorem collections_of_merge {p p' : Profile} {settings : Value}
    (merged : p.merge settings = .ok p') : ∃ entries : List (Scalar × Value),
      entries.foldlM addCollection p.collections = .ok p'.collections := by
  cases settings with
  | scalar s => cases merged
  | list items => cases merged
  | record entries =>
    obtain ⟨entries, -, merged⟩ := bind_eq_ok_iff.mp merged
    obtain ⟨primitives, -, merged⟩ := bind_eq_ok_iff.mp merged
    obtain ⟨entries, -, merged⟩ := bind_eq_ok_iff.mp merged
    obtain ⟨kinds, added, merged⟩ := bind_eq_ok_iff.mp merged
    dsimp only at merged
    split at merged
    all_goals
      obtain ⟨words, -, merged⟩ := bind_eq_ok_iff.mp merged
      cases merged
      exact ⟨entries, added⟩

theorem HasKinds.merge {p p' : Profile} {settings : Value} (h : p.HasKinds)
    (merged : p.merge settings = .ok p') : p'.HasKinds := by
  obtain ⟨entries, added⟩ := collections_of_merge merged
  intro ordered
  rw [collection?, ← Option.isSome_iff_exists]
  exact foldlM_keeps isSome_addCollection (Option.isSome_iff_exists.mpr (h ordered)) added

theorem HasKinds.mergeFile {t : Workspace.Tree} {p p' : Profile} {path : Value} (h : p.HasKinds)
    (merged : Profile.mergeFile t p path = .ok p') : p'.HasKinds := by
  unfold Profile.mergeFile at merged
  split at merged
  · cases merged
    exact h
  · split at merged
    · cases merged
    · cases merged
    · obtain ⟨settings, -, merged⟩ := bind_eq_ok_iff.mp merged
      split at merged
      · rename_i outcome
        cases merged
        exact h.merge outcome
      · cases merged

theorem hasKinds_of_load {t : Workspace.Tree} {paths : Value} {p : Profile}
    (loaded : load t paths true = .ok p) : p.HasKinds := by
  unfold load at loaded
  split at loaded
  · cases loaded
  · exact foldlM_keeps HasKinds.mergeFile hasKinds_bundled loaded

theorem collection?_of_hasKinds {p : Profile} {target : Target} (h : p.HasKinds)
    (made : Target.ofProfile p = .ok target) (ordered : Bool) :
    ∃ c, target.collection? ordered = some c := by
  obtain ⟨primitives, -, made⟩ := bind_eq_ok_iff.mp made
  obtain ⟨default, -, made⟩ := bind_eq_ok_iff.mp made
  obtain ⟨collections, converted, made⟩ := bind_eq_ok_iff.mp made
  cases made
  obtain ⟨c, listed⟩ := h ordered
  exact (get?_mapValues converted).2 c listed

end UmlKotlin.Profile
