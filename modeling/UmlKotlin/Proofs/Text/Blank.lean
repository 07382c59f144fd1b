import Mathlib.Data.List.DropRight
import UmlKotlin.Text.Blank

/-!
What trimming leaves: nothing where there is only white space (`trimChars_eq_nil_iff`), and never
white space at the end (`isSpace_getLast?_trimEnd`).
-/

set_option autoImplicit false

namespace UmlKotlin.Text

theorem trimEnd_eq_rdropWhile (cs : List Char) : trimEnd cs = cs.rdropWhile isSpace := rfl

theorem trimEnd_prefix (cs : List Char) : trimEnd cs <+: cs :=
  List.rdropWhile_prefix isSpace cs

theorem not_of_getLast?_rdropWhile {kind : Char → Bool} {cs : List Char} {c : Char}
    (h : (cs.rdropWhile kind).getLast? = some c) : kind c = false := by
  have some : cs.rdropWhile kind ≠ [] := by
    intro none
    simp [none] at h
  have last := List.rdropWhile_last_not kind cs some
  rw [List.getLast?_eq_some_getLast some] at h
  simpa [Option.some.inj h] using last

theorem isSpace_getLast?_trimEnd {cs : List Char} {c : Char} (h : (trimEnd cs).getLast? = some c) :
    isSpace c = false :=
  not_of_getLast?_rdropWhile h

theorem trimChars_eq_nil_iff {cs : List Char} :
    trimChars cs = [] ↔ ∀ c ∈ cs, isSpace c = true := by
  rw [trimChars, trimEnd_eq_rdropWhile, List.rdropWhile_eq_nil_iff]
  constructor
  · intro h
    have none : cs.dropWhile isSpace = [] := by
      by_contra some
      have first := List.head_dropWhile_not isSpace some
      rw [h _ (List.head_mem some)] at first
      cases first
    exact List.dropWhile_eq_nil_iff.mp none
  · intro h c hc
    exact h c ((List.dropWhile_sublist _).subset hc)

end UmlKotlin.Text
