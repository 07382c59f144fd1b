import Mathlib.Computability.Language
import UmlKotlin.Proofs.Text.Lines
import UmlKotlin.Kotlin.Identifier

/-!
Letters and digits, and the words that identifiers are put together from. What holds of the
characters of ASCII one by one holds of all letters and digits (`forall_alphanum`); texts of such
characters are described as regular languages.
-/

set_option autoImplicit false

namespace UmlKotlin.Kotlin

open scoped Computability

/-! ### Characters -/

private theorem forall_alphanum {P : Char → Prop} (small : ∀ n < 128, P (Char.ofNat n)) {c : Char}
    (h : c.isAlphanum = true) : P c := by
  have kinds : (c.isUpper = true ∨ c.isLower = true) ∨ c.isDigit = true := by
    rw [← Bool.or_eq_true, ← Bool.or_eq_true]
    exact h
  have below {last : Char} (h : c.val ≤ last.val) (small : last.toNat < 128) : c.toNat < 128 :=
    Nat.lt_of_le_of_lt (UInt32.le_iff_toNat_le.mp h) small
  have bound : c.toNat < 128 := by
    rcases kinds with (upper | lower) | digit
    · exact below (of_decide_eq_true upper).2 (by decide)
    · exact below (of_decide_eq_true (Bool.and_eq_true_iff.mp lower).2) (by decide)
    · exact below (of_decide_eq_true (Bool.and_eq_true_iff.mp digit).2) (by decide)
  have same := small c.toNat bound
  rwa [Char.ofNat_toNat] at same

theorem isAlphanum_of_isUpper {c : Char} (upper : c.isUpper = true) : c.isAlphanum = true :=
  Bool.or_eq_true_iff.mpr (.inl (Bool.or_eq_true_iff.mpr (.inl upper)))

theorem isAlphanum_of_isLower {c : Char} (lower : c.isLower = true) : c.isAlphanum = true :=
  Bool.or_eq_true_iff.mpr (.inl (Bool.or_eq_true_iff.mpr (.inr lower)))

theorem isAlphanum_of_isDigit {c : Char} (digit : c.isDigit = true) : c.isAlphanum = true :=
  Bool.or_eq_true_iff.mpr (.inr digit)

def isSmall (c : Char) : Bool := c.isLower || c.isDigit

theorem isSmall_toLower {c : Char} (h : c.isAlphanum = true) : isSmall c.toLower = true :=
  forall_alphanum (P := fun c => c.isAlphanum = true → isSmall c.toLower = true) (by decide) h h

theorem isAlphanum_of_isSmall {c : Char} (h : isSmall c = true) : c.isAlphanum = true := by
  have kinds : c.isLower = true ∨ c.isDigit = true := Bool.or_eq_true_iff.mp h
  rcases kinds with lower | digit
  · exact isAlphanum_of_isLower lower
  · exact isAlphanum_of_isDigit digit

theorem toLower_of_isSmall {c : Char} (h : isSmall c = true) : c.toLower = c :=
  forall_alphanum (P := fun c => isSmall c = true → c.toLower = c) (by decide)
    (isAlphanum_of_isSmall h) h

theorem isUpper_of_isSmall {c : Char} (h : isSmall c = true) : c.isUpper = false :=
  forall_alphanum (P := fun c => isSmall c = true → c.isUpper = false) (by decide)
    (isAlphanum_of_isSmall h) h

theorem isAlphanum_toUpper {c : Char} (h : c.isAlphanum = true) : c.toUpper.isAlphanum = true :=
  forall_alphanum (P := fun c => c.isAlphanum = true → c.toUpper.isAlphanum = true) (by decide) h h

theorem case_of_digit {c : Char} (digit : c.isDigit = true) : c.toLower = c ∧ c.toUpper = c :=
  forall_alphanum (P := fun c => c.isDigit = true → c.toLower = c ∧ c.toUpper = c) (by decide)
    (isAlphanum_of_isDigit digit) digit

theorem isDigit_of_isUpper {c : Char} (upper : c.isUpper = true) : c.isDigit = false :=
  forall_alphanum (P := fun c => c.isUpper = true → c.isDigit = false) (by decide)
    (isAlphanum_of_isUpper upper) upper

theorem isDigit_of_isLower {c : Char} (lower : c.isLower = true) : c.isDigit = false :=
  forall_alphanum (P := fun c => c.isLower = true → c.isDigit = false) (by decide)
    (isAlphanum_of_isLower lower) lower

theorem case_of_letter {c : Char} (h : c.isAlphanum = true) (letter : c.isDigit = false) :
    c.toLower.isLower = true ∧ c.toLower.toUpper.isUpper = true ∧
      c.toLower.toUpper.toLower = c.toLower :=
  forall_alphanum (P := fun c => c.isAlphanum = true → c.isDigit = false →
    c.toLower.isLower = true ∧ c.toLower.toUpper.isUpper = true ∧
      c.toLower.toUpper.toLower = c.toLower) (by decide) h h letter

theorem isSpace_of_isAlphanum {c : Char} (h : c.isAlphanum = true) : Text.isSpace c = false :=
  forall_alphanum (P := fun c => c.isAlphanum = true → Text.isSpace c = false) (by decide) h h

theorem spell_of_isAlphanum {c : Char} (h : c.isAlphanum = true) : spell c = [c] :=
  forall_alphanum (P := fun c => c.isAlphanum = true → spell c = [c]) (by decide) h h

/-! ### Languages -/

def one (kind : Char → Bool) : Language Char := {cs | ∃ c, kind c = true ∧ cs = [c]}

theorem singleton_mem_one {kind : Char → Bool} {c : Char} : [c] ∈ one kind ↔ kind c = true := by
  constructor
  · rintro ⟨d, h, same⟩
    cases same
    exact h
  · intro h
    exact ⟨c, h, rfl⟩

theorem mem_one_mul {kind : Char → Bool} {l : Language Char} {cs : List Char} :
    cs ∈ one kind * l ↔ ∃ c rest, cs = c :: rest ∧ kind c = true ∧ rest ∈ l := by
  rw [Language.mem_mul]
  constructor
  · rintro ⟨_, ⟨c, h, rfl⟩, rest, tail, rfl⟩
    exact ⟨c, rest, rfl, h, tail⟩
  · rintro ⟨c, rest, rfl, h, tail⟩
    exact ⟨[c], singleton_mem_one.mpr h, rest, tail, rfl⟩

theorem mem_kstar_one {kind : Char → Bool} {cs : List Char} :
    cs ∈ (one kind)∗ ↔ ∀ c ∈ cs, kind c = true := by
  rw [Language.mem_kstar]
  constructor
  · rintro ⟨parts, rfl, h⟩ c member
    obtain ⟨part, within, here⟩ := List.mem_flatten.mp member
    obtain ⟨d, hd, rfl⟩ := h part within
    rwa [List.mem_singleton.mp here]
  · intro h
    refine ⟨cs.map fun c => [c], ?_, ?_⟩
    · rw [← List.flatMap_def, List.flatMap_singleton']
    · intro part member
      obtain ⟨c, within, rfl⟩ := List.mem_map.mp member
      exact singleton_mem_one.mpr (h c within)

structure IsPart (cs : List Char) : Prop where
  ne_nil : cs ≠ []
  small : ∀ c ∈ cs, isSmall c = true

theorem isPart_iff {cs : List Char} : IsPart cs ↔ cs ∈ one isSmall * (one isSmall)∗ := by
  simp only [mem_one_mul, mem_kstar_one]
  constructor
  · intro h
    obtain ⟨c, rest, rfl⟩ := List.exists_cons_of_ne_nil h.ne_nil
    exact ⟨c, rest, rfl, h.small c List.mem_cons_self,
      fun d hd => h.small d (List.mem_cons_of_mem _ hd)⟩
  · rintro ⟨c, rest, rfl, first, tail⟩
    exact ⟨List.cons_ne_nil _ _, List.forall_mem_cons.mpr ⟨first, tail⟩⟩

theorem intercalate_cons (f : Char) (cs : List Char) (texts : List (List Char)) :
    [f].intercalate (cs :: texts) = cs ++ (texts.map (f :: ·)).flatten := by
  induction texts generalizing cs with
  | nil => simp
  | cons ds texts ih => rw [List.intercalate_cons_cons, ih]; simp

/-! ### Words -/

structure IsWord (w : List Char) : Prop where
  ne_nil : w ≠ []
  alphanum : ∀ c ∈ w, c.isAlphanum = true

theorem isWord_of_mem_words {s : String} {w : List Char} (h : w ∈ words s) : IsWord w where
  ne_nil := Text.ne_nil_of_mem_runs h
  alphanum c hc := by simpa using Text.not_separator_of_mem_runs h hc

theorem isSmall_of_mem_lowerWord {w : List Char} {c : Char} (hw : ∀ c ∈ w, c.isAlphanum = true)
    (hc : c ∈ lowerWord w) : isSmall c = true := by
  obtain ⟨d, hd, rfl⟩ := List.mem_map.mp hc
  exact isSmall_toLower (hw d hd)

theorem IsWord.isPart_lowerWord {w : List Char} (h : IsWord w) : IsPart (lowerWord w) where
  ne_nil := mt List.map_eq_nil_iff.mp h.ne_nil
  small _ hc := isSmall_of_mem_lowerWord h.alphanum hc

theorem isAlphanum_of_mem_capitalize {w : List Char} {c : Char}
    (hw : ∀ c ∈ w, c.isAlphanum = true) (hc : c ∈ capitalize w) : c.isAlphanum = true := by
  cases w with
  | nil => cases hc
  | cons d w =>
    obtain ⟨hd, hw⟩ := List.forall_mem_cons.mp hw
    rcases List.mem_cons.mp hc with rfl | hc
    · exact isAlphanum_toUpper (isAlphanum_of_isSmall (isSmall_toLower hd))
    · exact isAlphanum_of_isSmall (isSmall_of_mem_lowerWord hw hc)

theorem isAlphanum_of_mem_tail {w : List Char} {ws : List (List Char)} {c d : Char}
    (words : ∀ v ∈ (c :: w) :: ws, IsWord v) (h : d ∈ lowerWord w ++ ws.flatMap capitalize) :
    d.isAlphanum = true := by
  obtain ⟨first, later⟩ := List.forall_mem_cons.mp words
  rcases List.mem_append.mp h with h | h
  · have tail := (List.forall_mem_cons.mp first.alphanum).2
    exact isAlphanum_of_isSmall (isSmall_of_mem_lowerWord tail h)
  · obtain ⟨v, hv, hd⟩ := List.mem_flatMap.mp h
    exact isAlphanum_of_mem_capitalize (later v hv).alphanum hd

theorem guardDigit_of_digit {guard c : Char} {cs : List Char} (digit : c.isDigit = true) :
    guardDigit guard (c :: cs) = guard :: c :: cs :=
  if_pos digit

theorem guardDigit_of_letter {guard c : Char} {cs : List Char} (letter : c.isDigit = false) :
    guardDigit guard (c :: cs) = c :: cs :=
  if_neg (by simp [letter])

end UmlKotlin.Kotlin
