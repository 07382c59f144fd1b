import UmlKotlin.Proofs.Kotlin.Grammar

/-!
What identifiers keep of the texts they are made from. A property name forgets the separators of
its words, their case, and where a word that begins with a digit starts; nothing else is lost, so
two texts give one property name exactly when they have the same humps (`propertyName_eq_iff`).
-/

set_option autoImplicit false

namespace UmlKotlin.Kotlin

/-- The humps of words that follow another one. What comes first goes on with the word before: words
that begin with a digit. -/
def laterHumps : List (List Char) → List Char × List (List Char)
  | [] => ([], [])
  | w :: ws =>
    let (p, ps) := laterHumps ws
    if w.head?.any Char.isDigit then (lowerWord w ++ p, ps) else ([], (lowerWord w ++ p) :: ps)

/-- The words of a text in lower case, each one that begins with a digit joined to the one before:
the first of them and the others. A text without words counts as one that says so. -/
def humps (name : Option String) : List Char × List (List Char) :=
  match words (name.getD "") with
  | [] => ("unnamed".toList, [])
  | w :: ws => (lowerWord w ++ (laterHumps ws).1, (laterHumps ws).2)

private def cut : List Char → List Char × List (List Char)
  | [] => ([], [])
  | c :: cs =>
    let (p, ps) := cut cs
    if c.isUpper then ([], (c.toLower :: p) :: ps) else (c :: p, ps)

private theorem cut_append {w : List Char} (cs : List Char) (hw : ∀ c ∈ w, c.isUpper = false) :
    cut (w ++ cs) = (w ++ (cut cs).1, (cut cs).2) := by
  induction w with
  | nil => rfl
  | cons c w ih =>
    have lower : c.isUpper = false := hw c List.mem_cons_self
    have rest := ih fun c hc => hw c (List.mem_cons_of_mem _ hc)
    simp [cut, lower, rest]

private theorem isUpper_of_mem_lowerWord {w : List Char} {c : Char}
    (hw : ∀ c ∈ w, c.isAlphanum = true) (hc : c ∈ lowerWord w) : c.isUpper = false :=
  isUpper_of_isSmall (isSmall_of_mem_lowerWord hw hc)

private theorem capitalize_of_digit {w : List Char} (hw : IsWord w)
    (digit : w.head?.any Char.isDigit = true) : capitalize w = lowerWord w := by
  cases w with
  | nil => rfl
  | cons c w =>
    obtain ⟨lower, upper⟩ := case_of_digit (c := c) digit
    simp [capitalize, lowerWord, lower, upper]

/-- Cutting finds the humps of words that were put together. -/
private theorem cut_capitalized {ws : List (List Char)} (h : ∀ w ∈ ws, IsWord w) :
    cut (ws.flatMap capitalize) = laterHumps ws := by
  induction ws with
  | nil => rfl
  | cons w ws ih =>
    have rest := ih fun w hw => h w (List.mem_cons_of_mem _ hw)
    have word := h w List.mem_cons_self
    rw [List.flatMap_cons]
    cases digit : w.head?.any Char.isDigit with
    | true =>
      have lower : ∀ c ∈ lowerWord w, c.isUpper = false := fun c hc =>
        isUpper_of_mem_lowerWord word.alphanum hc
      rw [capitalize_of_digit word digit, cut_append _ lower, rest]
      simp [laterHumps, digit]
    | false =>
      cases w with
      | nil => exact (word.ne_nil rfl).elim
      | cons c w =>
        have letter : c.isDigit = false := digit
        obtain ⟨-, upper, back⟩ := case_of_letter (word.alphanum c List.mem_cons_self) letter
        have lower : ∀ d ∈ lowerWord w, d.isUpper = false := fun d hd =>
          isUpper_of_mem_lowerWord (fun d hd => word.alphanum d (List.mem_cons_of_mem _ hd)) hd
        have shape : capitalize (c :: w) = c.toLower.toUpper :: lowerWord w := rfl
        have first : laterHumps ((c :: w) :: ws) =
            ([], (lowerWord (c :: w) ++ (laterHumps ws).1) :: (laterHumps ws).2) := by
          simp [laterHumps, letter]
        rw [shape, List.cons_append, cut, cut_append _ lower, rest, first]
        dsimp only
        rw [if_pos upper, back]
        rfl

private theorem cut_camelCase (name : Option String) : cut (camelCase name) = humps name := by
  unfold camelCase humps
  cases h : words (name.getD "") with
  | nil => decide
  | cons w ws =>
    have word : ∀ v ∈ w :: ws, IsWord v := fun v hv => isWord_of_mem_words (h ▸ hv)
    have lower : ∀ c ∈ lowerWord w, c.isUpper = false := fun c hc =>
      isUpper_of_mem_lowerWord (word w List.mem_cons_self).alphanum hc
    dsimp only
    rw [cut_append _ lower, cut_capitalized fun v hv => word v (List.mem_cons_of_mem _ hv)]

private theorem lowerWord_lowerWord {w : List Char} (hw : ∀ c ∈ w, c.isAlphanum = true) :
    lowerWord (lowerWord w) = lowerWord w := by
  refine (List.map_congr_left fun c hc => ?_).trans (List.map_id _)
  exact toLower_of_isSmall (isSmall_of_mem_lowerWord hw hc)

private theorem lowerWord_laterHumps {ws : List (List Char)} (h : ∀ w ∈ ws, IsWord w) :
    lowerWord (laterHumps ws).1 = (laterHumps ws).1 := by
  induction ws with
  | nil => rfl
  | cons w ws ih =>
    have rest := ih fun w hw => h w (List.mem_cons_of_mem _ hw)
    have first := lowerWord_lowerWord (h w List.mem_cons_self).alphanum
    cases digit : w.head?.any Char.isDigit with
    | true =>
      simp only [laterHumps, digit, reduceIte]
      rw [lowerWord, List.map_append]
      exact congr (congrArg _ first) rest
    | false => simp [laterHumps, digit, lowerWord]

private theorem capitalize_append {w p : List Char} (hw : IsWord w) (hp : lowerWord p = p) :
    capitalize (lowerWord w ++ p) = capitalize w ++ p := by
  have lower : lowerWord (lowerWord w ++ p) = lowerWord w ++ p := by
    rw [lowerWord, List.map_append]
    exact congr (congrArg _ (lowerWord_lowerWord hw.alphanum)) hp
  rw [capitalize, lower]
  cases w with
  | nil => exact (hw.ne_nil rfl).elim
  | cons c w => rfl

private theorem laterHumps_capitalized {ws : List (List Char)} (h : ∀ w ∈ ws, IsWord w) :
    (laterHumps ws).1 ++ (laterHumps ws).2.flatMap capitalize = ws.flatMap capitalize := by
  induction ws with
  | nil => rfl
  | cons w ws ih =>
    have tail : ∀ w ∈ ws, IsWord w := fun w hw => h w (List.mem_cons_of_mem _ hw)
    have word := h w List.mem_cons_self
    rw [laterHumps, List.flatMap_cons, ← ih tail]
    cases digit : w.head?.any Char.isDigit with
    | true => simp [capitalize_of_digit word digit]
    | false => simp [capitalize_append word (lowerWord_laterHumps tail)]

private theorem humps_camelCase (name : Option String) :
    (humps name).1 ++ (humps name).2.flatMap capitalize = camelCase name := by
  unfold camelCase humps
  cases h : words (name.getD "") with
  | nil => simp
  | cons w ws =>
    have tail : ∀ v ∈ ws, IsWord v := fun v hv =>
      isWord_of_mem_words (h ▸ List.mem_cons_of_mem _ hv)
    rw [List.append_assoc, laterHumps_capitalized tail]

private theorem guardDigit_inj {guard : Char} {cs ds : List Char} (hc : guard ∉ cs)
    (hd : guard ∉ ds) : guardDigit guard cs = guardDigit guard ds ↔ cs = ds := by
  constructor
  · intro h
    cases cs <;> cases ds <;> simp only [guardDigit] at h <;> grind
  · rintro rfl
    rfl

private theorem plainPropertyName_eq_iff {a b : Option String} :
    plainPropertyName a = plainPropertyName b ↔ camelCase a = camelCase b := by
  have guard (name : Option String) : '_' ∉ camelCase name := fun h =>
    absurd (isAlphanum_of_mem_camelCase h) (by decide)
  rw [plainPropertyName_eq, plainPropertyName_eq, String.ofList_inj, guardDigit_inj (guard a) (guard b)]

private theorem backtick_not_mem (name : Option String) : '`' ∉ (plainPropertyName name).toList :=
  fun h => absurd (isAlphanum_of_mem_plainPropertyName h) (by decide)

theorem propertyName_eq_iff {reserved : List String} {a b : Option String} :
    propertyName reserved a = propertyName reserved b ↔ humps a = humps b := by
  have plain : plainPropertyName a = plainPropertyName b ↔ humps a = humps b := by
    rw [plainPropertyName_eq_iff]
    constructor
    · intro h
      rw [← cut_camelCase, ← cut_camelCase, h]
    · intro h
      rw [← humps_camelCase, ← humps_camelCase, h]
  rw [← plain]
  constructor
  · intro h
    -- a quoted name begins with a character that no other name contains
    have quoted {s t : String} (hs : '`' ∉ s.toList) (h : s = "`" ++ t ++ "`") : False :=
      hs (by simp [h])
    simp only [propertyName] at h
    split at h <;> split at h
    · exact String.toList_inj.mp (by simpa using congrArg String.toList h)
    · exact (quoted (backtick_not_mem b) h.symm).elim
    · exact (quoted (backtick_not_mem a) h).elim
    · exact h
  · intro h
    rw [propertyName, propertyName, h]

end UmlKotlin.Kotlin
