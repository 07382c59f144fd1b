import UmlKotlin.Text.Paragraph
import Mathlib.Data.List.Induction

/-!
Paragraphs that are joined one after the other: what is joined is never blank, only absent, and it
is what the paragraphs that are not blank give with a break between them (`joinParagraphs_eq`). Of
values offered one after the other the first that is not blank counts (`foldl_firstNonBlank`).
-/

set_option autoImplicit false

namespace UmlKotlin.Text

theorem joinParagraphs_append_singleton (ps : List (Option String)) (p : Option String) :
    joinParagraphs (ps ++ [p]) = addParagraph (joinParagraphs ps) p := by
  simp only [joinParagraphs, List.foldl_append, List.foldl_cons, List.foldl_nil]

theorem isBlank_iff {s : String} : isBlank s = true ↔ ∀ c ∈ s.toList, isSpace c = true := by
  simp [isBlank]

private theorem addParagraph_blank {t p : Option String} (h : blank t = true → t = none) :
    blank (addParagraph t p) = true → addParagraph t p = none := by
  intro all
  unfold addParagraph at all ⊢
  split at all <;> rename_i hp
  · rw [if_pos hp]
    exact h all
  rw [if_neg hp]
  split at all <;> rename_i ht
  · exact (hp all).elim
  -- what is not blank stays so with more text behind it
  · cases t with
    | none => simp [blank] at ht
    | some t =>
      simp only [blank, Option.all_some, isBlank_iff, Option.getD_some, String.toList_append,
        List.mem_append] at all ht
      exact (ht fun c hc => all c (.inl (.inl hc))).elim

theorem joinParagraphs_eq_none_of_blank (ps : List (Option String)) :
    blank (joinParagraphs ps) = true → joinParagraphs ps = none := by
  induction ps using List.reverseRecOn with
  | nil => exact fun _ => rfl
  | append_singleton ps p ih =>
    rw [joinParagraphs_append_singleton]
    exact addParagraph_blank ih

theorem addParagraph_none_join (ps : List (Option String)) :
    addParagraph none (joinParagraphs ps) = joinParagraphs ps := by
  by_cases empty : blank (joinParagraphs ps) = true
  · rw [joinParagraphs_eq_none_of_blank ps empty]
    rfl
  · have before : blank none = true := rfl
    rw [addParagraph, if_neg empty, if_pos before]

def nonBlank? (text : Option String) : Option String := text.filter fun s => !blank (some s)

def paragraphs? (texts : List String) : Option String :=
  if texts = [] then none else some (paragraphBreak.intercalate texts)

theorem blank_of_nonBlank? {text : Option String} {s : String} (h : nonBlank? text = some s) :
    blank (some s) = false := by
  simpa using (Option.filter_eq_some_iff.mp h).2

theorem blank_paragraphs? {texts : List String} (filled : ∀ s ∈ texts, blank (some s) = false)
    (present : texts ≠ []) : blank (paragraphs? texts) = false := by
  rw [paragraphs?, if_neg present]
  cases texts with
  | nil => exact absurd rfl present
  | cons s rest =>
    -- the first text is a part of the whole
    have first : ∃ tail, (paragraphBreak.intercalate (s :: rest)).toList = s.toList ++ tail := by
      cases rest with
      | nil => exact ⟨[], by simp⟩
      | cons t rest => exact ⟨_, by rw [String.intercalate_cons_cons, String.append_assoc,
          String.toList_append]⟩
    obtain ⟨tail, first⟩ := first
    have filled := filled s List.mem_cons_self
    simp only [blank, Option.all_some, isBlank] at filled ⊢
    rw [first, List.all_append, filled, Bool.false_and]

theorem addParagraph_paragraphs? {ts us : List String} (hts : ∀ s ∈ ts, blank (some s) = false)
    (hus : ∀ s ∈ us, blank (some s) = false) :
    addParagraph (paragraphs? ts) (paragraphs? us) = paragraphs? (ts ++ us) := by
  by_cases none : us = []
  · subst none
    rw [List.append_nil]
    rfl
  by_cases first : ts = []
  · subst first
    rw [addParagraph, if_neg (by simp [blank_paragraphs? hus none]), List.nil_append]
    rfl
  rw [addParagraph, if_neg (by simp [blank_paragraphs? hus none]),
    if_neg (by simp [blank_paragraphs? hts first])]
  simp only [paragraphs?, if_neg none, if_neg first, Option.getD_some,
    if_neg (List.append_ne_nil_of_left_ne_nil first us)]
  rw [String.intercalate_append_of_ne_nil first none]

theorem joinParagraphs_eq (ps : List (Option String)) :
    joinParagraphs ps = paragraphs? (ps.filterMap nonBlank?) := by
  induction ps using List.reverseRecOn with
  | nil => rfl
  | append_singleton ps p ih =>
    rw [joinParagraphs_append_singleton, ih, List.filterMap_append]
    have filled : ∀ s ∈ ps.filterMap nonBlank?, blank (some s) = false := by
      intro s member
      obtain ⟨q, -, kept⟩ := List.mem_filterMap.mp member
      exact blank_of_nonBlank? kept
    cases kept : nonBlank? p with
    | none =>
      have silent : blank p = true := by
        cases p with
        | none => rfl
        | some s => simpa [nonBlank?] using kept
      rw [addParagraph_of_blank silent]
      simp [kept]
    | some s =>
      have whole : p = paragraphs? [s] := by
        rw [(Option.filter_eq_some_iff.mp kept).1, paragraphs?, if_neg (by simp),
          String.intercalate_singleton]
      rw [whole, addParagraph_paragraphs? filled (by simpa using blank_of_nonBlank? kept), ← whole]
      simp [kept]

/-- Of offers one after the other the first that is not blank counts, unless there was such a value
before; where none is, all stays as it was. -/
theorem foldl_firstNonBlank (text : Option String) (offers : List (Option String)) :
    offers.foldl firstNonBlank text =
      (nonBlank? text).or ((offers.findSome? nonBlank?).or text) := by
  have shown {t : Option String} (h : blank t = false) : nonBlank? t = t := by
    cases t with
    | none => rfl
    | some s => exact Option.filter_some_pos (by simpa using h)
  have silent {t : Option String} (h : blank t = true) : nonBlank? t = none := by
    cases t with
    | none => rfl
    | some s => exact Option.filter_some_neg (by simpa using h)
  induction offers generalizing text with
  | nil =>
    cases h : blank text with
    | true => rw [silent h]; rfl
    | false => rw [shown h]; cases text <;> rfl
  | cons offer offers ih =>
    rw [List.foldl_cons, ih, List.findSome?_cons, firstNonBlank]
    by_cases nothing : blank offer = true
    · rw [if_pos nothing, silent nothing]
    have offered : nonBlank? offer = offer := shown (by simpa using nothing)
    rw [if_neg nothing, offered]
    -- the offer is a text, since it is not blank
    cases offer with
    | none => exact absurd rfl nothing
    | some s =>
      by_cases vacant : blank text = true
      · rw [if_pos vacant, silent vacant, offered]
        rfl
      · rw [if_neg vacant, shown (by simpa using vacant)]
        cases text with
        | none => exact absurd rfl vacant
        | some t => rfl

end UmlKotlin.Text
