import UmlKotlin.Text.Lines

/-!
What cutting a text leaves. No piece contains a separator (`not_separator_of_mem_pieces`), pieces
that are joined are found again (`splitAt_intercalate`), texts joined by a separator are cut each on
its own (`splitAt_append`), and what follows the last separator is found behind anything that stands
in front of it (`afterLast_append`).
-/

set_option autoImplicit false

namespace UmlKotlin.Text

theorem not_separator_of_mem_pieces {separator : Char → Bool} {cs p : List Char} {c : Char}
    (hp : p ∈ pieces separator cs) (hc : c ∈ p) : separator c = false := by
  induction cs generalizing p c with
  | nil =>
    obtain rfl : p = [] := by simpa [pieces] using hp
    cases hc
  | cons d cs ih =>
    rw [pieces] at hp
    split at hp
    · rcases List.mem_cons.mp hp with rfl | hp
      · cases hc
      · exact ih hp hc
    · rename_i kept
      split at hp
      · obtain rfl : p = [d] := by simpa using hp
        obtain rfl : c = d := by simpa using hc
        simpa using kept
      · rename_i q qs rest
        rcases List.mem_cons.mp hp with rfl | hp
        · rcases List.mem_cons.mp hc with rfl | hc
          · simpa using kept
          · exact ih (rest ▸ List.mem_cons_self) hc
        · exact ih (rest ▸ List.mem_cons_of_mem _ hp) hc

theorem ne_nil_of_mem_runs {separator : Char → Bool} {cs p : List Char}
    (hp : p ∈ runs separator cs) : p ≠ [] := by
  simpa using (List.mem_filter.mp hp).2

theorem not_separator_of_mem_runs {separator : Char → Bool} {cs p : List Char} {c : Char}
    (hp : p ∈ runs separator cs) (hc : c ∈ p) : separator c = false :=
  not_separator_of_mem_pieces (List.mem_filter.mp hp).1 hc

theorem pieces_eq_splitOnP (separator : Char → Bool) (cs : List Char) :
    pieces separator cs = cs.splitOnP separator := by
  induction cs with
  | nil => rfl
  | cons c cs ih =>
    rw [pieces, ih, List.splitOnP_cons_eq_if_modifyHead]
    obtain ⟨p, ps, found⟩ := List.exists_cons_of_ne_nil (List.splitOnP_ne_nil separator cs)
    rw [found]
    rfl

theorem pieces_ne_nil (separator : Char → Bool) (cs : List Char) : pieces separator cs ≠ [] := by
  rw [pieces_eq_splitOnP]
  exact List.splitOnP_ne_nil separator cs

theorem pieces_append {separator : Char → Bool} {c : Char} (h : separator c = true)
    (cs ds : List Char) :
    pieces separator (cs ++ c :: ds) = pieces separator cs ++ pieces separator ds := by
  induction cs with
  | nil => simp [pieces, h]
  | cons d cs ih =>
    rw [List.cons_append, pieces, pieces, ih]
    split
    · rfl
    · obtain ⟨p, ps, found⟩ := List.exists_cons_of_ne_nil (pieces_ne_nil separator cs)
      rw [found]
      rfl

theorem pieces_append_of_free {separator : Char → Bool} {cs ds p : List Char} {ps : List (List Char)}
    (free : ∀ c ∈ cs, separator c = false) (h : pieces separator ds = p :: ps) :
    pieces separator (cs ++ ds) = (cs ++ p) :: ps := by
  induction cs with
  | nil => exact h
  | cons c cs ih =>
    have rest := ih fun d hd => free d (List.mem_cons_of_mem _ hd)
    have kept : ¬ separator c = true := by simp [free c List.mem_cons_self]
    rw [List.cons_append, pieces, if_neg kept, rest]
    rfl

theorem pieces_of_free {separator : Char → Bool} {cs : List Char}
    (free : ∀ c ∈ cs, separator c = false) : pieces separator cs = [cs] := by
  have alone := @pieces_append_of_free separator cs [] _ _ free rfl
  simpa using alone

theorem pieces_intercalate {separator : Char → Bool} {c : Char} {texts : List (List Char)}
    (h : separator c = true) (any : texts ≠ [])
    (free : ∀ cs ∈ texts, ∀ d ∈ cs, separator d = false) :
    pieces separator ([c].intercalate texts) = texts := by
  induction texts with
  | nil => exact (any rfl).elim
  | cons cs texts ih =>
    have first := pieces_of_free (free cs List.mem_cons_self)
    cases texts with
    | nil => simpa using first
    | cons ds texts =>
      have rest := ih (List.cons_ne_nil _ _) fun cs hcs => free cs (List.mem_cons_of_mem _ hcs)
      rw [List.intercalate_cons_cons, List.append_assoc, List.singleton_append, pieces_append h,
        first, rest]
      rfl

theorem splitAt_intercalate {separator : Char} {texts : List String} (any : texts ≠ [])
    (free : ∀ t ∈ texts, separator ∉ t.toList) :
    splitAt separator ((String.singleton separator).intercalate texts) = texts := by
  have ends : (separator == separator) = true := by simp
  have apart : ∀ cs ∈ texts.map String.toList, ∀ c ∈ cs, (c == separator) = false := by
    intro cs member c hc
    obtain ⟨t, ht, rfl⟩ := List.mem_map.mp member
    exact beq_false_of_ne fun same => free t ht (same ▸ hc)
  have cut := @pieces_intercalate (· == separator) _ _ ends (by simpa using any) apart
  rw [splitAt, String.toList_intercalate, String.toList_singleton, cut, List.map_map]
  simp [Function.comp_def]

/-! ### Runs -/

theorem runs_append {separator : Char → Bool} {c : Char} (h : separator c = true)
    (cs ds : List Char) :
    runs separator (cs ++ c :: ds) = runs separator cs ++ runs separator ds := by
  rw [runs, pieces_append h, List.filter_append]
  rfl

theorem runs_cons_separator {separator : Char → Bool} {c : Char} (h : separator c = true)
    (cs : List Char) : runs separator (c :: cs) = runs separator cs :=
  runs_append h [] cs

theorem runs_of_separators {separator : Char → Bool} {cs : List Char}
    (h : ∀ c ∈ cs, separator c = true) : runs separator cs = [] := by
  induction cs with
  | nil => rfl
  | cons c cs ih =>
    rw [runs_cons_separator (h c List.mem_cons_self)]
    exact ih fun d hd => h d (List.mem_cons_of_mem _ hd)

theorem runs_surrounded {separator : Char → Bool} {before after : List Char}
    (front : ∀ c ∈ before, separator c = true) (back : ∀ c ∈ after, separator c = true)
    (cs : List Char) : runs separator (before ++ cs ++ after) = runs separator cs := by
  induction before with
  | nil =>
    cases after with
    | nil => rw [List.nil_append, List.append_nil]
    | cons c after =>
      have none := runs_of_separators fun d hd => back d (List.mem_cons_of_mem _ hd)
      rw [List.nil_append, runs_append (back c List.mem_cons_self), none, List.append_nil]
  | cons c before ih =>
    rw [List.cons_append, List.cons_append, runs_cons_separator (front c List.mem_cons_self)]
    exact ih fun d hd => front d (List.mem_cons_of_mem _ hd)

theorem splitAt_append (separator : Char) (s t : String) :
    splitAt separator (s ++ String.singleton separator ++ t) =
      splitAt separator s ++ splitAt separator t := by
  have ends : (separator == separator) = true := by simp
  have cut := @pieces_append (· == separator) separator ends s.toList t.toList
  simp [splitAt, cut]

theorem splitAt_append_of_free {separator : Char} {s t p : String} {ps : List String}
    (free : separator ∉ s.toList) (h : splitAt separator t = p :: ps) :
    splitAt separator (s ++ t) = (s ++ p) :: ps := by
  obtain ⟨q, qs, found⟩ :=
    List.exists_cons_of_ne_nil (pieces_ne_nil (· == separator) t.toList)
  rw [splitAt, found] at h
  cases h
  have kept : ∀ c ∈ s.toList, (c == separator) = false := by
    intro c hc
    exact beq_false_of_ne fun same => free (same ▸ hc)
  rw [splitAt, String.toList_append, pieces_append_of_free kept found]
  simp

theorem splitAt_of_free {separator : Char} {s : String} (free : separator ∉ s.toList) :
    splitAt separator s = [s] := by
  have alone := splitAt_append_of_free (t := "") free rfl
  simpa using alone

theorem mem_intercalate {separator : List Char} {texts : List (List Char)} {c : Char}
    (h : c ∈ separator.intercalate texts) : c ∈ separator ∨ ∃ cs ∈ texts, c ∈ cs := by
  induction texts with
  | nil => simp [List.intercalate] at h
  | cons cs texts ih =>
    cases texts with
    | nil => exact .inr ⟨cs, List.mem_cons_self, by simpa [List.intercalate] using h⟩
    | cons ds texts =>
      rw [List.intercalate_cons_cons, List.mem_append, List.mem_append] at h
      rcases h with (h | h) | h
      · exact .inr ⟨cs, List.mem_cons_self, h⟩
      · exact .inl h
      · exact (ih h).imp_right fun ⟨es, hes, he⟩ => ⟨es, List.mem_cons_of_mem _ hes, he⟩

theorem isLineBreak_of_mem_lines {cs l : List Char} {c : Char} (hl : l ∈ lines cs) (hc : c ∈ l) :
    isLineBreak c = false := by
  induction cs using lines.induct generalizing l c with
  | case1 => cases hl
  | case2 rest ih =>
    rw [lines] at hl
    rcases List.mem_cons.mp hl with rfl | hl
    · cases hc
    · exact ih hl hc
  | case3 d rest apart ends ih =>
    rw [lines, if_pos ends] at hl
    · rcases List.mem_cons.mp hl with rfl | hl
      · cases hc
      · exact ih hl hc
    · exact apart
  | case4 d rest apart goesOn last ih =>
    rw [lines, if_neg goesOn, last] at hl
    · obtain rfl : l = [d] := by simpa using hl
      obtain rfl : c = d := by simpa using hc
      simpa using goesOn
    · exact apart
  | case5 d rest apart goesOn first more found ih =>
    rw [lines, if_neg goesOn, found] at hl
    · rcases List.mem_cons.mp hl with rfl | hl
      · rcases List.mem_cons.mp hc with rfl | hc
        · simpa using goesOn
        · exact ih (found ▸ List.mem_cons_self) hc
      · exact ih (found ▸ List.mem_cons_of_mem _ hl) hc
    · exact apart

/-! ### Texts of one line -/

/-- A text without a line feed. -/
def OneLine (s : String) : Prop := '\n' ∉ s.toList

instance (s : String) : Decidable (OneLine s) := inferInstanceAs (Decidable (_ ∉ _))

@[simp] theorem oneLine_append {s t : String} : OneLine (s ++ t) ↔ OneLine s ∧ OneLine t := by
  simp [OneLine]

theorem oneLine_intercalate {separator : String} {texts : List String} (h : OneLine separator)
    (each : ∀ t ∈ texts, OneLine t) : OneLine (separator.intercalate texts) := by
  intro feed
  rw [String.toList_intercalate] at feed
  rcases mem_intercalate feed with feed | ⟨cs, hcs, feed⟩
  · exact h feed
  · obtain ⟨t, ht, rfl⟩ := List.mem_map.mp hcs
    exact each t ht feed

/-! ### What follows the last separator -/

theorem afterLast_append {separator : Char} {before after : String}
    (h : separator ∉ after.toList) :
    afterLast separator (before ++ String.singleton separator ++ after) = after := by
  have kept : ∀ c ∈ after.toList.reverse, decide (c ≠ separator) = true := by
    intro c hc
    have hc : c ∈ after.toList := List.mem_reverse.mp hc
    exact decide_eq_true fun same => h (same ▸ hc)
  unfold afterLast
  rw [String.toList_append, String.toList_append, List.reverse_append, List.reverse_append,
    List.takeWhile_append_of_pos kept]
  simp

end UmlKotlin.Text
