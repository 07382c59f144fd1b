import Mathlib.Data.List.Chain
import UmlKotlin.Proofs.Text.Lines

/-!
Two characters next to each other. Putting other characters in place of each such pair leaves none
of them and brings about no other pair (`apart_replacePair`), and it is done line by line
(`lines_replacePair`); a pair that no other pair overlaps stands at one place (`Apart.unique`).
-/

set_option autoImplicit false

namespace UmlKotlin.Text

/-- Characters in which no `a` stands right in front of a `b`. -/
def Apart (a b : Char) (cs : List Char) : Prop := cs.IsChain fun x y => ¬(x = a ∧ y = b)

instance (a b : Char) (cs : List Char) : Decidable (Apart a b cs) :=
  inferInstanceAs (Decidable (cs.IsChain _))

section
variable {a b c : Char} {cs ds : List Char}

theorem apart_cons_of_ne (h : c ≠ a) : Apart a b (c :: cs) ↔ Apart a b cs := by
  rw [Apart, Apart, List.isChain_cons]
  simp [h]

theorem apart_append_of_free (h : ∀ d ∈ ds, d ≠ a) : Apart a b (ds ++ cs) ↔ Apart a b cs := by
  induction ds with
  | nil => rfl
  | cons d ds ih =>
    rw [List.cons_append, apart_cons_of_ne (h d List.mem_cons_self)]
    exact ih fun e he => h e (List.mem_cons_of_mem _ he)

theorem apart_append_cons (ha : c ≠ a) (hb : c ≠ b) :
    Apart a b (cs ++ c :: ds) ↔ Apart a b cs ∧ Apart a b ds := by
  rw [Apart, List.isChain_append]
  simp only [List.head?_cons, Option.mem_some_iff, forall_eq', hb, and_false, not_false_eq_true,
    implies_true, and_true]
  exact and_congr_right fun _ => apart_cons_of_ne ha

theorem Apart.concat (h : Apart a b cs) (hb : c ≠ b) : Apart a b (cs ++ [c]) := by
  refine List.isChain_append.mpr ⟨h, .singleton c, ?_⟩
  rintro x - y last ⟨-, rfl⟩
  exact hb (by simpa using last)

theorem not_apart (before after : List Char) : ¬ Apart a b (before ++ a :: b :: after) := by
  intro h
  exact (List.isChain_append_cons_cons.mp h).2.1 ⟨rfl, rfl⟩

theorem Apart.unique {before after : List Char} (front : Apart a b (cs ++ [a]))
    (back : Apart a b (b :: ds)) (h : cs ++ a :: b :: ds = before ++ a :: b :: after) :
    before = cs ∧ after = ds := by
  rcases List.append_eq_append_iff.mp h with ⟨between, rfl, later⟩ | ⟨between, rfl, later⟩
  · cases between with
    | nil => simpa using later.symm
    | cons d between =>
      have later : b :: ds = between ++ a :: b :: after := (List.cons.inj later).2
      rw [later] at back
      exact absurd back (not_apart between after)
  · cases between with
    | nil => simpa using later
    | cons d between =>
      -- an earlier pair would stand in what ends with the first character of this one
      obtain ⟨rfl, follows⟩ := List.cons.inj later
      have earlier : ∃ rest, between ++ [a] = b :: rest := by
        cases between with
        | nil => exact ⟨[], by rw [(List.cons.inj follows).1]; rfl⟩
        | cons e between => exact ⟨between ++ [a], by rw [(List.cons.inj follows).1]; rfl⟩
      obtain ⟨rest, earlier⟩ := earlier
      rw [List.append_assoc, List.cons_append, earlier] at front
      exact absurd front (not_apart before rest)

end

/-! ### Other characters in place of a pair -/

def replacePair (a b : Char) (others : List Char) : List Char → List Char
  | c :: d :: cs =>
    if c = a ∧ d = b then others ++ replacePair a b others cs
    else c :: replacePair a b others (d :: cs)
  | cs => cs

section
variable {a b : Char} {others : List Char}

theorem replacePair_pair (cs : List Char) :
    replacePair a b others (a :: b :: cs) = others ++ replacePair a b others cs := by
  rw [replacePair, if_pos ⟨rfl, rfl⟩]

theorem replacePair_cons {c : Char} {cs : List Char} (h : ¬(c = a ∧ cs.head? = some b)) :
    replacePair a b others (c :: cs) = c :: replacePair a b others cs := by
  cases cs with
  | nil => rfl
  | cons d cs =>
    rw [replacePair, if_neg]
    simpa using h

theorem eq_replacePair {f : List Char → List Char}
    (pair : ∀ cs, f (a :: b :: cs) = others ++ f cs)
    (cons : ∀ c cs, ¬(c = a ∧ cs.head? = some b) → f (c :: cs) = c :: f cs) (nil : f [] = []) :
    f = replacePair a b others := by
  funext cs
  induction cs using replacePair.induct a b with
  | case1 c d cs both ih =>
    obtain ⟨rfl, rfl⟩ := both
    rw [pair, replacePair_pair, ih]
  | case2 c d cs apart ih =>
    have apart : ¬(c = a ∧ (d :: cs).head? = some b) := by simpa using apart
    rw [cons c _ apart, replacePair_cons apart, ih]
  | case3 cs short =>
    match cs with
    | [] => exact nil
    | [c] =>
      rw [cons c [] (by simp), nil]
      rfl
    | c :: d :: cs => exact absurd rfl (short c d cs)

theorem head?_replacePair (filled : others ≠ []) (cs : List Char) :
    (replacePair a b others cs).head? = cs.head? ∨
      (replacePair a b others cs).head? = others.head? := by
  cases cs with
  | nil => exact .inl rfl
  | cons c cs =>
    by_cases pair : c = a ∧ cs.head? = some b
    · obtain ⟨rfl, first⟩ := pair
      obtain ⟨cs, rfl⟩ := List.head?_eq_some_iff.mp first
      rw [replacePair_pair, List.head?_append_of_ne_nil _ filled]
      exact .inr rfl
    · rw [replacePair_cons pair]
      exact .inl rfl

/-- No `p` comes to stand right in front of a `q` unless it was so before and was no pair, given
that what is put in place of a pair does not begin with `q`, and ends with `p` only if the pair
does. -/
theorem apart_replacePair {p q : Char} {cs : List Char} (ne : a ≠ b) (filled : others ≠ [])
    (inside : Apart p q others) (begins : others.head? ≠ some q)
    (ends : others.getLast? = some p → b = p)
    (h : cs.IsChain fun x y => x = p ∧ y = q → x = a ∧ y = b) :
    Apart p q (replacePair a b others cs) := by
  induction cs using replacePair.induct a b with
  | case1 c d cs pair ih =>
    obtain ⟨rfl, rfl⟩ := pair
    rw [replacePair_pair]
    obtain ⟨-, h⟩ := List.isChain_cons_cons.mp h
    obtain ⟨junction, h⟩ := List.isChain_cons.mp h
    refine List.isChain_append.mpr ⟨inside, ih h, ?_⟩
    rintro x last y first ⟨rfl, rfl⟩
    rcases head?_replacePair filled cs with kept | made
    · rw [kept] at first
      exact ne (junction y first ⟨ends last, rfl⟩).1.symm
    · rw [made] at first
      exact begins first
  | case2 c d cs apart ih =>
    rw [replacePair, if_neg apart]
    obtain ⟨junction, h⟩ := List.isChain_cons_cons.mp h
    refine List.isChain_cons.mpr ⟨?_, ih h⟩
    rintro y first ⟨rfl, rfl⟩
    rcases head?_replacePair filled (d :: cs) with kept | made
    · rw [kept] at first
      obtain rfl : d = y := by simpa using first
      exact apart (junction ⟨rfl, rfl⟩)
    · rw [made] at first
      exact begins first
  | case3 cs short =>
    match cs with
    | [] => exact .nil
    | [c] => exact .singleton c
    | c :: d :: cs => exact absurd rfl (short c d cs)

theorem apart_replacePair_self (ne : a ≠ b) (filled : others ≠ []) (inside : Apart a b others)
    (begins : others.head? ≠ some b) (ends : others.getLast? ≠ some a) (cs : List Char) :
    Apart a b (replacePair a b others cs) := by
  have any : cs.IsChain fun x y => x = a ∧ y = b → x = a ∧ y = b :=
    (List.pairwise_of_forall fun _ _ pair => pair).isChain
  exact apart_replacePair ne filled inside begins (fun last => absurd last ends) any

theorem Apart.replacePair {p q : Char} {cs : List Char} (h : Apart p q cs) (ne : a ≠ b)
    (filled : others ≠ []) (inside : Apart p q others) (begins : others.head? ≠ some q)
    (ends : others.getLast? = some p → b = p) : Apart p q (replacePair a b others cs) :=
  apart_replacePair ne filled inside begins ends (h.imp fun _ _ none pair => absurd pair none)

end

/-! ### Line by line -/

theorem lines_cons {c : Char} (h : isLineBreak c = false) (cs : List Char) :
    lines (c :: cs) = (c :: (lines cs).headD []) :: (lines cs).tail := by
  have feed : c ≠ '\r' := by
    rintro rfl
    exact absurd h (by decide)
  rw [lines, if_neg (by simp [h])]
  · cases lines cs <;> rfl
  · intro rest same
    exact absurd same feed

theorem lines_append {cs : List Char} (filled : cs ≠ []) (h : ∀ c ∈ cs, isLineBreak c = false)
    (ds : List Char) : lines (cs ++ ds) = (cs ++ (lines ds).headD []) :: (lines ds).tail := by
  induction cs with
  | nil => exact absurd rfl filled
  | cons c cs ih =>
    rw [List.cons_append, lines_cons (h c List.mem_cons_self)]
    cases cs with
    | nil => rfl
    | cons d cs =>
      rw [ih (List.cons_ne_nil d cs) fun e he => h e (List.mem_cons_of_mem _ he)]
      rfl

theorem lines_break {c : Char} {cs : List Char} (h : isLineBreak c = true)
    (single : ¬(c = '\r' ∧ cs.head? = some '\n')) : lines (c :: cs) = [] :: lines cs := by
  rw [lines, if_pos h]
  rintro rest rfl rfl
  exact single ⟨rfl, rfl⟩

theorem head?_headD_lines {cs : List Char} {c : Char}
    (h : ((lines cs).headD []).head? = some c) : cs.head? = some c := by
  cases cs with
  | nil => exact h
  | cons d cs =>
    cases ends : isLineBreak d with
    | false => simpa [lines_cons ends] using h
    | true =>
      by_cases both : d = '\r' ∧ cs.head? = some '\n'
      · obtain ⟨rfl, first⟩ := both
        obtain ⟨cs, rfl⟩ := List.head?_eq_some_iff.mp first
        simp [lines] at h
      · simp [lines_break ends both] at h

section
variable {a b : Char} {others : List Char} (ne : a ≠ b) (ha : isLineBreak a = false)
  (hb : isLineBreak b = false) (filled : others ≠ []) (free : ∀ c ∈ others, isLineBreak c = false)
include ne ha hb filled free

theorem lines_replacePair_cons {c : Char} {cs : List Char} (goesOn : isLineBreak c = false)
    (ih : lines (replacePair a b others cs) = (lines cs).map (replacePair a b others)) :
    lines (replacePair a b others (c :: cs)) =
      (lines (c :: cs)).map (replacePair a b others) := by
  have first : (lines (replacePair a b others cs)).headD [] =
      replacePair a b others ((lines cs).headD []) := by
    rw [ih]
    cases lines cs <;> rfl
  have more : (lines (replacePair a b others cs)).tail =
      (lines cs).tail.map (replacePair a b others) := by
    rw [ih, List.map_tail]
  by_cases pair : c = a ∧ cs.head? = some b
  · obtain ⟨rfl, hd⟩ := pair
    obtain ⟨cs, rfl⟩ := List.head?_eq_some_iff.mp hd
    have kept : ∀ ds, replacePair c b others (b :: ds) = b :: replacePair c b others ds :=
      fun ds => replacePair_cons fun h => ne h.1.symm
    rw [kept, lines_cons hb, lines_cons hb] at first more
    simp only [List.headD_cons, List.tail_cons, kept, List.cons.injEq, true_and] at first more
    rw [replacePair_pair, lines_append filled free, first, more, lines_cons goesOn, lines_cons hb]
    simp [replacePair_pair]
  · have line : ¬(c = a ∧ ((lines cs).headD []).head? = some b) := by
      rintro ⟨rfl, hd⟩
      exact pair ⟨rfl, head?_headD_lines hd⟩
    rw [replacePair_cons pair, lines_cons goesOn, lines_cons goesOn, first, more, List.map_cons,
      replacePair_cons line]

theorem lines_replacePair (cs : List Char) :
    lines (replacePair a b others cs) = (lines cs).map (replacePair a b others) := by
  have kept {c : Char} (ends : isLineBreak c = true) (cs : List Char) :
      replacePair a b others (c :: cs) = c :: replacePair a b others cs := by
    apply replacePair_cons
    rintro ⟨rfl, -⟩
    rw [ha] at ends
    cases ends
  induction cs using lines.induct with
  | case1 => rfl
  | case2 cs ih =>
    rw [kept (by decide), kept (by decide), lines, lines, ih]
    rfl
  | case3 c cs apart ends ih =>
    have single : ¬(c = '\r' ∧ cs.head? = some '\n') := by
      rintro ⟨rfl, feed⟩
      obtain ⟨rest, rfl⟩ := List.head?_eq_some_iff.mp feed
      exact apart rest rfl rfl
    have single' : ¬(c = '\r' ∧ (replacePair a b others cs).head? = some '\n') := by
      rintro ⟨rfl, feed⟩
      rcases head?_replacePair filled cs with same | made
      · exact single ⟨rfl, same.symm.trans feed⟩
      · rw [made] at feed
        exact absurd (free '\n' (List.mem_of_head? feed)) (by decide)
    rw [kept ends, lines_break ends single', lines_break ends single, ih]
    rfl
  | case4 c cs apart goesOn last ih =>
    exact lines_replacePair_cons ne ha hb filled free (by simpa using goesOn) ih
  | case5 c cs apart goesOn first more found ih =>
    exact lines_replacePair_cons ne ha hb filled free (by simpa using goesOn) ih

end

end UmlKotlin.Text
