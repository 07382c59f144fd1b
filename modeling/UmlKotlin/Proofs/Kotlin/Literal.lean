import Mathlib.Algebra.Ring.Parity
import UmlKotlin.Kotlin.Generator
import UmlKotlin.Proofs.Text.Blank

/-!
What the inside of a string literal says. Main statement: an escaped text has no line end and no
quotation mark or dollar sign that stands alone, and it reads back, so that two texts never share
one; a deprecation mark holds a literal that ends where the mark does and that reads as the message
(`literal_reads_back`).
-/

set_option autoImplicit false

namespace UmlKotlin.Kotlin.Literal

/-! ### One replacement after the other -/

def replaceChar (c : Char) (others : List Char) (cs : List Char) : List Char :=
  cs.flatMap fun d => if d = c then others else [d]

def replacements : List (Char × List Char) :=
  [('\\', ['\\', '\\']), ('"', ['\\', '"']), ('\n', ['\\', 'n']), ('\r', ['\\', 'r']),
    ('$', ['\\', '$'])]

def replaceAll (cs : List Char) : List Char :=
  replacements.foldl (fun cs r => replaceChar r.1 r.2 cs) cs

/-- No replacement touches what an earlier one has put in. -/
theorem replaceAll_eq_escapeChars (cs : List Char) : replaceAll cs = escapeChars cs := by
  simp only [replaceAll, replacements, List.foldl_cons, List.foldl_nil, replaceChar,
    List.flatMap_assoc, escapeChars]
  congr 1
  funext c
  unfold escapeChar
  by_cases slash : c = '\\'
  · subst slash
    decide
  by_cases quote : c = '"'
  · subst quote
    decide
  by_cases feed : c = '\n'
  · subst feed
    decide
  by_cases back : c = '\r'
  · subst back
    decide
  simp [slash, quote, feed, back]

/-! ### What stands behind a backslash -/

def slashes (cs : List Char) : Nat := (cs.rtakeWhile (· = '\\')).length

theorem slashes_concat_slash (cs : List Char) : slashes (cs ++ ['\\']) = slashes cs + 1 := by
  rw [slashes, List.rtakeWhile_concat_pos _ _ _ (by simp), List.length_append]
  rfl

theorem slashes_concat {c : Char} (h : c ≠ '\\') (cs : List Char) : slashes (cs ++ [c]) = 0 := by
  rw [slashes, List.rtakeWhile_concat_neg _ _ _ (by simpa using h)]
  rfl

theorem odd_slashes_append {cs : List Char} (h : Even (slashes cs)) (ds : List Char) :
    Odd (slashes (cs ++ ds)) ↔ Odd (slashes ds) := by
  induction ds using List.reverseRecOn with
  | nil =>
    rw [List.append_nil]
    simpa [slashes, List.rtakeWhile_nil] using h
  | append_singleton ds d ih =>
    rw [← List.append_assoc]
    by_cases slash : d = '\\'
    · subst slash
      rw [slashes_concat_slash, slashes_concat_slash, Nat.odd_add_one, Nat.odd_add_one, ih]
    · rw [slashes_concat slash, slashes_concat slash]

theorem even_slashes_escapeChar (c : Char) : Even (slashes (escapeChar c)) := by
  unfold escapeChar
  split_ifs with slash
  all_goals first | decide | skip
  rw [← List.nil_append [c], slashes_concat slash]
  exact Even.zero

theorem escapeChar_marked {c d : Char} {before after : List Char}
    (h : escapeChar c = before ++ d :: after) (marks : d = '"' ∨ d = '$') : before = ['\\'] := by
  have firsts : ∀ e es, escapeChar c = e :: es → e ≠ d ∧ (es = [] ∨ e = '\\' ∧ es.length = 1) := by
    intro e es first
    unfold escapeChar at first
    split_ifs at first <;> cases first <;> rcases marks with rfl | rfl <;> simp_all
  cases before with
  | nil => exact absurd rfl (firsts d after h).1
  | cons e before =>
    rw [List.cons_append] at h
    obtain ⟨-, alone | ⟨rfl, two⟩⟩ := firsts e _ h
    · simp at alone
    · have none : before = [] := by
        apply List.length_eq_zero_iff.mp
        rw [List.length_append, List.length_cons] at two
        omega
      rw [none]

theorem odd_slashes_escapeChars {cs before after : List Char} {d : Char}
    (h : escapeChars cs = before ++ d :: after) (marks : d = '"' ∨ d = '$') :
    Odd (slashes before) := by
  induction cs generalizing before with
  | nil => simp [escapeChars] at h
  | cons c cs ih =>
    rw [escapeChars, List.flatMap_cons] at h
    -- the mark is in what the first character is written as, or behind it
    rcases List.append_eq_append_iff.mp h with ⟨between, rfl, later⟩ | ⟨between, first, later⟩
    · exact (odd_slashes_append (even_slashes_escapeChar c) between).mpr (ih later)
    · cases between with
      | nil =>
        rw [List.append_nil] at first
        have none : escapeChars cs = [] ++ d :: after := later.symm
        rw [← first]
        simpa using (odd_slashes_append (even_slashes_escapeChar c) []).mpr (ih none)
      | cons e between =>
        cases later
        rw [escapeChar_marked first marks]
        decide

theorem ne_lineEnd_of_mem_escapeChars {cs : List Char} {d : Char} (h : d ∈ escapeChars cs) :
    d ≠ '\n' ∧ d ≠ '\r' := by
  obtain ⟨c, -, h⟩ := List.mem_flatMap.mp h
  unfold escapeChar at h
  split_ifs at h <;> simp_all
  all_goals rcases h with rfl | rfl <;> decide

theorem escape_injective : Function.Injective escape := by
  intro s t same
  have chars : escapeChars s.toList = escapeChars t.toList := by
    simpa [escape] using congrArg String.toList same
  have back : some s.toList = some t.toList := by
    rw [← unescape_escape, chars, unescape_escape]
  exact String.ext (Option.some.inj back)

/-! ### Where a literal ends -/

/-- A literal read from behind its opening quotation mark: what is inside, up to the first
quotation mark that no backslash precedes, and what follows. -/
def readLiteral : List Char → Option (List Char × List Char)
  | '"' :: rest => some ([], rest)
  | '\\' :: c :: rest => (readLiteral rest).map fun r => ('\\' :: c :: r.1, r.2)
  | c :: rest => (readLiteral rest).map fun r => (c :: r.1, r.2)
  | [] => none

theorem readLiteral_escapeChars (cs rest : List Char) :
    readLiteral (escapeChars cs ++ '"' :: rest) = some (escapeChars cs, rest) := by
  induction cs with
  | nil => rfl
  | cons c cs ih =>
    rw [escapeChars, List.flatMap_cons, ← escapeChars, List.append_assoc]
    unfold escapeChar
    split_ifs with slash quote feed back dollar
    all_goals simp_all [readLiteral]

/-! ### What a deprecation says -/

def deprecationWords (message : Option String) : String :=
  if Text.blank message then defaultDeprecation else Text.trim (message.getD "")

theorem deprecationText_eq (message : Option String) :
    deprecationText message = dropPeriod (deprecationWords message).toList := by
  have empty : (Text.trimChars (message.getD "").toList).isEmpty = Text.blank message := by
    rw [Bool.eq_iff_iff, List.isEmpty_iff, Text.trimChars_eq_nil_iff]
    cases message <;> simp [Text.blank, Text.isBlank]
  rw [deprecationText, empty, deprecationWords]
  split <;> simp [Text.trim]

theorem dropPeriod_concat (cs : List Char) : dropPeriod (cs ++ ['.']) = cs := by
  simp [dropPeriod]

theorem dropPeriod_of_none {cs : List Char} (h : ∀ ds, cs ≠ ds ++ ['.']) : dropPeriod cs = cs := by
  rw [dropPeriod, if_neg]
  intro last
  obtain ⟨ds, rfl⟩ := List.getLast?_eq_some_iff.mp last
  exact h ds rfl

/-- An escaped text is in one line and has each quotation mark and dollar sign behind an odd run of
backslashes, and it reads as the text; the literal of a deprecation ends in front of `)` and reads
as the trimmed message without one final period. -/
theorem literal_reads_back :
    (∀ s : String, (escape s).toList = replaceAll s.toList ∧
      '\n' ∉ (escape s).toList ∧ '\r' ∉ (escape s).toList ∧
      (∀ before c after, (escape s).toList = before ++ c :: after → c = '"' ∨ c = '$' →
        Odd (slashes before)) ∧
      unescape (escape s).toList = some s.toList) ∧
    Function.Injective escape ∧
    ∀ (i : String) (message : Option String), ∃ written said : String,
      Source.deprecationLines i (Generator.deprecationOf true message) =
        [i ++ "@Deprecated(\"" ++ written ++ "\")"] ∧
      readLiteral (written ++ "\")").toList = some (written.toList, ")".toList) ∧
      unescape written.toList = some said.toList ∧
      (∀ t : String, deprecationWords message = t ++ "." → said = t) ∧
      ((∀ t : String, deprecationWords message ≠ t ++ ".") → said = deprecationWords message) := by
  refine ⟨?_, escape_injective, ?_⟩
  · intro s
    rw [escape, String.toList_ofList, replaceAll_eq_escapeChars]
    exact ⟨rfl, fun feed => (ne_lineEnd_of_mem_escapeChars feed).1 rfl,
      fun back => (ne_lineEnd_of_mem_escapeChars back).2 rfl,
      fun before c after h marks => odd_slashes_escapeChars h marks, unescape_escape s.toList⟩
  · intro i message
    refine ⟨deprecationMessage message, String.ofList (deprecationText message), rfl, ?_, ?_, ?_, ?_⟩
    · simpa [deprecationMessage] using readLiteral_escapeChars (deprecationText message) [')']
    · simpa [deprecationMessage] using unescape_escape (deprecationText message)
    · intro t period
      rw [deprecationText_eq, period, String.toList_append]
      exact (congrArg String.ofList (dropPeriod_concat t.toList)).trans String.ofList_toList
    · intro whole
      rw [deprecationText_eq, dropPeriod_of_none, String.ofList_toList]
      intro ds last
      refine whole (String.ofList ds) (String.ext ?_)
      simpa using last

theorem literal_reads_back_cost :
    ∃ written said : String,
      Source.deprecationLines "" (Generator.deprecationOf true (some " It costs \"$5\\\".. ")) =
        ["" ++ "@Deprecated(\"" ++ written ++ "\")"] ∧
      unescape written.toList = some said.toList ∧ said = "It costs \"$5\\\"." := by
  obtain ⟨written, said, line, -, reads, period, -⟩ :=
    literal_reads_back.2.2 "" (some " It costs \"$5\\\".. ")
  exact ⟨written, said, line, reads, period _ (by decide +kernel)⟩

end UmlKotlin.Kotlin.Literal
