import UmlKotlin.Kotlin.Comment
import UmlKotlin.Kotlin.SourceFile
import UmlKotlin.Proofs.Text.Blank
import UmlKotlin.Proofs.Text.Pair

/-!
Documentation comments as a compiler reads them. Main statement: a text that is not blank becomes
one block with a line for each line of the text, in which the comment is opened at the first line
only and closed at the last line only (`block_delimited`).
-/

set_option autoImplicit false

namespace UmlKotlin.Kotlin.Comment

open Text (Apart)

/-! ### Texts without delimiters -/

theorem breakClosers_eq_replacePair :
    breakClosers = Text.replacePair '*' '/' "*&#47;".toList := by
  refine Text.eq_replacePair (fun cs => rfl) ?_ rfl
  intro c cs apart
  rw [breakClosers.eq_def]
  split
  · rename_i rest same
    obtain ⟨rfl, rfl⟩ := List.cons.inj same
    exact absurd ⟨rfl, rfl⟩ apart
  · rename_i same
    obtain ⟨rfl, rfl⟩ := List.cons.inj same
    rfl
  · rename_i same
    cases same

theorem breakOpeners_eq_replacePair :
    breakOpeners = Text.replacePair '/' '*' "&#47;*".toList := by
  refine Text.eq_replacePair (fun cs => rfl) ?_ rfl
  intro c cs apart
  rw [breakOpeners.eq_def]
  split
  · rename_i rest same
    obtain ⟨rfl, rfl⟩ := List.cons.inj same
    exact absurd ⟨rfl, rfl⟩ apart
  · rename_i same
    obtain ⟨rfl, rfl⟩ := List.cons.inj same
    rfl
  · rename_i same
    cases same

/-- Characters in which a comment is neither closed nor opened. -/
structure Undelimited (cs : List Char) : Prop where
  unclosed : Apart '*' '/' cs
  unopened : Apart '/' '*' cs

theorem undelimited_escapeChars (cs : List Char) : Undelimited (escapeChars cs) := by
  have unclosed : Apart '*' '/' (breakClosers cs) := by
    rw [breakClosers_eq_replacePair]
    apply Text.apart_replacePair_self <;> decide
  rw [escapeChars, breakOpeners_eq_replacePair]
  constructor
  · apply unclosed.replacePair <;> decide
  · apply Text.apart_replacePair_self <;> decide

theorem Undelimited.front {cs ds : List Char} (h : Undelimited ds) (begins : cs <+: ds) :
    Undelimited cs := by
  obtain ⟨rest, rfl⟩ := begins
  exact ⟨(List.isChain_append.mp h.unclosed).1, (List.isChain_append.mp h.unopened).1⟩

theorem undelimited_append_cons {c : Char} {cs ds : List Char} (star : c ≠ '*') (slash : c ≠ '/') :
    Undelimited (cs ++ c :: ds) ↔ Undelimited cs ∧ Undelimited ds := by
  constructor
  · intro h
    obtain ⟨first, second⟩ := (Text.apart_append_cons star slash).mp h.unclosed
    obtain ⟨first', second'⟩ := (Text.apart_append_cons slash star).mp h.unopened
    exact ⟨⟨first, first'⟩, ⟨second, second'⟩⟩
  · rintro ⟨first, second⟩
    exact ⟨(Text.apart_append_cons star slash).mpr ⟨first.unclosed, second.unclosed⟩,
      (Text.apart_append_cons slash star).mpr ⟨first.unopened, second.unopened⟩⟩

def Blanks (cs : List Char) : Prop := ∀ c ∈ cs, c = ' '

theorem Blanks.ne {cs : List Char} (h : Blanks cs) {c : Char} (hc : c ≠ ' ') : ∀ d ∈ cs, d ≠ c := by
  rintro d hd rfl
  exact hc (h d hd)

theorem undelimited_blanks_append {cs ds : List Char} (h : Blanks cs) :
    Undelimited (cs ++ ds) ↔ Undelimited ds := by
  constructor
  · intro all
    exact ⟨(Text.apart_append_of_free (h.ne (by decide))).mp all.unclosed,
      (Text.apart_append_of_free (h.ne (by decide))).mp all.unopened⟩
  · intro rest
    exact ⟨(Text.apart_append_of_free (h.ne (by decide))).mpr rest.unclosed,
      (Text.apart_append_of_free (h.ne (by decide))).mpr rest.unopened⟩

theorem lines_escapeChars (cs : List Char) :
    Text.lines (escapeChars cs) = (Text.lines cs).map escapeChars := by
  have closing : ∀ c ∈ "*&#47;".toList, Text.isLineBreak c = false := by simp [Text.isLineBreak]
  have opening : ∀ c ∈ "&#47;*".toList, Text.isLineBreak c = false := by simp [Text.isLineBreak]
  have each : escapeChars = breakOpeners ∘ breakClosers := rfl
  rw [escapeChars, each, ← List.map_map, breakClosers_eq_replacePair, breakOpeners_eq_replacePair,
    Text.lines_replacePair (by decide) (by decide) (by decide) (by decide) opening,
    Text.lines_replacePair (by decide) (by decide) (by decide) (by decide) closing]

/-! ### The lines of a block -/

def textLine (i : String) (line : List Char) : String :=
  let kept := Text.trimEnd (escapeChars line)
  if kept.isEmpty then i ++ " *" else i ++ " * " ++ String.ofList kept

theorem block_some {i text : String} (h : Text.isBlank text = false) :
    block i (some text) =
      [i ++ "/**"] ++ (Text.lines (Text.trimChars text.toList)).map (textLine i) ++
        [i ++ " */"] := by
  rw [block, h, lines_escapeChars, List.map_map]
  rfl

structure IsTextLine (i line : String) : Prop where
  begins : ∃ rest, line = i ++ " *" ++ rest
  unbroken : ∀ c ∈ line.toList, Text.isLineBreak c = false
  trimmed : ∀ c ∈ line.toList.getLast?, Text.isSpace c = false
  undelimited : Undelimited line.toList

theorem Blanks.unbroken {cs : List Char} (h : Blanks cs) :
    ∀ c ∈ cs, Text.isLineBreak c = false := by
  intro c hc
  rw [h c hc]
  decide

theorem isTextLine_textLine {i : String} (h : Blanks i.toList) {line : List Char}
    (unbroken : ∀ c ∈ escapeChars line, Text.isLineBreak c = false) :
    IsTextLine i (textLine i line) := by
  have star : ∀ c ∈ " *".toList, Text.isLineBreak c = false := by simp [Text.isLineBreak]
  have margin : ∀ c ∈ i.toList ++ " *".toList, Text.isLineBreak c = false :=
    List.forall_mem_append.mpr ⟨h.unbroken, star⟩
  have part := Text.trimEnd_prefix (escapeChars line)
  unfold textLine
  dsimp only
  split
  · constructor
    · exact ⟨"", by rw [String.append_empty]⟩
    · simpa using margin
    · simp [Text.isSpace]
    · rw [String.toList_append, undelimited_blanks_append h]
      exact ⟨by decide, by decide⟩
  · rename_i filled
    have filled : Text.trimEnd (escapeChars line) ≠ [] := by simpa using filled
    have chars : (i ++ " * " ++ String.ofList (Text.trimEnd (escapeChars line))).toList =
        i.toList ++ (" *".toList ++ ' ' :: Text.trimEnd (escapeChars line)) := by
      simp
    constructor
    · exact ⟨" " ++ String.ofList (Text.trimEnd (escapeChars line)), String.ext (by simp)⟩
    · rw [chars, ← List.append_assoc]
      refine List.forall_mem_append.mpr ⟨margin, List.forall_mem_cons.mpr ⟨by decide, ?_⟩⟩
      intro c hc
      exact unbroken c (part.subset hc)
    · intro c last
      rw [String.toList_append, String.toList_ofList, List.getLast?_append_of_ne_nil _ filled]
        at last
      exact Text.isSpace_getLast?_trimEnd last
    · rw [chars, undelimited_blanks_append h, undelimited_append_cons (by decide) (by decide)]
      exact ⟨⟨by decide, by decide⟩, (undelimited_escapeChars line).front part⟩

/-! ### The block as one text -/

/-- A comment read from behind its opening delimiter, inside of some more comments that are open:
what follows it, once every comment is closed. Comments nest. -/
def afterComment : Nat → List Char → Option (List Char)
  | depth, '/' :: '*' :: cs => afterComment (depth + 1) cs
  | depth, '*' :: '/' :: cs =>
    match depth with
    | 0 => some cs
    | depth + 1 => afterComment depth cs
  | depth, _ :: cs => afterComment depth cs
  | _, [] => none

theorem afterComment_cons {c d : Char} (depth : Nat) (cs : List Char)
    (unclosed : ¬(c = '*' ∧ d = '/')) (unopened : ¬(c = '/' ∧ d = '*')) :
    afterComment depth (c :: d :: cs) = afterComment depth (d :: cs) := by
  rw [afterComment]
  · rintro rest rfl same
    exact unopened ⟨rfl, (List.cons.inj same).1⟩
  · rintro rest rfl same
    exact unclosed ⟨rfl, (List.cons.inj same).1⟩

theorem afterComment_undelimited {cs : List Char} (h : Undelimited (cs ++ ['*']))
    (more : List Char) : afterComment 0 (cs ++ '*' :: '/' :: more) = some more := by
  induction cs with
  | nil => rw [List.nil_append, afterComment]
  | cons c cs ih =>
    obtain ⟨d, rest, behind⟩ : ∃ d rest, cs ++ ['*'] = d :: rest :=
      List.exists_cons_of_ne_nil (by simp)
    have text : cs ++ '*' :: '/' :: more = d :: (rest ++ '/' :: more) := by
      rw [← List.cons_append, ← behind, List.append_assoc]
      rfl
    obtain ⟨unclosed, unopened⟩ := h
    rw [List.cons_append, behind] at unclosed unopened
    obtain ⟨unclosed, unclosed'⟩ := List.isChain_cons_cons.mp unclosed
    obtain ⟨unopened, unopened'⟩ := List.isChain_cons_cons.mp unopened
    rw [List.cons_append, text, afterComment_cons 0 _ unclosed unopened, ← text]
    apply ih
    rw [behind]
    exact ⟨unclosed', unopened'⟩

theorem intercalate_concat (separator last : List Char) (lines : List (List Char)) :
    separator.intercalate (lines ++ [last]) = lines.flatMap (· ++ separator) ++ last := by
  induction lines with
  | nil => simp
  | cons line lines ih =>
    obtain ⟨next, more, behind⟩ : ∃ next more, lines ++ [last] = next :: more :=
      List.exists_cons_of_ne_nil (by simp)
    rw [List.cons_append, behind, List.intercalate_cons_cons, ← behind, ih, List.flatMap_cons]
    simp only [List.append_assoc]

def inner (i : String) (body : List String) : List Char :=
  '*' :: '\n' :: (body.flatMap (fun line => line.toList ++ ['\n']) ++ (i.toList ++ [' ']))

theorem toList_joined (i : String) (body : List String) :
    ("\n".intercalate ([i ++ "/**"] ++ body ++ [i ++ " */"])).toList =
      i.toList ++ '/' :: '*' :: (inner i body ++ ['*', '/']) := by
  have feed : "\n".toList = ['\n'] := rfl
  rw [String.toList_intercalate, List.map_append, List.map_singleton, intercalate_concat,
    List.map_append, List.flatMap_append, List.flatMap_map, feed]
  simp [inner, List.flatMap_map]

theorem undelimited_flatMap {lines : List String} {rest : List Char}
    (each : ∀ line ∈ lines, Undelimited line.toList) (h : Undelimited rest) :
    Undelimited (lines.flatMap (fun line => line.toList ++ ['\n']) ++ rest) := by
  induction lines with
  | nil => exact h
  | cons line lines ih =>
    rw [List.flatMap_cons, List.append_assoc, List.append_assoc, List.singleton_append,
      undelimited_append_cons (by decide) (by decide)]
    exact ⟨each line List.mem_cons_self, ih fun l hl => each l (List.mem_cons_of_mem _ hl)⟩

theorem undelimited_inner {i : String} {body : List String} (h : Blanks i.toList)
    (each : ∀ line ∈ body, Undelimited line.toList) : Undelimited (inner i body ++ ['*']) := by
  have star : Undelimited ['*'] := ⟨by decide, by decide⟩
  have closing : Undelimited (i.toList ++ [' ', '*']) :=
    (undelimited_blanks_append h).mpr ⟨by decide, by decide⟩
  have lines := (undelimited_append_cons (c := '\n') (by decide) (by decide)).mpr
    ⟨star, undelimited_flatMap each closing⟩
  simpa [inner] using lines

theorem opened_once {i : String} {body : List String} (h : Blanks i.toList)
    (plain : Undelimited (inner i body ++ ['*'])) {before after : List Char}
    (same : i.toList ++ '/' :: '*' :: (inner i body ++ ['*', '/']) =
      before ++ '/' :: '*' :: after) : before = i.toList := by
  have front : Apart '/' '*' (i.toList ++ ['/']) :=
    (Text.apart_append_of_free (h.ne (by decide))).mpr (.singleton '/')
  have back : Apart '/' '*' ('*' :: (inner i body ++ ['*', '/'])) := by
    rw [Text.apart_cons_of_ne (by decide)]
    simpa using plain.unopened.concat (c := '/') (by decide)
  exact (front.unique back same).1

theorem closed_once {i : String} {body : List String} (h : Blanks i.toList)
    (plain : Undelimited (inner i body ++ ['*'])) {before after : List Char}
    (same : i.toList ++ '/' :: '*' :: (inner i body ++ ['*', '/']) =
      before ++ '*' :: '/' :: after) : after = [] := by
  have front : Apart '*' '/' ((i.toList ++ '/' :: '*' :: inner i body) ++ ['*']) := by
    rw [List.append_assoc, Text.apart_append_of_free (h.ne (by decide)), List.cons_append,
      Text.apart_cons_of_ne (by decide)]
    -- the star of the opening delimiter is followed by another star
    exact List.isChain_cons_cons.mpr ⟨by decide, plain.unclosed⟩
  have back : Apart '*' '/' ['/'] := .singleton '/'
  have places : (i.toList ++ '/' :: '*' :: inner i body) ++ '*' :: '/' :: [] =
      before ++ '*' :: '/' :: after := by
    simpa using same
  exact (front.unique back places).2

/-- A blank text has no comment. Any other one has a block with a line for each line of the trimmed
text, each of which begins with a star, is one line and ends in no white space; the block as a text
has one delimiter that opens a comment, at its first line, and one that closes it, at its very
end. -/
theorem block_delimited {i : String} (h : ∀ c ∈ i.toList, c = ' ') (text : Option String) :
    (Text.blank text = true → block i text = []) ∧
    ∀ t, text = some t → Text.isBlank t = false → ∃ (body : List String) (inside : String),
      block i text = [i ++ "/**"] ++ body ++ [i ++ " */"] ∧
      body = (Text.lines (Text.trimChars t.toList)).map (textLine i) ∧
      (∀ line ∈ body, IsTextLine i line) ∧
      "\n".intercalate (block i text) = i ++ "/*" ++ inside ++ "*/" ∧
      (∀ before after, "\n".intercalate (block i text) = before ++ "/*" ++ after → before = i) ∧
      (∀ before after, "\n".intercalate (block i text) = before ++ "*/" ++ after → after = "") ∧
      ∀ more : String, afterComment 0 (inside ++ "*/" ++ more).toList = some more.toList := by
  constructor
  · intro blank
    cases text with
    | none => rfl
    | some t => exact if_pos blank
  · rintro t rfl shown
    let body := (Text.lines (Text.trimChars t.toList)).map (textLine i)
    have lines : ∀ line ∈ body, IsTextLine i line := by
      intro line hl
      obtain ⟨l, mem, rfl⟩ := List.mem_map.mp hl
      have escaped : escapeChars l ∈ Text.lines (escapeChars (Text.trimChars t.toList)) := by
        rw [lines_escapeChars]
        exact List.mem_map_of_mem mem
      exact isTextLine_textLine h fun c hc => Text.isLineBreak_of_mem_lines escaped hc
    have plain := undelimited_inner h fun line hl => (lines line hl).undelimited
    have joined := toList_joined i body
    rw [← block_some shown] at joined
    refine ⟨body, String.ofList (inner i body), block_some shown, rfl, lines, ?_, ?_, ?_, ?_⟩
    · exact String.ext (by simpa using joined)
    · intro before after same
      rw [same] at joined
      exact String.ext (opened_once h plain (by simpa using joined.symm))
    · intro before after same
      rw [same] at joined
      exact String.ext (closed_once h plain (by simpa using joined.symm))
    · intro more
      simpa using afterComment_undelimited plain more.toList

theorem block_delimited_overlap :
    (∀ c ∈ Source.indent.toList, c = ' ') ∧ Text.isBlank " /*/ **/\n//*" = false ∧
      ∃ (body : List String) (inside : String),
        block Source.indent (some " /*/ **/\n//*") =
          [Source.indent ++ "/**"] ++ body ++ [Source.indent ++ " */"] ∧
        body.length = 2 ∧
        "\n".intercalate (block Source.indent (some " /*/ **/\n//*")) =
          Source.indent ++ "/*" ++ inside ++ "*/" ∧
        afterComment 0 (inside ++ "*/" ++ "").toList = some [] := by
  have blanks : ∀ c ∈ Source.indent.toList, c = ' ' := by simp [Source.indent]
  have shown : Text.isBlank " /*/ **/\n//*" = false := by decide
  obtain ⟨body, inside, shape, lines, -, joined, -, -, read⟩ :=
    (block_delimited blanks (some " /*/ **/\n//*")).2 _ rfl shown
  refine ⟨blanks, shown, body, inside, shape, ?_, joined, read ""⟩
  rw [lines, List.length_map]
  decide +kernel

end UmlKotlin.Kotlin.Comment
