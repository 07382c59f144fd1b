import UmlKotlin.Proofs.Kotlin.Bare
import UmlKotlin.Proofs.Text.Blank
import UmlKotlin.Proofs.Text.Lines

/-!
Source files read line by line. The code of a file is what remains of its lines without
documentation comments and deprecation marks. Main statement: the code of a declaration is the
file of the same declaration without documentation and deprecation (`code_text`).
-/

set_option autoImplicit false

namespace UmlKotlin.Kotlin

/-! ### Reading -/

namespace Source

def unindented (line : String) : List Char := line.toList.dropWhile Text.isSpace

def opensComment (line : String) : Bool := unindented line = "/**".toList

def closesComment (line : String) : Bool := unindented line = "*/".toList

/-- Whether a line is a deprecation mark, whatever its message. -/
def marksDeprecation (line : String) : Bool :=
  match (unindented line).dropPrefix? "@Deprecated(\"".toList with
  | some rest => "\")".toList.isSuffixOf rest
  | none => false

/-- The lines of code from some line on, which may be inside a comment: a comment runs from a line
that opens it to the next one that closes it. -/
def codeFrom (inside : Bool) : List String → List String
  | [] => []
  | line :: rest =>
    if inside then codeFrom (!closesComment line) rest
    else if opensComment line then codeFrom true rest
    else if marksDeprecation line then codeFrom false rest
    else line :: codeFrom false rest

def code (file : String) : List String := codeFrom false (Text.splitAt '\n' file)

/-! ### Lines of code -/

/-- A line outside of comments that belongs to the code. -/
structure IsCode (line : String) : Prop where
  opens : opensComment line = false
  marks : marksDeprecation line = false

theorem codeFrom_code {lines : List String} (h : ∀ line ∈ lines, IsCode line)
    (rest : List String) : codeFrom false (lines ++ rest) = lines ++ codeFrom false rest := by
  induction lines with
  | nil => rfl
  | cons line lines ih =>
    have first := h line List.mem_cons_self
    have others := ih fun l hl => h l (List.mem_cons_of_mem _ hl)
    simp [codeFrom, first.opens, first.marks, others]

/-- A text that begins like neither a comment nor a mark. -/
def Begins (s : String) : Prop :=
  ∃ c cs, s.toList = c :: cs ∧ Text.isSpace c = false ∧ c ≠ '/' ∧ c ≠ '@'

theorem Begins.append {s : String} (h : Begins s) (t : String) : Begins (s ++ t) := by
  obtain ⟨c, cs, first, rest⟩ := h
  exact ⟨c, cs ++ t.toList, by rw [String.toList_append, first, List.cons_append], rest⟩

def Indents (i : String) : Prop := ∀ c ∈ i.toList, Text.isSpace c = true

theorem unindented_append {i : String} (h : Indents i) (line : String) :
    unindented (i ++ line) = unindented line := by
  rw [unindented, String.toList_append, List.dropWhile_append_of_pos h, unindented]

theorem Begins.isCode {i s : String} (h : Begins s) (hi : Indents i) : IsCode (i ++ s) := by
  obtain ⟨c, cs, first, shown, comment, mark⟩ := h
  have line : unindented (i ++ s) = c :: cs := by
    rw [unindented_append hi, unindented, first, List.dropWhile_cons_of_neg (by simp [shown])]
  constructor
  · rw [opensComment, line]
    simp [comment]
  · rw [marksDeprecation, line]
    have other : (c :: cs).dropPrefix? "@Deprecated(\"".toList = none := by
      simp [List.dropPrefix?, mark]
    rw [other]

theorem indents_empty : Indents "" := by simp [Indents]

theorem indents_indent : Indents indent := by
  have all : indent.toList.all Text.isSpace = true := by decide
  exact List.all_eq_true.mp all

theorem Begins.isCode_line {s : String} (h : Begins s) : IsCode s := by
  simpa using h.isCode indents_empty

/-! ### Comments and marks -/

theorem codeFrom_inside {lines : List String} (h : ∀ line ∈ lines, closesComment line = false)
    (rest : List String) : codeFrom true (lines ++ rest) = codeFrom true rest := by
  induction lines with
  | nil => rfl
  | cons line lines ih =>
    have first := h line List.mem_cons_self
    have others := ih fun l hl => h l (List.mem_cons_of_mem _ hl)
    simp [codeFrom, first, others]

theorem codeFrom_block {i : String} (hi : Indents i) (text : Option String)
    (rest : List String) : codeFrom false (Comment.block i text ++ rest) = codeFrom false rest := by
  have opens : opensComment (i ++ "/**") = true := by
    rw [opensComment, unindented_append hi]
    rfl
  have closes : closesComment (i ++ " */") = true := by
    rw [closesComment, unindented_append hi]
    rfl
  -- behind its star a line of text has a blank or nothing, so it never closes the comment
  have body (line : List Char) : closesComment (if line.isEmpty then i ++ " *"
      else i ++ " * " ++ String.ofList line) = false := by
    split
    · rw [closesComment, unindented_append hi]
      rfl
    · rw [closesComment, String.append_assoc, unindented_append hi]
      simp [unindented, Text.isSpace]
  unfold Comment.block
  cases text with
  | none => rfl
  | some text =>
    dsimp only
    split
    · rfl
    · rw [List.append_assoc, List.append_assoc, List.singleton_append, codeFrom, if_neg (by simp),
        if_pos opens, codeFrom_inside]
      · rw [List.singleton_append, codeFrom, if_pos rfl, closes]
        rfl
      · intro line hl
        obtain ⟨l, -, rfl⟩ := List.mem_map.mp hl
        exact body _

theorem codeFrom_deprecationLines {i : String} (hi : Indents i) (message : Option String)
    (rest : List String) :
    codeFrom false (deprecationLines i message ++ rest) = codeFrom false rest := by
  cases message with
  | none => rfl
  | some message =>
    have marks : marksDeprecation (i ++ ("@Deprecated(\"" ++ message ++ "\")")) = true := by
      have rest : ("@Deprecated(\"" ++ message ++ "\")").toList.dropPrefix?
          "@Deprecated(\"".toList = some (message ++ "\")").toList :=
        List.dropPrefix?_eq_some_iff.mpr ⟨"@Deprecated(\"".toList, by simp, by simp⟩
      have shown : unindented ("@Deprecated(\"" ++ message ++ "\")") =
          ("@Deprecated(\"" ++ message ++ "\")").toList := by
        simp [unindented, Text.isSpace]
      rw [marksDeprecation, unindented_append hi, shown, rest]
      simp
    have opens : opensComment (i ++ ("@Deprecated(\"" ++ message ++ "\")")) = false := by
      rw [opensComment, unindented_append hi]
      simp [unindented, Text.isSpace]
    have line : i ++ "@Deprecated(\"" ++ message ++ "\")" =
        i ++ ("@Deprecated(\"" ++ message ++ "\")") := by
      simp only [String.append_assoc]
    rw [deprecationLines, line, List.singleton_append, codeFrom, opens, marks]
    rfl

/-! ### Declarations -/

theorem begins_declaration {p : Parameter} (h : Begins p.name) : Begins (declaration p) := by
  unfold declaration
  cases p.isProperty with
  | false => simpa using ((h.append ": ").append p.type).append _
  | true =>
    have keyword : Begins "val " := ⟨'v', _, rfl, by decide⟩
    exact (((keyword.append p.name).append ": ").append p.type).append _

theorem codeFrom_parametersLines {ps : List Parameter} (h : ∀ p ∈ ps, Begins p.name)
    (rest : List String) : codeFrom false (parametersLines ps ++ rest) =
      parametersLines (ps.map Parameter.bare) ++ codeFrom false rest := by
  induction ps with
  | nil => rfl
  | cons p ps ih =>
    have first := begins_declaration (h p List.mem_cons_self)
    have others := ih fun q hq => h q (List.mem_cons_of_mem _ hq)
    have line : ∀ l ∈ [indent ++ declaration p ++ if ps.isEmpty then "" else ","], IsCode l := by
      intro l hl
      rw [List.mem_singleton.mp hl, String.append_assoc]
      exact (first.append _).isCode indents_indent
    have bare : parametersLines ((p :: ps).map Parameter.bare) =
        [indent ++ declaration p ++ if ps.isEmpty then "" else ","] ++
          parametersLines (ps.map Parameter.bare) := by
      cases ps <;> rfl
    rw [parametersLines, parameterLines, bare]
    simp only [List.append_assoc]
    rw [codeFrom_block indents_indent, codeFrom_deprecationLines indents_indent,
      codeFrom_code line, others]

theorem codeFrom_headLines {d : ClassDeclaration} (h : ∀ p ∈ d.parameters, Begins p.name)
    (rest : List String) :
    codeFrom false (headLines d ++ rest) = headLines d.bare ++ codeFrom false rest := by
  have head : Begins ((if d.abstract then "abstract" else "open") ++ " class " ++ d.name) := by
    have keyword : Begins (if d.abstract then "abstract" else "open") := by
      cases d.abstract with
      | false => exact ⟨'o', _, rfl, by decide⟩
      | true => exact ⟨'a', _, rfl, by decide⟩
    exact (keyword.append _).append _
  have closed {line : String} (h : Begins line) (supertypes : List String) :
      ∀ l ∈ [closeHead line supertypes], IsCode l := by
    intro l hl
    rw [List.mem_singleton.mp hl, closeHead]
    split
    · exact h.isCode_line
    · exact ((h.append _).append _).isCode_line
  have opened : ∀ l ∈ [(if d.abstract then "abstract" else "open") ++ " class " ++ d.name ++ "("],
      IsCode l := by
    intro l hl
    rw [List.mem_singleton.mp hl]
    exact (head.append "(").isCode_line
  have bracket : Begins ")" := ⟨')', _, rfl, by decide⟩
  have bare : headLines d.bare = if d.parameters.isEmpty
      then [closeHead ((if d.abstract then "abstract" else "open") ++ " class " ++ d.name)
        (supertypes d)]
      else [(if d.abstract then "abstract" else "open") ++ " class " ++ d.name ++ "("] ++
        parametersLines (d.parameters.map Parameter.bare) ++ [closeHead ")" (supertypes d)] := by
    cases none : d.parameters <;> simp [headLines, ClassDeclaration.bare, none, supertypes]
  rw [bare, headLines]
  split
  · exact codeFrom_code (closed head _) rest
  · simp only [List.append_assoc]
    rw [codeFrom_code opened, codeFrom_parametersLines h, codeFrom_code (closed bracket _)]

theorem codeFrom_classLines {d : ClassDeclaration} (h : ∀ p ∈ d.parameters, Begins p.name)
    (rest : List String) :
    codeFrom false (classLines d ++ rest) = classLines d.bare ++ codeFrom false rest := by
  have blank : IsCode "" := ⟨rfl, rfl⟩
  have package : ∀ l ∈ packageLines d.package, IsCode l := by
    have keyword : Begins "package " := ⟨'p', _, rfl, by decide⟩
    simpa [packageLines, blank] using (keyword.append d.package).isCode_line
  have imports : ∀ l ∈ importLines d.imports, IsCode l := by
    have keyword : Begins "import " := ⟨'i', _, rfl, by decide⟩
    unfold importLines
    split
    · simp
    · intro l hl
      rcases List.mem_append.mp hl with hl | hl
      · obtain ⟨name, -, rfl⟩ := List.mem_map.mp hl
        exact (keyword.append name).isCode_line
      · exact List.mem_singleton.mp hl ▸ blank
  have bare : classLines d.bare =
      packageLines d.package ++ (importLines d.imports ++ headLines d.bare) := by
    simp [classLines, ClassDeclaration.bare, Comment.block, deprecationLines]
  rw [bare, classLines]
  simp only [List.append_assoc]
  rw [codeFrom_code package, codeFrom_code imports, codeFrom_block indents_empty,
    codeFrom_deprecationLines indents_empty, codeFrom_headLines h]

end Source

/-! ### Lines without line feeds -/

open Text (OneLine)

/-- A parameter without line feeds, its documentation apart. -/
structure Parameter.Unbroken (p : Parameter) : Prop where
  name : OneLine p.name
  type : OneLine p.type
  default : ∀ value ∈ p.default, OneLine value
  deprecation : ∀ message ∈ p.deprecation, OneLine message

/-- A declaration without line feeds, its documentation apart. -/
structure ClassDeclaration.Unbroken (d : ClassDeclaration) : Prop where
  package : OneLine d.package
  name : OneLine d.name
  parameters : ∀ p ∈ d.parameters, p.Unbroken
  superclass : ∀ s ∈ d.superclass, OneLine s
  arguments : ∀ a ∈ d.superclassArguments, OneLine a
  interfaces : ∀ i ∈ d.interfaces, OneLine i
  imports : ∀ i ∈ d.imports, OneLine i
  deprecation : ∀ message ∈ d.deprecation, OneLine message

namespace Source

theorem oneLine_block {i : String} (hi : OneLine i) (text : Option String) :
    ∀ line ∈ Comment.block i text, OneLine line := by
  have body {l : List Char} (hl : '\n' ∉ l) : OneLine (if (Text.trimEnd l).isEmpty then i ++ " *"
      else i ++ " * " ++ String.ofList (Text.trimEnd l)) := by
    have trimmed : '\n' ∉ Text.trimEnd l := fun h => hl ((Text.trimEnd_prefix l).subset h)
    have star : OneLine " *" := by decide
    have gap : OneLine " * " := by decide
    split
    · exact Text.oneLine_append.mpr ⟨hi, star⟩
    · simp only [Text.oneLine_append, hi, gap, and_self, true_and]
      simpa [OneLine] using trimmed
  unfold Comment.block
  cases text with
  | none => simp
  | some text =>
    dsimp only
    split
    · simp
    · intro line hl
      simp only [List.mem_append, List.mem_singleton] at hl
      have opening : OneLine "/**" := by decide
      have closing : OneLine " */" := by decide
      rcases hl with (rfl | hl) | rfl
      · exact Text.oneLine_append.mpr ⟨hi, opening⟩
      · obtain ⟨l, found, rfl⟩ := List.mem_map.mp hl
        exact body fun h => absurd (Text.isLineBreak_of_mem_lines found h) (by decide)
      · exact Text.oneLine_append.mpr ⟨hi, closing⟩

theorem oneLine_deprecationLines {i : String} (hi : OneLine i) {message : Option String}
    (h : ∀ m ∈ message, OneLine m) : ∀ line ∈ deprecationLines i message, OneLine line := by
  cases message with
  | none => simp [deprecationLines]
  | some message =>
    have opening : OneLine "@Deprecated(\"" := by decide
    have closing : OneLine "\")" := by decide
    simpa [deprecationLines, hi, opening, closing] using h

theorem oneLine_declaration {p : Parameter} (h : p.Unbroken) : OneLine (declaration p) := by
  have keyword : OneLine (if p.isProperty then "val " else "") := by
    cases p.isProperty <;> decide
  have colon : OneLine ": " := by decide
  have equals : OneLine " = " := by decide
  simp only [declaration, Text.oneLine_append]
  refine ⟨⟨⟨⟨keyword, h.name⟩, colon⟩, h.type⟩, ?_⟩
  cases given : p.default with
  | none => decide
  | some value => exact Text.oneLine_append.mpr ⟨equals, h.default value given⟩

theorem oneLine_parametersLines {ps : List Parameter} (h : ∀ p ∈ ps, p.Unbroken) :
    ∀ line ∈ parametersLines ps, OneLine line := by
  have margin : OneLine indent := by decide
  induction ps with
  | nil => simp [parametersLines]
  | cons p ps ih =>
    have first := h p List.mem_cons_self
    have comma : OneLine (if ps.isEmpty then "" else ",") := by
      cases ps.isEmpty <;> decide
    intro line hl
    simp only [parametersLines, parameterLines, List.mem_append, List.mem_singleton] at hl
    rcases hl with ((hl | hl) | rfl) | hl
    · exact oneLine_block margin _ line hl
    · exact oneLine_deprecationLines margin first.deprecation line hl
    · simp only [Text.oneLine_append]
      exact ⟨⟨margin, oneLine_declaration first⟩, comma⟩
    · exact ih (fun q hq => h q (List.mem_cons_of_mem _ hq)) line hl

theorem oneLine_headLines {d : ClassDeclaration} (h : d.Unbroken) :
    ∀ line ∈ headLines d, OneLine line := by
  have separator : OneLine ", " := by decide
  have supertypes : ∀ s ∈ supertypes d, OneLine s := by
    intro s hs
    rcases List.mem_append.mp hs with hs | hs
    · cases above : d.superclass with
      | none => simp [above] at hs
      | some superclass =>
        obtain rfl : s = _ := by simpa [above] using hs
        have arguments : OneLine
            (", ".intercalate (d.superclassArguments.map fun a => a ++ " = " ++ a)) := by
          have equals : OneLine " = " := by decide
          apply Text.oneLine_intercalate separator
          intro t ht
          obtain ⟨a, ha, rfl⟩ := List.mem_map.mp ht
          simp [h.arguments a ha, equals]
        have opening : OneLine "(" := by decide
        have closing : OneLine ")" := by decide
        simp [h.superclass superclass above, arguments, opening, closing]
    · exact h.interfaces s hs
  have closed {line : String} (hl : OneLine line) :
      OneLine (closeHead line (Source.supertypes d)) := by
    have colon : OneLine " : " := by decide
    rw [closeHead]
    split
    · exact hl
    · simp [hl, colon, Text.oneLine_intercalate separator supertypes]
  have keyword : OneLine (if d.abstract then "abstract" else "open") := by
    cases d.abstract <;> decide
  have word : OneLine " class " := by decide
  have opening : OneLine "(" := by decide
  have closing : OneLine ")" := by decide
  intro line hl
  unfold headLines at hl
  dsimp only at hl
  split at hl
  · rw [List.mem_singleton.mp hl]
    exact closed (by simp [keyword, word, h.name])
  · simp only [List.mem_append, List.mem_singleton] at hl
    rcases hl with (rfl | hl) | rfl
    · simp [keyword, word, h.name, opening]
    · exact oneLine_parametersLines h.parameters line hl
    · exact closed closing

theorem oneLine_classLines {d : ClassDeclaration} (h : d.Unbroken) :
    ∀ line ∈ classLines d, OneLine line := by
  have empty : OneLine "" := by decide
  have package : OneLine "package " := by decide
  have imports : ∀ line ∈ importLines d.imports, OneLine line := by
    have keyword : OneLine "import " := by decide
    unfold importLines
    split
    · simp
    · intro line hl
      rcases List.mem_append.mp hl with hl | hl
      · obtain ⟨name, hn, rfl⟩ := List.mem_map.mp hl
        have name := h.imports name (mem_distinctSorted.mp hn)
        exact Text.oneLine_append.mpr ⟨keyword, name⟩
      · exact List.mem_singleton.mp hl ▸ empty
  intro line hl
  simp only [classLines, List.mem_append] at hl
  rcases hl with (((hl | hl) | hl) | hl) | hl
  · rcases List.mem_cons.mp hl with rfl | hl
    · exact Text.oneLine_append.mpr ⟨package, h.package⟩
    · exact List.mem_singleton.mp hl ▸ empty
  · exact imports line hl
  · exact oneLine_block empty _ line hl
  · exact oneLine_deprecationLines empty h.deprecation line hl
  · exact oneLine_headLines h line hl

/-! ### Files -/

theorem splitAt_text {lines : List String} (any : lines ≠ []) (h : ∀ line ∈ lines, OneLine line) :
    Text.splitAt '\n' (text lines) = lines ++ [""] := by
  have whole : text lines = (String.singleton '\n').intercalate (lines ++ [""]) := by
    rw [String.intercalate_append_of_ne_nil any (by simp), String.intercalate_singleton,
      String.append_empty]
    rfl
  rw [whole, Text.splitAt_intercalate (by simp)]
  intro line hl
  rcases List.mem_append.mp hl with hl | hl
  · exact h line hl
  · rw [List.mem_singleton.mp hl]
    simp

theorem classLines_ne_nil (d : ClassDeclaration) : classLines d ≠ [] := by
  simp [classLines, packageLines]

theorem code_text {d : ClassDeclaration} (h : d.Unbroken)
    (names : ∀ p ∈ d.parameters, Begins p.name) :
    code (text (classLines d)) = Text.splitAt '\n' (text (classLines d.bare)) := by
  have bare : d.bare.Unbroken := { h with
    parameters := by
      intro p hp
      obtain ⟨q, hq, rfl⟩ := List.mem_map.mp hp
      exact { h.parameters q hq with deprecation := by simp [Parameter.bare] }
    deprecation := by simp [ClassDeclaration.bare] }
  have blank : codeFrom false [""] = [""] := rfl
  rw [code, splitAt_text (classLines_ne_nil d) (oneLine_classLines h), codeFrom_classLines names,
    splitAt_text (classLines_ne_nil d.bare) (oneLine_classLines bare), blank]

end Source

end UmlKotlin.Kotlin
