import UmlKotlin.Text.Blank
import UmlKotlin.Text.Lines

/-!
Documentation comments. Inside a comment no delimiter of comments occurs: in each one a character
is written as a character entity.
-/

set_option autoImplicit false

namespace UmlKotlin.Kotlin.Comment

def breakClosers : List Char → List Char
  | '*' :: '/' :: cs => "*&#47;".toList ++ breakClosers cs
  | c :: cs => c :: breakClosers cs
  | [] => []

def breakOpeners : List Char → List Char
  | '/' :: '*' :: cs => "&#47;*".toList ++ breakOpeners cs
  | c :: cs => c :: breakOpeners cs
  | [] => []

/-- Characters in which a comment is neither closed nor opened. -/
def escapeChars (cs : List Char) : List Char := breakOpeners (breakClosers cs)

def escape (s : String) : String := String.ofList (escapeChars s.toList)

/-- The lines of a documentation comment: one for each line of the trimmed text, between an opening
and a closing line. A blank text has no comment. -/
def block (indent : String) (text : Option String) : List String :=
  match text with
  | none => []
  | some text =>
    if Text.isBlank text then []
    else
      let body := (Text.lines (escapeChars (Text.trimChars text.toList))).map fun line =>
        let line := Text.trimEnd line
        if line.isEmpty then indent ++ " *" else indent ++ " * " ++ String.ofList line
      [indent ++ "/**"] ++ body ++ [indent ++ " */"]

end UmlKotlin.Kotlin.Comment
