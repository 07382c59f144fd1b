import UmlKotlin.Text.Blank

/-!
Texts made of paragraphs, and values that the first writer with something to say decides.
-/

set_option autoImplicit false

namespace UmlKotlin.Text

def paragraphBreak : String := "\n\n"

/-- A further paragraph put behind a text. A blank paragraph adds nothing, and a blank text
gives way to the paragraph. -/
def addParagraph (text paragraph : Option String) : Option String :=
  if blank paragraph then text
  else if blank text then paragraph
  else some (text.getD "" ++ paragraphBreak ++ paragraph.getD "")

/-- The paragraphs that are not blank, joined in their order. -/
def joinParagraphs (paragraphs : List (Option String)) : Option String :=
  paragraphs.foldl addParagraph none

def firstNonBlank (current offered : Option String) : Option String :=
  if blank offered then current else if blank current then offered else current

theorem addParagraph_of_blank {text paragraph : Option String} (h : blank paragraph = true) :
    addParagraph text paragraph = text := by
  simp [addParagraph, h]

end UmlKotlin.Text
