import UmlKotlin.Text.Blank

/-!
The inside of string literals. Backslash, quotation mark, dollar sign, line feed and carriage
return are written with a backslash; main statement: what is escaped reads back
(`unescape_escape`).
-/

set_option autoImplicit false

namespace UmlKotlin.Kotlin.Literal

def escapeChar (c : Char) : List Char :=
  if c = '\\' then ['\\', '\\']
  else if c = '"' then ['\\', '"']
  else if c = '\n' then ['\\', 'n']
  else if c = '\r' then ['\\', 'r']
  else if c = '$' then ['\\', '$']
  else [c]

def escapeChars (cs : List Char) : List Char := cs.flatMap escapeChar

def escape (s : String) : String := String.ofList (escapeChars s.toList)

/-- The text that the inside of a string literal stands for: a backslash is followed by one of five
characters, and a quotation mark or dollar sign never stands alone. -/
def unescape : List Char → Option (List Char)
  | [] => some []
  | '\\' :: c :: cs =>
    if c = '\\' || c = '"' || c = '$' then (unescape cs).map (c :: ·)
    else if c = 'n' then (unescape cs).map ('\n' :: ·)
    else if c = 'r' then (unescape cs).map ('\r' :: ·)
    else none
  | c :: cs =>
    if c = '\\' || c = '"' || c = '$' || c = '\n' || c = '\r' then none
    else (unescape cs).map (c :: ·)

theorem unescape_escape (cs : List Char) : unescape (escapeChars cs) = some cs := by
  induction cs with
  | nil => rfl
  | cons c cs ih =>
    rw [escapeChars, List.flatMap_cons, escapeChar]
    rw [escapeChars] at ih
    split
    · subst_vars; simp [unescape, ih]
    split
    · subst_vars; simp [unescape, ih]
    split
    · subst_vars; simp [unescape, ih]
    split
    · subst_vars; simp [unescape, ih]
    split
    · subst_vars; simp [unescape, ih]
    · simp_all [unescape]

def defaultDeprecation : String := "Deprecated"

def dropPeriod (cs : List Char) : List Char :=
  if cs.getLast? = some '.' then cs.dropLast else cs

/-- The message of a deprecation before it is escaped: trimmed, without one final period. -/
def deprecationText (message : Option String) : List Char :=
  let text := Text.trimChars (message.getD "").toList
  dropPeriod (if text.isEmpty then defaultDeprecation.toList else text)

def deprecationMessage (message : Option String) : String :=
  String.ofList (escapeChars (deprecationText message))

end UmlKotlin.Kotlin.Literal
