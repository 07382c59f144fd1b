import UmlKotlin.Text.Lines
import UmlKotlin.Text.Blank

/-!
Identifiers made from free text: names of classes, properties and packages. Letters of the
Nordic alphabets and a few accented ones are spelled in ASCII, every other run of characters that
are neither ASCII letters nor digits separates words.
-/

set_option autoImplicit false

namespace UmlKotlin.Kotlin

def spellings : List (Char × String) :=
  [('æ', "ae"), ('Æ', "Ae"), ('ø', "o"), ('Ø', "O"), ('å', "a"), ('Å', "A"), ('é', "e"),
    ('É', "E"), ('è', "e"), ('È', "E"), ('ü', "u"), ('Ü', "U"), ('ö', "o"), ('Ö', "O"),
    ('ä', "a"), ('Ä', "A")]

def spell (c : Char) : List Char :=
  match spellings.lookup c with
  | some s => s.toList
  | none => [c]

/-- A text with its letters spelled in ASCII where they have such a spelling. -/
def transliterate (s : String) : String := String.ofList (s.toList.flatMap spell)

/-- The words of a text: the maximal runs of ASCII letters and digits. -/
def words (s : String) : List (List Char) :=
  Text.runs (fun c => !c.isAlphanum) (s.toList.flatMap spell)

def lowerWord (w : List Char) : List Char := w.map Char.toLower

/-- A word with its first letter in upper case and the others in lower case. -/
def capitalize (w : List Char) : List Char :=
  match lowerWord w with
  | [] => []
  | c :: cs => c.toUpper :: cs

/-- A name that would begin with a digit gets a letter or an underscore in front. -/
def guardDigit (guard : Char) (cs : List Char) : List Char :=
  match cs with
  | [] => []
  | c :: _ => if c.isDigit then guard :: cs else cs

def plainClassName (name : Option String) : String :=
  let base := (words (name.getD "")).flatMap capitalize
  String.ofList (guardDigit 'C' (if base.isEmpty then "Unnamed".toList else base))

/-- The name of a class: its words, each capitalized. A reserved word gets a suffix. -/
def className (reserved : List String) (name : Option String) : String :=
  let safe := plainClassName name
  if reserved.contains safe then safe ++ "Type" else safe

def plainPropertyName (name : Option String) : String :=
  let base := match words (name.getD "") with
    | [] => "unnamed".toList
    | w :: ws => lowerWord w ++ ws.flatMap capitalize
  String.ofList (guardDigit '_' base)

/-- The name of a property: its words, all but the first capitalized. A reserved word is quoted. -/
def propertyName (reserved : List String) (name : Option String) : String :=
  let safe := plainPropertyName name
  if reserved.contains safe then "`" ++ safe ++ "`" else safe

/-- The words of a text in lower case, joined by underscores, before reserved words are looked at. -/
def plainPackageSegment (name : String) : List Char :=
  guardDigit 'p' ((['_'] : List Char).intercalate ((words name).map lowerWord))

/-- One segment of a package name. A reserved word gets a suffix; a text without words has a fixed
segment, reserved or not. -/
def packageSegment (reserved : List String) (name : String) : String :=
  let safe := String.ofList (plainPackageSegment name)
  if safe = "" then "model"
  else if reserved.contains safe then safe ++ "_pkg" else safe

def packageName (reserved : List String) (root : String) (path : List String) : String :=
  ".".intercalate (root :: path.map (packageSegment reserved))

end UmlKotlin.Kotlin
