import UmlKotlin.Data.Display
import UmlKotlin.Text.Lowercase
import UmlKotlin.Text.Blank

/-!
Target profiles: the types and reserved words of the language that is generated. A profile is built
by merging settings over settings; later ones decide, entry by entry. Settings come from files, so a
value may turn out to be no text; it is kept as it is and complained about where a text is needed.
-/

set_option autoImplicit false

namespace UmlKotlin

open Data (Value Scalar)

namespace Profile

inductive ShapeError
  /-- Something other than a record stands where entries are looked up, or something other than a
  text as the name of a type. -/
  | noEntries
  /-- Something that is no list stands where items are listed, or an item cannot be told apart from
  others, or a text is needed. -/
  | noItems
  deriving DecidableEq, Repr

/-- A collection type and the expression for an empty collection. -/
structure Collection where
  type : Value
  empty : Value

end Profile

/-- A target profile. Names of primitive types are kept trimmed and in lower case. -/
structure Profile where
  name : Value := .text "kotlin"
  fileExtension : Value := .text ".kt"
  defaultType : Value := .text "String"
  primitives : Table String Value := ∅
  collections : Table Scalar Profile.Collection := ∅
  reservedWords : List Scalar := []

namespace Profile

def normalize (name : String) : String := Text.toLower (Text.trim name)

def entriesOf (settings : Value) (name : String) : Except ShapeError (List (Scalar × Value)) :=
  match settings.field? name with
  | none => .ok []
  | some (.record entries) => .ok entries
  | some _ => .error .noEntries

def addPrimitive (types : Table String Value) (e : Scalar × Value) :
    Except ShapeError (Table String Value) :=
  match e.1 with
  | .text name => .ok (types.insert (normalize name) e.2)
  | _ => .error .noEntries

/-- One kind of collection replaced as a whole: what its entry leaves out has a fixed default. -/
def addCollection (kinds : Table Scalar Collection) (e : Scalar × Value) :
    Except ShapeError (Table Scalar Collection) :=
  match e.2 with
  | .record entries =>
    let props := Value.record entries
    let kind := (kinds.keys.find? e.1.same).getD e.1
    .ok (kinds.insert kind {
      type := (props.field? "type").getD (.text "List")
      empty := (props.field? "empty").getD (.text "emptyList()") })
  | _ => .error .noEntries

/-- The words that settings reserve: the members of a value, which have to be scalars. -/
def wordsOf (words : Value) : Except ShapeError (List Scalar) :=
  match words.members? with
  | none => .error .noItems
  | some members => members.mapM fun
    | .scalar s => .ok s
    | _ => .error .noItems

/-- Words put into a set of words; of words that are one key the first is kept. -/
def addWords (known : List Scalar) (words : List Scalar) : List Scalar :=
  words.foldl (fun known w => if known.any w.same then known else known ++ [w]) known

def merge (p : Profile) (settings : Value) : Except ShapeError Profile := do
  match settings with
  | .record _ => pure ()
  | _ => .error .noEntries
  let primitives ← (← entriesOf settings "primitives").foldlM addPrimitive p.primitives
  let collections ← (← entriesOf settings "collections").foldlM addCollection p.collections
  let words ← match settings.field? "reserved_words" with
    | some words => wordsOf words
    | none => .ok []
  pure {
    name := (settings.field? "name").getD p.name
    fileExtension := (settings.field? "file_extension").getD p.fileExtension
    defaultType := (settings.field? "default_type").getD p.defaultType
    primitives := primitives
    collections := collections
    reservedWords := addWords p.reservedWords words }

def mergeAll (p : Profile) (settings : List Value) : Except ShapeError Profile :=
  settings.foldlM merge p

def primitive (p : Profile) (raw : Option String) : Value :=
  match raw with
  | some raw => (p.primitives.get? (normalize raw)).getD p.defaultType
  | none => p.defaultType

/-- The name of the kind of collection that is ordered or not. -/
def kindOf (ordered : Bool) : String := if ordered then "ordered" else "unique"

def collection? (p : Profile) (ordered : Bool) : Option Collection :=
  p.collections.get? (.text (kindOf ordered))

def reserved (p : Profile) : List String :=
  p.reservedWords.filterMap fun
    | .text s => some s
    | _ => none

def isReserved (p : Profile) (word : Scalar) : Bool := p.reservedWords.any word.same

end Profile

end UmlKotlin
