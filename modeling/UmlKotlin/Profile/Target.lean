import UmlKotlin.Profile.Basic

/-!
What the generator takes from a profile: type names, defaults and reserved words. Nearly all of it
has to be text; what is not is complained about here, or when a class needs it.
-/

set_option autoImplicit false

namespace UmlKotlin.Profile

open Data (Value Scalar)

/-- A collection type; without a text for the empty collection there is no default value. -/
structure CollectionType where
  type : Scalar
  empty : Option String
  deriving DecidableEq, Repr

/-- The texts of a profile. A type without a name cannot be used, and a profile whose file extension
is no text has none to name files by. -/
structure Target where
  name : String
  extension? : Option String
  defaultType : Option String
  primitives : Table String (Option String)
  collections : Table Scalar CollectionType
  reserved : List String

/-- The name of a type. A list that has a point as an item and a record that has it as a key pass for
a type outside of all packages, which has no name; nothing else passes. -/
def typeNameOf : Value → Except ShapeError (Option String)
  | .scalar (.text s) => .ok (some s)
  | .scalar _ => .error .noItems
  | .list items =>
    let isPoint : Value → Bool
      | .scalar s => s = .text "."
      | _ => false
    if items.any isPoint then .ok none else .error .noItems
  | .record entries =>
    if entries.any fun e => e.1 = .text "." then .ok none else .error .noItems

namespace CollectionType

/-- A collection type from its entry. The type may be any scalar; an absent empty collection is
none. -/
def ofCollection (c : Collection) : Except ShapeError CollectionType :=
  match c.type with
  | .scalar type => .ok {
      type := type
      empty := match c.empty with
        | .scalar .null => none
        | empty => some empty.display }
  | _ => .error .noItems

def name? (c : CollectionType) : Option String :=
  match c.type with
  | .text name => some name
  | _ => none

end CollectionType

namespace Target

def mapValues {κ α β : Type} [DecidableEq κ] (f : α → Except ShapeError β) (t : Table κ α) :
    Except ShapeError (Table κ β) := do
  let entries ← t.entries.mapM fun e => do pure (e.1, ← f e.2)
  pure (Table.ofList entries)

def ofProfile (p : Profile) : Except ShapeError Target := do
  let primitives ← mapValues typeNameOf p.primitives
  let defaultType ← typeNameOf p.defaultType
  let collections ← mapValues CollectionType.ofCollection p.collections
  pure {
    name := p.name.display
    extension? := match p.fileExtension with
      | .scalar (.text s) => some s
      | _ => none
    defaultType := defaultType
    primitives := primitives
    collections := collections
    reserved := p.reserved }

def primitive (t : Target) (raw : Option String) : Option String :=
  match raw with
  | some raw => (t.primitives.get? (normalize raw)).getD t.defaultType
  | none => t.defaultType

def collection? (t : Target) (ordered : Bool) : Option CollectionType :=
  t.collections.get? (.text (Profile.kindOf ordered))

def simplePackage : String := "kotlin"

def collectionPackage : String := "kotlin.collections"

/-- The packages of the built-in types: those that the profile names without a package, and the
collection types. -/
def builtins (t : Target) : Table String String :=
  let simple := ((t.primitives.values ++ [t.defaultType]).filterMap id).filter fun name =>
    !name.toList.contains '.'
  Table.ofList (simple.map (·, simplePackage) ++
    (t.collections.values.filterMap CollectionType.name?).map (·, collectionPackage))

def unnamedCollections (t : Target) : List Scalar :=
  addWords [] ((t.collections.values.filter fun c => c.name?.isNone).map (·.type))

/-- The text of a collection type that is no text: as it shows, in full if another form of it shows
otherwise. -/
def unnamedText (t : Target) (type : Scalar) : String :=
  match t.unnamedCollections.find? type.same with
  | some first =>
    if first.display = type.display then type.display
    else collectionPackage ++ "." ++ type.display
  | none => type.display

end Target

end UmlKotlin.Profile
