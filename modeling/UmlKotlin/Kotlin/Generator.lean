import UmlKotlin.Kotlin.Identifier
import UmlKotlin.Kotlin.Literal
import UmlKotlin.Kotlin.SourceFile
import UmlKotlin.Profile.Target
import UmlKotlin.Uml.Hierarchy
import UmlKotlin.Workspace.Path

/-!
Generation of domain classes. Every class of a model becomes one source file: the constructor takes
the properties of all ancestors and hands them on, and then declares the class's own properties.
-/

set_option autoImplicit false

namespace UmlKotlin.Kotlin

open Uml (Model Property InheritanceCycle)
open Profile (Target CollectionType)

/-- The marker interfaces of domain classes, and the stereotype of root entities. A marker without a
name cannot be referred to, and without a stereotype no class is a root entity. -/
structure Markers where
  package : String := "no.fint.model"
  rootEntity : Option String := some "FintModelObject"
  complexDatatype : Option String := some "FintComplexDatatypeObject"
  rootEntityStereotype : Option String := some "hovedklasse"
  deriving DecidableEq, Repr

inductive PlanError
  /-- Its superclasses run in a circle. -/
  | cycle (cycle : InheritanceCycle)
  /-- The profile has no collection of the kind that is needed. -/
  | noCollection (profile kind : String)
  /-- A link leads to a class that the model no longer has. -/
  | unlisted (id : String)
  /-- The profile's file extension is no text. -/
  | noExtension
  /-- The profile gives no name to a type, or a marker has none. -/
  | noName
  deriving DecidableEq, Repr

def PlanError.message : PlanError → String
  | .cycle c => c.message
  | .noCollection profile kind =>
    "Target profile '" ++ profile ++ "' defines no '" ++ kind ++ "' collection"
  | .unlisted id => "unknown class " ++ id
  | .noExtension => "the file extension is no text"
  | .noName => "a type has no name"

structure Generator where
  model : Model
  root : String
  target : Target
  markers : Markers := {}

/-- Planning one file: the scope of its type references is carried along. -/
abbrev Planning (α : Type) := StateT ImportScope (Except PlanError) α

def refer (package name : String) : Planning String := fun scope =>
  .ok (scope.reference package name)

namespace Generator

/-- The class that gives a class its names: the one that bears its identifier. -/
def namesake (g : Generator) (c : Uml.Class) : Uml.Class := (g.model.bearer? c.id).getD c

def classNameOf (g : Generator) (c : Uml.Class) : String :=
  className g.target.reserved (some (g.namesake c).name)

def packageOf (g : Generator) (c : Uml.Class) : String :=
  packageName g.target.reserved g.root (g.namesake c).packagePath

def isComplexDatatype (g : Generator) (c : Uml.Class) : Bool :=
  match g.markers.rootEntityStereotype with
  | some stereotype => c.isComplexDatatype stereotype
  | none => !c.abstract

def listed (g : Generator) (key : String) : Except PlanError Uml.Class :=
  match (g.model.linkedClass? key).filter fun c => (g.model.bearer? c.id).isSome with
  | some c => .ok c
  | none => .error (.unlisted key)

def referToClass (g : Generator) (key : String) : Planning String := do
  let c ← g.listed key
  refer (g.packageOf c) (g.classNameOf c)

/-- The text by which a file refers to a type of the profile: built-in types take part in the
binding of simple names, others are written as they are. -/
def referToBuiltin (g : Generator) (name : String) : Planning String :=
  match g.target.builtins.get? name with
  | some package => if package = "" then pure name else refer package name
  | none => pure name

def referToPrimitive (g : Generator) (raw : Option String) : Planning String :=
  match g.target.primitive raw with
  | some name => g.referToBuiltin name
  | none => throw .noName

def referToCollection (g : Generator) (c : CollectionType) : Planning String :=
  match c.name? with
  | some name => g.referToBuiltin name
  | none => pure (g.target.unnamedText c.type)

/-- The collection of properties with many values; it is ordered in value types. -/
def collectionFor (g : Generator) (owner : Uml.Class) : Except PlanError CollectionType :=
  let ordered := g.isComplexDatatype owner
  match g.target.collection? ordered with
  | some c => .ok c
  | none => .error (.noCollection g.target.name (Profile.kindOf ordered))

/-- The type of a property and the default value of its parameter: many values are a collection, a
value that is not required may be missing. -/
def fieldType (g : Generator) (p : Property) (owner : Uml.Class) :
    Planning (String × Option String) := do
  let base ← match p.links.type with
    | some id => g.referToClass id
    | none => g.referToPrimitive p.links.primitiveType
  if p.isMany then
    let collection ← g.collectionFor owner
    let type ← g.referToCollection collection
    pure (type ++ "<" ++ base ++ ">", collection.empty)
  else if p.isRequired then pure (base, none)
  else pure (base ++ "?", some "null")

def inheritedParameter (g : Generator) (owner : Uml.Class) (p : Property) : Planning Parameter := do
  let (type, default) ← g.fieldType p owner
  pure { name := propertyName g.target.reserved p.name, type, default, isProperty := false }

def deprecationOf (deprecated : Bool) (message : Option String) : Option String :=
  if deprecated then some (Literal.deprecationMessage message) else none

def ownParameter (g : Generator) (owner : Uml.Class) (p : Property) : Planning Parameter := do
  let (type, default) ← g.fieldType p owner
  pure {
    name := propertyName g.target.reserved p.name
    type, default
    documentation := p.fullDocumentation
    deprecation := deprecationOf p.deprecated p.deprecationMessage }

def ancestors (g : Generator) (id : String) (c : Uml.Class) : Except PlanError (List Uml.Class) :=
  match g.model.ancestors id c with
  | .ok above => .ok above
  | .error cycle => .error (.cycle cycle)

def inheritedParameters (g : Generator) (above : List Uml.Class) : Planning (List Parameter) := do
  let groups ← above.mapM fun a => (g.model.sortedProperties a).mapM (g.inheritedParameter a)
  pure groups.flatten

def referToMarker (g : Generator) (name : Option String) : Planning String :=
  match name with
  | some name => refer g.markers.package name
  | none => throw .noName

/-- The interfaces of a class: the marker of root entities where there is no superclass, and the
marker of value types. -/
def interfaces (g : Generator) (c : Uml.Class) : Planning (List String) := do
  let roots ← if c.superclass.isSome then pure []
    else do pure [← g.referToMarker g.markers.rootEntity]
  let values ← if g.isComplexDatatype c then
      do pure [← g.referToMarker g.markers.complexDatatype]
    else pure []
  pure (roots ++ values)

def declare (g : Generator) (id : String) (c : Uml.Class) : Planning ClassDeclaration := do
  let above ← g.ancestors id c
  let inherited ← g.inheritedParameters above
  let own ← (g.model.sortedProperties c).mapM (g.ownParameter c)
  let superclass ← match c.superclass with
    | some id => some <$> g.referToClass id
    | none => pure none
  let interfaces ← g.interfaces c
  pure {
    package := g.packageOf c
    name := g.classNameOf c
    abstract := c.abstract
    parameters := inherited ++ own
    superclass
    superclassArguments := inherited.map (·.name)
    interfaces
    documentation := c.documentation
    deprecation := deprecationOf c.deprecated c.deprecationMessage }

/-- The declaration of the class `c` listed under `id`, with the imports of its file. -/
def plan (g : Generator) (id : String) (c : Uml.Class) : Except PlanError ClassDeclaration := do
  let scope := ImportScope.opening (g.packageOf c) (g.classNameOf c) g.target.builtins
  let (declaration, scope) ← (g.declare id c).run scope
  pure { declaration with imports := scope.imports }

def render (g : Generator) (id : String) (c : Uml.Class) : Except PlanError String := do
  pure (Source.text (Source.classLines (← g.plan id c)))

/-- The path of the source file of a class: one directory for each segment of the package. -/
def sourcePath (g : Generator) (output : String) (c : Uml.Class) : Except PlanError String :=
  match g.target.extension? with
  | none => .error .noExtension
  | some extension =>
    let directory := Workspace.Path.joinAll output (Text.splitAt '.' (g.packageOf c))
    .ok (Workspace.Path.join directory (g.classNameOf c ++ extension))

end Generator

structure GeneratedFile where
  path : String
  content : String
  deriving DecidableEq, Repr

namespace Generator

def file (g : Generator) (output : String) (id : String) (c : Uml.Class) :
    Except PlanError GeneratedFile := do
  let path ← g.sourcePath output c
  pure ⟨path, ← g.render id c⟩

def upToError {α ε : Type} : List (Except ε α) → List α × Option ε
  | [] => ([], none)
  | .ok a :: rest => let r := upToError rest; (a :: r.1, r.2)
  | .error e :: _ => ([], some e)

/-- The files of all classes by name, up to the first class that has none. -/
def files (g : Generator) (output : String) : List GeneratedFile × Option PlanError :=
  upToError (g.model.sortedClasses.map fun c => g.file output c.1 c.2)

end Generator

end UmlKotlin.Kotlin
