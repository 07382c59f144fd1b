import UmlKotlin.CommandLine.Generate

/-!
The command that summarizes an exported model: how much it holds and its classes, or one class with
its properties.
-/

set_option autoImplicit false

namespace UmlKotlin.CommandLine

open Uml (Model Property)
open Workspace (Tree)

namespace Summarize

def grammar : Grammar where
  program := "summarize_xmi.py"
  options := [⟨["--encoding"], .value⟩, ⟨["--class"], .value⟩]
  operand := some "xmi_path"

def classLine (c : Uml.Class) : String :=
  c.id ++ "  " ++ ".".intercalate c.packagePath ++ "  " ++ c.name

/-- The name of a property's type: its class, else its primitive type, else a question mark. -/
def typeName (m : Model) (p : Property) : String :=
  match p.links.type.bind m.linkedClass? with
  | some c => c.name
  | none => match p.links.primitiveType with
    | some name => if name = "" then "?" else name
    | none => "?"

def propertyLine (m : Model) (p : Property) : String :=
  "  " ++ p.name.getD "None" ++ "  " ++ p.lower.getD "" ++ ".." ++ p.upper.getD "" ++ "  " ++
    typeName m p

def counts (m : Model) : List (String × Nat) :=
  [("Classes", m.classes.size), ("Properties", m.properties.size),
    ("Associations", m.associations.size), ("Packages", m.packages.size), ("Types", m.types.size)]

def classLines (m : Model) (c : Uml.Class) : List String :=
  classLine c :: (m.sortedProperties c).map (propertyLine m)

def modelLines (m : Model) : List String :=
  (counts m).map (fun e => e.1 ++ ": " ++ toString e.2) ++
    m.sortedClasses.map fun c => classLine c.2

def printed (lines : List String) : String := "".intercalate (lines.map (· ++ "\n"))

def execute (given : Given) (t : Tree) : Outcome :=
  let path := given.operand.getD ""
  match t.read? path with
  | none => { ending := .code 2, stdout := printed ["File not found: " ++ path], tree := t }
  | some octets =>
    match Xmi.load (given.text "--encoding") Xmi.Vocabulary.skippedPackages octets with
    | .error e =>
      if (Run.Failure.load e).isExpected then
        { ending := .code 3, stdout := printed ["XML parse error: " ++ e.message], tree := t }
      else { ending := .failure (.load e), tree := t }
    | .ok model =>
      let model := model.resolve
      let name := given.text "--class"
      if name = "" then { ending := .code 0, stdout := printed (modelLines model), tree := t }
      else match model.classNamed? name with
        | none => { ending := .code 4, stdout := printed ["Class not found: " ++ name], tree := t }
        | some c => { ending := .code 0, stdout := printed (classLines model c), tree := t }

def command (arguments : List String) (t : Tree) : Outcome :=
  match grammar.parse arguments with
  | .error e => { ending := .usage e, tree := t }
  | .ok .help => { ending := .help, tree := t }
  | .ok (.given given) => execute given t

end Summarize

end UmlKotlin.CommandLine
