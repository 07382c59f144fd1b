import UmlKotlin.Profile.Load
import UmlKotlin.Run.Config
import UmlKotlin.Run.Log
import UmlKotlin.Uml.Resolution

/-!
Runs: from the configuration over the profile and the model to the generated files. A run reads and
changes a tree of files and leaves log records; what was done before a failure stays done.
-/

set_option autoImplicit false

namespace UmlKotlin.Run

open Workspace (Tree FileError)
open Kotlin (Generator GeneratedFile PlanError)

inductive WriteError
  | directory (path : String) (error : FileError)
  | file (path : String) (error : FileError)
  deriving DecidableEq, Repr

namespace WriteError

def message : WriteError → String
  | .directory path _ => "generateDomainClasses: failed to create output dir: " ++ path
  | .file path error =>
    "generateDomainClasses: failed to write " ++ path ++ ": " ++ error.message path

def cause : WriteError → FileError
  | .directory _ error | .file _ error => error

end WriteError

inductive Failure
  | config (error : ConfigError)
  | profile (error : Profile.LoadError)
  | load (error : Xmi.LoadError)
  | shape (error : Profile.ShapeError)
  | plan (error : PlanError)
  | write (error : WriteError)
  deriving DecidableEq, Repr

namespace Failure

def message : Failure → String
  | .config e => e.message
  | .profile e => e.message
  | .load e => e.message
  | .shape _ => "the profile has a value of the wrong type"
  | .plan e => e.message
  | .write e => e.message

/-- Whether a failure is one that a user is told about in a log record: what is wrong with the
configuration, the document, the inheritance or the output. -/
def isExpected : Failure → Bool
  | .config .noPath | .config .noName | .config .noSkipped | .config .noEncoding
  | .config (.unusableOutput _) => false
  | .config _ => true
  | .write e => e.cause ≠ .unusable
  | .profile (.notFound _) => true
  | .profile _ | .shape _ => false
  | .load (.unknownEncoding _) | .load (.unusableEncoding _) => false
  | .load _ => true
  | .plan (.cycle _) | .plan (.noCollection _ _) => true
  | .plan _ => false

end Failure

/-- What a run works on: the files, and the log records so far. -/
structure Desk where
  tree : Tree := {}
  log : List Record := []

/-- A piece of a run. What it has done stays when it fails. -/
abbrev Work (α : Type) := ExceptT Failure (StateM Desk) α

namespace Work

def log (level : Level) (logger message : String) : Work Unit :=
  modify fun d => { d with log := d.log ++ [⟨level, logger, message⟩] }

def check {ε α : Type} (failure : ε → Failure) (r : Except ε α) : Work α :=
  match r with
  | .ok a => pure a
  | .error e => throw (failure e)

def tree : Work Tree := do return (← get).tree

def setTree (t : Tree) : Work Unit := modify fun d => { d with tree := t }

def writeSource (f : GeneratedFile) : Work Unit := do
  let directory := Workspace.Path.directory f.path
  let (t, failure) := (← tree).makeDirectories directory
  setTree t
  if let some e := failure then throw (.write (.directory directory e))
  match t.write f.path (Text.toUtf8 f.content) with
  | .error e => throw (.write (.file f.path e))
  | .ok t => setTree t
  log .debug "gen.kotlin.writer" ("Wrote " ++ f.path)

/-- Source files written in their order; a file is announced when it replaces one of this run. -/
def writeSources (written : List String) : List GeneratedFile → Work Unit
  | [] => pure ()
  | f :: fs => do
    if written.contains f.path then
      log .warning "gen.kotlin.generator"
        ("Overwriting " ++ f.path ++ ": two classes share the generated name")
    writeSource f
    writeSources (f.path :: written) fs

/-- All files of a generator written, up to the first class that has none. The result is their
number. -/
def generate (g : Generator) (output : String) : Work Nat := do
  let (files, failure) := g.files output
  writeSources [] files
  match failure with
  | some e => throw (.plan e)
  | none =>
    log .info "gen.kotlin.generator"
      ("Generated " ++ toString files.length ++ " domain classes in " ++ output)
    pure files.length

def loadModel (encoding : String) (skipped : List String) (octets : Text.Octets) :
    Work Uml.Model := do
  let model ← check .load (Xmi.load encoding skipped octets)
  log .info "adapters.ea_xmi.parser" ("Extracted " ++ toString model.classes.size ++ " classes, " ++
    toString model.properties.size ++ " properties, " ++ toString model.associations.size ++
    " associations")
  for d in model.dangling do
    log .debug "core.resolver" d.message
  pure model.resolve

def prepare (c : Config) (request : Config.Request) : Work Generator := do
  let profile ← check .profile (Profile.load (← tree) c.profiles true)
  log .info "app.task" ("Generating " ++ profile.name.display ++ " domain classes from " ++
    request.input ++ " into package " ++ request.package)
  let skipped ← check .config c.skipped
  let octets ← match (← tree).read? request.input with
    | some octets => pure octets
    | none => throw (.config (.inputNotFound request.input))
  let encoding ← check .config c.encoding
  let model ← loadModel encoding skipped octets
  let target ← check .shape (Profile.Target.ofProfile profile)
  pure { model, root := request.package, target, markers := c.markers }

/-- All that follows the check of a configuration. The result is the number of generated files. -/
def ofRequest (c : Config) (request : Config.Request) : Work Nat := do
  generate (← prepare c request) request.output

/-- The result of a piece of work on a tree of files, and what it leaves behind. -/
def perform {α : Type} (w : Work α) (t : Tree) : Except Failure α × Desk :=
  (ExceptT.run w).run { tree := t }

end Work

end UmlKotlin.Run
