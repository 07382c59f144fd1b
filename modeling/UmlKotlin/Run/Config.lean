import UmlKotlin.Kotlin.Generator
import UmlKotlin.Workspace.Given
import UmlKotlin.Xmi.Load

/-!
The configuration of a run, and what has to hold before anything is generated.
-/

set_option autoImplicit false

namespace UmlKotlin.Run

open Data (Value)
open Workspace (Tree)

/-- What a run is asked to do. A setting that is not given is null. -/
structure Config where
  inputPath : Value := .null
  outputDirectory : Value := .null
  packageName : Value := .null
  inputEncoding : Value := .text Xmi.defaultEncoding
  skippedPackages : Value := .list (Xmi.Vocabulary.skippedPackages.map .text)
  markers : Kotlin.Markers := {}
  profiles : Value := .null

inductive ConfigError
  | noInput
  | inputNotFound (path : String)
  | noOutput
  | noPackage
  | outputNotCreated (directory : String)
  /-- The path of the input or of the output is no text. -/
  | noPath
  /-- The package is no text. -/
  | noName
  /-- The packages to skip are not listed. -/
  | noSkipped
  /-- The encoding is no text. -/
  | noEncoding
  /-- The path of the output cannot be that of a directory. -/
  | unusableOutput (path : String)
  deriving DecidableEq, Repr

def ConfigError.message (e : ConfigError) : String :=
  "generateDomainClasses: " ++ match e with
    | .noInput => "input file is required."
    | .inputNotFound path => "input file does not exist: " ++ path
    | .noOutput => "output directory is required."
    | .noPackage => "package namespace is required."
    | .outputNotCreated directory => "failed to create output dir: " ++ directory
    | .noPath => "a path is no text."
    | .noName => "package namespace is no text."
    | .noSkipped => "the packages to skip are no list."
    | .noEncoding => "the encoding is no text."
    | .unusableOutput path => "no path of a directory: " ++ path

namespace Config

/-- The paths and the package that a run works with. -/
structure Request where
  input : String
  output : String
  package : String
  deriving DecidableEq, Repr

def required (setting : Value) (e : ConfigError) : Except ConfigError Value :=
  match setting with
  | .scalar .null => .error e
  | setting => if Text.isBlank setting.display then .error e else .ok setting

def textOf (setting : Value) (e : ConfigError) : Except ConfigError String :=
  match setting.text? with
  | some s => .ok s
  | none => .error e

def inputOf (setting : Value) (t : Tree) : Except ConfigError String :=
  match t.readGiven? setting with
  | none => .error .noPath
  | some none => .error (.inputNotFound setting.display)
  | some (some _) => .ok setting.display

/-- What a configuration asks for, if all that is required is there; the first thing that is missing
is reported. The output, of which only its presence is looked at, and the package without the white
space around it. -/
def essentials (c : Config) (t : Tree) : Except ConfigError (String × Value × String) := do
  let input ← inputOf (← required c.inputPath .noInput) t
  let output ← required c.outputDirectory .noOutput
  let package ← textOf (← required c.packageName .noPackage) .noName
  pure (input, output, Text.trim package)

/-- The configuration checked and the output directory made. The second result is the configuration
with its package trimmed, if all that is required is there. -/
def validate (c : Config) (t : Tree) : Except ConfigError Request × Config × Tree :=
  match c.essentials t with
  | .error e => (.error e, c, t)
  | .ok (input, output, package) =>
    let trimmed : Config := { c with packageName := .text package }
    match output.text? with
    | none => (.error .noPath, trimmed, t)
    | some output =>
      match t.makeDirectories output with
      | (t, none) => (.ok ⟨input, output, package⟩, trimmed, t)
      | (t, some .unusable) => (.error (.unusableOutput output), trimmed, t)
      | (t, some _) => (.error (.outputNotCreated output), trimmed, t)

/-- The name of the encoding. A setting that says nothing is an empty name. -/
def encoding (c : Config) : Except ConfigError String :=
  if c.inputEncoding.isVoid then .ok "" else textOf c.inputEncoding .noEncoding

/-- The names of the packages to skip. Members that are other scalars than texts name none. -/
def skipped (c : Config) : Except ConfigError (List String) :=
  match c.skippedPackages.members? with
  | none => .error .noSkipped
  | some members => do
    let names ← members.mapM fun
      | .scalar s => .ok (Value.scalar s).text?
      | _ => .error .noSkipped
    pure (names.filterMap id)

end Config

end UmlKotlin.Run
