import UmlKotlin.CommandLine.Arguments
import UmlKotlin.Run.Task

/-!
The command that generates domain classes from an exported model.
-/

set_option autoImplicit false

namespace UmlKotlin.CommandLine

open Data (Value)
open Run (Config Desk Display Failure Level Work)
open Workspace (Tree)

/-- How a command ends: with an exit code, with a failure that it does not handle, after showing
its help, or because its arguments are refused. -/
inductive Ending
  | code (code : Nat)
  | failure (failure : Failure)
  | help
  | usage (error : UsageError)
  deriving DecidableEq, Repr

structure Outcome where
  ending : Ending
  stdout : String := ""
  stderr : String := ""
  tree : Tree

namespace Generate

def grammar : Grammar where
  program := "xmi2kotlin"
  options := [⟨["--input"], .value⟩, ⟨["--output"], .value⟩, ⟨["--package"], .value⟩,
    ⟨["--types-profile"], .value⟩, ⟨["--encoding"], .value⟩, ⟨["--verbose", "-v"], .switch⟩,
    ⟨["--quiet", "-q"], .switch⟩]

/-- The setting that an option with a value gives; one without a value gives an empty list. -/
def settingOf (value : Option String) : Value := (value.map Value.text).getD (.list [])

/-- The configuration that arguments give. An empty encoding stands for the default one. -/
def configOf (given : Given) : Config where
  inputPath := ((given.last? "--input").map settingOf).getD .null
  outputDirectory := ((given.last? "--output").map settingOf).getD .null
  packageName := ((given.last? "--package").map settingOf).getD .null
  inputEncoding :=
    let encoding := given.text "--encoding"
    .text (if encoding = "" then Xmi.defaultEncoding else encoding)
  profiles := match given.all "--types-profile" with
    | [] => .null
    | paths => .list (paths.map settingOf)

def isVerbose (given : Given) : Bool := given.isOn "--verbose"

def isQuiet (given : Given) : Bool := given.isOn "--quiet"

/-- The command with arguments that were accepted. A failure that the user is told about ends it
with code 1. -/
def execute (given : Given) (t : Tree) : Outcome :=
  let display := Display.standard (Level.shown (isVerbose given) (isQuiet given))
  let (result, desk) := (Work.ofConfig (configOf given)).perform t
  match result with
  | .ok count =>
    { ending := .code 0
      stdout := "Generated " ++ toString count ++ " domain classes in " ++
        given.text "--output" ++ "\n"
      stderr := display.render desk.log
      tree := desk.tree }
  | .error failure =>
    if failure.isExpected then
      { ending := .code 1
        stderr := display.render (desk.log ++ [⟨.error, "app.cli", failure.message⟩])
        tree := desk.tree }
    else
      { ending := .failure failure
        stderr := display.render desk.log
        tree := desk.tree }

def command (arguments : List String) (t : Tree) : Outcome :=
  match grammar.parse arguments with
  | .error e => { ending := .usage e, tree := t }
  | .ok .help => { ending := .help, tree := t }
  | .ok (.given given) => execute given t

end Generate

end UmlKotlin.CommandLine
