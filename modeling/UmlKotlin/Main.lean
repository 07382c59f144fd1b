import UmlKotlin.CommandLine.Summarize
import UmlKotlin.Xml.Octets

/-!
The programs. A command works on a tree of files. The part of the tree that it can see is read
beforehand: the paths among its arguments, and whatever is already where it would write. What it
leaves in the tree is written afterwards.
-/

set_option autoImplicit false

namespace UmlKotlin.Programs

open CommandLine (Grammar Outcome)
open Workspace (Node Tree)

/-- The number of the error that a directory gives when it is read as a file. -/
def isDirectoryNumber : UInt32 := 21

def look (path : String) : IO (Option Node) := do
  try
    return some (.file (← IO.FS.readBinFile path).data.toList)
  catch e =>
    match e with
    | .inappropriateType _ number _ =>
      return if number = isDirectoryNumber then some .directory else none
    | _ => return none

def gather (t : Tree) (path : String) : IO Tree := do
  match ← look path with
  | none => return t
  | some .directory => return (t.makeDirectories path).1
  | some (.file content) =>
    let t := (t.makeDirectories (Workspace.Path.directory path)).1
    return (t.write path content).toOption.getD t

def store (change : Workspace.Place × Node) : IO Unit :=
  let path := Workspace.pathOf change.1
  match change.2 with
  | .directory => IO.FS.createDirAll path
  | .file content => IO.FS.writeBinFile path ⟨content.toArray⟩

def finish (grammar : Grammar) (o : Outcome) : IO UInt32 := do
  match o.ending with
  | .help =>
    IO.println grammar.usage
    return 0
  | .usage e =>
    IO.eprintln grammar.usage
    IO.eprintln (grammar.program ++ ": error: " ++ e.message)
    return 2
  | .failure e =>
    IO.print o.stdout
    IO.eprint o.stderr
    IO.eprintln (grammar.program ++ ": " ++ e.message)
    return 1
  | .code n =>
    IO.print o.stdout
    IO.eprint o.stderr
    return UInt32.ofNat n

/-- A command run on the files that are there. A first run on what its arguments mention tells where
it would write; what is there already is read before the run that counts. -/
def perform (grammar : Grammar) (command : List String → Tree → Outcome)
    (arguments : List String) : IO UInt32 := do
  let mentioned := match grammar.parse arguments with
    | .ok (.given given) => given.mentioned
    | _ => []
  let known ← mentioned.foldlM gather {}
  let planned := known.since (command arguments known).tree
  let before ← (planned.map fun e => Workspace.pathOf e.1).foldlM gather known
  let outcome := command arguments before
  (before.since outcome.tree).forM store
  finish grammar outcome

def summarize (arguments : List String) : IO UInt32 :=
  perform CommandLine.Summarize.grammar CommandLine.Summarize.command arguments

end UmlKotlin.Programs

def main (arguments : List String) : IO UInt32 :=
  UmlKotlin.Programs.perform UmlKotlin.CommandLine.Generate.grammar
    UmlKotlin.CommandLine.Generate.command arguments
