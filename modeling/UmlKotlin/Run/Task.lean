import UmlKotlin.Run.Work

/-!
Runs as they are asked for. A caller holds a configuration and goes on to hold it while a run works on
a copy: checking a configuration trims the package in the configuration itself.
-/

set_option autoImplicit false

namespace UmlKotlin.Run

/-- The desk, and the configurations that are held, each known by its number. -/
structure Office where
  desk : Desk := {}
  configs : List Config := []

abbrev Task (α : Type) := ExceptT Failure (StateM Office) α

namespace Task

def onDesk {α : Type} (w : Work α) : Task α := ExceptT.mk fun o =>
  let (result, desk) := (ExceptT.run w).run o.desk
  (result, { o with desk })

def config (i : Nat) : Task Config := do return (← get).configs.getD i {}

/-- One more configuration held. The result is its number. -/
def hold (c : Config) : Task Nat := do
  let o ← get
  set { o with configs := o.configs ++ [c] }
  return o.configs.length

/-- A configuration checked, which trims its package, and the output directory made. -/
def validate (i : Nat) : Task Config.Request := do
  let (request, trimmed, t) := (← config i).validate (← get).desk.tree
  modify fun o => { desk := { o.desk with tree := t }, configs := o.configs.set i trimmed }
  onDesk (Work.check .config request)

/-- A whole run, on a copy of the configuration. The result is the number of generated files. -/
def run (i : Nat) : Task Nat := do
  let copy ← hold (← config i)
  let request ← validate copy
  onDesk (Work.ofRequest (← config copy) request)

def configOrStandard : Option Nat → Task Config
  | some i => config i
  | none => pure {}

/-- A run of a configuration, or of the standard one, with its paths and its package replaced. -/
def ofPaths (input output package : Data.Value) (i : Option Nat) : Task Nat := do
  let c ← configOrStandard i
  run (← hold { c with inputPath := input, outputDirectory := output, packageName := package })

def perform {α : Type} (w : Task α) (o : Office) : Except Failure α × Office :=
  (ExceptT.run w).run o

end Task

def Work.ofConfig (c : Config) : Work Nat := ExceptT.mk fun desk =>
  let (result, o) := (Task.run 0).perform { desk, configs := [c] }
  (result, o.desk)

end UmlKotlin.Run
