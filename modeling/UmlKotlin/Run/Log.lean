import UmlKotlin.Run.Layout

/-!
Log records, the levels that decide which of them are shown, and the layouts in which they are.
-/

set_option autoImplicit false

namespace UmlKotlin.Run

open Data (Scalar)

inductive Level
  | debug
  | info
  | warning
  | error
  deriving DecidableEq, Repr

namespace Level

def number : Level → Nat
  | debug => 10
  | info => 20
  | warning => 30
  | error => 40

def name : Level → String
  | debug => "DEBUG"
  | info => "INFO"
  | warning => "WARNING"
  | error => "ERROR"

/-- The lowest level that is shown: everything when verbose, warnings and errors when quiet. -/
def shown (verbose quiet : Bool) : Level :=
  if verbose then debug else if quiet then warning else info

end Level

/-- A message, and the part of the program that it comes from. -/
structure Record where
  level : Level
  logger : String
  message : String
  deriving DecidableEq, Repr

namespace Record

/-- A field of a record by its name. All records come from the main thread of the main process. -/
def field? (r : Record) (name : String) : Option Scalar :=
  [("levelname", .text r.level.name), ("name", .text r.logger), ("message", .text r.message),
    ("levelno", .int r.level.number), ("msg", .text r.message), ("threadName", .text "MainThread"),
    ("processName", .text "MainProcess"), ("exc_info", .null), ("exc_text", .null),
    ("stack_info", .null)].lookup name

end Record

/-- Where records are shown: in the layout that was installed first, from a level on. -/
structure Display where
  layout : Option Layout := none
  level : Level := .warning
  deriving DecidableEq, Repr

namespace Display

def standard (level : Level) : Display := { layout := some Layout.standard, level }

/-- A display configured anew. A level is set every time, a layout only once; a text that is then no
layout is refused. -/
def configure? (d : Display) (level : Level) (format : Option String) : Option Display :=
  match d.layout, format with
  | some _, _ => some { d with level }
  | none, none => some (standard level)
  | none, some text => (Layout.ofText? text).map fun layout => { layout := some layout, level }

def render (d : Display) (records : List Record) : String :=
  "".intercalate ((records.filter fun r => d.level.number ≤ r.level.number).map fun r =>
    (d.layout.getD Layout.standard).render r.field? ++ "\n")

end Display

end UmlKotlin.Run
