import UmlKotlin.Data.Double.Shortest
import UmlKotlin.Data.Value
import UmlKotlin.Text.Quoted

/-!
How data show in messages and in generated text.
-/

set_option autoImplicit false

namespace UmlKotlin.Data

namespace Scalar

def display : Scalar → String
  | .null => "None"
  | .bool true => "True"
  | .bool false => "False"
  | .int i => toString i
  | .float d => d.toText
  | .date d => d.toText
  | .moment m => m.toText
  | .text s => s

/-- A scalar inside a list or a record, where texts are quoted and times spelled out. -/
def displayInside : Scalar → String
  | .text s => Text.quote s
  | .date d => d.toTextInside
  | .moment m => m.toTextInside
  | s => s.display

end Scalar

namespace Value

mutual

def displayInside : Value → String
  | .scalar s => s.displayInside
  | .list items => "[" ++ ", ".intercalate (displayItems items) ++ "]"
  | .record entries => "\x7b" ++ ", ".intercalate (displayEntries entries) ++ "\x7d"

def displayItems : List Value → List String
  | [] => []
  | v :: vs => displayInside v :: displayItems vs

def displayEntries : List (Scalar × Value) → List String
  | [] => []
  | (k, v) :: es => (k.displayInside ++ ": " ++ displayInside v) :: displayEntries es

end

def display : Value → String
  | .scalar s => s.display
  | v => v.displayInside

end Value

end UmlKotlin.Data
