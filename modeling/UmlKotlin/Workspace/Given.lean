import UmlKotlin.Data.Display
import UmlKotlin.Workspace.Tree

/-!
Files by paths that are given as data. A text is a path; a number is taken for that of an open file,
which none is; nothing else is a path.
-/

set_option autoImplicit false

namespace UmlKotlin.Workspace

open Data (Value)
open Text (Octets)

namespace Tree

/-- The content of the file at a path that is given as data: the outer result tells whether it is a
path, the inner one whether there is a file. -/
def readGiven? (t : Tree) : Value → Option (Option Octets)
  | .scalar (.text path) => some (t.read? path)
  | .scalar (.int _) | .scalar (.bool _) => some none
  | _ => none

end Tree

end UmlKotlin.Workspace
