/-!
Remarks on a document. Some faults leave the grammar of a document intact: the reader remarks on
them and reads on. Whether the document is acceptable then hangs on its last remark.
-/

set_option autoImplicit false

namespace UmlKotlin.Xml

inductive Severity
  | warning
  | error
  deriving DecidableEq, Repr

/-- The remarks that were heard: how many of either weight, and the weight of the last one. -/
structure Remarks where
  warnings : Nat := 0
  errors : Nat := 0
  last : Option Severity := none
  deriving DecidableEq, Repr

namespace Remarks

/-- So many remarks of one weight are heard; later ones go unheard. -/
def limit : Nat := 100

def add (r : Remarks) : Severity → Remarks
  | .warning =>
    if r.warnings < limit then { r with warnings := r.warnings + 1, last := some .warning } else r
  | .error =>
    if r.errors < limit then { r with errors := r.errors + 1, last := some .error } else r

/-- A document is acceptable unless its last remark is an error. -/
def acceptable (r : Remarks) : Bool := r.last != some .error

end Remarks

end UmlKotlin.Xml
