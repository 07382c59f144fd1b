import UmlKotlin.Table

/-!
References to types inside one source file. A simple name stands for the first type that uses it:
first the file's own class, then the built-in types, then whatever is referred to. A type whose
simple name stands for another one is written with its full name.
-/

set_option autoImplicit false

namespace UmlKotlin.Kotlin

/-- A name inside a package; the empty package adds nothing. -/
def qualify (package name : String) : String :=
  if package = "" then name else package ++ "." ++ name

def distinctSorted (texts : List String) : List String :=
  texts.eraseDups.mergeSort fun a b => decide (a ≤ b)

/-- What the simple names of a file stand for, and the imports that this needs, in the order in
which they were first referred to. -/
structure ImportScope where
  package : String
  bound : Table String String
  imported : List String := []

namespace ImportScope

/-- The scope of a file before anything is referred to. `builtins` gives the package of each
built-in type, which is never imported. -/
def opening (package className : String) (builtins : Table String String) : ImportScope where
  package := package
  bound := builtins.entries.foldl
    (fun bound b => if bound.contains b.1 then bound else bound.insert b.1 (b.2 ++ "." ++ b.1))
    ((∅ : Table String String).insert className (package ++ "." ++ className))

def reference (s : ImportScope) (package name : String) : String × ImportScope :=
  let full := qualify package name
  match s.bound.get? name with
  | some bound => (if bound = full then name else full, s)
  | none =>
    let bound := s.bound.insert name full
    if package = "" || package = s.package then (name, { s with bound := bound })
    else (name, { s with bound := bound, imported := s.imported ++ [full] })

def imports (s : ImportScope) : List String := distinctSorted s.imported

end ImportScope

end UmlKotlin.Kotlin
