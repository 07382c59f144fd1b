import UmlKotlin.Text.Lines

/-!
Paths, as texts whose parts are separated by slashes.
-/

set_option autoImplicit false

namespace UmlKotlin.Workspace.Path

/-- A path below another one. An absolute path stands for itself. -/
def join (base path : String) : String :=
  if path.toList.head? = some '/' then path
  else if base = "" || base.toList.getLast? = some '/' then base ++ path
  else base ++ "/" ++ path

def joinAll (base : String) (paths : List String) : String := paths.foldl join base

def dropSlashes (cs : List Char) : List Char := (cs.reverse.dropWhile (· == '/')).reverse

/-- The part before the last slash and the part behind it. The first one loses the slashes at its
end unless it has nothing else. -/
def split (path : String) : String × String :=
  let cs := path.toList
  let tail := (cs.reverse.takeWhile (· ≠ '/')).reverse
  let head := cs.take (cs.length - tail.length)
  let short := dropSlashes head
  (String.ofList (if short.isEmpty then head else short), String.ofList tail)

def directory (path : String) : String := (split path).1

def isAbsolute (path : String) : Bool := path.toList.head? == some '/'

def parts (path : String) : List String := Text.splitAt '/' path

end UmlKotlin.Workspace.Path
