import UmlKotlin.Table
import UmlKotlin.Text.Encoding
import UmlKotlin.Text.Quoted
import UmlKotlin.Workspace.Path

/-!
Trees of directories and files, and the effect of making directories and writing files on them.
-/

set_option autoImplicit false

namespace UmlKotlin.Workspace

open Text (Octets)

inductive FileError
  | notFound
  | exists
  | notDirectory
  | isDirectory
  | nameTooLong
  /-- A path with the character of number zero is the path of nothing. -/
  | unusable
  deriving DecidableEq, Repr

def FileError.number : FileError → Nat
  | .notFound => 2
  | .exists => 17
  | .notDirectory => 20
  | .isDirectory => 21
  | .nameTooLong => 36
  | .unusable => 22

def FileError.text : FileError → String
  | .notFound => "No such file or directory"
  | .exists => "File exists"
  | .notDirectory => "Not a directory"
  | .isDirectory => "Is a directory"
  | .nameTooLong => "File name too long"
  | .unusable => "Invalid argument"

def FileError.message (e : FileError) (path : String) : String :=
  "[Errno " ++ toString e.number ++ "] " ++ e.text ++ ": " ++ Text.quote path

inductive Node
  | directory
  | file (content : Octets)
  deriving DecidableEq, Repr

/-- The place of a directory or file: names from the outermost directory on. A place that begins
with a slash is absolute, any other one lies below the working directory. -/
abbrev Place := List String

def pathOf (place : Place) : String :=
  match place with
  | "/" :: names => "/" ++ "/".intercalate names
  | names => "/".intercalate names

/-- The directories and files by their places. The working directory and the root are there
without an entry. -/
structure Tree where
  nodes : Table Place Node := ∅

namespace Tree

/-- A name has at most this many octets. -/
def maxName : Nat := 255

/-- A path has fewer octets than this. -/
def maxPath : Nat := 4096

/-- Whether a place is a directory although it has no entry: the working directory, those around
it, and the root. -/
def isGiven (place : Place) : Bool := place == ["/"] || place.all (· == "..")

def node? (t : Tree) (place : Place) : Option Node :=
  if isGiven place then some .directory else t.nodes.get? place

def parent (place : Place) : Place :=
  if place = ["/"] then place
  else if place.all (· == "..") then ".." :: place
  else place.dropLast

def enter (t : Tree) (place : Place) (part : String) : Except FileError Place :=
  match t.node? place with
  | none => .error .notFound
  | some (.file _) => .error .notDirectory
  | some .directory =>
    if part = "" || part = "." then .ok place
    else if part = ".." then .ok (parent place)
    else if maxName < part.utf8ByteSize then .error .nameTooLong
    else .ok (place ++ [part])

/-- The place of a path, whether something is there or not; all but its last part has to be
there. -/
def locate (t : Tree) (path : String) : Except FileError Place :=
  if path.toList.contains '\x00' then .error .unusable
  else if path = "" then .error .notFound
  else if maxPath ≤ path.utf8ByteSize then .error .nameTooLong
  else (Path.parts path).foldlM t.enter (if Path.isAbsolute path then ["/"] else [])

def at? (t : Tree) (path : String) : Option Node :=
  match t.locate path with
  | .ok place => t.node? place
  | .error _ => none

def isDirectory (t : Tree) (path : String) : Bool := t.at? path == some .directory

def read? (t : Tree) (path : String) : Option Octets :=
  match t.at? path with
  | some (.file content) => some content
  | _ => none

def makeDirectory (t : Tree) (path : String) : Except FileError Tree :=
  let short := String.ofList (Path.dropSlashes path.toList)
  match t.locate (if short = "" then path else short) with
  | .error e => .error e
  | .ok place =>
    if (t.node? place).isSome then .error .exists
    else .ok { nodes := t.nodes.insert place .directory }

/-- A directory made together with those around it that are missing. A directory that is already
there will do. The directories made before a failure stay. -/
def makeDirectories (t : Tree) (path : String) : Tree × Option FileError :=
  go (path.length + 1) t path
where
  go : Nat → Tree → String → Tree × Option FileError
    | 0, t, _ => (t, some .nameTooLong)
    | fuel + 1, t, path =>
      let (head, tail) :=
        let (head, tail) := Path.split path
        if tail = "" then Path.split head else (head, tail)
      let (t, failure) :=
        if head ≠ "" && tail ≠ "" && (t.at? head).isNone then go fuel t head else (t, none)
      match failure with
      | some e => (t, some e)
      | none =>
        match t.makeDirectory path with
        | .ok t => (t, none)
        | .error e => if t.isDirectory path then (t, none) else (t, some e)

def write (t : Tree) (path : String) (content : Octets) : Except FileError Tree :=
  match t.locate path with
  | .error e => .error e
  | .ok place =>
    match t.node? place with
    | some .directory => .error .isDirectory
    | some (.file _) | none =>
      if path.toList.getLast? = some '/' then .error .isDirectory
      else .ok { nodes := t.nodes.insert place (.file content) }

def files (t : Tree) : List (Place × Octets) :=
  t.nodes.entries.filterMap fun e => match e.2 with
    | .file content => some (e.1, content)
    | .directory => none

def directories (t : Tree) : List Place :=
  t.nodes.entries.filterMap fun e => match e.2 with
    | .file _ => none
    | .directory => some e.1

/-- What is in a tree but was not, or not so, in an earlier one. -/
def since (before after : Tree) : List (Place × Node) :=
  after.nodes.entries.filter fun e => before.nodes.get? e.1 != some e.2

end Tree

end UmlKotlin.Workspace
