import UmlKotlin.Data.Yaml.Node
import UmlKotlin.Profile.Bundled
import UmlKotlin.Workspace.Given

/-!
Profiles from files. A file whose name ends in `.yml` or `.yaml` holds YAML, any other one JSON.
-/

set_option autoImplicit false

namespace UmlKotlin.Profile

open Data (Value Scalar)
open Text (Octets)
open Workspace (Tree)

inductive LoadError
  /-- The paths are no list, or one of them is no path. -/
  | noPath
  | notFound (path : String)
  | notJson
  | notYaml (error : Data.Yaml.Error)
  | shape (error : ShapeError)
  deriving DecidableEq, Repr

def LoadError.message : LoadError → String
  | .noPath => "a path of a profile is no text"
  | .notFound path => "Type profile file not found: " ++ path
  | .notJson => "the profile is not JSON"
  | .notYaml _ => "the profile is not YAML"
  | .shape _ => "the profile has a value of the wrong type"

def isYamlPath (path : String) : Bool :=
  let name := (Text.toLower path).toList
  ".yml".toList.isSuffixOf name || ".yaml".toList.isSuffixOf name

/-- The settings that a file holds. A YAML file that says nothing holds none. -/
def settingsOf (path : String) (content : Octets) : Except LoadError Value :=
  if isYamlPath path then
    match Data.Yaml.parse content with
    | .error e => .error (.notYaml e)
    | .ok v => .ok (if v.isVoid then .record [] else v)
  else
    let decoded := Text.Encoding.decodeUtf8 content
    match Data.Json.load? decoded.chars with
    | some v => if decoded.whole then .ok v else .error .notJson
    | none => .error .notJson

/-- The settings of one file merged over a profile. A path that says nothing is passed over. -/
def mergeFile (t : Tree) (p : Profile) (path : Value) : Except LoadError Profile :=
  if path.isVoid then .ok p
  else match t.readGiven? path with
    | none => .error .noPath
    | some none => .error (.notFound path.display)
    | some (some content) => do
      let settings ← settingsOf path.display content
      match p.merge settings with
      | .ok p => .ok p
      | .error e => .error (.shape e)

/-- The settings of files merged, in turn, over the bundled profile or over the bare defaults. -/
def load (t : Tree) (paths : Value) (includeBundled : Bool) : Except LoadError Profile :=
  match if paths.isVoid then some [] else paths.members? with
  | none => .error .noPath
  | some paths => paths.foldlM (mergeFile t) (if includeBundled then bundled else {})

end UmlKotlin.Profile
