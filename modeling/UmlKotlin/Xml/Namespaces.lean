import UmlKotlin.Xml.Element
import UmlKotlin.Xml.Letter
import UmlKotlin.Xml.Uri

/-!
Namespaces: the prefixes in force at an element, and the expansion of its names. Most faults draw a
remark, and the names concerned stay as they are written.
-/

set_option autoImplicit false

namespace UmlKotlin.Xml

open Scanner

/-- The prefixes in force, innermost declaration first; the empty prefix is the default
namespace, and an empty namespace is none. -/
abbrev Bindings := List (String × String)

namespace Bindings

/-- The namespace of the prefix `xml`, which is always in force. -/
def xmlSpace : String := "http://www.w3.org/XML/1998/namespace"

/-- The namespace of declarations, which nothing may be bound to. -/
def declarationSpace : String := "http://www.w3.org/2000/xmlns/"

def initial : Bindings := [("xml", xmlSpace)]

def default? (bindings : Bindings) : Option String := (bindings.lookup "").filter (· ≠ "")

end Bindings

/-- A name as it is written: a prefix, or none, and the part behind it. -/
structure WrittenName where
  lead : Option String
  base : String
  deriving DecidableEq, Repr

namespace WrittenName

/-- The parts of a name before and behind its first colon, if a name without colon begins on either
side; else the name is one part. -/
def ofText (text : String) : WrittenName :=
  let cs := text.toList
  let lead := cs.takeWhile (· ≠ ':')
  match cs.dropWhile (· ≠ ':') with
  | _ :: c :: base =>
    if !lead.isEmpty && c ≠ ':' && isNameStart c then
      ⟨some (String.ofList lead), String.ofList (c :: base)⟩
    else ⟨none, text⟩
  | _ => ⟨none, text⟩

def isProper (name : WrittenName) : Bool := !name.base.toList.contains ':'

/-- Whether a further name begins behind a colon that follows the prefix and a name, if anything
stands there. -/
def isComplete (name : WrittenName) : Bool :=
  match name.lead, name.base.toList.dropWhile (· ≠ ':') with
  | some _, _ :: c :: _ => isNameStart c
  | _, _ => true

def toText (name : WrittenName) : String :=
  match name.lead with
  | some lead => lead ++ ":" ++ name.base
  | none => name.base

/-- The prefix that an attribute declares, the empty one for the default namespace. -/
def declaredPrefix? (name : WrittenName) : Option String :=
  match name.lead with
  | some "xmlns" => some name.base
  | some _ => none
  | none => if name.base = "xmlns" then some "" else none

/-- The expansion of a name, which belongs to `space` if it has no prefix; none if its prefix is
not in force. -/
def expand? (bindings : Bindings) (space : Option String) (name : WrittenName) :
    Option QualifiedName :=
  match name.lead with
  | some lead => (bindings.lookup lead).map fun space => ⟨some space, name.base⟩
  | none => some ⟨space, name.base⟩

end WrittenName

/-- A declaration of a namespace: what it binds, if it takes effect, and the remark that it draws. -/
structure Declared where
  binding : Option (String × String)
  remark : Option Severity
  deriving DecidableEq, Repr

namespace Declared

def refused : Declared := ⟨none, some .error⟩

/-- The declaration of the default namespace, which should be absolute or empty. -/
def ofDefault (uri : String) : Declared :=
  if uri = "" then ⟨some ("", uri), none⟩
  else if uri = Bindings.xmlSpace || uri = Bindings.declarationSpace then refused
  else match Uri.form? uri with
    | some .absolute => ⟨some ("", uri), none⟩
    | some .relative => ⟨some ("", uri), some .warning⟩
    | none => ⟨some ("", uri), some .error⟩

/-- The declaration of a prefix. Only `xml` has its namespace, no prefix is bound to the namespace
of declarations, and none to nothing. -/
def ofPrefix (lead uri : String) : Declared :=
  if lead = "xml" then ⟨none, if uri = Bindings.xmlSpace then none else some .error⟩
  else if lead = "xmlns" || uri = Bindings.xmlSpace || uri = Bindings.declarationSpace || uri = ""
  then refused
  else ⟨some (lead, uri), if (Uri.form? uri).isSome then none else some .error⟩

def ofAttribute? (key value : String) : Option Declared :=
  (WrittenName.ofText key).declaredPrefix?.map fun lead =>
    if lead = "" then ofDefault value else ofPrefix lead value

end Declared

/-- The name of an element; one whose prefix is not in force stays as it is written. -/
def elementName (bindings : Bindings) (written : String) : Scanner QualifiedName := do
  match (WrittenName.ofText written).expand? bindings bindings.default? with
  | some name => pure name
  | none =>
    remark .error
    pure ⟨none, written⟩

/-- The name of an attribute; the default namespace does not apply, and a name whose prefix is not
in force stays as it is written. -/
def attributeName (bindings : Bindings) (written : String) : Scanner QualifiedName := do
  match (WrittenName.ofText written).expand? bindings none with
  | some name => pure name
  | none =>
    remark .error
    pure ⟨none, written⟩

/-- Attributes that expand to one name: a violation if they are written alike, else an error. Names
with a prefix that is not in force do not count. -/
def distinctAttributes (bindings : Bindings) (written : List String) : Scanner Unit := do
  let known := written.filter fun w => ((WrittenName.ofText w).expand? bindings none).isSome
  require known.Nodup
  if !decide (known.map fun w => (WrittenName.ofText w).expand? bindings none).Nodup then
    remark .error

/-- The namespaces that the type of a document declares for an element by default. -/
def defaultBindings (defaults : List (String × String)) : Bindings :=
  defaults.filterMap fun a => (WrittenName.ofText a.1).declaredPrefix?.map (·, a.2)

/-- The default value of an attribute under each name that it may be looked up by: a name without
prefix also counts as one of the default namespace. -/
def defaultAttributes (bindings : Bindings) (defaults : List (String × String)) : List Attribute :=
  (defaults.filter fun a => (WrittenName.ofText a.1).declaredPrefix?.isNone).flatMap fun a =>
    let name := WrittenName.ofText a.1
    let plain := (name.expand? bindings none).toList
    let spaced := match name.lead with
      | none => (bindings.default?.map fun space => (⟨some space, name.base⟩ : QualifiedName)).toList
      | some _ => []
    (plain ++ spaced).map (⟨·, a.2⟩)

/-- The attributes that identify elements: `xml:id`, whose value should be an identifier, and those
declared so. No two elements have one value. -/
def noteIdentifier (element key value : String) : Scanner Unit := do
  let declared := ((← doctype).rule? element key).any (·.type = .identifier)
  if key = "xml:id" && !Letter.isIdentifier value then remark .error
  if (key = "xml:id" || declared) && value ≠ "" then
    fun s =>
      if s.ids.contains value then some ((), { s with remarks := s.remarks.add .error })
      else some ((), { s with ids := value :: s.ids })

/-- An element from its written name and attributes, with the bindings in force inside it. -/
def expand (outer : Bindings) (name : String) (attributes : List (String × String)) :
    Scanner (Element × Bindings) := do
  let declared := attributes.filterMap fun a => (Declared.ofAttribute? a.1 a.2).bind (·.binding)
  require (declared.map Prod.fst).Nodup
  let defaults := (← doctype).defaults name
  let bindings := declared ++ defaultBindings defaults ++ outer
  let others := attributes.filter fun a => (WrittenName.ofText a.1).declaredPrefix?.isNone
  let expanded ← others.mapM fun a => do pure (Attribute.mk (← attributeName bindings a.1) a.2)
  distinctAttributes bindings (others.map Prod.fst)
  let missing := (defaults.filter fun a =>
    (WrittenName.ofText a.1).declaredPrefix?.isNone && (others.lookup a.1).isNone).map Prod.fst
  missing.forM fun written => do
    let name ← attributeName bindings written
    if name.space.isSome && expanded.any (·.name = name) then remark .error
  let expandedName ← elementName bindings name
  let fitting := (← doctype).fittingDefaults name
  pure (⟨expandedName, expanded, defaultAttributes bindings fitting⟩, bindings)

end UmlKotlin.Xml
