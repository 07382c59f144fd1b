import UmlKotlin.Xml.Scanner

/-!
Elements, their attributes, and the events of a document: an element begins, an element ends.
-/

set_option autoImplicit false

namespace UmlKotlin.Xml

/-- A name with the namespace that it belongs to, if it belongs to one. -/
structure QualifiedName where
  space : Option String
  base : String
  deriving DecidableEq, Repr

namespace QualifiedName

/-- A name written as `{namespace}base`, or as a base name alone. -/
def ofText (text : String) : QualifiedName :=
  match text.toList with
  | '{' :: cs => ⟨some (String.ofList (cs.takeWhile (· ≠ '}'))),
      String.ofList ((cs.dropWhile (· ≠ '}')).drop 1)⟩
  | _ => ⟨none, text⟩

/-- A name to look an attribute up by, in the same form: an empty namespace is none, and the base
name is not empty. -/
def ofKey? (key : String) : Option QualifiedName :=
  let name := ofText key
  if name.base.isEmpty || !key.toList.all isChar then none
  else some { name with space := name.space.filter (· ≠ "") }

def toText (name : QualifiedName) : String :=
  match name.space with
  | some space => "\x7b" ++ space ++ "\x7d" ++ name.base
  | none => name.base

end QualifiedName

structure Attribute where
  name : QualifiedName
  value : String
  deriving DecidableEq, Repr

/-- An element with its attributes in document order, and the values that the type of the document
gives to attributes that are not written. -/
structure Element where
  name : QualifiedName
  attributes : List Attribute
  defaults : List Attribute := []
  deriving DecidableEq, Repr

namespace Element

def get? (e : Element) (name : QualifiedName) : Option String :=
  ((e.attributes ++ e.defaults).find? fun a => a.name = name).map (·.value)

def plain? (e : Element) (base : String) : Option String := e.get? ⟨none, base⟩

def baseAttributes (e : Element) : List (String × String) :=
  e.attributes.map fun a => (a.name.base, a.value)

end Element

inductive Event
  | start (element : Element)
  | finish (name : QualifiedName)
  deriving DecidableEq, Repr

end UmlKotlin.Xml
