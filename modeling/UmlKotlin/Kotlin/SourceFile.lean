import UmlKotlin.Kotlin.Comment
import UmlKotlin.Kotlin.ImportScope

/-!
The layout of source files, line by line.
-/

set_option autoImplicit false

namespace UmlKotlin.Kotlin

/-- A parameter of a primary constructor; the class may have it as a property too. -/
structure Parameter where
  name : String
  type : String
  default : Option String := none
  isProperty : Bool := true
  documentation : Option String := none
  deprecation : Option String := none
  deriving DecidableEq, Repr

/-- A class declaration. The arguments of the superclass are passed by name. -/
structure ClassDeclaration where
  package : String
  name : String
  abstract : Bool := false
  parameters : List Parameter := []
  superclass : Option String := none
  superclassArguments : List String := []
  interfaces : List String := []
  imports : List String := []
  documentation : Option String := none
  deprecation : Option String := none
  deriving DecidableEq, Repr

namespace Source

def indent : String := "    "

def text (lines : List String) : String := "\n".intercalate lines ++ "\n"

def packageLines (name : String) : List String := ["package " ++ name, ""]

def importLines (imports : List String) : List String :=
  match distinctSorted imports with
  | [] => []
  | sorted => sorted.map ("import " ++ ·) ++ [""]

def deprecationLines (indent : String) (message : Option String) : List String :=
  match message with
  | some message => [indent ++ "@Deprecated(\"" ++ message ++ "\")"]
  | none => []

def declaration (p : Parameter) : String :=
  (if p.isProperty then "val " else "") ++ p.name ++ ": " ++ p.type ++
    (match p.default with
      | some value => " = " ++ value
      | none => "")

def parameterLines (last : Bool) (p : Parameter) : List String :=
  Comment.block indent p.documentation ++ deprecationLines indent p.deprecation ++
    [indent ++ declaration p ++ (if last then "" else ",")]

def parametersLines : List Parameter → List String
  | [] => []
  | p :: ps => parameterLines ps.isEmpty p ++ parametersLines ps

def supertypes (c : ClassDeclaration) : List String :=
  (match c.superclass with
    | some superclass =>
      [superclass ++ "(" ++ ", ".intercalate (c.superclassArguments.map fun a => a ++ " = " ++ a) ++
        ")"]
    | none => []) ++ c.interfaces

def closeHead (head : String) (supertypes : List String) : String :=
  if supertypes.isEmpty then head else head ++ " : " ++ ", ".intercalate supertypes

def headLines (c : ClassDeclaration) : List String :=
  let head := (if c.abstract then "abstract" else "open") ++ " class " ++ c.name
  if c.parameters.isEmpty then [closeHead head (supertypes c)]
  else [head ++ "("] ++ parametersLines c.parameters ++ [closeHead ")" (supertypes c)]

def classLines (c : ClassDeclaration) : List String :=
  packageLines c.package ++ importLines c.imports ++ Comment.block "" c.documentation ++
    deprecationLines "" c.deprecation ++ headLines c

end Source

end UmlKotlin.Kotlin
