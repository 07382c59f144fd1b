import UmlKotlin.Uml.Model
import UmlKotlin.Xmi.Scope
import UmlKotlin.Xmi.Vocabulary

/-!
Extraction of a class model from the events of a document, in one pass. The UML section declares
classes, properties, associations, packages and types; the extension section adds documentation,
deprecation, role names and bounds to what was declared before. Unknown elements mean nothing.
-/

set_option autoImplicit false

namespace UmlKotlin.Xmi

open Uml (Model Property Association)
open Text (blank firstNonBlank paragraphBreak)
open Xml (Element Event QualifiedName)

structure Frame where
  kind : String
  id : Option String
  opensPackage : Bool
  deriving DecidableEq, Repr

/-- An open comment: its text, and what it is about. -/
structure Comment where
  body : Option String
  target : Option String
  deriving DecidableEq, Repr

inductive Side
  | source
  | target
  deriving DecidableEq, Repr

/-- What is known after some of the events. Lists of open constructs have the innermost first. -/
structure Extraction where
  skipped : List String
  model : Model := {}
  packaged : List Frame := []
  packagePaths : List (List String) := []
  currentProperty : Option String := none
  comment : Option Comment := none
  pendingComments : Table String (List String) := ∅
  scopes : ScopeStack := {}
  connectorIsAssociation : Bool := false
  connectorSide : Option Side := none

/-- The attributes of an element as metadata: the base names behind a lead. A later attribute with
the same base name counts. -/
def leadAttributes (lead : String) (e : Element) : Table String String :=
  Table.ofList (e.baseAttributes.map fun a => (lead ++ a.1, a.2))

/-- The attributes among `names` that are not blank, behind a lead. -/
def nonBlankAttributes (lead : String) (names : List String) (e : Element) : Table String String :=
  Table.ofList (names.filterMap fun name =>
    (((QualifiedName.ofKey? name).bind e.get?).filter fun value => !blank (some value)).map
      (lead ++ name, ·))

namespace Extraction

def innermost (x : Extraction) (kind : String) : Option String :=
  (x.packaged.find? fun f => f.kind == kind).bind (·.id)

def currentClass (x : Extraction) : Option String :=
  (x.innermost Vocabulary.classType).filter x.model.classes.contains

/-- The identifier of the association whose element is open, if the model has it. -/
def currentAssociation (x : Extraction) : Option String :=
  (x.innermost Vocabulary.associationType).filter x.model.associations.contains

def packagePath (x : Extraction) : List String := x.packagePaths.head?.getD []

/-- The path inside a package: blank and skipped names do not count. -/
def pathInside (x : Extraction) (name : Option String) : List String :=
  match name with
  | some name =>
    if blank (some name) || x.skipped.contains name then x.packagePath else x.packagePath ++ [name]
  | none => x.packagePath

def modifyClass (x : Extraction) (id : Option String) (f : Uml.Class → Uml.Class) : Extraction :=
  match id with
  | some id => { x with model := x.model.modifyClass id f }
  | none => x

def modifyProperty (x : Extraction) (id : Option String) (f : Property → Property) : Extraction :=
  match id with
  | some id => { x with model := x.model.modifyProperty id f }
  | none => x

def modifyAssociation (x : Extraction) (id : Option String) (f : Association → Association) :
    Extraction :=
  match id with
  | some id => { x with model := x.model.modifyAssociation id f }
  | none => x

def startPackagedElement (x : Extraction) (e : Element) : Extraction :=
  let kind := (e.get? Vocabulary.xmiType).getD ""
  let name := e.plain? "name"
  let given := (e.get? Vocabulary.xmiId).filter fun id => !blank (some id)
  let isPackage := given.isSome && kind == Vocabulary.packageType
  let opened : Extraction := { x with packaged := ⟨kind, given, isPackage⟩ :: x.packaged }
  match given with
  | none => opened
  | some id =>
    if kind = Vocabulary.packageType then
      let path := x.pathInside name
      { opened with
        packagePaths := path :: x.packagePaths
        model := { x.model with packages := x.model.packages.insert id path } }
    else if kind = Vocabulary.classType then
      { opened with model := x.model.putClass {
          id := id
          name := if blank name then Vocabulary.unnamedClass else name.getD ""
          packagePath := x.packagePath
          abstract := e.plain? "isAbstract" == some "true" } }
    else if kind = Vocabulary.associationType then
      { opened with model := x.model.putAssociation { id := id, name := name } }
    else if Vocabulary.namedTypes.contains kind && !blank name then
      { opened with model := { x.model with types := x.model.types.insert id (name.getD "") } }
    else opened

def finishPackagedElement (x : Extraction) : Extraction :=
  match x.packaged with
  | [] => x
  | frame :: outer =>
    { x with
      packaged := outer
      packagePaths := if frame.opensPackage then x.packagePaths.tail else x.packagePaths }

def propertyOf (e : Element) : Property where
  id := match e.get? Vocabulary.xmiId with
    | some id => if id = "" then Vocabulary.unknownProperty else id
    | none => Vocabulary.unknownProperty
  name := e.plain? "name"
  associationId := e.plain? "association"
  aggregation := e.plain? "aggregation"
  metadata := nonBlankAttributes Vocabulary.flagLead Vocabulary.propertyFlags e

def readProperty (x : Extraction) (p : Property) : Extraction :=
  { x with model := x.model.putProperty p, currentProperty := some p.id }

def startOwnedAttribute (x : Extraction) (e : Element) : Extraction :=
  match x.currentClass with
  | none => x
  | some owner =>
    let p := propertyOf e
    (x.readProperty p).modifyClass (some owner) fun c =>
      { c with members := c.members ++ [.listed p.id] }

def startOwnedEnd (x : Extraction) (e : Element) : Extraction :=
  match x.currentAssociation with
  | none => x
  | some owner =>
    let p := propertyOf e
    (x.readProperty p).modifyAssociation (some owner) fun a =>
      { a with ownedEndIds := a.ownedEndIds ++ [p.id] }

def finishProperty (x : Extraction) : Extraction := { x with currentProperty := none }

def startMemberEnd (x : Extraction) (e : Element) : Extraction :=
  match e.get? Vocabulary.xmiIdref with
  | none => x
  | some ref =>
    if blank (some ref) then x
    else x.modifyAssociation x.currentAssociation fun a =>
      { a with memberEndIds := a.memberEndIds ++ [ref] }

/-- A type element gives a type identifier; a reference to a type elsewhere counts only where there
is no identifier, by the part behind its last number sign. -/
def startType (x : Extraction) (e : Element) : Extraction :=
  let ref := e.get? Vocabulary.xmiIdref
  let href := e.plain? "href"
  x.modifyProperty x.currentProperty fun p =>
    let p := if blank ref then p else { p with typeId := ref }
    if blank href || !blank p.typeId then p
    else { p with hrefType := href.map (Text.afterLast '#') }

def startLowerValue (x : Extraction) (e : Element) : Extraction :=
  x.modifyProperty x.currentProperty fun p => { p with lower := e.plain? "value" }

def startUpperValue (x : Extraction) (e : Element) : Extraction :=
  x.modifyProperty x.currentProperty fun p => { p with upper := e.plain? "value" }

def startGeneralization (x : Extraction) (e : Element) : Extraction :=
  x.modifyClass x.currentClass fun c =>
    { c with generalizationId := firstNonBlank c.generalizationId (e.plain? "general") }

def startOwnedComment (x : Extraction) (e : Element) : Extraction :=
  { x with comment := some ⟨e.plain? "body", none⟩ }

def startAnnotatedElement (x : Extraction) (e : Element) : Extraction :=
  { x with comment := x.comment.map fun c => { c with target := e.get? Vocabulary.xmiIdref } }

/-- A comment waits until the whole document is read. Without a target it is about the class whose
element is open. -/
def finishOwnedComment (x : Extraction) : Extraction :=
  let closed : Extraction := { x with comment := none }
  match x.comment with
  | none => closed
  | some comment =>
    let target := if blank comment.target then x.innermost Vocabulary.classType else comment.target
    match target, comment.body with
    | some target, some body =>
      if blank (some target) || blank (some body) then closed
      else
        let bodies := (x.pendingComments.get? target).getD []
        { closed with pendingComments := x.pendingComments.insert target (bodies ++ [body]) }
    | _, _ => closed

def scopedClass (x : Extraction) : Option String :=
  (x.scopes.current.refOf? .element).filter x.model.classes.contains

def scopedProperty (x : Extraction) : Option String :=
  (x.scopes.current.refOf? .attribute).filter x.model.properties.contains

def scopedAssociation (x : Extraction) : Option String :=
  (x.scopes.current.refOf? .connector).filter x.model.associations.contains

def pushScope (x : Extraction) (kind : ScopeKind) (e : Element) : Extraction :=
  { x with scopes := x.scopes.push (Scope.opening kind (e.get? Vocabulary.xmiIdref)) }

def popScope (x : Extraction) : Extraction := { x with scopes := x.scopes.pop }

def startConnector (x : Extraction) (e : Element) : Extraction :=
  let x := x.pushScope .connector e
  { x with connectorIsAssociation := x.scopedAssociation.isSome, connectorSide := none }

def finishConnector (x : Extraction) : Extraction :=
  { x.popScope with connectorIsAssociation := false, connectorSide := none }

def startSide (x : Extraction) (side : Side) : Extraction :=
  if x.scopes.current.is .connector then { x with connectorSide := some side } else x

def finishSide (x : Extraction) : Extraction := { x with connectorSide := none }

/-- The association of the current connector, if the connector stands for one. -/
def connectedAssociation (x : Extraction) : Option String :=
  if x.connectorIsAssociation then x.scopedAssociation else none

def startRole (x : Extraction) (e : Element) : Extraction :=
  match x.connectorSide with
  | some .source => x.modifyAssociation x.connectedAssociation fun a =>
      { a with sourceRoleName := e.plain? "name" }
  | some .target => x.modifyAssociation x.connectedAssociation fun a =>
      { a with targetRoleName := e.plain? "name" }
  | none => x

def startTags (x : Extraction) : Extraction := { x with scopes := x.scopes.openTags }

def finishTags (x : Extraction) : Extraction := { x with scopes := x.scopes.closeTags }

/-- The tag of deprecation marks what the scope of its container speaks about. -/
def startTag (x : Extraction) (e : Element) : Extraction :=
  if x.scopes.inTags && e.plain? "name" == some Vocabulary.deprecatedTag then
    let message := e.plain? "value"
    let x := x.modifyAssociation x.scopedAssociation fun a =>
      { a with deprecated := true, deprecationMessage := message }
    let x := x.modifyClass x.scopedClass fun c =>
      { c with deprecated := true, deprecationMessage := message }
    x.modifyProperty x.scopedProperty fun p =>
      { p with deprecated := true, deprecationMessage := message }
  else x

def startProperties (x : Extraction) (e : Element) : Extraction :=
  match x.scopes.current.kind with
  | .connector =>
    if e.plain? "ea_type" = some Vocabulary.associationConnector then
      let x : Extraction := { x with connectorIsAssociation := true }
      x.modifyAssociation x.scopedAssociation fun a =>
        { a with bidirectional := e.plain? "direction" == some Vocabulary.bothWays }
    else x
  | .attribute =>
    x.modifyProperty x.scopedProperty fun p =>
      p.addMetadata (leadAttributes Vocabulary.propertiesLead e)
  | .element =>
    x.modifyClass x.scopedClass fun c =>
      (c.addDocumentation (e.plain? "documentation")).addMetadata
        (leadAttributes Vocabulary.propertiesLead e)
  | .none => x

def startProject (x : Extraction) (e : Element) : Extraction :=
  x.modifyClass x.scopedClass (·.addMetadata (leadAttributes Vocabulary.projectLead e))

def startExtendedProperties (x : Extraction) (e : Element) : Extraction :=
  x.modifyClass x.scopedClass (·.addMetadata (leadAttributes Vocabulary.extendedLead e))

/-- Documentation is about the property of an attribute scope, or else about a side of the
association of the current connector. -/
def startDocumentation (x : Extraction) (e : Element) : Extraction :=
  let text := e.plain? "value"
  match x.scopedProperty with
  | some id => x.modifyProperty (some id) (·.addDocumentation text)
  | none => match x.connectorSide with
    | some .source => x.modifyAssociation x.connectedAssociation (·.addSourceDocumentation text)
    | some .target => x.modifyAssociation x.connectedAssociation (·.addTargetDocumentation text)
    | none => x

def startBounds (x : Extraction) (e : Element) : Extraction :=
  x.modifyProperty x.scopedProperty fun p =>
    { p with
      lower := firstNonBlank p.lower (e.plain? "lower")
      upper := firstNonBlank p.upper (e.plain? "upper") }

def startStereotype (x : Extraction) (e : Element) : Extraction :=
  match e.plain? "stereotype" with
  | none => x
  | some text =>
    if blank (some text) then x else x.modifyProperty x.scopedProperty (·.addStereotype text)

/-- An element of the stereotype namespace applies the stereotype of its name to a class and to a
property that it refers to. -/
def applyStereotype (x : Extraction) (e : Element) : Extraction :=
  let target (base : String) := (e.plain? base).filter fun id => !blank (some id)
  let x := x.modifyClass (target "base_Class") (·.addStereotype e.name.base)
  x.modifyProperty (target "base_Property") (·.addStereotype e.name.base)

def begin (x : Extraction) (construct : Construct) (e : Element) : Extraction :=
  match construct with
  | .packagedElement => x.startPackagedElement e
  | .ownedAttribute => x.startOwnedAttribute e
  | .ownedEnd => x.startOwnedEnd e
  | .memberEnd => x.startMemberEnd e
  | .type => x.startType e
  | .lowerValue => x.startLowerValue e
  | .upperValue => x.startUpperValue e
  | .generalization => x.startGeneralization e
  | .ownedComment => x.startOwnedComment e
  | .annotatedElement => x.startAnnotatedElement e
  | .connector => x.startConnector e
  | .source => x.startSide .source
  | .target => x.startSide .target
  | .role => x.startRole e
  | .tags => x.startTags
  | .tag => x.startTag e
  | .element => x.pushScope .element e
  | .properties => x.startProperties e
  | .project => x.startProject e
  | .extendedProperties => x.startExtendedProperties e
  | .attribute => x.pushScope .attribute e
  | .documentation => x.startDocumentation e
  | .bounds => x.startBounds e
  | .stereotype => x.startStereotype e

def finish (x : Extraction) (construct : Construct) : Extraction :=
  match construct with
  | .packagedElement => x.finishPackagedElement
  | .ownedAttribute | .ownedEnd => x.finishProperty
  | .ownedComment => x.finishOwnedComment
  | .connector => x.finishConnector
  | .source | .target => x.finishSide
  | .tags => x.finishTags
  | .element | .attribute => x.popScope
  | _ => x

def step (x : Extraction) : Event → Extraction
  | .start e =>
    match Construct.ofName? e.name.base with
    | some construct => x.begin construct e
    | none => if e.name.space = some Vocabulary.profileSpace then x.applyStereotype e else x
  | .finish name =>
    match Construct.ofName? name.base with
    | some construct => x.finish construct
    | none => x

/-- The waiting comments about one target added to the documentation of the class and of the
property with that identifier. -/
def addComments (m : Model) (comments : String × List String) : Model :=
  let text := some (paragraphBreak.intercalate comments.2)
  (m.modifyClass comments.1 (·.addDocumentation text)).modifyProperty comments.1
    (·.addDocumentation text)

/-- The model once all events are seen: the waiting comments are added. -/
def complete (x : Extraction) : Model := x.pendingComments.entries.foldl addComments x.model

end Extraction

/-- The model that a sequence of events declares. -/
def extract (skipped : List String) (events : List Event) : Model :=
  (events.foldl Extraction.step { skipped := skipped }).complete

end UmlKotlin.Xmi
