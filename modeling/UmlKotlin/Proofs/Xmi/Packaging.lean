import Mathlib.Data.List.Infix
import UmlKotlin.Proofs.Xmi.Declaration
import UmlKotlin.Proofs.Xml.Nesting

/-!
The packaged elements that are open. Main statement: at every point of well-nested events the stack
of packaged elements is that of the open ones, and the stack of paths has one entry for each open
package, which names the packages from the outside in (`openings_ofEvents`).
-/

set_option autoImplicit false

namespace UmlKotlin.Xmi

open Text (blank)
open Xml (Element Event openAfter nesting_induction)

def isPackaged (e : Element) : Bool := constructOf? e == some .packagedElement

def kindOf (e : Element) : String := (e.get? Vocabulary.xmiType).getD ""

def givenId? (e : Element) : Option String :=
  (e.get? Vocabulary.xmiId).filter fun id => !blank (some id)

def isOfKind (kind : String) (e : Element) : Bool := isPackaged e && kindOf e == kind

def declaredId? (kind : String) (e : Element) : Option String :=
  if isOfKind kind e then givenId? e else none

def opensPackage (e : Element) : Bool := (declaredId? Vocabulary.packageType e).isSome

def innermostId? (kind : String) (around : List Element) : Option String :=
  (around.find? (isOfKind kind)).bind givenId?

/-- The name that a package adds to a path: blank and skipped names do not count. -/
def countedName? (skipped : List String) (e : Element) : Option String :=
  (e.plain? "name").filter fun name => !(blank (some name) || skipped.contains name)

def namesOf (skipped : List String) (packages : List Element) : List String :=
  packages.reverse.filterMap (countedName? skipped)

def pathAt (skipped : List String) (around : List Element) : List String :=
  namesOf skipped (around.filter opensPackage)

def pathsOf (skipped : List String) (packages : List Element) : List (List String) :=
  packages.tails.dropLast.map (namesOf skipped)

def frameOf (e : Element) : Frame := ⟨kindOf e, givenId? e, opensPackage e⟩

def openingsAt (skipped : List String) (around : List Element) :
    List String × List Frame × List (List String) :=
  (skipped, (around.filter isPackaged).map frameOf, pathsOf skipped (around.filter opensPackage))

variable {skipped : List String} {around : List Element} {x : Extraction} {e : Element}

theorem namesOf_cons (skipped : List String) (e : Element) (packages : List Element) :
    namesOf skipped (e :: packages) =
      namesOf skipped packages ++ (countedName? skipped e).toList := by
  simp [namesOf, List.filterMap_eq_flatMap_toList]

theorem pathsOf_cons (skipped : List String) (e : Element) (packages : List Element) :
    pathsOf skipped (e :: packages) =
      namesOf skipped (e :: packages) :: pathsOf skipped packages := by
  cases packages <;> rfl

theorem head?_pathsOf (skipped : List String) (packages : List Element) :
    (pathsOf skipped packages).head?.getD [] = namesOf skipped packages := by
  cases packages with
  | nil => rfl
  | cons e packages => rw [pathsOf_cons]; rfl

theorem length_pathsOf (skipped : List String) (packages : List Element) :
    (pathsOf skipped packages).length = packages.length := by
  simp [pathsOf, List.length_tails]

theorem not_opensPackage (h : isPackaged e = false) : opensPackage e = false := by
  simp [opensPackage, declaredId?, isOfKind, h]

namespace Extraction

theorem packagePath_eq (h : x.openings = openingsAt skipped around) :
    x.packagePath = pathAt skipped around := by
  obtain ⟨-, h⟩ := Prod.mk.inj h
  obtain ⟨-, paths⟩ := Prod.mk.inj h
  rw [packagePath, paths, head?_pathsOf]
  rfl

theorem pathInside_eq (h : x.openings = openingsAt skipped around) (package : opensPackage e = true) :
    x.pathInside (e.plain? "name") = pathAt skipped (e :: around) := by
  have same : x.skipped = skipped := (Prod.mk.inj h).1
  have outside : x.packagePath = namesOf skipped (around.filter opensPackage) := packagePath_eq h
  rw [pathAt, List.filter_cons_of_pos package, namesOf_cons, ← outside, countedName?, ← same]
  cases e.plain? "name" with
  | none => simp [pathInside]
  | some name =>
    by_cases left : (blank (some name) || x.skipped.contains name) = true
    · rw [pathInside, if_pos left, Option.filter_some_neg (by rw [left]; decide)]
      simp
    · rw [pathInside, if_neg left, Option.filter_some_pos (by simpa using left)]
      simp

theorem opensPackage_eq (packaged : isPackaged e = true) :
    opensPackage e = ((givenId? e).isSome && kindOf e == Vocabulary.packageType) := by
  simp only [opensPackage, declaredId?, isOfKind, packaged, Bool.true_and]
  split
  · simp [*]
  · simp [*]

theorem openings_startPackagedElement (x : Extraction) (packaged : isPackaged e = true) :
    (x.startPackagedElement e).openings = (x.skipped, frameOf e :: x.packaged,
      if opensPackage e then x.pathInside (e.plain? "name") :: x.packagePaths
      else x.packagePaths) := by
  rw [frameOf, opensPackage_eq packaged, kindOf, startPackagedElement]
  cases given : givenId? e with
  | none =>
    rw [givenId?] at given
    simp only [given]
    rfl
  | some id =>
    rw [givenId?] at given
    simp only [given]
    by_cases package : (e.get? Vocabulary.xmiType).getD "" = Vocabulary.packageType
    · simp [openings, package]
    · rw [beq_false_of_ne package, if_neg package]
      split
      · rfl
      · split
        · rfl
        · split <;> rfl

theorem openings_start_packaged (h : x.openings = openingsAt skipped around)
    (packaged : isPackaged e = true) :
    (x.startPackagedElement e).openings = openingsAt skipped (e :: around) := by
  rw [openings_startPackagedElement x packaged]
  obtain ⟨skips, rest⟩ := Prod.mk.inj h
  obtain ⟨frames, paths⟩ := Prod.mk.inj rest
  cases package : opensPackage e with
  | true =>
    have path := pathInside_eq h package
    rw [pathAt, List.filter_cons_of_pos package] at path
    simp [openingsAt, packaged, package, pathsOf_cons, skips, frames, paths, path]
  | false => simp [openingsAt, packaged, package, skips, frames, paths]

theorem openings_finish_packaged {outer : List Element}
    (h : x.openings = openingsAt skipped (e :: outer)) (packaged : isPackaged e = true) :
    x.finishPackagedElement.openings = openingsAt skipped outer := by
  obtain ⟨skips, h⟩ := Prod.mk.inj h
  obtain ⟨frames, paths⟩ := Prod.mk.inj h
  rw [List.filter_cons_of_pos packaged, List.map_cons] at frames
  simp only [finishPackagedElement, frames, openings, openingsAt, skips]
  cases package : opensPackage e with
  | true =>
    rw [List.filter_cons_of_pos package, pathsOf_cons] at paths
    simp [frameOf, package, paths]
  | false =>
    rw [List.filter_cons_of_neg (by simp [package])] at paths
    simp [frameOf, package, paths]

theorem innermost_eq (h : x.openings = openingsAt skipped around) (kind : String) :
    x.innermost kind = innermostId? kind around := by
  obtain ⟨-, h⟩ := Prod.mk.inj h
  obtain ⟨frames, -⟩ := Prod.mk.inj h
  have found : x.packaged.find? (fun f => f.kind == kind) =
      (around.find? (isOfKind kind)).map frameOf := by
    rw [frames, List.find?_map, List.find?_filter]
    congr 2
    funext e
    by_cases same : kindOf e = kind
    · simp [isOfKind, frameOf, same]
    · simp [isOfKind, frameOf, same]
  rw [innermost, found, Option.bind_map]
  rfl

def ofEvents (skipped : List String) (events : List Event) : Extraction :=
  events.foldl step { skipped }

theorem ofEvents_append (pre post : List Event) :
    ofEvents skipped (pre ++ post) = post.foldl step (ofEvents skipped pre) :=
  List.foldl_append

theorem ofEvents_concat (pre : List Event) (event : Event) :
    ofEvents skipped (pre ++ [event]) = (ofEvents skipped pre).step event := by
  rw [ofEvents_append, List.foldl_cons, List.foldl_nil]

theorem openings_ofEvents {events : List Event} (h : openAfter events = some around) :
    (ofEvents skipped events).openings = openingsAt skipped around := by
  refine nesting_induction (motive := fun events around =>
    (ofEvents skipped events).openings = openingsAt skipped around) ?_ ?_ ?_ h
  · rfl
  · intro pre around e _ before
    rw [ofEvents_concat]
    cases packaged : isPackaged e with
    | true =>
      rw [step_start_eq (eq_of_beq packaged)]
      exact openings_start_packaged before packaged
    | false =>
      rw [openings_step_start (ne_of_beq_false packaged), before]
      simp [openingsAt, packaged, not_opensPackage packaged]
  · intro pre e outer _ before
    rw [ofEvents_concat]
    cases packaged : isPackaged e with
    | true =>
      rw [step_finish_eq (eq_of_beq packaged)]
      exact openings_finish_packaged before packaged
    | false =>
      rw [openings_step_finish (ne_of_beq_false packaged), before]
      simp [openingsAt, packaged, not_opensPackage packaged]

end Extraction

end UmlKotlin.Xmi
