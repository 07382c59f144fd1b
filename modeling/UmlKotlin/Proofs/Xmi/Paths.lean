import UmlKotlin.Proofs.Xmi.Facts

/-!
Paths of packages. Main statement: the stacks of packaged elements and of paths follow the nesting of
the document, so that every class and every package has the path of the packages around it, and
keeps it until it is declared again (`paths_follow_nesting`).
-/

set_option autoImplicit false

namespace UmlKotlin.Xmi

open Uml (Model Fact)
open Xml (Element Event Occurrence WellNested openAfter openAfter_prefix occurrences occurrencesIn)
open Extraction (ofEvents)

def pathOf? (m : Model) (id : String) : Option (List String) :=
  (m.classes.get? id).map (·.packagePath)

variable {skipped : List String} {events pre mid : List Event} {around inside : List Element} {e : Element}
  {id : String}

theorem pathOf?_eq (m : Model) (id : String) :
    pathOf? m id = (m.declarations.classes.get? id).map (·.1) := by
  rw [pathOf?, Model.declarations, Table.get?_map, Option.map_map]
  rfl

theorem paths_ofEvents (h : openAfter events = some around) :
    (ofEvents skipped events).model.classes.map (fun _ c => c.packagePath) =
      .ofList ((occurrences events).filterMap fun o =>
        (declaredId? Vocabulary.classType o.element).map (·, pathAt skipped o.around)) := by
  have paths := Uml.Declarations.paths_ofFacts (factsOf skipped events)
  rw [← declarations_ofEvents h, filterMap_factsOf] at paths
  simp only [(entities_factOf? _ _).2.1] at paths
  rw [← paths, Model.declarations, Table.map_map]
  rfl

theorem packages_ofEvents (h : openAfter events = some around) :
    (ofEvents skipped events).model.packages =
      .ofList ((occurrences events).filterMap fun o =>
        (declaredId? Vocabulary.packageType o.element).map
          (·, pathAt skipped (o.element :: o.around))) := by
  have paths := Uml.Declarations.packages_ofFacts (factsOf skipped events)
  rw [← declarations_ofEvents h, filterMap_factsOf] at paths
  simp only [(entities_factOf? _ _).1] at paths
  exact paths

theorem get?_declared {α : Type} {declared? : Element → Option String} {value : Occurrence → α}
    (h : openAfter pre = some around) (given : declared? e = some id)
    (last : ∀ e', .start e' ∈ mid → declared? e' ≠ some id) :
    (Table.ofList ((occurrences (pre ++ .start e :: mid)).filterMap fun o =>
      (declared? o.element).map (·, value o))).get? id = some (value ⟨e, around⟩) := by
  have split : occurrences (pre ++ .start e :: mid) =
      occurrences pre ++ ⟨e, around⟩ :: occurrencesIn (e :: around) mid :=
    Xml.occurrences_append h
  rw [split, List.filterMap_append, List.filterMap_cons_some (by simp [given]; rfl)]
  apply Table.get?_ofList_of_last
  intro entry later
  obtain ⟨o, begun, declared⟩ := List.mem_filterMap.mp later
  obtain ⟨id', given', rfl⟩ := Option.map_eq_some_iff.mp declared
  rintro rfl
  exact last _ (Xml.start_of_occurrence begun) given'

theorem suffix_pathsOf (skipped : List String) (inside packages : List Element) :
    pathsOf skipped packages <:+ pathsOf skipped (inside ++ packages) := by
  induction inside with
  | nil => exact List.suffix_rfl
  | cons e inside ih =>
    rw [List.cons_append, pathsOf_cons]
    exact ih.trans (List.suffix_cons _ _)

/-- What the stacks, the classes and the packages are after some events, where certain elements are
open. -/
structure Follows (skipped : List String) (pre : List Event) (around : List Element) : Prop where
  frames : (ofEvents skipped pre).packaged = (around.filter isPackaged).map frameOf
  count : (ofEvents skipped pre).packagePaths.length = (around.filter opensPackage).length
  top : (ofEvents skipped pre).packagePaths.head? =
    if around.filter opensPackage = [] then none else some (pathAt skipped around)
  path : (ofEvents skipped pre).packagePath = pathAt skipped around
  classes : (ofEvents skipped pre).model.classes.map (fun _ c => c.packagePath) =
    .ofList ((occurrences pre).filterMap fun o =>
      (declaredId? Vocabulary.classType o.element).map (·, pathAt skipped o.around))
  packages : (ofEvents skipped pre).model.packages =
    .ofList ((occurrences pre).filterMap fun o =>
      (declaredId? Vocabulary.packageType o.element).map
        (·, pathAt skipped (o.element :: o.around)))

theorem openings_of_open (skipped : List String) (h : openAfter pre = some around) :
    (ofEvents skipped pre).packaged = (around.filter isPackaged).map frameOf ∧
      (ofEvents skipped pre).packagePaths = pathsOf skipped (around.filter opensPackage) := by
  have openings : (ofEvents skipped pre).openings = openingsAt skipped around :=
    Extraction.openings_ofEvents h
  obtain ⟨-, openings⟩ := Prod.mk.inj openings
  exact Prod.mk.inj openings

theorem follows_of_open (skipped : List String) (h : openAfter pre = some around) :
    Follows skipped pre around := by
  obtain ⟨frames, paths⟩ := openings_of_open skipped h
  have path : (ofEvents skipped pre).packagePath = pathAt skipped around :=
    Extraction.packagePath_eq (Extraction.openings_ofEvents h)
  have top : (pathsOf skipped (around.filter opensPackage)).head? =
      if around.filter opensPackage = [] then none else some (pathAt skipped around) := by
    rw [pathAt]
    cases around.filter opensPackage with
    | nil => rfl
    | cons p packages => simp [pathsOf_cons]
  exact ⟨frames, by rw [paths, length_pathsOf], by rw [paths, top], path, paths_ofEvents h,
    packages_ofEvents h⟩

theorem pathOf?_of_declared (before : openAfter pre = some around)
    (after : openAfter (pre ++ .start e :: mid) = some inside)
    (given : declaredId? Vocabulary.classType e = some id)
    (last : ∀ e', .start e' ∈ mid → declaredId? Vocabulary.classType e' ≠ some id) :
    pathOf? (ofEvents skipped (pre ++ .start e :: mid)).model id = some (pathAt skipped around) := by
  have path := congrArg (Table.get? · id) (follows_of_open skipped after).classes
  rw [get?_declared before given last, Table.get?_map] at path
  exact path

theorem get?_package_of_declared (before : openAfter pre = some around)
    (after : openAfter (pre ++ .start e :: mid) = some inside)
    (given : declaredId? Vocabulary.packageType e = some id)
    (last : ∀ e', .start e' ∈ mid → declaredId? Vocabulary.packageType e' ≠ some id) :
    (ofEvents skipped (pre ++ .start e :: mid)).model.packages.get? id =
      some (pathAt skipped (e :: around)) := by
  rw [(follows_of_open skipped after).packages, get?_declared before given last]

theorem nonempty_of_finish {name : Xml.QualifiedName}
    (h : openAfter (pre ++ [.finish name]) = some around)
    (construct : Construct.ofName? name.base = some .packagedElement) :
    ∃ frame outer, (ofEvents skipped pre).packaged = frame :: outer ∧
      (frame.opensPackage = true → (ofEvents skipped pre).packagePaths ≠ []) := by
  obtain ⟨e, rfl, opened⟩ := Xml.open_of_append_finish h
  have packaged : isPackaged e = true := by
    rw [isPackaged, constructOf?, construct]
    rfl
  obtain ⟨frames, paths⟩ := openings_of_open skipped opened
  rw [List.filter_cons_of_pos packaged, List.map_cons] at frames
  refine ⟨_, _, frames, fun package => ?_⟩
  have opens : opensPackage e = true := package
  rw [paths, List.filter_cons_of_pos opens, pathsOf_cons]
  exact List.cons_ne_nil _ _

/-- The stacks follow the nesting, at every point of a document: the packaged elements are those that
are open, and the paths are those of the open packages. A class and a package keep the path they get
until they are declared again; paths of what stays open stay as they are; closing an element
restores the stacks and meets no empty one; and in the end both are empty. -/
theorem paths_follow_nesting (skipped : List String) (events : List Event)
    (h : WellNested events) :
    (∀ pre post, events = pre ++ post →
      ∃ around, openAfter pre = some around ∧ Follows skipped pre around) ∧
    (∀ pre e mid post around, events = pre ++ .start e :: mid ++ post →
      openAfter pre = some around →
      (∀ id ∈ declaredId? Vocabulary.classType e,
        (∀ e', .start e' ∈ mid → declaredId? Vocabulary.classType e' ≠ some id) →
        pathOf? (ofEvents skipped (pre ++ .start e :: mid)).model id =
          some (pathAt skipped around)) ∧
      ∀ id ∈ declaredId? Vocabulary.packageType e,
        (∀ e', .start e' ∈ mid → declaredId? Vocabulary.packageType e' ≠ some id) →
        (ofEvents skipped (pre ++ .start e :: mid)).model.packages.get? id =
          some (pathAt skipped (e :: around))) ∧
    (∀ pre mid post around inside, events = pre ++ mid ++ post → openAfter pre = some around →
      openAfter (pre ++ mid) = some (inside ++ around) →
      (ofEvents skipped pre).packagePaths <:+ (ofEvents skipped (pre ++ mid)).packagePaths) ∧
    (∀ pre e inner post, events = pre ++ .start e :: inner ++ [.finish e.name] ++ post →
      WellNested inner →
      (ofEvents skipped (pre ++ .start e :: inner ++ [.finish e.name])).openings =
        (ofEvents skipped pre).openings) ∧
    (∀ pre name post, events = pre ++ [.finish name] ++ post →
      Construct.ofName? name.base = some .packagedElement →
      ∃ frame outer, (ofEvents skipped pre).packaged = frame :: outer ∧
        (frame.opensPackage = true → (ofEvents skipped pre).packagePaths ≠ [])) ∧
    (ofEvents skipped events).packaged = [] ∧ (ofEvents skipped events).packagePaths = [] ∧
    (∀ id, pathOf? (extract skipped events) id = pathOf? (ofEvents skipped events).model id) ∧
    (extract skipped events).packages = (ofEvents skipped events).model.packages := by
  obtain ⟨noFrames, noPaths⟩ := openings_of_open skipped h
  refine ⟨?point, ?kept, ?suffix, ?closing, ?pop, noFrames, noPaths, ?last,
    congrArg Uml.Declarations.packages (extract_declarations _ _)⟩
  case point =>
    rintro pre post rfl
    obtain ⟨around, opened⟩ := openAfter_prefix h
    exact ⟨around, opened, follows_of_open skipped opened⟩
  case kept =>
    rintro pre e mid post around rfl before
    obtain ⟨inside, after⟩ := openAfter_prefix h
    exact ⟨fun id => pathOf?_of_declared before after,
      fun id => get?_package_of_declared before after⟩
  case suffix =>
    rintro pre mid post around inside rfl before after
    rw [(openings_of_open skipped before).2, (openings_of_open skipped after).2, List.filter_append]
    exact suffix_pathsOf _ _ _
  case closing =>
    rintro pre e inner post rfl nested
    have split : pre ++ .start e :: inner ++ [.finish e.name] ++ post =
        pre ++ (.start e :: inner ++ [.finish e.name] ++ post) := by simp
    obtain ⟨around, opened⟩ := openAfter_prefix (split ▸ h)
    rw [Extraction.openings_ofEvents opened,
      Extraction.openings_ofEvents (Xml.openAfter_element opened nested)]
  case pop =>
    rintro pre name post rfl construct
    obtain ⟨around, closed⟩ := openAfter_prefix h
    exact nonempty_of_finish closed construct
  case last =>
    intro id
    rw [pathOf?_eq, extract_declarations, ← pathOf?_eq]

def packagedElement (kind id name : String) : Element where
  name := ⟨none, "packagedElement"⟩
  attributes := [⟨Vocabulary.xmiType, kind⟩, ⟨Vocabulary.xmiId, id⟩, ⟨⟨none, "name"⟩, name⟩]

theorem path_of_class_in_packages :
    let root := packagedElement Vocabulary.packageType "M" "Model"
    let inner := packagedElement Vocabulary.packageType "P" "felles"
    let person := packagedElement Vocabulary.classType "C" "Person"
    let events := [Event.start root, .start inner, .start person, .finish person.name,
      .finish inner.name, .finish root.name]
    WellNested events ∧ pathOf? (ofEvents ["Model"] events).model "C" = some ["felles"] ∧
      (ofEvents ["Model"] events).packagePaths = [] := by
  intro root inner person events
  have nested : WellNested events := by decide
  have follows := paths_follow_nesting ["Model"] events nested
  have kept := follows.2.1 [.start root, .start inner] person
    [.finish person.name, .finish inner.name, .finish root.name] [] [inner, root] rfl (by decide)
  have path := kept.1 "C" (by decide) (by simp)
  exact ⟨nested, path.trans (by decide), follows.2.2.2.2.2.2.1⟩

end UmlKotlin.Xmi
