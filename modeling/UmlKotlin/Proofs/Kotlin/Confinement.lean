import UmlKotlin.Proofs.Kotlin.Identifier
import UmlKotlin.Proofs.Kotlin.Layout
import UmlKotlin.Proofs.Kotlin.Literal
import UmlKotlin.Proofs.Kotlin.Origin

/-!
What is said about the entities of a model stays in comments and deprecation marks. Main statement:
the code of a file is the file of the model in which nothing is said, so models that differ in
nothing else give files with the same code (`code_confined`).
-/

set_option autoImplicit false

namespace UmlKotlin

open Text (OneLine)

/-! ### Settings without line feeds -/

structure Profile.Target.Unbroken (t : Profile.Target) : Prop where
  defaultType : ∀ name ∈ t.defaultType, OneLine name
  primitives : ∀ name, some name ∈ t.primitives.values → OneLine name
  collections : ∀ c ∈ t.collections.values,
    OneLine c.type.display ∧ ∀ text ∈ c.empty, OneLine text

structure Kotlin.Markers.Unbroken (k : Kotlin.Markers) : Prop where
  package : OneLine k.package
  rootEntity : ∀ name ∈ k.rootEntity, OneLine name
  complexDatatype : ∀ name ∈ k.complexDatatype, OneLine name

/-- A generator whose root package, profile and markers are texts without line feeds. -/
structure Kotlin.Generator.Unbroken (g : Kotlin.Generator) : Prop where
  root : OneLine g.root
  target : g.target.Unbroken
  markers : g.markers.Unbroken

namespace Profile.Target

variable {t : Target}

theorem Unbroken.primitive (h : t.Unbroken) {raw : Option String} {name : String}
    (found : t.primitive raw = some name) : OneLine name := by
  cases raw with
  | none => exact h.defaultType name found
  | some raw =>
    cases known : t.primitives.get? (normalize raw) with
    | none => exact h.defaultType name (by simpa [Target.primitive, known] using found)
    | some type =>
      obtain rfl : type = some name := by simpa [Target.primitive, known] using found
      exact h.primitives name (Table.mem_values.mpr ⟨_, known⟩)

theorem Unbroken.collection (h : t.Unbroken) {ordered : Bool} {c : CollectionType}
    (found : t.collection? ordered = some c) :
    OneLine c.type.display ∧ ∀ text ∈ c.empty, OneLine text :=
  h.collections c (Table.mem_values.mpr ⟨_, found⟩)

theorem builtins_package {name package : String} (h : t.builtins.get? name = some package) :
    package = simplePackage ∨ package = collectionPackage := by
  rw [builtins, Table.get?_ofList] at h
  obtain ⟨e, last, rfl⟩ := Option.map_eq_some_iff.mp h
  have member := List.mem_of_mem_filter (List.mem_of_getLast? last)
  rcases List.mem_append.mp member with member | member
  · obtain ⟨name, -, rfl⟩ := List.mem_map.mp member
    exact .inl rfl
  · obtain ⟨name, -, rfl⟩ := List.mem_map.mp member
    exact .inr rfl

theorem oneLine_unnamedText {type : Data.Scalar} (h : OneLine type.display) :
    OneLine (t.unnamedText type) := by
  have package : OneLine (collectionPackage ++ ".") := by decide
  unfold unnamedText
  split
  · split
    · exact h
    · exact Text.oneLine_append.mpr ⟨package, h⟩
  · exact h

theorem Unbroken.bundled : Bundled.target.Unbroken where
  defaultType := by decide
  primitives name member := by
    have all : ∀ type ∈ Bundled.target.primitives.values, ∀ name ∈ type, OneLine name := by decide
    exact all (some name) member name rfl
  collections := by decide

end Profile.Target

namespace Kotlin

theorem Markers.Unbroken.default : ({} : Markers).Unbroken :=
  ⟨by decide, by decide, by decide⟩

/-! ### Names and messages -/

theorem oneLine_className (reserved : List String) (name : Option String) :
    OneLine (className reserved name) :=
  fun feed => absurd (isAlphanum_of_mem_className feed) (by decide)

theorem oneLine_propertyName (reserved : List String) (name : Option String) :
    OneLine (propertyName reserved name) :=
  fun feed => absurd (isAlphanum_of_mem_propertyName feed) (by decide)

theorem oneLine_packageName (reserved : List String) {root : String} (path : List String)
    (h : OneLine root) : OneLine (packageName reserved root path) := by
  have point : OneLine "." := by decide
  apply Text.oneLine_intercalate point
  intro segment member
  rcases List.mem_cons.mp member with rfl | member
  · exact h
  · obtain ⟨name, -, rfl⟩ := List.mem_map.mp member
    exact fun feed => absurd (isAlphanum_of_mem_packageSegment feed) (by decide)

theorem begins_propertyName (reserved : List String) (name : Option String) :
    Source.Begins (propertyName reserved name) := by
  cases chars : (propertyName reserved name).toList with
  | nil => exact absurd (String.toList_eq_nil_iff.mp chars) (propertyName_ne_empty reserved name)
  | cons c cs =>
    refine ⟨c, cs, chars, ?_⟩
    have first : c ∈ (propertyName reserved name).toList := chars ▸ List.mem_cons_self
    rcases isAlphanum_of_mem_propertyName first with word | rfl | rfl
    · refine ⟨isSpace_of_isAlphanum word, ?_, ?_⟩
      · rintro rfl
        exact absurd word (by decide)
      · rintro rfl
        exact absurd word (by decide)
    · decide
    · decide

theorem oneLine_deprecationMessage (message : Option String) :
    OneLine (Literal.deprecationMessage message) := by
  intro feed
  rw [Literal.deprecationMessage, String.toList_ofList] at feed
  exact (Literal.ne_lineEnd_of_mem_escapeChars feed).1 rfl

/-! ### References -/

def Reference.Unbroken : Reference → Prop
  | .named package name => OneLine package ∧ OneLine name
  | .verbatim text => OneLine text

theorem oneLine_qualify {package name : String} (hp : OneLine package) (hn : OneLine name) :
    OneLine (qualify package name) := by
  have point : OneLine "." := by decide
  unfold qualify
  split
  · exact hn
  · simp [hp, hn, point]

theorem Reference.Unbroken.spell {r : Reference} (h : r.Unbroken) (s : ImportScope) :
    OneLine (s.spell r) := by
  cases r with
  | verbatim text => exact h
  | named package name =>
    rw [ImportScope.spell]
    split
    · exact h.2
    · exact oneLine_qualify h.1 h.2

theorem FieldType.oneLine_text {t : FieldType} (h : ∀ r ∈ t.references, r.Unbroken)
    (s : ImportScope) : OneLine (t.text s.spell) := by
  have question : OneLine "?" := by decide
  have opening : OneLine "<" := by decide
  have closing : OneLine ">" := by decide
  cases t with
  | single base nullable =>
    have base := (h base (by simp [references])).spell s
    cases nullable <;> simp [text, base, question]
  | many collection base empty =>
    have base := (h base (by simp [references])).spell s
    have collection := (h collection (by simp [references])).spell s
    simp [text, base, collection, opening, closing]

namespace Generator

variable {g : Generator} {id : String} {c : Uml.Class}

theorem unbroken_builtinReference {name : String} (h : OneLine name) :
    (g.builtinReference name).Unbroken := by
  have packages : OneLine Profile.Target.simplePackage ∧ OneLine Profile.Target.collectionPackage :=
    by decide
  unfold builtinReference
  split
  · rename_i package found
    split
    · exact h
    · rcases Profile.Target.builtins_package found with rfl | rfl
      · exact ⟨packages.1, h⟩
      · exact ⟨packages.2, h⟩
  · exact h

theorem Unbroken.reference (h : g.Unbroken) {r : Reference} (origin : g.Origin r) :
    r.Unbroken := by
  cases origin with
  | listed found => exact ⟨oneLine_packageName _ _ h.root, oneLine_className _ _⟩
  | primitive found => exact unbroken_builtinReference (h.target.primitive found)
  | @collection ordered c found =>
    have type := (h.target.collection found).1
    unfold collectionReference
    split
    · rename_i name named
      have text : c.type = .text name := by
        unfold Profile.CollectionType.name? at named
        split at named
        · rename_i same
          cases named
          exact same
        · cases named
      rw [text] at type
      exact unbroken_builtinReference type
    · exact Profile.Target.oneLine_unnamedText type
  | marker given =>
    exact ⟨h.markers.package, given.elim (h.markers.rootEntity _) (h.markers.complexDatatype _)⟩

/-! ### Files -/

theorem Unbroken.plan (h : g.Unbroken) {d : ClassDeclaration} (hd : g.plan id c = .ok d) :
    d.Unbroken ∧ ∀ p ∈ d.parameters, Source.Begins p.name := by
  obtain ⟨o, ho, rfl⟩ := plan_eq_ok_iff.mp hd
  have reference : ∀ r ∈ o.references, r.Unbroken := fun r hr =>
    h.reference (origin_of_mem_references ho r hr)
  have text {r : Reference} (hr : r ∈ o.references) : OneLine ((g.closed c o).spell r) :=
    (reference r hr).spell _
  have field {f : Field} (hf : f ∈ o.inherited ++ o.own) :
      OneLine (f.type.text (g.closed c o).spell) ∧ ∀ value ∈ f.type.default, OneLine value := by
    obtain ⟨owner, meant⟩ := meantType_of_outline ho hf
    refine ⟨FieldType.oneLine_text (fun r hr => h.reference (origin_of_meantType meant r hr)) _, ?_⟩
    obtain ⟨base, -, same | ⟨ordered, c, collection, same⟩⟩ := meantType_cases meant
    · have null : OneLine "null" := by decide
      rw [same, FieldType.default]
      split <;> simp [null]
    · rw [same]
      exact (h.target.collection collection).2
  -- of what is said, a message is the one thing that is written as one line
  have deprecation {deprecated : Bool} {message : Option String} :
      ∀ text ∈ deprecationOf deprecated message, OneLine text := by
    unfold deprecationOf
    split <;> simp [oneLine_deprecationMessage]
  have parameters : ∀ p ∈ (o.declaration g c (g.closed c o).spell).parameters,
      p.Unbroken ∧ Source.Begins p.name := by
    intro p hp
    rcases List.mem_append.mp hp with hp | hp
    · obtain ⟨f, hf, rfl⟩ := List.mem_map.mp hp
      obtain ⟨type, default⟩ := field (List.mem_append_left _ hf)
      exact ⟨⟨oneLine_propertyName _ _, type, default, by simp [Field.inherited]⟩,
        begins_propertyName _ _⟩
    · obtain ⟨f, hf, rfl⟩ := List.mem_map.mp hp
      obtain ⟨type, default⟩ := field (List.mem_append_right _ hf)
      exact ⟨⟨oneLine_propertyName _ _, type, default, deprecation⟩, begins_propertyName _ _⟩
  refine ⟨?_, fun p hp => (parameters p hp).2⟩
  constructor
  case package => exact oneLine_packageName _ _ h.root
  case name => exact oneLine_className _ _
  case parameters => exact fun p hp => (parameters p hp).1
  case superclass =>
    intro s hs
    obtain ⟨r, hr, rfl⟩ := Option.map_eq_some_iff.mp hs
    exact text (by simp [Outline.references, hr])
  case arguments =>
    intro a ha
    obtain ⟨p, hp, rfl⟩ := List.mem_map.mp ha
    exact (parameters p (List.mem_append_left _ hp)).1.name
  case interfaces =>
    intro i hi
    obtain ⟨r, hr, rfl⟩ := List.mem_map.mp hi
    exact text (by simp [Outline.references, hr])
  case imports =>
    intro full imported
    have accounts : (g.opened c).Accounts o.references _ :=
      ImportScope.accounts_referAll rfl o.references
    obtain ⟨package, name, member, rfl, -⟩ := accounts.imported (mem_distinctSorted.mp imported)
    exact oneLine_qualify (reference _ member).1 (reference _ member).2
  case deprecation => exact deprecation

theorem render_bare (h : g.Unbroken) (id : String) (c : Uml.Class) :
    (g.render id c).map Source.code = (g.bare.render id c.bare).map (Text.splitAt '\n') := by
  rw [render, render, plan_bare]
  cases planned : g.plan id c with
  | error e => rfl
  | ok d =>
    obtain ⟨unbroken, names⟩ := h.plan planned
    exact congrArg Except.ok (Source.code_text unbroken names)

/-- Models that differ in nothing but what is said about their entities give files with the same
code, which is the file of a model in which nothing is said. A class without a circle above it has
its file in both. -/
theorem code_confined {m n : Uml.Model} (resolved : g.model = m.resolve) (h : g.Unbroken)
    (same : m.resolve.bare = n.resolve.bare) (hc : g.model.classes.get? id = some c) :
    ∃ c', n.resolve.classes.get? id = some c' ∧
      (g.render id c).map Source.code = (g.bare.render id c.bare).map (Text.splitAt '\n') ∧
      (Generator.render { g with model := n.resolve } id c').map Source.code =
        (g.bare.render id c.bare).map (Text.splitAt '\n') ∧
      (g.target.Complete → g.markers.Named → g.model.DetachedClosed →
        (∃ above, g.model.ancestors id c = .ok above) →
        ∃ file file', g.render id c = .ok file ∧
          Generator.render { g with model := n.resolve } id c' = .ok file' ∧
          Source.code file = Source.code file') := by
  have model : g.model.bare = n.resolve.bare := resolved ▸ same
  have bare : Generator.bare { g with model := n.resolve } = g.bare := by
    rw [Generator.bare, Generator.bare, model]
  obtain ⟨c', hc', said⟩ : ∃ c', n.resolve.classes.get? id = some c' ∧ c'.bare = c.bare := by
    have classes : (n.resolve.classes.get? id).map Uml.Class.bare =
        (g.model.classes.get? id).map Uml.Class.bare := by
      have tables := congrArg (fun m => m.classes.get? id) model
      simpa only [Uml.Model.bare, Table.get?_map] using tables.symm
    rw [hc, Option.map_some] at classes
    exact Option.map_eq_some_iff.mp classes
  have first := render_bare h id c
  have second : (Generator.render { g with model := n.resolve } id c').map Source.code =
      (g.bare.render id c.bare).map (Text.splitAt '\n') := by
    rw [render_bare (g := { g with model := n.resolve }) ⟨h.root, h.target, h.markers⟩, bare, said]
  refine ⟨c', hc', first, second, ?_⟩
  rintro target markers detached ⟨above, up⟩
  obtain ⟨d, hd⟩ := exists_plan (resolved ▸ m.resolve_closed) target markers detached hc up
  have file : g.render id c = .ok (Source.text (Source.classLines d)) := by
    rw [render, hd]
    rfl
  rw [file] at first
  -- the other file exists because its code does
  cases other : Generator.render { g with model := n.resolve } id c' with
  | error e =>
    rw [other, ← first] at second
    cases second
  | ok file' =>
    rw [other, ← first] at second
    exact ⟨_, file', file, rfl, (Except.ok.inj second).symm⟩

private def loans (said : Option String) (deprecated : Bool) : Uml.Model where
  classes := ⟨[("L", {
    id := "L"
    name := "Loan"
    abstract := true
    members := [.listed "b"]
    documentation := said
    deprecated := deprecated
    deprecationMessage := said })], by simp⟩
  properties := ⟨[("b", {
    id := "b"
    name := some "book"
    documentation := said
    deprecated := deprecated
    deprecationMessage := said })], by simp⟩

private def loanFiles (said : Option String) (deprecated : Bool) : Generator where
  model := (loans said deprecated).resolve
  root := "no.fint.model"
  target := Profile.Bundled.target

private def loan (said : Option String) (deprecated : Bool) : Uml.Class where
  id := "L"
  name := "Loan"
  abstract := true
  members := [.listed "b"]
  documentation := said
  deprecated := deprecated
  deprecationMessage := said

private def hostile : String := "*/ val a = 1\u2028*/\n\")\nval b = 2 /*"

theorem code_confined_loan : ∃ file file', (loanFiles (some hostile) true).render "L"
      (loan (some hostile) true) = .ok file ∧
    (loanFiles none false).render "L" (loan none false) = .ok file' ∧
    Source.code file = Source.code file' := by
  have unbroken : (loanFiles (some hostile) true).Unbroken :=
    ⟨by decide, .bundled, .default⟩
  have same : (loans (some hostile) true).resolve.bare = (loans none false).resolve.bare :=
    Uml.Model.bare_resolve _ rfl
  have listed : (loanFiles (some hostile) true).model.classes.get? "L" =
      some (loan (some hostile) true) := rfl
  have detached : (loanFiles (some hostile) true).model.DetachedClosed := by
    apply Uml.Model.detachedClosed_of_listed
    have classes : (loanFiles (some hostile) true).model.classes.values =
        [loan (some hostile) true] := rfl
    simp [classes, loan]
  have up : (loanFiles (some hostile) true).model.ancestors "L" (loan (some hostile) true) = .ok [] :=
    (Uml.Model.ancestors_eq_ok_iff listed).mpr ⟨.top rfl, by decide⟩
  obtain ⟨c', hc', -, -, exist⟩ := code_confined rfl unbroken same listed
  cases (rfl : (loanFiles none false).model.classes.get? "L" = some (loan none false)).symm.trans hc'
  exact exist Profile.Bundled.target_complete ⟨⟨_, rfl⟩, ⟨_, rfl⟩⟩ detached ⟨_, up⟩

end Generator

end Kotlin

end UmlKotlin
