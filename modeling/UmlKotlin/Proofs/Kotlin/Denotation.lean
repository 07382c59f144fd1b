import UmlKotlin.Proofs.Kotlin.Identifier
import UmlKotlin.Proofs.Kotlin.Origin
import UmlKotlin.Proofs.Kotlin.Visibility

/-!
What the references of generated files denote. All types that a file refers to are declared or
visible everywhere (`refersTo_outline`). Main statement: every reference is read as the type that is
meant exactly when no built-in type that the file refers to has the name of another type of its
package, and no marker has a name with points (`references_read_iff`).
-/

set_option autoImplicit false

namespace UmlKotlin.Kotlin

namespace Generator

/-- The packages and names of all types that are generated or that generated types refer to. -/
def declaredTypes (g : Generator) : List (String × String) :=
  g.model.classes.values.map (fun c => (g.packageOf c, g.classNameOf c)) ++
    (g.markers.rootEntity.toList ++ g.markers.complexDatatype.toList).map (g.markers.package, ·)

/-- A reference to a type that is declared or that every file sees. Only markers may have names with
points. -/
def RefersTo (g : Generator) : Reference → Prop
  | .named package name => package ≠ "" ∧
      ((package, name) ∈ g.declaredTypes ∨ defaultTypes.lookup name = some package) ∧
      ('.' ∈ name.toList → package = g.markers.package)
  | .verbatim _ => False

variable {g : Generator}

theorem declared_of_get? {key : String} {c : Uml.Class} (h : g.model.classes.get? key = some c) :
    (g.packageOf c, g.classNameOf c) ∈ g.declaredTypes :=
  List.mem_append_left _ (List.mem_map.mpr
    ⟨c, Table.mem_values.mpr ⟨key, h⟩, rfl⟩)

theorem default_of_bundled (name : String) :
    Profile.Bundled.target.builtins.get? name = defaultTypes.lookup name := by
  rw [Table.get?, Profile.Bundled.builtins_entries]
  rfl

theorem refersTo_builtin (target : g.target = Profile.Bundled.target) {name package : String}
    (h : g.target.builtins.get? name = some package) : g.RefersTo (g.builtinReference name) := by
  have default : defaultTypes.lookup name = some package := by
    rw [← default_of_bundled, ← target, h]
  obtain ⟨named, simple⟩ := defaultType_names default
  have reference : g.builtinReference name = .named package name := by
    simp only [builtinReference, h, if_neg named]
  rw [reference]
  exact ⟨named, .inr default, fun point => (simple point).elim⟩

theorem refersTo_outline (closed : g.model.Closed) (target : g.target = Profile.Bundled.target)
    (root : g.root ≠ "") (package : g.markers.package ≠ "") {id : String} {c : Uml.Class}
    {o : Outline} (ho : g.outline id c = .ok o) : ∀ r ∈ o.references, g.RefersTo r := by
  intro r hr
  cases origin_of_mem_references ho r hr with
  | @listed key s found =>
    refine ⟨packageName_ne_empty root, .inl ?_, fun point => ?_⟩
    · exact declared_of_get? ((listed_eq_ok_iff closed).mp found)
    · exact absurd (isAlphanum_of_mem_className point) (by decide)
  | @primitive raw name found =>
    obtain ⟨name', found', builtin⟩ := Profile.Bundled.builtin_of_primitive raw
    rw [← target] at found' builtin
    cases found.symm.trans found'
    exact refersTo_builtin target builtin
  | @collection ordered c found =>
    obtain ⟨c', name, found', named, builtin⟩ := Profile.Bundled.builtin_of_collection ordered
    rw [← target] at found' builtin
    cases found.symm.trans found'
    simpa only [collectionReference, named] using refersTo_builtin target builtin
  | @marker name given =>
    refine ⟨package, .inl (List.mem_append_right _ ?_), fun _ => rfl⟩
    refine List.mem_map.mpr ⟨name, List.mem_append.mpr ?_, rfl⟩
    exact given.imp (fun h => by simp [h]) (fun h => by simp [h])

theorem spell_point {c : Uml.Class} {o : Outline} {q n : String}
    (target : g.target = Profile.Bundled.target) (refers : ∀ r ∈ o.references, g.RefersTo r)
    (member : .named q n ∈ o.references) (point : '.' ∈ n.toList) :
    (g.closed c o).spell (.named q n) = n := by
  have marker {p : String} (h : .named p n ∈ o.references) : p = g.markers.package :=
    (refers (.named p n) h).2.2 point
  obtain ⟨full, bound⟩ := Option.isSome_iff_exists.mp
    (ImportScope.settled_referAll (g.opened c) member)
  have same : full = qualify q n := by
    rcases bound_origin bound with ⟨own, -⟩ | ⟨-, p, builtin, -⟩ | ⟨-, p, hp, same, -⟩
    · rw [own] at point
      exact absurd (isAlphanum_of_mem_className point) (by decide)
    · rw [target, default_of_bundled] at builtin
      exact ((defaultType_names builtin).2 point).elim
    · rw [same, marker hp, marker member]
  rw [closed, ImportScope.spell, bound, same, if_pos rfl]

/-- Every reference of a file is read as the type that is meant exactly when no marker that it refers
to has a name with points and no built-in type that it refers to has the name of another type of the
file's package. -/
theorem references_read_iff {m : Uml.Model} {id : String} {c : Uml.Class}
    (resolved : g.model = m.resolve)
    (bundled : Profile.Target.ofProfile Profile.bundled = .ok g.target)
    (root : g.root ≠ "") (package : g.markers.package ≠ "")
    (hc : g.model.classes.get? id = some c) :
    (∀ d, g.plan id c = .ok d → ∃ o, g.outline id c = .ok o ∧
      d = { o.declaration g c (g.closed c o).spell with imports := (g.closed c o).imports } ∧
      ((∀ r ∈ o.references, readType g.declaredTypes d.package d.imports ((g.closed c o).spell r) =
          some r.full) ↔
        ∀ q n, .named q n ∈ o.references → '.' ∉ n.toList ∧
          ¬Captured g.declaredTypes (g.packageOf c) (g.classNameOf c) g.target.builtins
            (.named q n))) ∧
    (g.markers.Named → g.model.DetachedClosed → (∃ above, g.model.ancestors id c = .ok above) →
      ∃ d, g.plan id c = .ok d) := by
  have closed : g.model.Closed := resolved ▸ m.resolve_closed
  have target : g.target = Profile.Bundled.target := Profile.Bundled.eq_target bundled
  refine ⟨?_, ?_⟩
  · intro d hd
    obtain ⟨o, ho, rfl⟩ := plan_eq_ok_iff.mp hd
    refine ⟨o, ho, rfl, ?_⟩
    have refers := refersTo_outline closed target root package ho
    have named : g.packageOf c ≠ "" := packageName_ne_empty root
    have self := declared_of_get? hc
    have default (name : String) : g.target.builtins.get? name = defaultTypes.lookup name := by
      rw [target, default_of_bundled]
    have read (simple : ∀ q n, .named q n ∈ o.references → '.' ∉ n.toList) {q n : String}
        (h : .named q n ∈ o.references) :=
      readType_spell_iff named self default
        (fun q n h => ⟨(refers (.named q n) h).1, simple q n h, (refers (.named q n) h).2.1⟩) h
    constructor
    · intro all
      -- a name with points would be read as a full name, and it lacks its package
      have simple (q n : String) (h : .named q n ∈ o.references) : '.' ∉ n.toList := by
        intro point
        have short := all _ h
        rw [spell_point target refers h point, readType_point point] at short
        have same : n = qualify q n := Option.some.inj short
        rw [qualify_eq (refers (.named q n) h).1] at same
        have length := congrArg String.length same
        simp at length
      exact fun q n h => ⟨simple q n h, (read simple h).mp (all _ h)⟩
    · intro free r hr
      cases r with
      | verbatim text => exact (refers (.verbatim text) hr).elim
      | named q n => exact (read (fun q n h => (free q n h).1) hr).mpr (free q n hr).2
  · rintro markers detached ⟨above, up⟩
    exact exists_plan closed (target ▸ Profile.Bundled.target_complete) markers detached hc up

private def names : Uml.Model where
  classes := ⟨[
    ("S", { id := "S", name := "String" }),
    ("P", { id := "P", name := "Person", abstract := true, members := [.listed "n"] })], by simp⟩
  properties := ⟨[("n", { id := "n", name := some "navn", lower := some "1" })], by simp⟩

private def nameFiles : Generator where
  model := names.resolve
  root := "no.fint.model"
  target := Profile.Bundled.target

private def named : Uml.Class where
  id := "P"
  name := "Person"
  abstract := true
  members := [.listed "n"]

private theorem named_ancestors : nameFiles.model.ancestors "P" named = .ok [] :=
  (Uml.Model.ancestors_eq_ok_iff rfl).mpr ⟨.top rfl, by decide⟩

private theorem names_detachedClosed : nameFiles.model.DetachedClosed := by
  apply Uml.Model.detachedClosed_of_listed
  have classes : nameFiles.model.classes.values = [{ id := "S", name := "String" }, named] := rfl
  simp [classes, named]

theorem references_read_iff_named : ∃ d o, nameFiles.plan "P" named = .ok d ∧
    nameFiles.outline "P" named = .ok o ∧
    ((∀ r ∈ o.references, readType nameFiles.declaredTypes d.package d.imports
        ((nameFiles.closed named o).spell r) = some r.full) ↔
      ∀ q n, .named q n ∈ o.references → '.' ∉ n.toList ∧
        ¬Captured nameFiles.declaredTypes (nameFiles.packageOf named) (nameFiles.classNameOf named)
          nameFiles.target.builtins (.named q n)) := by
  have listed : nameFiles.model.classes.get? "P" = some named := rfl
  obtain ⟨read, plans⟩ := references_read_iff (g := nameFiles) (m := names) rfl rfl (by decide)
    (by decide) listed
  obtain ⟨d, hd⟩ := plans ⟨⟨_, rfl⟩, ⟨_, rfl⟩⟩ names_detachedClosed ⟨_, named_ancestors⟩
  obtain ⟨o, ho, -, iff⟩ := read d hd
  exact ⟨d, o, hd, ho, iff⟩

/-- Beside a class that is called `String`, the text of the built-in type is read as that class. -/
theorem references_read_sibling : ∃ d o, nameFiles.plan "P" named = .ok d ∧
    nameFiles.outline "P" named = .ok o ∧
    d = { o.declaration nameFiles named (nameFiles.closed named o).spell with
      imports := (nameFiles.closed named o).imports } ∧
    nameFiles.model = names.resolve ∧
    Profile.Target.ofProfile Profile.bundled = .ok nameFiles.target ∧
    nameFiles.model.classes.get? "P" = some named ∧
    nameFiles.model.ancestors "P" named = .ok [] ∧
    (nameFiles.model.classes.values.map fun c =>
      (nameFiles.packageOf c, nameFiles.classNameOf c)).Nodup ∧
    ∃ r ∈ o.references, r.full = "kotlin.String" ∧
      readType nameFiles.declaredTypes d.package d.imports ((nameFiles.closed named o).spell r) =
        some "no.fint.model.String" := by
  have read : (nameFiles.outline "P" named).map (fun o => o.references.head?.map fun r =>
      (r.full, readType nameFiles.declaredTypes (nameFiles.packageOf named)
        (nameFiles.closed named o).imports ((nameFiles.closed named o).spell r))) =
      .ok (some ("kotlin.String", some "no.fint.model.String")) := by decide +kernel
  cases outlined : nameFiles.outline "P" named with
  | error e => simp [outlined, Except.map] at read
  | ok o =>
    simp only [outlined, Except.map, Except.ok.injEq, Option.map_eq_some_iff, Prod.mk.injEq] at read
    obtain ⟨r, first, full, text⟩ := read
    refine ⟨_, o, plan_eq_ok_iff.mpr ⟨o, outlined, rfl⟩, rfl, rfl, rfl, rfl, rfl, named_ancestors,
      by decide +kernel, r, ?_, full, text⟩
    exact List.mem_of_mem_head? first

end Generator

end UmlKotlin.Kotlin
