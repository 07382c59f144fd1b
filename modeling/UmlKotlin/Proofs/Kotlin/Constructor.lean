import UmlKotlin.Proofs.Kotlin.Identifier
import UmlKotlin.Proofs.Kotlin.Planning
import Mathlib.Data.List.Perm.Basic

/-!
Constructors along a chain of superclasses. Main statements: what a class hands on to its superclass
is what the constructor of the superclass takes (`constructors_agree`), and no parameter is declared
twice exactly when no two properties of the chain have the same humps
(`parameter_names_nodup_iff`).
-/

set_option autoImplicit false

namespace UmlKotlin.Kotlin

open Uml (Model)
open scoped List

/-- A parameter takes a field in a file: it has the name that the property of the field gets, its
default value, and the type that is meant, as the file spells it. -/
structure Takes (reserved : List String) (scope : ImportScope) (f : Field) (p : Parameter) :
    Prop where
  name : p.name = propertyName reserved f.property.name
  default : p.default = f.type.default
  type : p.type = f.type.text scope.spell

theorem takes_inherited (reserved : List String) (scope : ImportScope) (fields : List Field) :
    List.Forall₂ (Takes reserved scope) fields
      (fields.map (Field.inherited reserved scope.spell)) := by
  rw [List.forall₂_map_right_iff, List.forall₂_same]
  exact fun f _ => ⟨rfl, rfl, rfl⟩

theorem takes_own (reserved : List String) (scope : ImportScope) (fields : List Field) :
    List.Forall₂ (Takes reserved scope) fields (fields.map (Field.own reserved scope.spell)) := by
  rw [List.forall₂_map_right_iff, List.forall₂_same]
  exact fun f _ => ⟨rfl, rfl, rfl⟩

theorem names_of_takes {reserved : List String} {scope : ImportScope} {fields : List Field}
    {ps : List Parameter} (h : List.Forall₂ (Takes reserved scope) fields ps) :
    ps.map (fun p => (p.name, p.default)) =
      fields.map fun f => (propertyName reserved f.property.name, f.type.default) := by
  induction h with
  | nil => rfl
  | cons takes _ ih => rw [List.map_cons, List.map_cons, ih, takes.name, takes.default]

namespace Generator

variable {g : Generator} {id key : String} {c s : Uml.Class}

theorem inherited_of_superclass {o o' : Outline} (closed : g.model.Closed)
    (hc : g.model.classes.get? id = some c) (link : c.superclass = some key)
    (hs : g.model.classes.get? key = some s) (ho : g.outline id c = .ok o)
    (ho' : g.outline key s = .ok o') : o.inherited = o'.inherited ++ o'.own := by
  obtain ⟨above, groups, up, inherited, flat, -⟩ := outline_eq_ok_iff.mp ho
  obtain ⟨above', groups', up', inherited', flat', own', -⟩ := outline_eq_ok_iff.mp ho'
  obtain ⟨above'', found, rfl⟩ := Model.ancestors_of_parent hc (closed.parent?_eq link hs) hs
    (ancestors_eq_ok_iff.mp up)
  cases found.symm.trans (ancestors_eq_ok_iff.mp up')
  rw [List.mapM_append, inherited', List.mapM_cons, own'] at inherited
  cases inherited
  rw [← flat, ← flat']
  simp

theorem filter_parameters (c : Uml.Class) (o : Outline) (spell : Reference → String) :
    (o.declaration g c spell).parameters.filter (!·.isProperty) =
      o.inherited.map (Field.inherited g.target.reserved spell) := by
  have inherited : (o.inherited.map (Field.inherited g.target.reserved spell)).filter
      (!·.isProperty) = o.inherited.map (Field.inherited g.target.reserved spell) := by
    rw [List.filter_eq_self]
    intro p hp
    obtain ⟨f, -, rfl⟩ := List.mem_map.mp hp
    rfl
  have own : (o.own.map (Field.own g.target.reserved spell)).filter (!·.isProperty) = [] := by
    rw [List.filter_eq_nil_iff]
    intro p hp
    obtain ⟨f, -, rfl⟩ := List.mem_map.mp hp
    simp [Field.own]
  change (_ ++ _ : List Parameter).filter _ = _
  rw [List.filter_append, inherited, own, List.append_nil]

theorem superclass_of_outline {o : Outline} (closed : g.model.Closed)
    (link : c.superclass = some key) (hs : g.model.classes.get? key = some s)
    (ho : g.outline id c = .ok o) :
    o.superclass = some (.named (g.packageOf s) (g.classNameOf s)) := by
  obtain ⟨-, -, -, -, -, -, superclass, -⟩ := outline_eq_ok_iff.mp ho
  rw [superclassReference, link] at superclass
  obtain ⟨r, hr, named⟩ := map_eq_ok_iff.mp superclass
  obtain ⟨s', hs', rfl⟩ := (classReference_eq_ok_iff closed).mp hr
  cases hs.symm.trans hs'
  exact named.symm

/-- What a class takes for its ancestors is what the constructor of its superclass takes: the same
fields in order, under the same names, with the same default values and the same types. The texts of a
type in the two files differ at most in that one file gives a name alone and the other one in full.
The superclass is called with each of the fields by name. -/
theorem constructors_agree {m : Model} (resolved : g.model = m.resolve)
    (hc : g.model.classes.get? id = some c) (link : c.superclass = some key) :
    ∃ s, g.model.classes.get? key = some s ∧
      (∀ d e, g.plan id c = .ok d → g.plan key s = .ok e →
        (∃ o o', g.outline id c = .ok o ∧ g.outline key s = .ok o' ∧
          o.inherited = o'.inherited ++ o'.own ∧
          List.Forall₂ (Takes g.target.reserved (g.closed c o)) o.inherited
            (d.parameters.filter (!·.isProperty)) ∧
          List.Forall₂ (Takes g.target.reserved (g.closed s o')) (o'.inherited ++ o'.own)
            e.parameters ∧
          (∀ r, (g.closed c o).spell r ∈ r.spellings ∧ (g.closed s o').spell r ∈ r.spellings) ∧
          d.superclass =
            some ((g.closed c o).spell (.named (g.packageOf s) (g.classNameOf s)))) ∧
        (d.parameters.filter (!·.isProperty)).map (fun p => (p.name, p.default)) =
          e.parameters.map (fun p => (p.name, p.default)) ∧
        d.superclassArguments = e.parameters.map (·.name) ∧
        ∃ text, d.superclass = some text ∧ Source.supertypes d =
          (text ++ "(" ++ ", ".intercalate (e.parameters.map fun p => p.name ++ " = " ++ p.name) ++
            ")") :: d.interfaces) ∧
      (g.target.Complete → g.markers.Named → g.model.DetachedClosed →
        (∃ above, g.model.ancestors id c = .ok above) →
        ∃ d e, g.plan id c = .ok d ∧ g.plan key s = .ok e) := by
  have closed : g.model.Closed := resolved ▸ m.resolve_closed
  obtain ⟨s, hs⟩ := closed.superclass hc link
  refine ⟨s, hs, ?_, ?_⟩
  · intro d e hd he
    obtain ⟨o, ho, rfl⟩ := plan_eq_ok_iff.mp hd
    obtain ⟨o', ho', rfl⟩ := plan_eq_ok_iff.mp he
    have fields := inherited_of_superclass closed hc link hs ho ho'
    have superclass := superclass_of_outline closed link hs ho
    have here : List.Forall₂ (Takes g.target.reserved (g.closed c o)) o.inherited
        ((o.declaration g c (g.closed c o).spell).parameters.filter (!·.isProperty)) := by
      rw [filter_parameters]
      exact takes_inherited _ _ _
    have there : List.Forall₂ (Takes g.target.reserved (g.closed s o')) (o'.inherited ++ o'.own)
        (o'.declaration g s (g.closed s o').spell).parameters :=
      List.rel_append (takes_inherited _ _ _) (takes_own _ _ _)
    have arguments : (o.declaration g c (g.closed c o).spell).superclassArguments =
        (o'.declaration g s (g.closed s o').spell).parameters.map (·.name) := by
      simp [Outline.declaration, assemble, fields, Field.inherited, Field.own, Function.comp_def]
    have text : (o.declaration g c (g.closed c o).spell).superclass =
        some ((g.closed c o).spell (.named (g.packageOf s) (g.classNameOf s))) := by
      rw [Outline.declaration, superclass]
      rfl
    refine ⟨⟨o, o', ho, ho', fields, here, there,
      fun r => ⟨ImportScope.spell_mem_spellings _ r, ImportScope.spell_mem_spellings _ r⟩, text⟩,
      ?_, arguments, _, text, ?_⟩
    · dsimp only
      rw [names_of_takes here, names_of_takes there, fields]
    · simp only [Source.supertypes, text, arguments, List.map_map]
      rfl
  · rintro target markers detached ⟨above, up⟩
    obtain ⟨above', up', -⟩ := Model.ancestors_of_parent hc (closed.parent?_eq link hs) hs up
    obtain ⟨d, hd⟩ := exists_plan closed target markers detached hc up
    obtain ⟨e, he⟩ := exists_plan closed target markers detached hs up'
    exact ⟨d, e, hd, he⟩

private def contacts : Model where
  classes := ⟨[
    ("K", { id := "K", name := "Kontakt", abstract := true, members := [.listed "p"] }),
    ("P", { id := "P", name := "Person", members := [.listed "q"], generalizationId := some "K" })],
    by simp⟩
  properties := ⟨[
    ("p", { id := "p", name := some "e-post", lower := some "1" }),
    ("q", { id := "q", name := some "E post" })], by simp⟩

private def contactFiles : Generator where
  model := contacts.resolve
  root := "no.fint.model"
  target := Profile.Bundled.target

private def contact : Uml.Class where
  id := "K"
  name := "Kontakt"
  abstract := true
  members := [.listed "p"]

private def person : Uml.Class where
  id := "P"
  name := "Person"
  members := [.listed "q"]
  generalizationId := some "K"
  superclass := some "K"

private theorem contacts_detachedClosed : contactFiles.model.DetachedClosed := by
  apply Model.detachedClosed_of_listed
  have classes : contactFiles.model.classes.values = [contact, person] := rfl
  simp [classes, contact, person]

private theorem person_ancestors : contactFiles.model.ancestors "P" person = .ok [contact] :=
  (Model.ancestors_eq_ok_iff rfl).mpr ⟨.child rfl (.top rfl), by decide⟩

theorem constructors_agree_contact : ∃ d e, contactFiles.plan "P" person = .ok d ∧
    contactFiles.plan "K" contact = .ok e ∧ d.superclassArguments = e.parameters.map (·.name) := by
  have listed : contactFiles.model.classes.get? "P" = some person := rfl
  obtain ⟨s, hs, agree, plans⟩ :=
    constructors_agree (g := contactFiles) (m := contacts) rfl listed rfl
  cases (rfl : contactFiles.model.classes.get? "K" = some contact).symm.trans hs
  obtain ⟨d, e, hd, he⟩ := plans Profile.Bundled.target_complete ⟨⟨_, rfl⟩, ⟨_, rfl⟩⟩
    contacts_detachedClosed ⟨_, person_ancestors⟩
  exact ⟨d, e, hd, he, (agree d e hd he).2.2.1⟩

/-! ### Names of parameters -/

theorem properties_of_fieldsOf {fields : List Field} (h : g.fieldsOf c = .ok fields) :
    fields.map (·.property) = g.model.sortedProperties c := by
  rw [map_of_mapM (k := id) (fun hf => ?_) h, List.map_id]
  obtain ⟨t, -, rfl⟩ := map_eq_ok_iff.mp hf
  rfl

theorem properties_of_outline {o : Outline} {above : List Uml.Class}
    (ho : g.outline id c = .ok o) (up : g.model.ancestors id c = .ok above) :
    (o.inherited ++ o.own).map (·.property) =
      (above ++ [c]).flatMap g.model.sortedProperties := by
  obtain ⟨above', groups, up', inherited, flat, own, -⟩ := outline_eq_ok_iff.mp ho
  cases up.symm.trans (ancestors_eq_ok_iff.mp up')
  have each := map_of_mapM (g := List.map (·.property)) (fun hf => properties_of_fieldsOf hf)
    inherited
  rw [List.map_append, ← flat, List.map_flatten, each, properties_of_fieldsOf own]
  simp [List.flatMap_def]

private theorem nodup_map_iff {α β γ : Type} {f : α → β} {f' : α → γ}
    (same : ∀ a b, f a = f b ↔ f' a = f' b) (l : List α) :
    (l.map f).Nodup ↔ (l.map f').Nodup := by
  simp only [List.Nodup, List.pairwise_map, ne_eq, same]

/-- The parameters of a class have different names exactly when no two properties of the class and
its ancestors have the same humps. -/
theorem parameter_names_nodup_iff {above : List Uml.Class} {d : ClassDeclaration}
    (up : g.model.ancestors id c = .ok above) (hd : g.plan id c = .ok d) :
    (d.parameters.map (·.name)).Nodup ↔
      (((above ++ [c]).flatMap g.model.propertiesOf).map fun p => humps p.name).Nodup := by
  obtain ⟨o, ho, rfl⟩ := plan_eq_ok_iff.mp hd
  have names : (o.declaration g c (g.closed c o).spell).parameters.map (·.name) =
      ((o.inherited ++ o.own).map (·.property)).map
        fun p => propertyName g.target.reserved p.name := by
    simp [Outline.declaration, assemble, Field.inherited, Field.own, Function.comp_def]
  have sorted : (above ++ [c]).flatMap g.model.sortedProperties ~
      (above ++ [c]).flatMap g.model.propertiesOf :=
    List.Perm.flatMap_left _ fun a _ => List.mergeSort_perm _ _
  dsimp only
  rw [names, properties_of_outline ho up, nodup_map_iff fun p q => propertyName_eq_iff]
  exact (sorted.map _).nodup_iff

theorem parameter_names_nodup_iff_person : ∃ d, contactFiles.plan "P" person = .ok d ∧
    ((d.parameters.map (·.name)).Nodup ↔ ((([contact] ++ [person]).flatMap
      contactFiles.model.propertiesOf).map fun p => humps p.name).Nodup) := by
  obtain ⟨d, hd⟩ := exists_plan (contacts.resolve_closed) Profile.Bundled.target_complete
    ⟨⟨_, rfl⟩, ⟨_, rfl⟩⟩ contacts_detachedClosed rfl person_ancestors
  exact ⟨d, hd, parameter_names_nodup_iff person_ancestors hd⟩

/-- Properties that sort under different names may give one parameter name. -/
theorem parameter_names_repeat : ∃ d, contactFiles.plan "P" person = .ok d ∧
    contactFiles.model = contacts.resolve ∧
    Profile.Target.ofProfile Profile.bundled = .ok contactFiles.target ∧
    contactFiles.model.classes.get? "P" = some person ∧
    contactFiles.model.ancestors "P" person = .ok [contact] ∧
    ((([contact] ++ [person]).flatMap contactFiles.model.propertiesOf).map (·.sortName)).Nodup ∧
    ¬(d.parameters.map (·.name)).Nodup := by
  have names : (contactFiles.plan "P" person).map (fun d => d.parameters.map (·.name)) =
      .ok ["ePost", "ePost"] := by decide +kernel
  have sortNames : (([contact] ++ [person]).flatMap contactFiles.model.propertiesOf).map
      (·.sortName) = ["e-post", "E post"] := rfl
  cases planned : contactFiles.plan "P" person with
  | error e => simp [planned, Except.map] at names
  | ok d =>
    have names : d.parameters.map (·.name) = ["ePost", "ePost"] := by
      simpa [planned, Except.map] using names
    refine ⟨d, rfl, rfl, rfl, rfl, person_ancestors, ?_, ?_⟩
    · rw [sortNames]
      decide
    · rw [names]
      decide

end Generator

end UmlKotlin.Kotlin
