import UmlKotlin.Proofs.Kotlin.Files
import UmlKotlin.Proofs.Kotlin.Import
import UmlKotlin.Proofs.Profile.Textual
import UmlKotlin.Proofs.Run.Writing
import UmlKotlin.Proofs.Uml.Cycle
import UmlKotlin.Proofs.Xmi.Keyed

/-!
How generation ends. Main statement: what well-nested events declare is generated class by class up to
the first one above which superclasses run in a circle, and nothing else stops generation
(`generation_stops_at_cycle`).
-/

set_option autoImplicit false

namespace UmlKotlin

namespace Kotlin.Generator

/-- The files of the classes in front of the first one whose superclasses run in a circle, and how
that circle is reported; if there is no such class, the files of all classes. -/
inductive Runs (g : Generator) (output : String) : List GeneratedFile → Option PlanError → Prop
  | completes {fs : List GeneratedFile} :
      (∀ d ∈ g.model.sortedClasses, ¬ g.model.RunsIntoCycle d.2) →
      List.Forall₂ (fun d f => g.file output d.1 d.2 = .ok f) g.model.sortedClasses fs →
      Runs g output fs none
  | stops {before after : List (String × Uml.Class)} {id : String} {c : Uml.Class}
      {fs : List GeneratedFile} {cycle : Uml.InheritanceCycle} :
      g.model.sortedClasses = before ++ (id, c) :: after →
      (∀ d ∈ before, ¬ g.model.RunsIntoCycle d.2) → g.model.RunsIntoCycle c →
      g.model.ancestors id c = .error cycle →
      List.Forall₂ (fun d f => g.file output d.1 d.2 = .ok f) before fs →
      Runs g output fs (some (.cycle cycle))

variable {g : Generator} {output id : String} {c : Uml.Class}

theorem not_runsIntoCycle_of_file {f : GeneratedFile} (made : g.file output id c = .ok f) :
    ¬ g.model.RunsIntoCycle c := by
  obtain ⟨-, d, planned, -⟩ := file_eq_ok_iff.mp made
  obtain ⟨o, outlined, -⟩ := plan_eq_ok_iff.mp planned
  obtain ⟨above, -, up, -⟩ := outline_eq_ok_iff.mp outlined
  exact (Uml.Model.ancestors_sound (ancestors_eq_ok_iff.mp up)).1.not_runsIntoCycle

section

variable (closed : g.model.Closed) (keyed : g.model.Keyed) (detached : g.model.DetachedClosed)
  (target : g.target.Complete) (extension : g.target.extension?.isSome) (markers : g.markers.Named)

include closed keyed detached target extension markers

/-- A class has no file exactly if its superclasses run in a circle, and then that is what is
reported. -/
theorem file_cases (listed : g.model.classes.get? id = some c) :
    (∃ f, g.file output id c = .ok f) ∨ g.model.RunsIntoCycle c ∧ ∃ cycle,
      g.model.ancestors id c = .error cycle ∧ g.file output id c = .error (.cycle cycle) := by
  cases up : g.model.ancestors id c with
  | error cycle =>
    have plan : g.plan id c = .error (.cycle cycle) := by
      rw [plan_eq, outline, ancestors_eq_error up]
      rfl
    have runs := (Uml.Model.ancestors_eq_error_iff closed keyed.classes listed).mp ⟨cycle, up⟩
    exact .inr ⟨runs, cycle, rfl, file_eq_error extension plan⟩
  | ok above =>
    exact .inl (exists_file_of_ancestors closed target extension markers detached listed up)

theorem runs_files : g.Runs output (g.files output).1 (g.files output).2 := by
  have ends {ds : List (String × Uml.Class)} {fs : List GeneratedFile}
      (files : List.Forall₂ (fun d f => g.file output d.1 d.2 = .ok f) ds fs) :
      ∀ d ∈ ds, ¬ g.model.RunsIntoCycle d.2 :=
    ((List.forall₂_and_left ds fs).mp
      (files.imp fun d f made => ⟨not_runsIntoCycle_of_file made, made⟩)).1
  rcases upToError_cases (fun d => g.file output d.1 d.2) g.model.sortedClasses with
    ⟨fs, results, files⟩ | ⟨before, ⟨id, c⟩, after, fs, e, split, failed, results, files⟩
  · rw [Generator.files, results]
    exact .completes (ends files) files
  · have listed : g.model.classes.get? id = some c :=
      Uml.Model.mem_sortedClasses.mp (by rw [split]; simp)
    rw [Generator.files, results]
    rcases file_cases closed keyed detached target extension markers listed with
      ⟨f, made⟩ | ⟨runs, cycle, up, failed'⟩
    · cases made.symm.trans failed
    · cases failed.symm.trans failed'
      exact .stops split (ends files) runs up files

end

end Kotlin.Generator

/-- Nothing but a circle of superclasses stops generation, and that it does at the first class in
the order of names and identifiers; what is written then are the files of the classes in front of
it. -/
structure Run.StopsOnlyAtCycle (g : Kotlin.Generator) (output : String) : Prop where
  ascending : g.model.sortedClasses.Pairwise fun c d => c.2.rank < d.2.rank
  classes (id : String) (c : Uml.Class) :
    (id, c) ∈ g.model.sortedClasses ↔ g.model.classes.get? id = some c
  each (id : String) (c : Uml.Class) : g.model.classes.get? id = some c →
    (∃ f, g.file output id c = .ok f) ∨ g.model.RunsIntoCycle c ∧ ∃ cycle,
      g.model.ancestors id c = .error cycle ∧ g.file output id c = .error (.cycle cycle)
  runs : g.Runs output (g.files output).1 (g.files output).2
  writes (t : Workspace.Tree) :
    (∃ e desk, (Run.Work.generate g output).perform t = (.error (.write e), desk)) ∨
    ∃ desk, Run.Written t desk.tree (g.files output).1 ∧
      (Run.Work.generate g output).perform t = (match (g.files output).2 with
        | none => .ok (g.files output).1.length
        | some e => .error (.plan e), desk)

namespace Run

open Kotlin (Generator Markers)
open Profile (Target)

/-- What well-nested events declare, and with it every document that loads, is generated from every
profile of texts up to the first class whose superclasses run in a circle. -/
theorem generation_stops_at_cycle {skipped : List String} {events : List Xml.Event} {m : Uml.Model}
    {p : Profile} {markers : Markers} (nested : Xml.WellNested events)
    (extracted : m = Xmi.extract skipped events) (textual : p.Textual) (named : markers.Named)
    (root output : String) :
    ∃ target, Target.ofProfile p = .ok target ∧
      StopsOnlyAtCycle { model := m.resolve, root, target, markers } output := by
  obtain ⟨target, made, complete, extension⟩ := Profile.exists_target textual
  have keyed : m.resolve.Keyed := extracted ▸ (Xmi.keyed_extract skipped events).resolve
  have detached : m.resolve.DetachedClosed :=
    extracted ▸ Uml.Model.DetachedClosed.resolve (Generator.detachedClosed_extract skipped nested)
  refine ⟨target, made, Uml.Model.sortedClasses_ascending keyed.classes.nodup,
    fun id c => Uml.Model.mem_sortedClasses, fun id c listed => ?_, ?_,
    Work.generate_writes _ output⟩
  · exact Generator.file_cases m.resolve_closed keyed detached complete extension named listed
  · exact Generator.runs_files m.resolve_closed keyed detached complete extension named

private def circle : String :=
  "<xmi:XMI xmlns:xmi='http://schema.omg.org/spec/XMI/2.1'>" ++
    "<packagedElement xmi:type='uml:Class' xmi:id='B' name='Bil'>" ++
      "<generalization general='S'/></packagedElement>" ++
    "<packagedElement xmi:type='uml:Class' xmi:id='S' name='Sykkel'>" ++
      "<generalization general='B'/></packagedElement>" ++
    "<packagedElement xmi:type='uml:Class' xmi:id='A' name='Adresse'/>" ++
  "</xmi:XMI>"

private def circleFiles (m : Uml.Model) (target : Target) : Generator where
  model := m.resolve
  root := "no.fint.model"
  target

set_option maxRecDepth 100000 in
theorem generation_stops_at_cycle_circle : ∃ m target,
    Xmi.load "utf-8" [] (Text.toUtf8 circle) = .ok m ∧
      Target.ofProfile Profile.bundled = .ok target ∧
      StopsOnlyAtCycle (circleFiles m target) "out" ∧
      ∃ cycle, ((circleFiles m target).files "out").2 = some (.cycle cycle) := by
  obtain ⟨m, loaded, up, down⟩ := Xmi.loads circle (fun m =>
    (m.resolve.classes.get? "B").bind (·.superclass) = some "S" ∧
      (m.resolve.classes.get? "S").bind (·.superclass) = some "B") (by decide +kernel)
  have named : ({} : Markers).Named := ⟨⟨_, rfl⟩, ⟨_, rfl⟩⟩
  obtain ⟨-, events, -, nested, extracted⟩ := Xmi.events_of_load loaded
  obtain ⟨target, made, stops⟩ :=
    generation_stops_at_cycle nested extracted Profile.bundled_textual named "no.fint.model" "out"
  refine ⟨m, target, loaded, made, stops, ?_⟩
  obtain ⟨b, listed, above⟩ := Option.bind_eq_some_iff.mp up
  obtain ⟨s, listed', above'⟩ := Option.bind_eq_some_iff.mp down
  have upward := m.resolve_closed.parent?_eq above listed'
  have downward := m.resolve_closed.parent?_eq above' listed
  have cycle : m.resolve.RunsIntoCycle b := ⟨b, .refl, .tail (.single upward) downward⟩
  generalize results : ((circleFiles m target).files "out").2 = failure
  cases results ▸ stops.runs with
  | completes none => exact absurd cycle (none ("B", b) (Uml.Model.mem_sortedClasses.mpr listed))
  | stops => exact ⟨_, rfl⟩

end Run

end UmlKotlin
