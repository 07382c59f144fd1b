import Mathlib.Data.Finset.Card
import UmlKotlin.Proofs.Kotlin.Files
import UmlKotlin.Proofs.Kotlin.SourcePath
import UmlKotlin.Proofs.Run.Writing

/-!
What a whole generation leaves behind. Main statement: of the classes with one path the last one has
its file there, every class behind another one with its path is warned of, and a second generation
changes nothing (`generate_effect`).
-/

set_option autoImplicit false

namespace UmlKotlin.Run

open Kotlin (Generator GeneratedFile)
open Workspace (Tree Place Path.parts)

/-! ### Paths that come again -/

def repeats (fs : List GeneratedFile) : List GeneratedFile :=
  (fs.zipIdx.filter fun e => e.1.path ∈ (fs.take e.2).map (·.path)).map Prod.fst

theorem repeats_append_singleton (fs : List GeneratedFile) (f : GeneratedFile) :
    repeats (fs ++ [f]) = repeats fs ++ if f.path ∈ fs.map (·.path) then [f] else [] := by
  have front : (fs.zipIdx.filter fun e => e.1.path ∈ ((fs ++ [f]).take e.2).map (·.path)) =
      fs.zipIdx.filter fun e => e.1.path ∈ (fs.take e.2).map (·.path) := by
    refine List.filter_congr fun e member => ?_
    obtain ⟨within, -⟩ := List.mem_zipIdx' member
    rw [List.take_append_of_le_length within.le]
  rw [repeats, repeats, List.zipIdx_append, List.filter_append, List.map_append, front]
  congr 1
  by_cases known : f.path ∈ fs.map (·.path) <;> simp [known]

/-- Every file has a path of its own, or the path of an earlier one. -/
theorem length_repeats_add_card (fs : List GeneratedFile) :
    (repeats fs).length + (fs.map (·.path)).toFinset.card = fs.length := by
  induction fs using List.reverseRecOn with
  | nil => rfl
  | append_singleton fs f ih =>
    have paths : ((fs ++ [f]).map (·.path)).toFinset =
        insert f.path (fs.map (·.path)).toFinset := by
      ext path
      simp
    rw [repeats_append_singleton, paths, List.length_append, List.length_append]
    by_cases known : f.path ∈ fs.map (·.path)
    · rw [if_pos known, Finset.insert_eq_of_mem (List.mem_toFinset.mpr known)]
      simp only [List.length_singleton]
      omega
    · rw [if_neg known, Finset.card_insert_of_notMem (mt List.mem_toFinset.mp known)]
      simp only [List.length_singleton, List.length_nil]
      omega

def warnings (log : List Record) : List Record := log.filter fun r => r.level = .warning

theorem records_append_singleton (written : List String) (fs : List GeneratedFile)
    (f : GeneratedFile) : records written (fs ++ [f]) = records written fs ++
      ((if f.path ∈ written ++ fs.map (·.path) then [overwriting f] else []) ++ [wrote f]) := by
  induction fs generalizing written with
  | nil => simp [records]
  | cons e fs ih =>
    have same : f.path ∈ (e.path :: written) ++ fs.map (·.path) ↔
        f.path ∈ written ++ (e :: fs).map (·.path) := by
      simp only [List.mem_append, List.mem_cons, List.map_cons]
      tauto
    rw [List.cons_append, records, records, ih, if_congr same rfl rfl]
    simp only [List.append_assoc, List.cons_append]

theorem warnings_records (fs : List GeneratedFile) :
    warnings (records [] fs) = (repeats fs).map overwriting := by
  induction fs using List.reverseRecOn with
  | nil => rfl
  | append_singleton fs f ih =>
    have quiet : warnings [wrote f] = [] := rfl
    rw [records_append_singleton, repeats_append_singleton, List.nil_append]
    unfold warnings at ih quiet ⊢
    rw [List.filter_append, List.filter_append, ih, quiet, List.append_nil, List.map_append]
    by_cases known : f.path ∈ fs.map (·.path)
    · rw [if_pos known, if_pos known]
      rfl
    · rw [if_neg known, if_neg known]
      rfl

/-! ### Whole generations -/

/-- What generation has done to a tree, on the way from there to the desk it ends with. -/
structure Effect (g : Generator) (output : String) (t : Tree) (fs : List GeneratedFile)
    (d : Desk) : Prop where
  ordered : g.model.sortedClasses.Pairwise fun c c' => c.2.rank ≤ c'.2.rank
  all : g.model.sortedClasses.Perm g.model.classes.entries
  files : List.Forall₂ (fun c f => g.file output c.1 c.2 = .ok f) g.model.sortedClasses fs
  written : Written t d.tree fs
  /-- Paths that differ lead to different places, unless the extension leads back. -/
  last {extension : String} : g.target.extension? = some extension →
    ".." ∉ Path.parts extension → ∀ path ∈ fs.map (·.path), ∃ f,
      (fs.filter fun f => f.path = path).getLast? = some f ∧
        d.tree.read? path = some (Text.toUtf8 f.content)
  warned : warnings d.log = (repeats fs).map overwriting
  counted : (warnings d.log).length + (fs.map (·.path)).toFinset.card = g.model.classes.size
  again : ∃ log, (Work.generate g output).perform d.tree =
    (.ok g.model.classes.size, { tree := d.tree, log })

variable {g : Generator} {output extension : String} {t t' : Tree} {fs : List GeneratedFile}

theorem read?_last (written : Written t t' fs)
    (made : ∀ f ∈ fs, ∃ c, g.sourcePath output c = .ok f.path)
    (ending : g.target.extension? = some extension) (forward : ".." ∉ Path.parts extension)
    {path : String} (listed : path ∈ fs.map (·.path)) : ∃ f,
      (fs.filter fun f => f.path = path).getLast? = some f ∧
        t'.read? path = some (Text.toUtf8 f.content) := by
  obtain ⟨f, member, rfl⟩ := List.mem_map.mp listed
  obtain ⟨place, located⟩ := written.located f member
  have leading : (fs.filter fun e => t'.locate e.path = .ok place) =
      fs.filter fun e => e.path = f.path := by
    refine List.filter_congr fun e among => decide_eq_decide.mpr ⟨fun located' => ?_, ?_⟩
    · obtain ⟨c, path⟩ := made f member
      obtain ⟨c', path'⟩ := made e among
      exact Generator.sourcePath_eq_of_locate ending forward path' path located' located
    · intro same
      rw [same, located]
  obtain ⟨l, found⟩ : ∃ l, (fs.filter fun e => e.path = f.path).getLast? = some l := by
    have some : f ∈ fs.filter fun e => e.path = f.path := by simp [member]
    exact ⟨_, List.getLast?_eq_some_getLast (List.ne_nil_of_mem some)⟩
  refine ⟨l, found, ?_⟩
  have content := written.contents place
  rw [leading, found, Option.map_some, Option.some_or] at content
  rw [Tree.read?, Tree.at?, located]
  exact content

/-- Generation of a model whose superclasses come to an end does what it is said to do, unless a
write fails. -/
theorem generate_effect (closed : g.model.Closed) (detached : g.model.DetachedClosed)
    (target : g.target.Complete) (extension : g.target.extension?.isSome)
    (markers : g.markers.Named)
    (acyclic : ∀ id c, g.model.classes.get? id = some c →
      ∃ above, g.model.ancestors id c = .ok above)
    (unfailing : ∀ e d, (Work.generate g output).perform t ≠ (.error (.write e), d)) :
    ∃ fs d, (Work.generate g output).perform t = (.ok g.model.classes.size, d) ∧
      Effect g output t fs d := by
  obtain ⟨fs, completed, files⟩ : ∃ fs, g.files output = (fs, none) ∧
      List.Forall₂ (fun c f => g.file output c.1 c.2 = .ok f) g.model.sortedClasses fs := by
    rcases Generator.upToError_cases (fun c => g.file output c.1 c.2) g.model.sortedClasses with
      completed | ⟨before, ⟨id, c⟩, after, -, e, split, failed, -⟩
    · exact completed
    · have listed : g.model.classes.get? id = some c :=
        Uml.Model.mem_sortedClasses.mp (by rw [split]; simp)
      obtain ⟨above, up⟩ := acyclic id c listed
      obtain ⟨f, made⟩ :=
        Generator.exists_file_of_ancestors closed target extension markers detached listed up
      cases made.symm.trans failed
  have all : g.model.sortedClasses.Perm g.model.classes.entries := List.mergeSort_perm _ _
  have size : fs.length = g.model.classes.size := by
    rw [← files.length_eq, all.length_eq, Table.size]
  have run {t t' : Tree} (put : PutAll t fs t') : (Work.generate g output).perform t =
      (.ok g.model.classes.size,
        { tree := t', log := records [] fs ++ [Work.generated g.model.classes.size output] }) := by
    have put : PutAll ({ tree := t } : Desk).tree (g.files output).1 t' := by rwa [completed]
    rw [Work.perform, Work.generate_of_putAll put, completed, size]
    rfl
  rcases Work.generate_cases g output { tree := t } with ⟨e, d, failed⟩ | ⟨t', put⟩
  · exact absurd failed (unfailing e d)
  rw [completed] at put
  have warned : warnings (records [] fs ++ [Work.generated g.model.classes.size output]) =
      (repeats fs).map overwriting := by
    rw [warnings, List.filter_append, ← warnings, warnings_records]
    exact List.append_nil _
  refine ⟨fs, _, run put, ⟨?_, all, files, put.written, ?_, warned, ?_, _, run put.again⟩⟩
  · exact Uml.pairwise_sorted (fun c : String × Uml.Class => (c.2.name, c.2.id)) _
  · intro extension ending forward path listed
    have made : ∀ f ∈ fs, ∃ c, g.sourcePath output c = .ok f.path := by
      intro f member
      have member : f ∈ (g.files output).1 := by rwa [completed]
      obtain ⟨id, c, -, made⟩ := Generator.class_of_mem_files member
      exact ⟨c, (Generator.file_eq_ok_iff.mp made).1⟩
    exact read?_last put.written made ending forward listed
  · rw [warned, List.length_map, length_repeats_add_card, size]

private def lodgings : Uml.Model where
  classes := ⟨[("E", { id := "E", name := "Bolig enhet" }),
    ("B", { id := "B", name := "Bolig-enhet" })], by simp⟩

private def lodgingFiles : Generator where
  model := lodgings.resolve
  root := "fint"
  target := Profile.Bundled.target

private theorem lodgings_sorted :
    lodgingFiles.model.sortedClasses = lodgingFiles.model.classes.entries :=
  List.mergeSort_of_pairwise (by decide +kernel)

theorem generate_effect_lodgings : ∃ fs d,
    (Work.generate lodgingFiles "out").perform {} = (.ok 2, d) ∧
      Effect lodgingFiles "out" {} fs d ∧ (warnings d.log).length = 1 := by
  have detached : lodgings.DetachedClosed :=
    Uml.Model.detachedClosed_of_listed (by simp [lodgings, Table.values])
  have acyclic : ∀ id c, lodgingFiles.model.classes.get? id = some c →
      ∃ above, lodgingFiles.model.ancestors id c = .ok above := by
    intro id c listed
    have top : ∀ c ∈ lodgings.resolve.classes.values, lodgings.resolve.parent? c = none := by decide
    have member : c ∈ lodgings.resolve.classes.values := Table.mem_values.mpr ⟨id, listed⟩
    exact ⟨[], (Uml.Model.ancestors_eq_ok_iff listed).mpr ⟨.top (top c member), by simp⟩⟩
  have done : ((Work.generate lodgingFiles "out").perform {}).1.isOk = true ∧
      (warnings ((Work.generate lodgingFiles "out").perform {}).2.log).length = 1 := by
    rw [Work.generate, Generator.files, lodgings_sorted]
    decide +kernel
  have unfailing : ∀ e d,
      (Work.generate lodgingFiles "out").perform {} ≠ (.error (.write e), d) := by
    intro e d failed
    rw [failed] at done
    cases done.1
  obtain ⟨fs, d, ran, effect⟩ := generate_effect lodgings.resolve_closed detached.resolve
    Profile.Bundled.target_complete rfl ⟨⟨_, rfl⟩, ⟨_, rfl⟩⟩ acyclic unfailing
  rw [ran] at done
  exact ⟨fs, d, ran, effect, done.2⟩

end UmlKotlin.Run
