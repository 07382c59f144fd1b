import UmlKotlin.Proofs.Workspace.Repetition
import UmlKotlin.Run.Work

/-!
What a run writes. Files that were put into a tree lie where their paths lead, and all others are as
before (`PutAll.written`); put there once more, they leave the tree as it is (`PutAll.again`). Main
statement: unless a write fails, generation leaves exactly the generated files behind
(`generate_writes`).
-/

set_option autoImplicit false

namespace UmlKotlin.Run

open Kotlin (Generator GeneratedFile PlanError)
open Workspace (Tree Place)
open Workspace.Tree (Grows KeepsFiles Lasts SameShape Writes)

/-- The files are there, each where its path leads, and every other file is as before. Where paths
lead to one place the last file counts. -/
structure Written (t t' : Tree) (fs : List GeneratedFile) : Prop where
  grows : Grows t t'
  located : ∀ f ∈ fs, ∃ place, t'.locate f.path = .ok place
  contents (place : Place) : t'.contentAt? place =
    ((fs.filter fun f => t'.locate f.path = .ok place).getLast?.map fun f =>
      Text.toUtf8 f.content).or (t.contentAt? place)

theorem Written.nil (t : Tree) : Written t t [] := ⟨.refl t, by simp, by simp⟩

theorem Written.cons {t t' t'' : Tree} {f : GeneratedFile} {fs : List GeneratedFile}
    (h : Writes t t' f.path (Text.toUtf8 f.content)) (h' : Written t' t'' fs) :
    Written t t'' (f :: fs) := by
  obtain ⟨grows, place, located, contents⟩ := h
  have located : t''.locate f.path = .ok place := h'.grows.locate located
  refine ⟨grows.trans h'.grows, ?_, fun q => ?_⟩
  · intro f' member
    rcases List.mem_cons.mp member with rfl | member
    · exact ⟨place, located⟩
    · exact h'.located f' member
  · rw [h'.contents, contents]
    by_cases here : q = place
    · subst here
      simp only [located, decide_true, List.filter_cons_of_pos, List.getLast?_cons]
      cases (fs.filter fun f => t''.locate f.path = .ok q).getLast? <;> simp
    · simp [located, Ne.symm here, here]

theorem Written.lasts {t t' : Tree} {fs : List GeneratedFile} (h : Written t t' fs) :
    Lasts t t' := by
  refine ⟨h.grows, fun place file => ?_⟩
  rw [h.contents, Option.isSome_or, file, Bool.or_true]

/-! ### Files put into a tree -/

/-- A file is put into a tree, after the directories above it. -/
def Put (t : Tree) (f : GeneratedFile) (t' : Tree) : Prop :=
  ∃ u, t.makeDirectories (Workspace.Path.directory f.path) = (u, none) ∧
    u.write f.path (Text.toUtf8 f.content) = .ok t'

inductive PutAll : Tree → List GeneratedFile → Tree → Prop
  | nil (t : Tree) : PutAll t [] t
  | cons {t t' t'' : Tree} {f : GeneratedFile} {fs : List GeneratedFile} :
      Put t f t' → PutAll t' fs t'' → PutAll t (f :: fs) t''

variable {t t' u : Tree} {f : GeneratedFile} {fs : List GeneratedFile}

theorem Put.writes (h : Put t f t') : Writes t t' f.path (Text.toUtf8 f.content) := by
  obtain ⟨u, made, wrote⟩ := h
  have kept := t.makeDirectories_keepsFiles (Workspace.Path.directory f.path)
  rw [made] at kept
  exact kept.writes (Workspace.Tree.writes_of_write wrote)

theorem PutAll.written (h : PutAll t fs t') : Written t t' fs := by
  induction h with
  | nil t => exact .nil t
  | cons first _ ih => exact .cons first.writes ih

theorem Put.again (h : Put t f t') (lasts : Lasts t' u) : ∃ v, Put u f v ∧ SameShape u v := by
  obtain ⟨place, located, contents⟩ := h.writes.contents
  obtain ⟨w, made, wrote⟩ := h
  obtain ⟨-, -, -, slash, -⟩ := Workspace.Tree.write_eq_ok_iff.mp wrote
  have grown : Lasts w u := (Workspace.Tree.writes_of_write wrote).lasts.trans lasts
  have made' := Workspace.Tree.makeDirectories_again (Workspace.Path.trimmed_split f.path) made grown
  have file : (u.contentAt? place).isSome := by
    apply lasts.files
    rw [contents, if_pos rfl, Option.isSome_some]
  obtain ⟨v, wrote', same⟩ :=
    Workspace.Tree.exists_write_over (lasts.grows.locate located) file slash
  exact ⟨v, ⟨u, made', wrote'⟩, same⟩

theorem PutAll.repeated (h : PutAll t fs t') (same : SameShape t' u) :
    ∃ v, PutAll u fs v ∧ SameShape u v := by
  induction h generalizing u with
  | nil => exact ⟨u, .nil u, .refl u⟩
  | cons first rest ih =>
    obtain ⟨v, first', shape⟩ := first.again (rest.written.lasts.trans same.lasts)
    obtain ⟨w, rest', shape'⟩ := ih (same.trans shape)
    exact ⟨w, .cons first' rest', shape.trans shape'⟩

theorem PutAll.again (h : PutAll t fs t') : PutAll t' fs t' := by
  obtain ⟨v, again, same⟩ := h.repeated (.refl t')
  have first := h.written
  have second := again.written
  suffices unchanged : v = t' by rwa [unchanged] at again
  refine same.eq fun place => ?_
  -- the files that lead to a place are the same both times, and the last of them decides
  have leading : (fs.filter fun f => v.locate f.path = .ok place) =
      fs.filter fun f => t'.locate f.path = .ok place := by
    refine List.filter_congr fun f member => ?_
    obtain ⟨p, located⟩ := first.located f member
    rw [located, same.grows.locate located]
  rw [second.contents, leading, first.contents]
  cases (fs.filter fun f => t'.locate f.path = .ok place).getLast? <;> simp

/-! ### Runs -/

def overwriting (f : GeneratedFile) : Record :=
  ⟨.warning, "gen.kotlin.generator",
    "Overwriting " ++ f.path ++ ": two classes share the generated name"⟩

def wrote (f : GeneratedFile) : Record := ⟨.debug, "gen.kotlin.writer", "Wrote " ++ f.path⟩

/-- What is logged of files that are written behind others with the given paths. -/
def records (written : List String) : List GeneratedFile → List Record
  | [] => []
  | f :: fs => (if written.contains f.path then [overwriting f] else []) ++
      wrote f :: records (f.path :: written) fs

namespace Work

variable {α : Type}

@[simp] theorem run_pure (a : α) (d : Desk) :
    (Pure.pure a : Work α).run.run d = (.ok a, d) := rfl

@[simp] theorem run_throw (e : Failure) (d : Desk) :
    (throw e : Work α).run.run d = (.error e, d) := rfl

@[simp] theorem run_tree (d : Desk) : tree.run.run d = (.ok d.tree, d) := rfl

@[simp] theorem run_setTree (t : Tree) (d : Desk) :
    (setTree t).run.run d = (.ok (), { d with tree := t }) := rfl

@[simp] theorem run_log (level : Level) (logger message : String) (d : Desk) :
    (log level logger message).run.run d =
      (.ok (), { d with log := d.log ++ [⟨level, logger, message⟩] }) := rfl

theorem run_writeSource (f : GeneratedFile) (d : Desk) : (writeSource f).run.run d =
    match d.tree.makeDirectories (Workspace.Path.directory f.path) with
    | (u, some e) => (.error (.write (.directory (Workspace.Path.directory f.path) e)),
        { d with tree := u })
    | (u, none) => match u.write f.path (Text.toUtf8 f.content) with
      | .error e => (.error (.write (.file f.path e)), { d with tree := u })
      | .ok t => (.ok (), { tree := t, log := d.log ++ [wrote f] }) := by
  rw [writeSource, run_bind, run_tree]
  rcases made : d.tree.makeDirectories (Workspace.Path.directory f.path) with ⟨u, failure⟩
  cases failure with
  | some e => simp only [made, run_bind, run_setTree, run_throw]
  | none =>
    cases put : u.write f.path (Text.toUtf8 f.content) with
    | error e => simp only [made, put, run_bind, run_setTree, run_throw]
    | ok t => simp only [made, put, run_bind, run_setTree, run_log, wrote]

theorem writeSource_of_put {d : Desk} (h : Put d.tree f t') :
    (writeSource f).run.run d = (.ok (), { tree := t', log := d.log ++ [wrote f] }) := by
  obtain ⟨u, made, put⟩ := h
  rw [run_writeSource, made]
  dsimp only
  rw [put]

theorem writeSource_cases (f : GeneratedFile) (d : Desk) :
    (∃ e d', (writeSource f).run.run d = (.error (.write e), d')) ∨ ∃ t', Put d.tree f t' := by
  rw [run_writeSource]
  cases made : d.tree.makeDirectories (Workspace.Path.directory f.path) with
  | mk u failure =>
    cases failure with
    | some e => exact .inl ⟨_, _, rfl⟩
    | none =>
      cases put : u.write f.path (Text.toUtf8 f.content) with
      | error e => exact .inl ⟨_, _, by dsimp only; rw [put]⟩
      | ok t' => exact .inr ⟨t', u, made, put⟩

theorem run_writeSources_cons (written : List String) (f : GeneratedFile) (fs : List GeneratedFile)
    (d : Desk) : (writeSources written (f :: fs)).run.run d =
      (do writeSource f; writeSources (f.path :: written) fs : Work Unit).run.run
        { d with log := d.log ++ if written.contains f.path then [overwriting f] else [] } := by
  rw [writeSources]
  dsimp only
  split
  · rw [run_bind, run_log]
    rfl
  · rw [List.append_nil]

theorem writeSources_of_putAll {d : Desk} (h : PutAll d.tree fs t') (written : List String) :
    (writeSources written fs).run.run d =
      (.ok (), { tree := t', log := d.log ++ records written fs }) := by
  generalize before : d.tree = t at h
  induction h generalizing d written with
  | nil t =>
    subst before
    rw [writeSources, run_pure, records, List.append_nil]
  | @cons t t' t'' f fs first rest ih =>
    subst before
    have put {log : List Record} := writeSource_of_put (d := { tree := d.tree, log }) first
    rw [run_writeSources_cons, run_bind, put]
    dsimp only
    rw [ih _ rfl, records]
    simp

theorem writeSources_cases (written : List String) (fs : List GeneratedFile) (d : Desk) :
    (∃ e d', (writeSources written fs).run.run d = (.error (.write e), d')) ∨
      ∃ t', PutAll d.tree fs t' := by
  induction fs generalizing written d with
  | nil => exact .inr ⟨d.tree, .nil d.tree⟩
  | cons f fs ih =>
    rw [run_writeSources_cons, run_bind]
    generalize announced :
      { d with log := d.log ++ if written.contains f.path then [overwriting f] else [] } = d'
    have same : d'.tree = d.tree := by rw [← announced]
    rcases writeSource_cases f d' with ⟨e, d'', failed⟩ | ⟨t', first⟩
    · exact .inl ⟨e, d'', by rw [failed]⟩
    rw [writeSource_of_put first]
    rcases ih (f.path :: written) { tree := t', log := d'.log ++ [wrote f] } with
      ⟨e, d'', failed⟩ | ⟨t'', rest⟩
    · exact .inl ⟨e, d'', failed⟩
    · exact .inr ⟨t'', .cons (same ▸ first) rest⟩

def generated (count : Nat) (output : String) : Record :=
  ⟨.info, "gen.kotlin.generator",
    "Generated " ++ toString count ++ " domain classes in " ++ output⟩

theorem generate_of_putAll {g : Generator} {output : String} {d : Desk}
    (h : PutAll d.tree (g.files output).1 t') : (generate g output).run.run d =
      match (g.files output).2 with
      | none => (.ok (g.files output).1.length,
          { tree := t', log := d.log ++ records [] (g.files output).1 ++
            [generated (g.files output).1.length output] })
      | some e => (.error (.plan e),
          { tree := t', log := d.log ++ records [] (g.files output).1 }) := by
  rw [generate]
  dsimp only
  rw [run_bind, writeSources_of_putAll h]
  cases (g.files output).2 with
  | none => rfl
  | some e => rfl

theorem generate_cases (g : Generator) (output : String) (d : Desk) :
    (∃ e d', (generate g output).run.run d = (.error (.write e), d')) ∨
      ∃ t', PutAll d.tree (g.files output).1 t' := by
  rcases writeSources_cases [] (g.files output).1 d with ⟨e, d', failed⟩ | put
  · refine .inl ⟨e, d', ?_⟩
    rw [generate]
    dsimp only
    rw [run_bind, failed]
  · exact .inr put

theorem generate_writes (g : Generator) (output : String) (t : Tree) :
    (∃ e desk, (generate g output).perform t = (.error (.write e), desk)) ∨
    ∃ desk, Written t desk.tree (g.files output).1 ∧ (generate g output).perform t =
      (match (g.files output).2 with
        | none => .ok (g.files output).1.length
        | some e => .error (.plan e), desk) := by
  rw [perform]
  rcases generate_cases g output { tree := t } with failed | ⟨t', put⟩
  · exact .inl failed
  · rw [generate_of_putAll put]
    cases (g.files output).2 with
    | none => exact .inr ⟨_, put.written, rfl⟩
    | some e => exact .inr ⟨_, put.written, rfl⟩

end Work

end UmlKotlin.Run
