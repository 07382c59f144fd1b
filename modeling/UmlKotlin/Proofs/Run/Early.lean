import UmlKotlin.Proofs.Kotlin.Lack
import UmlKotlin.Proofs.Profile.Collections
import UmlKotlin.Proofs.Run.Request
import UmlKotlin.Proofs.Run.Writing
import UmlKotlin.Run.Task

/-!
Runs that fail before anything is generated. Main statement: such a run changes no file and makes no
new one, if something is missing that is required it does not make a directory either, and no run
changes a configuration that somebody holds (`spares_perform`).
-/

set_option autoImplicit false

namespace UmlKotlin.Run

open Data (Value)
open Kotlin (Generator)
open Workspace (Tree)

namespace Failure

/-- Failures of the configuration, of profiles and of the document. That a profile lacks a kind of
collection would come to light only when a class needs it. -/
def isEarly : Failure → Bool
  | .config _ | .profile _ | .load _ | .shape _ => true
  | .plan e => e.isLack
  | .write _ => false

def isMissing : Failure → Bool
  | .config e => e.isMissing
  | _ => false

end Failure

theorem Config.skipped_error {c : Config} {e : ConfigError} (failed : c.skipped = .error e) :
    e.isMissing = false := by
  unfold Config.skipped at failed
  split at failed
  · cases failed
    rfl
  · rcases bind_eq_error_iff.mp failed with names | ⟨names, -, made⟩
    · obtain ⟨v, -, failed⟩ := exists_error_of_mapM names
      split at failed
      · cases failed
      · cases failed
        rfl
    · cases made

theorem Config.encoding_error {c : Config} {e : ConfigError} (failed : c.encoding = .error e) :
    e.isMissing = false := by
  unfold Config.encoding at failed
  split at failed
  · cases failed
  · unfold Config.textOf at failed
    split at failed
    · cases failed
    · cases failed
      rfl

namespace Work

variable {α β : Type} {t : Tree}

/-! ### Work that reads -/

/-- Work that looks at a tree and leaves it as it is. -/
def Reads (t : Tree) (w : Work α) (after : α → Prop) (failed : Failure → Prop) : Prop :=
  ∀ d, d.tree = t → (w.run.run d).2.tree = t ∧
    match (w.run.run d).1 with
    | .ok a => after a
    | .error e => failed e

variable {w : Work α} {between after : α → Prop} {failed : Failure → Prop}

theorem Reads.pure {a : α} (h : after a) : Reads t (Pure.pure a) after failed :=
  fun _ same => ⟨same, h⟩

theorem Reads.throw {e : Failure} (h : failed e) : Reads t (throw e : Work α) after failed :=
  fun _ same => ⟨same, h⟩

theorem Reads.bind {f : α → Work β} {after : β → Prop} (first : Reads t w between failed)
    (rest : ∀ a, between a → Reads t (f a) after failed) : Reads t (w >>= f) after failed := by
  intro d same
  obtain ⟨kept, ended⟩ := first d same
  rw [run_bind]
  rcases ran : w.run.run d with ⟨result, d'⟩
  rw [ran] at kept ended
  cases result with
  | error e => exact ⟨kept, ended⟩
  | ok a => exact rest a ended d' kept

theorem Reads.log (level : Level) (logger message : String) :
    Reads t (log level logger message) (fun _ => True) failed :=
  fun _ same => ⟨same, trivial⟩

theorem Reads.tree {f : Tree → Work β} {after : β → Prop} (rest : Reads t (f t) after failed) :
    Reads t (tree >>= f) after failed := by
  intro d same
  rw [run_bind, run_tree, same]
  exact rest d same

theorem Reads.check {ε : Type} {failure : ε → Failure} {r : Except ε α}
    (ok : ∀ a, r = .ok a → after a) (error : ∀ e, r = .error e → failed (failure e)) :
    Reads t (check failure r) after failed := by
  cases r with
  | ok a => exact .pure (ok a rfl)
  | error e => exact .throw (error e rfl)

theorem Reads.logAll {γ : Type} (level : Level) (logger : String) (message : γ → String)
    (l : List γ) : Reads t
      (forIn l PUnit.unit fun a _ => do
        Work.log level logger (message a)
        return ForInStep.yield PUnit.unit)
      (fun _ => True) failed := by
  induction l with
  | nil =>
    rw [List.forIn_nil]
    exact .pure trivial
  | cons a l ih =>
    rw [List.forIn_cons, bind_assoc]
    refine (Reads.log level logger (message a)).bind fun _ _ => ?_
    rw [pure_bind]
    exact ih

theorem reads_loadModel (encoding : String) (skipped : List String) (octets : Text.Octets) :
    Reads t (loadModel encoding skipped octets) (fun _ => True) fun e => e.isMissing = false := by
  unfold loadModel
  have document : Reads t (check .load (Xmi.load encoding skipped octets)) (fun _ => True)
      fun e => e.isMissing = false := .check (fun _ _ => trivial) fun _ _ => rfl
  refine document.bind fun m _ => (Reads.log _ _ _).bind fun _ _ => ?_
  exact (Reads.logAll _ _ _ m.dangling).bind fun _ _ => .pure trivial

theorem reads_prepare {c : Config} {request : Config.Request} {octets : Text.Octets}
    (there : t.read? request.input = some octets) : Reads t (prepare c request)
      (fun g => ∀ ordered, ∃ k, g.target.collection? ordered = some k)
      fun e => e.isMissing = false := by
  have profile : Reads t (check .profile (Profile.load t c.profiles true)) (·.HasKinds)
      fun e => e.isMissing = false :=
    .check (fun _ loaded => Profile.hasKinds_of_load loaded) fun _ _ => rfl
  have skipped : Reads t (check .config c.skipped) (fun _ => True) fun e => e.isMissing = false :=
    .check (fun _ _ => trivial) fun _ failed => Config.skipped_error failed
  have encoding : Reads t (check .config c.encoding) (fun _ => True) fun e => e.isMissing = false :=
    .check (fun _ _ => trivial) fun _ failed => Config.encoding_error failed
  have input : Reads t (Pure.pure octets : Work Text.Octets) (fun _ => True)
      fun e => e.isMissing = false := .pure trivial
  unfold prepare
  refine .tree (profile.bind fun p kinds => (Reads.log _ _ _).bind fun _ _ => ?_)
  refine skipped.bind fun names _ => .tree ?_
  rw [there]
  refine input.bind fun octets _ => encoding.bind fun name _ => ?_
  refine (reads_loadModel name names octets).bind fun m _ => ?_
  have target : Reads t (check .shape (Profile.Target.ofProfile p))
      (fun target => ∀ ordered, ∃ k, target.collection? ordered = some k)
      fun e => e.isMissing = false :=
    .check (fun _ made => Profile.collection?_of_hasKinds kinds made) fun _ _ => rfl
  exact target.bind fun _ there => .pure there

theorem ofRequest_early {c : Config} {request : Config.Request} {octets : Text.Octets} {d d' : Desk}
    {e : Failure} (failed : (ofRequest c request).run.run d = (.error e, d'))
    (there : d.tree.read? request.input = some octets) :
    e.isMissing = false ∧ (e.isEarly = true → d'.tree = d.tree) := by
  obtain ⟨kept, ended⟩ := reads_prepare (c := c) there d rfl
  rw [ofRequest, run_bind] at failed
  rcases ran : (prepare c request).run.run d with ⟨result, d₁⟩
  rw [ran] at failed kept ended
  cases result with
  | error e' =>
    cases failed
    exact ⟨ended, fun _ => kept⟩
  | ok g =>
    dsimp only at failed ended
    rcases generate_cases g request.output d₁ with ⟨e', d₂, unwritten⟩ | ⟨t', put⟩
    · cases unwritten.symm.trans failed
      exact ⟨rfl, nofun⟩
    · rw [generate_of_putAll put] at failed
      split at failed
      · cases failed
      · rename_i e' stopped
        cases failed
        refine ⟨rfl, fun early => ?_⟩
        have lack : e'.isLack = true := early
        rw [Generator.not_lack_of_files ended stopped] at lack
        cases lack

end Work

/-! ### Whole runs -/

namespace Task

variable {α β : Type}

theorem perform_bind (w : Task α) (f : α → Task β) (o : Office) : (w >>= f).perform o =
    match w.perform o with
    | (.ok a, o') => (f a).perform o'
    | (.error e, o') => (.error e, o') := by
  unfold perform
  rw [run_bind]
  rcases (ExceptT.run w).run o with ⟨result, o'⟩
  cases result <;> rfl

theorem perform_get (o : Office) : (get : Task Office).perform o = (.ok o, o) := rfl

theorem perform_modify (f : Office → Office) (o : Office) :
    (modify f : Task Unit).perform o = (.ok (), f o) := rfl

theorem perform_config (i : Nat) (o : Office) :
    (config i).perform o = (.ok (o.configs.getD i {}), o) := rfl

theorem perform_hold (c : Config) (o : Office) :
    (hold c).perform o = (.ok o.configs.length, { o with configs := o.configs ++ [c] }) := rfl

theorem perform_onDesk (w : Work α) (o : Office) : (onDesk w).perform o =
    ((w.run.run o.desk).1, { o with desk := (w.run.run o.desk).2 }) := rfl

theorem perform_validate (desk : Desk) (configs : List Config) (c : Config) :
    (validate configs.length).perform { desk, configs := configs ++ [c] } =
      ((match (c.validate desk.tree).1 with
        | .ok request => .ok request
        | .error e => .error (.config e)),
        { desk := { desk with tree := (c.validate desk.tree).2.2 },
          configs := configs ++ [(c.validate desk.tree).2.1] }) := by
  have last : (configs ++ [c]).getD configs.length {} = c := by simp
  have trimmed (c' : Config) : (configs ++ [c]).set configs.length c' = configs ++ [c'] := by simp
  rw [validate, perform_bind, perform_config]
  dsimp only
  rw [last, perform_bind, perform_get]
  dsimp only
  rw [perform_bind, perform_modify]
  dsimp only
  rw [trimmed, perform_onDesk]
  cases (c.validate desk.tree).1 with
  | ok request => rfl
  | error e => rfl

theorem perform_run (i : Nat) (o : Office) : (run i).perform o =
    let checked := (o.configs.getD i {}).validate o.desk.tree
    let desk : Desk := { o.desk with tree := checked.2.2 }
    match checked.1 with
    | .error e => (.error (.config e), { desk, configs := o.configs ++ [checked.2.1] })
    | .ok request =>
      let ended := (Work.ofRequest checked.2.1 request).run.run desk
      (ended.1, { desk := ended.2, configs := o.configs ++ [checked.2.1] }) := by
  rw [run, perform_bind, perform_config]
  dsimp only
  rw [perform_bind, perform_hold]
  dsimp only
  rw [perform_bind, perform_validate]
  cases ((o.configs.getD i {}).validate o.desk.tree).1 with
  | error e => rfl
  | ok request =>
    have last (c : Config) : (o.configs ++ [c]).getD o.configs.length {} = c := by simp
    dsimp only
    rw [perform_bind, perform_config]
    dsimp only
    rw [last, perform_onDesk]

/-- What a run does to what its caller holds. -/
structure Spares (o o' : Office) (result : Except Failure Nat) : Prop where
  /-- Configurations that are held stay as they are, whatever is held besides. -/
  configs : o.configs <+: o'.configs
  files {e : Failure} : result = .error e → e.isEarly = true →
    ∀ place, o'.desk.tree.contentAt? place = o.desk.tree.contentAt? place
  directories {e : Failure} : result = .error e → e.isMissing = true →
    o'.desk.tree = o.desk.tree

theorem spares_run (i : Nat) (o : Office) :
    Spares o ((run i).perform o).2 ((run i).perform o).1 := by
  have kept := Config.validate_keepsFiles (o.configs.getD i {}) o.desk.tree
  rw [perform_run]
  dsimp only
  cases checked : ((o.configs.getD i {}).validate o.desk.tree).1 with
  | error e =>
    refine ⟨List.prefix_append _ _, fun _ _ => kept.contents, fun failed missing => ?_⟩
    cases failed
    exact Config.validate_missing checked missing
  | ok request =>
    obtain ⟨octets, there⟩ := Config.validate_ok checked
    dsimp only
    generalize ended : (Work.ofRequest _ request).run.run _ = r
    obtain ⟨result, desk⟩ := r
    refine ⟨List.prefix_append _ _, fun failed early place => ?_, fun failed missing => ?_⟩
    · cases failed
      obtain ⟨-, same⟩ := Work.ofRequest_early ended there
      rw [same early]
      exact kept.contents place
    · cases failed
      obtain ⟨other, -⟩ := Work.ofRequest_early ended there
      rw [other] at missing
      cases missing

theorem perform_configOrStandard (i : Option Nat) (o : Office) :
    ∃ c, (configOrStandard i).perform o = (.ok c, o) := by
  cases i with
  | none => exact ⟨{}, rfl⟩
  | some i => exact ⟨o.configs.getD i {}, rfl⟩

theorem perform_ofPaths (input output package : Value) (i : Option Nat) (o : Office) :
    ∃ c, (ofPaths input output package i).perform o =
      (run o.configs.length).perform { o with configs := o.configs ++ [c] } := by
  obtain ⟨c, found⟩ := perform_configOrStandard i o
  rw [ofPaths, perform_bind, found]
  dsimp only
  rw [perform_bind, perform_hold]
  exact ⟨_, rfl⟩

end Task

inductive Call
  | run (config : Nat)
  | ofPaths (input output package : Value) (config : Option Nat)

def Call.task : Call → Task Nat
  | .run i => Task.run i
  | .ofPaths input output package i => Task.ofPaths input output package i

/-- However a run is asked for, it spares what its caller holds. -/
theorem spares_perform (call : Call) (o : Office) :
    Task.Spares o (call.task.perform o).2 (call.task.perform o).1 := by
  cases call with
  | run i => exact Task.spares_run i o
  | ofPaths input output package i =>
    obtain ⟨c, ran⟩ := Task.perform_ofPaths input output package i o
    rw [Call.task, ran]
    have spared := Task.spares_run o.configs.length { o with configs := o.configs ++ [c] }
    exact ⟨(List.prefix_append _ _).trans spared.configs, spared.files, spared.directories⟩

private def unreadable : Office where
  desk := { tree := { nodes := .ofList [(["in.xml"], .file [60])] } }
  configs := [{
    inputPath := .text "in.xml"
    outputDirectory := .text "out"
    packageName := .text " fint " }]

theorem spares_perform_unreadable : ∃ o,
    (Call.run 0).task.perform unreadable = (.error (.load .malformed), o) ∧
      unreadable.configs <+: o.configs ∧
      ∀ place, o.desk.tree.contentAt? place = unreadable.desk.tree.contentAt? place := by
  have failed : (match ((Call.run 0).task.perform unreadable).1 with
      | .error e => decide (e = .load .malformed)
      | .ok _ => false) = true := by decide +kernel
  have spared := spares_perform (.run 0) unreadable
  rcases performed : (Call.run 0).task.perform unreadable with ⟨result, o⟩
  rw [performed] at failed spared
  cases result with
  | ok n => cases failed
  | error e =>
    cases of_decide_eq_true failed
    exact ⟨o, rfl, spared.configs, spared.files rfl rfl⟩

end UmlKotlin.Run
