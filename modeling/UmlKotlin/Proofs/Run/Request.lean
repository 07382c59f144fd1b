import UmlKotlin.Proofs.Outcome
import UmlKotlin.Proofs.Workspace.Tree
import UmlKotlin.Run.Config

/-!
What checking a configuration does to a tree. Directories are made at most, and none if something is
missing that is required (`validate_missing`); the input file of a request that results is there
(`validate_ok`).
-/

set_option autoImplicit false

namespace UmlKotlin.Workspace.Tree

variable {t t' : Tree} {path : String} {content : Text.Octets}

theorem read?_eq_some_iff : t.read? path = some content ↔
    ∃ place, t.locate path = .ok place ∧ t.contentAt? place = some content := by
  unfold read? at? contentAt?
  cases t.locate path with
  | error e => simp
  | ok place =>
    constructor
    · intro there
      exact ⟨place, rfl, there⟩
    · rintro ⟨_, located, there⟩
      cases located
      exact there

theorem KeepsFiles.read? (h : KeepsFiles t t') (there : t.read? path = some content) :
    t'.read? path = some content := by
  obtain ⟨place, located, file⟩ := read?_eq_some_iff.mp there
  exact read?_eq_some_iff.mpr ⟨place, h.grows.locate located, (h.contents place).trans file⟩

end UmlKotlin.Workspace.Tree

namespace UmlKotlin.Run

open Data (Value)
open Workspace (Tree)
open Workspace.Tree (KeepsFiles)

def ConfigError.isMissing : ConfigError → Bool
  | .noInput | .inputNotFound _ | .noOutput | .noPackage => true
  | _ => false

namespace Config

variable {c : Config} {t : Tree}

/-- What is required is missing, or something cannot be used, or the output directory is made. -/
theorem validate_cases (c : Config) (t : Tree) :
    (∃ e, c.essentials t = .error e ∧ c.validate t = (.error e, c, t)) ∨
    ∃ input output package, c.essentials t = .ok (input, output, package) ∧
      (c.validate t).2.1 = { c with packageName := .text package } ∧
      KeepsFiles t (c.validate t).2.2 ∧
      ((∃ e, (c.validate t).1 = .error e ∧ e.isMissing = false) ∨
        ∃ request, (c.validate t).1 = .ok request ∧ request.input = input) := by
  unfold validate
  cases found : c.essentials t with
  | error e => exact .inl ⟨e, rfl, rfl⟩
  | ok parts =>
    obtain ⟨input, output, package⟩ := parts
    refine .inr ⟨input, output, package, rfl, ?_⟩
    dsimp only
    split
    · exact ⟨rfl, .refl t, .inl ⟨.noPath, rfl, rfl⟩⟩
    · rename_i output' _
      have kept := t.makeDirectories_keepsFiles output'
      split
      · rename_i made
        rw [made] at kept
        exact ⟨rfl, kept, .inr ⟨_, rfl, rfl⟩⟩
      · rename_i made
        rw [made] at kept
        exact ⟨rfl, kept, .inl ⟨_, rfl, rfl⟩⟩
      · rename_i made
        rw [made] at kept
        exact ⟨rfl, kept, .inl ⟨_, rfl, rfl⟩⟩

theorem validate_keepsFiles (c : Config) (t : Tree) : KeepsFiles t (c.validate t).2.2 := by
  rcases validate_cases c t with ⟨e, -, checked⟩ | ⟨input, output, package, -, -, kept, -⟩
  · rw [checked]
    exact .refl t
  · exact kept

theorem validate_missing {e : ConfigError} (failed : (c.validate t).1 = .error e)
    (missing : e.isMissing = true) : (c.validate t).2.2 = t := by
  rcases validate_cases c t with
    ⟨e', -, checked⟩ | ⟨input, output, package, -, -, -, ⟨e', failed', other⟩ | ⟨request, made, -⟩⟩
  · rw [checked]
  · cases failed.symm.trans failed'
    rw [missing] at other
    cases other
  · cases failed.symm.trans made

theorem exists_read?_of_inputOf {setting : Value} {path : String}
    (found : inputOf setting t = .ok path) : ∃ octets, t.read? path = some octets := by
  unfold inputOf at found
  split at found
  · cases found
  · cases found
  · rename_i octets given
    cases found
    refine ⟨octets, ?_⟩
    unfold Tree.readGiven? at given
    split at given
    · exact Option.some.inj given
    · cases given
    · cases given
    · cases given

theorem validate_ok {request : Request} (made : (c.validate t).1 = .ok request) :
    ∃ octets, (c.validate t).2.2.read? request.input = some octets := by
  rcases validate_cases c t with
    ⟨e, -, checked⟩ |
    ⟨input, output, package, found, -, kept, ⟨e, failed, -⟩ | ⟨request', made', same⟩⟩
  · rw [checked] at made
    cases made
  · cases made.symm.trans failed
  · cases made.symm.trans made'
    obtain ⟨setting, -, found⟩ := bind_eq_ok_iff.mp found
    obtain ⟨input', there, found⟩ := bind_eq_ok_iff.mp found
    obtain ⟨output', -, found⟩ := bind_eq_ok_iff.mp found
    obtain ⟨name, -, found⟩ := bind_eq_ok_iff.mp found
    obtain ⟨package', -, found⟩ := bind_eq_ok_iff.mp found
    cases found
    obtain ⟨octets, there⟩ := exists_read?_of_inputOf there
    exact ⟨octets, same ▸ kept.read? there⟩

end Config

end UmlKotlin.Run
