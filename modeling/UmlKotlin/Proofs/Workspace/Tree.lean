import UmlKotlin.Proofs.Outcome
import UmlKotlin.Proofs.Table
import UmlKotlin.Workspace.Tree

/-!
What making directories and writing files leaves as it was. Paths lead where they led before as long
as no directory is lost (`Grows.locate`). Main statements: making directories changes no file
(`makeDirectories_keepsFiles`), and writing a file changes this one only (`writes_of_write`).
-/

set_option autoImplicit false

namespace UmlKotlin.Workspace.Tree

open Text (Octets)

def contentAt? (t : Tree) (place : Place) : Option Octets :=
  match t.node? place with
  | some (.file content) => some content
  | _ => none

def Grows (t t' : Tree) : Prop :=
  ∀ place, t.node? place = some .directory → t'.node? place = some .directory

variable {t t' t'' : Tree} {path : String} {place : Place} {content : Octets}

theorem Grows.refl (t : Tree) : Grows t t := fun _ h => h

theorem Grows.trans (h : Grows t t') (h' : Grows t' t'') : Grows t t'' :=
  fun place there => h' place (h place there)

theorem enter_eq_ok {part : String} {next : Place} (h : t.enter place part = .ok next) :
    t.node? place = some .directory := by
  unfold enter at h
  split at h
  · cases h
  · cases h
  · assumption

theorem Grows.enter (h : Grows t t') {part : String} {next : Place}
    (entered : t.enter place part = .ok next) : t'.enter place part = .ok next := by
  have there := enter_eq_ok entered
  rw [Tree.enter, there] at entered
  rw [Tree.enter, h place there]
  exact entered

theorem Grows.locate (h : Grows t t') (located : t.locate path = .ok place) :
    t'.locate path = .ok place := by
  have walk (parts : List String) (start : Place) (walked : parts.foldlM t.enter start = .ok place) :
      parts.foldlM t'.enter start = .ok place := by
    induction parts generalizing start with
    | nil => exact walked
    | cons part parts ih =>
      rw [List.foldlM_cons] at walked ⊢
      obtain ⟨next, entered, rest⟩ := bind_eq_ok_iff.mp walked
      exact bind_eq_ok_iff.mpr ⟨next, h.enter entered, ih next rest⟩
  unfold Tree.locate at located ⊢
  split at located
  · cases located
  split at located
  · cases located
  split at located
  · cases located
  · rename_i usable named short
    rw [if_neg usable, if_neg named, if_neg short]
    exact walk _ _ located

/-! ### Ways -/

theorem locate_eq_ok (h : t.locate path = .ok place) : (Path.parts path).foldlM t.enter
    (if Path.isAbsolute path then ["/"] else []) = .ok place := by
  unfold locate at h
  split at h
  · cases h
  split at h
  · cases h
  split at h
  · cases h
  · exact h

def leading (parts : List String) : List String := parts.filter fun part => part ≠ "" ∧ part ≠ "."

theorem enter_forward {part : String} {next : Place} (forward : part ≠ "..")
    (entered : t.enter place part = .ok next) : next = place ++ leading [part] := by
  rw [enter, enter_eq_ok entered] at entered
  dsimp only at entered
  split at entered
  · rename_i stays
    cases entered
    have none : leading [part] = [] := by
      rcases Bool.or_eq_true_iff.mp stays with here | here <;> simp [leading, of_decide_eq_true here]
    rw [none, List.append_nil]
  rename_i moves
  split at entered
  · cases entered
  · cases entered
    have one : leading [part] = [part] := by simpa [leading] using moves
    rw [one]

/-- A way that never leads back to the directory around it adds its parts to the place. -/
theorem walk_forward {parts : List String} {start : Place} (forward : ".." ∉ parts)
    (walked : parts.foldlM t.enter start = .ok place) : place = start ++ leading parts := by
  induction parts generalizing start with
  | nil =>
    cases walked
    rw [leading, List.filter_nil, List.append_nil]
  | cons part parts ih =>
    rw [List.foldlM_cons] at walked
    obtain ⟨next, entered, rest⟩ := bind_eq_ok_iff.mp walked
    have other : part ≠ ".." := fun same => forward (same ▸ List.mem_cons_self)
    have later : ".." ∉ parts := fun member => forward (List.mem_cons_of_mem _ member)
    have first := enter_forward other entered
    have split : leading (part :: parts) = leading [part] ++ leading parts :=
      List.filter_append [part] parts
    rw [ih later rest, first, split, List.append_assoc]

/-! ### Entries -/

theorem node?_insert {q : Place} (free : isGiven q = false) (node : Node) (place : Place) :
    ({ nodes := t.nodes.insert q node } : Tree).node? place =
      if place = q then some node else t.node? place := by
  simp only [node?, Table.get?_insert]
  by_cases here : place = q
  · subst here
    simp [free]
  · simp [here]

theorem not_isGiven (h : t.node? place ≠ some .directory) : isGiven place = false := by
  by_contra given
  exact h (by rw [node?, if_pos (by simpa using given)])

/-! ### Directories -/

/-- Directories are added at most; all files stay as they are. -/
structure KeepsFiles (t t' : Tree) : Prop where
  grows : Grows t t'
  contents (place : Place) : t'.contentAt? place = t.contentAt? place

theorem KeepsFiles.refl (t : Tree) : KeepsFiles t t := ⟨.refl t, fun _ => rfl⟩

theorem KeepsFiles.trans (h : KeepsFiles t t') (h' : KeepsFiles t' t'') : KeepsFiles t t'' :=
  ⟨h.grows.trans h'.grows, fun place => (h'.contents place).trans (h.contents place)⟩

theorem makeDirectory_keepsFiles (h : t.makeDirectory path = .ok t') : KeepsFiles t t' := by
  unfold makeDirectory at h
  dsimp only at h
  split at h
  · cases h
  · rename_i place located
    split at h
    · cases h
    · rename_i nothing
      cases h
      have nothing : t.node? place = none := by simpa using nothing
      have unused : t.node? place ≠ some .directory := by simp [nothing]
      have free := not_isGiven unused
      constructor
      · intro q there
        rw [node?_insert free]
        split
        · rfl
        · exact there
      · intro q
        simp only [contentAt?, node?_insert free]
        by_cases here : q = place
        · simp [here, nothing]
        · simp [here]

theorem keepsFiles_go (fuel : Nat) (t : Tree) (path : String) :
    KeepsFiles t (makeDirectories.go fuel t path).1 := by
  induction fuel generalizing t path with
  | zero => exact .refl t
  | succ fuel ih =>
    unfold makeDirectories.go
    -- first the directories around the one that is asked for
    have around {missing : Bool} {head : String} {outer : Tree × Option FileError}
        (made : (if missing then makeDirectories.go fuel t head else (t, none)) = outer) :
        KeepsFiles t outer.1 := by
      subst made
      split
      · exact ih t head
      · exact .refl t
    split
    rename_i head tail names
    split
    rename_i t' failure made
    have kept : KeepsFiles t t' := around made
    split
    · exact kept
    · split
      · rename_i made
        exact kept.trans (makeDirectory_keepsFiles made)
      · split <;> exact kept

theorem makeDirectories_keepsFiles (t : Tree) (path : String) :
    KeepsFiles t (t.makeDirectories path).1 :=
  keepsFiles_go _ t path

/-! ### Files -/

/-- A path leads to a place, which holds the file that was written; all other files are as before. -/
structure Writes (t t' : Tree) (path : String) (content : Octets) : Prop where
  grows : Grows t t'
  contents : ∃ place, t'.locate path = .ok place ∧
    ∀ q, t'.contentAt? q = if q = place then some content else t.contentAt? q

theorem KeepsFiles.writes (h : KeepsFiles t t') (h' : Writes t' t'' path content) :
    Writes t t'' path content := by
  obtain ⟨grows, place, located, contents⟩ := h'
  refine ⟨h.grows.trans grows, place, located, fun q => ?_⟩
  rw [contents, h.contents]

theorem write_eq_ok_iff : t.write path content = .ok t' ↔
    ∃ place, t.locate path = .ok place ∧ t.node? place ≠ some .directory ∧
      path.toList.getLast? ≠ some '/' ∧ t' = { nodes := t.nodes.insert place (.file content) } := by
  unfold write
  cases t.locate path with
  | error e => simp
  | ok place =>
    simp only [Except.ok.injEq, exists_eq_left']
    by_cases slash : path.toList.getLast? = some '/'
    · split <;> simp [slash]
    · split
      · rename_i there
        simp [there]
      all_goals
        rename_i there
        simp [there, slash, eq_comm]

theorem writes_of_write (h : t.write path content = .ok t') : Writes t t' path content := by
  obtain ⟨place, located, other, -, rfl⟩ := write_eq_ok_iff.mp h
  -- a file is put where no directory is
  have free := not_isGiven other
  have grows : Grows t { nodes := t.nodes.insert place (.file content) } := by
    intro q there
    rw [node?_insert free, if_neg (by rintro rfl; exact other there)]
    exact there
  refine ⟨grows, place, grows.locate located, fun q => ?_⟩
  simp only [contentAt?, node?_insert free]
  by_cases here : q = place <;> simp [here]

end UmlKotlin.Workspace.Tree
