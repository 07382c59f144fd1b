import UmlKotlin.Proofs.Workspace.Path
import UmlKotlin.Proofs.Workspace.Tree

/-!
What is done to a tree a second time. Directories that were made are not made again
(`makeDirectories_again`), and a file written over another one keeps the shape of the tree
(`exists_write_over`), so that a tree of the same shape with the same files is the same tree
(`SameShape.eq`).
-/

set_option autoImplicit false

namespace UmlKotlin.Workspace.Tree

open Text (Octets)

variable {t t' u v : Tree} {path : String} {place : Place}

/-- Directories stay directories, and files stay files. -/
structure Lasts (t u : Tree) : Prop where
  grows : Grows t u
  files (place : Place) : (t.contentAt? place).isSome → (u.contentAt? place).isSome

theorem Lasts.trans (h : Lasts t u) (h' : Lasts u v) : Lasts t v :=
  ⟨h.grows.trans h'.grows, fun place there => h'.files place (h.files place there)⟩

theorem isSome_contentAt?_iff :
    (t.contentAt? place).isSome ↔ ∃ content, t.node? place = some (.file content) := by
  unfold contentAt?
  split
  · rename_i content there
    simp [there]
  · rename_i other
    simpa using other

theorem Lasts.present (h : Lasts t u) (there : (t.node? place).isSome) :
    (u.node? place).isSome := by
  cases what : t.node? place with
  | none =>
    rw [what] at there
    cases there
  | some node =>
    cases node with
    | directory => rw [h.grows place what, Option.isSome_some]
    | file content =>
      obtain ⟨content', file⟩ :=
        isSome_contentAt?_iff.mp (h.files place (isSome_contentAt?_iff.mpr ⟨content, what⟩))
      rw [file, Option.isSome_some]

theorem KeepsFiles.lasts (h : KeepsFiles t u) : Lasts t u :=
  ⟨h.grows, fun place there => (h.contents place).symm ▸ there⟩

theorem Writes.lasts {content : Octets} (h : Writes t u path content) : Lasts t u := by
  obtain ⟨grows, place, -, contents⟩ := h
  refine ⟨grows, fun q there => ?_⟩
  rw [contents]
  split
  · rfl
  · exact there

theorem Lasts.at? (h : Lasts t u) (there : (t.at? path).isSome) : (u.at? path).isSome := by
  unfold Tree.at? at there
  split at there
  · rename_i place located
    rw [Tree.at?, h.grows.locate located]
    exact h.present there
  · cases there

/-! ### Directories -/

theorem isDirectory_iff : t.isDirectory path = true ↔
    ∃ place, t.locate path = .ok place ∧ t.node? place = some .directory := by
  unfold isDirectory at?
  cases located : t.locate path with
  | error e => simp
  | ok place => simp

theorem Grows.isDirectory (h : Grows t u) (there : t.isDirectory path = true) :
    u.isDirectory path = true := by
  obtain ⟨place, located, directory⟩ := isDirectory_iff.mp there
  exact isDirectory_iff.mpr ⟨place, h.locate located, h place directory⟩

theorem makeDirectory_eq_ok_iff (trimmed : Path.Trimmed path) : t.makeDirectory path = .ok t' ↔
    ∃ place, t.locate path = .ok place ∧ t.node? place = none ∧
      t' = { nodes := t.nodes.insert place .directory } := by
  have short : (if String.ofList (Path.dropSlashes path.toList) = "" then path
      else String.ofList (Path.dropSlashes path.toList)) = path := by
    rcases trimmed with none | all
    · rw [none, if_pos rfl]
    · rw [all, String.ofList_toList, ite_self]
  unfold makeDirectory
  dsimp only
  rw [short]
  cases t.locate path with
  | error e => simp
  | ok place =>
    dsimp only
    split
    · rename_i there
      simp [Option.isSome_iff_ne_none.mp there]
    · rename_i nothing
      have nothing : t.node? place = none := by simpa using nothing
      simp [nothing, eq_comm]

theorem isDirectory_of_makeDirectory (trimmed : Path.Trimmed path)
    (made : t.makeDirectory path = .ok t') : t'.isDirectory path = true := by
  have grows := (makeDirectory_keepsFiles made).grows
  obtain ⟨place, located, nothing, rfl⟩ := (makeDirectory_eq_ok_iff trimmed).mp made
  have free : isGiven place = false := not_isGiven (by rw [nothing]; nofun)
  refine isDirectory_iff.mpr ⟨place, grows.locate located, ?_⟩
  rw [node?_insert free, if_pos rfl]

theorem makeDirectory_of_isDirectory (trimmed : Path.Trimmed path)
    (there : t.isDirectory path = true) : ∃ e, t.makeDirectory path = .error e := by
  obtain ⟨place, located, directory⟩ := isDirectory_iff.mp there
  cases made : t.makeDirectory path with
  | error e => exact ⟨e, rfl⟩
  | ok t' =>
    obtain ⟨place', located', nothing, -⟩ := (makeDirectory_eq_ok_iff trimmed).mp made
    cases located.symm.trans located'
    cases directory.symm.trans nothing

/-- The path of the directory around the one that a path names, and the name in between. -/
def around (path : String) : String × String :=
  if (Path.split path).2 = "" then Path.split (Path.split path).1 else Path.split path

theorem trimmed_around (path : String) : Path.Trimmed (around path).1 := by
  unfold around
  split
  · exact Path.trimmed_split _
  · exact Path.trimmed_split _

/-- Whether the directories around the one that a path names have to be made first. -/
def lacksAround (t : Tree) (path : String) : Bool :=
  (around path).1 ≠ "" && (around path).2 ≠ "" && (t.at? (around path).1).isNone

theorem Lasts.lacksAround (h : Lasts t u) (there : t.lacksAround path = false) :
    u.lacksAround path = false := by
  unfold Tree.lacksAround at there ⊢
  rw [Bool.and_eq_false_iff] at there ⊢
  refine there.imp_right fun some => ?_
  rw [Option.isNone_eq_false_iff] at some ⊢
  exact h.at? some

/-- A directory made after those around it, unless that failed. -/
def makeInside (path : String) : Tree × Option FileError → Tree × Option FileError
  | (t, some e) => (t, some e)
  | (t, none) =>
    match t.makeDirectory path with
    | .ok t => (t, none)
    | .error e => if t.isDirectory path then (t, none) else (t, some e)

theorem go_succ (fuel : Nat) (t : Tree) (path : String) : makeDirectories.go (fuel + 1) t path =
    makeInside path
      (if t.lacksAround path then makeDirectories.go fuel t (around path).1 else (t, none)) := by
  conv_lhs => unfold makeDirectories.go
  split
  rename_i head tail names
  have names : around path = (head, tail) := names
  rw [lacksAround, names]
  generalize (if (decide (head ≠ "") && decide (tail ≠ "") && (t.at? head).isNone) = true then
    makeDirectories.go fuel t head else (t, none)) = outer
  obtain ⟨w, failure⟩ := outer
  cases failure with
  | some e => rw [makeInside]
  | none => cases made : w.makeDirectory path <;> simp [makeInside, made]

theorem makeInside_eq_ok_iff {outer : Tree × Option FileError} :
    makeInside path outer = (t', none) ↔ outer.2 = none ∧
      (outer.1.makeDirectory path = .ok t' ∨
        (∃ e, outer.1.makeDirectory path = .error e) ∧ outer.1.isDirectory path = true ∧
          outer.1 = t') := by
  obtain ⟨w, failure⟩ := outer
  cases failure with
  | some e => simp [makeInside]
  | none =>
    cases made : w.makeDirectory path with
    | ok made' => simp [makeInside, made]
    | error e => cases there : w.isDirectory path <;> simp [makeInside, made, there]

theorem go_made {fuel : Nat} (trimmed : Path.Trimmed path)
    (made : makeDirectories.go fuel t path = (t', none)) :
    t'.isDirectory path = true ∧ t'.lacksAround path = false := by
  induction fuel generalizing t path t' with
  | zero => cases made
  | succ fuel ih =>
    rw [go_succ] at made
    generalize outer :
      (if t.lacksAround path then makeDirectories.go fuel t (around path).1 else (t, none)) = w at made
    obtain ⟨w, failure⟩ := w
    obtain ⟨rfl, inner⟩ := makeInside_eq_ok_iff.mp made
    have present : w.lacksAround path = false := by
      split at outer
      · obtain ⟨directory, -⟩ := ih (trimmed_around path) outer
        obtain ⟨place, located, there⟩ := isDirectory_iff.mp directory
        rw [lacksAround, Tree.at?, located]
        simp [there]
      · rename_i enough
        cases outer
        exact Bool.eq_false_iff.mpr enough
    rcases inner with made | ⟨-, directory, rfl⟩
    · exact ⟨isDirectory_of_makeDirectory trimmed made,
        (makeDirectory_keepsFiles made).lasts.lacksAround present⟩
    · exact ⟨directory, present⟩

theorem makeDirectories_again (trimmed : Path.Trimmed path)
    (made : t.makeDirectories path = (t', none)) (lasts : Lasts t' u) :
    u.makeDirectories path = (u, none) := by
  obtain ⟨directory, present⟩ := go_made trimmed made
  have directory' := lasts.grows.isDirectory directory
  have enough : ¬ u.lacksAround path = true := by simp [lasts.lacksAround present]
  rw [makeDirectories, go_succ, if_neg enough]
  exact makeInside_eq_ok_iff.mpr
    ⟨rfl, .inr ⟨makeDirectory_of_isDirectory trimmed directory', directory', rfl⟩⟩

/-! ### Files -/

/-- Trees with the same directories and with files at the same places, whatever is in them. -/
structure SameShape (t u : Tree) : Prop where
  keys : u.nodes.keys = t.nodes.keys
  given (place : Place) : isGiven place = true → u.nodes.get? place = t.nodes.get? place
  directory (place : Place) : u.node? place = some .directory ↔ t.node? place = some .directory

theorem SameShape.refl (t : Tree) : SameShape t t := ⟨rfl, fun _ _ => rfl, fun _ => .rfl⟩

theorem SameShape.trans (h : SameShape t u) (h' : SameShape u v) : SameShape t v where
  keys := h'.keys.trans h.keys
  given place here := (h'.given place here).trans (h.given place here)
  directory place := (h'.directory place).trans (h.directory place)

theorem SameShape.grows (h : SameShape t u) : Grows t u := fun place => (h.directory place).mpr

theorem SameShape.present (h : SameShape t u) (place : Place) :
    (u.node? place).isSome = (t.node? place).isSome := by
  unfold node?
  split
  · rfl
  · rw [← Table.contains_eq_isSome, ← Table.contains_eq_isSome, Table.contains, Table.contains,
      h.keys]

theorem SameShape.lasts (h : SameShape t u) : Lasts t u := by
  refine ⟨h.grows, fun place there => ?_⟩
  obtain ⟨content, file⟩ := isSome_contentAt?_iff.mp there
  have present := h.present place
  have directory := h.directory place
  rw [isSome_contentAt?_iff]
  rw [file] at present directory
  cases what : u.node? place with
  | none =>
    rw [what] at present
    cases present
  | some node =>
    cases node with
    | directory => cases directory.mp what
    | file content' => exact ⟨content', rfl⟩

theorem exists_write_over {content : Octets} (located : t.locate path = .ok place)
    (file : (t.contentAt? place).isSome) (slash : path.toList.getLast? ≠ some '/') :
    ∃ u, t.write path content = .ok u ∧ SameShape t u := by
  obtain ⟨old, there⟩ := isSome_contentAt?_iff.mp file
  have other : t.node? place ≠ some .directory := by rw [there]; nofun
  have free := not_isGiven other
  have key : place ∈ t.nodes.keys := by
    rw [node?, free] at there
    exact Table.mem_keys.mpr ⟨_, there⟩
  refine ⟨_, write_eq_ok_iff.mpr ⟨place, located, other, slash, rfl⟩, ?_, ?_, ?_⟩
  · rw [Table.keys_insert, if_pos key]
  · intro q given
    rw [Table.get?_insert, if_neg]
    rintro rfl
    rw [free] at given
    cases given
  · intro q
    rw [node?_insert free]
    by_cases here : q = place
    · rw [if_pos here, here, there]
      simp
    · rw [if_neg here]

theorem SameShape.eq (h : SameShape t u) (same : ∀ place, u.contentAt? place = t.contentAt? place) :
    u = t := by
  have nodes : u.nodes = t.nodes := by
    refine Table.ext_get? h.keys fun place => ?_
    by_cases given : isGiven place = true
    · exact h.given place given
    have present := h.present place
    have directory := h.directory place
    have content := same place
    simp only [contentAt?, node?, if_neg given] at present directory content
    cases here : t.nodes.get? place with
    | none => simpa [here] using present
    | some node =>
      cases node with
      | directory => exact directory.mpr here
      | file octets =>
        rw [here] at content
        split at content
        · rename_i there
          rw [there, Option.some.inj content]
        · cases content
  cases u
  cases t
  cases nodes
  rfl

end UmlKotlin.Workspace.Tree
