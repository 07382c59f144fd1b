import UmlKotlin.Kotlin.Generator
import UmlKotlin.Proofs.Kotlin.Identifier
import UmlKotlin.Proofs.Workspace.Path
import UmlKotlin.Proofs.Workspace.Tree

/-!
Where source files are put. Main statement: two paths of classes that lead to one place are the same
path, unless the extension of a file name leads back to the directory around it
(`sourcePath_eq_of_locate`).
-/

set_option autoImplicit false

namespace UmlKotlin.Kotlin

open Workspace (Path.Plain Path.lead Path.parts Path.isAbsolute Path.join Path.joinAll)

/-! ### Names as parts of paths -/

theorem plain_className (reserved : List String) (name : Option String) :
    Path.Plain (className reserved name) where
  ne_empty := className_ne_empty reserved name
  slash h := absurd (isAlphanum_of_mem_className h) (by decide)

theorem plain_packageSegment (reserved : List String) (name : String) :
    Path.Plain (packageSegment reserved name) where
  ne_empty := packageSegment_ne_empty reserved name
  slash h := absurd (isAlphanum_of_mem_packageSegment h) (by decide)

theorem ne_points {s : String} (some : s ≠ "") (free : '.' ∉ s.toList) (ending : String) :
    s ++ ending ≠ "" ∧ s ++ ending ≠ "." ∧ s ++ ending ≠ ".." := by
  obtain ⟨c, cs, first⟩ := Workspace.Path.exists_toList some
  have other : c ≠ '.' := by
    rintro rfl
    exact free (first ▸ List.mem_cons_self)
  have begins : (s ++ ending).toList.head? = Option.some c := by simp [first]
  have apart (t : String) (points : t.toList.head? = none ∨ t.toList.head? = Option.some '.') :
      s ++ ending ≠ t := by
    rintro rfl
    rw [begins] at points
    rcases points with none | point
    · cases none
    · exact other (Option.some.inj point)
  exact ⟨apart "" (.inl rfl), apart "." (.inr rfl), apart ".." (.inr rfl)⟩

namespace Generator

variable {g : Generator} {output extension path path' : String} {c c' : Uml.Class}

def segments (g : Generator) (c : Uml.Class) : List String :=
  (g.namesake c).packagePath.map (packageSegment g.target.reserved)

theorem plain_of_mem_segments {segment : String} (h : segment ∈ g.segments c) :
    Path.Plain segment := by
  obtain ⟨name, -, rfl⟩ := List.mem_map.mp h
  exact plain_packageSegment _ name

theorem splitAt_packageOf (g : Generator) (c : Uml.Class) :
    Text.splitAt '.' (g.packageOf c) = Text.splitAt '.' g.root ++ g.segments c := by
  have free : ∀ segment ∈ g.segments c, '.' ∉ segment.toList := by
    intro segment member point
    obtain ⟨name, -, rfl⟩ := List.mem_map.mp member
    exact absurd (isAlphanum_of_mem_packageSegment point) (by decide)
  have joined : g.packageOf c = ".".intercalate (g.root :: g.segments c) := rfl
  rw [joined]
  cases below : g.segments c with
  | nil => rw [String.intercalate_singleton, List.append_nil]
  | cons segment segments =>
    rw [below] at free
    have point : "." = String.singleton '.' := rfl
    rw [String.intercalate_cons_cons, point, Text.splitAt_append,
      Text.splitAt_intercalate (List.cons_ne_nil _ _) free]

def rootDirectory (g : Generator) (output : String) : String :=
  Path.joinAll output (Text.splitAt '.' g.root)

theorem parts_sourcePath (ending : g.target.extension? = some extension)
    (made : g.sourcePath output c = .ok path) :
    Path.parts path = Path.lead (g.rootDirectory output) ++ g.segments c ++
        Path.parts (g.classNameOf c ++ extension) ∧
      Path.isAbsolute path = Path.isAbsolute (g.rootDirectory output) := by
  have plain : ∀ segment ∈ g.segments c, Path.Plain segment := fun _ => plain_of_mem_segments
  have relative : Path.isAbsolute (g.classNameOf c ++ extension) = false :=
    Workspace.Path.isAbsolute_plain (plain_className _ _) extension
  rw [sourcePath, ending] at made
  dsimp only at made
  rw [splitAt_packageOf, Path.joinAll, List.foldl_append] at made
  cases made
  exact Workspace.Path.parts_joinAll plain relative

theorem parts_className {first : String} {rest : List String}
    (cut : Path.parts extension = first :: rest) (g : Generator) (c : Uml.Class) :
    Path.parts (g.classNameOf c ++ extension) = (g.classNameOf c ++ first) :: rest :=
  Text.splitAt_append_of_free (plain_className _ _).slash cut

theorem segments_of_parts {first : String} {rest : List String}
    (same : g.segments c ++ (g.classNameOf c ++ first) :: rest =
      g.segments c' ++ (g.classNameOf c' ++ first) :: rest) :
    g.segments c = g.segments c' ∧ g.classNameOf c = g.classNameOf c' := by
  obtain ⟨segments, names⟩ := List.append_inj' same (by rw [List.length_cons, List.length_cons])
  obtain ⟨name, -⟩ := List.cons_eq_cons.mp names
  exact ⟨segments, by simpa using name⟩

/-- What comes behind the directory of the root package leads forward, from directory to directory
and at last to a name that is followed by the rest of the extension. -/
theorem forward_sourcePath {first : String} {rest : List String}
    (cut : Path.parts extension = first :: rest) (forward : ".." ∉ Path.parts extension)
    (g : Generator) (c : Uml.Class) :
    ".." ∉ g.segments c ++ (g.classNameOf c ++ first) :: rest ∧
      Workspace.Tree.leading (g.segments c ++ (g.classNameOf c ++ first) :: rest) =
        g.segments c ++ (g.classNameOf c ++ first) :: Workspace.Tree.leading rest := by
  have segments : ∀ segment ∈ g.segments c, segment ≠ "" ∧ segment ≠ "." ∧ segment ≠ ".." := by
    intro segment member
    obtain ⟨name, -, rfl⟩ := List.mem_map.mp member
    have free : '.' ∉ (packageSegment g.target.reserved name).toList := fun point =>
      absurd (isAlphanum_of_mem_packageSegment point) (by decide)
    simpa using ne_points (packageSegment_ne_empty _ name) free ""
  have free : '.' ∉ (g.classNameOf c).toList := fun point =>
    absurd (isAlphanum_of_mem_className point) (by decide)
  obtain ⟨some, point, points⟩ := ne_points (className_ne_empty _ _) free first
  rw [cut] at forward
  constructor
  · intro back
    rcases List.mem_append.mp back with back | back
    · exact (segments _ back).2.2 rfl
    rcases List.mem_cons.mp back with back | back
    · exact points back.symm
    · exact forward (List.mem_cons_of_mem _ back)
  · have all : (g.segments c).filter (fun part => part ≠ "" ∧ part ≠ ".") = g.segments c := by
      rw [List.filter_eq_self]
      intro segment member
      obtain ⟨some, point, -⟩ := segments segment member
      simp [some, point]
    rw [Workspace.Tree.leading, List.filter_append, all, List.filter_cons_of_pos]
    · rfl
    · exact decide_eq_true ⟨some, point⟩

theorem sourcePath_eq_of_locate {t : Workspace.Tree} {place : Workspace.Place}
    (ending : g.target.extension? = some extension) (forward : ".." ∉ Path.parts extension)
    (made : g.sourcePath output c = .ok path) (made' : g.sourcePath output c' = .ok path')
    (located : t.locate path = .ok place) (located' : t.locate path' = .ok place) :
    path = path' := by
  obtain ⟨first, rest, cut⟩ := List.exists_cons_of_ne_nil (Workspace.Path.parts_ne_nil extension)
  obtain ⟨parts, root⟩ := parts_sourcePath ending made
  obtain ⟨parts', root'⟩ := parts_sourcePath ending made'
  rw [parts_className cut, List.append_assoc] at parts parts'
  -- both ways begin with the directory of the root package
  have walked := Workspace.Tree.locate_eq_ok located
  have walked' := Workspace.Tree.locate_eq_ok located'
  rw [parts, root, List.foldlM_append] at walked
  rw [parts', root', List.foldlM_append] at walked'
  obtain ⟨start, lead, onward⟩ := bind_eq_ok_iff.mp walked
  obtain ⟨start', lead', onward'⟩ := bind_eq_ok_iff.mp walked'
  obtain rfl : start = start' := Except.ok.inj (lead.symm.trans lead')
  obtain ⟨forth, leading⟩ := forward_sourcePath cut forward g c
  obtain ⟨forth', leading'⟩ := forward_sourcePath cut forward g c'
  have same := (Workspace.Tree.walk_forward forth onward).symm.trans
    (Workspace.Tree.walk_forward forth' onward')
  rw [leading, leading', List.append_cancel_left_eq] at same
  obtain ⟨segments, name⟩ := segments_of_parts same
  apply Workspace.Path.parts_injective
  rw [parts, parts', segments, name]

end Generator

end UmlKotlin.Kotlin
