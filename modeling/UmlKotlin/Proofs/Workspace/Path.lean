import Mathlib.Data.List.DropRight
import UmlKotlin.Proofs.Text.Lines
import UmlKotlin.Workspace.Path

/-!
The parts of joined paths. Whatever a relative path is joined to, its own parts come last
(`parts_join`), and plain names in between are a part each (`parts_joinAll`). A path is known by its
parts (`parts_injective`).
-/

set_option autoImplicit false

namespace UmlKotlin.Workspace.Path

structure Plain (name : String) : Prop where
  ne_empty : name ≠ ""
  slash : '/' ∉ name.toList

variable {base path name : String}

theorem intercalate_parts (path : String) : "/".intercalate (parts path) = path := by
  have cut : ['/'].intercalate (path.toList.splitOnP (· == '/')) = path.toList :=
    List.intercalate_splitOn '/'
  rw [← String.toList_inj, String.toList_intercalate, parts, Text.splitAt, Text.pieces_eq_splitOnP,
    List.map_map]
  simpa [Function.comp_def] using cut

theorem parts_injective {path' : String} (h : parts path = parts path') : path = path' := by
  rw [← intercalate_parts path, h, intercalate_parts]

theorem parts_ne_nil (path : String) : parts path ≠ [] := by
  rw [parts, Text.splitAt]
  exact mt List.map_eq_nil_iff.mp (Text.pieces_ne_nil _ _)

theorem parts_plain (plain : Plain name) : parts name = [name] := Text.splitAt_of_free plain.slash

theorem exists_toList {s : String} (h : s ≠ "") : ∃ c cs, s.toList = c :: cs :=
  List.exists_cons_of_ne_nil (mt String.toList_eq_nil_iff.mp h)

theorem isAbsolute_plain (plain : Plain name) (ending : String) :
    isAbsolute (name ++ ending) = false := by
  obtain ⟨c, cs, first⟩ := exists_toList plain.ne_empty
  have other : c ≠ '/' := by
    rintro rfl
    exact plain.slash (first ▸ List.mem_cons_self)
  simp [isAbsolute, first, other]

/-- The parts that stand in front of a relative path once it is joined to a base. -/
def lead (base : String) : List String :=
  if base = "" then []
  else if base.toList.getLast? = some '/' then (parts base).dropLast
  else parts base

theorem parts_behind_slash (h : base.toList.getLast? = some '/') (path : String) :
    parts (base ++ path) = (parts base).dropLast ++ parts path := by
  obtain ⟨cs, same⟩ := List.getLast?_eq_some_iff.mp h
  obtain rfl : base = String.ofList cs ++ String.singleton '/' := by
    rw [← String.toList_inj, same]
    simp
  have alone := Text.splitAt_append '/' (String.ofList cs) ""
  rw [String.append_empty] at alone
  rw [parts, parts, Text.splitAt_append, alone]
  simp [Text.splitAt, Text.pieces, parts]

theorem parts_join (relative : isAbsolute path = false) :
    parts (join base path) = lead base ++ parts path := by
  have head : ¬ path.toList.head? = some '/' := by simpa [isAbsolute] using relative
  rw [join, if_neg head, lead]
  by_cases empty : base = ""
  · simp [empty]
  by_cases slash : base.toList.getLast? = some '/'
  · rw [if_pos (by simp [slash]), if_neg empty, if_pos slash, parts_behind_slash slash]
  · rw [if_neg (by simp [empty, slash]), if_neg empty, if_neg slash]
    exact Text.splitAt_append '/' base path

theorem isAbsolute_join (relative : isAbsolute path = false) :
    isAbsolute (join base path) = isAbsolute base := by
  have head : ¬ path.toList.head? = some '/' := by simpa [isAbsolute] using relative
  rw [join, if_neg head]
  by_cases empty : base = ""
  · simpa [empty, isAbsolute] using head
  · obtain ⟨c, cs, first⟩ := exists_toList empty
    split <;> simp [isAbsolute, first]

theorem join_plain (plain : Plain name) :
    join base name ≠ "" ∧ (join base name).toList.getLast? ≠ some '/' := by
  have last : ∃ cs, (join base name).toList = cs ++ name.toList := by
    unfold join
    split
    · exact ⟨[], rfl⟩
    · split
      · exact ⟨base.toList, by simp⟩
      · exact ⟨(base ++ "/").toList, by simp⟩
  obtain ⟨cs, last⟩ := last
  have some : name.toList ≠ [] := mt String.toList_eq_nil_iff.mp plain.ne_empty
  constructor
  · intro none
    rw [none] at last
    exact some (List.append_eq_nil_iff.mp last.symm).2
  · rw [last, List.getLast?_append_of_ne_nil _ some]
    exact fun h => plain.slash (List.mem_of_getLast? h)

theorem isAbsolute_name (plain : Plain name) : isAbsolute name = false := by
  simpa using isAbsolute_plain plain ""

theorem lead_join (plain : Plain name) : lead (join base name) = lead base ++ [name] := by
  obtain ⟨some, slash⟩ := @join_plain base name plain
  rw [lead, if_neg some, if_neg slash, parts_join (isAbsolute_name plain), parts_plain plain]

theorem parts_joinAll {names : List String} (plain : ∀ name ∈ names, Plain name)
    (relative : isAbsolute path = false) :
    parts (join (joinAll base names) path) = lead base ++ names ++ parts path ∧
      isAbsolute (join (joinAll base names) path) = isAbsolute base := by
  induction names generalizing base with
  | nil =>
    rw [joinAll, List.foldl_nil, List.append_nil]
    exact ⟨parts_join relative, isAbsolute_join relative⟩
  | cons name names ih =>
    have first := plain name List.mem_cons_self
    have apart : isAbsolute name = false := isAbsolute_name first
    have later := fun n hn => plain n (List.mem_cons_of_mem _ hn)
    rw [joinAll, List.foldl_cons]
    obtain ⟨cut, root⟩ := @ih (join base name) later
    rw [lead_join first, List.append_assoc _ [name]] at cut
    rw [isAbsolute_join apart] at root
    exact ⟨cut, root⟩

/-! ### Below a directory -/

/-- What stands in front of everything that is inside a directory. -/
def inside (base : String) : String :=
  if base = "" ∨ base.toList.getLast? = some '/' then base else base ++ "/"

theorem join_eq_inside (relative : isAbsolute path = false) :
    join base path = inside base ++ path := by
  have head : ¬ path.toList.head? = some '/' := by simpa [isAbsolute] using relative
  rw [join, if_neg head, inside]
  by_cases ends : base = "" ∨ base.toList.getLast? = some '/'
  · rw [if_pos (by simpa using ends), if_pos ends]
  · rw [if_neg (by simpa using ends), if_neg ends]

theorem inside_join (plain : Plain name) :
    inside (join base name) = inside base ++ name ++ "/" := by
  obtain ⟨some, slash⟩ := @join_plain base name plain
  rw [inside, if_neg (by simp [some, slash]), join_eq_inside (isAbsolute_name plain)]

theorem join_joinAll {names : List String} (plain : ∀ name ∈ names, Plain name)
    (relative : isAbsolute path = false) :
    join (joinAll base names) path = inside base ++ "/".intercalate (names ++ [path]) := by
  induction names generalizing base with
  | nil => rw [joinAll, List.foldl_nil, join_eq_inside relative]; rfl
  | cons name names ih =>
    obtain ⟨first, later⟩ := List.forall_mem_cons.mp plain
    have below := @ih (join base name) later
    have further : "/".intercalate (name :: names ++ [path]) =
        name ++ "/" ++ "/".intercalate (names ++ [path]) :=
      String.intercalate_cons_of_ne_nil (by simp)
    rw [joinAll, List.foldl_cons, ← joinAll, below, inside_join first, further]
    simp only [String.append_assoc]

/-! ### Slashes at the end -/

/-- A path that ends in no slash, or has nothing but slashes. -/
def Trimmed (path : String) : Prop :=
  dropSlashes path.toList = [] ∨ dropSlashes path.toList = path.toList

theorem dropSlashes_idem (cs : List Char) : dropSlashes (dropSlashes cs) = dropSlashes cs :=
  List.rdropWhile_idempotent (· == '/') cs

theorem trimmed_split (path : String) : Trimmed (split path).1 := by
  unfold Trimmed split
  dsimp only
  rw [String.toList_ofList]
  split
  · rename_i none
    exact .inl (List.isEmpty_iff.mp none)
  · exact .inr (dropSlashes_idem _)

end UmlKotlin.Workspace.Path
