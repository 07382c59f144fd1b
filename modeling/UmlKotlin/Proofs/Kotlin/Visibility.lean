import UmlKotlin.Proofs.Kotlin.Reference

/-!
What the names in a source file are read as. A file binds simple names as it goes along, but it does
not look at the other types of its package. Main statement: a reference is read as the type that is
meant unless it is to a built-in type whose name another type of the package has
(`readType_spell_iff`).
-/

set_option autoImplicit false

namespace UmlKotlin.Kotlin

/-- The types that are visible in every file unless others of their names are nearer, with their
packages. -/
def defaultTypes : List (String × String) :=
  [("String", "kotlin"), ("Int", "kotlin"), ("Long", "kotlin"), ("Double", "kotlin"),
    ("Boolean", "kotlin"), ("List", "kotlin.collections"), ("Set", "kotlin.collections")]

/-- The full name of the type that a name stands for in a file. A name with points is a full name.
Any other stands for what is imported under it, then for a type that is declared in the package of
the file, and only then for a type that every file sees. `declared` are the packages and names of all
types that are declared. -/
def readType (declared : List (String × String)) (package : String) (imports : List String)
    (name : String) : Option String :=
  if '.' ∈ name.toList then some name
  else match imports.filter fun full => Text.afterLast '.' full = name with
    | full :: others => if others.all (· = full) then some full else none
    | [] =>
      if (package, name) ∈ declared then some (qualify package name)
      else (defaultTypes.lookup name).map fun package => qualify package name

section Reading

variable {declared : List (String × String)} {package name : String} {imports : List String}

theorem readType_point (h : '.' ∈ name.toList) : readType declared package imports name = some name :=
  if_pos h

theorem readType_imported {full : String} (simple : '.' ∉ name.toList) (member : full ∈ imports)
    (last : Text.afterLast '.' full = name)
    (unique : ∀ other ∈ imports, Text.afterLast '.' other = name → other = full) :
    readType declared package imports name = some full := by
  have candidate : full ∈ imports.filter fun full => Text.afterLast '.' full = name :=
    List.mem_filter.mpr ⟨member, by simpa using last⟩
  have same : ∀ other ∈ imports.filter fun full => Text.afterLast '.' full = name,
      other = full := by
    intro other found
    obtain ⟨found, same⟩ := List.mem_filter.mp found
    exact unique other found (by simpa using same)
  rw [readType, if_neg simple]
  cases candidates : imports.filter fun full => Text.afterLast '.' full = name with
  | nil => simp [candidates] at candidate
  | cons first others =>
    rw [candidates] at same
    obtain rfl : first = full := same first List.mem_cons_self
    have rest : others.all (· = first) = true := by
      rw [List.all_eq_true]
      exact fun other found => decide_eq_true (same other (List.mem_cons_of_mem _ found))
    simp [rest]

theorem readType_local (simple : '.' ∉ name.toList)
    (absent : ∀ full ∈ imports, Text.afterLast '.' full ≠ name) :
    readType declared package imports name =
      if (package, name) ∈ declared then some (qualify package name)
      else (defaultTypes.lookup name).map fun package => qualify package name := by
  have none : imports.filter (fun full => Text.afterLast '.' full = name) = [] := by
    rw [List.filter_eq_nil_iff]
    exact fun full found => by simpa using absent full found
  rw [readType, if_neg simple, none]

end Reading

/-- A built-in type whose name another type of the file's package has. A file does not see that, and
refers to it by its name alone. -/
def Captured (declared : List (String × String)) (package own : String)
    (builtins : Table String String) : Reference → Prop
  | .named other name => builtins.get? name = some other ∧ name ≠ own ∧ other ≠ package ∧
      (package, name) ∈ declared
  | .verbatim _ => False

/-- What a file may refer to by a name without points: a type that is declared, or one that every
file sees. -/
structure Known (declared : List (String × String)) (package name : String) : Prop where
  package_ne : package ≠ ""
  simple : '.' ∉ name.toList
  origin : (package, name) ∈ declared ∨ defaultTypes.lookup name = some package

theorem defaultType_names {name package : String}
    (h : defaultTypes.lookup name = some package) : package ≠ "" ∧ '.' ∉ name.toList := by
  have names : ∀ e ∈ defaultTypes, e.2 ≠ "" ∧ '.' ∉ e.1.toList := by decide
  obtain ⟨before, after, split, -⟩ := List.lookup_eq_some_iff.mp h
  exact names (name, package) (by simp [split])

section Spelling

variable {declared : List (String × String)} {package own : String}
  {builtins : Table String String} {rs : List Reference} {q n full : String}

/-- What a simple name stands for at the end of a file: the own class, a built-in type, or what was
referred to by it first. -/
theorem bound_origin
    (h : ((ImportScope.opening package own builtins).referAll rs).bound.get? n = some full) :
    n = own ∧ full = package ++ "." ++ n ∨
      n ≠ own ∧ (∃ p, builtins.get? n = some p ∧ full = p ++ "." ++ n) ∨
      builtins.get? n = none ∧ ∃ p, .named p n ∈ rs ∧ full = qualify p n ∧
        (p = "" ∨ p = package ∨
          full ∈ ((ImportScope.opening package own builtins).referAll rs).imported) := by
  have accounts : (ImportScope.opening package own builtins).Accounts rs _ :=
    ImportScope.accounts_referAll rfl rs
  have start := ImportScope.bound_opening package own builtins n
  rcases accounts.bound h with old | ⟨fresh, p, member, rest⟩
  · rw [start] at old
    by_cases same : n = own
    · subst n
      exact .inl ⟨rfl, by simpa using old.symm⟩
    · rw [if_neg same] at old
      obtain ⟨p, found, rfl⟩ := Option.map_eq_some_iff.mp old
      exact .inr (.inl ⟨same, p, found, rfl⟩)
  · rw [start] at fresh
    by_cases same : n = own
    · simp [same] at fresh
    · exact .inr (.inr ⟨by simpa [same] using fresh, p, member, rest⟩)

theorem import_origin (known : ∀ q n, .named q n ∈ rs → Known declared q n)
    (h : full ∈ ((ImportScope.opening package own builtins).referAll rs).imports)
    (last : Text.afterLast '.' full = n) :
    (∃ p, p ≠ "" ∧ p ≠ package ∧ full = qualify p n) ∧
      (ImportScope.opening package own builtins).bound.get? n = none ∧
      ((ImportScope.opening package own builtins).referAll rs).bound.get? n = some full := by
  have accounts : (ImportScope.opening package own builtins).Accounts rs _ :=
    ImportScope.accounts_referAll rfl rs
  obtain ⟨p, n', member, rfl, named, far, fresh, bound⟩ :=
    accounts.imported (mem_distinctSorted.mp h)
  rw [afterLast_qualify named (known p n' member).simple] at last
  subst n'
  exact ⟨⟨p, named, far, rfl⟩, fresh, bound⟩

theorem not_imported_of_local (named : package ≠ "")
    (known : ∀ q n, .named q n ∈ rs → Known declared q n)
    (bound : ((ImportScope.opening package own builtins).referAll rs).bound.get? n =
      some (qualify package n)) :
    ∀ f ∈ ((ImportScope.opening package own builtins).referAll rs).imports,
      Text.afterLast '.' f ≠ n := by
  intro f hf last
  obtain ⟨⟨p, hp, far, rfl⟩, -, found⟩ := import_origin known hf last
  exact far (qualify_inj hp named (Option.some.inj (found.symm.trans bound)))

theorem readType_builtin_iff (named : package ≠ "")
    (default : ∀ name, builtins.get? name = defaultTypes.lookup name)
    (known : ∀ q n, .named q n ∈ rs → Known declared q n) (other : n ≠ own)
    (builtin : builtins.get? n = some q) :
    readType declared package ((ImportScope.opening package own builtins).referAll rs).imports n =
        some (qualify q n) ↔
      ¬Captured declared package own builtins (.named q n) := by
  have shown := (default n).symm.trans builtin
  obtain ⟨-, simple⟩ := defaultType_names shown
  -- a file has the name from the start, so nothing is imported under it
  have absent : ∀ f ∈ ((ImportScope.opening package own builtins).referAll rs).imports,
      Text.afterLast '.' f ≠ n := by
    intro f hf last
    have fresh := (import_origin known hf last).2.1
    simp [ImportScope.bound_opening, other, builtin] at fresh
  rw [readType_local simple absent]
  by_cases near : (package, n) ∈ declared
  · rw [if_pos near, Option.some_inj]
    constructor
    · rintro same ⟨-, -, far, -⟩
      exact far (qualify_inj named (defaultType_names shown).1 same).symm
    · intro free
      by_contra differs
      exact free ⟨builtin, other, fun same => differs (by rw [same]), near⟩
  · rw [if_neg near, shown]
    exact iff_of_true rfl fun captured => near captured.2.2.2

theorem readType_referred (named : package ≠ "")
    (known : ∀ q n, .named q n ∈ rs → Known declared q n) (member : .named q n ∈ rs)
    (here : (q, n) ∈ declared)
    (bound : ((ImportScope.opening package own builtins).referAll rs).bound.get? n =
      some (qualify q n))
    (near : q = package ∨
      qualify q n ∈ ((ImportScope.opening package own builtins).referAll rs).imported) :
    readType declared package ((ImportScope.opening package own builtins).referAll rs).imports n =
      some (qualify q n) := by
  obtain ⟨hq, simple, -⟩ := known q n member
  rcases near with rfl | imported
  · rw [readType_local simple (not_imported_of_local named known bound), if_pos here]
  · refine readType_imported simple (mem_distinctSorted.mpr imported) (afterLast_qualify hq simple) ?_
    intro f hf last
    exact Option.some.inj ((import_origin known hf last).2.2.symm.trans bound)

theorem readType_spell_iff (named : package ≠ "") (self : (package, own) ∈ declared)
    (default : ∀ name, builtins.get? name = defaultTypes.lookup name)
    (known : ∀ q n, .named q n ∈ rs → Known declared q n) (member : .named q n ∈ rs) :
    readType declared package ((ImportScope.opening package own builtins).referAll rs).imports
        (((ImportScope.opening package own builtins).referAll rs).spell (.named q n)) =
          some (qualify q n) ↔
      ¬Captured declared package own builtins (.named q n) := by
  obtain ⟨hq, simple, origin⟩ := known q n member
  have settled := ImportScope.settled_referAll (ImportScope.opening package own builtins) member
  obtain ⟨full, bound⟩ := Option.isSome_iff_exists.mp settled
  rw [ImportScope.spell, bound]
  by_cases short : full = qualify q n
  · subst full
    rw [if_pos rfl]
    rcases bound_origin bound with ⟨rfl, same⟩ | ⟨other, p, builtin, same⟩ | ⟨fresh, p, hp, same, near⟩
    · obtain rfl := qualify_inj hq named (same.trans (qualify_eq named n).symm)
      rw [readType_local simple (not_imported_of_local named known bound), if_pos self]
      exact iff_of_true rfl fun captured => captured.2.1 rfl
    · have hp : p ≠ "" := (defaultType_names ((default n).symm.trans builtin)).1
      obtain rfl := qualify_inj hq hp (same.trans (qualify_eq hp n).symm)
      exact readType_builtin_iff named default known other builtin
    · obtain rfl := qualify_inj hq (known p n hp).package_ne same
      have here : (q, n) ∈ declared := by
        rcases origin with here | shown
        · exact here
        · cases fresh.symm.trans ((default n).trans shown)
      refine iff_of_true (readType_referred named known member here bound (near.resolve_left hq)) ?_
      intro captured
      cases fresh.symm.trans captured.1
  · rw [if_neg (by simpa using short), readType_point (point_mem_qualify hq n)]
    refine iff_of_true rfl ?_
    rintro ⟨builtin, other, -, -⟩
    -- a built-in type has its name from the start
    have first : (ImportScope.opening package own builtins).bound.get? n = some (q ++ "." ++ n) := by
      rw [ImportScope.bound_opening, if_neg other, builtin]
      rfl
    have same := (ImportScope.referAll_keeps first rs).symm.trans bound
    exact short ((Option.some.inj same).symm.trans (qualify_eq hq n).symm)

end Spelling

end UmlKotlin.Kotlin
