import Mathlib.Data.List.Nodup
import Mathlib.Data.String.Basic
import UmlKotlin.Proofs.Kotlin.Reference

/-!
Types that a file refers to one after the other. Main statement: whatever is referred to, and in
whatever order, a type has one text all through a file and no other type has it; the imports are
ascending, and none is in the way of the file's own class, of a built-in type or of another import
(`references_one_to_one`).
-/

set_option autoImplicit false

namespace UmlKotlin.Kotlin

theorem qualify_eq_iff {package name package' name' : String} (h : package ≠ "")
    (simple : '.' ∉ name.toList) (h' : package' ≠ "") (simple' : '.' ∉ name'.toList) :
    qualify package name = qualify package' name' ↔ package = package' ∧ name = name' := by
  constructor
  · intro same
    have names : name = name' := by
      rw [← afterLast_qualify h simple, same, afterLast_qualify h' simple']
    subst names
    exact ⟨qualify_inj h h' same, rfl⟩
  · rintro ⟨rfl, rfl⟩
    rfl

theorem distinctSorted_ascending (texts : List String) :
    (distinctSorted texts).Pairwise (· < ·) := by
  have sorted : (distinctSorted texts).Pairwise fun a b => decide (a ≤ b) = true := by
    apply List.pairwise_mergeSort
    · intro a b c h h'
      exact decide_eq_true ((of_decide_eq_true h).trans (of_decide_eq_true h'))
    · intro a b
      simpa using le_total a b
  have distinct : (distinctSorted texts).Nodup :=
    (List.mergeSort_perm _ _).nodup_iff.mpr (Table.nodup_eraseDups texts)
  refine (sorted.and distinct).imp ?_
  intro a b h
  exact lt_of_le_of_ne (of_decide_eq_true h.1) h.2

namespace ImportScope

/-- Types, each given by its package and its name, with the texts by which they are referred to one
after the other. -/
def answers (s : ImportScope) : List (String × String) → List ((String × String) × String)
  | [] => []
  | t :: later => (t, (s.reference t.1 t.2).1) :: (s.reference t.1 t.2).2.answers later

def after (s : ImportScope) (types : List (String × String)) : ImportScope :=
  s.referAll (types.map fun t => .named t.1 t.2)

/-- What the references so far show of a file: its imports, and the text for each type. -/
structure Orderly (package own : String) (builtins : Table String String) (imports : List String)
    (answered : List ((String × String) × String)) : Prop where
  ascending : imports.Pairwise (· < ·)
  apart : (imports.map (Text.afterLast '.')).Nodup
  foreign : ∀ full ∈ imports, Text.afterLast '.' full ≠ own ∧
    builtins.get? (Text.afterLast '.' full) = none ∧
    ∀ name : String, '.' ∉ name.toList → full ≠ qualify package name
  shown : ∀ a ∈ answered, a.2 = qualify a.1.1 a.1.2 ∨ a.2 = a.1.2 ∧
    (a.1 = (package, own) ∨ a.1.2 ≠ own ∧ builtins.get? a.1.2 = some a.1.1 ∨ a.1.1 = package ∨
      qualify a.1.1 a.1.2 ∈ imports ∧
        ∀ full ∈ imports, Text.afterLast '.' full = a.1.2 → full = qualify a.1.1 a.1.2)

variable {s : ImportScope} {package own : String} {builtins : Table String String}
  {types : List (String × String)}

theorem answers_eq (s : ImportScope) (types : List (String × String)) :
    s.answers types = types.map fun t => (t, (s.after types).spell (.named t.1 t.2)) := by
  induction types generalizing s with
  | nil => rfl
  | cons t later ih =>
    have first : (s.reference t.1 t.2).1 = (s.after (t :: later)).spell (.named t.1 t.2) := by
      have settled := settled_refer s (.named t.1 t.2)
      have kept := settled.spell_referAll (later.map fun t => .named t.1 t.2)
      rw [fst_reference, ← kept]
      rfl
    rw [answers, List.map_cons, ← first, ih]
    rfl

theorem answers_append (s : ImportScope) (types later : List (String × String)) :
    s.answers (types ++ later) = s.answers types ++ (s.after types).answers later := by
  induction types generalizing s with
  | nil => rfl
  | cons t types ih =>
    rw [List.cons_append, answers, answers, List.cons_append, ih]
    rfl

theorem spell_eq_iff {a b : String × String} (ha : a.1 ≠ "" ∧ '.' ∉ a.2.toList)
    (hb : b.1 ≠ "" ∧ '.' ∉ b.2.toList) :
    s.spell (.named a.1 a.2) = s.spell (.named b.1 b.2) ↔ a = b := by
  constructor
  · intro same
    rw [spell, spell] at same
    split at same
    · rename_i bound
      split at same
      · rename_i bound'
        rw [same, bound', Option.some.injEq, qualify_eq_iff hb.1 hb.2 ha.1 (same ▸ hb.2)] at bound
        exact Prod.ext bound.1.symm same
      · -- a name alone has no point
        have point := point_mem_qualify hb.1 b.2
        rw [← same] at point
        exact (ha.2 point).elim
    · split at same
      · have point := point_mem_qualify ha.1 a.2
        rw [same] at point
        exact (hb.2 point).elim
      · obtain ⟨packages, names⟩ := (qualify_eq_iff ha.1 ha.2 hb.1 hb.2).mp same
        exact Prod.ext packages names
  · rintro rfl
    rfl

theorem import_bound (simple : ∀ t ∈ types, t.1 ≠ "" ∧ '.' ∉ t.2.toList) {full : String}
    (h : full ∈ ((opening package own builtins).after types).imports) :
    ∃ other, full = qualify other (Text.afterLast '.' full) ∧ other ≠ "" ∧ other ≠ package ∧
      Text.afterLast '.' full ≠ own ∧ builtins.get? (Text.afterLast '.' full) = none ∧
      '.' ∉ (Text.afterLast '.' full).toList ∧
      ((opening package own builtins).after types).bound.get? (Text.afterLast '.' full) =
        some full := by
  have accounts : (opening package own builtins).Accounts (types.map fun t => .named t.1 t.2) _ :=
    accounts_referAll rfl _
  obtain ⟨other, name, member, rfl, named, far, fresh, bound⟩ :=
    accounts.imported (mem_distinctSorted.mp h)
  obtain ⟨t, asked, same⟩ := List.mem_map.mp member
  cases same
  have plain := (simple t asked).2
  rw [afterLast_qualify named plain]
  -- what the file binds from the start it never imports
  rw [bound_opening] at fresh
  split at fresh
  · cases fresh
  · rename_i differs
    exact ⟨t.1, rfl, named, far, differs, by simpa using fresh, plain, bound⟩

theorem import_unique (simple : ∀ t ∈ types, t.1 ≠ "" ∧ '.' ∉ t.2.toList) {full full' : String}
    (h : full ∈ ((opening package own builtins).after types).imports)
    (h' : full' ∈ ((opening package own builtins).after types).imports)
    (same : Text.afterLast '.' full = Text.afterLast '.' full') : full = full' := by
  obtain ⟨_, _, _, _, _, _, _, bound⟩ := import_bound simple h
  obtain ⟨_, _, _, _, _, _, _, bound'⟩ := import_bound simple h'
  rw [same, bound'] at bound
  exact (Option.some.inj bound).symm

theorem shown_of_bound (simple : ∀ t ∈ types, t.1 ≠ "" ∧ '.' ∉ t.2.toList) {other name : String}
    (member : (other, name) ∈ types)
    (bound : ((opening package own builtins).after types).bound.get? name =
      some (qualify other name)) :
    (other, name) = (package, own) ∨ name ≠ own ∧ builtins.get? name = some other ∨
      other = package ∨ qualify other name ∈ ((opening package own builtins).after types).imports ∧
        ∀ full ∈ ((opening package own builtins).after types).imports,
          Text.afterLast '.' full = name → full = qualify other name := by
  obtain ⟨named, plain⟩ := simple _ member
  have accounts : (opening package own builtins).Accounts (types.map fun t => .named t.1 t.2) _ :=
    accounts_referAll rfl _
  have qualified (p : String) (same : qualify other name = p ++ "." ++ name) : other = p := by
    rw [qualify_eq named] at same
    exact String.toList_inj.mp (by simpa using congrArg String.toList same)
  rcases accounts.bound bound with old | ⟨-, q, asked, same, near⟩
  · rw [bound_opening] at old
    split at old
    · rename_i itself
      subst itself
      exact .inl (by rw [qualified package (Option.some.inj old).symm])
    · rename_i differs
      obtain ⟨p, builtin, same⟩ := Option.map_eq_some_iff.mp old
      rw [← qualified p same.symm] at builtin
      exact .inr (.inl ⟨differs, builtin⟩)
  · obtain ⟨t, listed, eq⟩ := List.mem_map.mp asked
    cases eq
    obtain rfl := qualify_inj named (simple t listed).1 same
    rcases near with none | here | imported
    · exact absurd none named
    · exact .inr (.inr (.inl here))
    · have imported := mem_distinctSorted.mpr imported
      refine .inr (.inr (.inr ⟨imported, ?_⟩))
      intro full found last
      exact import_unique simple found imported (last.trans (afterLast_qualify named plain).symm)

theorem orderly_after (simple : ∀ t ∈ types, t.1 ≠ "" ∧ '.' ∉ t.2.toList) :
    Orderly package own builtins ((opening package own builtins).after types).imports
      ((opening package own builtins).answers types) where
  ascending := distinctSorted_ascending _
  apart := by
    have distinct : ((opening package own builtins).after types).imports.Nodup :=
      (distinctSorted_ascending _).imp ne_of_lt
    exact distinct.map_on fun full h full' h' same => import_unique simple h h' same
  foreign := by
    intro full h
    obtain ⟨other, qualified, named, far, differs, builtin, plain, -⟩ := import_bound simple h
    refine ⟨differs, builtin, ?_⟩
    intro name point own
    by_cases root : package = ""
    · rw [qualify, if_pos root] at own
      have dotted := point_mem_qualify named (Text.afterLast '.' full)
      rw [← qualified, own] at dotted
      exact point dotted
    · exact far ((qualify_eq_iff named plain root point).mp (qualified.symm.trans own)).1
  shown := by
    intro a member
    rw [answers_eq] at member
    obtain ⟨t, asked, rfl⟩ := List.mem_map.mp member
    dsimp only [spell]
    split
    · rename_i bound
      exact .inr ⟨rfl, shown_of_bound simple asked bound⟩
    · exact .inl rfl

/-- Two references in a file have the same text exactly if they are to the same type. After each of
them the imports are ascending; their simple names are different from each other, from that of the
file's own class and from those of the built-in types; and none is of the file's own package. A name
alone has been written for the own class, for a built-in type, for a type of the same package, or
for the one type that is imported under it. -/
theorem references_one_to_one (package own : String) (builtins : Table String String)
    (types : List (String × String)) (simple : ∀ t ∈ types, t.1 ≠ "" ∧ '.' ∉ t.2.toList) :
    (∀ a ∈ (opening package own builtins).answers types,
      ∀ b ∈ (opening package own builtins).answers types, a.2 = b.2 ↔ a.1 = b.1) ∧
    ∀ sofar later, types = sofar ++ later →
      (opening package own builtins).answers types =
          (opening package own builtins).answers sofar ++
            ((opening package own builtins).after sofar).answers later ∧
        Orderly package own builtins ((opening package own builtins).after sofar).imports
          ((opening package own builtins).answers sofar) := by
  constructor
  · intro a ha b hb
    rw [answers_eq] at ha hb
    obtain ⟨t, asked, rfl⟩ := List.mem_map.mp ha
    obtain ⟨u, asked', rfl⟩ := List.mem_map.mp hb
    exact spell_eq_iff (simple t asked) (simple u asked')
  · rintro sofar later rfl
    refine ⟨answers_append _ sofar later, orderly_after ?_⟩
    intro t asked
    exact simple t (List.mem_append_left _ asked)

theorem references_one_to_one_person :
    let builtins : Table String String := .ofList [("String", "kotlin")]
    let file := opening "no.fint.model" "Person" builtins
    let types := [("no.fint.model", "Person"), ("kotlin", "String"), ("no.fint.bolig", "Adresse"),
      ("no.fint.felles", "Adresse"), ("no.fint.felles", "String"), ("no.fint.felles", "Person"),
      ("no.fint.model", "Bolig"), ("no.fint.felles", "Land"), ("no.fint.bolig", "Adresse")]
    (∀ t ∈ types, t.1 ≠ "" ∧ '.' ∉ t.2.toList) ∧
      (file.answers types).map (·.2) = ["Person", "String", "Adresse", "no.fint.felles.Adresse",
        "no.fint.felles.String", "no.fint.felles.Person", "Bolig", "Land", "Adresse"] ∧
      (file.after types).imports = ["no.fint.bolig.Adresse", "no.fint.felles.Land"] ∧
      (∀ a ∈ file.answers types, ∀ b ∈ file.answers types, a.2 = b.2 ↔ a.1 = b.1) ∧
      Orderly "no.fint.model" "Person" builtins (file.after types).imports
        (file.answers types) := by
  intro builtins file types
  have simple : ∀ t ∈ types, t.1 ≠ "" ∧ '.' ∉ t.2.toList := by decide
  obtain ⟨one, orderly⟩ := references_one_to_one "no.fint.model" "Person" builtins types simple
  have nothing : types = types ++ [] := by rw [List.append_nil]
  have imported : (file.after types).imported.eraseDups =
      ["no.fint.bolig.Adresse", "no.fint.felles.Land"] := by decide +kernel
  refine ⟨simple, by decide +kernel, ?_, one, (orderly types [] nothing).2⟩
  rw [imports, distinctSorted, imported]
  exact List.mergeSort_of_pairwise (by decide +kernel)

end ImportScope

end UmlKotlin.Kotlin
