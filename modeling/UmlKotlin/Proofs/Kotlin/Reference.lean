import UmlKotlin.Proofs.Table
import UmlKotlin.Proofs.Text.Lines
import UmlKotlin.Kotlin.ImportScope
import Mathlib.Data.List.Induction

/-!
References and how a file spells them. A scope only ever grows (`referAll_keeps`), so the text of a
reference is settled when it is first written: it can be read off the scope at the end of the file
(`spell_referAll_append`). What such a scope holds is what was there at the start or was referred to
(`accounts_referAll`).
-/

set_option autoImplicit false

namespace UmlKotlin.Kotlin

/-- What a file refers to: a name inside a package, or a text that is written as it is. -/
inductive Reference
  | named (package name : String)
  | verbatim (text : String)
  deriving DecidableEq, Repr

def Reference.full : Reference → String
  | .named package name => qualify package name
  | .verbatim text => text

/-- How a file may spell a reference: a name inside a package alone or in full. -/
def Reference.spellings : Reference → List String
  | .named package name => [name, qualify package name]
  | .verbatim text => [text]

/-! ### Full names -/

theorem qualify_eq {package : String} (h : package ≠ "") (name : String) :
    qualify package name = package ++ String.singleton '.' ++ name :=
  if_neg h

theorem qualify_inj {package package' name : String} (h : package ≠ "") (h' : package' ≠ "")
    (same : qualify package name = qualify package' name) : package = package' := by
  rw [qualify_eq h, qualify_eq h'] at same
  exact String.toList_inj.mp (by simpa using congrArg String.toList same)

theorem point_mem_qualify {package : String} (h : package ≠ "") (name : String) :
    '.' ∈ (qualify package name).toList := by
  simp [qualify_eq h]

theorem afterLast_qualify {package name : String} (h : package ≠ "") (simple : '.' ∉ name.toList) :
    Text.afterLast '.' (qualify package name) = name := by
  rw [qualify_eq h, Text.afterLast_append simple]

theorem mem_distinctSorted {texts : List String} {text : String} :
    text ∈ distinctSorted texts ↔ text ∈ texts := by
  rw [distinctSorted, (List.mergeSort_perm _ _).mem_iff, List.mem_eraseDups]

namespace ImportScope

def refer (s : ImportScope) : Reference → ImportScope
  | .named package name => (s.reference package name).2
  | .verbatim _ => s

def referAll (s : ImportScope) (rs : List Reference) : ImportScope := rs.foldl refer s

/-- The text of a reference: its name alone where the file has that name stand for it, and its full
name elsewhere. -/
def spell (s : ImportScope) : Reference → String
  | .named package name =>
    if s.bound.get? name = some (qualify package name) then name else qualify package name
  | .verbatim text => text

theorem spell_mem_spellings (s : ImportScope) (r : Reference) : s.spell r ∈ r.spellings := by
  cases r with
  | verbatim text => exact List.mem_singleton_self text
  | named package name =>
    rw [spell, Reference.spellings]
    split <;> simp

def Settled (s : ImportScope) : Reference → Prop
  | .named _ name => (s.bound.get? name).isSome
  | .verbatim _ => True

theorem referAll_append (s : ImportScope) (rs rs' : List Reference) :
    s.referAll (rs ++ rs') = (s.referAll rs).referAll rs' :=
  List.foldl_append

theorem bound_reference (s : ImportScope) (package name other : String) :
    (s.reference package name).2.bound.get? other =
      if other = name then some ((s.bound.get? name).getD (qualify package name))
      else s.bound.get? other := by
  unfold reference
  cases found : s.bound.get? name with
  | some full =>
    by_cases same : other = name
    · simp [same, found]
    · simp [same]
  | none =>
    dsimp only
    split <;> simp [Table.get?_insert]

theorem fst_reference (s : ImportScope) (package name : String) :
    (s.reference package name).1 =
      (s.refer (.named package name)).spell (.named package name) := by
  rw [spell, refer, bound_reference, if_pos rfl]
  unfold reference
  cases found : s.bound.get? name with
  | some full => simp
  | none =>
    dsimp only
    split <;> simp

theorem refer_keeps {s : ImportScope} {name full : String} (h : s.bound.get? name = some full)
    (r : Reference) : (s.refer r).bound.get? name = some full := by
  cases r with
  | verbatim text => exact h
  | named package other =>
    rw [refer, bound_reference]
    split
    · rename_i same
      rw [← same, h]
      rfl
    · exact h

theorem referAll_keeps {s : ImportScope} {name full : String} (h : s.bound.get? name = some full)
    (rs : List Reference) : (s.referAll rs).bound.get? name = some full := by
  induction rs generalizing s with
  | nil => exact h
  | cons r rs ih => exact ih (refer_keeps h r)

theorem Settled.referAll {s : ImportScope} {r : Reference} (h : s.Settled r)
    (rs : List Reference) : (s.referAll rs).Settled r := by
  cases r with
  | verbatim text => trivial
  | named package name =>
    obtain ⟨full, found⟩ := Option.isSome_iff_exists.mp h
    exact Option.isSome_iff_exists.mpr ⟨full, referAll_keeps found rs⟩

theorem settled_refer (s : ImportScope) (r : Reference) : (s.refer r).Settled r := by
  cases r with
  | verbatim text => trivial
  | named package name =>
    rw [Settled, refer, bound_reference, if_pos rfl]
    rfl

theorem settled_referAll (s : ImportScope) {rs : List Reference} {r : Reference} (h : r ∈ rs) :
    (s.referAll rs).Settled r := by
  induction rs generalizing s with
  | nil => simp at h
  | cons r' rs ih =>
    rcases List.mem_cons.mp h with rfl | h
    · exact (settled_refer s r).referAll rs
    · exact ih (s.refer r') h

theorem Settled.spell_referAll {s : ImportScope} {r : Reference} (h : s.Settled r)
    (rs : List Reference) : (s.referAll rs).spell r = s.spell r := by
  cases r with
  | verbatim text => rfl
  | named package name =>
    obtain ⟨full, found⟩ := Option.isSome_iff_exists.mp h
    simp only [spell, found, referAll_keeps found rs]

/-- What is written later does not change the text of what is written already. -/
theorem spell_referAll_append (s : ImportScope) {rs : List Reference} {r : Reference}
    (h : r ∈ rs) (rs' : List Reference) :
    (s.referAll (rs ++ rs')).spell r = (s.referAll rs).spell r := by
  rw [referAll_append]
  exact (settled_referAll s h).spell_referAll rs'

/-! ### What a scope holds -/

/-- The names of a scope are those it had at the start and those that were referred to; what comes
from another package is imported, under a name that nothing else has. -/
structure Accounts (start : ImportScope) (rs : List Reference) (s : ImportScope) : Prop where
  package : s.package = start.package
  bound {name full : String} : s.bound.get? name = some full →
    start.bound.get? name = some full ∨ start.bound.get? name = none ∧ ∃ package,
      .named package name ∈ rs ∧ full = qualify package name ∧
        (package = "" ∨ package = start.package ∨ full ∈ s.imported)
  imported {full : String} : full ∈ s.imported → ∃ package name, .named package name ∈ rs ∧
    full = qualify package name ∧ package ≠ "" ∧ package ≠ start.package ∧
      start.bound.get? name = none ∧ s.bound.get? name = some full

theorem refer_unbound {s : ImportScope} {package name : String}
    (unbound : s.bound.get? name = none) : s.refer (.named package name) = { s with
      bound := s.bound.insert name (qualify package name)
      imported := if package = "" ∨ package = s.package then s.imported
        else s.imported ++ [qualify package name] } := by
  by_cases near : package = "" ∨ package = s.package
  · simp [refer, reference, unbound, near]
  · simp [refer, reference, unbound, near]

theorem Accounts.weaken {start s : ImportScope} {rs : List Reference} (h : Accounts start rs s)
    (r : Reference) : Accounts start (rs ++ [r]) s where
  package := h.package
  bound found := by
    rcases h.bound found with old | ⟨unbound, package, member, rest⟩
    · exact .inl old
    · exact .inr ⟨unbound, package, List.mem_append_left _ member, rest⟩
  imported found := by
    obtain ⟨package, name, member, rest⟩ := h.imported found
    exact ⟨package, name, List.mem_append_left _ member, rest⟩

theorem Accounts.refer {start s : ImportScope} {rs : List Reference} (h : Accounts start rs s)
    (keeps : ∀ {name full}, start.bound.get? name = some full → s.bound.get? name = some full)
    (r : Reference) : Accounts start (rs ++ [r]) (s.refer r) := by
  have old := h.weaken r
  cases r with
  | verbatim text => exact old
  | named package name =>
    cases unbound : s.bound.get? name with
    | some full =>
      have same : s.refer (.named package name) = s := by
        simp [ImportScope.refer, reference, unbound]
      rwa [same]
    | none =>
      have fresh : start.bound.get? name = none := by
        cases found : start.bound.get? name with
        | none => rfl
        | some full => cases unbound.symm.trans (keeps found)
      have here : Reference.named package name ∈ rs ++ [.named package name] := by simp
      rw [refer_unbound unbound]
      refine ⟨h.package, ?_, ?_⟩
      · intro other full found
        simp only [Table.get?_insert] at found ⊢
        by_cases same : other = name
        · subst other
          cases (if_pos rfl).symm.trans found
          refine .inr ⟨fresh, package, here, rfl, ?_⟩
          by_cases near : package = "" ∨ package = s.package
          · rcases near with near | near
            · exact .inl near
            · exact .inr (.inl (near.trans h.package))
          · exact .inr (.inr (by simp [near]))
        · rcases old.bound ((if_neg same).symm.trans found) with first | ⟨first, q, hq, rfl, near⟩
          · exact .inl first
          · refine .inr ⟨first, q, hq, rfl, near.imp id (Or.imp id fun imported => ?_)⟩
            split
            · exact imported
            · exact List.mem_append_left _ imported
      · intro full found
        simp only [Table.get?_insert] at found ⊢
        have source : full ∈ s.imported ∨
            ¬(package = "" ∨ package = s.package) ∧ full = qualify package name := by
          by_cases near : package = "" ∨ package = s.package
          · exact .inl (by simpa [near] using found)
          · simpa [near] using found
        rcases source with imported | ⟨far, rfl⟩
        · obtain ⟨q, other, hq, rfl, named, far, first, bound⟩ := old.imported imported
          have differs : other ≠ name := by
            rintro rfl
            cases unbound.symm.trans bound
          exact ⟨q, other, hq, rfl, named, far, first, (if_neg differs).trans bound⟩
        · rw [h.package] at far
          exact ⟨package, name, here, rfl, fun named => far (.inl named),
            fun same => far (.inr same), fresh, if_pos rfl⟩

theorem accounts_referAll {start : ImportScope} (fresh : start.imported = [])
    (rs : List Reference) : Accounts start rs (start.referAll rs) := by
  induction rs using List.reverseRecOn with
  | nil => exact {
      package := rfl
      bound := fun h => .inl h
      imported := fun h => by
        rw [referAll, List.foldl_nil, fresh] at h
        cases h }
  | append_singleton rs r ih =>
    rw [referAll_append]
    exact ih.refer (fun h => referAll_keeps h rs) r

theorem bound_opening (package own : String) (builtins : Table String String) (name : String) :
    (opening package own builtins).bound.get? name =
      if name = own then some (package ++ "." ++ own)
      else (builtins.get? name).map fun package => package ++ "." ++ name := by
  have fold (entries : List (String × String)) (t : Table String String) :
      (entries.foldl (fun bound b => if bound.contains b.1 then bound
        else bound.insert b.1 (b.2 ++ "." ++ b.1)) t).get? name =
        (t.get? name).or ((entries.lookup name).map fun package => package ++ "." ++ name) := by
    induction entries generalizing t with
    | nil => simp
    | cons b entries ih =>
      obtain ⟨other, package⟩ := b
      rw [List.foldl_cons, ih, List.lookup_cons, Table.contains_eq_isSome]
      by_cases same : name = other
      · subst other
        cases found : t.get? name <;> simp [Table.get?_insert, found]
      · cases t.get? other <;> simp [Table.get?_insert, same, beq_false_of_ne same]
  have start : ((∅ : Table String String).insert own (package ++ "." ++ own)).get? name =
      if name = own then some (package ++ "." ++ own) else none := by
    rw [Table.get?_insert]
    rfl
  unfold opening
  rw [fold, start]
  split <;> simp [Table.get?]

end ImportScope

end UmlKotlin.Kotlin
