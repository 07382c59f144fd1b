import Mathlib.Data.List.Forall2
import Mathlib.Data.List.Sort
import Mathlib.Data.Prod.Lex
import Mathlib.Data.String.Basic
import UmlKotlin.Proofs.Table
import UmlKotlin.Uml.Model

/-!
The order by name and identifier. It is linear, so a sorted list does not depend on the order before
it (`sorted_eq_of_perm`), and classes with different identifiers come in strictly ascending order
(`sortedClasses_ascending`). Main statement: two ascending lists whose members correspond correspond
place by place (`forall₂_of_ascending`).
-/

set_option autoImplicit false

namespace UmlKotlin.Uml

def Class.rank (c : Class) : String ×ₗ String := toLex (c.name, c.id)

def Property.rank (p : Property) : String ×ₗ String := toLex (p.sortName, p.id)

theorem notAfter_iff {a b : String × String} : notAfter a b = true ↔ toLex a ≤ toLex b := by
  rw [notAfter, Prod.Lex.toLex_le_toLex]
  simp

section Sorting

variable {α : Type} (label : α → String × String) {l l' : List α}

theorem pairwise_sorted (l : List α) :
    (l.mergeSort fun a b => notAfter (label a) (label b)).Pairwise
      fun a b => toLex (label a) ≤ toLex (label b) := by
  have sorted : (l.mergeSort fun a b => notAfter (label a) (label b)).Pairwise
      fun a b => notAfter (label a) (label b) = true := by
    apply List.pairwise_mergeSort
    · intro a b c h h'
      exact notAfter_iff.mpr ((notAfter_iff.mp h).trans (notAfter_iff.mp h'))
    · intro a b
      rw [Bool.or_eq_true, notAfter_iff, notAfter_iff]
      exact le_total _ _
  exact sorted.imp notAfter_iff.mp

theorem sorted_eq_of_perm (perm : l.Perm l')
    (apart : ∀ a ∈ l, ∀ b ∈ l, label a = label b → a = b) :
    l.mergeSort (fun a b => notAfter (label a) (label b)) =
      l'.mergeSort fun a b => notAfter (label a) (label b) := by
  have members {a : α} (h : a ∈ l.mergeSort fun a b => notAfter (label a) (label b)) : a ∈ l :=
    (List.mergeSort_perm _ _).mem_iff.mp h
  have members' {a : α} (h : a ∈ l'.mergeSort fun a b => notAfter (label a) (label b)) : a ∈ l :=
    perm.mem_iff.mpr ((List.mergeSort_perm _ _).mem_iff.mp h)
  refine List.Perm.eq_of_pairwise ?_ (pairwise_sorted label l) (pairwise_sorted label l')
    ((List.mergeSort_perm _ _).trans (perm.trans (List.mergeSort_perm _ _).symm))
  intro a b ha hb before after
  exact apart a (members ha) b (members' hb) (toLex.injective (le_antisymm before after))

end Sorting

theorem forall₂_of_ascending {α β γ : Type} [LinearOrder γ] {rank : α → γ} {rank' : β → γ}
    {R : α → β → Prop} {l : List α} {l' : List β}
    (ascending : l.Pairwise fun a b => rank a < rank b)
    (ascending' : l'.Pairwise fun a b => rank' a < rank' b)
    (ranks : ∀ a b, R a b → rank a = rank' b)
    (right : ∀ a ∈ l, ∃ b ∈ l', R a b) (left : ∀ b ∈ l', ∃ a ∈ l, R a b) :
    List.Forall₂ R l l' := by
  induction l generalizing l' with
  | nil =>
    cases l' with
    | nil => exact .nil
    | cons b l' =>
      obtain ⟨a, member, -⟩ := left b List.mem_cons_self
      cases member
  | cons a l ih =>
    cases l' with
    | nil =>
      obtain ⟨b, member, -⟩ := right a List.mem_cons_self
      cases member
    | cons b l' =>
      obtain ⟨first, ascending⟩ := List.pairwise_cons.mp ascending
      obtain ⟨first', ascending'⟩ := List.pairwise_cons.mp ascending'
      -- neither head comes before the other one
      have heads : R a b := by
        obtain ⟨b', member', related⟩ := right a List.mem_cons_self
        rcases List.mem_cons.mp member' with rfl | later'
        · exact related
        obtain ⟨a', member, related'⟩ := left b List.mem_cons_self
        rcases List.mem_cons.mp member with rfl | later
        · exact related'
        · have below := first a' later
          have below' := first' b' later'
          rw [ranks a' b related'] at below
          rw [← ranks a b' related] at below'
          exact absurd below (lt_asymm below')
      refine .cons heads (ih ascending ascending' ?_ ?_)
      · intro a' later
        obtain ⟨b', member, related⟩ := right a' (List.mem_cons_of_mem _ later)
        rcases List.mem_cons.mp member with rfl | later'
        · have below := first a' later
          rw [ranks a b' heads, ranks a' b' related] at below
          exact absurd below (lt_irrefl _)
        · exact ⟨b', later', related⟩
      · intro b' later'
        obtain ⟨a', member, related⟩ := left b' (List.mem_cons_of_mem _ later')
        rcases List.mem_cons.mp member with rfl | later
        · have below := first' b' later'
          rw [← ranks a' b heads, ← ranks a' b' related] at below
          exact absurd below (lt_irrefl _)
        · exact ⟨a', later, related⟩

theorem exists_place {α γ : Type} [LinearOrder γ] {rank : α → γ} {l : List α}
    (ascending : l.Pairwise fun a b => rank a < rank b) {r : γ} (other : ∀ a ∈ l, rank a ≠ r) :
    ∃ before after, l = before ++ after ∧ (∀ a ∈ before, rank a < r) ∧ ∀ a ∈ after, r < rank a := by
  induction l with
  | nil => exact ⟨[], [], rfl, by simp, by simp⟩
  | cons a l ih =>
    obtain ⟨first, ascending⟩ := List.pairwise_cons.mp ascending
    rcases lt_or_gt_of_ne (other a List.mem_cons_self) with below | beyond
    · obtain ⟨before, after, rfl, low, high⟩ :=
        ih ascending fun b member => other b (List.mem_cons_of_mem _ member)
      exact ⟨a :: before, after, rfl, by simpa using ⟨below, low⟩, high⟩
    · refine ⟨[], a :: l, rfl, by simp, fun b member => ?_⟩
      rcases List.mem_cons.mp member with rfl | member
      · exact beyond
      · exact beyond.trans (first b member)

namespace Model

variable {m : Model}

theorem mem_sortedClasses {id : String} {c : Class} :
    (id, c) ∈ m.sortedClasses ↔ m.classes.get? id = some c := by
  rw [sortedClasses, (List.mergeSort_perm _ _).mem_iff, Table.get?_eq_some_iff]

theorem sortedClasses_ascending (nodup : (m.classes.values.map (·.id)).Nodup) :
    m.sortedClasses.Pairwise fun c d => c.2.rank < d.2.rank := by
  have sorted : m.sortedClasses.Pairwise fun c d => c.2.rank ≤ d.2.rank :=
    pairwise_sorted (fun e : String × Class => (e.2.name, e.2.id)) _
  have perm : (m.sortedClasses.map (·.2.id)).Perm (m.classes.values.map (·.id)) := by
    rw [Table.values, List.map_map]
    exact (List.mergeSort_perm _ _).map _
  have apart : m.sortedClasses.Pairwise fun c d => c.2.id ≠ d.2.id :=
    List.pairwise_map.mp (perm.nodup_iff.mpr nodup)
  refine (sorted.and apart).imp ?_
  rintro c d ⟨notAfter, apart⟩
  refine lt_of_le_of_ne notAfter fun same => apart ?_
  exact congrArg Prod.snd (toLex.injective same)

end Model

end UmlKotlin.Uml
