import Mathlib.Data.List.Induction
import Mathlib.Data.List.Nodup
import UmlKotlin.Table

/-!
What tables hold. Looking a key up finds the one entry with that key (`get?_eq_some_iff`), and
recomputing the values goes through every look-up (`get?_map`), so a table is known by what its
look-ups and the order of its keys say. Of pairs entered one after the other it holds the keys in
the order of their first pairs (`keys_ofList`), each with the value of its last pair
(`get?_insertAll`).
-/

set_option autoImplicit false

namespace UmlKotlin.Table

variable {κ α β γ : Type}

@[ext] theorem ext {t u : Table κ α} (h : t.entries = u.entries) : t = u := by
  cases t
  cases u
  cases h
  rfl

@[simp] theorem entries_map (f : κ → α → β) (t : Table κ α) :
    (t.map f).entries = t.entries.map fun e => (e.1, f e.1 e.2) := rfl

theorem values_map (f : α → β) (t : Table κ α) : (t.map fun _ a => f a).values = t.values.map f := by
  simp [values]

theorem map_map (f : κ → α → β) (g : κ → β → γ) (t : Table κ α) :
    (t.map f).map g = t.map fun k a => g k (f k a) := by
  ext1
  simp [Function.comp_def]

theorem map_id (t : Table κ α) : (t.map fun _ a => a) = t := by
  ext1
  simp

theorem map_congr {f g : κ → α → β} {t : Table κ α}
    (h : ∀ e ∈ t.entries, f e.1 e.2 = g e.1 e.2) : t.map f = t.map g := by
  ext1
  rw [entries_map, entries_map]
  apply List.map_congr_left
  intro e he
  rw [h e he]

variable [DecidableEq κ]

private theorem lookup_eq_some_iff {l : List (κ × α)} (nodup : (l.map Prod.fst).Nodup)
    {k : κ} {a : α} : l.lookup k = some a ↔ (k, a) ∈ l := by
  induction l with
  | nil => simp
  | cons e l ih =>
    obtain ⟨k', a'⟩ := e
    obtain ⟨fresh, rest⟩ := List.nodup_cons.mp nodup
    by_cases same : k = k'
    · subst k'
      have absent : (k, a) ∉ l := fun h => fresh (List.mem_map.mpr ⟨(k, a), h, rfl⟩)
      simp [absent, eq_comm]
    · simp [List.lookup_cons, beq_false_of_ne same, ih rest, same]

theorem get?_eq_some_iff {t : Table κ α} {k : κ} {a : α} :
    t.get? k = some a ↔ (k, a) ∈ t.entries :=
  lookup_eq_some_iff t.keys_nodup

theorem mem_keys {t : Table κ α} {k : κ} : k ∈ t.keys ↔ ∃ a, t.get? k = some a := by
  simp [keys, get?_eq_some_iff]

theorem mem_values {t : Table κ α} {a : α} : a ∈ t.values ↔ ∃ k, t.get? k = some a := by
  simp [values, get?_eq_some_iff]

theorem get?_eq_none_iff {t : Table κ α} {k : κ} : t.get? k = none ↔ k ∉ t.keys := by
  rw [mem_keys, ← Option.isSome_iff_exists, Option.not_isSome_iff_eq_none]

theorem contains_eq_isSome (t : Table κ α) (k : κ) : t.contains k = (t.get? k).isSome := by
  cases found : t.get? k with
  | none => simpa [contains] using get?_eq_none_iff.mp found
  | some a => simpa [contains] using mem_keys.mpr ⟨a, found⟩

theorem get?_map (f : κ → α → β) (t : Table κ α) (k : κ) :
    (t.map f).get? k = (t.get? k).map (f k) := by
  ext b
  simp only [get?_eq_some_iff, entries_map, List.mem_map, Prod.mk.injEq, Option.map_eq_some_iff,
    Prod.exists]
  constructor
  · rintro ⟨k', a, member, rfl, rfl⟩
    exact ⟨a, member, rfl⟩
  · rintro ⟨a, member, rfl⟩
    exact ⟨k, a, member, rfl, rfl⟩

theorem get?_insert (t : Table κ α) (k k' : κ) (a : α) :
    (t.insert k a).get? k' = if k' = k then some a else t.get? k' := by
  unfold insert
  split
  · rename_i present
    rw [modify, get?_map]
    split
    · rename_i same
      subst same
      obtain ⟨b, found⟩ := mem_keys.mp present
      rw [found]
      rfl
    · simp
  · rename_i absent
    have old : t.get? k = none := get?_eq_none_iff.mpr absent
    simp only [get?, List.lookup_append] at old ⊢
    split
    · rename_i same
      subst same
      rw [old]
      simp
    · rename_i other
      simp [List.lookup_cons, beq_false_of_ne other]

theorem get?_modify (t : Table κ α) (k k' : κ) (f : α → α) :
    (t.modify k f).get? k' = if k' = k then (t.get? k').map f else t.get? k' := by
  rw [modify, get?_map]
  by_cases same : k' = k
  · simp [same]
  · simp [same]

theorem filterMap_entries (f : α → β) (t : Table κ α) (k : κ) :
    t.entries.filterMap (fun e => if e.1 = k then some (f e.2) else none) =
      ((t.get? k).map f).toList := by
  obtain ⟨entries, nodup⟩ := t
  simp only [get?]
  induction entries with
  | nil => rfl
  | cons e entries ih =>
    obtain ⟨k', a⟩ := e
    obtain ⟨fresh, nodup⟩ := List.nodup_cons.mp nodup
    by_cases same : k' = k
    · subst same
      have others : entries.filterMap (fun e => if e.1 = k' then some (f e.2) else none) = [] := by
        rw [List.filterMap_eq_nil_iff]
        intro e member
        exact if_neg fun same => fresh (List.mem_map.mpr ⟨e, member, same⟩)
      simp [others]
    · simp [same, ih nodup, List.lookup_cons, beq_false_of_ne (Ne.symm same)]

theorem modify_of_not_mem {t : Table κ α} {k : κ} (f : α → α) (h : k ∉ t.keys) :
    t.modify k f = t := by
  rw [modify]
  refine (map_congr ?_).trans (map_id t)
  rintro ⟨k', a⟩ member
  exact if_neg (by rintro rfl; exact h (mem_keys.mpr ⟨a, get?_eq_some_iff.mpr member⟩))

theorem ext_get? {t u : Table κ α} (keys : t.keys = u.keys) (h : ∀ k, t.get? k = u.get? k) :
    t = u := by
  have entries (v : Table κ α) : v.entries.map (fun e => (e.1, some e.2)) =
      v.keys.map fun k => (k, v.get? k) := by
    rw [Table.keys, List.map_map]
    apply List.map_congr_left
    rintro ⟨k, a⟩ member
    exact Prod.ext rfl (get?_eq_some_iff.mpr member).symm
  have same : t.entries.map (fun e => (e.1, some e.2)) =
      u.entries.map fun e => (e.1, some e.2) := by
    rw [entries t, entries u, keys]
    exact List.map_congr_left fun k _ => Prod.ext rfl (h k)
  ext1
  refine (List.map_inj_right ?_).mp same
  rintro ⟨k, a⟩ ⟨k', a'⟩ eq
  simpa using eq

theorem map_modify {f : α → β} {g : α → α} (h : ∀ a, f (g a) = f a) (t : Table κ α) (k : κ) :
    (t.modify k g).map (fun _ a => f a) = t.map fun _ a => f a := by
  rw [modify, map_map]
  apply map_congr
  rintro ⟨k', a⟩ -
  by_cases same : k' = k
  · simp [same, h]
  · simp [same]

theorem map_modify_comm (f : α → β) {g : α → α} {g' : β → β} (h : ∀ a, f (g a) = g' (f a))
    (t : Table κ α) (k : κ) :
    (t.modify k g).map (fun _ a => f a) = (t.map fun _ a => f a).modify k g' := by
  rw [modify, modify, map_map, map_map]
  apply map_congr
  rintro ⟨k', a⟩ -
  by_cases same : k' = k
  · simp [same, h]
  · simp [same]

theorem map_insert (f : κ → α → β) (t : Table κ α) (k : κ) (a : α) :
    (t.insert k a).map f = (t.map f).insert k (f k a) := by
  unfold insert
  by_cases present : k ∈ t.keys
  · have present' : k ∈ (t.map f).keys := by rwa [keys_map]
    rw [dif_pos present, dif_pos present', modify, modify, map_map, map_map]
    apply map_congr
    rintro ⟨k', b⟩ -
    by_cases same : k' = k
    · simp [same]
    · simp [same]
  · have absent' : k ∉ (t.map f).keys := by rwa [keys_map]
    rw [dif_neg present, dif_neg absent']
    ext1
    simp

/-! ### Values under their own keys -/

/-- Every value has the key that it is listed under as a part of it. -/
def KeyedBy (t : Table κ α) (key : α → κ) : Prop :=
  ∀ ⦃k : κ⦄ ⦃a : α⦄, t.get? k = some a → key a = k

theorem keyedBy_iff {t : Table κ α} {key : α → κ} :
    t.KeyedBy key ↔ ∀ e ∈ t.entries, key e.2 = e.1 :=
  ⟨fun h _ member => h (get?_eq_some_iff.mpr member),
    fun h _ _ found => h _ (get?_eq_some_iff.mp found)⟩

variable {t : Table κ α} {key : α → κ}

theorem KeyedBy.get?_key (h : t.KeyedBy key) {k : κ} {a : α} (listed : t.get? k = some a) :
    t.get? (key a) = some a := by
  have own : key a = k := h listed
  rwa [own]

theorem KeyedBy.map (h : t.KeyedBy key) {f : κ → α → β} {key' : β → κ}
    (keeps : ∀ k a, key' (f k a) = key a) : (t.map f).KeyedBy key' := by
  intro k b found
  rw [get?_map] at found
  obtain ⟨a, listed, rfl⟩ := Option.map_eq_some_iff.mp found
  exact (keeps k a).trans (h listed)

theorem KeyedBy.modify (h : t.KeyedBy key) {f : α → α} (keeps : ∀ a, key (f a) = key a) (k : κ) :
    (t.modify k f).KeyedBy key :=
  h.map fun k' a => by
    split
    · exact keeps a
    · rfl

theorem KeyedBy.insert (h : t.KeyedBy key) (a : α) : (t.insert (key a) a).KeyedBy key := by
  intro k b found
  rw [get?_insert] at found
  split at found
  · rename_i same
    cases found
    exact same.symm
  · exact h found

theorem KeyedBy.nodup (h : t.KeyedBy key) : (t.values.map key).Nodup := by
  have keys : t.values.map key = t.keys := by
    rw [values, keys, List.map_map]
    exact List.map_congr_left (keyedBy_iff.mp h)
  rw [keys]
  exact t.keys_nodup

theorem nodup_values_iff {f : α → β} : (t.values.map f).Nodup ↔ ∀ k k' a a', t.get? k = some a →
    t.get? k' = some a' → f a = f a' → k = k' := by
  have entries : t.entries.Nodup := .of_map _ t.keys_nodup
  rw [values, List.map_map]
  constructor
  · intro nodup k k' a a' found found' same
    have equal : (k, a) = (k', a') := List.inj_on_of_nodup_map nodup
      (get?_eq_some_iff.mp found) (get?_eq_some_iff.mp found') same
    exact congrArg Prod.fst equal
  · intro apart
    refine entries.map_on ?_
    rintro ⟨k, a⟩ member ⟨k', a'⟩ member' same
    have found := get?_eq_some_iff.mpr member
    obtain rfl := apart k k' a a' found (get?_eq_some_iff.mpr member') same
    rw [get?_eq_some_iff.mpr member'] at found
    cases found
    rfl

/-! ### Pairs entered one after the other -/

theorem ofList_append_singleton (pairs : List (κ × α)) (k : κ) (a : α) :
    ofList (pairs ++ [(k, a)]) = (ofList pairs).insert k a := by
  rw [ofList, List.foldl_append]
  rfl

def enter (t : Table κ α) (pair : Option (κ × α)) : Table κ α :=
  match pair with
  | some (k, a) => t.insert k a
  | none => t

theorem ofList_append_toList (pairs : List (κ × α)) (pair : Option (κ × α)) :
    ofList (pairs ++ pair.toList) = (ofList pairs).enter pair := by
  cases pair with
  | none => simp [enter]
  | some e => exact ofList_append_singleton pairs e.1 e.2

theorem keys_ofList (pairs : List (κ × α)) :
    (ofList pairs).keys = (pairs.map Prod.fst).eraseDups := by
  induction pairs using List.reverseRecOn with
  | nil => rfl
  | append_singleton pairs e ih =>
    obtain ⟨k, a⟩ := e
    rw [ofList_append_singleton, keys_insert, ih, List.map_append, List.eraseDups_append]
    by_cases known : k ∈ pairs.map Prod.fst
    · simp [known, List.removeAll]
    · simp [known, List.removeAll, List.eraseDups_cons]

theorem nodup_eraseDups (ks : List κ) : ks.eraseDups.Nodup := by
  have keys := keys_ofList (ks.map fun k => (k, ()))
  rw [List.map_map, Function.comp_def, List.map_id'] at keys
  rw [← keys]
  exact keys_nodup _

def lastValue? (pairs : List (κ × α)) (k : κ) : Option α :=
  ((pairs.filter fun e => e.1 = k).getLast?).map Prod.snd

theorem lastValue?_append (pairs pairs' : List (κ × α)) (k : κ) :
    lastValue? (pairs ++ pairs') k = (lastValue? pairs' k).or (lastValue? pairs k) := by
  rw [lastValue?, List.filter_append, List.getLast?_append, Option.map_or, lastValue?, lastValue?]

theorem lastValue?_map {ν : Type} (name : ν → κ) (pairs : List (ν × α)) (k : κ) :
    lastValue? (pairs.map fun e => (name e.1, e.2)) k =
      ((pairs.filter fun e => name e.1 = k).getLast?).map Prod.snd := by
  rw [lastValue?, List.filter_map, List.getLast?_map, Option.map_map]
  rfl

theorem lastValue?_of_not_mem {pairs : List (κ × α)} {k : κ} (h : k ∉ pairs.map Prod.fst) :
    lastValue? pairs k = none := by
  have none : pairs.filter (fun e => e.1 = k) = [] := by
    rw [List.filter_eq_nil_iff]
    intro e member here
    exact h (List.mem_map.mpr ⟨e, member, of_decide_eq_true here⟩)
  rw [lastValue?, none]
  rfl

theorem lastValue?_of_apart {pairs pairs' : List (κ × α)}
    (apart : ∀ e ∈ pairs, ∀ e' ∈ pairs', e.1 ≠ e'.1) (k : κ) :
    lastValue? pairs k = none ∨ lastValue? pairs' k = none := by
  by_cases here : k ∈ pairs.map Prod.fst
  · right
    apply lastValue?_of_not_mem
    intro there
    obtain ⟨e, member, same⟩ := List.mem_map.mp here
    obtain ⟨e', member', same'⟩ := List.mem_map.mp there
    exact apart e member e' member' (same.trans same'.symm)
  · left
    exact lastValue?_of_not_mem here

theorem lastValue?_flatMap {γ : Type} (pairs : γ → List (κ × α)) (l : List γ) (k : κ) :
    lastValue? (l.flatMap pairs) k = (l.filterMap fun c => lastValue? (pairs c) k).getLast? := by
  induction l with
  | nil => rfl
  | cons c l ih =>
    rw [List.flatMap_cons, lastValue?_append, ih, List.filterMap_cons]
    cases lastValue? (pairs c) k with
    | none => exact Option.or_none
    | some a =>
      rw [List.getLast?_cons, Option.or_some]

def insertAll (t : Table κ α) (pairs : List (κ × α)) : Table κ α :=
  pairs.foldl (fun t e => t.insert e.1 e.2) t

/-- The last pair with a key counts, and what was there before only where no pair has the key. -/
theorem get?_insertAll (t : Table κ α) (pairs : List (κ × α)) (k : κ) :
    (t.insertAll pairs).get? k = (lastValue? pairs k).or (t.get? k) := by
  induction pairs using List.reverseRecOn with
  | nil => rfl
  | append_singleton pairs e ih =>
    have last : lastValue? [e] k = if k = e.1 then some e.2 else none := by
      by_cases same : k = e.1
      · simp [lastValue?, same]
      · simp [lastValue?, same, Ne.symm same]
    have entered : t.insertAll (pairs ++ [e]) = (t.insertAll pairs).insert e.1 e.2 := by
      rw [insertAll, List.foldl_append]
      rfl
    rw [entered, get?_insert, ih, lastValue?_append, last]
    split <;> rfl

theorem mem_keys_insertAll {t : Table κ α} {pairs : List (κ × α)} {k : κ} :
    k ∈ (t.insertAll pairs).keys ↔ k ∈ t.keys ∨ k ∈ pairs.map Prod.fst := by
  induction pairs generalizing t with
  | nil => simp [insertAll]
  | cons e pairs ih =>
    have here : k ∈ (t.insert e.1 e.2).keys ↔ k ∈ t.keys ∨ k = e.1 := by
      rw [keys_insert]
      split
      · rename_i present
        exact ⟨.inl, fun either => either.elim id fun same => same ▸ present⟩
      · rw [List.mem_append, List.mem_singleton]
    have entered : t.insertAll (e :: pairs) = (t.insert e.1 e.2).insertAll pairs := rfl
    rw [entered, ih, here, List.map_cons, List.mem_cons, or_assoc]

theorem keys_insertAll_of_subset {t : Table κ α} {pairs : List (κ × α)}
    (h : ∀ e ∈ pairs, e.1 ∈ t.keys) : (t.insertAll pairs).keys = t.keys := by
  induction pairs generalizing t with
  | nil => rfl
  | cons e pairs ih =>
    have here : (t.insert e.1 e.2).keys = t.keys := by
      rw [keys_insert, if_pos (h e List.mem_cons_self)]
    have rest := ih (t := t.insert e.1 e.2) fun e' member => by
      rw [here]
      exact h e' (List.mem_cons_of_mem _ member)
    exact rest.trans here

theorem insertAll_again (t : Table κ α) (pairs : List (κ × α)) :
    (t.insertAll pairs).insertAll pairs = t.insertAll pairs := by
  apply ext_get?
  · apply keys_insertAll_of_subset
    intro e member
    exact mem_keys_insertAll.mpr (.inr (List.mem_map_of_mem member))
  · intro k
    rw [get?_insertAll, get?_insertAll, ← Option.or_assoc, Option.or_self]

theorem get?_ofList (pairs : List (κ × α)) (k : κ) :
    (ofList pairs).get? k = ((pairs.filter fun e => e.1 = k).getLast?).map Prod.snd :=
  (get?_insertAll empty pairs k).trans Option.or_none

theorem get?_ofList_of_last {before after : List (κ × α)} {k : κ} {a : α}
    (last : ∀ e ∈ after, e.1 ≠ k) : (ofList (before ++ (k, a) :: after)).get? k = some a := by
  have none : after.filter (fun e => e.1 = k) = [] := by simpa using last
  rw [get?_ofList, List.filter_append, List.filter_cons_of_pos (by simp), none]
  simp

theorem mem_keys_ofList {pairs : List (κ × α)} {k : κ} :
    k ∈ (ofList pairs).keys ↔ ∃ a, (k, a) ∈ pairs := by
  simp [keys_ofList]

theorem get?_union_of_not_mem {t u : Table κ α} {k : κ} (h : k ∉ u.keys) :
    (t.union u).get? k = t.get? k := by
  have entered : (t.union u).get? k = (lastValue? u.entries k).or (t.get? k) :=
    get?_insertAll t u.entries k
  rw [entered, lastValue?_of_not_mem h, Option.none_or]

end UmlKotlin.Table
