/-!
Tables that remember the order in which their keys were first entered. Assigning to a key
that is already present replaces the value and leaves the key where it stands. Main
statements: no key occurs twice (`keys_nodup`), and assignment and adjustment keep the keys
already there (`keys_insert`, `keys_modify`, `keys_map`).
-/

set_option autoImplicit false

namespace UmlKotlin

/-- Pairs of a key and a value, in the order in which the keys were first entered. -/
structure Table (κ α : Type) where
  entries : List (κ × α)
  keys_nodup : (entries.map Prod.fst).Nodup

namespace Table

variable {κ α β : Type}

def empty : Table κ α := ⟨[], List.nodup_nil⟩

instance : EmptyCollection (Table κ α) := ⟨empty⟩

instance : Inhabited (Table κ α) := ⟨empty⟩

def keys (t : Table κ α) : List κ := t.entries.map Prod.fst

def values (t : Table κ α) : List α := t.entries.map Prod.snd

def size (t : Table κ α) : Nat := t.entries.length

def map (f : κ → α → β) (t : Table κ α) : Table κ β where
  entries := t.entries.map fun e => (e.1, f e.1 e.2)
  keys_nodup := by
    have same : (t.entries.map fun e => (e.1, f e.1 e.2)).map Prod.fst = t.entries.map Prod.fst := by
      simp [List.map_map, Function.comp_def]
    rw [same]
    exact t.keys_nodup

theorem keys_map (f : κ → α → β) (t : Table κ α) : (t.map f).keys = t.keys := by
  simp [keys, map, List.map_map, Function.comp_def]

variable [DecidableEq κ]

def get? (t : Table κ α) (k : κ) : Option α := t.entries.lookup k

def contains (t : Table κ α) (k : κ) : Bool := t.keys.contains k

def modify (t : Table κ α) (k : κ) (f : α → α) : Table κ α :=
  t.map fun k' a => if k' = k then f a else a

theorem keys_modify (t : Table κ α) (k : κ) (f : α → α) : (t.modify k f).keys = t.keys :=
  keys_map _ t

/-- A key that is present gets the new value in its place; a new key is put last. -/
def insert (t : Table κ α) (k : κ) (a : α) : Table κ α :=
  if h : k ∈ t.keys then t.modify k fun _ => a
  else {
    entries := t.entries ++ [(k, a)]
    keys_nodup := by
      have fresh : k ∉ t.entries.map Prod.fst := h
      rw [List.map_append, List.nodup_append]
      refine ⟨t.keys_nodup, by simp, ?_⟩
      intro x hx y hy
      have hy : y = k := by simpa using hy
      exact fun same => fresh (hy ▸ same ▸ hx) }

theorem keys_insert (t : Table κ α) (k : κ) (a : α) :
    (t.insert k a).keys = if k ∈ t.keys then t.keys else t.keys ++ [k] := by
  unfold insert
  split
  · exact keys_modify t k _
  · simp [keys]

def erase (t : Table κ α) (k : κ) : Table κ α where
  entries := t.entries.filter fun e => e.1 ≠ k
  keys_nodup := t.keys_nodup.sublist (List.filter_sublist.map Prod.fst)

def ofList (pairs : List (κ × α)) : Table κ α :=
  pairs.foldl (fun t e => t.insert e.1 e.2) empty

def union (t u : Table κ α) : Table κ α :=
  u.entries.foldl (fun t e => t.insert e.1 e.2) t

end Table

end UmlKotlin
