import Mathlib.Data.List.Forall2

/-!
Computations that may fail: what is known once one has gone through.
-/

set_option autoImplicit false

namespace UmlKotlin

variable {ε α β : Type}

theorem bind_eq_ok_iff {x : Except ε α} {f : α → Except ε β} {b : β} :
    x >>= f = .ok b ↔ ∃ a, x = .ok a ∧ f a = .ok b := by
  cases x with
  | error e => simp [bind, Except.bind]
  | ok a => simp [bind, Except.bind]

theorem map_eq_ok_iff {f : α → β} {x : Except ε α} {b : β} :
    f <$> x = .ok b ↔ ∃ a, x = .ok a ∧ f a = b := by
  cases x with
  | error e => simp [Functor.map, Except.map]
  | ok a => simp [Functor.map, Except.map]

theorem bind_eq_error_iff {x : Except ε α} {f : α → Except ε β} {e : ε} :
    x >>= f = .error e ↔ x = .error e ∨ ∃ a, x = .ok a ∧ f a = .error e := by
  cases x with
  | error e' => simp [bind, Except.bind]
  | ok a => simp [bind, Except.bind]

theorem map_eq_error_iff {f : α → β} {x : Except ε α} {e : ε} :
    f <$> x = .error e ↔ x = .error e := by
  cases x with
  | error e' => simp [Functor.map, Except.map]
  | ok a => simp [Functor.map, Except.map]

theorem exists_error_of_mapM {f : α → Except ε β} {l : List α} {e : ε}
    (h : l.mapM f = .error e) : ∃ a ∈ l, f a = .error e := by
  induction l with
  | nil => cases h
  | cons a l ih =>
    rw [List.mapM_cons] at h
    rcases bind_eq_error_iff.mp h with first | ⟨b, -, later⟩
    · exact ⟨a, List.mem_cons_self, first⟩
    · rcases bind_eq_error_iff.mp later with rest | ⟨bs, -, last⟩
      · obtain ⟨a', member, failed⟩ := ih rest
        exact ⟨a', List.mem_cons_of_mem _ member, failed⟩
      · cases last

theorem forall₂_of_mapM {f : α → Except ε β} {l : List α} {r : List β} (h : l.mapM f = .ok r) :
    List.Forall₂ (fun a b => f a = .ok b) l r := by
  induction l generalizing r with
  | nil =>
    cases h
    exact .nil
  | cons a l ih =>
    rw [List.mapM_cons] at h
    obtain ⟨b, first, h⟩ := bind_eq_ok_iff.mp h
    obtain ⟨bs, rest, h⟩ := bind_eq_ok_iff.mp h
    cases h
    exact .cons first (ih rest)

theorem mem_of_mapM {f : α → Except ε β} {l : List α} {r : List β} {b : β}
    (h : l.mapM f = .ok r) (hb : b ∈ r) : ∃ a ∈ l, f a = .ok b := by
  have each := forall₂_of_mapM h
  clear h
  induction each with
  | nil => cases hb
  | @cons a b' l r first _ ih =>
    rcases List.mem_cons.mp hb with rfl | hb
    · exact ⟨a, List.mem_cons_self, first⟩
    · obtain ⟨a', ha, found⟩ := ih hb
      exact ⟨a', List.mem_cons_of_mem _ ha, found⟩

theorem map_of_mapM {γ : Type} {f : α → Except ε β} {g : β → γ} {k : α → γ} {l : List α}
    {r : List β} (same : ∀ {a : α} {b : β}, f a = .ok b → g b = k a) (h : l.mapM f = .ok r) :
    r.map g = l.map k := by
  have each := forall₂_of_mapM h
  clear h
  induction each with
  | nil => rfl
  | cons first _ ih => rw [List.map_cons, List.map_cons, same first, ih]

theorem mapM_map {γ δ : Type} {f : α → Except ε β} {f' : γ → Except ε δ} {h : α → γ} {k : β → δ}
    (corresponds : ∀ a, f' (h a) = (f a).map k) (l : List α) :
    (l.map h).mapM f' = (l.mapM f).map (List.map k) := by
  induction l with
  | nil => rfl
  | cons a l ih =>
    rw [List.map_cons, List.mapM_cons, List.mapM_cons, corresponds, ih]
    cases f a with
    | error e => rfl
    | ok b =>
      cases l.mapM f with
      | error e => rfl
      | ok bs => rfl

theorem mapM_congr {γ : Type} {f : α → Except ε β} {f' : γ → Except ε β} {l : List α} {r : List γ}
    (same : List.Forall₂ (fun a c => f' c = f a) l r) : r.mapM f' = l.mapM f := by
  induction same with
  | nil => rfl
  | cons first _ ih => rw [List.mapM_cons, List.mapM_cons, first, ih]

theorem foldlM_keeps {f : β → α → Except ε β} {P : β → Prop}
    (step : ∀ {b : β} {a : α} {b' : β}, P b → f b a = .ok b' → P b') {l : List α} {b b' : β}
    (start : P b) (h : l.foldlM f b = .ok b') : P b' := by
  induction l generalizing b with
  | nil =>
    cases h
    exact start
  | cons a l ih =>
    rw [List.foldlM_cons] at h
    obtain ⟨next, first, rest⟩ := bind_eq_ok_iff.mp h
    exact ih (step start first) rest

theorem exists_mapM {f : α → Except ε β} {l : List α} (h : ∀ a ∈ l, ∃ b, f a = .ok b) :
    ∃ r, l.mapM f = .ok r := by
  induction l with
  | nil => exact ⟨[], rfl⟩
  | cons a l ih =>
    obtain ⟨b, first⟩ := h a List.mem_cons_self
    obtain ⟨r, rest⟩ := ih fun a ha => h a (List.mem_cons_of_mem _ ha)
    refine ⟨b :: r, ?_⟩
    rw [List.mapM_cons, first]
    exact bind_eq_ok_iff.mpr ⟨b, rfl, bind_eq_ok_iff.mpr ⟨r, rest, rfl⟩⟩

theorem mapM_cons_eq_some {γ : Type} {read : α → Option γ} {a : α} {l : List α} {r : List γ} :
    (a :: l).mapM read = some r ↔
      ∃ c cs, read a = some c ∧ l.mapM read = some cs ∧ c :: cs = r := by
  simp [List.mapM_cons, Option.bind_eq_some_iff]

theorem mapM_append_eq_some {γ : Type} {read : α → Option γ} {l l' : List α} {r : List γ} :
    (l ++ l').mapM read = some r ↔
      ∃ cs cs', l.mapM read = some cs ∧ l'.mapM read = some cs' ∧ cs ++ cs' = r := by
  simp only [List.mapM_append, bind, Option.bind_eq_some_iff, pure, Option.some.injEq]
  constructor
  · rintro ⟨cs, first, cs', rest, same⟩
    exact ⟨cs, cs', first, rest, same⟩
  · rintro ⟨cs, cs', first, rest, same⟩
    exact ⟨cs, first, cs', rest, same⟩

theorem foldlM_eq_foldl {γ : Type} {f : β → α → Except ε β} {read : α → Option γ} {g : β → γ → β}
    (step : ∀ b a c, read a = some c → f b a = .ok (g b c)) {l : List α} {r : List γ}
    (h : l.mapM read = some r) (b : β) : l.foldlM f b = .ok (r.foldl g b) := by
  induction l generalizing r b with
  | nil =>
    cases h
    rfl
  | cons a l ih =>
    obtain ⟨c, cs, first, rest, rfl⟩ := mapM_cons_eq_some.mp h
    rw [List.foldlM_cons, step b a c first, List.foldl_cons]
    exact ih rest (g b c)

theorem mapM_eq_map {γ : Type} {f : α → Except ε β} {read : α → Option γ} {g : γ → β}
    (step : ∀ a c, read a = some c → f a = .ok (g c)) {l : List α} {r : List γ}
    (h : l.mapM read = some r) : l.mapM f = .ok (r.map g) := by
  induction l generalizing r with
  | nil =>
    cases h
    rfl
  | cons a l ih =>
    obtain ⟨c, cs, first, rest, rfl⟩ := mapM_cons_eq_some.mp h
    rw [List.mapM_cons, step a c first, ih rest]
    rfl

/-- What comes after a failure is not done; what was done before it stays done. -/
theorem run_bind {σ : Type} (w : ExceptT ε (StateM σ) α) (f : α → ExceptT ε (StateM σ) β) (s : σ) :
    (w >>= f).run.run s = match w.run.run s with
      | (.ok a, s') => (f a).run.run s'
      | (.error e, s') => (.error e, s') := by
  rw [ExceptT.run_bind, StateT.run_bind]
  cases w.run.run s with
  | mk result s' => cases result <;> rfl

end UmlKotlin
