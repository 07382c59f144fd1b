import Mathlib.Data.List.Induction
import Mathlib.Data.List.Infix
import UmlKotlin.Xmi.Scope

/-!
Containers of tags on a scope stack. While scopes and containers open and close like nested elements,
the stack takes a container for that of the current scope exactly if it lies in this scope, with no
other scope open between, and no container has closed since it opened (`inTags_iff`). Main statement:
the stack is right after every step of a run exactly if no container opens inside another one
(`inTags_right_iff`).
-/

set_option autoImplicit false

namespace UmlKotlin.Xmi.ScopeStack

inductive Action
  | push (scope : Scope)
  | pop
  | openTags
  | closeTags
  deriving DecidableEq, Repr

def act (s : ScopeStack) : Action → ScopeStack
  | .push scope => s.push scope
  | .pop => s.pop
  | .openTags => s.openTags
  | .closeTags => s.closeTags

def run (actions : List Action) : ScopeStack := actions.foldl act {}

/-- What can be open: a scope, or a container of tags. -/
inductive Enclosure
  | scope (scope : Scope)
  | tags
  deriving DecidableEq, Repr

def Enclosure.scope? : Enclosure → Option Scope
  | .scope s => some s
  | .tags => none

/-- What is open after one more action, innermost first, if the action fits: only the innermost
enclosure can be closed, and by an action of its own kind. -/
def follow (opened : List Enclosure) : Action → Option (List Enclosure)
  | .push s => some (.scope s :: opened)
  | .openTags => some (.tags :: opened)
  | .pop =>
    match opened with
    | .scope _ :: outer => some outer
    | _ => none
  | .closeTags =>
    match opened with
    | .tags :: outer => some outer
    | _ => none

def openAfter (actions : List Action) : Option (List Enclosure) := actions.foldlM follow []

/-- A container of tags is open in the current scope, with no other scope open between. -/
def TagsHere (opened : List Enclosure) : Prop :=
  ∃ inner outer, opened = inner ++ .tags :: outer ∧ ∀ s, .scope s ∉ inner

def lastOfTags (actions : List Action) : Option Action :=
  (actions.filter fun a => a = .openTags ∨ a = .closeTags).getLast?

variable {actions pre post : List Action} {opened outer : List Enclosure}

theorem run_append (a : Action) : run (pre ++ [a]) = (run pre).act a := by
  rw [run, List.foldl_append]
  rfl

theorem lastOfTags_append (a : Action) : lastOfTags (pre ++ [a]) =
    if a = .openTags ∨ a = .closeTags then some a else lastOfTags pre := by
  by_cases ofTags : a = .openTags ∨ a = .closeTags <;>
    simp [lastOfTags, List.filter_append, ofTags]

theorem fitting_induction {motive : List Action → List Enclosure → Prop} (nil : motive [] [])
    (push : ∀ pre opened s, openAfter pre = some opened → motive pre opened →
      motive (pre ++ [.push s]) (.scope s :: opened))
    (pop : ∀ pre s outer, openAfter pre = some (.scope s :: outer) →
      motive pre (.scope s :: outer) → motive (pre ++ [.pop]) outer)
    (openTags : ∀ pre opened, openAfter pre = some opened → motive pre opened →
      motive (pre ++ [.openTags]) (.tags :: opened))
    (closeTags : ∀ pre outer, openAfter pre = some (.tags :: outer) →
      motive pre (.tags :: outer) → motive (pre ++ [.closeTags]) outer)
    (fits : openAfter actions = some opened) : motive actions opened := by
  induction actions using List.reverseRecOn generalizing opened with
  | nil =>
    cases fits
    exact nil
  | append_singleton pre a ih =>
    rw [openAfter, List.foldlM_append] at fits
    obtain ⟨before, first, fits⟩ := Option.bind_eq_some_iff.mp fits
    have step : follow before a = some opened := by simpa using fits
    have earlier := ih first
    cases a with
    | push s =>
      cases step
      exact push pre before s first earlier
    | openTags =>
      cases step
      exact openTags pre before first earlier
    | pop =>
      rcases before with _ | ⟨⟨s⟩ | _, outer⟩
      · cases step
      · cases step
        exact pop pre s opened first earlier
      · cases step
    | closeTags =>
      rcases before with _ | ⟨⟨s⟩ | _, outer⟩
      · cases step
      · cases step
      · cases step
        exact closeTags pre opened first earlier

/-! ### What the stack remembers -/

theorem scopes_pop (s : ScopeStack) : s.pop.scopes = s.scopes.tail := by
  unfold pop
  dsimp only
  split
  · split <;> rfl
  · rfl

def scopesOf (opened : List Enclosure) : List Scope := opened.filterMap Enclosure.scope?

@[simp] theorem scopesOf_scope (s : Scope) :
    scopesOf (.scope s :: opened) = s :: scopesOf opened := rfl

@[simp] theorem scopesOf_tags : scopesOf (.tags :: opened) = scopesOf opened := rfl

@[simp] theorem scopesOf_append (inner : List Enclosure) :
    scopesOf (inner ++ outer) = scopesOf inner ++ scopesOf outer :=
  List.filterMap_append

theorem scopes_run (fits : openAfter actions = some opened) :
    (run actions).scopes = scopesOf opened := by
  refine fitting_induction (motive := fun actions opened =>
    (run actions).scopes = scopesOf opened) rfl ?push ?pop ?openTags ?closeTags fits
  case push =>
    intro pre opened s _ earlier
    rw [run_append]
    exact congrArg (s :: ·) earlier
  case pop =>
    intro pre s outer _ earlier
    rw [run_append, act, scopes_pop, earlier]
    rfl
  case openTags =>
    intro pre opened _ earlier
    rw [run_append]
    exact earlier
  case closeTags =>
    intro pre outer _ earlier
    rw [run_append]
    exact earlier

/-- The innermost open container is the one that a stack remembers, with the scopes around it. -/
def Remembers (s : ScopeStack) (opened : List Enclosure) : Prop :=
  ∃ inner outer, opened = inner ++ .tags :: outer ∧ .tags ∉ inner ∧
    s.tags = some ((scopesOf outer).head?.getD Scope.inert, (scopesOf outer).length)

theorem tags_run (fits : openAfter actions = some opened) :
    lastOfTags actions = some .openTags ∧ (run actions).Remembers opened ∨
      lastOfTags actions ≠ some .openTags ∧ (run actions).tags = none := by
  refine fitting_induction (motive := fun actions opened =>
    lastOfTags actions = some .openTags ∧ (run actions).Remembers opened ∨
      lastOfTags actions ≠ some .openTags ∧ (run actions).tags = none)
    (.inr ⟨by simp [lastOfTags], rfl⟩) ?push ?pop ?openTags ?closeTags fits
  case push =>
    intro pre opened s _ earlier
    rw [lastOfTags_append, if_neg (by simp), run_append]
    refine earlier.imp_left ?_
    rintro ⟨last, inner, outer, rfl, single, tags⟩
    exact ⟨last, .scope s :: inner, outer, rfl, by simpa using single, tags⟩
  case pop =>
    intro pre s outer before earlier
    rw [lastOfTags_append, if_neg (by simp), run_append]
    rcases earlier with ⟨last, inner, around, split, single, tags⟩ | ⟨last, none⟩
    · cases inner with
      | nil => cases split
      | cons e inner =>
        cases split
        refine .inl ⟨last, inner, around, rfl, fun among => single (.tail _ among), ?_⟩
        -- the scopes around the remembered container stay
        have deep : ¬ (run pre).scopes.tail.length < (scopesOf around).length := by
          rw [scopes_run before]
          simp
        rw [act, ScopeStack.pop, tags]
        dsimp only
        rw [if_neg deep]
    · refine .inr ⟨last, ?_⟩
      rw [act, ScopeStack.pop, none]
  case openTags =>
    intro pre opened before _
    rw [lastOfTags_append, if_pos (by simp), run_append]
    refine .inl ⟨rfl, [], opened, rfl, by simp, ?_⟩
    rw [act, ScopeStack.openTags, current, scopes_run before]
  case closeTags =>
    intro pre outer _ _
    rw [lastOfTags_append, if_pos (by simp), run_append]
    exact .inr ⟨by simp, rfl⟩

theorem tagsHere_iff : TagsHere opened ↔ ∃ outer, opened = .tags :: outer := by
  constructor
  · rintro ⟨inner, outer, rfl, clear⟩
    rcases inner with _ | ⟨⟨s⟩ | _, inner⟩
    · exact ⟨outer, rfl⟩
    · exact absurd List.mem_cons_self (clear s)
    · exact ⟨_, rfl⟩
  · rintro ⟨outer, rfl⟩
    exact ⟨[], outer, rfl, by simp⟩

/-- The stack takes a container for that of the current scope if it is, unless one has closed since
it opened. -/
theorem inTags_iff (fits : openAfter actions = some opened) :
    (run actions).inTags = true ↔ TagsHere opened ∧ lastOfTags actions = some .openTags := by
  rcases tags_run fits with ⟨last, inner, outer, rfl, single, tags⟩ | ⟨last, none⟩
  · rw [inTags, tags, and_iff_left last, tagsHere_iff, current, scopes_run fits]
    rcases inner with _ | ⟨⟨s⟩ | _, inner⟩
    · simp
    · have deeper : (scopesOf outer).length ≠ (scopesOf inner).length + (scopesOf outer).length + 1 := by
        omega
      simp [deeper]
    · simp at single
  · rw [inTags, none]
    simp [last]

/-! ### Containers inside containers -/

/-- A container is open inside another one at some point. -/
def NestsTags (actions : List Action) : Prop :=
  ∃ pre opened, pre <+: actions ∧ openAfter pre = some opened ∧ 2 ≤ opened.count .tags

theorem NestsTags.mono (h : NestsTags pre) (start : pre <+: actions) : NestsTags actions := by
  obtain ⟨q, opened, earlier, nested⟩ := h
  exact ⟨q, opened, earlier.trans start, nested⟩

/-- At some point a container is open in the current scope, but one has closed since it opened. -/
def Forgets (actions : List Action) : Prop :=
  ∃ pre opened, pre <+: actions ∧ openAfter pre = some opened ∧ TagsHere opened ∧
    lastOfTags pre ≠ some .openTags

theorem nestsTags_of_closed (fits : openAfter actions = some opened)
    (last : lastOfTags actions ≠ some .openTags) (among : .tags ∈ opened) : NestsTags actions := by
  revert last among
  refine fitting_induction (motive := fun actions opened =>
    lastOfTags actions ≠ some .openTags → .tags ∈ opened → NestsTags actions)
    (by simp) ?push ?pop ?openTags ?closeTags fits
  case push =>
    intro pre opened s _ earlier last among
    rw [lastOfTags_append, if_neg (by simp)] at last
    have nested := earlier last (by simpa using among)
    exact nested.mono (List.prefix_append _ _)
  case pop =>
    intro pre s outer _ earlier last among
    rw [lastOfTags_append, if_neg (by simp)] at last
    have nested := earlier last (.tail _ among)
    exact nested.mono (List.prefix_append _ _)
  case openTags =>
    intro pre opened _ _ last
    simp [lastOfTags_append] at last
  case closeTags =>
    intro pre outer before _ _ among
    refine ⟨pre, _, List.prefix_append _ _, before, ?_⟩
    rw [List.count_cons_self]
    have one := List.count_pos_iff.mpr among
    omega

theorem openAfter_append : openAfter (pre ++ post) =
    (openAfter pre).bind fun opened => post.foldlM follow opened := List.foldlM_append

/-- If a container is open inside another one, or is open after the inner one closed, and all of them
close in the end, then the outer one is forgotten before it closes. -/
theorem forgets_of_rest (before : openAfter pre = some opened)
    (rest : post.foldlM follow opened = some [])
    (nested : 2 ≤ opened.count .tags ∨
      lastOfTags pre ≠ some .openTags ∧ 1 ≤ opened.count .tags) : Forgets (pre ++ post) := by
  induction post generalizing pre opened with
  | nil =>
    cases rest
    simp at nested
  | cons a post ih =>
    rw [List.foldlM_cons] at rest
    obtain ⟨next, step, rest⟩ := Option.bind_eq_some_iff.mp rest
    have after : openAfter (pre ++ [a]) = some next := by
      rw [openAfter_append, before]
      simpa using step
    rw [List.append_cons]
    by_cases here : TagsHere opened ∧ lastOfTags pre ≠ some .openTags
    · exact ⟨pre, opened, (List.prefix_append _ _).trans (List.prefix_append _ _), before, here⟩
    refine ih after rest ?_
    rw [lastOfTags_append]
    cases a with
    | push s =>
      cases step
      simpa using nested
    | openTags =>
      cases step
      refine .inl ?_
      rw [List.count_cons_self]
      omega
    | pop =>
      rcases opened with _ | ⟨⟨s⟩ | _, outer⟩
      · cases step
      · cases step
        simpa using nested
      · cases step
    | closeTags =>
      rcases opened with _ | ⟨⟨s⟩ | _, outer⟩
      · cases step
      · cases step
      · -- a container that closes now is not the one that was open around another
        cases step
        rw [if_pos (by simp)]
        refine .inr ⟨by simp, ?_⟩
        rw [List.count_cons_self] at nested
        have inside := not_and.mp here (tagsHere_iff.mpr ⟨next, rfl⟩)
        have two := nested.resolve_right fun closed => inside closed.1
        omega

/-- While scopes and containers open and close like nested elements, the stack tells after each
action whether a container is open in the current scope and none has closed since it opened. In a
run after which nothing is open, that is all along whether a container is open in the current scope,
exactly if no container opens inside another one. -/
theorem inTags_right_iff (closed : openAfter actions = some []) :
    (∀ pre opened, pre <+: actions → openAfter pre = some opened →
      ((run pre).inTags = true ↔ TagsHere opened ∧ lastOfTags pre = some .openTags)) ∧
    ((∀ pre opened, pre <+: actions → openAfter pre = some opened →
      ((run pre).inTags = true ↔ TagsHere opened)) ↔ ¬ NestsTags actions) := by
  refine ⟨fun pre opened _ fits => inTags_iff fits, ?_, ?_⟩
  · rintro right ⟨pre, opened, ⟨post, rfl⟩, before, nested⟩
    have rest : post.foldlM follow opened = some [] := by
      rwa [openAfter_append, before] at closed
    obtain ⟨q, o, start, fits, here, last⟩ := forgets_of_rest before rest (.inl nested)
    exact last ((inTags_iff fits).mp ((right q o start fits).mpr here)).2
  · intro single pre opened start fits
    rw [inTags_iff fits, and_iff_left_iff_imp]
    intro here
    by_contra last
    obtain ⟨outer, rfl⟩ := tagsHere_iff.mp here
    have nested := nestsTags_of_closed fits last List.mem_cons_self
    exact single (nested.mono start)

private def tagsApart : List Action :=
  [.push ⟨.element, some "C"⟩, .openTags, .closeTags,
    .push ⟨.attribute, some "A"⟩, .openTags, .closeTags, .pop, .pop]

theorem inTags_right_of_apart : openAfter tagsApart = some [] ∧ ¬ NestsTags tagsApart ∧
    ∀ pre opened, pre <+: tagsApart → openAfter pre = some opened →
      ((run pre).inTags = true ↔ TagsHere opened) := by
  have closed : openAfter tagsApart = some [] := by decide
  have apart : ¬ NestsTags tagsApart := by
    have each : ∀ pre ∈ tagsApart.inits, ∀ opened ∈ openAfter pre, opened.count .tags < 2 := by
      decide
    rintro ⟨pre, opened, start, fits, nested⟩
    have single := each pre ((List.mem_inits _ _).mpr start) opened fits
    omega
  exact ⟨closed, apart, (inTags_right_iff closed).2.mpr apart⟩

private def tagsInTags : List Action :=
  [.push ⟨.element, some "C"⟩, .openTags, .push ⟨.attribute, some "A"⟩, .openTags, .closeTags,
    .pop, .closeTags, .pop]

/-- Behind the attribute the tags of the class are forgotten, although they are still open. -/
theorem inTags_forgets_outer : openAfter tagsInTags = some [] ∧
    ∃ pre opened, pre <+: tagsInTags ∧ openAfter pre = some opened ∧ TagsHere opened ∧
      (run pre).inTags = false :=
  ⟨by decide, tagsInTags.take 6, [.tags, .scope ⟨.element, some "C"⟩], List.take_prefix 6 _,
    by decide, tagsHere_iff.mpr ⟨_, rfl⟩, by decide⟩

end UmlKotlin.Xmi.ScopeStack
