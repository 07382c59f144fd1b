import Mathlib.Data.List.Count
import Mathlib.Data.List.Nodup
import Mathlib.Logic.Function.Iterate
import UmlKotlin.Proofs.Uml.Resolution

/-!
Roles of associations. A side of an association may name a role and document it, and the text is for
the first member end that has the name. Main statement: after any number of resolutions a property
has the texts of the roles that it is that end for, in the order of the associations; together the
properties have every role that some end can have, and have it once (`resolve_distributes`).
-/

set_option autoImplicit false

namespace UmlKotlin.Uml

open Text

/-- A role at one side of an association: its name, what is documented about it, and the member ends
of the association. -/
structure Role where
  name : Option String
  documentation : Option String
  ends : List String
  deriving DecidableEq, Repr

/-- The role of the source side, if the association is a two-way one, and the role of the target
side. -/
def Association.roles (a : Association) : List Role :=
  (if a.bidirectional then [⟨a.sourceRoleName, a.sourceDocumentation, a.memberEndIds⟩] else []) ++
    [⟨a.targetRoleName, a.targetDocumentation, a.memberEndIds⟩]

namespace Model

def roles (m : Model) : List Role := m.associations.values.flatMap Association.roles

/-- The model lists a property of this name under `id`. -/
def Bears (m : Model) (name : Option String) (id : String) : Prop :=
  ∃ p, m.properties.get? id = some p ∧ p.name = name

/-- A role that has a name and a text documents the first of its ends that bears its name. Ends that
the model does not list are passed over. -/
structure Documents (m : Model) (r : Role) (id : String) : Prop where
  named : blank r.name = false
  filled : blank r.documentation = false
  first : ∃ before after, r.ends = before ++ id :: after ∧ m.Bears r.name id ∧
    ∀ e ∈ before, ¬ m.Bears r.name e

/-- A role that has a name and a text, and an end that bears the name. -/
structure Placed (m : Model) (r : Role) : Prop where
  named : blank r.name = false
  filled : blank r.documentation = false
  borne : ∃ id ∈ r.ends, m.Bears r.name id

variable {m : Model} {r : Role} {id id' : String}

/-! ### The end that a role documents -/

private def bears (m : Model) (name : Option String) (id : String) : Bool :=
  (m.properties.get? id).any fun p => p.name == name

private theorem bears_iff {name : Option String} : m.bears name id = true ↔ m.Bears name id := by
  simp [bears, Bears, Option.any_eq_true]

def documented? (m : Model) (r : Role) : Option String :=
  if blank r.name || blank r.documentation then none else r.ends.find? (m.bears r.name)

theorem documents_iff : m.Documents r id ↔ m.documented? r = some id := by
  unfold documented?
  constructor
  · rintro ⟨named, filled, before, after, split, borne, others⟩
    rw [if_neg (by simp [named, filled]), List.find?_eq_some_iff_append]
    refine ⟨bears_iff.mpr borne, before, after, split, ?_⟩
    intro e member
    have other := others e member
    rw [← bears_iff] at other
    simpa using other
  · intro found
    split at found
    · cases found
    · rename_i loud
      have loud : blank r.name = false ∧ blank r.documentation = false := by simpa using loud
      obtain ⟨borne, before, after, split, others⟩ := List.find?_eq_some_iff_append.mp found
      refine ⟨loud.1, loud.2, before, after, split, bears_iff.mp borne, ?_⟩
      intro e member borne
      have other := others e member
      rw [bears_iff.mpr borne] at other
      cases other

instance (m : Model) (r : Role) (id : String) : Decidable (m.Documents r id) :=
  decidable_of_iff _ documents_iff.symm

theorem Documents.unique (h : m.Documents r id) (h' : m.Documents r id') : id = id' := by
  have same : some id = some id' := (documents_iff.mp h).symm.trans (documents_iff.mp h')
  exact Option.some.inj same

theorem placed_iff : m.Placed r ↔ ∃ id, m.Documents r id := by
  constructor
  · rintro ⟨named, filled, borne⟩
    cases found : m.documented? r with
    | some id => exact ⟨id, documents_iff.mpr found⟩
    | none =>
      obtain ⟨id, member, borne⟩ := borne
      rw [documented?, if_neg (by simp [named, filled]), List.find?_eq_none] at found
      exact absurd (bears_iff.mpr borne) (found id member)
  · rintro ⟨id, named, filled, before, after, split, borne, -⟩
    have member : id ∈ r.ends := by
      rw [split]
      exact List.mem_append_right _ List.mem_cons_self
    exact ⟨named, filled, id, member, borne⟩

instance (m : Model) (r : Role) : Decidable (m.Placed r) :=
  decidable_of_iff ((m.documented? r).isSome = true) (by
    rw [placed_iff, Option.isSome_iff_exists]
    simp only [documents_iff])

/-! ### Texts of a property -/

def rolesOf (m : Model) (id : String) : List Role := m.roles.filter fun r => m.Documents r id

def roleParagraphs (m : Model) (id : String) : List String :=
  (m.rolesOf id).filterMap (·.documentation)

theorem filled_of_mem_rolesOf (h : r ∈ m.rolesOf id) : blank r.documentation = false := by
  have documents : m.Documents r id := of_decide_eq_true (List.mem_filter.mp h).2
  exact documents.filled

theorem documented?_eq (m : Model) (a : Association) (name documentation : Option String) :
    m.documented? ⟨name, documentation, a.memberEndIds⟩ = m.documentedEnd? a name documentation := by
  cases name with
  | none => simp [documented?, documentedEnd?, blank]
  | some name => rfl

theorem sideTexts_eq_roles (m : Model) (id : String) (a : Association) :
    m.sideTexts id a = (a.roles.filter fun r => m.Documents r id).map (·.documentation) := by
  have text (name documentation : Option String) :
      (if m.documentedEnd? a name documentation = some id then [documentation] else []) =
        ([(⟨name, documentation, a.memberEndIds⟩ : Role)].filter fun r => m.Documents r id).map
          (·.documentation) := by
    rw [← documented?_eq]
    by_cases documents : m.documented? ⟨name, documentation, a.memberEndIds⟩ = some id
    · simp [documents_iff, documents]
    · simp [documents_iff, documents]
  rw [sideTexts, Association.roles, List.filter_append, List.map_append, ← text]
  congr 1
  by_cases both : a.bidirectional = true
  · simp only [both, true_and, if_true]
    exact text _ _
  · simp [both]

theorem roleTexts_eq_roles (m : Model) (id : String) :
    m.roleTexts id = (m.rolesOf id).map (·.documentation) := by
  rw [roleTexts, rolesOf, roles, List.filter_flatMap, List.map_flatMap]
  exact List.flatMap_congr fun a _ => m.sideTexts_eq_roles id a

theorem joinParagraphs_roleTexts (m : Model) (id : String) :
    joinParagraphs (m.roleTexts id) = paragraphs? (m.roleParagraphs id) := by
  rw [joinParagraphs_eq, roleTexts_eq_roles, List.filterMap_map, roleParagraphs]
  congr 1
  apply List.filterMap_congr
  intro r member
  have filled := filled_of_mem_rolesOf member
  cases text : r.documentation with
  | none => simp [nonBlank?, text]
  | some s =>
    rw [text] at filled
    simp [nonBlank?, text, filled]

/-! ### How roles are handed out -/

theorem count_flatMap_filter {α β : Type} [DecidableEq α] (owns : α → β → Bool) (owners : List β)
    (members : List α) (a : α) :
    (owners.flatMap fun b => members.filter (owns · b)).count a =
      owners.countP (owns a) * members.count a := by
  induction owners with
  | nil => simp
  | cons b owners ih =>
    rw [List.flatMap_cons, List.count_append, ih]
    by_cases own : owns a b = true
    · have all : (members.filter (owns · b)).count a = members.count a := List.count_filter own
      rw [all, List.countP_cons_of_pos own, Nat.add_mul, Nat.one_mul, Nat.add_comm]
    · have none : (members.filter (owns · b)).count a = 0 := by
        rw [List.count_eq_zero]
        intro member
        exact own (List.mem_filter.mp member).2
      rw [none, List.countP_cons_of_neg own, Nat.zero_add]

theorem countP_documents (m : Model) (r : Role) :
    (m.properties.keys.countP fun id => m.Documents r id) = if m.Placed r then 1 else 0 := by
  by_cases placed : m.Placed r
  · obtain ⟨id, documents⟩ := placed_iff.mp placed
    have only : ∀ k ∈ m.properties.keys, decide (m.Documents r k) = true ↔ (k == id) = true := by
      intro k _
      rw [decide_eq_true_iff, beq_iff_eq]
      constructor
      · intro here
        exact here.unique documents
      · intro same
        rw [same]
        exact documents
    have listed : id ∈ m.properties.keys := by
      obtain ⟨-, -, -, -, -, ⟨p, found, -⟩, -⟩ := documents
      exact Table.mem_keys.mpr ⟨p, found⟩
    have nodup : m.properties.keys.Nodup := m.properties.keys_nodup
    rw [if_pos placed, List.countP_congr only]
    exact List.count_eq_one_of_mem nodup listed
  · rw [if_neg placed, List.countP_eq_zero]
    intro k _ documents
    exact placed (placed_iff.mpr ⟨k, of_decide_eq_true documents⟩)

/-- The properties have the roles that can be placed among them, each of them once. -/
theorem perm_rolesOf (m : Model) :
    (m.properties.keys.flatMap m.rolesOf).Perm (m.roles.filter fun r => m.Placed r) := by
  rw [List.perm_iff_count]
  intro r
  have handed := count_flatMap_filter (fun r id => decide (m.Documents r id)) m.properties.keys
    m.roles r
  rw [countP_documents] at handed
  refine handed.trans ?_
  by_cases placed : m.Placed r
  · have all : (m.roles.filter fun r => m.Placed r).count r = m.roles.count r :=
      List.count_filter (decide_eq_true placed)
    rw [if_pos placed, Nat.one_mul, all]
  · rw [if_neg placed, Nat.zero_mul, eq_comm, List.count_eq_zero]
    intro member
    exact placed (of_decide_eq_true (List.mem_filter.mp member).2)

/-! ### One resolution after the other -/

theorem SameGround.trans {l m n : Model} (h : SameGround l m) (h' : SameGround m n) :
    SameGround l n where
  classes := h.classes.trans h'.classes
  types := h.types.trans h'.types
  associations := h.associations.trans h'.associations
  names id := (h.names id).trans (h'.names id)

theorem SameGround.roleParagraphs_eq {m n : Model} (h : SameGround m n) (id : String) :
    m.roleParagraphs id = n.roleParagraphs id := by
  have bears (name : Option String) : m.bears name = n.bears name := by
    funext e
    have names := congrArg (Option.any (· == name)) (h.names e)
    rw [Option.any_map, Option.any_map] at names
    exact names
  have documents (r : Role) : m.Documents r id ↔ n.Documents r id := by
    rw [documents_iff, documents_iff, documented?, documented?, bears]
  have roles : m.roles = n.roles := by rw [Model.roles, Model.roles, h.associations]
  simp only [roleParagraphs, rolesOf, roles, documents]

theorem exists_resolved {p : Property} (found : m.properties.get? id = some p) :
    ∃ q, m.resolve.properties.get? id = some q ∧ q.documentation = p.documentation ∧
      q.links.associationDocumentation = paragraphs? (m.roleParagraphs id) := by
  obtain ⟨deprecated, message, facts⟩ := m.resolved_facts id p
  refine ⟨m.resolved id p, get?_resolve.mpr ⟨p, found, rfl⟩, by rw [facts], ?_⟩
  rw [links_resolved, ← joinParagraphs_roleTexts]
  rfl

/-- However often a model was resolved before, it has the same ground and the same properties with
their own documentation. -/
theorem iterate_resolve (m : Model) (n : Nat) : SameGround (resolve^[n] m) m ∧
    (resolve^[n] m).properties.keys = m.properties.keys ∧
    ∀ id p, m.properties.get? id = some p →
      ∃ q, (resolve^[n] m).properties.get? id = some q ∧ q.documentation = p.documentation := by
  induction n with
  | zero => exact ⟨⟨rfl, rfl, rfl, fun _ => rfl⟩, rfl, fun id p found => ⟨p, found, rfl⟩⟩
  | succ n ih =>
    obtain ⟨ground, keys, properties⟩ := ih
    rw [Function.iterate_succ_apply']
    refine ⟨(resolve_ground _).trans ground, ?_, ?_⟩
    · rw [resolve_eq, Table.keys_map, keys]
    · intro id p found
      obtain ⟨q, here, own⟩ := properties id p found
      obtain ⟨q', there, kept, -⟩ := exists_resolved here
      exact ⟨q', there, kept.trans own⟩

theorem fullDocumentation_eq {q : Property} {texts : List String}
    (filled : ∀ s ∈ texts, blank (some s) = false)
    (documented : q.links.associationDocumentation = paragraphs? texts) :
    q.fullDocumentation = paragraphs? ((nonBlank? q.documentation).toList ++ texts) := by
  have own : joinParagraphs [q.documentation] = paragraphs? (nonBlank? q.documentation).toList := by
    rw [joinParagraphs_eq]
    cases kept : nonBlank? q.documentation <;> simp [kept]
  have filled' : ∀ s ∈ (nonBlank? q.documentation).toList, blank (some s) = false := by
    intro s member
    exact blank_of_nonBlank? (Option.mem_toList.mp member)
  calc q.fullDocumentation
      = joinParagraphs ([q.documentation] ++ [q.links.associationDocumentation]) := rfl
    _ = addParagraph (paragraphs? (nonBlank? q.documentation).toList) (paragraphs? texts) := by
        rw [joinParagraphs_append_singleton, own, documented]
    _ = _ := addParagraph_paragraphs? filled' filled

theorem filled_roleParagraphs {s : String} (h : s ∈ m.roleParagraphs id) :
    blank (some s) = false := by
  obtain ⟨r, member, text⟩ := List.mem_filterMap.mp h
  rw [← text]
  exact filled_of_mem_rolesOf member

/-- After any number of resolutions, but at least one, the same properties are there. Each of them
has the texts of the roles that it is the end for, in the order of the associations, and behind its
own documentation. A role documents one end at most; the properties have the roles that can be
placed among them, each once. -/
theorem resolve_distributes (m : Model) :
    (∀ n, (resolve^[n + 1] m).properties.keys = m.properties.keys ∧
      ∀ id p, m.properties.get? id = some p →
        ∃ q, (resolve^[n + 1] m).properties.get? id = some q ∧
          q.links.associationDocumentation = paragraphs? (m.roleParagraphs id) ∧
          q.fullDocumentation =
            paragraphs? ((nonBlank? p.documentation).toList ++ m.roleParagraphs id)) ∧
    (∀ r id id', m.Documents r id → m.Documents r id' → id = id') ∧
    (m.properties.keys.flatMap m.rolesOf).Perm (m.roles.filter fun r => m.Placed r) := by
  refine ⟨?_, fun r id id' here there => here.unique there, m.perm_rolesOf⟩
  intro n
  refine ⟨(m.iterate_resolve (n + 1)).2.1, ?_⟩
  intro id p found
  obtain ⟨ground, -, properties⟩ := m.iterate_resolve n
  obtain ⟨p', before, own⟩ := properties id p found
  obtain ⟨q, after, own', documented⟩ := exists_resolved before
  rw [ground.roleParagraphs_eq] at documented
  have full := fullDocumentation_eq (fun _ => filled_roleParagraphs) documented
  rw [own', own] at full
  rw [Function.iterate_succ_apply']
  exact ⟨q, after, documented, full⟩

/-- Two ends of one name. The first association lists the first of them twice, behind one that is
not there, and both of its sides are for it; the second association adds to it, and its source side
does not count. -/
private def sharedRole : Model where
  properties := ⟨[
    ("p", { id := "p", name := some "eier", documentation := some "Egen tekst." }),
    ("q", { id := "q", name := some "eier" })], by simp⟩
  associations := ⟨[
    ("X", {
      id := "X"
      memberEndIds := ["borte", "p", "q", "p"]
      bidirectional := true
      sourceRoleName := some "eier"
      targetRoleName := some "eier"
      sourceDocumentation := some "Fra kilden."
      targetDocumentation := some "Fra målet." }),
    ("Y", {
      id := "Y"
      memberEndIds := ["q", "p"]
      sourceRoleName := some "eier"
      sourceDocumentation := some "Uten retning."
      targetRoleName := some "eier"
      targetDocumentation := some " " }),
    ("Z", {
      id := "Z"
      memberEndIds := ["p"]
      targetRoleName := some "eier"
      targetDocumentation := some "Og mer." })], by simp⟩

theorem resolve_distributes_shared_role :
    (∃ q, (resolve^[2] sharedRole).properties.get? "p" = some q ∧
      q.fullDocumentation = some "Egen tekst.\n\nFra kilden.\n\nFra målet.\n\nOg mer.") ∧
    (∃ q, (resolve^[2] sharedRole).properties.get? "q" = some q ∧ q.fullDocumentation = none) ∧
    ∀ r ∈ sharedRole.rolesOf "p", ¬ sharedRole.Documents r "q" := by
  have properties := ((resolve_distributes sharedRole).1 1).2
  refine ⟨?_, ?_, ?_⟩
  · obtain ⟨q, after, -, full⟩ := properties "p" _ rfl
    exact ⟨q, after, full.trans (by decide +kernel)⟩
  · obtain ⟨q, after, -, full⟩ := properties "q" _ rfl
    exact ⟨q, after, full.trans (by decide +kernel)⟩
  · intro r member other
    have here : sharedRole.Documents r "p" := of_decide_eq_true (List.mem_filter.mp member).2
    exact absurd ((resolve_distributes sharedRole).2.1 r _ _ here other) (by decide)

end Model

end UmlKotlin.Uml
