import Mathlib.Data.List.Basic
import Mathlib.Data.List.Find
import UmlKotlin.Proofs.Table
import UmlKotlin.Proofs.Text.Paragraph
import UmlKotlin.Uml.Resolution

/-!
What resolution computes, without its loops. Every property gets the links that its declared facts
give (`resolveReferences_eq`), and the mark of the last deprecated association that has it as an
end (`applyAssociationDeprecations_eq`). Main statement: resolution forgets whatever links there
were, and a further run changes nothing (`resolve_recomputes`).
-/

set_option autoImplicit false

namespace UmlKotlin.Uml

open Text (blank addParagraph joinParagraphs)

namespace Model

/-- The declared facts of a model alone. A property that only its class still holds is not
resolved: the links it has count as declared. -/
def declared (m : Model) : Model :=
  { m with
    properties := m.properties.map fun _ p => p.declared
    classes := m.classes.map fun _ c => c.declared
    retired := ∅ }

/-- The end that one side of an association is documented at, if the side has something to say. -/
def documentedEnd? (m : Model) (a : Association) (role documentation : Option String) :
    Option String :=
  role.bind fun name =>
    if blank role || blank documentation then none else m.endNamed? a name

/-- What an association documents at the property listed under `id`: its source side if it is a
two-way association, then its target side. -/
def sideTexts (m : Model) (id : String) (a : Association) : List (Option String) :=
  (if a.bidirectional ∧ m.documentedEnd? a a.sourceRoleName a.sourceDocumentation = some id then
      [a.sourceDocumentation]
    else []) ++
  (if m.documentedEnd? a a.targetRoleName a.targetDocumentation = some id then
      [a.targetDocumentation]
    else [])

def roleTexts (m : Model) (id : String) : List (Option String) :=
  m.associations.values.flatMap (m.sideTexts id)

def resolvedLinks (m : Model) (id : String) (p : Property) : Links :=
  { m.linksOf p with associationDocumentation := joinParagraphs (m.roleTexts id) }

def deprecator? (m : Model) (id : String) : Option Association :=
  (m.associations.values.filter fun a => a.deprecated && a.endIds.contains id).getLast?

/-- The property listed under `id` with the mark of the last association that deprecates it. -/
def marked (m : Model) (id : String) (p : Property) : Property :=
  match m.deprecator? id with
  | some a => deprecateWith a.deprecationMessage p
  | none => p

/-- A model whose properties have the given texts as documentation of their associations. -/
private def withTexts (m : Model) (texts : String → List (Option String)) : Model :=
  { m with properties := m.properties.map fun id p => { p with links := { p.links with
      associationDocumentation := joinParagraphs (texts id) } } }

/-- Models that agree on what resolution asks for, as long as it asks for the known classes only. -/
structure Agree (m n : Model) (known : String → Prop) : Prop where
  classes (id : String) : known id → m.classes.contains id = n.classes.contains id
  types (id : String) : m.types.get? id = n.types.get? id
  associations : m.associations = n.associations
  names : ∀ a ∈ m.associations.values, ∀ id ∈ a.memberEndIds,
    (m.properties.get? id).map (·.name) = (n.properties.get? id).map (·.name)

/-- Models in which identifiers lead to the same things, as far as resolution asks: the same
classes are there, and the types, the associations and the names of the properties are the same. -/
structure SameGround (m n : Model) : Prop where
  classes : m.classes.keys = n.classes.keys
  types : m.types = n.types
  associations : m.associations = n.associations
  names : ∀ id, (m.properties.get? id).map (·.name) = (n.properties.get? id).map (·.name)

theorem endNamed?_congr {m n : Model} {a : Association} (names : ∀ id ∈ a.memberEndIds,
      (m.properties.get? id).map (·.name) = (n.properties.get? id).map (·.name)) (name : String) :
    m.endNamed? a name = n.endNamed? a name := by
  have test (l : Model) (id : String) : ((l.properties.get? id).any fun p => p.name == some name) =
      ((l.properties.get? id).map (·.name)).any (· == some name) := by
    cases l.properties.get? id <;> rfl
  apply List.find?_congr
  intro id member
  rw [test, test, names id member]

namespace Agree

variable {m n : Model} {known : String → Prop} {a : Association} {p : Property} {c : Class}

theorem sideTexts_eq (h : Agree m n known) (listed : a ∈ m.associations.values) (id : String) :
    m.sideTexts id a = n.sideTexts id a := by
  have ends (role documentation : Option String) :
      m.documentedEnd? a role documentation = n.documentedEnd? a role documentation := by
    simp only [documentedEnd?, endNamed?_congr (h.names a listed)]
  simp only [sideTexts, ends]

theorem roleTexts_eq (h : Agree m n known) (id : String) : m.roleTexts id = n.roleTexts id := by
  rw [roleTexts, roleTexts, ← h.associations]
  exact List.flatMap_congr fun a listed => h.sideTexts_eq listed id

theorem deprecator?_eq (h : Agree m n known) (id : String) :
    m.deprecator? id = n.deprecator? id := by
  rw [deprecator?, deprecator?, h.associations]

theorem typeOf_eq (h : Agree m n known) (type : ∀ id, p.typeId = some id → known id) :
    m.typeOf p = n.typeOf p := by
  unfold typeOf
  cases given : p.typeId with
  | none => rfl
  | some id => simp only [Option.filter_some, h.classes id (type id given)]

theorem associationOf_eq (h : Agree m n known) (p : Property) :
    m.associationOf p = n.associationOf p := by
  rw [associationOf, associationOf, h.associations]

theorem inverseOf_eq (h : Agree m n known) (p : Property) : m.inverseOf p = n.inverseOf p := by
  unfold inverseOf
  rw [← h.associationOf_eq]
  apply Option.bind_congr
  rintro ⟨id, a⟩ found
  have listed : a ∈ m.associations.values := by
    unfold associationOf at found
    split at found
    · cases found
    · obtain ⟨id', -, found⟩ := Option.bind_eq_some_iff.mp found
      obtain ⟨a', entry, same⟩ := Option.map_eq_some_iff.mp found
      cases same
      exact Table.mem_values.mpr ⟨_, entry⟩
  have there (id : String) (member : id ∈ a.memberEndIds) :
      m.properties.contains id = n.properties.contains id := by
    have names := congrArg Option.isSome (h.names a listed id member)
    simpa [Table.contains_eq_isSome] using names
  rcases ends : a.memberEndIds with _ | ⟨e, _ | ⟨f, _ | ⟨_, _⟩⟩⟩
  case cons.cons.nil =>
    rw [ends] at there
    simp only [ends]
    by_cases first : p.id = e
    · simp [first, there f (by simp)]
    · simp [first, there e (by simp)]
  all_goals simp only [ends]

/-- Links follow from the ground and from the facts of the property other than its mark. -/
theorem linksOf_eq (h : Agree m n known) (type : ∀ id, p.typeId = some id → known id) :
    m.linksOf p = n.linksOf p := by
  have types : m.types.get? = n.types.get? := funext h.types
  simp only [linksOf, primitiveTypeOf, h.typeOf_eq type, h.associationOf_eq, h.inverseOf_eq, types]

theorem resolvedLinks_eq (h : Agree m n known) (type : ∀ id, p.typeId = some id → known id)
    (id : String) : m.resolvedLinks id p = n.resolvedLinks id p := by
  rw [resolvedLinks, resolvedLinks, h.linksOf_eq type, h.roleTexts_eq]

theorem superclassOf_eq (h : Agree m n known)
    (superclass : ∀ id, c.generalizationId = some id → known id) :
    m.superclassOf c = n.superclassOf c := by
  unfold superclassOf
  cases given : c.generalizationId with
  | none => rfl
  | some id => simp only [Option.filter_some, h.classes id (superclass id given)]

end Agree

namespace SameGround

variable {m n : Model}

theorem agree (h : SameGround m n) : Agree m n fun _ => True where
  classes id _ := by rw [Table.contains, Table.contains, h.classes]
  types id := by rw [h.types]
  associations := h.associations
  names _ _ id _ := h.names id

theorem endNamed?_eq (h : SameGround m n) (a : Association) (name : String) :
    m.endNamed? a name = n.endNamed? a name :=
  endNamed?_congr (fun id _ => h.names id) name

theorem roleTexts_eq (h : SameGround m n) (id : String) : m.roleTexts id = n.roleTexts id :=
  h.agree.roleTexts_eq id

theorem deprecator?_eq (h : SameGround m n) (id : String) :
    m.deprecator? id = n.deprecator? id :=
  h.agree.deprecator?_eq id

theorem linksOf_eq (h : SameGround m n) (p : Property) : m.linksOf p = n.linksOf p :=
  h.agree.linksOf_eq fun _ _ => trivial

theorem resolvedLinks_eq (h : SameGround m n) (id : String) (p : Property) :
    m.resolvedLinks id p = n.resolvedLinks id p :=
  h.agree.resolvedLinks_eq (fun _ _ => trivial) id

theorem superclassOf_eq (h : SameGround m n) (c : Class) : m.superclassOf c = n.superclassOf c :=
  h.agree.superclassOf_eq fun _ _ => trivial

end SameGround

/-! ### The fold over the associations -/

private theorem withTexts_ground (m : Model) (texts : String → List (Option String)) :
    SameGround (m.withTexts texts) m where
  classes := rfl
  types := rfl
  associations := rfl
  names id := by
    simp only [withTexts, Table.get?_map, Option.map_map]
    rfl

private theorem documentEnd_withTexts (m : Model) (texts : String → List (Option String))
    (a : Association) (role documentation : Option String) :
    (m.withTexts texts).documentEnd a role documentation = m.withTexts fun id => texts id ++
      if m.documentedEnd? a role documentation = some id then [documentation] else [] := by
  have same := (withTexts_ground m texts).endNamed?_eq a
  cases role with
  | none => simp [documentEnd, documentedEnd?]
  | some name =>
    by_cases silent : (blank (some name) || blank documentation) = true
    · simp [documentEnd, documentedEnd?, silent]
    · cases found : m.endNamed? a name with
      | none => simp [documentEnd, documentedEnd?, silent, same, found]
      | some end' =>
        simp only [documentEnd, documentedEnd?, silent, same, found, Option.bind_some,
          Bool.false_eq_true, reduceIte, Option.some.injEq]
        simp only [modifyProperty, withTexts, Table.modify, Table.map_map]
        congr 1
        apply Table.map_congr
        rintro ⟨id, p⟩ -
        by_cases here : end' = id
        · subst here
          simp [Text.joinParagraphs_append_singleton, Text.addParagraph_none_join]
        · simp [here, Ne.symm here]

private theorem documentEnds_withTexts (m : Model) (texts : String → List (Option String))
    (a : Association) : (m.withTexts texts).documentEnds a =
      m.withTexts fun id => texts id ++ m.sideTexts id a := by
  unfold documentEnds sideTexts
  by_cases both : a.bidirectional = true
  · simp [both, documentEnd_withTexts, List.append_assoc]
  · simp [both, documentEnd_withTexts]

private theorem foldl_documentEnds (m : Model) (as : List Association)
    (texts : String → List (Option String)) : as.foldl documentEnds (m.withTexts texts) =
      m.withTexts fun id => texts id ++ as.flatMap (m.sideTexts id) := by
  induction as generalizing texts with
  | nil => simp
  | cons a as ih =>
    rw [List.foldl_cons, documentEnds_withTexts, ih]
    simp [List.append_assoc]

theorem resolveReferences_eq (m : Model) : m.resolveReferences = { m with
    properties := m.properties.map fun id p => { p with links := m.resolvedLinks id p }
    classes := m.classes.map fun _ c => { c with superclass := m.superclassOf c }
    retired := ∅ } := by
  let linked : Model := { m with
    properties := m.properties.map fun _ p => { p with links := m.linksOf p }
    classes := m.classes.map fun _ c => { c with superclass := m.superclassOf c }
    retired := ∅ }
  have ground : SameGround linked m := {
    classes := Table.keys_map _ _
    types := rfl
    associations := rfl
    names := fun id => by
      simp only [linked, Table.get?_map, Option.map_map]
      rfl }
  -- no text is there before the fold begins
  have start : linked = linked.withTexts fun _ => [] := by
    simp only [linked, withTexts, Table.map_map]
    rfl
  have texts (id : String) :
      m.associations.values.flatMap (linked.sideTexts id) = m.roleTexts id :=
    ground.roleTexts_eq id
  calc m.resolveReferences
      = m.associations.values.foldl documentEnds linked := rfl
    _ = m.associations.values.foldl documentEnds (linked.withTexts fun _ => []) := by
        rw [← start]
    _ = linked.withTexts m.roleTexts := by
        rw [foldl_documentEnds]
        simp only [List.nil_append, texts]
    _ = _ := by
        simp only [linked, withTexts, Table.map_map]
        rfl

/-! ### The fold over the deprecated associations -/

private theorem foldl_deprecateWith (m : Model) (message : Option String) (ids : List String) :
    ids.foldl (fun m id => m.modifyProperty id (deprecateWith message)) m = { m with
      properties := m.properties.map fun id p =>
        if id ∈ ids then deprecateWith message p else p } := by
  induction ids generalizing m with
  | nil => simp [Table.map_id]
  | cons id ids ih =>
    rw [List.foldl_cons, ih]
    simp only [modifyProperty, Table.modify, Table.map_map]
    congr 1
    apply Table.map_congr
    rintro ⟨id', p⟩ -
    by_cases here : id' = id
    · subst here
      by_cases again : id' ∈ ids <;> simp [again, deprecateWith]
    · simp [here]

private theorem foldl_deprecateEnds (m : Model) (as : List Association) :
    as.foldl deprecateEnds m = { m with
      properties := m.properties.map fun id p =>
        match (as.filter fun a => a.deprecated && a.endIds.contains id).getLast? with
        | some a => deprecateWith a.deprecationMessage p
        | none => p } := by
  induction as using List.reverseRecOn with
  | nil => simp [Table.map_id]
  | append_singleton as a ih =>
    rw [List.foldl_append, ih, List.foldl_cons, List.foldl_nil, deprecateEnds]
    by_cases dead : a.deprecated = true
    · rw [if_pos dead, foldl_deprecateWith]
      simp only [Table.map_map]
      congr 1
      apply Table.map_congr
      rintro ⟨id, p⟩ -
      by_cases here : id ∈ a.endIds
      · cases (as.filter fun a => a.deprecated && a.endIds.contains id).getLast? <;>
          simp [List.filter_append, dead, here, deprecateWith]
      · simp [List.filter_append, here]
    · simp [dead, List.filter_append]

theorem applyAssociationDeprecations_eq (m : Model) :
    m.applyAssociationDeprecations = { m with properties := m.properties.map m.marked } :=
  foldl_deprecateEnds m _

/-! ### Laws of resolution -/

theorem declared_ground (m : Model) : SameGround m.declared m where
  classes := Table.keys_map _ _
  types := rfl
  associations := rfl
  names id := by
    simp only [declared, Table.get?_map, Option.map_map]
    rfl

theorem marked_ground (m : Model) : SameGround m.applyAssociationDeprecations m where
  classes := by rw [applyAssociationDeprecations_eq]
  types := by rw [applyAssociationDeprecations_eq]
  associations := by rw [applyAssociationDeprecations_eq]
  names id := by
    have name (p : Property) : (m.marked id p).name = p.name := by
      unfold marked
      split <;> rfl
    rw [applyAssociationDeprecations_eq, Table.get?_map, Option.map_map]
    simp only [Function.comp_def, name]

theorem resolveReferences_declared (m : Model) :
    m.declared.resolveReferences = m.resolveReferences := by
  have links (id : String) (p : Property) :
      m.declared.resolvedLinks id p.declared = m.resolvedLinks id p :=
    (declared_ground m).resolvedLinks_eq id p
  have superclass (c : Class) : m.declared.superclassOf c.declared = m.superclassOf c :=
    (declared_ground m).superclassOf_eq c
  simp only [resolveReferences_eq]
  simp only [declared, Table.map_map] at links superclass ⊢
  simp only [links, superclass]
  rfl

theorem declared_resolveReferences (m : Model) : m.resolveReferences.declared = m.declared := by
  rw [resolveReferences_eq]
  simp only [declared, Table.map_map]
  rfl

theorem deprecator?_resolveReferences (m : Model) (id : String) :
    m.resolveReferences.deprecator? id = m.deprecator? id := by
  rw [deprecator?, resolveReferences_eq, deprecator?]

theorem resolveReferences_idem (m : Model) :
    m.resolveReferences.resolveReferences = m.resolveReferences := by
  rw [← resolveReferences_declared m.resolveReferences, declared_resolveReferences,
    resolveReferences_declared]

theorem applyAssociationDeprecations_idem (m : Model) :
    m.applyAssociationDeprecations.applyAssociationDeprecations =
      m.applyAssociationDeprecations := by
  have again (id : String) (p : Property) :
      m.applyAssociationDeprecations.marked id (m.marked id p) = m.marked id p := by
    rw [marked, (marked_ground m).deprecator?_eq, marked]
    cases m.deprecator? id <;> rfl
  rw [applyAssociationDeprecations_eq m.applyAssociationDeprecations]
  simp only [applyAssociationDeprecations_eq m, Table.map_map] at again ⊢
  simp only [again]

/-- No link depends on the mark of a property, and no mark on a link. -/
theorem resolveReferences_applyAssociationDeprecations (m : Model) :
    m.applyAssociationDeprecations.resolveReferences = m.resolve := by
  have links (id : String) (p : Property) :
      m.applyAssociationDeprecations.resolvedLinks id (m.marked id p) = m.resolvedLinks id p := by
    rw [(marked_ground m).resolvedLinks_eq]
    unfold marked
    split <;> rfl
  have superclass (c : Class) : m.applyAssociationDeprecations.superclassOf c = m.superclassOf c :=
    (marked_ground m).superclassOf_eq c
  rw [resolve, resolveReferences_eq m.applyAssociationDeprecations,
    applyAssociationDeprecations_eq m.resolveReferences]
  simp only [applyAssociationDeprecations_eq m, resolveReferences_eq m, Table.map_map]
    at links superclass ⊢
  simp only [links, superclass]
  congr 1
  apply Table.map_congr
  rintro ⟨id, p⟩ -
  simp only [marked, deprecator?]
  split <;> rfl

/-- Models with the same declared facts are resolved to the same model, whatever links they had;
resolution or either of its passes run once more changes nothing. -/
theorem resolve_recomputes (m n : Model) (same : m.declared = n.declared) :
    m.resolve = n.resolve ∧ m.resolve.resolve = m.resolve ∧
      m.resolve.resolveReferences = m.resolve ∧
      m.resolve.applyAssociationDeprecations = m.resolve := by
  have linked : m.resolve.resolveReferences = m.resolve := by
    rw [resolve, resolveReferences_applyAssociationDeprecations, resolve, resolveReferences_idem]
  have marked : m.resolve.applyAssociationDeprecations = m.resolve :=
    applyAssociationDeprecations_idem _
  refine ⟨?_, ?_, linked, marked⟩
  · rw [resolve, resolve, ← resolveReferences_declared m, same, resolveReferences_declared]
  · calc m.resolve.resolve
        = m.resolve.resolveReferences.applyAssociationDeprecations := rfl
      _ = m.resolve := by rw [linked, marked]

/-- Two classes, one above the other, with the two ends of a deprecated association between them;
the links are whatever is given. -/
private def twoEnds (links : Links) (superclass : Option String) : Model where
  classes := ⟨[
    ("A", { id := "A", name := "Adresse", members := [.listed "p"], superclass }),
    ("B", { id := "B", name := "Bygg", members := [.listed "q"], generalizationId := some "A" })],
    by simp⟩
  properties := ⟨[
    ("p", { id := "p", name := some "bygg", typeId := some "B", associationId := some "X", links }),
    ("q", { id := "q", name := some "adresse", typeId := some "A", associationId := some "X" })],
    by simp⟩
  associations := ⟨[("X", {
      id := "X"
      memberEndIds := ["p", "q"]
      bidirectional := true
      deprecated := true
      deprecationMessage := some "utgår"
      targetRoleName := some "adresse"
      targetDocumentation := some "Adressen." })], by simp⟩

theorem resolve_recomputes_stale_links :
    (twoEnds {} none).declared =
        (twoEnds { type := some "gone", inverse := some "p" } (some "A")).declared ∧
      (twoEnds {} none).resolve =
        (twoEnds { type := some "gone", inverse := some "p" } (some "A")).resolve :=
  ⟨rfl, (resolve_recomputes _ _ rfl).1⟩

/-! ### The resolved model -/

def resolved (m : Model) (id : String) (p : Property) : Property :=
  m.resolveReferences.marked id { p with links := m.resolvedLinks id p }

theorem resolve_eq (m : Model) : m.resolve = { m with
    properties := m.properties.map m.resolved
    classes := m.classes.map fun _ c => { c with superclass := m.superclassOf c }
    retired := ∅ } := by
  have resolved : m.resolved = fun id p =>
      m.resolveReferences.marked id { p with links := m.resolvedLinks id p } := rfl
  rw [resolve, applyAssociationDeprecations_eq, resolved]
  simp only [resolveReferences_eq, Table.map_map]

theorem links_resolved (m : Model) (id : String) (p : Property) :
    (m.resolved id p).links = m.resolvedLinks id p := by
  unfold resolved marked
  split <;> rfl

theorem resolved_facts (m : Model) (id : String) (p : Property) :
    ∃ deprecated message, m.resolved id p =
      { p with
        links := m.resolvedLinks id p
        deprecated := deprecated
        deprecationMessage := message } := by
  unfold resolved marked
  split
  · exact ⟨_, _, rfl⟩
  · exact ⟨_, _, rfl⟩

theorem id_resolved (m : Model) (id : String) (p : Property) : (m.resolved id p).id = p.id := by
  obtain ⟨deprecated, message, eq⟩ := m.resolved_facts id p
  rw [eq]

theorem get?_resolve {m : Model} {id : String} {p : Property} :
    m.resolve.properties.get? id = some p ↔
      ∃ p', m.properties.get? id = some p' ∧ m.resolved id p' = p := by
  rw [resolve_eq, Table.get?_map, Option.map_eq_some_iff]

theorem get?_class_resolve (m : Model) (id : String) : m.resolve.classes.get? id =
    (m.classes.get? id).map fun c => { c with superclass := m.superclassOf c } := by
  rw [resolve_eq, Table.get?_map]

/-- Resolution makes the same of a property whose type is no class that only one of the models
knows. -/
theorem Agree.resolved_eq {m n : Model} {known : String → Prop} (h : Agree m n known)
    {p : Property} (type : ∀ id, p.typeId = some id → known id) (id : String) :
    m.resolved id p = n.resolved id p := by
  simp only [resolved, marked, deprecator?_resolveReferences, h.deprecator?_eq,
    h.resolvedLinks_eq type]

theorem resolve_ground (m : Model) : SameGround m.resolve m where
  classes := by rw [resolve_eq, Table.keys_map]
  types := by rw [resolve_eq]
  associations := by rw [resolve_eq]
  names id := by
    have name (id : String) (p : Property) : (m.resolved id p).name = p.name := by
      obtain ⟨deprecated, message, eq⟩ := m.resolved_facts id p
      rw [eq]
    rw [resolve_eq, Table.get?_map, Option.map_map]
    simp only [Function.comp_def, name]

/-! ### Where links lead -/

/-- The links to classes lead to classes that are listed, but for those of properties that only
their class still holds. -/
structure Closed (m : Model) : Prop where
  retired : m.retired = ∅
  superclass {id key : String} {c : Class} :
    m.classes.get? id = some c → c.superclass = some key → ∃ s, m.classes.get? key = some s
  type {id key : String} {p : Property} :
    m.properties.get? id = some p → p.links.type = some key → ∃ s, m.classes.get? key = some s

theorem Closed.linkedClass?_eq {m : Model} (h : m.Closed) (key : String) :
    m.linkedClass? key = m.classes.get? key := by
  have none : m.retired.get? key = none := by rw [h.retired]; rfl
  rw [linkedClass?, none, Option.or_none]

theorem resolve_closed (m : Model) : m.resolve.Closed := by
  -- a link is set only to a class that is there
  have there {key : String} (h : m.classes.contains key = true) :
      ∃ s, m.resolve.classes.get? key = some s := by
    rw [Table.contains_eq_isSome] at h
    obtain ⟨c, hc⟩ := Option.isSome_iff_exists.mp h
    rw [resolve_eq]
    exact ⟨_, by rw [Table.get?_map, hc]; rfl⟩
  refine ⟨by rw [resolve_eq], ?_, ?_⟩
  · intro id key c hc link
    rw [resolve_eq, Table.get?_map] at hc
    obtain ⟨c', -, rfl⟩ := Option.map_eq_some_iff.mp hc
    obtain ⟨-, kept⟩ := Option.filter_eq_some_iff.mp link
    exact there (Bool.and_eq_true_iff.mp kept).2
  · intro id key p hp link
    obtain ⟨p', -, rfl⟩ := get?_resolve.mp hp
    rw [links_resolved] at link
    obtain ⟨-, kept⟩ := Option.filter_eq_some_iff.mp link
    exact there (Bool.and_eq_true_iff.mp kept).2

end Model

end UmlKotlin.Uml
