import Mathlib.Data.List.Basic
import UmlKotlin.Proofs.Table
import UmlKotlin.Uml.Model
import UmlKotlin.Xmi.Vocabulary

/-!
What a model declares: its classes with their paths and members, its properties, its associations
with their ends, its packages and its types, without what is said about them elsewhere. Declarations
are made one after the other; what a class or an association then holds depends only on the facts
that come behind its own (`get?_class_ofFacts`, `get?_association_ofFacts`).
-/

set_option autoImplicit false

namespace UmlKotlin.Uml

/-- What is settled about a property as soon as its element begins: what the element says about it,
and its links. -/
structure Origin where
  id : String
  name : Option String
  associationId : Option String
  aggregation : Option String
  flags : List (Option String)
  links : Links
  deriving DecidableEq, Repr

def Property.origin (p : Property) : Origin where
  id := p.id
  name := p.name
  associationId := p.associationId
  aggregation := p.aggregation
  flags := Xmi.Vocabulary.propertyFlags.map fun flag =>
    p.metadata.get? (Xmi.Vocabulary.flagLead ++ flag)
  links := p.links

/-- A member of a class, known by its identifier in the model or, once replaced there, by its
origin. -/
inductive Held
  | listed (id : String)
  | detached (origin : Origin)
  deriving DecidableEq, Repr

/-- Tables of what is declared: classes with their paths and members, associations with their member
ends and owned ends, and so on. -/
structure Declarations where
  classes : Table String (List String × List Held) := ∅
  properties : Table String Origin := ∅
  associations : Table String (List String × List String) := ∅
  packages : Table String (List String) := ∅
  types : Table String String := ∅

def Member.held : Member → Held
  | .listed id => .listed id
  | .detached p => .detached p.origin

def Class.declaration (c : Class) : List String × List Held :=
  (c.packagePath, c.members.map Member.held)

def Association.declaration (a : Association) : List String × List String :=
  (a.memberEndIds, a.ownedEndIds)

def Model.declarations (m : Model) : Declarations where
  classes := m.classes.map fun _ c => c.declaration
  properties := m.properties.map fun _ p => p.origin
  associations := m.associations.map fun _ a => a.declaration
  packages := m.packages
  types := m.types

inductive Fact
  | packageAt (id : String) (path : List String)
  | classAt (id : String) (path : List String)
  | association (id : String)
  | typeNamed (id name : String)
  | member (owner : String) (origin : Origin)
  | ownedEnd (owner : String) (origin : Origin)
  | memberEnd (owner id : String)
  deriving DecidableEq, Repr

namespace Fact

def package? : Fact → Option (String × List String)
  | .packageAt id path => some (id, path)
  | _ => none

def class? : Fact → Option (String × List String)
  | .classAt id path => some (id, path)
  | _ => none

def association? : Fact → Option (String × Unit)
  | .association id => some (id, ())
  | _ => none

def type? : Fact → Option (String × String)
  | .typeNamed id name => some (id, name)
  | _ => none

def reading? : Fact → Option (String × Origin)
  | .member _ o => some (o.id, o)
  | .ownedEnd _ o => some (o.id, o)
  | _ => none

def memberOf? (id : String) : Fact → Option Origin
  | .member owner o => if owner = id then some o else none
  | _ => none

def memberEndOf? (id : String) : Fact → Option String
  | .memberEnd owner ref => if owner = id then some ref else none
  | _ => none

def ownedEndOf? (id : String) : Fact → Option String
  | .ownedEnd owner o => if owner = id then some o.id else none
  | _ => none

end Fact

def lastRead? (id : String) : List Fact → Option Origin
  | [] => none
  | f :: later => (lastRead? id later).or (f.reading?.bind fun e => if e.1 = id then some e.2 else none)

/-- The members that some facts give to a class. One whose identifier is read again is detached. -/
def membersOf (id : String) : List Fact → List Held
  | [] => []
  | f :: later =>
    match f.memberOf? id with
    | some o =>
      (if (lastRead? o.id later).isSome then .detached o else .listed o.id) :: membersOf id later
    | none => membersOf id later

/-- A member once another property is read under an identifier, where `old` was read before. -/
def Held.supersede (id : String) (old : Option Origin) : Held → Held
  | .listed id' => if id' = id then (old.map .detached).getD (.listed id') else .listed id'
  | .detached o => .detached o

namespace Declarations

def origin? (d : Declarations) : Held → Option Origin
  | .listed id => d.properties.get? id
  | .detached o => some o

/-- A property entered under its identifier; one that was there stays with its classes. -/
def read (d : Declarations) (o : Origin) : Declarations :=
  { d with
    classes := d.classes.map fun _ c =>
      (c.1, c.2.map (Held.supersede o.id (d.properties.get? o.id)))
    properties := d.properties.insert o.id o }

def record (d : Declarations) : Fact → Declarations
  | .packageAt id path => { d with packages := d.packages.insert id path }
  | .classAt id path => { d with classes := d.classes.insert id (path, []) }
  | .association id => { d with associations := d.associations.insert id ([], []) }
  | .typeNamed id name => { d with types := d.types.insert id name }
  | .member owner o =>
    { d.read o with
      classes := (d.read o).classes.modify owner fun c => (c.1, c.2 ++ [.listed o.id]) }
  | .ownedEnd owner o =>
    { d.read o with
      associations := d.associations.modify owner fun a => (a.1, a.2 ++ [o.id]) }
  | .memberEnd owner id =>
    { d with associations := d.associations.modify owner fun a => (a.1 ++ [id], a.2) }

def ofFacts (facts : List Fact) : Declarations := facts.foldl record {}

end Declarations

/-! ### Changes of a model -/

namespace Model

variable (m : Model) (id : String)

theorem declarations_modifyClass {f : Class → Class}
    (keeps : ∀ c, (f c).declaration = c.declaration) :
    (m.modifyClass id f).declarations = m.declarations := by
  simp only [modifyClass, declarations, Table.map_modify keeps]

theorem declarations_modifyProperty {f : Property → Property}
    (keeps : ∀ p, (f p).origin = p.origin) :
    (m.modifyProperty id f).declarations = m.declarations := by
  simp only [modifyProperty, declarations, Table.map_modify keeps]

theorem declarations_modifyAssociation {f : Association → Association}
    (keeps : ∀ a, (f a).declaration = a.declaration) :
    (m.modifyAssociation id f).declarations = m.declarations := by
  simp only [modifyAssociation, declarations, Table.map_modify keeps]

theorem declarations_putClass (c : Class) : (m.putClass c).declarations =
    { m.declarations with classes := m.declarations.classes.insert c.id c.declaration } := by
  simp only [putClass, declarations, Table.map_insert]

theorem declarations_putAssociation (a : Association) : (m.putAssociation a).declarations =
    { m.declarations with
      associations := m.declarations.associations.insert a.id a.declaration } := by
  simp only [putAssociation, declarations, Table.map_insert]

theorem declarations_modifyClass_comm {f : Class → Class}
    {g : List String × List Held → List String × List Held}
    (h : ∀ c, (f c).declaration = g c.declaration) : (m.modifyClass id f).declarations =
      { m.declarations with classes := m.declarations.classes.modify id g } := by
  simp only [modifyClass, declarations, Table.map_modify_comm Class.declaration h]

theorem declarations_modifyAssociation_comm {f : Association → Association}
    {g : List String × List String → List String × List String}
    (h : ∀ a, (f a).declaration = g a.declaration) : (m.modifyAssociation id f).declarations =
      { m.declarations with associations := m.declarations.associations.modify id g } := by
  simp only [modifyAssociation, declarations, Table.map_modify_comm Association.declaration h]

theorem held_release (p : Property) (member : Member) :
    (Member.release id p member).held = member.held.supersede id (some p.origin) := by
  cases member with
  | detached q => rfl
  | listed id' =>
    by_cases same : id' = id
    · simp [Member.release, Member.held, Held.supersede, same]
    · simp [Member.release, Member.held, Held.supersede, same]

theorem supersede_none : Held.supersede id none = fun held => held := by
  funext held
  cases held with
  | detached o => rfl
  | listed id' => exact ite_self _

theorem declarations_putProperty (p : Property) :
    (m.putProperty p).declarations = m.declarations.read p.origin := by
  have entered : (m.properties.insert p.id p).map (fun _ p => p.origin) =
      (m.properties.map fun _ p => p.origin).insert p.id p.origin := Table.map_insert _ _ _ _
  have found : (m.properties.map fun _ p => p.origin).get? p.origin.id =
      (m.properties.get? p.id).map (·.origin) := Table.get?_map _ _ _
  simp only [declarations, Declarations.read, found]
  cases before : m.properties.get? p.id with
  | none =>
    simp only [putProperty, release, before, entered, Option.map_none, supersede_none,
      List.map_id_fun', id_eq, Prod.eta, Table.map_id]
    rfl
  | some old =>
    simp only [putProperty, release, before, entered, Option.map_some, Table.map_map,
      Class.declaration, List.map_map, Function.comp_def, held_release]
    rfl

theorem origin?_held (member : Member) :
    m.declarations.origin? member.held = (m.property? member).map (·.origin) := by
  cases member with
  | listed id => exact Table.get?_map _ _ _
  | detached p => rfl

end Model

/-! ### Facts one after the other -/

theorem Fact.reading?_of_memberOf? {f : Fact} {id : String} {o : Origin}
    (h : f.memberOf? id = some o) : f.reading? = some (o.id, o) := by
  cases f with
  | member owner o' =>
    obtain ⟨-, same⟩ := Option.ite_none_right_eq_some.mp h
    rw [← Option.some.inj same]
    rfl
  | _ => cases h

theorem lastRead?_append (id : String) (before after : List Fact) :
    lastRead? id (before ++ after) = (lastRead? id after).or (lastRead? id before) := by
  induction before with
  | nil => simp [lastRead?]
  | cons f before ih => rw [List.cons_append, lastRead?, ih, lastRead?, Option.or_assoc]

theorem membersOf_append_other (id : String) {facts : List Fact} {f : Fact}
    (other : f.reading? = none) : membersOf id (facts ++ [f]) = membersOf id facts := by
  induction facts with
  | nil =>
    cases given : f.memberOf? id with
    | none => simp [membersOf, given]
    | some o => simp [Fact.reading?_of_memberOf? given] at other
  | cons g facts ih =>
    have unread (k : String) : lastRead? k (facts ++ [f]) = lastRead? k facts := by
      rw [lastRead?_append]
      simp [lastRead?, other]
    simp only [List.cons_append, membersOf, ih, unread]

theorem membersOf_append_reading (id : String) {facts : List Fact} {f : Fact} {k : String}
    {o : Origin} {old : Option Origin} (reads : f.reading? = some (k, o))
    (last : ∀ o', lastRead? k facts = some o' → old = some o') :
    membersOf id (facts ++ [f]) =
      (membersOf id facts).map (Held.supersede k old) ++ membersOf id [f] := by
  induction facts with
  | nil => rfl
  | cons g facts ih =>
    have ih := ih fun o' h => last o' (by simp [lastRead?, h])
    rw [List.cons_append, membersOf, membersOf]
    cases given : g.memberOf? id with
    | none => exact ih
    | some own =>
      have first := Fact.reading?_of_memberOf? given
      rw [ih]
      simp only [List.map_cons, List.cons_append, lastRead?_append]
      congr 1
      by_cases same : k = own.id
      · subst same
        cases again : lastRead? own.id facts with
        | some o' => simp [lastRead?, reads, Held.supersede]
        | none =>
          have known := last own (by simp [lastRead?, again, first])
          simp [lastRead?, reads, Held.supersede, known]
      · cases again : lastRead? own.id facts with
        | some o' => simp [Held.supersede]
        | none => simp [lastRead?, reads, Held.supersede, same, Ne.symm same]

theorem membersOf_append_of_none {id : String} {before : List Fact} (after : List Fact)
    (none : ∀ f ∈ before, f.memberOf? id = none) :
    membersOf id (before ++ after) = membersOf id after := by
  induction before with
  | nil => rfl
  | cons f before ih =>
    rw [List.cons_append, membersOf, none f List.mem_cons_self]
    exact ih fun g hg => none g (List.mem_cons_of_mem _ hg)

/-- Members stand for what was read, where identifiers stand for what was read last. -/
theorem origins_membersOf {d : Declarations} (id : String) {facts : List Fact}
    (last : ∀ k o, lastRead? k facts = some o → d.properties.get? k = some o) :
    (membersOf id facts).map d.origin? = (facts.filterMap (Fact.memberOf? id)).map some := by
  induction facts with
  | nil => rfl
  | cons f facts ih =>
    have ih := ih fun k o h => last k o (by simp [lastRead?, h])
    rw [membersOf]
    cases given : f.memberOf? id with
    | none => rw [List.filterMap_cons_none given, ← ih]
    | some own =>
      rw [List.filterMap_cons_some given, List.map_cons, List.map_cons, ih]
      congr 1
      cases again : lastRead? own.id facts with
      | some o => rfl
      | none =>
        refine last own.id own ?_
        simp [lastRead?, again, Fact.reading?_of_memberOf? given]

theorem isSome_lastRead?_iff {id : String} {facts : List Fact} :
    (lastRead? id facts).isSome ↔ id ∈ (facts.filterMap Fact.reading?).map (·.1) := by
  induction facts with
  | nil => simp [lastRead?]
  | cons f facts ih =>
    rw [lastRead?, Option.isSome_or, Bool.or_eq_true, ih]
    cases reads : f.reading? with
    | none => simp [reads]
    | some e =>
      by_cases same : e.1 = id
      · simp [reads, same]
      · simp [reads, same, Ne.symm same]

/-- What is detached was read, and read again under its identifier. -/
theorem read_again_of_detached {id : String} {facts : List Fact} {o : Origin}
    (h : .detached o ∈ membersOf id facts) : ∃ before f later, facts = before ++ f :: later ∧
      f.memberOf? id = some o ∧ (lastRead? o.id later).isSome := by
  induction facts with
  | nil => cases h
  | cons f facts ih =>
    rw [membersOf] at h
    have behind (h : .detached o ∈ membersOf id facts) : ∃ before g later,
        f :: facts = before ++ g :: later ∧ g.memberOf? id = some o ∧
          (lastRead? o.id later).isSome := by
      obtain ⟨before, g, later, split, given, again⟩ := ih h
      exact ⟨f :: before, g, later, by rw [split, List.cons_append], given, again⟩
    cases given : f.memberOf? id with
    | none =>
      rw [given] at h
      exact behind h
    | some own =>
      rw [given] at h
      rcases List.mem_cons.mp h with here | later
      · split at here
        · cases here
          exact ⟨[], f, facts, rfl, given, ‹_›⟩
        · cases here
      · exact behind later

theorem exists_last_class {id : String} {facts : List Fact}
    (there : id ∈ (facts.filterMap Fact.class?).map (·.1)) : ∃ before path later,
      facts = before ++ .classAt id path :: later ∧ ∀ f ∈ later, ∀ e ∈ f.class?, e.1 ≠ id := by
  induction facts with
  | nil => cases there
  | cons f facts ih =>
    by_cases again : id ∈ (facts.filterMap Fact.class?).map (·.1)
    · obtain ⟨before, path, later, split, last⟩ := ih again
      exact ⟨f :: before, path, later, by rw [split, List.cons_append], last⟩
    · have last : ∀ g ∈ facts, ∀ e ∈ g.class?, e.1 ≠ id := by
        rintro g member e entry rfl
        exact again (List.mem_map.mpr ⟨e, List.mem_filterMap.mpr ⟨g, member, entry⟩, rfl⟩)
      cases f with
      | classAt id' path =>
        rcases List.mem_cons.mp there with rfl | behind
        · exact ⟨[], path, facts, rfl, last⟩
        · exact absurd behind again
      | _ => exact absurd there again

namespace Declarations

variable {facts before after : List Fact} {id : String}

theorem ofFacts_append_singleton (facts : List Fact) (f : Fact) :
    ofFacts (facts ++ [f]) = (ofFacts facts).record f := by
  rw [ofFacts, List.foldl_append]
  rfl

theorem table_ofFacts {α : Type} (view : Declarations → Table String α)
    {pair? : Fact → Option (String × α)} (start : view {} = ∅)
    (step : ∀ d f, view (d.record f) = (view d).enter (pair? f)) (facts : List Fact) :
    view (ofFacts facts) = .ofList (facts.filterMap pair?) := by
  induction facts using List.reverseRecOn with
  | nil => exact start
  | append_singleton facts f ih =>
    have entered : (facts ++ [f]).filterMap pair? = facts.filterMap pair? ++ (pair? f).toList := by
      simp [List.filterMap_eq_flatMap_toList]
    rw [ofFacts_append_singleton, step, ih, entered, Table.ofList_append_toList]

theorem packages_ofFacts (facts : List Fact) :
    (ofFacts facts).packages = .ofList (facts.filterMap Fact.package?) :=
  table_ofFacts Declarations.packages rfl (fun d f => by cases f <;> rfl) facts

theorem types_ofFacts (facts : List Fact) :
    (ofFacts facts).types = .ofList (facts.filterMap Fact.type?) :=
  table_ofFacts Declarations.types rfl (fun d f => by cases f <;> rfl) facts

theorem properties_ofFacts (facts : List Fact) :
    (ofFacts facts).properties = .ofList (facts.filterMap Fact.reading?) :=
  table_ofFacts Declarations.properties rfl (fun d f => by cases f <;> rfl) facts

theorem paths_ofFacts (facts : List Fact) :
    (ofFacts facts).classes.map (fun _ c => c.1) = .ofList (facts.filterMap Fact.class?) := by
  refine table_ofFacts (fun d => d.classes.map fun _ c => c.1) rfl (fun d f => ?_) facts
  have read (o : Origin) :
      (d.read o).classes.map (fun _ c => c.1) = d.classes.map fun _ c => c.1 := by
    simp only [Declarations.read, Table.map_map]
  have adjusted (classes : Table String (List String × List Held)) (id : String) (o : Origin) :
      (classes.modify id fun c => (c.1, c.2 ++ [.listed o.id])).map (fun _ c => c.1) =
        classes.map fun _ c => c.1 :=
    Table.map_modify (by simp) classes id
  cases f with
  | classAt id path => exact Table.map_insert _ _ _ _
  | member owner o => exact (adjusted _ owner o).trans (read o)
  | ownedEnd owner o => exact read o
  | _ => rfl

theorem associations_ofFacts (facts : List Fact) :
    (ofFacts facts).associations.map (fun _ _ => ()) =
      .ofList (facts.filterMap Fact.association?) := by
  refine table_ofFacts (fun d => d.associations.map fun _ _ => ()) rfl (fun d f => ?_) facts
  have adjusted (id : String) (g : List String × List String → List String × List String) :
      (d.associations.modify id g).map (fun _ _ => ()) = d.associations.map fun _ _ => () :=
    Table.map_modify (by simp) d.associations id
  cases f with
  | association id => exact Table.map_insert _ _ _ _
  | ownedEnd owner o => exact adjusted owner _
  | memberEnd owner ref => exact adjusted owner _
  | _ => rfl

theorem get?_property_ofFacts (facts : List Fact) (id : String) :
    (ofFacts facts).properties.get? id = lastRead? id facts := by
  induction facts using List.reverseRecOn with
  | nil => rfl
  | append_singleton facts f ih =>
    have step : ((ofFacts facts).record f).properties =
        (ofFacts facts).properties.enter f.reading? := by cases f <;> rfl
    rw [ofFacts_append_singleton, step, lastRead?_append]
    cases reads : f.reading? with
    | none => simp [Table.enter, lastRead?, reads, ih]
    | some e =>
      by_cases same : id = e.1
      · simp [Table.enter, Table.get?_insert, lastRead?, reads, same]
      · simp [Table.enter, Table.get?_insert, lastRead?, reads, same, Ne.symm same, ih]

theorem get?_class_ofFacts {path : List String} (fresh : ∀ f ∈ after, ∀ e ∈ f.class?, e.1 ≠ id) :
    (ofFacts (before ++ .classAt id path :: after)).classes.get? id =
      some (path, membersOf id after) := by
  induction after using List.reverseRecOn with
  | nil =>
    rw [ofFacts_append_singleton]
    simp [record, Table.get?_insert, membersOf]
  | append_singleton after f ih =>
    have ih := ih fun f h => fresh f (by simp [h])
    have fresh := fresh f (by simp)
    have split : before ++ .classAt id path :: (after ++ [f]) =
        (before ++ .classAt id path :: after) ++ [f] := by simp
    rw [split, ofFacts_append_singleton]
    -- the member that was read before under the same identifier may stand behind the class
    have read {k : String} {o : Origin} (reads : f.reading? = some (k, o)) (same : k = o.id) :
        ((ofFacts (before ++ .classAt id path :: after)).read o).classes.get? id =
          some (path, (membersOf id after).map (Held.supersede k
            (lastRead? k (before ++ .classAt id path :: after)))) := by
      simp only [Declarations.read, Table.get?_map, ih, ← same, Option.map_some,
        get?_property_ofFacts]
    have last (k : String) (o : Origin) (h : lastRead? k after = some o) :
        lastRead? k (before ++ .classAt id path :: after) = some o := by
      rw [lastRead?_append]
      simp [lastRead?, h]
    cases f with
    | classAt id' path' =>
      have other : id ≠ id' := (fresh (id', path') rfl).symm
      rw [membersOf_append_other id rfl, ← ih]
      simp [record, Table.get?_insert, other]
    | member owner o =>
      rw [membersOf_append_reading id rfl (last o.id), record, Table.get?_modify, read rfl rfl]
      by_cases own : id = owner
      · simp [own, membersOf, Fact.memberOf?, lastRead?]
      · simp [own, Ne.symm own, membersOf, Fact.memberOf?]
    | ownedEnd owner o =>
      rw [membersOf_append_reading id rfl (last o.id)]
      simp [record, read, membersOf, Fact.memberOf?, Fact.reading?]
    | _ =>
      rw [membersOf_append_other id rfl]
      exact ih

theorem get?_association_record {f : Fact} (d : Declarations)
    (fresh : ∀ e ∈ f.association?, e.1 ≠ id) :
    (d.record f).associations.get? id = (d.associations.get? id).map fun a =>
      (a.1 ++ (f.memberEndOf? id).toList, a.2 ++ (f.ownedEndOf? id).toList) := by
  have kept : d.associations.get? id = (d.associations.get? id).map fun a => (a.1 ++ [], a.2 ++ []) := by
    simp
  cases f with
  | association id' =>
    have other : id ≠ id' := (fresh (id', ()) rfl).symm
    rw [record, Table.get?_insert, if_neg other]
    exact kept
  | ownedEnd owner o =>
    rw [record, Table.get?_modify]
    by_cases same : id = owner
    · simp [same, Fact.memberEndOf?, Fact.ownedEndOf?]
    · simp [same, Ne.symm same, Fact.memberEndOf?, Fact.ownedEndOf?]
  | memberEnd owner ref =>
    rw [record, Table.get?_modify]
    by_cases same : id = owner
    · simp [same, Fact.memberEndOf?, Fact.ownedEndOf?]
    · simp [same, Ne.symm same, Fact.memberEndOf?, Fact.ownedEndOf?]
  | _ => exact kept

theorem get?_association_ofFacts (fresh : ∀ f ∈ after, ∀ e ∈ f.association?, e.1 ≠ id) :
    (ofFacts (before ++ .association id :: after)).associations.get? id =
      some (after.filterMap (Fact.memberEndOf? id), after.filterMap (Fact.ownedEndOf? id)) := by
  induction after using List.reverseRecOn with
  | nil =>
    rw [ofFacts_append_singleton]
    simp [record, Table.get?_insert]
  | append_singleton after f ih =>
    have split : before ++ .association id :: (after ++ [f]) =
        (before ++ .association id :: after) ++ [f] := by simp
    rw [split, ofFacts_append_singleton, get?_association_record _ (fresh f (by simp)),
      ih fun f h => fresh f (by simp [h])]
    simp [List.filterMap_eq_flatMap_toList]

end Declarations

namespace Model

variable {m : Model} {facts : List Fact}

theorem keys_classes (h : m.declarations = .ofFacts facts) :
    m.classes.keys = ((facts.filterMap Fact.class?).map (·.1)).eraseDups := by
  have paths : (m.declarations.classes.map fun _ c => c.1) = .ofList (facts.filterMap Fact.class?) := by
    rw [h, Declarations.paths_ofFacts]
  have keys := congrArg Table.keys paths
  rwa [Table.keys_map, declarations, Table.keys_map, Table.keys_ofList] at keys

theorem keys_associations (h : m.declarations = .ofFacts facts) :
    m.associations.keys = ((facts.filterMap Fact.association?).map (·.1)).eraseDups := by
  have ids : (m.declarations.associations.map fun _ _ => ()) =
      .ofList (facts.filterMap Fact.association?) := by
    rw [h, Declarations.associations_ofFacts]
  have keys := congrArg Table.keys ids
  rwa [Table.keys_map, declarations, Table.keys_map, Table.keys_ofList] at keys

end Model

end UmlKotlin.Uml
