import UmlKotlin.Profile.Bundled
import UmlKotlin.Proofs.Outcome
import UmlKotlin.Proofs.Table

/-!
Settings over settings. Settings of the right shape are merged without fail, and what a profile
answers is what the last settings say that say anything about it. Main statement: this holds of any
number of settings merged in turn; nothing is taken away by further settings, settings merged twice
in a row count once, and settings that have nothing in common can change places
(`mergeAll_overrides`).
-/

set_option autoImplicit false

namespace UmlKotlin.Profile

open Data (Scalar Value)
open Table (lastValue? insertAll)

/-! ### Settings of the right shape -/

/-- What settings of the right shape say. The entries of a record are in their order. -/
structure Settings where
  name : Option Value
  fileExtension : Option Value
  defaultType : Option Value
  primitives : List (String × Value)
  collections : List (String × Collection)
  reservedWords : List String

def primitive? : Scalar × Value → Option (String × Value)
  | (.text name, type) => some (name, type)
  | _ => none

/-- An entry with a text as its key and a record as its value; what the record leaves out has a
fixed default. -/
def collectionOf? : Scalar × Value → Option (String × Collection)
  | (.text kind, .record entries) => some (kind, {
      type := ((Value.record entries).field? "type").getD (.text "List")
      empty := ((Value.record entries).field? "empty").getD (.text "emptyList()") })
  | _ => none

def entries? (v : Value) (name : String) : Option (List (Scalar × Value)) :=
  match entriesOf v name with
  | .ok entries => some entries
  | .error _ => none

def words? (v : Value) : Option (List Value) :=
  match v.field? "reserved_words" with
  | some words => words.members?
  | none => some []

/-- The settings that a value holds, if it has the right shape: a record with a record of primitive
types under texts, a record of records under texts as the kinds of collections, and a list of texts
as the reserved words, each of them optional. -/
def Settings.ofValue? (v : Value) : Option Settings :=
  match v with
  | .record _ => do
    let primitives ← (← entries? v "primitives").mapM primitive?
    let collections ← (← entries? v "collections").mapM collectionOf?
    let reservedWords ← (← words? v).mapM Value.text?
    some {
      name := v.field? "name"
      fileExtension := v.field? "file_extension"
      defaultType := v.field? "default_type"
      primitives := primitives
      collections := collections
      reservedWords := reservedWords }
  | _ => none

def Settings.collection? (s : Settings) (kind : String) : Option Collection :=
  lastValue? s.collections kind

def override (p : Profile) (s : Settings) : Profile where
  name := s.name.getD p.name
  fileExtension := s.fileExtension.getD p.fileExtension
  defaultType := s.defaultType.getD p.defaultType
  primitives := p.primitives.insertAll (s.primitives.map fun e => (normalize e.1, e.2))
  collections := p.collections.insertAll (s.collections.map fun e => (.text e.1, e.2))
  reservedWords := addWords p.reservedWords (s.reservedWords.map .text)

variable {p q : Profile} {s t : Settings} {v : Value}

/-! ### Merging is overriding -/

theorem addPrimitive_eq (types : Table String Value) (e : Scalar × Value) (e' : String × Value)
    (h : primitive? e = some e') :
    addPrimitive types e = .ok (types.insert (normalize e'.1) e'.2) := by
  unfold primitive? at h
  split at h
  · cases h
    rfl
  · cases h

theorem addCollection_eq (kinds : Table Scalar Collection) (e : Scalar × Value)
    (e' : String × Collection) (h : collectionOf? e = some e') :
    addCollection kinds e = .ok (kinds.insert (.text e'.1) e'.2) := by
  unfold collectionOf? at h
  split at h
  · rename_i kind entries
    cases h
    -- a kind that is there already is the same text
    have kept : (kinds.keys.find? (Scalar.text kind).same).getD (.text kind) = .text kind := by
      cases found : kinds.keys.find? (Scalar.text kind).same with
      | none => rfl
      | some known => exact Scalar.text_same.mp (List.find?_some found)
    simp only [addCollection, kept]
  · cases h

theorem wordsOf_eq {words : Value} {members : List Value} {texts : List String}
    (listed : words.members? = some members) (read : members.mapM Value.text? = some texts) :
    wordsOf words = .ok (texts.map .text) := by
  rw [wordsOf, listed]
  refine mapM_eq_map ?_ read
  intro member text h
  unfold Value.text? at h
  split at h
  · cases h
    rfl
  · cases h

theorem reservedWords_cases {members : List Value} {texts : List String}
    (listed : words? v = some members) (read : members.mapM Value.text? = some texts) :
    (∃ words, v.field? "reserved_words" = some words ∧ wordsOf words = .ok (texts.map .text)) ∨
      v.field? "reserved_words" = none ∧ texts = [] := by
  unfold words? at listed
  cases given : v.field? "reserved_words" with
  | some words =>
    rw [given] at listed
    exact .inl ⟨words, rfl, wordsOf_eq listed read⟩
  | none =>
    rw [given] at listed
    cases listed
    cases read
    exact .inr ⟨rfl, rfl⟩

theorem entriesOf_eq {name : String} {entries : List (Scalar × Value)}
    (h : entries? v name = some entries) : entriesOf v name = .ok entries := by
  unfold entries? at h
  split at h
  · rename_i outcome
    cases h
    exact outcome
  · cases h

theorem merge_eq (h : Settings.ofValue? v = some s) (p : Profile) :
    p.merge v = .ok (p.override s) := by
  unfold Settings.ofValue? at h
  split at h
  · rename_i fields
    obtain ⟨primitiveEntries, hpe, h⟩ := Option.bind_eq_some_iff.mp h
    obtain ⟨primitives, hp, h⟩ := Option.bind_eq_some_iff.mp h
    obtain ⟨collectionEntries, hce, h⟩ := Option.bind_eq_some_iff.mp h
    obtain ⟨collections, hc, h⟩ := Option.bind_eq_some_iff.mp h
    obtain ⟨members, hm, h⟩ := Option.bind_eq_some_iff.mp h
    obtain ⟨texts, ht, h⟩ := Option.bind_eq_some_iff.mp h
    cases h
    have types : primitiveEntries.foldlM addPrimitive p.primitives =
        .ok (p.primitives.insertAll (primitives.map fun e => (normalize e.1, e.2))) := by
      rw [insertAll, List.foldl_map]
      exact foldlM_eq_foldl addPrimitive_eq hp p.primitives
    have kinds : collectionEntries.foldlM addCollection p.collections =
        .ok (p.collections.insertAll (collections.map fun e => (.text e.1, e.2))) := by
      rw [insertAll, List.foldl_map]
      exact foldlM_eq_foldl addCollection_eq hc p.collections
    refine bind_eq_ok_iff.mpr ⟨_, entriesOf_eq hpe, bind_eq_ok_iff.mpr ⟨_, types,
      bind_eq_ok_iff.mpr ⟨_, entriesOf_eq hce, bind_eq_ok_iff.mpr ⟨_, kinds, ?_⟩⟩⟩⟩
    dsimp only
    rcases reservedWords_cases hm ht with ⟨words, given, read⟩ | ⟨missing, rfl⟩
    · rw [given]
      exact bind_eq_ok_iff.mpr ⟨_, read, rfl⟩
    · rw [missing]
      rfl
  · cases h

theorem mergeAll_eq {values : List Value} {settings : List Settings}
    (typed : values.mapM Settings.ofValue? = some settings) (p : Profile) :
    p.mergeAll values = .ok (settings.foldl override p) :=
  foldlM_eq_foldl (fun p _ _ typed => merge_eq typed p) typed p

/-! ### Words that are reserved -/

theorem any_addWords (known words : List Scalar) (w : Scalar) :
    (addWords known words).any w.same = (known.any w.same || words.any w.same) := by
  induction words generalizing known with
  | nil => simp [addWords]
  | cons word words ih =>
    have here : (if known.any word.same then known else known ++ [word]).any w.same =
        (known.any w.same || w.same word) := by
      by_cases there : known.any word.same = true
      · rw [if_pos there]
        by_cases same : w.same word = true
        · -- the word that is known already is the same
          obtain ⟨k, member, same'⟩ := List.any_eq_true.mp there
          have found : known.any w.same = true :=
            List.any_eq_true.mpr ⟨k, member, Scalar.same_trans same same'⟩
          rw [found, Bool.true_or]
        · simp [same]
      · rw [if_neg there]
        simp
    have step : addWords known (word :: words) =
        addWords (if known.any word.same then known else known ++ [word]) words := rfl
    rw [step, ih, here, List.any_cons, Bool.or_assoc]

theorem addWords_of_known {known words : List Scalar}
    (h : ∀ word ∈ words, known.any word.same = true) : addWords known words = known := by
  induction words with
  | nil => rfl
  | cons word words ih =>
    have step : addWords known (word :: words) =
        addWords (if known.any word.same then known else known ++ [word]) words := rfl
    rw [step, if_pos (h word List.mem_cons_self)]
    exact ih fun word' member => h word' (List.mem_cons_of_mem _ member)

theorem isReserved_override (p : Profile) (s : Settings) (w : Scalar) :
    (p.override s).isReserved w = true ↔
      p.isReserved w = true ∨ ∃ word ∈ s.reservedWords, w = .text word := by
  have words : (s.reservedWords.map Scalar.text).any w.same = true ↔
      ∃ word ∈ s.reservedWords, w = .text word := by
    simp only [List.any_eq_true, List.mem_map, exists_exists_and_eq_and, Scalar.same_text]
  rw [← words, ← Bool.or_eq_true]
  exact Eq.congr_left (any_addWords _ _ _)

/-! ### Settings in turn -/

/-- The value of the last entry, over the settings in order and the entries within each, whose name
is a spelling of `raw`. -/
def lastPrimitive? (settings : List Settings) (raw : String) : Option Value :=
  (((settings.flatMap (·.primitives)).filter fun e => normalize e.1 = normalize raw).getLast?).map
    Prod.snd

/-- A profile `q` that answers as the settings over the profile `p` have it. -/
structure Overrides (settings : List Settings) (p q : Profile) : Prop where
  name : q.name = ((settings.filterMap (·.name)).getLast?).getD p.name
  fileExtension :
    q.fileExtension = ((settings.filterMap (·.fileExtension)).getLast?).getD p.fileExtension
  defaultType : q.defaultType = ((settings.filterMap (·.defaultType)).getLast?).getD p.defaultType
  unnamed : q.primitive none = q.defaultType
  primitive (raw : String) : q.primitive (some raw) =
    ((lastPrimitive? settings raw).or (p.primitives.get? (normalize raw))).getD q.defaultType
  collection (kind : String) : q.collections.get? (.text kind) =
    ((settings.filterMap (·.collection? kind)).getLast?).or (p.collections.get? (.text kind))
  reserved (w : Scalar) : q.isReserved w = true ↔
    p.isReserved w = true ∨ ∃ s ∈ settings, ∃ word ∈ s.reservedWords, w = .text word

/-- An answer that settings decide where they say anything about it is decided by the last settings
that do. -/
theorem foldl_override {α : Type} (answer : Profile → Option α) (given : Settings → Option α)
    (step : ∀ p s, answer (p.override s) = (given s).or (answer p)) (settings : List Settings)
    (p : Profile) :
    answer (settings.foldl override p) = ((settings.filterMap given).getLast?).or (answer p) := by
  induction settings using List.reverseRecOn with
  | nil => rfl
  | append_singleton settings s ih =>
    have last : ([s].filterMap given).getLast? = given s := by
      cases said : given s <;> simp [said]
    rw [List.foldl_append, List.foldl_cons, List.foldl_nil, step, ih, List.filterMap_append,
      List.getLast?_append, last, Option.or_assoc]

theorem scalar_foldl_override (field : Profile → Value) (given : Settings → Option Value)
    (step : ∀ p s, field (p.override s) = (given s).getD (field p)) (settings : List Settings)
    (p : Profile) :
    field (settings.foldl override p) =
      ((settings.filterMap given).getLast?).getD (field p) := by
  have last := foldl_override (fun p => some (field p)) given (fun p s => by
    rw [step]
    cases given s <;> rfl) settings p
  rw [Option.or_some] at last
  exact Option.some.inj last

theorem lastPrimitive?_eq (settings : List Settings) (raw : String) : lastPrimitive? settings raw =
    (settings.filterMap fun s =>
      lastValue? (s.primitives.map fun e => (normalize e.1, e.2)) (normalize raw)).getLast? := by
  rw [← Table.lastValue?_flatMap, ← List.map_flatMap, Table.lastValue?_map, lastPrimitive?]

theorem primitives_foldl_override (settings : List Settings) (p : Profile) (raw : String) :
    (settings.foldl override p).primitives.get? (normalize raw) =
      (lastPrimitive? settings raw).or (p.primitives.get? (normalize raw)) := by
  have step (p : Profile) (s : Settings) : (p.override s).primitives.get? (normalize raw) =
      (lastValue? (s.primitives.map fun e => (normalize e.1, e.2)) (normalize raw)).or
        (p.primitives.get? (normalize raw)) := by
    rw [override, Table.get?_insertAll]
  rw [lastPrimitive?_eq]
  exact foldl_override (fun p => p.primitives.get? (normalize raw)) _ step settings p

theorem collections_foldl_override (settings : List Settings) (p : Profile) (kind : String) :
    (settings.foldl override p).collections.get? (.text kind) =
      ((settings.filterMap (·.collection? kind)).getLast?).or
        (p.collections.get? (.text kind)) := by
  have step (p : Profile) (s : Settings) : (p.override s).collections.get? (.text kind) =
      (s.collection? kind).or (p.collections.get? (.text kind)) := by
    have entered := Table.get?_insertAll p.collections
      (s.collections.map fun e => (.text e.1, e.2)) (.text kind)
    rw [Table.lastValue?_map] at entered
    simp only [Scalar.text.injEq] at entered
    exact entered
  exact foldl_override (fun p => p.collections.get? (.text kind)) _ step settings p

theorem isReserved_foldl_override (settings : List Settings) (p : Profile) (w : Scalar) :
    (settings.foldl override p).isReserved w = true ↔
      p.isReserved w = true ∨ ∃ s ∈ settings, ∃ word ∈ s.reservedWords, w = .text word := by
  induction settings generalizing p with
  | nil => simp
  | cons s settings ih =>
    rw [List.foldl_cons, ih, isReserved_override, List.exists_mem_cons_iff, or_assoc]

theorem overrides_foldl (settings : List Settings) (p : Profile) :
    Overrides settings p (settings.foldl override p) where
  name := scalar_foldl_override (·.name) (·.name) (fun _ _ => rfl) settings p
  fileExtension :=
    scalar_foldl_override (·.fileExtension) (·.fileExtension) (fun _ _ => rfl) settings p
  defaultType := scalar_foldl_override (·.defaultType) (·.defaultType) (fun _ _ => rfl) settings p
  unnamed := rfl
  primitive raw := by rw [primitive, primitives_foldl_override]
  collection := collections_foldl_override settings p
  reserved := isReserved_foldl_override settings p

/-! ### Further settings -/

/-- Whatever `p` has a type, a collection or a reservation for, `q` has one for. -/
structure Keeps (p q : Profile) : Prop where
  primitives : ∀ key ∈ p.primitives.keys, key ∈ q.primitives.keys
  collections : ∀ kind ∈ p.collections.keys, kind ∈ q.collections.keys
  reserved : ∀ w, p.isReserved w = true → q.isReserved w = true

theorem keeps_override (p : Profile) (s : Settings) : p.Keeps (p.override s) where
  primitives _ member := Table.mem_keys_insertAll.mpr (.inl member)
  collections _ member := Table.mem_keys_insertAll.mpr (.inl member)
  reserved w here := (isReserved_override p s w).mpr (.inl here)

theorem override_again (p : Profile) (s : Settings) :
    (p.override s).override s = p.override s := by
  have scalar (given : Option Value) (v : Value) : given.getD (given.getD v) = given.getD v := by
    cases given <;> rfl
  have known : ∀ word ∈ s.reservedWords.map Scalar.text,
      (addWords p.reservedWords (s.reservedWords.map .text)).any word.same = true := by
    intro word member
    have self : (s.reservedWords.map Scalar.text).any word.same = true := by
      obtain ⟨text, -, rfl⟩ := List.mem_map.mp member
      exact List.any_eq_true.mpr ⟨_, member, Scalar.text_same.mpr rfl⟩
    rw [any_addWords, self, Bool.or_true]
  simp only [override, scalar, Table.insertAll_again, addWords_of_known known]

/-- Settings that have nothing in common: no scalar that both give, no name of a primitive type in
two spellings, no kind of collection. -/
structure Settings.Apart (s t : Settings) : Prop where
  name : s.name = none ∨ t.name = none
  fileExtension : s.fileExtension = none ∨ t.fileExtension = none
  defaultType : s.defaultType = none ∨ t.defaultType = none
  primitives : ∀ e ∈ s.primitives, ∀ e' ∈ t.primitives, normalize e.1 ≠ normalize e'.1
  collections : ∀ e ∈ s.collections, ∀ e' ∈ t.collections, e.1 ≠ e'.1

structure SameAnswers (p q : Profile) : Prop where
  name : p.name = q.name
  fileExtension : p.fileExtension = q.fileExtension
  defaultType : p.defaultType = q.defaultType
  primitive (raw : Option String) : p.primitive raw = q.primitive raw
  collection (kind : String) : p.collections.get? (.text kind) = q.collections.get? (.text kind)
  isReserved (w : Scalar) : p.isReserved w = q.isReserved w

theorem filterMap_swap {α β : Type} {f : α → Option β} {a b : α} (h : f a = none ∨ f b = none)
    (before after : List α) :
    (before ++ a :: b :: after).filterMap f = (before ++ b :: a :: after).filterMap f := by
  rcases h with first | second
  · simp [List.filterMap_cons, first]
  · simp [List.filterMap_cons, second]

theorem sameAnswers_swap (apart : s.Apart t) (before after : List Settings) (p : Profile) :
    SameAnswers ((before ++ s :: t :: after).foldl override p)
      ((before ++ t :: s :: after).foldl override p) := by
  have here := overrides_foldl (before ++ s :: t :: after) p
  have there := overrides_foldl (before ++ t :: s :: after) p
  have default := here.defaultType
  rw [filterMap_swap apart.defaultType, ← there.defaultType] at default
  have types (raw : String) : lastPrimitive? (before ++ s :: t :: after) raw =
      lastPrimitive? (before ++ t :: s :: after) raw := by
    rw [lastPrimitive?_eq, lastPrimitive?_eq]
    congr 1
    apply filterMap_swap
    apply Table.lastValue?_of_apart
    intro e member e' member'
    obtain ⟨d, given, rfl⟩ := List.mem_map.mp member
    obtain ⟨d', given', rfl⟩ := List.mem_map.mp member'
    exact apart.primitives d given d' given'
  refine ⟨?_, ?_, default, ?_, ?_, ?_⟩
  · rw [here.name, there.name, filterMap_swap apart.name]
  · rw [here.fileExtension, there.fileExtension, filterMap_swap apart.fileExtension]
  · intro raw
    cases raw with
    | none => rw [here.unnamed, there.unnamed, default]
    | some raw => rw [here.primitive, there.primitive, default, types]
  · intro kind
    have none := Table.lastValue?_of_apart apart.collections kind
    rw [here.collection, there.collection, filterMap_swap none]
  · intro w
    rw [Bool.eq_iff_iff, here.reserved, there.reserved]
    simp only [List.mem_append, List.mem_cons, or_left_comm]

/-- Settings of the right shape, merged in turn. Each answer is what the last settings say that say
anything about it; further settings take nothing away; settings twice in a row count once; and
settings that have nothing in common can change places. -/
theorem mergeAll_overrides (p : Profile) {values : List Value} {settings : List Settings}
    (typed : values.mapM Settings.ofValue? = some settings) :
    (∃ q, p.mergeAll values = .ok q ∧ Overrides settings p q) ∧
    (∀ v s, Settings.ofValue? v = some s →
      ∃ q q', p.mergeAll values = .ok q ∧ p.mergeAll (values ++ [v]) = .ok q' ∧ q.Keeps q') ∧
    (∀ before v after, values = before ++ v :: after →
      p.mergeAll (before ++ v :: v :: after) = p.mergeAll values) ∧
    (∀ before v w after s t, values = before ++ v :: w :: after →
      Settings.ofValue? v = some s → Settings.ofValue? w = some t → s.Apart t →
      ∃ q q', p.mergeAll values = .ok q ∧ p.mergeAll (before ++ w :: v :: after) = .ok q' ∧
        SameAnswers q q') := by
  refine ⟨?_, ?_, ?_, ?_⟩
  · exact ⟨_, mergeAll_eq typed p, overrides_foldl settings p⟩
  · intro v s further
    have more : (values ++ [v]).mapM Settings.ofValue? = some (settings ++ [s]) :=
      mapM_append_eq_some.mpr ⟨settings, [s], typed,
        mapM_cons_eq_some.mpr ⟨s, [], further, rfl, rfl⟩, rfl⟩
    refine ⟨_, _, mergeAll_eq typed p, mergeAll_eq more p, ?_⟩
    rw [List.foldl_append]
    exact keeps_override _ s
  · rintro before v after rfl
    obtain ⟨first, rest, hf, hr, rfl⟩ := mapM_append_eq_some.mp typed
    obtain ⟨s, last, hs, hl, rfl⟩ := mapM_cons_eq_some.mp hr
    have again : (before ++ v :: v :: after).mapM Settings.ofValue? =
        some (first ++ s :: s :: last) :=
      mapM_append_eq_some.mpr ⟨first, s :: s :: last, hf,
        mapM_cons_eq_some.mpr ⟨s, s :: last, hs, hr, rfl⟩, rfl⟩
    rw [mergeAll_eq again p, mergeAll_eq typed p]
    simp only [List.foldl_append, List.foldl_cons, override_again]
  · rintro before v w after s t rfl hs ht apart
    obtain ⟨first, rest, hf, hr, rfl⟩ := mapM_append_eq_some.mp typed
    obtain ⟨s', rest, hs', hr', rfl⟩ := mapM_cons_eq_some.mp hr
    obtain ⟨t', last, ht', hl, rfl⟩ := mapM_cons_eq_some.mp hr'
    cases hs.symm.trans hs'
    cases ht.symm.trans ht'
    have swapped : (before ++ w :: v :: after).mapM Settings.ofValue? =
        some (first ++ t :: s :: last) :=
      mapM_append_eq_some.mpr ⟨first, t :: s :: last, hf,
        mapM_cons_eq_some.mpr ⟨t, s :: last, ht,
          mapM_cons_eq_some.mpr ⟨s, last, hs, hl, rfl⟩, rfl⟩, rfl⟩
    exact ⟨_, _, mergeAll_eq typed p, mergeAll_eq swapped p, sameAnswers_swap apart first last p⟩

private def numbers : Value := .record [
  (.text "default_type", .text "Any"),
  (.text "primitives", .record [
    (.text " Integer", .text "Int"), (.text "INTEGER ", .text "Long")])]

private def mutables : Value := .record [
  (.text "collections", .record [(.text "unique", .record [(.text "type", .text "MutableSet")])]),
  (.text "reserved_words", .list [.text "value"])]

private def numbersSettings : Settings where
  name := none
  fileExtension := none
  defaultType := some (.text "Any")
  primitives := [(" Integer", .text "Int"), ("INTEGER ", .text "Long")]
  collections := []
  reservedWords := []

private def mutablesSettings : Settings where
  name := none
  fileExtension := none
  defaultType := none
  primitives := []
  collections := [("unique", ⟨.text "MutableSet", .text "emptyList()"⟩)]
  reservedWords := ["value"]

theorem mergeAll_overrides_spellings :
    [numbers, mutables].mapM Settings.ofValue? = some [numbersSettings, mutablesSettings] ∧
    numbersSettings.Apart mutablesSettings ∧
    ∃ q q', bundled.mergeAll [numbers, mutables] = .ok q ∧
      bundled.mergeAll [mutables, numbers] = .ok q' ∧ SameAnswers q q' ∧
      q'.primitive (some "integer") = .text "Long" ∧
      q'.primitive (some "unknown") = .text "Any" ∧
      q'.collection? false = some ⟨.text "MutableSet", .text "emptyList()"⟩ ∧
      q'.isReserved (.text "value") = true ∧ q'.isReserved (.text "fun") = true := by
  have typed : [numbers, mutables].mapM Settings.ofValue? =
      some [numbersSettings, mutablesSettings] := rfl
  have apart : numbersSettings.Apart mutablesSettings :=
    ⟨.inl rfl, .inl rfl, .inr rfl, by simp [mutablesSettings], by simp [numbersSettings]⟩
  obtain ⟨⟨q, merged, overrides⟩, -, -, swap⟩ := mergeAll_overrides bundled typed
  obtain ⟨q₁, q', first, second, same⟩ := swap [] numbers mutables [] _ _ rfl rfl rfl apart
  cases merged.symm.trans first
  refine ⟨typed, apart, q, q', merged, second, same, ?_, ?_, ?_, ?_, ?_⟩
  · rw [← same.primitive, overrides.primitive]
    rfl
  · rw [← same.primitive, overrides.primitive, overrides.defaultType]
    rfl
  · refine (same.collection "unique").symm.trans ?_
    rw [overrides.collection]
    rfl
  · rw [← same.isReserved, overrides.reserved]
    exact .inr ⟨mutablesSettings, by simp, "value", by simp [mutablesSettings], rfl⟩
  · rw [← same.isReserved, overrides.reserved]
    exact .inl (by decide)

end UmlKotlin.Profile
