import UmlKotlin.Proofs.Kotlin.Letter
import UmlKotlin.Profile.Bundled

/-!
The shapes of identifiers, as regular languages. Every text gives a class name, a property name and
a segment of a package name of the right shape. Main statement: these names are never reserved words
unless a profile reserves words that end as the suffixes do, and a segment is its own segment
(`names_well_formed`).
-/

set_option autoImplicit false

namespace UmlKotlin.Kotlin

open scoped Computability

/-! ### Languages -/

/-- Names of classes: a letter in upper case, then letters and digits. -/
def classNames : Language Char := one Char.isUpper * (one Char.isAlphanum)∗

/-- Names of properties without quotes: a letter in lower case, or an underscore and a digit, then
letters and digits. -/
def propertyNames : Language Char :=
  (one Char.isLower + one (· == '_') * one Char.isDigit) * (one Char.isAlphanum)∗

/-- Segments of package names: words of small letters and digits with single underscores between
them, of which the first begins with a letter. -/
def packageSegments : Language Char :=
  one Char.isLower * (one isSmall)∗ * (one (· == '_') * one isSmall * (one isSmall)∗)∗

theorem mem_classNames {cs : List Char} : cs ∈ classNames ↔
    ∃ c rest, cs = c :: rest ∧ c.isUpper = true ∧ ∀ d ∈ rest, d.isAlphanum = true := by
  simp only [classNames, mem_one_mul, mem_kstar_one]

theorem mem_propertyNames {cs : List Char} : cs ∈ propertyNames ↔ ∃ c rest,
    (∀ d ∈ rest, d.isAlphanum = true) ∧
      (cs = c :: rest ∧ c.isLower = true ∨ cs = '_' :: c :: rest ∧ c.isDigit = true) := by
  rw [propertyNames, add_mul, mul_assoc, Language.mem_add]
  simp only [mem_one_mul, mem_kstar_one, beq_iff_eq]
  constructor
  · rintro (⟨c, rest, rfl, lower, tail⟩ | ⟨_, _, rfl, rfl, c, rest, rfl, digit, tail⟩)
    · exact ⟨c, rest, tail, .inl ⟨rfl, lower⟩⟩
    · exact ⟨c, rest, tail, .inr ⟨rfl, digit⟩⟩
  · rintro ⟨c, rest, tail, ⟨rfl, lower⟩ | ⟨rfl, digit⟩⟩
    · exact .inl ⟨c, rest, rfl, lower, tail⟩
    · exact .inr ⟨'_', _, rfl, rfl, c, rest, rfl, digit, tail⟩

theorem mem_packageSegments {cs : List Char} : cs ∈ packageSegments ↔ ∃ c rest parts,
    cs = ['_'].intercalate ((c :: rest) :: parts) ∧ c.isLower = true ∧
      (∀ d ∈ rest, isSmall d = true) ∧ ∀ part ∈ parts, IsPart part := by
  rw [packageSegments, mul_assoc, mem_one_mul]
  constructor
  · rintro ⟨c, _, rfl, lower, rest, small, _, ⟨joined, rfl, each⟩, rfl⟩
    have behind : ∀ y ∈ joined, ∃ part, y = '_' :: part ∧ IsPart part := by
      intro y member
      have shape := each y member
      rw [mul_assoc, mem_one_mul] at shape
      obtain ⟨f, part, rfl, filler, tail⟩ := shape
      exact ⟨part, by rw [beq_iff_eq.mp filler], isPart_iff.mpr tail⟩
    have cut : (joined.map List.tail).map ('_' :: ·) = joined := by
      rw [List.map_map]
      refine (List.map_congr_left fun y member => ?_).trans (List.map_id joined)
      obtain ⟨part, rfl, -⟩ := behind y member
      rfl
    refine ⟨c, rest, joined.map List.tail, ?_, lower, mem_kstar_one.mp small, ?_⟩
    · rw [intercalate_cons, cut]
      rfl
    · intro part member
      obtain ⟨y, within, rfl⟩ := List.mem_map.mp member
      obtain ⟨part, rfl, plain⟩ := behind y within
      exact plain
  · rintro ⟨c, rest, parts, rfl, lower, small, each⟩
    refine ⟨c, rest ++ (parts.map ('_' :: ·)).flatten, by rw [intercalate_cons]; rfl, lower, ?_⟩
    refine Language.append_mem_mul (mem_kstar_one.mpr small) (Language.join_mem_kstar ?_)
    intro y member
    obtain ⟨part, within, rfl⟩ := List.mem_map.mp member
    rw [mul_assoc]
    exact mem_one_mul.mpr ⟨'_', part, rfl, rfl, isPart_iff.mp (each part within)⟩

/-! ### Class names -/

theorem plainClassName_mem (name : Option String) : (plainClassName name).toList ∈ classNames := by
  rw [plainClassName, String.toList_ofList, mem_classNames]
  cases found : words (name.getD "") with
  | nil =>
    have tail : "nnamed".toList.all Char.isAlphanum = true := by decide
    exact ⟨'U', _, rfl, rfl, List.all_eq_true.mp tail⟩
  | cons w ws =>
    have word : ∀ v ∈ w :: ws, IsWord v := fun v hv => isWord_of_mem_words (found ▸ hv)
    obtain ⟨c, w, rfl⟩ := List.exists_cons_of_ne_nil (word _ List.mem_cons_self).ne_nil
    have first : c.isAlphanum = true := (word _ List.mem_cons_self).alphanum c List.mem_cons_self
    have shape : ((c :: w) :: ws).flatMap capitalize =
        c.toLower.toUpper :: (lowerWord w ++ ws.flatMap capitalize) := rfl
    have tail : ∀ d ∈ lowerWord w ++ ws.flatMap capitalize, d.isAlphanum = true :=
      fun _ => isAlphanum_of_mem_tail word
    rw [shape, List.isEmpty_cons, if_neg Bool.false_ne_true]
    cases digit : c.isDigit with
    | true =>
      obtain ⟨lower, upper⟩ := case_of_digit digit
      rw [lower, upper, guardDigit_of_digit digit]
      exact ⟨'C', _, rfl, rfl, List.forall_mem_cons.mpr ⟨first, tail⟩⟩
    | false =>
      obtain ⟨-, upper, -⟩ := case_of_letter first digit
      rw [guardDigit_of_letter (isDigit_of_isUpper upper)]
      exact ⟨_, _, rfl, upper, tail⟩

theorem className_mem (reserved : List String) (name : Option String) :
    (className reserved name).toList ∈ classNames := by
  have plain := plainClassName_mem name
  rw [className]
  split
  · obtain ⟨c, rest, shape, upper, tail⟩ := mem_classNames.mp plain
    have suffix : "Type".toList.all Char.isAlphanum = true := by decide
    have longer : ∀ d ∈ rest ++ "Type".toList, d.isAlphanum = true :=
      List.forall_mem_append.mpr ⟨tail, List.all_eq_true.mp suffix⟩
    rw [String.toList_append, shape]
    exact mem_classNames.mpr ⟨c, _, rfl, upper, longer⟩
  · exact plain

theorem isAlphanum_of_mem_className {reserved : List String} {name : Option String} {c : Char}
    (h : c ∈ (className reserved name).toList) : c.isAlphanum = true := by
  obtain ⟨d, rest, shape, upper, tail⟩ := mem_classNames.mp (className_mem reserved name)
  rw [shape] at h
  rcases List.mem_cons.mp h with rfl | h
  · exact isAlphanum_of_isUpper upper
  · exact tail c h

theorem className_ne_empty (reserved : List String) (name : Option String) :
    className reserved name ≠ "" := by
  obtain ⟨c, rest, shape, -, -⟩ := mem_classNames.mp (className_mem reserved name)
  intro empty
  simp [empty] at shape

/-! ### Property names -/

def camelCase (name : Option String) : List Char :=
  match words (name.getD "") with
  | [] => "unnamed".toList
  | w :: ws => lowerWord w ++ ws.flatMap capitalize

theorem plainPropertyName_eq (name : Option String) :
    plainPropertyName name = String.ofList (guardDigit '_' (camelCase name)) := rfl

theorem camelCase_shape (name : Option String) : ∃ c rest, camelCase name = c :: rest ∧
    isSmall c = true ∧ ∀ d ∈ rest, d.isAlphanum = true := by
  unfold camelCase
  cases found : words (name.getD "") with
  | nil =>
    have tail : "nnamed".toList.all Char.isAlphanum = true := by decide
    exact ⟨'u', _, rfl, rfl, List.all_eq_true.mp tail⟩
  | cons w ws =>
    have word : ∀ v ∈ w :: ws, IsWord v := fun v hv => isWord_of_mem_words (found ▸ hv)
    obtain ⟨c, w, rfl⟩ := List.exists_cons_of_ne_nil (word _ List.mem_cons_self).ne_nil
    have first : c.isAlphanum = true := (word _ List.mem_cons_self).alphanum c List.mem_cons_self
    exact ⟨c.toLower, _, rfl, isSmall_toLower first, fun _ => isAlphanum_of_mem_tail word⟩

theorem isAlphanum_of_mem_camelCase {name : Option String} {c : Char}
    (h : c ∈ camelCase name) : c.isAlphanum = true := by
  obtain ⟨d, rest, shape, small, tail⟩ := camelCase_shape name
  rw [shape] at h
  rcases List.mem_cons.mp h with rfl | h
  · exact isAlphanum_of_isSmall small
  · exact tail c h

theorem plainPropertyName_mem (name : Option String) :
    (plainPropertyName name).toList ∈ propertyNames := by
  obtain ⟨c, rest, shape, small, tail⟩ := camelCase_shape name
  rw [plainPropertyName_eq, String.toList_ofList, shape, mem_propertyNames]
  rcases Bool.or_eq_true_iff.mp small with lower | digit
  · rw [guardDigit_of_letter (isDigit_of_isLower lower)]
    exact ⟨c, rest, tail, .inl ⟨rfl, lower⟩⟩
  · rw [guardDigit_of_digit digit]
    exact ⟨c, rest, tail, .inr ⟨rfl, digit⟩⟩

theorem isAlphanum_of_mem_plainPropertyName {name : Option String} {c : Char}
    (h : c ∈ (plainPropertyName name).toList) : c.isAlphanum = true ∨ c = '_' := by
  obtain ⟨d, rest, tail, ⟨shape, kind⟩ | ⟨shape, kind⟩⟩ :=
    mem_propertyNames.mp (plainPropertyName_mem name)
  all_goals rw [shape] at h
  · rcases List.mem_cons.mp h with rfl | h
    · exact .inl (isAlphanum_of_isLower kind)
    · exact .inl (tail c h)
  · rcases List.mem_cons.mp h with rfl | h
    · exact .inr rfl
    rcases List.mem_cons.mp h with rfl | h
    · exact .inl (isAlphanum_of_isDigit kind)
    · exact .inl (tail c h)

theorem isAlphanum_of_mem_propertyName {reserved : List String} {name : Option String} {c : Char}
    (h : c ∈ (propertyName reserved name).toList) : c.isAlphanum = true ∨ c = '_' ∨ c = '`' := by
  have plain (h : c ∈ (plainPropertyName name).toList) :
      c.isAlphanum = true ∨ c = '_' ∨ c = '`' :=
    (isAlphanum_of_mem_plainPropertyName h).imp_right .inl
  rw [propertyName] at h
  split at h
  · simp only [String.toList_append, List.mem_append] at h
    rcases h with (h | h) | h
    · exact .inr (.inr (by simpa using h))
    · exact plain h
    · exact .inr (.inr (by simpa using h))
  · exact plain h

theorem propertyName_ne_empty (reserved : List String) (name : Option String) :
    propertyName reserved name ≠ "" := by
  rw [propertyName]
  split
  · simp
  · intro empty
    obtain ⟨c, rest, -, ⟨shape, -⟩ | ⟨shape, -⟩⟩ := mem_propertyNames.mp (plainPropertyName_mem name)
    all_goals simp [empty] at shape

/-! ### Segments of package names -/

theorem plainPackageSegment_mem {name : String} (some : plainPackageSegment name ≠ []) :
    plainPackageSegment name ∈ packageSegments := by
  unfold plainPackageSegment at some ⊢
  cases found : words name with
  | nil => exact (some (by rw [found]; rfl)).elim
  | cons w ws =>
    have part : ∀ v ∈ (w :: ws).map lowerWord, IsPart v := by
      intro v member
      obtain ⟨u, within, rfl⟩ := List.mem_map.mp member
      exact (isWord_of_mem_words (found ▸ within)).isPart_lowerWord
    rw [List.map_cons] at part ⊢
    obtain ⟨first, later⟩ := List.forall_mem_cons.mp part
    obtain ⟨c, rest, begins⟩ := List.exists_cons_of_ne_nil first.ne_nil
    rw [begins] at first ⊢
    obtain ⟨small, tail⟩ := List.forall_mem_cons.mp first.small
    have shape : ['_'].intercalate ((c :: rest) :: ws.map lowerWord) =
        c :: (rest ++ ((ws.map lowerWord).map ('_' :: ·)).flatten) := intercalate_cons ..
    rw [shape, mem_packageSegments]
    rcases Bool.or_eq_true_iff.mp small with lower | digit
    · rw [guardDigit_of_letter (isDigit_of_isLower lower), ← shape]
      exact ⟨c, rest, _, rfl, lower, tail, later⟩
    · rw [guardDigit_of_digit digit, ← List.cons_append, ← List.cons_append, ← intercalate_cons]
      exact ⟨'p', c :: rest, _, rfl, rfl, first.small, later⟩

theorem packageSegment_mem (reserved : List String) (name : String) :
    (packageSegment reserved name).toList ∈ packageSegments := by
  rw [packageSegment]
  split
  · have small : "odel".toList.all isSmall = true := by decide
    exact mem_packageSegments.mpr ⟨'m', _, [], rfl, rfl, List.all_eq_true.mp small, by simp⟩
  · rename_i some
    have plain : plainPackageSegment name ∈ packageSegments :=
      plainPackageSegment_mem (by simpa using some)
    split
    · obtain ⟨c, rest, parts, shape, lower, small, each⟩ := mem_packageSegments.mp plain
      have letters : "pkg".toList.all isSmall = true := by decide
      have suffix : IsPart "pkg".toList := ⟨by decide, List.all_eq_true.mp letters⟩
      have longer : plainPackageSegment name ++ "_pkg".toList =
          ['_'].intercalate ((c :: rest) :: (parts ++ ["pkg".toList])) := by
        simp [shape, intercalate_cons]
      rw [String.toList_append, String.toList_ofList, longer, mem_packageSegments]
      exact ⟨c, rest, _, rfl, lower, small,
        List.forall_mem_append.mpr ⟨each, List.forall_mem_singleton.mpr suffix⟩⟩
    · rwa [String.toList_ofList]

theorem isSmall_of_mem_packageSegment {reserved : List String} {name : String} {c : Char}
    (h : c ∈ (packageSegment reserved name).toList) : isSmall c = true ∨ c = '_' := by
  obtain ⟨d, rest, parts, shape, lower, small, each⟩ :=
    mem_packageSegments.mp (packageSegment_mem reserved name)
  rw [shape] at h
  rcases Text.mem_intercalate h with filler | ⟨part, within, here⟩
  · exact .inr (List.mem_singleton.mp filler)
  · rcases List.mem_cons.mp within with rfl | within
    · rcases List.mem_cons.mp here with rfl | here
      · exact .inl (by simp [isSmall, lower])
      · exact .inl (small c here)
    · exact .inl ((each part within).small c here)

theorem isAlphanum_of_mem_packageSegment {reserved : List String} {name : String} {c : Char}
    (h : c ∈ (packageSegment reserved name).toList) : c.isAlphanum = true ∨ c = '_' :=
  (isSmall_of_mem_packageSegment h).imp_left isAlphanum_of_isSmall

theorem packageSegment_ne_empty (reserved : List String) (name : String) :
    packageSegment reserved name ≠ "" := by
  obtain ⟨c, rest, parts, shape, -⟩ := mem_packageSegments.mp (packageSegment_mem reserved name)
  intro empty
  rw [empty, intercalate_cons] at shape
  cases shape

theorem packageName_ne_empty {reserved : List String} {root : String} {path : List String}
    (h : root ≠ "") : packageName reserved root path ≠ "" := by
  unfold packageName
  cases path with
  | nil => simpa using h
  | cons name path => simp [String.intercalate_cons_cons, h]

theorem words_of_parts {s : String} {parts : List (List Char)} (any : parts ≠ [])
    (shape : s.toList = ['_'].intercalate parts) (each : ∀ part ∈ parts, IsPart part) :
    words s = parts := by
  have spelled : s.toList.flatMap spell = s.toList := by
    have alone : ∀ c ∈ s.toList, spell c = [c] := by
      intro c member
      rw [shape] at member
      rcases Text.mem_intercalate member with filler | ⟨part, within, here⟩
      · rw [List.mem_singleton.mp filler]
        rfl
      · exact spell_of_isAlphanum (isAlphanum_of_isSmall ((each part within).small c here))
    rw [List.flatMap_congr alone, List.flatMap_singleton']
  have free : ∀ part ∈ parts, ∀ c ∈ part, (!c.isAlphanum) = false := by
    intro part within c here
    simpa using isAlphanum_of_isSmall ((each part within).small c here)
  rw [words, spelled, shape, Text.runs, Text.pieces_intercalate rfl any free, List.filter_eq_self]
  intro part within
  exact decide_eq_true (each part within).ne_nil

theorem packageSegment_of_mem {reserved : List String} {s : String}
    (h : s.toList ∈ packageSegments) (free : s ∉ reserved) : packageSegment reserved s = s := by
  obtain ⟨c, rest, parts, shape, lower, small, each⟩ := mem_packageSegments.mp h
  have first : IsPart (c :: rest) :=
    ⟨List.cons_ne_nil _ _, List.forall_mem_cons.mpr ⟨by simp [isSmall, lower], small⟩⟩
  have all : ∀ part ∈ (c :: rest) :: parts, IsPart part := List.forall_mem_cons.mpr ⟨first, each⟩
  have same : ((c :: rest) :: parts).map lowerWord = (c :: rest) :: parts := by
    refine (List.map_congr_left fun part within => ?_).trans (List.map_id _)
    refine (List.map_congr_left fun d here => ?_).trans (List.map_id part)
    exact toLower_of_isSmall ((all part within).small d here)
  have plain : String.ofList (plainPackageSegment s) = s := by
    rw [plainPackageSegment, words_of_parts (List.cons_ne_nil _ _) shape all, same, ← shape]
    rw [intercalate_cons] at shape
    rw [shape, List.cons_append, guardDigit_of_letter (isDigit_of_isLower lower),
      ← List.cons_append, ← shape, String.ofList_toList]
  have some : s ≠ "" := by
    rintro rfl
    rw [intercalate_cons] at shape
    cases shape
  rw [packageSegment, plain]
  simp [some, free]

/-! ### Reserved words -/

theorem className_not_reserved {reserved : List String} (room : ∀ stem, stem ++ "Type" ∉ reserved)
    (name : Option String) : className reserved name ∉ reserved := by
  rw [className]
  split
  · exact room _
  · rename_i free
    simpa using free

theorem packageSegment_not_reserved {reserved : List String} (room : "model" ∉ reserved)
    (room' : ∀ stem, stem ++ "_pkg" ∉ reserved) (name : String) :
    packageSegment reserved name ∉ reserved := by
  rw [packageSegment]
  split
  · exact room
  · split
    · exact room' _
    · rename_i free
      simpa using free

end UmlKotlin.Kotlin

namespace UmlKotlin.Profile

open Data (Scalar)

/-- A profile that reserves no word that only a suffix or a fixed name could meet. -/
structure LeavesRoom (p : Profile) : Prop where
  model : p.isReserved (.text "model") = false
  type (stem : String) : p.isReserved (.text (stem ++ "Type")) = false
  package (stem : String) : p.isReserved (.text (stem ++ "_pkg")) = false

theorem isReserved_text (p : Profile) (s : String) :
    p.isReserved (.text s) = true ↔ s ∈ p.reserved := by
  simp only [isReserved, List.any_eq_true, Scalar.text_same, reserved, List.mem_filterMap]
  constructor
  · rintro ⟨w, member, rfl⟩
    exact ⟨_, member, rfl⟩
  · rintro ⟨w, member, text⟩
    cases w with
    | text t =>
      cases text
      exact ⟨_, member, rfl⟩
    | _ => cases text

theorem bundled_leavesRoom : bundled.LeavesRoom := by
  have ends (suffix : String) (other : ∀ w ∈ bundled.reserved, ¬ suffix.toList <:+ w.toList)
      (stem : String) : bundled.isReserved (.text (stem ++ suffix)) = false := by
    rw [← Bool.not_eq_true, isReserved_text]
    intro member
    exact other _ member ⟨stem.toList, (String.toList_append).symm⟩
  exact {
    model := by decide
    type := ends "Type" (by decide)
    package := ends "_pkg" (by decide) }

end UmlKotlin.Profile

namespace UmlKotlin.Kotlin

/-- Whatever text they are made from, names have their shapes, and only names of properties need
quotes. -/
theorem names_well_formed (p : Profile) :
    (∀ name, (className p.reserved name).toList ∈ classNames) ∧
    (∀ name, ∃ s : String, s.toList ∈ propertyNames ∧
      propertyName p.reserved name = if p.isReserved (.text s) then "`" ++ s ++ "`" else s) ∧
    (∀ name, (packageSegment p.reserved name).toList ∈ packageSegments) ∧
    (p.LeavesRoom →
      (∀ name, p.isReserved (.text (className p.reserved name)) = false) ∧
      (∀ name, p.isReserved (.text (packageSegment p.reserved name)) = false) ∧
      ∀ name, packageSegment p.reserved (packageSegment p.reserved name) =
        packageSegment p.reserved name) ∧
    Profile.bundled.LeavesRoom := by
  have free (s : String) : p.isReserved (.text s) = false ↔ s ∉ p.reserved := by
    rw [← p.isReserved_text, Bool.not_eq_true]
  refine ⟨className_mem _, ?_, packageSegment_mem _, ?_, Profile.bundled_leavesRoom⟩
  · intro name
    refine ⟨plainPropertyName name, plainPropertyName_mem name, ?_⟩
    simp only [propertyName, p.isReserved_text, List.contains_iff_mem]
  · intro room
    have segment (name : String) : packageSegment p.reserved name ∉ p.reserved :=
      packageSegment_not_reserved ((free _).mp room.model) (fun s => (free _).mp (room.package s)) name
    refine ⟨?_, ?_, ?_⟩
    · intro name
      exact (free _).mpr (className_not_reserved (fun s => (free _).mp (room.type s)) name)
    · intro name
      exact (free _).mpr (segment name)
    · intro name
      exact packageSegment_of_mem (packageSegment_mem _ name) (segment name)

theorem names_well_formed_bundled : Profile.bundled.LeavesRoom ∧
    packageSegment Profile.bundled.reserved "package" = "package_pkg" ∧
    packageSegment Profile.bundled.reserved "package_pkg" = "package_pkg" := by
  have suffixed : packageSegment Profile.bundled.reserved "package" = "package_pkg" := by
    decide +kernel
  obtain ⟨-, -, -, apart, room⟩ := names_well_formed Profile.bundled
  obtain ⟨-, -, again⟩ := apart room
  have twice := again "package"
  rw [suffixed] at twice
  exact ⟨room, suffixed, twice⟩

end UmlKotlin.Kotlin
