import Mathlib.Data.List.Chain
import Mathlib.Data.List.DropRight
import UmlKotlin.Proofs.Text.Blank
import UmlKotlin.Proofs.Kotlin.Letter

/-!
The words of a text, found step by step: white space around the text is dropped, letters are spelled
in ASCII, every run of other characters becomes one filler, and what the fillers separate is taken.
Main statements: these steps find the words (`tokens_eq_words`), and those that keep the fillers make
segments of package names (`plainPackageSegment_eq_guardDigit`).
-/

set_option autoImplicit false

namespace UmlKotlin.Text

def strip (kind : Char → Bool) (cs : List Char) : List Char := (cs.dropWhile kind).rdropWhile kind

variable {kind : Char → Bool} {cs : List Char}

theorem trimChars_eq_strip (cs : List Char) : trimChars cs = strip isSpace cs := rfl

theorem exists_strip (kind : Char → Bool) (cs : List Char) : ∃ before after,
    cs = before ++ strip kind cs ++ after ∧ (∀ c ∈ before, kind c = true) ∧
      ∀ c ∈ after, kind c = true := by
  refine ⟨cs.takeWhile kind, (cs.dropWhile kind).rtakeWhile kind, ?_, ?_, ?_⟩
  · rw [strip, List.append_assoc, List.rdropWhile_append_rtakeWhile, List.takeWhile_append_dropWhile]
  · exact fun c => List.mem_takeWhile_imp
  · exact fun c => List.mem_rtakeWhile_imp

theorem runs_strip {separator : Char → Bool} (h : ∀ c, kind c = true → separator c = true)
    (cs : List Char) : runs separator (strip kind cs) = runs separator cs := by
  obtain ⟨before, after, split, front, back⟩ := exists_strip kind cs
  have around := runs_surrounded (fun c hc => h c (front c hc)) (fun c hc => h c (back c hc))
    (strip kind cs)
  rw [← split] at around
  exact around.symm

theorem infix_of_strip (kind : Char → Bool) (cs : List Char) : strip kind cs <:+: cs :=
  (List.rdropWhile_prefix _ _).isInfix.trans (List.dropWhile_suffix _).isInfix

theorem getLast_strip {c : Char} (h : c ∈ (strip kind cs).getLast?) : kind c = false :=
  not_of_getLast?_rdropWhile h

theorem head_strip {c : Char} (h : c ∈ (strip kind cs).head?) : kind c = false := by
  obtain ⟨after, split⟩ := List.rdropWhile_prefix kind (cs.dropWhile kind)
  have first := List.head?_dropWhile_not kind cs
  rw [← split] at first
  cases kept : strip kind cs with
  | nil => simp [kept] at h
  | cons d rest =>
    rw [← strip, kept] at first
    rw [kept] at h
    obtain rfl : d = c := Option.some.inj h
    exact first

/-! ### Texts whose separators stand alone -/

/-- No two characters of a kind stand next to each other. -/
def StandsAlone (kind : Char → Bool) (cs : List Char) : Prop :=
  cs.IsChain fun c d => kind c = false ∨ kind d = false

theorem pieces_cons_of_free {c : Char} (h : kind c = false) (cs : List Char) :
    ∃ p ps, pieces kind cs = p :: ps ∧ pieces kind (c :: cs) = (c :: p) :: ps := by
  obtain ⟨p, ps, found⟩ := List.exists_cons_of_ne_nil (pieces_ne_nil kind cs)
  have kept : ∀ d ∈ [c], kind d = false := by simpa using h
  exact ⟨p, ps, found, pieces_append_of_free kept found⟩

theorem nil_not_mem_tail_pieces (last : ∀ c ∈ cs.getLast?, kind c = false)
    (apart : StandsAlone kind cs) : [] ∉ (pieces kind cs).tail := by
  induction cs with
  | nil => exact List.not_mem_nil
  | cons c cs ih =>
    cases ends : kind c with
    | false =>
      obtain ⟨p, ps, found, longer⟩ := pieces_cons_of_free ends cs
      have rest := ih (fun d hd => last d (List.mem_getLast?_cons hd)) apart.tail
      rw [longer]
      rwa [found] at rest
    | true =>
      rw [pieces, if_pos ends]
      cases cs with
      | nil => exact absurd (last c rfl) (by simp [ends])
      | cons d cs =>
        obtain ⟨alone, apart⟩ := List.isChain_cons_cons.mp apart
        have free : kind d = false := alone.resolve_left (by simp [ends])
        obtain ⟨p, ps, found, longer⟩ := pieces_cons_of_free free cs
        have rest := ih last apart
        rw [longer] at rest ⊢
        simpa using rest

/-- A text in which a character stands alone is put together again from its runs, but for that
character at its ends. -/
theorem strip_eq_intercalate_runs {f : Char} (apart : StandsAlone (· == f) cs) :
    strip (· == f) cs = [f].intercalate (runs (· == f) cs) := by
  rw [← runs_strip (fun _ h => h) cs]
  have alone : StandsAlone (· == f) (strip (· == f) cs) := apart.infix (infix_of_strip _ cs)
  have first : ∀ d ∈ (strip (· == f) cs).head?, (d == f) = false := fun _ => head_strip
  have last : ∀ d ∈ (strip (· == f) cs).getLast?, (d == f) = false := fun _ => getLast_strip
  have tail := nil_not_mem_tail_pieces last alone
  cases kept : strip (· == f) cs with
  | nil => rfl
  | cons c rest =>
    rw [kept] at first
    have free : (c == f) = false := first c rfl
    obtain ⟨p, ps, -, longer⟩ := @pieces_cons_of_free (· == f) c free rest
    have all : runs (· == f) (c :: rest) = pieces (· == f) (c :: rest) := by
      rw [kept, longer] at tail
      rw [runs, longer, List.filter_eq_self]
      intro q member
      rcases List.mem_cons.mp member with rfl | later
      · rfl
      · exact decide_eq_true fun empty => tail (empty ▸ later)
    rw [all, pieces_eq_splitOnP]
    exact (List.intercalate_splitOn f).symm

end UmlKotlin.Text

namespace UmlKotlin.Kotlin

open Text (StandsAlone pieces runs strip trimChars)

/-- A text in which one filler takes the place of every run of characters that are neither ASCII
letters nor digits. -/
def collapse (filler : Char) : List Char → List Char
  | [] => []
  | c :: cs =>
    if c.isAlphanum then c :: collapse filler cs
    else filler :: collapse filler (cs.dropWhile fun d => !d.isAlphanum)
termination_by cs => cs.length
decreasing_by
  · exact Nat.lt_succ_self _
  · exact Nat.lt_succ_of_le (List.dropWhile_sublist _).length_le

/-- What stands between white space once every other run that is no word is a blank. -/
def tokens (s : String) : List (List Char) :=
  runs Text.isSpace (collapse ' ' ((trimChars s.toList).flatMap spell))

/-- A text in lower case, with an underscore for every run that is no word but at its ends. -/
def cleaned (s : String) : List Char :=
  lowerWord (strip (· == '_') (collapse '_' ((trimChars s.toList).flatMap spell)))

theorem runs_dropWhile_not (cs : List Char) :
    runs (fun d => !d.isAlphanum) (cs.dropWhile fun d => !d.isAlphanum) =
      runs (fun d => !d.isAlphanum) cs := by
  have front : ∀ c ∈ cs.takeWhile (fun d => !d.isAlphanum), (!c.isAlphanum) = true :=
    fun _ => List.mem_takeWhile_imp
  have back : ∀ c ∈ ([] : List Char), (!c.isAlphanum) = true := by simp
  have around := Text.runs_surrounded front back (cs.dropWhile fun d => !d.isAlphanum)
  rw [List.append_nil, List.takeWhile_append_dropWhile] at around
  exact around.symm

/-- Fillers separate what the characters separate that they stand for: the first pieces are the same,
and the others but for empty ones. -/
theorem pieces_collapse {kind : Char → Bool} {filler : Char} (fills : kind filler = true)
    (plain : ∀ c, c.isAlphanum = true → kind c = false) (cs : List Char) :
    ∃ p ps qs, pieces kind (collapse filler cs) = p :: ps ∧
      pieces (fun c => !c.isAlphanum) cs = p :: qs ∧
      ps.filter (· ≠ []) = qs.filter (· ≠ []) := by
  induction cs using collapse.induct with
  | case1 => exact ⟨[], [], [], by rw [collapse]; rfl, rfl, rfl⟩
  | case2 c cs alphanum ih =>
    obtain ⟨p, ps, qs, found, found', same⟩ := ih
    have kept : ¬ (!c.isAlphanum) = true := by simp [alphanum]
    refine ⟨c :: p, ps, qs, ?_, ?_, same⟩
    · rw [collapse, if_pos alphanum, pieces, if_neg (by simp [plain c alphanum]), found]
    · rw [pieces, if_neg kept, found']
  | case3 c cs other ih =>
    obtain ⟨p, ps, qs, found, found', same⟩ := ih
    have ends : (!c.isAlphanum) = true := by simpa using other
    refine ⟨[], p :: ps, pieces (fun c => !c.isAlphanum) cs, ?_, ?_, ?_⟩
    · rw [collapse, if_neg other, pieces, if_pos fills, found]
    · rw [pieces, if_pos ends]
    · have behind := runs_dropWhile_not cs
      rw [runs, runs, found'] at behind
      rw [← behind, List.filter_cons, List.filter_cons, same]

theorem runs_collapse {kind : Char → Bool} {filler : Char} (fills : kind filler = true)
    (plain : ∀ c, c.isAlphanum = true → kind c = false) (cs : List Char) :
    runs kind (collapse filler cs) = runs (fun c => !c.isAlphanum) cs := by
  obtain ⟨p, ps, qs, found, found', same⟩ := pieces_collapse fills plain cs
  rw [runs, found, runs, found', List.filter_cons, List.filter_cons, same]

theorem head?_collapse (filler : Char) (cs : List Char) : (collapse filler cs).head? =
    cs.head?.map fun c => if c.isAlphanum then c else filler := by
  cases cs with
  | nil => rw [collapse]; rfl
  | cons c cs =>
    rw [collapse]
    by_cases alphanum : c.isAlphanum = true
    · simp [alphanum]
    · simp [alphanum]

theorem apart_collapse {filler : Char} (other : filler.isAlphanum = false) (cs : List Char) :
    StandsAlone (· == filler) (collapse filler cs) := by
  have kept {c : Char} (alphanum : c.isAlphanum = true) : (c == filler) = false := by
    apply beq_false_of_ne
    rintro rfl
    rw [alphanum] at other
    cases other
  induction cs using collapse.induct with
  | case1 =>
    rw [collapse]
    exact .nil
  | case2 c cs alphanum ih =>
    rw [collapse, if_pos alphanum]
    exact List.isChain_cons.mpr ⟨fun _ _ => .inl (kept alphanum), ih⟩
  | case3 c cs stands ih =>
    rw [collapse, if_neg stands]
    refine List.isChain_cons.mpr ⟨fun d first => .inr ?_, ih⟩
    have goesOn := List.head?_dropWhile_not (fun d => !d.isAlphanum) cs
    rw [head?_collapse] at first
    obtain ⟨e, begins, rfl⟩ := Option.map_eq_some_iff.mp first
    rw [begins] at goesOn
    have alphanum : e.isAlphanum = true := by simpa using goesOn
    rw [if_pos alphanum]
    exact kept alphanum

theorem spell_of_isSpace {c : Char} (h : Text.isSpace c = true) : spell c = [c] := by
  have visible : ∀ e ∈ spellings, Text.isSpace e.1 = false := by decide
  have none : spellings.lookup c = none := by
    rw [List.lookup_eq_none_iff]
    intro e member
    have other : Text.isSpace e.1 = false := visible e member
    apply bne_iff_ne.mpr
    rintro rfl
    rw [h] at other
    cases other
  rw [spell, none]

theorem runs_spelled_trimChars (cs : List Char) :
    runs (fun c => !c.isAlphanum) ((trimChars cs).flatMap spell) =
      runs (fun c => !c.isAlphanum) (cs.flatMap spell) := by
  have separates {ds : List Char} (space : ∀ c ∈ ds, Text.isSpace c = true) :
      ∀ c ∈ ds.flatMap spell, (!c.isAlphanum) = true := by
    intro c member
    obtain ⟨d, within, spelled⟩ := List.mem_flatMap.mp member
    have here := space d within
    rw [spell_of_isSpace here, List.mem_singleton] at spelled
    subst spelled
    rw [Bool.not_eq_true', ← Bool.not_eq_true]
    intro alphanum
    rw [isSpace_of_isAlphanum alphanum] at here
    cases here
  obtain ⟨before, after, split, front, back⟩ := Text.exists_strip Text.isSpace cs
  have around := Text.runs_surrounded (separates front) (separates back)
    ((trimChars cs).flatMap spell)
  rw [← List.flatMap_append, ← List.flatMap_append, Text.trimChars_eq_strip, ← split] at around
  exact around.symm

theorem tokens_eq_words (s : String) : tokens s = words s := by
  rw [tokens, runs_collapse rfl fun _ => isSpace_of_isAlphanum, runs_spelled_trimChars, words]

theorem cleaned_eq (s : String) : cleaned s = ['_'].intercalate ((words s).map lowerWord) := by
  have plain (c : Char) (h : c.isAlphanum = true) : (c == '_') = false := by
    apply beq_false_of_ne
    rintro rfl
    cases h
  have lower (ws : List (List Char)) :
      lowerWord (['_'].intercalate ws) = ['_'].intercalate (ws.map lowerWord) := by
    cases ws with
    | nil => rfl
    | cons w ws =>
      -- an underscore is its own lower case
      rw [List.map_cons, intercalate_cons, intercalate_cons, lowerWord, List.map_append,
        List.map_flatten, List.map_map, List.map_map]
      rfl
  rw [cleaned, Text.strip_eq_intercalate_runs (apart_collapse rfl _), runs_collapse rfl plain,
    runs_spelled_trimChars, lower, words]

theorem plainPackageSegment_eq_guardDigit (name : String) :
    plainPackageSegment name = guardDigit 'p' (cleaned name) := by
  rw [cleaned_eq, plainPackageSegment]

end UmlKotlin.Kotlin
