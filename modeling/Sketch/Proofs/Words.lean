import Sketch.Proofs.Spelling
import Mathlib

/-! Words of a line: what is left of a text once its blanks are off, its first word, and the
keywords that are written with letters of either case. -/
namespace Sketch.Text

section Runs
variable {α : Type} {p : α → Bool} {token rest : List α}

theorem takeWhile_run (all : ∀ c ∈ token, p c) (stops : ∀ c ∈ rest.head?, ¬ p c) :
    (token ++ rest).takeWhile p = token := by
  rw [List.takeWhile_append_of_pos all]
  cases rest with
  | nil => simp
  | cons c rest => simp [stops c (by simp)]

theorem dropWhile_run (all : ∀ c ∈ token, p c) (stops : ∀ c ∈ rest.head?, ¬ p c) :
    (token ++ rest).dropWhile p = rest := by
  rw [List.dropWhile_append_of_pos all]
  cases rest with
  | nil => simp
  | cons c rest => simp [stops c (by simp)]

theorem dropWhile_eq_self (stops : ∀ c ∈ rest.head?, ¬ p c) : rest.dropWhile p = rest := by
  simpa using dropWhile_run (fun c inside => absurd inside List.not_mem_nil) stops

theorem head?_dropWhile (text : List α) : ∀ c ∈ (text.dropWhile p).head?, ¬ p c := by
  intro c first
  have stops := List.head?_dropWhile_not p text
  rw [Option.mem_def.mp first] at stops
  simpa using stops

end Runs

private theorem trimLeft_eq (text : List Char) :
    ∃ blanks, trimLeft text = trim text ++ blanks ∧ ∀ c ∈ blanks, isBlank c := by
  refine ⟨((trimLeft text).reverse.takeWhile isBlank).reverse, ?_, ?_⟩
  · calc
      trimLeft text = (trimLeft text).reverse.reverse := (List.reverse_reverse _).symm
      _ = ((trimLeft text).reverse.takeWhile isBlank ++ trimLeft (trimLeft text).reverse).reverse :=
        congrArg List.reverse List.takeWhile_append_dropWhile.symm
      _ = _ := List.reverse_append
  · intro c inside
    exact List.mem_takeWhile_imp (List.mem_reverse.mp inside)

theorem trim_last (text : List Char) : ∀ c ∈ (trim text).getLast?, ¬ isBlank c := by
  intro c last
  rw [trim, List.getLast?_reverse] at last
  exact head?_dropWhile _ c last

theorem trim_head (text : List Char) : ∀ c ∈ (trim text).head?, ¬ isBlank c := by
  intro c first
  obtain ⟨blanks, split, -⟩ := trimLeft_eq text
  apply head?_dropWhile text c
  change c ∈ (trimLeft text).head?
  rw [split, List.head?_append, Option.mem_def.mp first]
  rfl

theorem trim_eq_self {text : List Char} (head : ∀ c ∈ text.head?, ¬ isBlank c)
    (last : ∀ c ∈ text.getLast?, ¬ isBlank c) : trim text = text := by
  have left : trimLeft text = text := dropWhile_eq_self head
  have right : trimLeft text.reverse = text.reverse :=
    dropWhile_eq_self (by simpa [List.head?_reverse] using last)
  rw [trim, left, right, List.reverse_reverse]

theorem trim_append_blanks {text blanks : List Char} (blank : ∀ c ∈ blanks, isBlank c) :
    trim (blanks ++ text) = trim text := by
  simp only [trim, trimLeft, List.dropWhile_append_of_pos blank]

theorem firstWord_trim (text : List Char) : firstWord (trim text) = firstWord text := by
  obtain ⟨blanks, split, blank⟩ := trimLeft_eq text
  have left : trimLeft (trim text) = trim text :=
    dropWhile_eq_self (trim_head text)
  have none : blanks.takeWhile (!isBlank ·) = [] := by
    cases blanks with
    | nil => rfl
    | cons c rest => simp [blank c (by simp)]
  simp only [firstWord, left, split, List.takeWhile_append, none, List.append_nil]
  split
  · rename_i whole
    exact (List.takeWhile_prefix _).eq_of_length whole
  · rfl

theorem trim_eq_firstWord (text : List Char) :
    ∃ rest, trim text = firstWord text ++ rest ∧ ∀ c ∈ rest.head?, isBlank c := by
  have left : trimLeft (trim text) = trim text := dropWhile_eq_self (trim_head text)
  refine ⟨(trim text).dropWhile (!isBlank ·), ?_, fun c first => ?_⟩
  · rw [← firstWord_trim, firstWord, left, List.takeWhile_append_dropWhile]
  · simpa using head?_dropWhile (trim text) c first

theorem firstWord_run {word rest : List Char} (solid : ∀ c ∈ word, ¬ isBlank c) (given : word ≠ [])
    (stops : ∀ c ∈ rest.head?, isBlank c) : firstWord (word ++ rest) = word := by
  have left : trimLeft (word ++ rest) = word ++ rest := by
    apply dropWhile_eq_self
    intro c first
    cases word with
    | nil => exact absurd rfl given
    | cons d word =>
      obtain rfl : d = c := by simpa using first
      exact solid d (by simp)
  rw [firstWord, left]
  refine takeWhile_run (fun c inside => by simpa using solid c inside) ?_
  intro c first
  simp [stops c first]

private theorem lowerAfter_ascii {text : List Char} (ascii : ∀ c ∈ text, c.toNat < 0x80) (before : List Char) :
    lowerAfter before text = text.map Char.toLower := by
  induction text generalizing before with
  | nil => rfl
  | cons c rest ih =>
    have small := ascii c (by simp)
    have sigma : c ≠ 'Σ' := by rintro rfl; simp at small
    have dotted : c ≠ 'İ' := by rintro rfl; simp at small
    rw [lowerAfter, ih (fun d inside => ascii d (by simp [inside]))]
    simp [lowerChar, sigma, dotted, lowerSimple, small]

theorem lowerCase_ascii {text : List Char} (ascii : ∀ c ∈ text, c.toNat < 0x80) :
    lowerCase text = text.map Char.toLower :=
  lowerAfter_ascii ascii []

/-- Beyond ASCII, only the sign for kelvin has a plain small letter as its lower case. -/
private theorem lowerSimple_beyond {c : Char} (lowered : (lowerSimple c).isLower) (kelvin : lowerSimple c ≠ 'k') :
    c.toNat < 0x80 := by
  have runs : ∀ run ∈ caseRuns, 0x80 ≤ run.first + run.shift ∨ run.first = run.last ∧ run.first + run.shift = 0x6B := by
    decide +kernel
  by_contra beyond
  have small : 0x61 ≤ (lowerSimple c).toNat ∧ (lowerSimple c).toNat ≤ 0x7A := by
    simpa [Char.isLower, UInt32.le_iff_toNat_le] using lowered
  have other : (lowerSimple c).toNat ≠ 0x6B := fun same => kelvin (Char.toNat_inj.mp same)
  cases found : caseRuns.find? (·.covers c.toNat) with
  | none =>
    simp only [lowerSimple, if_neg beyond, found] at small
    omega
  | some run =>
    have covers := List.find?_some found
    simp only [CaseRun.covers, Bool.and_eq_true, decide_eq_true_eq] at covers
    simp only [lowerSimple, if_neg beyond, found, Char.toNat_ofNat] at small other
    have shifted := runs run (List.mem_of_find?_eq_some found)
    split at small
    · rename_i valid
      rw [if_pos valid] at other
      omega
    · omega

private theorem ascii_of_lowerAfter {text before : List Char}
    (plain : ∀ c ∈ lowerAfter before text, c.isLower ∧ c ≠ 'k') : ∀ c ∈ text, c.toNat < 0x80 := by
  induction text generalizing before with
  | nil => simp
  | cons first text ih =>
    rw [lowerAfter] at plain
    obtain ⟨own, others⟩ := List.forall_mem_append.mp plain
    refine List.forall_mem_cons.mpr ⟨?_, ih others⟩
    unfold lowerChar at own
    split at own
    · have sigma := (own _ List.mem_cons_self).1
      split at sigma <;> exact absurd sigma (by decide)
    · split at own
      · exact absurd (own '̇' (by simp)).1 (by decide)
      · obtain ⟨small, other⟩ := own _ List.mem_cons_self
        exact lowerSimple_beyond small other

end Sketch.Text

namespace Sketch
open Text

theorem isNameChar_bounds {c : Char} (accepted : isNameChar c) : 0x30 ≤ c.toNat ∧ c.toNat < 0x80 := by
  simp only [isNameChar, Char.isAlphanum, Char.isAlpha, Char.isUpper, Char.isLower, Char.isDigit,
    Bool.or_eq_true, Bool.and_eq_true, decide_eq_true_eq, beq_iff_eq, UInt32.le_iff_toNat_le,
    ge_iff_le] at accepted
  rcases accepted with ((⟨least, most⟩ | ⟨least, most⟩) | ⟨least, most⟩) | rfl
  · exact ⟨Nat.le_trans (by decide) least, Nat.lt_of_le_of_lt most (by decide)⟩
  · exact ⟨Nat.le_trans (by decide) least, Nat.lt_of_le_of_lt most (by decide)⟩
  · exact ⟨Nat.le_trans (by decide) least, Nat.lt_of_le_of_lt most (by decide)⟩
  · decide

theorem isNameChar_of_start {c : Char} (start : isNameStart c) : isNameChar c := by
  simp only [isNameStart, isNameChar, Char.isAlphanum, Bool.or_eq_true] at start ⊢
  exact start.imp_left Or.inl

theorem not_isBlank_of_isNameChar {c : Char} (accepted : isNameChar c) : ¬ isBlank c := by
  have bounds := isNameChar_bounds accepted
  simp only [isBlank, inRanges, blankRanges, List.any_eq_true, not_exists, not_and,
    Bool.and_eq_true, decide_eq_true_eq]
  simp
  omega

theorem IsName.all {text : List Char} (named : IsName text) : ∀ c ∈ text, isNameChar c := by
  obtain ⟨first, rest, rfl, start, more⟩ := named
  intro c inside
  rcases List.mem_cons.mp inside with rfl | later
  · exact isNameChar_of_start start
  · exact more c later

theorem IsName.ne_nil {text : List Char} (named : IsName text) : text ≠ [] := by
  obtain ⟨first, rest, rfl, -, -⟩ := named
  exact List.cons_ne_nil _ _

theorem IsName.lowerCase {text : List Char} (named : IsName text) :
    lowerCase text = text.map Char.toLower :=
  lowerCase_ascii fun c inside => (isNameChar_bounds (named.all c inside)).2

theorem Keyword.ofWord?_eq_some {word : String} {keyword : Keyword} :
    Keyword.ofWord? word = some keyword ↔ keyword.word = word := by
  constructor
  · intro found
    simpa using List.find?_some found
  · rintro rfl
    cases keyword <;> rfl

theorem isAlpha_of_toLower {c : Char} (small : c.toLower.isLower) : c.isAlpha := by
  by_cases upper : c.isUpper
  · simp [Char.isAlpha, upper]
  · have same : c.toLower = c := by
      simp only [Char.isUpper, decide_eq_true_eq] at upper
      exact dif_neg upper
    simpa [Char.isAlpha, same] using Or.inr small

theorem Keyword.word_isLower (keyword : Keyword) :
    keyword.word.toList ≠ [] ∧ ∀ c ∈ keyword.word.toList, c.isLower := by
  cases keyword <;> simp [Keyword.word]

private theorem Keyword.word_kless (keyword : Keyword) : 'k' ∉ keyword.word.toList := by
  cases keyword <;> simp [Keyword.word]

private theorem IsWord.isAlpha {keyword : Keyword} {text : List Char} (spelled : IsWord keyword text) :
    ∀ c ∈ text, c.isAlpha := by
  intro c inside
  apply isAlpha_of_toLower
  apply keyword.word_isLower.2
  rw [← spelled]
  exact List.mem_map_of_mem inside

theorem IsWord.isName {keyword : Keyword} {text : List Char} (spelled : IsWord keyword text) :
    IsName text := by
  have letters := spelled.isAlpha
  cases text with
  | nil => exact absurd spelled.symm keyword.word_isLower.1
  | cons first rest =>
    refine ⟨first, rest, rfl, ?_, ?_⟩
    · simp [isNameStart, letters first (by simp)]
    · intro c inside
      simp [isNameChar, Char.isAlphanum, letters c (by simp [inside])]

/-- A name is a keyword for the reader exactly if it spells the keyword. -/
theorem ofWord?_lower_iff {name : String} (named : IsName name.toList) {keyword : Keyword} :
    Keyword.ofWord? (lower name) = some keyword ↔ IsWord keyword name.toList := by
  rw [Keyword.ofWord?_eq_some, lower, named.lowerCase, IsWord, ← String.toList_inj,
    String.toList_ofList]
  exact eq_comm

theorem ofWord?_lower_eq_none {name : String} (named : IsName name.toList) :
    Keyword.ofWord? (lower name) = none ↔ ∀ keyword, ¬ IsWord keyword name.toList := by
  simp only [Option.eq_none_iff_forall_ne_some, ne_eq, ofWord?_lower_iff named]

theorem leadingKeyword?_eq_some {line : String} {keyword : Keyword} :
    leadingKeyword? line = some keyword ↔ leadingWord line = keyword.word := by
  rw [leadingKeyword?, Keyword.ofWord?_eq_some, eq_comm]

theorem leadingKeyword?_of_isWord {line : String} {keyword : Keyword} {word rest : List Char}
    (split : trim line.toList = word ++ rest) (spelled : IsWord keyword word)
    (stops : ∀ c ∈ rest.head?, isBlank c) : leadingKeyword? line = some keyword := by
  have solid : ∀ c ∈ word, ¬ isBlank c :=
    fun c inside => not_isBlank_of_isNameChar (spelled.isName.all c inside)
  have first : firstWord line.toList = word := by
    rw [← firstWord_trim, split, firstWord_run solid spelled.isName.ne_nil stops]
  rw [leadingKeyword?, leadingWord, first, Keyword.ofWord?_eq_some, spelled.isName.lowerCase,
    spelled, String.ofList_toList]

/-- The lower case of every script makes a keyword only of its own plain letters. -/
theorem isWord_firstWord {line : String} {keyword : Keyword} (begun : leadingKeyword? line = some keyword) :
    IsWord keyword (firstWord line.toList) := by
  have word : lowerCase (firstWord line.toList) = keyword.word.toList := by
    rw [← leadingKeyword?_eq_some.mp begun, leadingWord, String.toList_ofList]
  have ascii : ∀ c ∈ firstWord line.toList, c.toNat < 0x80 := by
    apply ascii_of_lowerAfter
    rw [← lowerCase, word]
    exact fun c inside => ⟨keyword.word_isLower.2 c inside, fun same => keyword.word_kless (same ▸ inside)⟩
  rw [IsWord, ← lowerCase_ascii ascii, word]

end Sketch
