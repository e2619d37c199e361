import Sketch.Blocks
import Sketch.Proofs.Words

/-! Passing over the lines of a false condition. The scan counts the conditions that are open; what it finds is said
without a count that goes up and down: the `endif` before which as many conditions are closed as are opened, and never
more on the way. -/
namespace Sketch

def countLeading (word : String) (lines : List SourceLine) : Nat :=
  lines.countP fun line => leadingWord line.text == word

/-- The index is just past the `endif` of a condition whose lines begin at `start`. -/
structure IsPastEndif (lines : List SourceLine) (start index : Nat) : Prop where
  later : start < index
  inside : index ≤ lines.length
  closing : ∃ line, lines[index - 1]? = some line ∧ leadingWord line.text = "endif"
  level : countLeading "if" ((lines.drop start).take (index - 1 - start)) =
    countLeading "endif" ((lines.drop start).take (index - 1 - start))
  above : ∀ front, front <+: (lines.drop start).take (index - 1 - start) →
    countLeading "endif" front ≤ countLeading "if" front

/-- The lines close `depth` conditions that are open before them and those that they open, and no other one on the way. -/
structure ClosesAll (depth : Nat) (lines : List SourceLine) : Prop where
  level : countLeading "endif" lines = countLeading "if" lines + depth
  above : ∀ front, front <+: lines → countLeading "endif" front ≤ countLeading "if" front + depth

private theorem countLeading_cons (word : String) (line : SourceLine) (lines : List SourceLine) :
    countLeading word (line :: lines) = countLeading word lines + if leadingWord line.text = word then 1 else 0 := by
  simp [countLeading, List.countP_cons]

namespace ClosesAll
variable {depth : Nat} {line : SourceLine} {lines : List SourceLine}

private theorem nil : ClosesAll depth [] ↔ depth = 0 := by
  constructor
  · intro all
    simpa [countLeading] using all.level.symm
  · rintro rfl
    refine ⟨rfl, fun front begins => ?_⟩
    rw [List.prefix_nil.mp begins]
    exact Nat.zero_le _

private theorem cons {deeper : Nat}
    (counted : deeper + (if leadingWord line.text = "endif" then 1 else 0) =
      depth + if leadingWord line.text = "if" then 1 else 0) :
    ClosesAll depth (line :: lines) ↔ ClosesAll deeper lines := by
  have shifted (front : List SourceLine) : countLeading "endif" (line :: front) ≤ countLeading "if" (line :: front) + depth ↔
      countLeading "endif" front ≤ countLeading "if" front + deeper := by
    rw [countLeading_cons, countLeading_cons]
    omega
  constructor
  · rintro ⟨level, above⟩
    refine ⟨?_, fun front begins => (shifted front).mp (above _ ((List.prefix_cons_inj line).mpr begins))⟩
    rw [countLeading_cons, countLeading_cons] at level
    omega
  · rintro ⟨level, above⟩
    refine ⟨?_, fun front begins => ?_⟩
    · rw [countLeading_cons, countLeading_cons]
      omega
    · rcases List.prefix_cons_iff.mp begins with rfl | ⟨rest, rfl, within⟩
      · exact Nat.zero_le _
      · exact (shifted rest).mpr (above rest within)

private theorem opened (opens : leadingWord line.text = "if") :
    ClosesAll depth (line :: lines) ↔ ClosesAll (depth + 1) lines :=
  cons (by simp [opens])

private theorem closed (closes : leadingWord line.text = "endif") :
    ClosesAll (depth + 1) (line :: lines) ↔ ClosesAll depth lines :=
  cons (by simp [closes])

private theorem passed (opens : leadingWord line.text ≠ "if") (closes : leadingWord line.text ≠ "endif") :
    ClosesAll depth (line :: lines) ↔ ClosesAll depth lines :=
  cons (by simp [opens, closes])

private theorem not_stray (closes : leadingWord line.text = "endif") : ¬ ClosesAll 0 (line :: lines) := by
  intro all
  have first := all.above [line] (by simp)
  simp [countLeading, closes] at first

end ClosesAll

/-! The scan. -/

section
variable {depth : Nat} {line : SourceLine} {rest : List SourceLine}

private theorem linesToEndif_opened (opens : leadingWord line.text = "if") :
    linesToEndif depth (line :: rest) = (linesToEndif (depth + 1) rest).map (· + 1) := by
  have word : leadingKeyword? line.text = some .condition := leadingKeyword?_eq_some.mpr opens
  simp only [linesToEndif, word]

private theorem linesToEndif_closed (closes : leadingWord line.text = "endif") :
    linesToEndif (depth + 1) (line :: rest) = (linesToEndif depth rest).map (· + 1) := by
  have word : leadingKeyword? line.text = some .endCondition := leadingKeyword?_eq_some.mpr closes
  simp only [linesToEndif, word]

private theorem linesToEndif_found (closes : leadingWord line.text = "endif") :
    linesToEndif 0 (line :: rest) = some 1 := by
  have word : leadingKeyword? line.text = some .endCondition := leadingKeyword?_eq_some.mpr closes
  simp only [linesToEndif, word]

private theorem linesToEndif_passed (opens : leadingWord line.text ≠ "if")
    (closes : leadingWord line.text ≠ "endif") :
    linesToEndif depth (line :: rest) = (linesToEndif depth rest).map (· + 1) := by
  have opener : leadingKeyword? line.text ≠ some .condition := mt leadingKeyword?_eq_some.mp opens
  have closer : leadingKeyword? line.text ≠ some .endCondition := mt leadingKeyword?_eq_some.mp closes
  simp only [linesToEndif]

/-- The scan stops at an `endif` that comes after lines which close all that is open inside the condition. -/
theorem linesToEndif_of_closesAll {between : List SourceLine} (all : ClosesAll depth between)
    (closes : leadingWord line.text = "endif") : linesToEndif depth (between ++ line :: rest) = some (between.length + 1) := by
  induction between generalizing depth with
  | nil =>
    obtain rfl := ClosesAll.nil.mp all
    exact linesToEndif_found closes
  | cons first between ih =>
    rw [List.cons_append, List.length_cons]
    by_cases opening : leadingWord first.text = "if"
    · rw [linesToEndif_opened opening, ih ((ClosesAll.opened opening).mp all)]
      rfl
    · by_cases closing : leadingWord first.text = "endif"
      · cases depth with
        | zero => exact absurd all (ClosesAll.not_stray closing)
        | succ depth =>
          rw [linesToEndif_closed closing, ih ((ClosesAll.closed closing).mp all)]
          rfl
      · rw [linesToEndif_passed opening closing, ih ((ClosesAll.passed opening closing).mp all)]
        rfl

theorem closesAll_of_linesToEndif {lines : List SourceLine} {count : Nat} (found : linesToEndif depth lines = some count) :
    ∃ between line rest, lines = between ++ line :: rest ∧ count = between.length + 1 ∧
      leadingWord line.text = "endif" ∧ ClosesAll depth between := by
  induction lines generalizing depth count with
  | nil => cases found
  | cons first lines ih =>
    -- The first line is one of the lines between, and the scan goes on behind it.
    have further {deeper : Nat} (found : (linesToEndif deeper lines).map (· + 1) = some count)
        (all : ∀ between, ClosesAll deeper between → ClosesAll depth (first :: between)) :
        ∃ between line rest, first :: lines = between ++ line :: rest ∧ count = between.length + 1 ∧
          leadingWord line.text = "endif" ∧ ClosesAll depth between := by
      obtain ⟨fewer, later, rfl⟩ := Option.map_eq_some_iff.mp found
      obtain ⟨between, line, rest, rfl, rfl, closes, closed⟩ := ih later
      exact ⟨first :: between, line, rest, rfl, rfl, closes, all between closed⟩
    by_cases opening : leadingWord first.text = "if"
    · rw [linesToEndif_opened opening] at found
      exact further found fun _ => (ClosesAll.opened opening).mpr
    · by_cases closing : leadingWord first.text = "endif"
      · cases depth with
        | zero =>
          rw [linesToEndif_found closing] at found
          obtain rfl := Option.some.inj found
          exact ⟨[], first, lines, rfl, rfl, closing, ClosesAll.nil.mpr rfl⟩
        | succ depth =>
          rw [linesToEndif_closed closing] at found
          exact further found fun _ => (ClosesAll.closed closing).mpr
      · rw [linesToEndif_passed opening closing] at found
        exact further found fun _ => (ClosesAll.passed opening closing).mpr

end

/-! Indices into the whole list of lines. -/

theorem isPastEndif_iff {lines : List SourceLine} {start index : Nat} :
    IsPastEndif lines start index ↔ ∃ between line rest, lines.drop start = between ++ line :: rest ∧
      index = start + (between.length + 1) ∧ leadingWord line.text = "endif" ∧ ClosesAll 0 between := by
  constructor
  · rintro ⟨later, -, ⟨line, found, closes⟩, level, above⟩
    obtain ⟨offset, rfl⟩ := Nat.exists_eq_add_of_lt later
    have size : start + offset + 1 - 1 - start = offset := by omega
    rw [size] at level above
    rw [Nat.add_sub_cancel, ← List.getElem?_drop] at found
    obtain ⟨inside, rfl⟩ := List.getElem?_eq_some_iff.mp found
    refine ⟨(lines.drop start).take offset, _, (lines.drop start).drop (offset + 1), ?_, ?_, closes, level.symm, above⟩
    · rw [List.cons_getElem_drop_succ, List.take_append_drop]
    · rw [List.length_take_of_le inside.le, Nat.add_assoc]
  · rintro ⟨between, line, rest, split, rfl, closes, level, above⟩
    have size : start + (between.length + 1) - 1 - start = between.length := by omega
    have lengths := congrArg List.length split
    rw [List.length_drop, List.length_append, List.length_cons] at lengths
    refine ⟨by omega, by omega, ⟨line, ?_, closes⟩, ?_, ?_⟩
    · rw [← Nat.add_assoc, Nat.add_sub_cancel, ← List.getElem?_drop, split]
      simp
    · rw [size, split, List.take_left]
      exact level.symm
    · rw [size, split, List.take_left]
      exact above

theorem skipToEndif_eq_ok {lines : List SourceLine} {start index : Nat} :
    skipToEndif lines start = .ok index ↔ IsPastEndif lines start index := by
  rw [isPastEndif_iff, skipToEndif]
  constructor
  · intro skipped
    split at skipped
    · rename_i count found
      obtain ⟨between, line, rest, split, rfl, closes, all⟩ := closesAll_of_linesToEndif found
      exact ⟨between, line, rest, split, (Except.ok.inj skipped).symm, closes, all⟩
    · cases skipped
  · rintro ⟨between, line, rest, split, rfl, closes, all⟩
    rw [split, linesToEndif_of_closesAll all closes]

theorem skipToEndif_error {lines : List SourceLine} {start : Nat} {cause : Cause}
    (failed : skipToEndif lines start = .error cause) : cause = .unclosedIf := by
  unfold skipToEndif at failed
  split at failed
  · cases failed
  · exact (Except.error.inj failed).symm

/-- The scan finds the `endif` that belongs to a condition, and only this one; it fails exactly if there is none. -/
theorem skipToEndif_finds_matching (lines : List SourceLine) (start : Nat) :
    (∀ index, skipToEndif lines start = .ok index ↔ IsPastEndif lines start index) ∧
    (∀ index other, IsPastEndif lines start index → IsPastEndif lines start other → other = index) ∧
    ((∃ cause, skipToEndif lines start = .error cause) ↔ ¬ ∃ index, IsPastEndif lines start index) ∧
    ∀ cause, skipToEndif lines start = .error cause → cause.kind = .mismatchedBlock := by
  refine ⟨fun index => skipToEndif_eq_ok, fun index other one two => ?_, ?_, fun cause failed => ?_⟩
  · -- Whatever fits is what the scan answers, and it has one answer.
    have same := (skipToEndif_eq_ok.mpr two).symm.trans (skipToEndif_eq_ok.mpr one)
    exact Except.ok.inj same
  · simp only [← skipToEndif_eq_ok]
    cases skipToEndif lines start <;> simp
  · rw [skipToEndif_error failed]
    rfl

/-- An inner condition is passed over with its `endif`, and so is a text that holds both words. -/
theorem skipToEndif_finds_outer :
    let lines : List SourceLine := [⟨1, "if x > 1"⟩, ⟨2, "IF y > 2"⟩, ⟨3, "text if endif"⟩, ⟨4, "endif"⟩, ⟨5, "circle 4"⟩,
      ⟨6, "EndIf now"⟩, ⟨7, "endif"⟩]
    skipToEndif lines 1 = .ok 6 ∧ IsPastEndif lines 1 6 ∧ ¬ IsPastEndif lines 1 4 ∧ ¬ IsPastEndif lines 1 7 ∧
    ¬ ∃ index, IsPastEndif lines 7 index := by
  intro lines
  obtain ⟨found, only, -⟩ := skipToEndif_finds_matching lines 1
  have past : IsPastEndif lines 1 6 := (found 6).mp rfl
  refine ⟨rfl, past, fun other => ?_, fun other => ?_, ?_⟩
  · exact absurd (only 6 4 past other) (by decide)
  · exact absurd (only 6 7 past other) (by decide)
  · exact (skipToEndif_finds_matching lines 7).2.2.1.mp ⟨.unclosedIf, rfl⟩

end Sketch
