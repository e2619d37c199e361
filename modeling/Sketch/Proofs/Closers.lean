import Sketch.Canvas.Recording
import Sketch.Proofs.Checking
import Sketch.Proofs.LineLanguage

/-! Lines that end a block. While a block is open its lines are not read, and the first word alone ends it; the check
reads every line. So the two agree on the word, and they differ about a line that goes on after it. -/
namespace Sketch
open Text

/-- A line whose keyword takes nothing is the command of that keyword if the word is all there is, and else it cannot be
read on from the end of the word. -/
theorem parse_bare {line : String} {keyword : Keyword} {command : Command} (begun : leadingKeyword? line = some keyword)
    (bare : keyword.form = .bare command) :
    Command.parse line = if trim line.toList = firstWord line.toList then .ok command
      else .error (.cannotParse (strip line) (keyword.word.length + 1)) := by
  have spelled := isWord_firstWord begun
  obtain ⟨rest, split, stops⟩ := trim_eq_firstWord line.toList
  rw [strip, split]
  generalize firstWord line.toList = word at spelled split
  -- No blank continues a name, so the name that is read is the first word.
  have scanned : scanName (word ++ rest) = some ((String.ofList word).toList, rest) := by
    rw [String.toList_ofList]
    exact scanName_eq_some.mpr ⟨rfl, spelled.isName, fun c first named => not_isBlank_of_isNameChar named (stops c first)⟩
  have read : readLine (word ++ rest) = Cursor.finish (.ok command) ⟨rest, word ++ rest⟩ := by
    simp only [readLine, Cursor.take_eq (spelled.isName.begins rest).1 scanned, bind, Except.bind]
    rw [leadingForm_isWord spelled, bare]
    rfl
  have size : word.length = keyword.word.length := by
    rw [← String.length_toList, ← spelled, List.length_map]
  simp only [Command.parse, begun, split, read]
  cases rest with
  | nil => simp [Cursor.finish]
  | cons c rest => simp [Cursor.finish, Stuck.column, Stuck.tail, size]

/-! Ending a block. -/

private theorem BlockKind.closer_form (kind : BlockKind) : kind.closer.form = .bare kind.ending := by
  cases kind <;> rfl

private theorem Blocks.closeBlock_ok {blocks after : Blocks} {kind : BlockKind} {finished : Capture}
    (closed : blocks.closeBlock kind = .ok (finished, after)) :
    blocks.capture = some finished ∧ kind = finished.opening.kind ∧ after = { blocks with capture := none } := by
  unfold Blocks.closeBlock at closed
  split at closed
  · cases closed
  · rename_i capture opened
    split at closed
    · rename_i same
      cases closed
      exact ⟨opened, same.symm, rfl⟩
    · cases closed

private theorem Blocks.closes_of_closer (kind : BlockKind) {blocks after : Blocks} {finished : Capture}
    {line : SourceLine} (word : leadingKeyword? line.text = some kind.closer)
    (closed : (blocks.closeBlock kind).map (fun closed => (some closed.1, closed.2)) = .ok (some finished, after)) :
    blocks.capture = some finished ∧ leadingKeyword? line.text = some finished.opening.kind.closer ∧
      after = { blocks with capture := none } := by
  obtain ⟨⟨capture, rest⟩, found, same⟩ := except_map_ok closed
  cases same
  obtain ⟨opened, rfl, released⟩ := Blocks.closeBlock_ok found
  exact ⟨opened, word, released⟩

theorem Blocks.feed_closes {blocks after : Blocks} {finished : Capture} {line : SourceLine}
    (closes : blocks.feed line = .ok (some finished, after)) :
    blocks.capture = some finished ∧ leadingKeyword? line.text = some finished.opening.kind.closer ∧
      after = { blocks with capture := none } := by
  unfold Blocks.feed at closes
  split at closes
  · cases closes
  · cases closes
  · rename_i word
    exact Blocks.closes_of_closer .loop word closes
  · rename_i word
    exact Blocks.closes_of_closer .method word closes
  · cases closes

theorem unread_of_mem_checkProgram {program : String} {all : Bool} {issue : Issue}
    (reported : issue ∈ checkProgram program all) : Command.parse issue.line.text = .error issue.cause := by
  have full : issue ∈ checkProgram program true := by
    cases all with
    | true => exact reported
    | false =>
      rw [checkProgram, checkLines_first] at reported
      exact List.mem_of_mem_take reported
  exact (mem_checkLines.mp full).2

def SourceLine.IsSingle (line : SourceLine) : Prop :=
  line.text.toList = firstWord line.text.toList

instance : DecidablePred SourceLine.IsSingle := fun line =>
  inferInstanceAs (Decidable (line.text.toList = firstWord line.text.toList))

/-- A line that ends a block begins with the closing word of that block, and is read as the end of such a block if it is
this word alone. If something follows the word, the line ends the block all the same, but it cannot be read from there
on, and this is an issue of every program that has the line. -/
theorem closing_line_read_iff_single {blocks after : Blocks} {finished : Capture} {line : SourceLine}
    (trimmed : trim line.text.toList = line.text.toList) (closes : blocks.feed line = .ok (some finished, after)) :
    let kind := finished.opening.kind
    let beyond := Cause.cannotParse line.text (kind.closer.word.length + 1)
    blocks.capture = some finished ∧ after = { blocks with capture := none } ∧
    IsWord kind.closer (firstWord line.text.toList) ∧
    (line.IsSingle → Command.parse line.text = .ok kind.ending) ∧
    (¬ line.IsSingle → Command.parse line.text = .error beyond) ∧
    ∀ program, line ∈ splitProgram program →
      ((∃ issue ∈ checkProgram program true, issue.line = line) ↔ ¬ line.IsSingle) ∧
      ∀ all, ∀ issue ∈ checkProgram program all, issue.line = line → issue.cause = beyond := by
  intro kind beyond
  obtain ⟨opened, begun, released⟩ := Blocks.feed_closes closes
  have read := parse_bare begun kind.closer_form
  rw [strip, trimmed, String.ofList_toList] at read
  have single : line.IsSingle → Command.parse line.text = .ok kind.ending := fun alone => read.trans (if_pos alone)
  have longer : ¬ line.IsSingle → Command.parse line.text = .error beyond := fun more => read.trans (if_neg more)
  have reported : ∀ {program all}, ∀ issue ∈ checkProgram program all, issue.line = line →
      ¬ line.IsSingle ∧ issue.cause = beyond := by
    rintro program all issue inside rfl
    have unread := unread_of_mem_checkProgram inside
    by_cases alone : issue.line.IsSingle
    · rw [single alone] at unread
      cases unread
    · exact ⟨alone, Except.error.inj (unread.symm.trans (longer alone))⟩
  refine ⟨opened, released, isWord_firstWord begun, single, longer, fun program inside => ⟨⟨?_, fun more => ?_⟩, ?_⟩⟩
  · rintro ⟨issue, listed, same⟩
    exact (reported issue listed same).1
  · exact ⟨⟨line, beyond⟩, mem_checkLines.mpr ⟨inside, longer more⟩, rfl⟩
  · exact fun all issue listed same => (reported issue listed same).2

/-- One and the same method is ended by its closing word, and by a line that goes on after a wide blank. -/
theorem closing_line_read_iff_single_of_method :
    let blocks : Blocks := { capture := some ⟨.method "m" ["x"], [⟨2, "circle x"⟩]⟩ }
    let line : SourceLine := ⟨3, "EndMethod\u3000m"⟩
    let program := "method m x\ncircle x\nEndMethod\u3000m"
    blocks.feed ⟨3, "EndMethod"⟩ = .ok (blocks.capture, {}) ∧ Command.parse "EndMethod" = .ok .endMethod ∧
    blocks.feed line = .ok (blocks.capture, {}) ∧ Command.parse line.text = .error (.cannotParse line.text 10) ∧
    line ∈ splitProgram program ∧ ∃ issue ∈ checkProgram program true, issue.line = line := by
  intro blocks line program
  have short : blocks.feed ⟨3, "EndMethod"⟩ = .ok (some ⟨.method "m" ["x"], [⟨2, "circle x"⟩]⟩, {}) := rfl
  have long : blocks.feed ⟨3, "EndMethod\u3000m"⟩ = .ok (some ⟨.method "m" ["x"], [⟨2, "circle x"⟩]⟩, {}) := rfl
  have inside : line ∈ splitProgram program := by decide +kernel
  have more : ¬ line.IsSingle := by decide
  obtain ⟨-, -, -, read, -⟩ := closing_line_read_iff_single (by decide) short
  obtain ⟨-, -, -, -, unread, reported⟩ := closing_line_read_iff_single (by decide) long
  exact ⟨short, read (by decide), long, unread more, inside, (reported program inside).1.mpr more⟩

/-- Not every line that ends a block can be read: this one ends the loop, the program comes to its end, and the check of
the program reports the line. -/
theorem longer_closing_line_unread :
    let line : SourceLine := ⟨2, "endloop x"⟩
    let blocks : Blocks := { capture := some ⟨.loop, []⟩ }
    trim line.text.toList = line.text.toList ∧ blocks.feed line = .ok (some ⟨.loop, []⟩, {}) ∧
    Command.parse line.text = .error (.cannotParse "endloop x" 8) ∧
    (runScript ({} : Recording) false "loop\nendloop x").reason? = none ∧
    checkProgram "loop\nendloop x" false = [⟨line, .cannotParse "endloop x" 8⟩] := by
  refine ⟨by decide, rfl, rfl, by decide +kernel, by decide +kernel⟩

end Sketch
