import Sketch.Proofs.LineLanguage

/-! What a line begins with, and what it is read as. Blocks are collected and conditions passed over by the first word
of each line, between blanks of every script and in the lower case of every script; a line is read by names of plain
letters with spaces and tabs between them. Where a line can be read, the two agree. -/
namespace Sketch
open Text

private theorem mem_lowerAfter {text : List Char} {c : Char} (inside : c ∈ text)
    (caseless : ∀ before after, lowerChar before c after = [c]) (before : List Char) : c ∈ lowerAfter before text := by
  induction text generalizing before with
  | nil => cases inside
  | cons first rest ih =>
    rw [lowerAfter]
    rcases List.mem_cons.mp inside with rfl | later
    · simp [caseless]
    · exact List.mem_append_right _ (ih later _)

/-- A call keeps its parenthesis in the first word, and no keyword has one. -/
theorem leadingKeyword?_of_bracketed {line : String} {name : List Char} {args : List String} {rest : List Char}
    (split : trim line.toList = name ++ rest) (named : IsName name) (bracketed : Bracketed args rest) :
    leadingKeyword? line = none := by
  obtain ⟨later, rfl⟩ : ∃ later, rest = '(' :: later := by cases bracketed <;> exact ⟨_, rfl⟩
  have solid : ∀ c ∈ name, !isBlank c := fun c inside => by simpa using not_isBlank_of_isNameChar (named.all c inside)
  have left : trimLeft (trim line.toList) = trim line.toList := dropWhile_eq_self (trim_head line.toList)
  have opening : '(' ∈ firstWord line.toList := by
    rw [← firstWord_trim, firstWord, left, split, List.takeWhile_append_of_pos solid]
    apply List.mem_append_right
    rw [List.takeWhile_cons_of_pos (by decide)]
    exact List.mem_cons_self
  have kept : '(' ∈ (leadingWord line).toList := by
    rw [leadingWord, String.toList_ofList]
    exact mem_lowerAfter opening (fun _ _ => rfl) []
  rw [Option.eq_none_iff_forall_ne_some]
  intro keyword found
  rw [leadingKeyword?_eq_some.mp found] at kept
  exact absurd (keyword.word_isLower.2 _ kept) (by decide)

theorem leadingKeyword?_eq_keyword? {line : String} {command : Command} (parsed : Command.parse line = .ok command) :
    leadingKeyword? line = command.keyword? := by
  rcases (spells_of_parse parsed).leading with ⟨keyword, word, rest, written, -⟩ |
    ⟨name, args, rest, rfl, split, named, bracketed⟩
  · rw [written]
    exact leadingKeyword?_of_parse parsed written
  · exact leadingKeyword?_of_bracketed split named.1 bracketed

private theorem keyword?_eq_some_iff {line : String} {command : Command} (parsed : Command.parse line = .ok command)
    (keyword : Keyword) : command.keyword? = some keyword ↔ leadingWord line = keyword.word := by
  rw [← leadingKeyword?_eq_keyword? parsed, leadingKeyword?_eq_some]

private theorem Command.keyword?_eq_none {command : Command} (wordless : command.keyword? = none) :
    ∃ name args, command = .call name args := by
  cases command with
  | call name args => exact ⟨name, args, rfl⟩
  | _ => cases wordless

/-- A line that can be read is a command of the keyword that its first word is, or it is a call and its first word is no
keyword. So it opens or closes a condition, a loop or a method exactly if its first word says so. -/
theorem leadingWord_tells_command {line : String} {command : Command} (parsed : Command.parse line = .ok command) :
    ((∃ keyword, leadingWord line = keyword.word ∧ command.keyword? = some keyword) ∨
      (∀ keyword : Keyword, leadingWord line ≠ keyword.word) ∧ ∃ name args, command = .call name args) ∧
    ((∃ test, command = .condition test) ↔ leadingWord line = "if") ∧
    (command = .endCondition ↔ leadingWord line = "endif") ∧
    (command = .loop ↔ leadingWord line = "loop") ∧
    (command = .endLoop ↔ leadingWord line = "endloop") ∧
    ((∃ name params, command = .method name params) ↔ leadingWord line = "method") ∧
    (command = .endMethod ↔ leadingWord line = "endmethod") := by
  have tells := keyword?_eq_some_iff parsed
  refine ⟨?_, ?_, ?_, ?_, ?_, ?_, ?_⟩
  · cases word : command.keyword? with
    | some keyword => exact .inl ⟨keyword, (tells keyword).mp word, rfl⟩
    | none =>
      refine .inr ⟨fun keyword same => ?_, Command.keyword?_eq_none word⟩
      rw [(tells keyword).mpr same] at word
      cases word
  · refine Iff.trans ?_ (tells .condition)
    cases command <;> simp [Command.keyword?]
  · refine Iff.trans ?_ (tells .endCondition)
    cases command <;> simp [Command.keyword?]
  · refine Iff.trans ?_ (tells .loop)
    cases command <;> simp [Command.keyword?]
  · refine Iff.trans ?_ (tells .endLoop)
    cases command <;> simp [Command.keyword?]
  · refine Iff.trans ?_ (tells .method)
    cases command <;> simp [Command.keyword?]
  · refine Iff.trans ?_ (tells .endMethod)
    cases command <;> simp [Command.keyword?]

/-- An `endif` between wide blanks, and a call whose name begins with a keyword. -/
theorem leadingWord_tells_endif_and_call :
    Command.parse "\u3000eNDiF\u00a0" = .ok .endCondition ∧ leadingWord "\u3000eNDiF\u00a0" = "endif" ∧
    Command.parse "Loops(1)" = .ok (.call "Loops" ["1"]) ∧ leadingWord "Loops(1)" ≠ "loop" := by
  have closing : Command.parse "\u3000eNDiF\u00a0" = .ok .endCondition := by rfl
  have calling : Command.parse "Loops(1)" = .ok (.call "Loops" ["1"]) := by rfl
  obtain ⟨-, -, closes, -⟩ := leadingWord_tells_command closing
  obtain ⟨-, -, -, opens, -⟩ := leadingWord_tells_command calling
  refine ⟨closing, closes.mp rfl, calling, fun same => ?_⟩
  cases opens.mpr same

end Sketch
