import Sketch.Proofs.Causes

/-! Where a reading gets stuck. The text before the reported column is a row of whole tokens, taken one after the other
as the form of the line asks for them. From there every form can be completed, so that text can still become a line. -/
namespace Sketch
open Text

/-! Texts that can be gone on with to one that a form accepts. -/

def Part.sample : Part → String
  | operand | name => "a"
  | switch => "on"

private theorem Part.sample_is (sort : Part) : sort.Is sort.sample.toList := by
  have named : IsName "a".toList := ⟨'a', [], rfl, by decide, by simp⟩
  cases sort with
  | operand => exact .inr named
  | name => exact named
  | switch => exact .inl (by decide)

namespace Form

def Viable (form : Form) (text : List Char) : Prop :=
  ∃ more result, form.Accepts (text ++ more) result

theorem Viable.left {form : Form} {text rest : List Char} (viable : form.Viable (text ++ rest)) : form.Viable text := by
  obtain ⟨more, result, accepted⟩ := viable
  rw [List.append_assoc] at accepted
  exact ⟨rest ++ more, result, accepted⟩

theorem Accepts.viable {form : Form} {text : List Char} {result : Reading} (accepted : form.Accepts text result) :
    form.Viable text :=
  ⟨[], result, by rwa [List.append_nil]⟩

private theorem viable_part {sort : Part} {next : String → Form} {gap rest : List Char} {token : String}
    (gapped : IsGap gap) (is : sort.Is token.toList) (later : (next token).Viable rest) :
    (part sort next).Viable (gap ++ token.toList ++ rest) := by
  obtain ⟨more, result, accepted⟩ := later
  exact ⟨more, result, gap, token, rest ++ more, by simp only [List.append_assoc], gapped, is, accepted⟩

private theorem accepts_letter {next : String → Reading} {gap content : List Char} (gapped : IsGap gap)
    (oneLine : '\n' ∉ content) :
    (freeText next).Accepts (gap ++ content ++ ['x']) (next (String.ofList (trim (content ++ ['x'])))) := by
  refine .inr ⟨gap, content ++ ['x'], ?_, gapped, ?_, ?_, rfl⟩
  · rw [List.append_assoc]
  · simp
  · simp [oneLine]

private theorem viable_names {next : List String → Reading} {gap rest : List Char} {name : String}
    (gapped : IsGap gap) (named : IsName name.toList) (later : (names next).Viable rest) :
    (names next).Viable (gap ++ name.toList ++ rest) := by
  obtain ⟨more, _, found, spaced, each, rfl⟩ := later
  refine ⟨more, _, name :: found, ?_, List.forall_mem_cons.mpr ⟨named, each⟩, rfl⟩
  simpa only [List.append_assoc] using Spaced.cons gapped spaced

/-- What may follow the first argument of a call and can be gone on with to its closing parenthesis. -/
def ViableArguments (text : List Char) : Prop :=
  ∃ more args, Continued args (text ++ more) ∧ ∀ arg ∈ args, IsOperand arg.toList

private theorem viableArguments_nil : ViableArguments [] :=
  ⟨[')'], [], .close, by simp⟩

private theorem ViableArguments.left {text rest : List Char} (viable : ViableArguments (text ++ rest)) :
    ViableArguments text := by
  obtain ⟨more, args, continued, each⟩ := viable
  rw [List.append_assoc] at continued
  exact ⟨rest ++ more, args, continued, each⟩

private theorem viableArguments_more {gap rest : List Char} {arg : String} (gapped : gap = [] ∨ IsGap gap)
    (operand : IsOperand arg.toList) (later : ViableArguments rest) :
    ViableArguments (',' :: gap ++ arg.toList ++ rest) := by
  obtain ⟨more, args, continued, each⟩ := later
  refine ⟨more, arg :: args, ?_, List.forall_mem_cons.mpr ⟨operand, each⟩⟩
  simpa only [List.cons_append, List.append_assoc] using Continued.more gapped continued

private theorem viable_operands {next : List String → Reading} {rest : List Char} {arg : String}
    (operand : IsOperand arg.toList)
    (later : ViableArguments rest) : (operands next).Viable ('(' :: arg.toList ++ rest) := by
  obtain ⟨more, args, continued, each⟩ := later
  refine ⟨more, _, arg :: args, ?_, List.forall_mem_cons.mpr ⟨operand, each⟩, rfl⟩
  simpa only [List.cons_append, List.append_assoc] using Bracketed.some continued

private theorem viable_opening (next : List String → Reading) : (operands next).Viable ['('] :=
  ⟨[')'], next [], [], .none, by simp, rfl⟩

theorem viable_nil (form : Form) : form.Viable [] := by
  have begin {form : Form} {text : List Char} (viable : form.Viable text) : form.Viable [] := Viable.left viable
  induction form with
  | done reading => exact Accepts.viable ⟨rfl, rfl⟩
  | part sort next ih =>
    have space : IsGap [' '] := ⟨by simp, by simp⟩
    exact begin (viable_part space sort.sample_is (ih _))
  | freeText next => exact Accepts.viable (.inl ⟨rfl, rfl⟩)
  | names next => exact Accepts.viable ⟨[], .nil, by simp, rfl⟩
  | operands next => exact begin (viable_opening next)

private theorem viable_gap {sort : Part} {next : String → Form} {gap : List Char} (gapped : IsGap gap) :
    (part sort next).Viable gap :=
  (viable_part gapped sort.sample_is (viable_nil _)).left.left

end Form

/-! Cursors that get stuck. -/

namespace Cursor
variable {cursor middle next : Cursor} {front more : List Char} {reason : Stuck} {viable later : List Char → Prop}

/-- What is read before the cursor gets stuck is viable; if it gets stuck at the end of the line, all that was left is.
The last token is then the one before the cursor or one that was left. -/
def Sticks (viable : List Char → Prop) (cursor : Cursor) : Stuck → Prop
  | .unexpected rest => rest ≠ [] ∧ ∃ used, cursor.rest = used ++ rest ∧ viable used
  | .ended last => viable cursor.rest ∧ (last = cursor.last ∨ last ≠ [] ∧ last <:+ cursor.rest)

structure Advances (front : List Char) (cursor next : Cursor) : Prop where
  split : cursor.rest = front ++ next.rest
  given : next.last ≠ []
  ends : next.last <:+ cursor.rest

theorem Advances.trans (first : Advances front cursor middle) (second : Advances more middle next) :
    Advances (front ++ more) cursor next := by
  refine ⟨?_, second.given, second.ends.trans ⟨front, first.split.symm⟩⟩
  rw [first.split, second.split, List.append_assoc]

private theorem Sticks.back (advances : Advances front cursor next) (stuck : next.Sticks later reason)
    (grows : ∀ used, later used → viable (front ++ used)) : cursor.Sticks viable reason := by
  have behind : next.rest <:+ cursor.rest := ⟨front, advances.split.symm⟩
  cases reason with
  | unexpected rest =>
    obtain ⟨given, used, split, good⟩ := stuck
    exact ⟨given, front ++ used, by rw [advances.split, split, List.append_assoc], grows used good⟩
  | ended last =>
    obtain ⟨good, rfl | ⟨given, ends⟩⟩ := stuck
    · exact ⟨advances.split ▸ grows _ good, .inr ⟨advances.given, advances.ends⟩⟩
    · exact ⟨advances.split ▸ grows _ good, .inr ⟨given, ends.trans behind⟩⟩

private theorem Sticks.after (advances : Advances front cursor next) (stuck : next.Sticks (· = []) reason)
    (good : viable front) : cursor.Sticks viable reason := by
  refine stuck.back advances ?_
  rintro _ rfl
  rwa [List.append_nil]

private theorem take_error {scan : Scan} (failed : cursor.take scan = .error reason) (begins : viable []) :
    cursor.Sticks viable reason := by
  unfold take at failed
  split at failed
  · rename_i empty
    cases failed
    rw [List.isEmpty_iff] at empty
    exact ⟨by rwa [empty], .inl rfl⟩
  · rename_i given
    split at failed
    · cases failed
      exact ⟨by simpa using given, [], rfl, begins⟩
    · cases failed

private theorem take_advances {scan : Scan} {token : String} (taken : cursor.take scan = .ok (token, next))
    (split : cursor.rest = token.toList ++ next.rest) : Advances token.toList cursor next := by
  unfold take at taken
  split at taken
  · cases taken
  · rename_i given
    split at taken
    · cases taken
    · cases taken
      exact ⟨split, by simpa using given, List.suffix_rfl⟩

private theorem finish_error {α : Type} {result : α} (failed : next.finish result = .error reason)
    (split : cursor.rest = front ++ next.rest) (good : viable front) : cursor.Sticks viable reason := by
  unfold finish at failed
  split at failed
  · cases failed
  · rename_i given
    cases failed
    exact ⟨by simpa using given, front, split, good⟩

private theorem takePart_error {scan : Scan} (failed : cursor.takePart scan = .error reason) (begins : viable [])
    (parted : ∀ gap, IsGap gap → viable gap) : cursor.Sticks viable reason := by
  rcases except_bind_error failed with gapless | ⟨⟨gap, middle⟩, gapTaken, tokenless⟩
  · exact take_error gapless begins
  · obtain ⟨split, gapped, -⟩ := scanGap_split (take_ok gapTaken)
    exact Sticks.after (take_advances gapTaken split) (take_error tokenless rfl) (parted _ gapped)

private theorem takePart_advances (sort : Part) {token : String}
    (taken : cursor.takePart sort.scan = .ok (token, next)) :
    ∃ gap, IsGap gap ∧ sort.Is token.toList ∧ Advances (gap ++ token.toList) cursor next := by
  obtain ⟨⟨gap, middle⟩, gapTaken, tokenTaken⟩ := except_bind_ok taken
  obtain ⟨gapSplit, gapped, -⟩ := scanGap_split (take_ok gapTaken)
  obtain ⟨split, is⟩ := Part.scan_split (take_ok tokenTaken)
  exact ⟨gap.toList, gapped, is, (take_advances gapTaken gapSplit).trans (take_advances tokenTaken split)⟩

private theorem takeNames_error {next : List String → Reading} {bound : Nat}
    (failed : cursor.takeNames bound = .error reason) : cursor.Sticks (Form.names next).Viable reason := by
  induction bound generalizing cursor with
  | zero => cases failed
  | succ bound ih =>
    simp only [takeNames] at failed
    split at failed
    · cases failed
    · rcases except_bind_error failed with nameless | ⟨⟨name, middle⟩, taken, rest⟩
      · exact takePart_error nameless (Form.viable_nil _) fun gap gapped =>
          (Form.viable_names gapped Part.name.sample_is (Form.viable_nil _)).left.left
      · obtain ⟨gap, gapped, named, advances⟩ := takePart_advances Part.name taken
        rcases except_bind_error rest with stuck | ⟨_, _, done⟩
        · exact (ih stuck).back advances fun used later => Form.viable_names gapped named later
        · cases done

private theorem takeClose_error (failed : cursor.takeClose = .error reason) (begins : viable []) :
    cursor.Sticks viable reason := by
  rcases except_bind_error failed with unclosed | ⟨_, _, done⟩
  · exact take_error unclosed begins
  · cases done

private theorem skipGap_advances (advances : Advances front cursor middle) :
    ∃ gap, (gap = [] ∨ IsGap gap) ∧ Advances (front ++ gap) cursor middle.skipGap := by
  unfold skipGap
  split
  · rename_i gap rest scanned
    obtain ⟨split, gapped, -⟩ := scanGap_split scanned
    have given : middle.rest ≠ [] := by simp [split, gapped.1]
    exact ⟨gap, .inr gapped, advances.trans ⟨split, given, List.suffix_rfl⟩⟩
  · exact ⟨[], .inl rfl, by rwa [List.append_nil]⟩

private theorem takeMoreOperands_error {bound : Nat} (failed : cursor.takeMoreOperands bound = .error reason) :
    cursor.Sticks Form.ViableArguments reason := by
  induction bound generalizing cursor with
  | zero => exact takeClose_error failed Form.viableArguments_nil
  | succ bound ih =>
    simp only [takeMoreOperands] at failed
    split at failed
    · rcases except_bind_error failed with commaless | ⟨⟨comma, afterComma⟩, commaTaken, rest⟩
      · exact take_error commaless Form.viableArguments_nil
      · obtain ⟨commaSplit, written⟩ := scanChar_eq_some.mp (take_ok commaTaken)
        have commaAdvances := take_advances commaTaken (by rw [written, commaSplit]; rfl)
        rw [written] at commaAdvances
        obtain ⟨gap, gapped, gapAdvances⟩ := skipGap_advances commaAdvances
        rcases except_bind_error rest with argless | ⟨⟨arg, afterArg⟩, argTaken, rest⟩
        · have begun := Form.viableArguments_more gapped Part.operand.sample_is Form.viableArguments_nil
          exact Sticks.after gapAdvances (take_error argless rfl) begun.left.left
        · obtain ⟨split, operand⟩ := scanOperand_split (take_ok argTaken)
          rcases except_bind_error rest with stuck | ⟨_, _, done⟩
          · refine (ih stuck).back (gapAdvances.trans (take_advances argTaken split)) ?_
            intro used later
            exact Form.viableArguments_more gapped operand later
          · cases done
    · exact takeClose_error failed Form.viableArguments_nil

private theorem takeOperands_error {next : List String → Reading} (failed : cursor.takeOperands = .error reason) :
    cursor.Sticks (Form.operands next).Viable reason := by
  rcases except_bind_error failed with unopened | ⟨⟨opening, inside⟩, openTaken, rest⟩
  · exact take_error unopened (Form.viable_nil _)
  · obtain ⟨openSplit, written⟩ := scanChar_eq_some.mp (take_ok openTaken)
    have advances := take_advances openTaken (by rw [written, openSplit]; rfl)
    rw [written] at advances
    dsimp only at rest
    split at rest
    · exact Sticks.after advances (takeClose_error rest rfl) (Form.viable_opening next)
    · rcases except_bind_error rest with argless | ⟨⟨arg, afterArg⟩, argTaken, rest⟩
      · exact Sticks.after advances (take_error argless rfl) (Form.viable_opening next)
      · obtain ⟨split, operand⟩ := scanOperand_split (take_ok argTaken)
        rcases except_bind_error rest with stuck | ⟨_, _, done⟩
        · refine (takeMoreOperands_error stuck).back (advances.trans (take_advances argTaken split)) ?_
          intro used later
          exact Form.viable_operands operand later
        · cases done

end Cursor

theorem Form.read_error {form : Form} {cursor : Cursor} {reason : Stuck} (failed : form.read cursor = .error reason) :
    cursor.Sticks form.Viable reason := by
  induction form generalizing cursor with
  | done reading => exact Cursor.finish_error failed rfl (viable_nil _)
  | part sort next ih =>
    rcases except_bind_error failed with partless | ⟨⟨token, middle⟩, taken, rest⟩
    · exact Cursor.takePart_error partless (viable_nil _) fun gap gapped => viable_gap gapped
    · obtain ⟨gap, gapped, is, advances⟩ := Cursor.takePart_advances sort taken
      exact (ih token rest).back advances fun used later => viable_part gapped is later
  | freeText next =>
    simp only [Form.read] at failed
    split at failed
    · cases failed
    · rcases except_bind_error failed with textless | ⟨⟨content, middle⟩, taken, rest⟩
      · refine Cursor.takePart_error textless (viable_nil _) fun gap gapped => ?_
        rw [← List.append_nil gap]
        exact ⟨['x'], _, accepts_letter gapped List.not_mem_nil⟩
      · obtain ⟨gap, tail, split, gapped, scanned⟩ := Cursor.takePart_ok taken
        obtain ⟨tailSplit, -, oneLine, -⟩ := scanRun_eq_some.mp scanned
        have unbroken : '\n' ∉ content.toList := fun feed => by simpa using oneLine _ feed
        refine Cursor.finish_error rest ?_ ⟨['x'], _, accepts_letter gapped unbroken⟩
        rw [split, tailSplit, List.append_assoc]
  | names next =>
    rcases except_bind_error failed with stuck | ⟨⟨found, middle⟩, taken, rest⟩
    · exact Cursor.takeNames_error stuck
    · obtain ⟨used, split, spaced, each⟩ := Cursor.takeNames_ok taken
      exact Cursor.finish_error rest split (Accepts.viable ⟨found, spaced, each, rfl⟩)
  | operands next =>
    rcases except_bind_error failed with stuck | ⟨⟨found, middle⟩, taken, rest⟩
    · exact Cursor.takeOperands_error stuck
    · obtain ⟨used, split, bracketed, each⟩ := Cursor.takeOperands_ok taken
      exact Cursor.finish_error rest split (Accepts.viable ⟨found, bracketed, each, rfl⟩)

/-! Lines that get stuck. -/

private theorem Part.Is.ends {sort : Part} {token rest : List Char} (is : sort.Is token) (gap : List Char)
    (solid : ∀ c ∈ rest.getLast?, ¬ isBlank c) : ∀ c ∈ (gap ++ (token ++ rest)).getLast?, ¬ isBlank c := by
  intro c ends
  rw [List.getLast?_append_of_ne_nil _ (is.begins rest).1, List.getLast?_append] at ends
  cases last : rest.getLast? with
  | none =>
    rw [last, Option.none_or] at ends
    exact is.solid c (List.mem_of_getLast? ends)
  | some d =>
    rw [last, Option.some_or] at ends
    exact solid c (last.trans ends)

namespace Form

theorem Accepts.solid {form : Form} {text : List Char} {result : Reading} (accepted : form.Accepts text result) :
    ∃ more other, form.Accepts (text ++ more) other ∧ ∀ c ∈ (text ++ more).getLast?, ¬ isBlank c := by
  induction form generalizing text with
  | done reading =>
    obtain ⟨rfl, -⟩ := accepted
    exact ⟨[], reading, ⟨rfl, rfl⟩, by simp⟩
  | part sort next ih =>
    obtain ⟨gap, token, rest, rfl, gapped, is, later⟩ := accepted
    obtain ⟨more, other, longer, solid⟩ := ih token later
    refine ⟨more, other, ?_⟩
    rw [List.append_assoc, List.append_assoc]
    exact ⟨⟨gap, token, rest ++ more, rfl, gapped, is, longer⟩, is.ends gap solid⟩
  | freeText next =>
    obtain ⟨rfl, -⟩ | ⟨gap, content, rfl, gapped, -, oneLine, -⟩ := accepted
    · exact ⟨[], _, .inl ⟨rfl, rfl⟩, by simp⟩
    · refine ⟨['x'], _, accepts_letter gapped oneLine, ?_⟩
      simp only [List.getLast?_concat, Option.mem_some_iff, forall_eq']
      decide
  | names next =>
    obtain ⟨found, spaced, each, rfl⟩ := accepted
    refine ⟨[], next found, ?_⟩
    rw [List.append_nil]
    refine ⟨⟨found, spaced, each, rfl⟩, ?_⟩
    induction spaced with
    | nil => simp
    | cons gapped more ih =>
      obtain ⟨first, others⟩ := List.forall_mem_cons.mp each
      have named : Part.name.Is _ := first
      exact named.ends _ (ih others)
  | operands next =>
    obtain ⟨found, bracketed, each, rfl⟩ := accepted
    refine ⟨[], next found, ?_⟩
    rw [List.append_nil]
    refine ⟨⟨found, bracketed, each, rfl⟩, ?_⟩
    rw [bracketed.last]
    simp only [Option.mem_some_iff, forall_eq']
    decide

end Form

/-- The text can be gone on with to a line that the grammar accepts. What that line says of colors, conditions and
names of methods may still be wrong. -/
def IsViable (text : List Char) : Prop :=
  ∃ more reading, readLine (text ++ more) = .ok reading

theorem IsViable.left {text rest : List Char} (viable : IsViable (text ++ rest)) : IsViable text := by
  obtain ⟨more, reading, read⟩ := viable
  rw [List.append_assoc] at read
  exact ⟨rest ++ more, reading, read⟩

theorem isViable_nil : IsViable [] :=
  ⟨"loop".toList, .ok .loop, rfl⟩

private theorem isViable_of_form {name rest : List Char} (named : IsName name)
    (viable : (leadingForm (String.ofList name)).Viable rest) : IsViable (name ++ rest) := by
  obtain ⟨more, _, accepted⟩ := viable
  obtain ⟨further, reading, longer, solid⟩ := accepted.solid
  refine ⟨more ++ further, reading, ?_⟩
  rw [List.append_assoc, ← List.append_assoc rest]
  have leading : Part.name.Is name := named
  exact readLine_of_form named longer (leading.ends [] solid)

/-- A line gets stuck behind a viable text; one that merely ends too early is viable as a whole. -/
theorem readLine_error {text : List Char} {reason : Stuck} (failed : readLine text = .error reason) :
    Cursor.Sticks IsViable ⟨text, text⟩ reason := by
  rcases except_bind_error failed with nameless | ⟨⟨name, cursor⟩, taken, rest⟩
  · exact Cursor.take_error nameless isViable_nil
  · obtain ⟨split, named, -⟩ := scanName_eq_some.mp (Cursor.take_ok taken)
    refine (Form.read_error rest).back (Cursor.take_advances taken split) fun used later => ?_
    exact isViable_of_form named (by rwa [String.ofList_toList])

private theorem Cursor.Sticks.tail {text : List Char} {reason : Stuck} (given : text ≠ [])
    (stuck : Cursor.Sticks IsViable ⟨text, text⟩ reason) :
    reason.tail ≠ [] ∧ ∃ used, text = used ++ reason.tail ∧ IsViable used := by
  cases reason with
  | unexpected rest => exact stuck
  | ended last =>
    obtain ⟨viable, rfl | ⟨filled, used, rfl⟩⟩ := stuck
    · exact ⟨given, [], rfl, isViable_nil⟩
    · exact ⟨filled, used, rfl, IsViable.left viable⟩

/-- The reader alone reports a column; what is wrong with a line of the right form has none. -/
private theorem leadingForm_columnless (name text : String) (column : Nat) :
    (leadingForm name).Every fun reading => reading ≠ .error (.cannotParse text column) := by
  refine leadingForm_every ?_ ?_ ?_ ?_ name
  · intro command
    simp
  · intro name
    unfold readColor
    split <;> simp
  · intro test
    unfold Condition.parse
    split
    · split <;> simp [Except.map]
    · simp [Except.map]
  · intro name params
    unfold readMethod
    split
    · simp
    · split <;> simp

private theorem readLine_of_rejected {line text : String} {column : Nat}
    (rejected : Command.parse line = .error (.cannotParse text column)) :
    trim line.toList ≠ [] ∧ text = strip line ∧
      ∃ reason, readLine (trim line.toList) = .error reason ∧ column = reason.column (trim line.toList) := by
  unfold Command.parse at rejected
  dsimp only at rejected
  split at rejected
  · cases rejected
  · rename_i known
    split at rejected
    · rename_i reading read
      obtain ⟨name, rest, -, -, accepted⟩ := form_of_readLine read
      exact absurd rejected ((leadingForm_columnless _ text column).accepts accepted)
    · rename_i reason stuck
      cases rejected
      refine ⟨?_, rfl, reason, stuck, rfl⟩
      -- A blank line is turned away as an unknown command.
      intro blank
      have wordless : leadingWord line = "" := by
        rw [leadingWord, ← firstWord_trim, blank]
        rfl
      rw [blank, leadingKeyword?, wordless] at known
      exact known rfl

/-- The column that a line is rejected with stands in the line, and the text before it is viable. If the line merely
ended too early, it is viable as a whole. -/
theorem column_marks_viable_text {line text : String} {column : Nat}
    (rejected : Command.parse line = .error (.cannotParse text column)) :
    text = strip line ∧ 1 ≤ column ∧ column ≤ text.length ∧ IsViable (text.toList.take (column - 1)) ∧
      ∀ last, readLine text.toList = .error (.ended last) → IsViable text.toList := by
  obtain ⟨given, rfl, reason, failed, rfl⟩ := readLine_of_rejected rejected
  have stuck := readLine_error failed
  obtain ⟨filled, used, split, viable⟩ := stuck.tail given
  have count : reason.column (trim line.toList) = used.length + 1 := by
    rw [Stuck.column, split, List.length_append]
    omega
  have more : 0 < reason.tail.length := List.length_pos_iff.mpr filled
  have same : (strip line).toList = trim line.toList := String.toList_ofList
  refine ⟨rfl, by omega, ?_, ?_, ?_⟩
  · rw [count, ← String.length_toList, same, split, List.length_append]
    omega
  · rw [count, same, split, Nat.add_sub_cancel, List.take_left]
    exact viable
  · intro last ended
    rw [same] at ended ⊢
    exact (readLine_error ended).1

theorem column_marks_viable_text_of_open_call :
    Command.parse "\tBox(1, 2.5, " = .error (.cannotParse "Box(1, 2.5," 11) ∧ IsViable "Box(1, 2.5".toList ∧
      IsViable "Box(1, 2.5,".toList := by
  have rejected : Command.parse "\tBox(1, 2.5, " = .error (.cannotParse "Box(1, 2.5," 11) := rfl
  have ended : readLine "Box(1, 2.5,".toList = .error (.ended [',']) := rfl
  obtain ⟨-, -, -, before, whole⟩ := column_marks_viable_text rejected
  exact ⟨rejected, before, whole [','] ended⟩

end Sketch
