import Sketch.Proofs.Reading

/-! The line language is what the reader accepts: a line is read as a command exactly if it spells
that command. -/
namespace Sketch
open Text

namespace Form

private theorem accepts_operand {build : String → Command} {text : List Char} {result : Reading} :
    (operand build).Accepts text result ↔
      ∃ x, Spaced [x] text ∧ IsOperand x.toList ∧ result = .ok (build x) := by
  constructor
  · rintro ⟨gap, x, rest, rfl, gapped, is, rfl, same⟩
    exact ⟨x, .cons gapped .nil, is, same⟩
  · rintro ⟨x, _ | ⟨gapped, _ | _⟩, is, same⟩
    exact ⟨_, x, [], rfl, gapped, is, rfl, same⟩

private theorem accepts_part_operand {sort : Part} {build : String → String → Command} {text : List Char}
    {result : Reading} :
    (part sort fun first => operand (build first)).Accepts text result ↔
      ∃ x y, Spaced [x, y] text ∧ sort.Is x.toList ∧ IsOperand y.toList ∧ result = .ok (build x y) := by
  constructor
  · rintro ⟨gap, x, rest, rfl, gapped, is, later⟩
    obtain ⟨y, spaced, operand, same⟩ := accepts_operand.mp later
    exact ⟨x, y, .cons gapped spaced, is, operand, same⟩
  · rintro ⟨x, y, _ | ⟨gapped, more⟩, is, operand, same⟩
    exact ⟨_, x, _, rfl, gapped, is, accepts_operand.mpr ⟨y, more, operand, same⟩⟩

private theorem accepts_twoOperands {build : String → String → Command} {text : List Char} {result : Reading} :
    (twoOperands build).Accepts text result ↔
      ∃ x y, Spaced [x, y] text ∧ IsOperand x.toList ∧ IsOperand y.toList ∧ result = .ok (build x y) :=
  accepts_part_operand

private theorem accepts_nameAndOperand {build : String → String → Command} {text : List Char} {result : Reading} :
    (nameAndOperand build).Accepts text result ↔
      ∃ x y, Spaced [x, y] text ∧ IsName x.toList ∧ IsOperand y.toList ∧ result = .ok (build x y) :=
  accepts_part_operand

end Form

/-- The parts between separators hold no separator, and give the text back when they are joined. -/
theorem splitAt_parts (separator : Char) (text : List Char) :
    text = List.intercalate [separator] (splitAt separator text) ∧ splitAt separator text ≠ [] ∧
      ∀ part ∈ splitAt separator text, separator ∉ part := by
  induction text with
  | nil => simp [splitAt]
  | cons c rest ih =>
    obtain ⟨joined, some, each⟩ := ih
    obtain ⟨part, parts, split⟩ := List.exists_cons_of_ne_nil some
    rw [split] at joined each
    by_cases same : c = separator
    · simp only [splitAt, same, if_true, split, List.intercalate_cons_cons, List.nil_append,
        List.singleton_append, ← joined, ne_eq, List.cons_ne_nil, not_false_eq_true, true_and]
      simpa using each
    · simp only [splitAt, same, if_false, split]
      refine ⟨?_, by simp, ?_⟩
      · rw [joined]
        cases parts <;> simp
      · intro other inside
        rcases List.mem_cons.mp inside with rfl | later
        · simpa [Ne.symm same] using each part (by simp)
        · exact each other (by simp [later])

private theorem splitAt_free {separator : Char} {part : List Char} (free : separator ∉ part) :
    splitAt separator part = [part] := by
  induction part with
  | nil => rfl
  | cons c part ih =>
    obtain ⟨other, later⟩ := not_or.mp (fun inside => free (List.mem_cons.mpr inside))
    simp [splitAt, Ne.symm other, ih later]

private theorem splitAt_append {separator : Char} {part : List Char} (free : separator ∉ part) (rest : List Char) :
    splitAt separator (part ++ separator :: rest) = part :: splitAt separator rest := by
  induction part with
  | nil => simp [splitAt]
  | cons c part ih =>
    obtain ⟨other, later⟩ := not_or.mp (fun inside => free (List.mem_cons.mpr inside))
    simp [splitAt, Ne.symm other, ih later]

theorem Comparison.ofSymbol?_eq_some {symbol : String} {comparison : Comparison} :
    Comparison.ofSymbol? symbol = some comparison ↔ comparison.symbol = symbol := by
  constructor
  · intro found
    simpa using List.find?_some found
  · rintro rfl
    cases comparison <;> rfl

private theorem Comparison.symbol_solid (comparison : Comparison) : ' ' ∉ comparison.symbol.toList := by
  cases comparison <;> decide

private theorem Condition.text_toList (test : Condition) :
    test.text.toList =
      test.left.toList ++ ' ' :: (test.comparison.symbol.toList ++ ' ' :: test.right.toList) := by
  simp [Condition.text]

/-- A condition is read from its three parts, set apart by single spaces, and from nothing else. -/
theorem Condition.parse_eq_ok {text : String} {test : Condition} :
    Condition.parse text = .ok test ↔
      text.toList = test.text.toList ∧ ' ' ∉ test.left.toList ∧ ' ' ∉ test.right.toList := by
  constructor
  · intro parsed
    obtain ⟨joined, -, each⟩ := splitAt_parts ' ' text.toList
    unfold Condition.parse at parsed
    split at parsed
    · rename_i left symbol right split
      rw [split] at joined each
      split at parsed
      · rename_i comparison known
        simp only [Except.ok.injEq] at parsed
        subst test
        have written : comparison.symbol.toList = symbol := by
          rw [Comparison.ofSymbol?_eq_some.mp known, String.toList_ofList]
        refine ⟨?_, by simpa using each left (by simp), by simpa using each right (by simp)⟩
        rw [joined, Condition.text_toList]
        simp [written, List.intercalate]
      · simp at parsed
    · simp at parsed
  · rintro ⟨written, left, right⟩
    have known := Comparison.ofSymbol?_eq_some.mpr (rfl : test.comparison.symbol = test.comparison.symbol)
    simp only [Condition.parse, written, Condition.text_toList, splitAt_append left,
      splitAt_append test.comparison.symbol_solid, splitAt_free right, String.ofList_toList, known]

private theorem IsSwitch.lower {switch : String} (switched : IsSwitch switch.toList) :
    (Text.lower switch).toList = switch.toList.map Char.toLower := by
  have ascii : ∀ c ∈ switch.toList, c.toNat < 0x80 := fun c inside => (isNameChar_bounds (switched.all c inside)).2
  rw [Text.lower, String.toList_ofList, lowerCase_ascii ascii]

theorem IsSwitch.on_iff {switch : String} (switched : IsSwitch switch.toList) {enabled : Bool} :
    (Text.lower switch == "on") = enabled ↔
      switch.toList.map Char.toLower = if enabled then ['o', 'n'] else ['o', 'f', 'f'] := by
  have on : (Text.lower switch == "on") = true ↔ switch.toList.map Char.toLower = ['o', 'n'] := by
    rw [beq_iff_eq, ← String.toList_inj, switched.lower]
    exact Iff.rfl
  cases enabled with
  | true => exact on
  | false =>
    rw [← Bool.not_eq_true, on]
    rcases switched with yes | no
    · simp [yes]
    · simp [no]

theorem spells_of_form {keyword : Keyword} {word rest : List Char} {command : Command}
    (spelled : IsWord keyword word) (accepted : keyword.form.Accepts rest (.ok command)) :
    Spells command (word ++ rest) := by
  cases keyword with
  | moveTo | drawTo | rectangle =>
    obtain ⟨x, y, spaced, first, second, same⟩ := Form.accepts_twoOperands.mp accepted
    cases same
    exact .operands rfl rfl spelled (by simp [first, second]) spaced
  | circle | lineWidth | rotate =>
    obtain ⟨x, spaced, operand, same⟩ := Form.accepts_operand.mp accepted
    cases same
    exact .operands rfl rfl spelled (by simp [operand]) spaced
  | triangle =>
    obtain ⟨_, x₁, _, rfl, gap₁, is₁, _, y₁, _, rfl, gap₂, is₂, _, x₂, _, rfl, gap₃, is₃,
      _, y₂, _, rfl, gap₄, is₄, _, x₃, _, rfl, gap₅, is₅, _, y₃, _, rfl, gap₆, is₆, rfl, same⟩ := accepted
    cases same
    refine .operands rfl rfl spelled ?_
      (.cons gap₁ (.cons gap₂ (.cons gap₃ (.cons gap₄ (.cons gap₅ (.cons gap₆ .nil))))))
    intro operand inside
    simp only [List.mem_cons, List.not_mem_nil, or_false] at inside
    rcases inside with rfl | rfl | rfl | rfl | rfl | rfl <;> assumption
  | reset | clear | endCondition | loop | endLoop | endMethod =>
    obtain ⟨rfl, same⟩ := accepted
    cases same
    exact .operands rfl rfl spelled (by simp) .nil
  | color =>
    obtain ⟨_, name, _, rfl, gapped, named, rfl, same⟩ := accepted
    unfold readColor at same
    split at same
    · rename_i known
      cases same
      exact .color spelled named (by simpa [isKnownColor] using known) (.cons gapped .nil)
    · simp at same
  | fill =>
    obtain ⟨_, switch, _, rfl, gapped, switched, rfl, same⟩ := accepted
    cases same
    exact .fill spelled (switched.on_iff.mp rfl) (.cons gapped .nil)
  | text =>
    obtain ⟨rfl, same⟩ | ⟨gap, content, rfl, gapped, given, oneLine, same⟩ := accepted
    · cases same
      simpa using Spells.noText spelled
    · cases same
      exact .text spelled gapped given oneLine
  | declare =>
    obtain ⟨name, value, spaced, named, operand, same⟩ := Form.accepts_nameAndOperand.mp accepted
    cases same
    exact .declare spelled named operand spaced
  | assign =>
    obtain ⟨name, value, spaced, named, operand, same⟩ := Form.accepts_nameAndOperand.mp accepted
    cases same
    exact .assign spelled named operand spaced
  | condition =>
    obtain ⟨rfl, same⟩ | ⟨gap, content, rfl, gapped, given, oneLine, same⟩ := accepted
    · simp [Condition.parse, splitAt, Except.map] at same
    · cases parsed : Condition.parse (String.ofList (trim content)) with
      | error cause => simp [parsed, Except.map] at same
      | ok test =>
        obtain rfl : command = .condition test := by simpa [parsed, Except.map] using same
        obtain ⟨parted, single⟩ := Condition.parse_eq_ok.mp parsed
        exact .condition spelled gapped oneLine (by simpa using parted) single
  | method =>
    obtain ⟨_, name, _, rfl, gapped, named, params, spaced, each, same⟩ := accepted
    unfold readMethod at same
    split at same
    · simp at same
    · rename_i free
      split at same
      · rename_i distinct
        cases same
        have none := ofWord?_lower_eq_none named
        exact .method spelled ⟨named, none.mp (by simpa using free)⟩ each distinct (.cons gapped spaced)
      · simp at same

private theorem form_accepts_operands {command : Command} {keyword : Keyword} {operands : List String}
    {rest : List Char} (begun : command.keyword? = some keyword)
    (taken : command.operands? = some operands) (each : ∀ operand ∈ operands, IsOperand operand.toList)
    (spaced : Spaced operands rest) : keyword.form.Accepts rest (.ok command) := by
  cases command with
  | moveTo x y | drawTo x y | rectangle x y =>
    cases begun
    cases taken
    exact Form.accepts_twoOperands.mpr ⟨x, y, spaced, each x (by simp), each y (by simp), rfl⟩
  | circle x | lineWidth x | rotate x =>
    cases begun
    cases taken
    exact Form.accepts_operand.mpr ⟨x, spaced, each x (by simp), rfl⟩
  | triangle x₁ y₁ x₂ y₂ x₃ y₃ =>
    cases begun
    cases taken
    obtain _ | ⟨gap₁, _ | ⟨gap₂, _ | ⟨gap₃, _ | ⟨gap₄, _ | ⟨gap₅, _ | ⟨gap₆, _ | _⟩⟩⟩⟩⟩⟩ := spaced
    exact ⟨_, x₁, _, rfl, gap₁, each x₁ (by simp), _, y₁, _, rfl, gap₂, each y₁ (by simp),
      _, x₂, _, rfl, gap₃, each x₂ (by simp), _, y₂, _, rfl, gap₄, each y₂ (by simp),
      _, x₃, _, rfl, gap₅, each x₃ (by simp), _, y₃, _, rfl, gap₆, each y₃ (by simp), rfl, rfl⟩
  | reset | clear | endCondition | loop | endLoop | endMethod =>
    cases begun
    cases taken
    cases spaced
    exact ⟨rfl, rfl⟩
  | color | fill | text | declare | assign | condition | method | call => simp [Command.operands?] at taken

theorem leadingForm_isWord {keyword : Keyword} {word : List Char} (spelled : IsWord keyword word) :
    leadingForm (String.ofList word) = keyword.form := by
  have named : IsName (String.ofList word).toList := by simpa using spelled.isName
  have found : Keyword.ofWord? (lower (String.ofList word)) = some keyword :=
    (ofWord?_lower_iff named).mpr (by simpa using spelled)
  simp only [leadingForm, found]

private theorem leadingForm_free {name : String} (free : IsFreeName name.toList) :
    leadingForm name = .operands fun args => .ok (.call name args) := by
  have none := (ofWord?_lower_eq_none free.1).mpr free.2
  simp only [leadingForm, none]

theorem form_of_spells {command : Command} {text : List Char} (spells : Spells command text) :
    ∃ name rest, text = name ++ rest ∧ IsName name ∧
      (leadingForm (String.ofList name)).Accepts rest (.ok command) := by
  cases spells with
  | @operands _ keyword operands word rest begun taken spelled each spaced =>
    refine ⟨word, rest, rfl, spelled.isName, ?_⟩
    rw [leadingForm_isWord spelled]
    exact form_accepts_operands begun taken each spaced
  | @color name word rest spelled named known spaced =>
    refine ⟨word, rest, rfl, spelled.isName, ?_⟩
    rw [leadingForm_isWord spelled]
    obtain _ | ⟨gapped, _ | _⟩ := spaced
    refine ⟨_, name, [], rfl, gapped, named, rfl, ?_⟩
    simp [readColor, isKnownColor, known]
  | @fill switch enabled word rest spelled switched spaced =>
    refine ⟨word, rest, rfl, spelled.isName, ?_⟩
    rw [leadingForm_isWord spelled]
    obtain _ | ⟨gapped, _ | _⟩ := spaced
    have is : IsSwitch switch.toList := by
      cases enabled with
      | true => exact .inl switched
      | false => exact .inr switched
    refine ⟨_, switch, [], rfl, gapped, is, rfl, ?_⟩
    rw [is.on_iff.mpr switched]
  | noText spelled =>
    refine ⟨text, [], by simp, spelled.isName, ?_⟩
    rw [leadingForm_isWord spelled]
    exact .inl ⟨rfl, rfl⟩
  | @text word gap content spelled gapped given oneLine =>
    refine ⟨word, _, rfl, spelled.isName, ?_⟩
    rw [leadingForm_isWord spelled]
    exact .inr ⟨gap, content, rfl, gapped, given, oneLine, rfl⟩
  | @declare name value word rest spelled named operand spaced =>
    refine ⟨word, rest, rfl, spelled.isName, ?_⟩
    rw [leadingForm_isWord spelled]
    exact Form.accepts_nameAndOperand.mpr ⟨name, value, spaced, named, operand, rfl⟩
  | @assign name value word rest spelled named operand spaced =>
    refine ⟨word, rest, rfl, spelled.isName, ?_⟩
    rw [leadingForm_isWord spelled]
    exact Form.accepts_nameAndOperand.mpr ⟨name, value, spaced, named, operand, rfl⟩
  | @condition test word gap content spelled gapped oneLine parted single =>
    refine ⟨word, _, rfl, spelled.isName, ?_⟩
    rw [leadingForm_isWord spelled]
    have given : content ≠ [] := by
      rintro rfl
      have size := congrArg List.length parted
      rw [Condition.text_toList] at size
      simp [trim, trimLeft] at size
    have parsed : Condition.parse (String.ofList (trim content)) = .ok test :=
      Condition.parse_eq_ok.mpr ⟨by simpa using parted, single⟩
    refine .inr ⟨gap, content, rfl, gapped, given, oneLine, ?_⟩
    simp only [parsed, Except.map]
  | @method name params word rest spelled named each distinct spaced =>
    refine ⟨word, rest, rfl, spelled.isName, ?_⟩
    rw [leadingForm_isWord spelled]
    obtain _ | ⟨gapped, more⟩ := spaced
    have free := (ofWord?_lower_eq_none named.1).mpr named.2
    refine ⟨_, name, _, rfl, gapped, named.1, params, more, each, ?_⟩
    simp [readMethod, free, distinct]
  | @call name args rest named each bracketed =>
    refine ⟨name.toList, rest, rfl, named.1, ?_⟩
    rw [String.ofList_toList, leadingForm_free named]
    exact ⟨args, bracketed, each, rfl⟩

theorem form_of_readLine {text : List Char} {result : Reading} (read : readLine text = .ok result) :
    ∃ name rest, text = name ++ rest ∧ IsName name ∧
      (leadingForm (String.ofList name)).Accepts rest result := by
  obtain ⟨⟨name, cursor⟩, taken, later⟩ := except_bind_ok read
  obtain ⟨split, named, -⟩ := scanName_eq_some.mp (Cursor.take_ok taken)
  refine ⟨name.toList, cursor.rest, split, named, ?_⟩
  rw [String.ofList_toList]
  exact Form.accepts_of_read later

theorem readLine_of_form {name rest : List Char} {result : Reading} (named : IsName name)
    (accepted : (leadingForm (String.ofList name)).Accepts rest result)
    (solid : ∀ c ∈ (name ++ rest).getLast?, ¬ isBlank c) : readLine (name ++ rest) = .ok result := by
  have scanned : scanName (name ++ rest) = some ((String.ofList name).toList, rest) := by
    rw [String.toList_ofList]
    exact scanName_eq_some.mpr ⟨rfl, named, accepted.parted.not_isNameChar⟩
  have solidRest : ∀ c ∈ rest.getLast?, ¬ isBlank c := by
    intro c ends
    apply solid c
    rw [List.getLast?_append, Option.mem_def.mp ends]
    rfl
  simp only [readLine, Cursor.take_eq (named.begins rest).1 scanned, bind, Except.bind]
  exact Form.read_of_accepts accepted solidRest _

/-- A spelling begins with the word of the command's keyword, alone or before a gap; that of a call
begins with a name and a parenthesis. -/
theorem Spells.leading {command : Command} {text : List Char} (spells : Spells command text) :
    (∃ keyword word rest, command.keyword? = some keyword ∧ text = word ++ rest ∧
      IsWord keyword word ∧ ∀ c ∈ rest.head?, isBlank c) ∨
    ∃ name args rest, command = .call name args ∧ text = name.toList ++ rest ∧
      IsFreeName name.toList ∧ Bracketed args rest := by
  have blank : ∀ {gap : List Char} (more : List Char), IsGap gap → ∀ c ∈ (gap ++ more).head?, isBlank c := by
    intro gap more gapped c first
    cases gap with
    | nil => exact absurd rfl gapped.1
    | cons d gap =>
      obtain rfl : d = c := by simpa using first
      rcases gapped.2 d List.mem_cons_self with rfl | rfl <;> decide
  have spacedBlank : ∀ {parts : List String} {rest : List Char}, Spaced parts rest →
      ∀ c ∈ rest.head?, isBlank c := by
    intro parts rest spaced
    cases spaced with
    | nil => simp
    | cons gapped more => exact blank _ gapped
  cases spells with
  | operands begun taken spelled each spaced => exact .inl ⟨_, _, _, begun, rfl, spelled, spacedBlank spaced⟩
  | color spelled named known spaced => exact .inl ⟨_, _, _, rfl, rfl, spelled, spacedBlank spaced⟩
  | fill spelled switched spaced => exact .inl ⟨_, _, _, rfl, rfl, spelled, spacedBlank spaced⟩
  | noText spelled => exact .inl ⟨_, text, [], rfl, by simp, spelled, by simp⟩
  | text spelled gapped => exact .inl ⟨_, _, _, rfl, rfl, spelled, blank _ gapped⟩
  | declare spelled named operand spaced => exact .inl ⟨_, _, _, rfl, rfl, spelled, spacedBlank spaced⟩
  | assign spelled named operand spaced => exact .inl ⟨_, _, _, rfl, rfl, spelled, spacedBlank spaced⟩
  | condition spelled gapped => exact .inl ⟨_, _, _, rfl, rfl, spelled, blank _ gapped⟩
  | method spelled named each distinct spaced =>
    exact .inl ⟨_, _, _, rfl, rfl, spelled, spacedBlank spaced⟩
  | call named each bracketed => exact .inr ⟨_, _, _, rfl, rfl, named, bracketed⟩

private theorem isCall_bracketed {name : List Char} {args : List String} {rest : List Char} (named : IsName name)
    (bracketed : Bracketed args rest) : isCall (name ++ rest) := by
  obtain ⟨later, rfl⟩ : ∃ later, rest = '(' :: later := by cases bracketed <;> exact ⟨_, rfl⟩
  have scanned : scanName (name ++ '(' :: later) = some (name, '(' :: later) := by
    refine scanName_eq_some.mpr ⟨rfl, named, ?_⟩
    intro c first
    obtain rfl : '(' = c := by simpa using first
    decide
  simp [isCall, scanned]

theorem spells_of_parse {line : String} {command : Command} (parsed : Command.parse line = .ok command) :
    Spells command (trim line.toList) := by
  unfold Command.parse at parsed
  dsimp only at parsed
  split at parsed
  · simp at parsed
  · split at parsed
    · rename_i reading read
      subst reading
      obtain ⟨name, rest, split, named, accepted⟩ := form_of_readLine read
      rw [split]
      have named' : IsName (String.ofList name).toList := by simpa using named
      cases known : Keyword.ofWord? (lower (String.ofList name)) with
      | some keyword =>
        have spelled : IsWord keyword name := by simpa using (ofWord?_lower_iff named').mp known
        rw [leadingForm_isWord spelled] at accepted
        exact spells_of_form spelled accepted
      | none =>
        have free : IsFreeName (String.ofList name).toList :=
          ⟨named', (ofWord?_lower_eq_none named').mp known⟩
        rw [leadingForm_free free] at accepted
        obtain ⟨args, bracketed, each, same⟩ := accepted
        cases same
        simpa using Spells.call free each bracketed
    · simp at parsed

theorem parse_of_spells {line : String} {command : Command} (spells : Spells command (trim line.toList)) :
    Command.parse line = .ok command := by
  obtain ⟨name, rest, split, named, accepted⟩ := form_of_spells spells
  have read : readLine (trim line.toList) = .ok (.ok command) := by
    have solid := trim_last line.toList
    rw [split] at solid ⊢
    exact readLine_of_form named accepted solid
  have known : ((leadingKeyword? line).isNone && !isCall (trim line.toList)) = false := by
    rcases spells.leading with ⟨keyword, word, rest, -, split, spelled, stops⟩ |
      ⟨name, args, rest, -, split, named, bracketed⟩
    · simp [leadingKeyword?_of_isWord split spelled stops]
    · simp [split, isCall_bracketed named.1 bracketed]
  simp [Command.parse, known, read]

theorem leadingKeyword?_of_parse {line : String} {command : Command} {keyword : Keyword}
    (parsed : Command.parse line = .ok command) (begun : command.keyword? = some keyword) :
    leadingKeyword? line = some keyword := by
  rcases (spells_of_parse parsed).leading with ⟨found, word, rest, written, split, spelled, stops⟩ |
    ⟨name, args, rest, rfl, -⟩
  · obtain rfl : found = keyword := Option.some.inj (written.symm.trans begun)
    exact leadingKeyword?_of_isWord split spelled stops
  · simp [Command.keyword?] at begun

/-- A line is read as a command exactly if, without the blanks at its ends, it spells that command. -/
theorem parse_eq_ok_iff_spells (line : String) (command : Command) :
    Command.parse line = .ok command ↔ Spells command (trim line.toList) :=
  ⟨spells_of_parse, parse_of_spells⟩

end Sketch
