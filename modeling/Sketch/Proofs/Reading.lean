import Sketch.Grammar
import Sketch.Proofs.Tokens

/-! Reading a line against the line language. Every form of the grammar has a set of texts that it
accepts, said without a cursor; reading finds exactly these, and the forms of the keywords give
exactly the spellings. -/
namespace Sketch
open Text

theorem except_bind_ok {ε α β : Type} {first : Except ε α} {next : α → Except ε β} {result : β}
    (ok : (first >>= next) = .ok result) : ∃ value, first = .ok value ∧ next value = .ok result := by
  cases first with
  | error error => simp [bind, Except.bind] at ok
  | ok value => exact ⟨value, rfl, ok⟩

theorem except_map_ok {ε α β : Type} {first : Except ε α} {change : α → β} {result : β}
    (done : first.map change = .ok result) : ∃ value, first = .ok value ∧ change value = result := by
  cases first with
  | error _ => cases done
  | ok value => exact ⟨value, rfl, Except.ok.inj done⟩

def Part.Is : Part → List Char → Prop
  | operand => IsOperand
  | name => IsName
  | switch => IsSwitch

theorem Part.scan_split {sort : Part} {text token rest : List Char}
    (scanned : sort.scan text = some (token, rest)) : text = token ++ rest ∧ sort.Is token := by
  cases sort with
  | operand => exact scanOperand_split scanned
  | name =>
    obtain ⟨split, name, -⟩ := scanName_eq_some.mp scanned
    exact ⟨split, name⟩
  | switch => exact scanSwitch_split scanned

theorem Part.scan_token {sort : Part} {token rest : List Char} (is : sort.Is token)
    (parted : Parted rest) : sort.scan (token ++ rest) = some (token, rest) := by
  cases sort with
  | operand => exact scanOperand_operand is parted
  | name => exact scanName_eq_some.mpr ⟨rfl, is, parted.not_isNameChar⟩
  | switch => exact scanSwitch_switch is rest

/-- What every token begins with: no space and no tab, so that the gap before it ends there, and no
closing parenthesis. -/
def Begins (text : List Char) : Prop :=
  text ≠ [] ∧ ∀ c ∈ text.head?, c ≠ ' ' ∧ c ≠ '\t' ∧ c ≠ ')'

private theorem Begins.starts {text : List Char} (begins : Begins text) :
    ∀ c ∈ text.head?, c ≠ ' ' ∧ c ≠ '\t' :=
  fun c first => ⟨(begins.2 c first).1, (begins.2 c first).2.1⟩

theorem IsName.begins {text : List Char} (named : IsName text) (rest : List Char) :
    Begins (text ++ rest) := by
  obtain ⟨first, later, rfl, start, -⟩ := named
  refine ⟨by simp, ?_⟩
  intro c begins
  obtain rfl : first = c := by simpa using begins
  refine ⟨?_, ?_, ?_⟩ <;> (rintro rfl; revert start; decide)

private theorem IsNumber.begins {text : List Char} (number : IsNumber text) (rest : List Char) :
    Begins (text ++ rest) := by
  obtain ⟨sign, mantissa, exponent, rfl, signed, digits, -⟩ := number
  have digital : ∀ {c : Char}, isDigit c → c ≠ ' ' ∧ c ≠ '\t' ∧ c ≠ ')' := by
    intro c digit
    refine ⟨?_, ?_, ?_⟩ <;> (rintro rfl; revert digit; decide)
  have begins : ∀ more, Begins (mantissa ++ more) := by
    intro more
    cases digits with
    | whole written => exact ⟨by simp [written.1], fun c first => digital (written.head _ c first)⟩
    | pointed written =>
      rw [List.append_assoc]
      exact ⟨by simp [written.1], fun c first => digital (written.head _ c first)⟩
    | fraction => simp [Begins]
  rw [List.append_assoc, List.append_assoc]
  rcases signed with rfl | rfl | rfl
  · exact begins _
  · simp [Begins]
  · simp [Begins]

private theorem IsSwitch.begins {text : List Char} (switch : IsSwitch text) (rest : List Char) :
    Begins (text ++ rest) := by
  cases text with
  | nil => rcases switch with on | off <;> simp_all
  | cons first later =>
    refine ⟨by simp, ?_⟩
    intro c begins
    obtain rfl : first = c := by simpa using begins
    have letter : first.toLower = 'o' := by
      rcases switch with on | off
      · simpa using (List.cons.inj on).1
      · simpa using (List.cons.inj off).1
    refine ⟨?_, ?_, ?_⟩ <;> (rintro rfl; revert letter; decide)

theorem Part.Is.begins {sort : Part} {token : List Char} (is : sort.Is token) (rest : List Char) :
    Begins (token ++ rest) := by
  cases sort with
  | operand =>
    rcases is with number | name
    · exact number.begins rest
    · exact name.begins rest
  | name => exact IsName.begins is rest
  | switch => exact IsSwitch.begins is rest

theorem Part.Is.solid {sort : Part} {token : List Char} (is : sort.Is token) : ∀ c ∈ token, ¬ isBlank c := by
  cases sort with
  | operand => exact IsOperand.solid is
  | name => exact fun c inside => not_isBlank_of_isNameChar (IsName.all is c inside)
  | switch => exact fun c inside => not_isBlank_of_isNameChar (IsSwitch.all is c inside)

private theorem Continued.last {args : List String} {rest : List Char} (continued : Continued args rest) :
    rest.getLast? = some ')' := by
  induction continued with
  | close => rfl
  | more _ later ih => simp [List.getLast?_cons, List.getLast?_append, ih]

theorem Bracketed.last {args : List String} {rest : List Char} (bracketed : Bracketed args rest) :
    rest.getLast? = Option.some ')' := by
  cases bracketed with
  | none => rfl
  | some later => simp [List.getLast?_cons, List.getLast?_append, later.last]

namespace Cursor

theorem take_ok {scan : Scan} {cursor next : Cursor} {token : String}
    (taken : cursor.take scan = .ok (token, next)) :
    scan cursor.rest = some (token.toList, next.rest) := by
  unfold take at taken
  split at taken
  · simp at taken
  · split at taken
    · simp at taken
    · rename_i chars rest scanned
      simp only [Except.ok.injEq, Prod.mk.injEq] at taken
      obtain ⟨rfl, rfl⟩ := taken
      simpa using scanned

theorem take_eq {scan : Scan} {text rest last : List Char} {token : String} (given : text ≠ [])
    (scanned : scan text = some (token.toList, rest)) :
    take scan ⟨text, last⟩ = .ok (token, ⟨rest, text⟩) := by
  simp [take, given, scanned]

private theorem scanGap_gap {gap tail : List Char} (gapped : IsGap gap)
    (starts : ∀ c ∈ tail.head?, c ≠ ' ' ∧ c ≠ '\t') : scanGap (gap ++ tail) = some (gap, tail) := by
  refine scanRun_eq_some.mpr ⟨rfl, gapped.1, ?_, ?_⟩
  · intro c inside
    simpa using gapped.2 c inside
  · intro c first
    simpa using starts c first

theorem scanGap_split {text gap rest : List Char} (scanned : scanGap text = some (gap, rest)) :
    text = gap ++ rest ∧ IsGap gap ∧ ∀ c ∈ rest.head?, c ≠ ' ' ∧ c ≠ '\t' := by
  obtain ⟨split, given, all, stops⟩ := scanRun_eq_some.mp scanned
  refine ⟨split, ⟨given, ?_⟩, ?_⟩
  · intro c inside
    simpa using all c inside
  · intro c first
    simpa using stops c first

theorem takePart_ok {scan : Scan} {cursor next : Cursor} {token : String}
    (taken : cursor.takePart scan = .ok (token, next)) :
    ∃ gap tail, cursor.rest = gap ++ tail ∧ IsGap gap ∧ scan tail = some (token.toList, next.rest) := by
  obtain ⟨⟨gap, middle⟩, gapTaken, tokenTaken⟩ := except_bind_ok taken
  obtain ⟨split, gapped, -⟩ := scanGap_split (take_ok gapTaken)
  exact ⟨gap.toList, middle.rest, split, gapped, take_ok tokenTaken⟩

theorem takePart_eq {scan : Scan} {gap tail rest : List Char} {token : String} (gapped : IsGap gap)
    (given : tail ≠ []) (starts : ∀ c ∈ tail.head?, c ≠ ' ' ∧ c ≠ '\t')
    (scanned : scan tail = some (token.toList, rest)) (last : List Char) :
    takePart scan ⟨gap ++ tail, last⟩ = .ok (token, ⟨rest, tail⟩) := by
  have gapScanned : scanGap (gap ++ tail) = some ((String.ofList gap).toList, tail) := by
    simpa using scanGap_gap gapped starts
  have whole : gap ++ tail ≠ [] := by simp [gapped.1]
  simp only [takePart, take_eq whole gapScanned, bind, Except.bind]
  exact take_eq given scanned

private theorem finish_ok {α : Type} {result value : α} {cursor : Cursor}
    (ended : cursor.finish result = .ok value) : cursor.rest = [] ∧ value = result := by
  unfold finish at ended
  split at ended
  · rename_i empty
    simp only [Except.ok.injEq] at ended
    exact ⟨by simpa using empty, ended.symm⟩
  · simp at ended

theorem takeNames_ok {bound : Nat} {cursor next : Cursor} {names : List String}
    (taken : cursor.takeNames bound = .ok (names, next)) :
    ∃ used, cursor.rest = used ++ next.rest ∧ Spaced names used ∧ ∀ name ∈ names, IsName name.toList := by
  induction bound generalizing cursor names with
  | zero =>
    simp only [takeNames, Except.ok.injEq, Prod.mk.injEq] at taken
    obtain ⟨rfl, rfl⟩ := taken
    exact ⟨[], rfl, .nil, by simp⟩
  | succ bound ih =>
    simp only [takeNames] at taken
    split at taken
    · simp only [Except.ok.injEq, Prod.mk.injEq] at taken
      obtain ⟨rfl, rfl⟩ := taken
      exact ⟨[], rfl, .nil, by simp⟩
    · obtain ⟨⟨name, middle⟩, nameTaken, more⟩ := except_bind_ok taken
      obtain ⟨⟨others, last⟩, othersTaken, done⟩ := except_bind_ok more
      simp only [Except.ok.injEq, Prod.mk.injEq] at done
      obtain ⟨rfl, rfl⟩ := done
      obtain ⟨gap, tail, split, gapped, scanned⟩ := takePart_ok nameTaken
      obtain ⟨tailSplit, named, -⟩ := scanName_eq_some.mp scanned
      obtain ⟨used, restSplit, spaced, each⟩ := ih othersTaken
      refine ⟨gap ++ (name.toList ++ used), ?_, .cons gapped spaced, ?_⟩
      · rw [split, tailSplit, restSplit]
        simp only [List.append_assoc]
      · simpa using ⟨named, each⟩

private theorem spaced_length {parts : List String} {text : List Char} (spaced : Spaced parts text) :
    parts.length ≤ text.length := by
  induction spaced with
  | nil => simp
  | @cons gap part parts rest gapped more ih =>
    have given : 0 < gap.length := List.length_pos_iff.mpr gapped.1
    simp only [List.length_cons, List.length_append]
    omega

private theorem spaced_parted {parts : List String} {text : List Char} (spaced : Spaced parts text) :
    Parted text := by
  cases spaced with
  | nil => intro c first; simp at first
  | cons gapped more => exact gapped.parted _

theorem takeNames_eq {names : List String} {text : List Char} (spaced : Spaced names text)
    (each : ∀ name ∈ names, IsName name.toList) {bound : Nat} (enough : names.length ≤ bound)
    (last : List Char) : ∃ after, takeNames ⟨text, last⟩ bound = .ok (names, ⟨[], after⟩) := by
  induction spaced generalizing bound last with
  | nil =>
    cases bound with
    | zero => exact ⟨last, rfl⟩
    | succ bound => exact ⟨last, rfl⟩
  | @cons gap name names rest gapped more ih =>
    cases bound with
    | zero => simp at enough
    | succ bound =>
      have named := each name List.mem_cons_self
      have scanned : scanName (name.toList ++ rest) = some (name.toList, rest) :=
        scanName_eq_some.mpr ⟨rfl, named, (spaced_parted more).not_isNameChar⟩
      obtain ⟨after, later⟩ := ih (fun other inside => each other (List.mem_cons_of_mem _ inside))
        (by simpa using enough) (name.toList ++ rest)
      refine ⟨after, ?_⟩
      have begins := named.begins rest
      have given : (gap ++ (name.toList ++ rest)).isEmpty = false := by simp [gapped.1]
      simp only [takeNames, given, takePart_eq gapped begins.1 begins.starts scanned, later, bind,
        Except.bind, Bool.false_eq_true, if_false]

theorem scanChar_eq_some {expected : Char} {text token rest : List Char} :
    scanChar expected text = some (token, rest) ↔ text = expected :: rest ∧ token = [expected] := by
  cases text with
  | nil => simp [scanChar]
  | cons c text =>
    simp only [scanChar]
    split
    · rename_i same
      subst same
      simp [eq_comm, and_comm]
    · rename_i other
      simp [other]

private theorem takeClose_ok {cursor next : Cursor} {args : List String}
    (taken : cursor.takeClose = .ok (args, next)) : cursor.rest = ')' :: next.rest ∧ args = [] := by
  obtain ⟨⟨token, last⟩, closeTaken, done⟩ := except_bind_ok taken
  simp only [Except.ok.injEq, Prod.mk.injEq] at done
  obtain ⟨rfl, rfl⟩ := done
  exact ⟨(scanChar_eq_some.mp (take_ok closeTaken)).1, rfl⟩

private theorem takeClose_eq (rest last : List Char) :
    ∃ after, takeClose ⟨')' :: rest, last⟩ = .ok ([], ⟨rest, after⟩) :=
  ⟨_, rfl⟩

private theorem skipGap_split (cursor : Cursor) :
    ∃ gap, cursor.rest = gap ++ cursor.skipGap.rest ∧ (gap = [] ∨ IsGap gap) := by
  unfold skipGap
  split
  · rename_i gap rest scanned
    obtain ⟨split, gapped, -⟩ := scanGap_split scanned
    exact ⟨gap, split, .inr gapped⟩
  · exact ⟨[], rfl, .inl rfl⟩

private theorem skipGap_gap {gap tail : List Char} (gapped : gap = [] ∨ IsGap gap)
    (starts : ∀ c ∈ tail.head?, c ≠ ' ' ∧ c ≠ '\t') (last : List Char) :
    ∃ after, skipGap ⟨gap ++ tail, last⟩ = ⟨tail, after⟩ := by
  rcases gapped with rfl | gapped
  · refine ⟨last, ?_⟩
    have none : scanGap tail = none := by
      cases tail with
      | nil => rfl
      | cons c tail => simpa [scanGap, scanRun] using starts c rfl
    simp [skipGap, none]
  · exact ⟨gap ++ tail, by simp [skipGap, scanGap_gap gapped starts]⟩

private theorem takeMoreOperands_ok {bound : Nat} {cursor next : Cursor} {args : List String}
    (taken : cursor.takeMoreOperands bound = .ok (args, next)) :
    ∃ used, cursor.rest = used ++ next.rest ∧ Continued args used ∧ ∀ arg ∈ args, IsOperand arg.toList := by
  induction bound generalizing cursor args with
  | zero =>
    obtain ⟨split, rfl⟩ := takeClose_ok taken
    exact ⟨[')'], split, .close, by simp⟩
  | succ bound ih =>
    simp only [takeMoreOperands] at taken
    split at taken
    · obtain ⟨⟨comma, afterComma⟩, commaTaken, rest⟩ := except_bind_ok taken
      obtain ⟨⟨arg, afterArg⟩, argTaken, rest⟩ := except_bind_ok rest
      obtain ⟨⟨others, last⟩, othersTaken, done⟩ := except_bind_ok rest
      simp only [Except.ok.injEq, Prod.mk.injEq] at done
      obtain ⟨rfl, rfl⟩ := done
      obtain ⟨commaSplit, -⟩ := scanChar_eq_some.mp (take_ok commaTaken)
      obtain ⟨gap, gapSplit, gapped⟩ := skipGap_split afterComma
      obtain ⟨argSplit, operand⟩ := scanOperand_split (take_ok argTaken)
      obtain ⟨used, restSplit, later, each⟩ := ih othersTaken
      refine ⟨',' :: (gap ++ (arg.toList ++ used)), ?_, .more gapped later, ?_⟩
      · rw [commaSplit, gapSplit, argSplit, restSplit]
        simp only [List.cons_append, List.append_assoc]
      · simpa using ⟨operand, each⟩
    · obtain ⟨split, rfl⟩ := takeClose_ok taken
      exact ⟨[')'], split, .close, by simp⟩

private theorem continued_length {args : List String} {text : List Char} (continued : Continued args text) :
    args.length ≤ text.length := by
  induction continued with
  | close => simp
  | more gapped later ih =>
    simp only [List.length_cons, List.length_append]
    omega

private theorem continued_parted {args : List String} {text : List Char} (continued : Continued args text)
    (rest : List Char) : Parted (text ++ rest) := by
  intro c first
  cases continued with
  | close =>
    obtain rfl : ')' = c := by simpa using first
    simp
  | more =>
    obtain rfl : ',' = c := by simpa using first
    simp

private theorem takeMoreOperands_eq {args : List String} {text : List Char} (continued : Continued args text)
    (each : ∀ arg ∈ args, IsOperand arg.toList) {bound : Nat} (enough : args.length ≤ bound)
    (rest last : List Char) :
    ∃ after, takeMoreOperands ⟨text ++ rest, last⟩ bound = .ok (args, ⟨rest, after⟩) := by
  induction continued generalizing bound last with
  | close =>
    cases bound with
    | zero => exact takeClose_eq rest last
    | succ bound => exact takeClose_eq rest last
  | @more gap arg args text gapped later ih =>
    cases bound with
    | zero => simp at enough
    | succ bound =>
      have operand : Part.operand.Is arg.toList := each arg List.mem_cons_self
      have begins := operand.begins (text ++ rest)
      have scanned : scanOperand (arg.toList ++ (text ++ rest)) = some (arg.toList, text ++ rest) :=
        scanOperand_operand operand (continued_parted later rest)
      obtain ⟨middle, skipped⟩ := skipGap_gap gapped begins.starts (',' :: (gap ++ (arg.toList ++ (text ++ rest))))
      obtain ⟨after, others⟩ := ih (fun other inside => each other (List.mem_cons_of_mem _ inside))
        (by simpa using enough) (arg.toList ++ (text ++ rest))
      refine ⟨after, ?_⟩
      have comma : take (scanChar ',') ⟨',' :: (gap ++ (arg.toList ++ (text ++ rest))), last⟩ =
          .ok (",", ⟨gap ++ (arg.toList ++ (text ++ rest)), ',' :: (gap ++ (arg.toList ++ (text ++ rest)))⟩) :=
        take_eq (by simp) (by simp [scanChar])
      simp only [List.cons_append, List.append_assoc, takeMoreOperands, List.head?_cons, if_true,
        comma, skipped, take_eq begins.1 scanned, others, bind, Except.bind]

theorem takeOperands_ok {cursor next : Cursor} {args : List String}
    (taken : cursor.takeOperands = .ok (args, next)) :
    ∃ used, cursor.rest = used ++ next.rest ∧ Bracketed args used ∧ ∀ arg ∈ args, IsOperand arg.toList := by
  obtain ⟨⟨opening, inside⟩, openTaken, rest⟩ := except_bind_ok taken
  obtain ⟨openSplit, -⟩ := scanChar_eq_some.mp (take_ok openTaken)
  dsimp only at rest
  split at rest
  · obtain ⟨split, rfl⟩ := takeClose_ok rest
    exact ⟨['(', ')'], by rw [openSplit, split]; rfl, .none, by simp⟩
  · obtain ⟨⟨arg, afterArg⟩, argTaken, rest⟩ := except_bind_ok rest
    obtain ⟨⟨others, last⟩, othersTaken, done⟩ := except_bind_ok rest
    simp only [Except.ok.injEq, Prod.mk.injEq] at done
    obtain ⟨rfl, rfl⟩ := done
    obtain ⟨argSplit, operand⟩ := scanOperand_split (take_ok argTaken)
    obtain ⟨used, restSplit, later, each⟩ := takeMoreOperands_ok othersTaken
    refine ⟨'(' :: (arg.toList ++ used), ?_, .some later, ?_⟩
    · rw [openSplit, argSplit, restSplit]
      simp only [List.cons_append, List.append_assoc]
    · simpa using ⟨operand, each⟩

theorem takeOperands_eq {args : List String} {text : List Char} (bracketed : Bracketed args text)
    (each : ∀ arg ∈ args, IsOperand arg.toList) (last : List Char) :
    ∃ after, takeOperands ⟨text, last⟩ = .ok (args, ⟨[], after⟩) := by
  cases bracketed with
  | none => exact ⟨_, rfl⟩
  | @some arg args rest later =>
    have operand : Part.operand.Is arg.toList := each arg List.mem_cons_self
    have begins := operand.begins rest
    have parted : Parted rest := by simpa using continued_parted later []
    have scanned : scanOperand (arg.toList ++ rest) = some (arg.toList, rest) :=
      scanOperand_operand operand parted
    have opening : take (scanChar '(') ⟨'(' :: (arg.toList ++ rest), last⟩ =
        .ok ("(", ⟨arg.toList ++ rest, '(' :: (arg.toList ++ rest)⟩) :=
      take_eq (by simp) (by simp [scanChar])
    have unclosed : (arg.toList ++ rest).head? ≠ some ')' :=
      fun closed => (begins.2 ')' closed).2.2 rfl
    obtain ⟨after, others⟩ := takeMoreOperands_eq later
      (fun other inside => each other (List.mem_cons_of_mem _ inside)) (continued_length later) []
      (arg.toList ++ rest)
    rw [List.append_nil] at others
    refine ⟨after, ?_⟩
    simp only [takeOperands, opening, if_neg unclosed, take_eq begins.1 scanned, others, bind,
      Except.bind]

end Cursor

namespace Form

/-- The texts that a form accepts after the leading word, each with what it then stands for. -/
def Accepts : Form → List Char → Reading → Prop
  | done reading, text, result => text = [] ∧ result = reading
  | part sort next, text, result =>
    ∃ gap token rest, text = gap ++ (token.toList ++ rest) ∧ IsGap gap ∧ sort.Is token.toList ∧
      (next token).Accepts rest result
  | freeText next, text, result =>
    text = [] ∧ result = next "" ∨
      ∃ gap content, text = gap ++ content ∧ IsGap gap ∧ content ≠ [] ∧ '\n' ∉ content ∧
        result = next (String.ofList (trim content))
  | names next, text, result =>
    ∃ found, Spaced found text ∧ (∀ name ∈ found, IsName name.toList) ∧ result = next found
  | operands next, text, result =>
    ∃ found, Bracketed found text ∧ (∀ arg ∈ found, IsOperand arg.toList) ∧ result = next found

theorem Accepts.parted {form : Form} {text : List Char} {result : Reading}
    (accepted : form.Accepts text result) : Parted text := by
  have empty : Parted [] := fun c first => by simp at first
  cases form with
  | done =>
    obtain ⟨rfl, -⟩ := accepted
    exact empty
  | part =>
    obtain ⟨gap, token, rest, rfl, gapped, -⟩ := accepted
    exact gapped.parted _
  | freeText =>
    obtain ⟨rfl, -⟩ | ⟨gap, content, rfl, gapped, -⟩ := accepted
    · exact empty
    · exact gapped.parted _
  | names =>
    obtain ⟨found, spaced, -⟩ := accepted
    exact Cursor.spaced_parted spaced
  | operands =>
    obtain ⟨found, bracketed, -⟩ := accepted
    intro c first
    obtain rfl : '(' = c := by cases bracketed <;> simpa using first
    simp

theorem accepts_of_read {form : Form} {cursor : Cursor} {result : Reading}
    (read : form.read cursor = .ok result) : form.Accepts cursor.rest result := by
  induction form generalizing cursor with
  | done reading => exact Cursor.finish_ok read
  | part sort next ih =>
    obtain ⟨⟨token, middle⟩, taken, later⟩ := except_bind_ok read
    obtain ⟨gap, tail, split, gapped, scanned⟩ := Cursor.takePart_ok taken
    obtain ⟨tailSplit, is⟩ := Part.scan_split scanned
    exact ⟨gap, token, middle.rest, by rw [split, tailSplit], gapped, is, ih token later⟩
  | freeText next =>
    simp only [Form.read] at read
    split at read
    · rename_i empty
      exact .inl ⟨by simpa using empty, (Except.ok.inj read).symm⟩
    · obtain ⟨⟨text, middle⟩, taken, later⟩ := except_bind_ok read
      obtain ⟨gap, tail, split, gapped, scanned⟩ := Cursor.takePart_ok taken
      obtain ⟨tailSplit, given, oneLine, -⟩ := scanRun_eq_some.mp scanned
      obtain ⟨ended, rfl⟩ := Cursor.finish_ok later
      refine .inr ⟨gap, text.toList, ?_, gapped, given, fun feed => by simpa using oneLine _ feed, rfl⟩
      rw [split, tailSplit, ended, List.append_nil]
  | names next =>
    obtain ⟨⟨found, middle⟩, taken, later⟩ := except_bind_ok read
    obtain ⟨used, split, spaced, each⟩ := Cursor.takeNames_ok taken
    obtain ⟨ended, rfl⟩ := Cursor.finish_ok later
    refine ⟨found, ?_, each, rfl⟩
    simpa [split, ended] using spaced
  | operands next =>
    obtain ⟨⟨found, middle⟩, taken, later⟩ := except_bind_ok read
    obtain ⟨used, split, bracketed, each⟩ := Cursor.takeOperands_ok taken
    obtain ⟨ended, rfl⟩ := Cursor.finish_ok later
    refine ⟨found, ?_, each, rfl⟩
    simpa [split, ended] using bracketed

/-- Free text is read from its first character that is neither a space nor a tab; there is one, as
the line does not end with a blank. -/
private theorem freeText_split {gap content : List Char} (gapped : IsGap gap) (given : content ≠ [])
    (solid : ∀ c ∈ (gap ++ content).getLast?, ¬ isBlank c) :
    ∃ wide tail, gap ++ content = wide ++ tail ∧ IsGap wide ∧ tail ≠ [] ∧
      (∀ c ∈ tail.head?, c ≠ ' ' ∧ c ≠ '\t') ∧ trim content = trim tail ∧ ∀ c ∈ tail, c ∈ content := by
  let spacing : Char → Bool := fun c => c == ' ' || c == '\t'
  have split : content.takeWhile spacing ++ content.dropWhile spacing = content :=
    List.takeWhile_append_dropWhile
  have spaces : ∀ c ∈ content.takeWhile spacing, c = ' ' ∨ c = '\t' := by
    intro c inside
    simpa [spacing] using List.mem_takeWhile_imp inside
  have blanks : ∀ c ∈ content.takeWhile spacing, isBlank c := by
    intro c inside
    rcases spaces c inside with rfl | rfl <;> decide
  refine ⟨gap ++ content.takeWhile spacing, content.dropWhile spacing, ?_, ⟨?_, ?_⟩, ?_, ?_, ?_, ?_⟩
  · rw [List.append_assoc, split]
  · simp [gapped.1]
  · intro c inside
    rcases List.mem_append.mp inside with first | later
    · exact gapped.2 c first
    · exact spaces c later
  · intro none
    have last : content.getLast given ∈ (gap ++ content).getLast? := by
      simp [List.getLast?_append, List.getLast?_eq_some_getLast given]
    apply solid _ last
    apply blanks
    rw [none, List.append_nil] at split
    rw [split]
    exact List.getLast_mem given
  · intro c first
    simpa [spacing] using head?_dropWhile content c first
  · have same := @trim_append_blanks (content.dropWhile spacing) _ blanks
    rwa [split] at same
  · intro c inside
    rw [← split]
    exact List.mem_append_right _ inside

theorem read_of_accepts {form : Form} {text : List Char} {result : Reading}
    (accepted : form.Accepts text result) (solid : ∀ c ∈ text.getLast?, ¬ isBlank c)
    (last : List Char) : form.read ⟨text, last⟩ = .ok result := by
  induction form generalizing text last with
  | done reading =>
    obtain ⟨rfl, rfl⟩ := accepted
    rfl
  | part sort next ih =>
    obtain ⟨gap, token, rest, rfl, gapped, is, later⟩ := accepted
    have begins := is.begins rest
    have taken := Cursor.takePart_eq gapped begins.1 begins.starts (Part.scan_token is later.parted) last
    have solidRest : ∀ c ∈ rest.getLast?, ¬ isBlank c := by
      intro c ends
      apply solid c
      rw [List.getLast?_append, List.getLast?_append, Option.mem_def.mp ends]
      rfl
    simp only [Form.read, taken, bind, Except.bind]
    exact ih token later solidRest _
  | freeText next =>
    obtain ⟨rfl, rfl⟩ | ⟨gap, content, rfl, gapped, given, oneLine, rfl⟩ := accepted
    · rfl
    · obtain ⟨wide, tail, split, wideGap, filled, starts, trimmed, part⟩ :=
        freeText_split gapped given solid
      have scanned : scanFreeText tail = some ((String.ofList tail).toList, []) := by
        rw [String.toList_ofList]
        refine scanRun_eq_some.mpr ⟨by simp, filled, ?_, by simp⟩
        intro c inside
        have other : c ≠ '\n' := fun same => oneLine (same ▸ part c inside)
        simpa using other
      have whole : (wide ++ tail).isEmpty = false := by simp [wideGap.1]
      rw [split]
      simp only [Form.read, whole, Cursor.takePart_eq wideGap filled starts scanned, bind, Except.bind,
        Bool.false_eq_true, if_false, strip, String.toList_ofList, trimmed]
      rfl
  | names next =>
    obtain ⟨found, spaced, each, rfl⟩ := accepted
    obtain ⟨after, taken⟩ := Cursor.takeNames_eq spaced each (Cursor.spaced_length spaced) last
    simp only [Form.read, taken, bind, Except.bind]
    rfl
  | operands next =>
    obtain ⟨found, bracketed, each, rfl⟩ := accepted
    obtain ⟨after, taken⟩ := Cursor.takeOperands_eq bracketed each last
    simp only [Form.read, taken, bind, Except.bind]
    rfl

end Form

end Sketch
