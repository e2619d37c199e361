import Sketch.Proofs.Steps

/-! What each thing that a line does can fail with. A line that cannot be read has something wrong with its text;
whatever goes wrong later is about variables, methods or blocks. -/
namespace Sketch

/-- The kinds of error that a line has by its text alone. -/
def Cause.IsTextual (cause : Cause) : Prop :=
  cause.kind ∈ [Kind.unknownCommand, .malformedCommand, .malformedCondition, .unknownOperator]

/-- An operand without a value, a variable that is there already, or one that is not there. -/
def Cause.IsOfVariables (cause : Cause) : Prop :=
  (∃ token, cause = .invalidOperand token) ∨ (∃ name, cause = .duplicateVariable name) ∨
    ∃ name, cause = .undefinedVariable name

theorem Cause.IsOfVariables.notTextual {cause : Cause} (ordinary : cause.IsOfVariables) : ¬ cause.IsTextual := by
  rcases ordinary with ⟨_, rfl⟩ | ⟨_, rfl⟩ | ⟨_, rfl⟩ <;> simp [Cause.IsTextual, Cause.kind]

theorem Cause.kind_eq_recursion {cause : Cause} : cause.kind = .recursion ↔ ∃ name path, cause = .recursion name path := by
  cases cause <;> simp [Cause.kind]

theorem Cause.IsTextual.not_recursion {cause : Cause} (textual : cause.IsTextual) : cause.kind ≠ .recursion := by
  intro same
  simp [Cause.IsTextual, same] at textual

theorem Cause.IsOfVariables.not_recursion {cause : Cause} (ordinary : cause.IsOfVariables) : cause.kind ≠ .recursion := by
  rcases ordinary with ⟨_, rfl⟩ | ⟨_, rfl⟩ | ⟨_, rfl⟩ <;> simp [Cause.kind]

/-- The method whose call was refused because it was running. -/
def Stop.recursion? : Stop → Option String
  | script { cause := .recursion name _, .. } => some name
  | _ => none

theorem Stop.recursion?_attach (reason : Stop) (line : SourceLine) :
    (reason.attach line).recursion? = reason.recursion? := by
  cases reason with
  | canvas | tooDeep => rfl
  | script error =>
    obtain ⟨cause, named, number⟩ := error
    cases named with
    | some text => rfl
    | none => cases cause <;> rfl

theorem Stop.recursion?_ofCause {cause : Cause} {name : String} (refused : (Stop.ofCause cause).recursion? = some name) :
    ∃ path, cause = .recursion name path := by
  cases cause with
  | recursion other path =>
    obtain rfl := Option.some.inj refused
    exact ⟨path, rfl⟩
  | _ => simp [Stop.ofCause, Stop.recursion?] at refused

theorem except_bind_error {ε α β : Type} {first : Except ε α} {next : α → Except ε β} {error : ε}
    (failed : (first >>= next) = .error error) :
    first = .error error ∨ ∃ value, first = .ok value ∧ next value = .error error := by
  cases first with
  | error other =>
    cases failed
    exact .inl rfl
  | ok value => exact .inr ⟨value, rfl, failed⟩

/-! Reading a line. -/

/-- Whatever text it is given, what the form stands for has this property. -/
def Form.Every (property : Reading → Prop) : Form → Prop
  | done reading => property reading
  | part _ next => ∀ token, (next token).Every property
  | freeText next => ∀ text, property (next text)
  | names next => ∀ found, property (next found)
  | operands next => ∀ found, property (next found)

theorem Form.Every.accepts {property : Reading → Prop} {form : Form} {text : List Char} {result : Reading}
    (every : form.Every property) (accepted : form.Accepts text result) : property result := by
  induction form generalizing text with
  | done reading =>
    obtain ⟨-, rfl⟩ := accepted
    exact every
  | part sort next ih =>
    obtain ⟨gap, token, rest, -, -, -, later⟩ := accepted
    exact ih token (every token) later
  | freeText next =>
    obtain ⟨-, rfl⟩ | ⟨gap, content, -, -, -, -, rfl⟩ := accepted
    · exact every _
    · exact every _
  | names next | operands next =>
    obtain ⟨found, -, -, rfl⟩ := accepted
    exact every found

def Reading.Textual (reading : Reading) : Prop :=
  ∀ cause, reading = .error cause → cause.IsTextual

private theorem Reading.textual_ok (command : Command) : Reading.Textual (.ok command) := by
  intro cause failed
  cases failed

private theorem readColor_textual (name : String) : Reading.Textual (readColor name) := by
  intro cause failed
  unfold readColor at failed
  split at failed
  · cases failed
  · cases failed
    simp [Cause.IsTextual, Cause.kind]

private theorem readMethod_textual (name : String) (params : List String) :
    Reading.Textual (readMethod name params) := by
  intro cause failed
  unfold readMethod at failed
  split at failed
  · cases failed
    simp [Cause.IsTextual, Cause.kind]
  · split at failed
    · cases failed
    · cases failed
      simp [Cause.IsTextual, Cause.kind]

private theorem condition_textual (test : String) : Reading.Textual ((Condition.parse test).map .condition) := by
  intro cause failed
  unfold Condition.parse at failed
  split at failed
  · split at failed
    · cases failed
    · cases failed
      simp [Cause.IsTextual, Cause.kind]
  · cases failed
    simp [Cause.IsTextual, Cause.kind]

/-- What stands for a line is a command, but for colors, conditions and methods. -/
theorem leadingForm_every {property : Reading → Prop} (plain : ∀ command, property (.ok command))
    (color : ∀ name, property (readColor name)) (condition : ∀ test, property ((Condition.parse test).map .condition))
    (method : ∀ name params, property (readMethod name params)) (name : String) : (leadingForm name).Every property := by
  unfold leadingForm
  split
  · rename_i keyword _
    cases keyword with
    | moveTo | drawTo | rectangle | declare | assign => exact fun _ _ => plain _
    | circle | lineWidth | rotate | fill | text => exact fun _ => plain _
    | triangle => exact fun _ _ _ _ _ _ => plain _
    | reset | clear | endCondition | loop | endLoop | endMethod => exact plain _
    | color => exact color
    | condition => exact condition
    | method => exact method
  · exact fun _ => plain _

theorem leadingForm_textual (name : String) : (leadingForm name).Every Reading.Textual :=
  leadingForm_every Reading.textual_ok readColor_textual condition_textual readMethod_textual name

theorem parse_cause {line : String} {cause : Cause} (unread : Command.parse line = .error cause) : cause.IsTextual := by
  unfold Command.parse at unread
  dsimp only at unread
  split at unread
  · cases unread
    simp [Cause.IsTextual, Cause.kind]
  · split at unread
    · rename_i reading read
      obtain ⟨name, rest, -, -, accepted⟩ := form_of_readLine read
      exact (leadingForm_textual _).accepts accepted cause unread
    · cases unread
      simp [Cause.IsTextual, Cause.kind]

/-! Carrying it out. -/

theorem Variables.resolve_cause {vars : Variables} {token : String} {cause : Cause}
    (failed : vars.resolve token = .error cause) : cause = .invalidOperand token := by
  unfold Variables.resolve at failed
  split at failed
  · cases failed
  · split at failed
    · cases failed
    · exact (Except.error.inj failed).symm

private theorem resolve_bind_cause {α : Type} {vars : Variables} {token : String} {next : Float → Except Cause α}
    {cause : Cause} (later : ∀ value, next value = .error cause → cause.IsOfVariables)
    (failed : (vars.resolve token >>= next) = .error cause) : cause.IsOfVariables := by
  rcases except_bind_error failed with operand | ⟨value, -, rest⟩
  · exact .inl ⟨token, Variables.resolve_cause operand⟩
  · exact later value rest

theorem Variables.define_cause {vars : Variables} {name : String} {value : Float} {cause : Cause}
    (failed : vars.define name value = .error cause) : cause = .duplicateVariable name := by
  unfold Variables.define at failed
  split at failed
  · exact (Except.error.inj failed).symm
  · cases failed

theorem Variables.assign_cause {vars : Variables} {name : String} {value : Float} {cause : Cause}
    (failed : vars.assign name value = .error cause) : cause = .undefinedVariable name := by
  unfold Variables.assign at failed
  split at failed
  · cases failed
  · exact (Except.error.inj failed).symm

theorem effect_cause {command : Command} {vars : Variables} {pen : PenState} {cause : Cause}
    (failed : command.effect? vars pen = some (.error cause)) : cause.IsOfVariables := by
  cases command with
  | moveTo | drawTo | rectangle =>
    refine resolve_bind_cause (fun _ => resolve_bind_cause ?_) (Option.some.inj failed)
    simp
  | circle | lineWidth | rotate =>
    refine resolve_bind_cause ?_ (Option.some.inj failed)
    simp
  | triangle =>
    refine resolve_bind_cause (fun _ => resolve_bind_cause fun _ => resolve_bind_cause fun _ =>
      resolve_bind_cause fun _ => resolve_bind_cause fun _ => resolve_bind_cause ?_) (Option.some.inj failed)
    simp
  | declare name =>
    refine resolve_bind_cause (fun _ rest => ?_) (Option.some.inj failed)
    rcases except_bind_error rest with defined | ⟨_, -, last⟩
    · exact .inr (.inl ⟨name, Variables.define_cause defined⟩)
    · simp at last
  | assign name =>
    refine resolve_bind_cause (fun _ rest => ?_) (Option.some.inj failed)
    rcases except_bind_error rest with assigned | ⟨_, -, last⟩
    · exact .inr (.inr ⟨name, Variables.assign_cause assigned⟩)
    · simp at last
  | color | reset | fill | text | clear | condition | endCondition | loop | endLoop | method | endMethod
  | call => simp [Command.effect?] at failed

theorem evaluate_cause {test : Condition} {vars : Variables} {cause : Cause}
    (failed : test.evaluate vars = .error cause) : cause.IsOfVariables :=
  resolve_bind_cause (fun _ => resolve_bind_cause (by simp)) failed

theorem numbers_error {κ : Type} {s : State κ} {tokens : List String} {reason : Stop}
    (failed : s.numbers tokens = .error reason) : ∃ cause, reason = .ofCause cause ∧ cause.IsOfVariables := by
  induction tokens with
  | nil => simp [State.numbers, pure, Except.pure] at failed
  | cons token tokens ih =>
    simp only [State.numbers, List.mapM_cons] at failed
    rcases except_bind_error failed with first | ⟨value, -, rest⟩
    · unfold State.number at first
      cases resolved : s.scope.vars.resolve token with
      | error cause =>
        simp only [resolved, Except.mapError, Except.error.injEq] at first
        exact ⟨cause, first.symm, .inl ⟨token, Variables.resolve_cause resolved⟩⟩
      | ok value => simp [resolved, Except.mapError] at first
    · rcases except_bind_error rest with later | ⟨_, -, last⟩
      · exact ih later
      · simp [pure, Except.pure] at last

namespace Scope
variable {scope : Scope} {name : String} {cause : Cause}

/-- A call does not begin if there is no such method, if it takes another number of arguments, or if it is running. -/
theorem enter_cause {args : List Float} (refused : scope.enter name args = .error cause) :
    (scope.method? name = none ∧ cause = .undefinedMethod name) ∨
    (∃ method, scope.method? name = some method ∧ args.length ≠ method.params.length ∧
      cause = .arityMismatch name method.params.length args.length) ∨
    (name ∈ scope.active ∧ cause = .recursion name (scope.active.reverse ++ [name])) := by
  unfold enter lookup at refused
  cases found : scope.method? name with
  | none =>
    simp only [found, bind, Except.bind, Except.error.injEq] at refused
    exact .inl ⟨rfl, refused.symm⟩
  | some method =>
    simp only [found, bind, Except.bind] at refused
    split at refused
    · rename_i arity
      exact .inr (.inl ⟨method, rfl, arity, (Except.error.inj refused).symm⟩)
    · split at refused
      · rename_i running
        exact .inr (.inr ⟨by simpa using running, (Except.error.inj refused).symm⟩)
      · cases refused

theorem enter_notTextual {args : List Float} (refused : scope.enter name args = .error cause) : ¬ cause.IsTextual := by
  rcases enter_cause refused with ⟨-, rfl⟩ | ⟨_, -, -, rfl⟩ | ⟨-, rfl⟩ <;> simp [Cause.IsTextual, Cause.kind]

theorem define_cause {method : Method} (refused : scope.define method = .error cause) :
    cause = .duplicateMethod method.name := by
  unfold define at refused
  split at refused
  · exact (Except.error.inj refused).symm
  · cases refused

end Scope

end Sketch
