import Sketch.Canvas.Recording
import Sketch.Proofs.Causes
import Sketch.Proofs.Deferral
import Sketch.Proofs.Representation

/-! Operands. The text of an operand is that of a number or that of a name, never both, and at every moment of a session
only names have values. So a number means itself whatever is defined, and a command finds no value for its operands
exactly if it names a variable that is not there. -/
namespace Sketch

/-- The operands whose numbers a command needs, in the order in which it looks them up; none for a command that takes
no numbers. -/
def Command.numeric? : Command → Option (List String)
  | moveTo x y | drawTo x y | rectangle x y => some [x, y]
  | circle x | lineWidth x | rotate x => some [x]
  | triangle x₁ y₁ x₂ y₂ x₃ y₃ => some [x₁, y₁, x₂, y₂, x₃, y₃]
  | declare _ value | assign _ value => some [value]
  | call _ args => some args
  | color _ | reset | fill _ | text _ | clear | condition _ | endCondition | loop | endLoop | method .. | endMethod => none

theorem operands_of_parse {line : String} {command : Command} {operands : List String}
    (parsed : Command.parse line = .ok command) (numeric : command.numeric? = some operands) :
    ∀ operand ∈ operands, IsOperand operand.toList := by
  have spells := spells_of_parse parsed
  generalize Text.trim line.toList = text at spells
  cases spells with
  | operands begun taken spelled each spaced =>
    have same : command.numeric? = some operands → command.operands? = some operands := by
      cases command <;> simp [Command.numeric?, Command.operands?] at taken ⊢
    rw [Option.some.inj (taken.symm.trans (same numeric))] at each
    exact each
  | declare spelled named operand | assign spelled named operand =>
    cases numeric
    simpa using operand
  | call named each =>
    cases numeric
    exact each
  | color | fill | noText | text | condition | method => cases numeric

/-! Numbers and names. -/

theorem IsNumber.ofText? {token : String} (number : IsNumber token.toList) :
    ∃ numeral, Numeral.ofText? token = some numeral := by
  have parted : Parted [] := by simp [Parted]
  obtain ⟨numeral, read, -⟩ := Numeral.read?_number number parted
  rw [List.append_nil] at read
  exact ⟨numeral, by simp [Numeral.ofText?, read]⟩

theorem IsName.ofText? {token : String} (name : IsName token.toList) : Numeral.ofText? token = none := by
  obtain ⟨first, rest, split, start, -⟩ := name
  simp [Numeral.ofText?, split, Numeral.read?_nameStart start]

theorem IsName.not_number {token : String} (name : IsName token.toList) : ¬ IsNumber token.toList := by
  intro number
  obtain ⟨numeral, read⟩ := number.ofText?
  rw [name.ofText?] at read
  cases read

namespace Variables
variable {vars : Variables} {token : String}

theorem get?_eq_none_iff : vars.get? token = none ↔ token ∉ vars.names := by
  rw [← contains_iff_mem_names, contains]
  simp

theorem resolve_number (named : ∀ name ∈ vars.names, IsName name.toList) (number : IsNumber token.toList) :
    ∃ numeral, Numeral.ofText? token = some numeral ∧ vars.resolve token = .ok numeral.value := by
  obtain ⟨numeral, read⟩ := number.ofText?
  have free : vars.get? token = none :=
    get?_eq_none_iff.mpr fun defined => (named token defined).not_number number
  exact ⟨numeral, read, by simp only [resolve, free, read]⟩

theorem resolve_defined {value : Float} (found : vars.get? token = some value) : vars.resolve token = .ok value := by
  simp only [resolve, found]

theorem resolve_undefined (name : IsName token.toList) (missing : vars.get? token = none) :
    vars.resolve token = .error (.invalidOperand token) := by
  simp only [resolve, missing, name.ofText?]

def Lacks (vars : Variables) (token : String) : Prop :=
  vars.resolve token = .error (.invalidOperand token)

private theorem lacks_iff (named : ∀ name ∈ vars.names, IsName name.toList) (operand : IsOperand token.toList) :
    vars.Lacks token ↔ IsName token.toList ∧ token ∉ vars.names := by
  constructor
  · intro lacks
    rcases operand with number | name
    · obtain ⟨numeral, -, resolved⟩ := resolve_number named number
      rw [Lacks, resolved] at lacks
      cases lacks
    · refine ⟨name, fun defined => ?_⟩
      obtain ⟨value, found⟩ := Option.isSome_iff_exists.mp (contains_iff_mem_names.mpr defined)
      rw [Lacks, resolve_defined found] at lacks
      cases lacks
  · rintro ⟨name, missing⟩
    exact resolve_undefined name (get?_eq_none_iff.mpr missing)

end Variables

/-! Looking operands up one after the other. -/

def Invalid {α : Type} (result : Except Cause α) : Prop :=
  ∃ token, result = .error (.invalidOperand token)

private theorem invalid_bind {α : Type} {vars : Variables} {token : String} {next : Float → Except Cause α}
    {later : Prop} (rest : ∀ value, Invalid (next value) ↔ later) :
    Invalid (vars.resolve token >>= next) ↔ vars.Lacks token ∨ later := by
  cases resolved : vars.resolve token with
  | error cause =>
    obtain rfl := Variables.resolve_cause resolved
    exact iff_of_true ⟨token, rfl⟩ (.inl resolved)
  | ok value =>
    refine Iff.trans (rest value) ⟨.inr, Or.rec (fun lacks => ?_) id⟩
    rw [Variables.Lacks, resolved] at lacks
    cases lacks

private theorem not_invalid_ok {α : Type} (value : α) : Invalid (.ok value : Except Cause α) ↔ False := by
  simp [Invalid]

private theorem invalid_mapM {vars : Variables} (tokens : List String) :
    Invalid (tokens.mapM vars.resolve) ↔ ∃ token ∈ tokens, vars.Lacks token := by
  induction tokens with
  | nil => exact iff_of_false (by simp [Invalid, pure, Except.pure]) (by simp)
  | cons token tokens ih =>
    rw [List.mapM_cons, List.exists_mem_cons_iff]
    apply invalid_bind
    intro value
    rw [← ih]
    cases tokens.mapM vars.resolve <;> simp [Invalid, bind, Except.bind, pure, Except.pure]

private theorem not_invalid_change {change : Except Cause Variables} {next : Variables → Effect}
    (valid : ∀ token, change ≠ .error (.invalidOperand token)) :
    Invalid (change >>= fun vars => .ok (next vars)) ↔ False := by
  refine iff_false_intro ?_
  rintro ⟨token, failed⟩
  rcases except_bind_error failed with refused | ⟨_, -, last⟩
  · exact valid token refused
  · cases last

private theorem invalid_effect {command : Command} {vars : Variables} {pen : PenState} {effect : Except Cause Effect}
    {operands : List String} (found : command.effect? vars pen = some effect)
    (numeric : command.numeric? = some operands) : Invalid effect ↔ ∃ operand ∈ operands, vars.Lacks operand := by
  cases command with
  | moveTo | drawTo | rectangle =>
    cases found
    cases numeric
    refine Iff.trans (invalid_bind fun _ => invalid_bind fun _ => not_invalid_ok _) ?_
    simp
  | circle | lineWidth | rotate =>
    cases found
    cases numeric
    refine Iff.trans (invalid_bind fun _ => not_invalid_ok _) ?_
    simp
  | triangle =>
    cases found
    cases numeric
    refine Iff.trans (invalid_bind fun _ => invalid_bind fun _ => invalid_bind fun _ => invalid_bind fun _ =>
      invalid_bind fun _ => invalid_bind fun _ => not_invalid_ok _) ?_
    simp
  | declare name =>
    cases found
    cases numeric
    have valid (value : Float) (token : String) : vars.define name value ≠ .error (.invalidOperand token) :=
      fun refused => by cases Variables.define_cause refused
    refine Iff.trans (invalid_bind fun value => not_invalid_change (valid value)) ?_
    simp
  | assign name =>
    cases found
    cases numeric
    have valid (value : Float) (token : String) : vars.assign name value ≠ .error (.invalidOperand token) :=
      fun refused => by cases Variables.assign_cause refused
    refine Iff.trans (invalid_bind fun value => not_invalid_change (valid value)) ?_
    simp
  | call => cases found
  | color | reset | fill | text | clear | condition | endCondition | loop | endLoop | method | endMethod => cases numeric

namespace Session
variable {κ : Type} [Canvas κ]

/-- The reason is an operand without a value, and no line has been named yet: it is not one of the lines inside. -/
def OwnOperand (reason : Option Stop) : Prop :=
  ∃ token, reason = some (.ofCause (.invalidOperand token))

private theorem ownOperand_ofCause {cause : Cause} :
    OwnOperand (some (.ofCause cause)) ↔ ∃ token, cause = .invalidOperand token := by
  simp [OwnOperand, Stop.ofCause]

/-- The lines inside a line have named themselves before their error comes out. -/
theorem runLines_ne_ofCause (depth : Nat) (lines : List SourceLine) (s : Session κ) (cause : Cause) :
    (runLines depth lines s).reason? ≠ some (.ofCause cause) := by
  intro bare
  have named := runLines_attach depth lines s ⟨0, ""⟩
  rw [Ran.eq_stopped bare] at named
  cases (Ran.stopped.inj named).1

private theorem call_ownOperand (depth : Nat) (name : String) (args : List String) (s : Session κ) :
    OwnOperand (s.call (runLines depth) name args).reason? ↔ ∃ arg ∈ args, s.scope.vars.Lacks arg := by
  rw [← invalid_mapM]
  unfold call
  rw [s.numbers_eq]
  cases args.mapM s.scope.vars.resolve with
  | error cause =>
    refine ownOperand_ofCause.trans ?_
    simp [Invalid]
  | ok values =>
    refine iff_of_false ?_ (by simp [Invalid])
    rintro ⟨token, failed⟩
    simp only [Except.mapError, invoke] at failed
    cases begun : s.scope.enter name values with
    | error cause =>
      simp only [begun, Ran.reason?, Option.some.injEq, Stop.ofCause] at failed
      cases failed
      rcases Scope.enter_cause begun with ⟨-, other⟩ | ⟨_, -, -, other⟩ | ⟨-, other⟩ <;> cases other
    | ok entered =>
      simp only [begun, Ran.reason?_mapSession] at failed
      exact runLines_ne_ofCause _ _ _ _ failed

private theorem atOnce_ownOperand (s : Session κ) (effect : Except Cause Effect) :
    OwnOperand (s.atOnce (s.enact effect)).reason? ↔ Invalid effect := by
  cases effect with
  | error cause =>
    refine ownOperand_ofCause.trans ?_
    simp [Invalid]
  | ok effect =>
    rw [not_invalid_ok]
    simp only [State.enact]
    cases State.paint effect s.canvas <;> simp [OwnOperand, atOnce, Step.reason?, Stop.ofCause]

theorem perform_ownOperand {command : Command} {operands : List String} (numeric : command.numeric? = some operands)
    (depth : Nat) (s : Session κ) :
    OwnOperand (perform (runLines depth) command s).reason? ↔ ∃ operand ∈ operands, s.scope.vars.Lacks operand := by
  cases found : command.effect? s.scope.vars s.pen with
  | some effect =>
    rw [perform_effect found, atOnce_ownOperand]
    exact invalid_effect found numeric
  | none =>
    cases command with
    | call name args =>
      cases numeric
      simp only [perform, Ran.reason?_step]
      exact s.call_ownOperand depth name _
    | moveTo | drawTo | rectangle | circle | triangle | lineWidth | rotate | declare | assign => cases found
    | color | reset | fill | text | clear | condition | endCondition | loop | endLoop | method | endMethod =>
      cases numeric

end Session

/-! Names at every moment. -/

namespace Moment
variable {κ : Type}

/-- Only names have values, and only names will get back the values that calls have hidden. -/
structure Named (moment : Moment κ) : Prop where
  session : moment.session.Named
  waiting : ∀ outer ∈ moment.waiting, ∀ hidden ∈ outer.hidden, ∀ entry ∈ hidden, IsName entry.1.toList

private theorem Named.unwound {s : Session κ} {outer : Waiting} (named : s.Named)
    (hides : ∀ hidden ∈ outer.hidden, ∀ entry ∈ hidden, IsName entry.1.toList) : (s.unwound outer.hidden).Named := by
  unfold Session.unwound
  split
  · exact named
  · rename_i hidden held
    exact named.unwound (hides hidden held)

private theorem Named.nested {s : Session κ} {line : SourceLine} {nested : Nested κ} (named : s.Named)
    (found : s.nested? line = some nested) :
    nested.session.Named ∧ ∀ hidden ∈ nested.hidden, ∀ entry ∈ hidden, IsName entry.1.toList := by
  rcases Session.nested?_cases found with ⟨capture, -, -, -, rfl⟩ | ⟨name, args, values, entered, -, -, -, begun, rfl⟩
  · exact ⟨⟨named.vars, named.methods, by simp [Session.replaying, Session.released, Session.note]⟩, by simp⟩
  · have noted : (s.noted line).Named := named
    refine ⟨noted.enter begun, ?_⟩
    rintro _ ⟨⟩
    exact noted.hidden begun

variable [Canvas κ]

theorem Named.move {moment : Moment κ} (named : moment.Named) : moment.move.Named := by
  have moved := moment.move_moved
  generalize moment.move = next at moved ⊢
  cases moved with
  | ended => exact named
  | @steps line rest s waiting =>
    have evolves := (Session.step_evolves (Session.runLines_evolves 0) line s).trans (ofStep_evolves line rest waiting _)
    refine ⟨evolves.named named.session, ?_⟩
    rw [waiting_ofStep]
    exact named.waiting
  | @enters line rest s waiting nested found =>
    obtain ⟨inner, hides⟩ := Named.nested named.session found
    exact ⟨inner, List.forall_mem_cons.mpr ⟨hides, named.waiting⟩⟩
  | leaves | unwinds =>
    obtain ⟨hides, others⟩ := List.forall_mem_cons.mp named.waiting
    exact ⟨Named.unwound named.session hides, others⟩

private theorem begin_named {s : Session κ} (reachable : Reachable s) (request : Request) :
    (begin request s).Named := by
  have named := reachable.named
  cases request with
  | program text => exact ⟨named, by simp [begin, waiting]⟩
  | call name args =>
    cases begun : s.scope.enter name args with
    | error cause =>
      simp only [begin, begun]
      exact ⟨named, by simp [waiting]⟩
    | ok entered =>
      simp only [begin, begun]
      refine ⟨named.enter begun, List.forall_mem_singleton.mpr ?_⟩
      rintro _ ⟨⟩
      exact named.hidden begun

end Moment

theorem Reachable.named_moment {κ : Type} [Canvas κ] {s : Session κ} (reachable : Reachable s) (request : Request)
    (count : Nat) : (Moment.move^[count] (.begin request s)).Named :=
  Function.Iterate.rec Moment.Named (Moment.begin_named reachable request) (fun _ => Moment.Named.move) count

/-- At every moment of a session, each operand of a command that takes numbers is either a number, which means itself
whatever is defined, or a name, which means the value it has; and the command stops for want of a value exactly if one
of its operands is a name that has none. -/
theorem operand_fails_only_undefined {κ : Type} [Canvas κ] {s : Session κ} (reachable : Reachable s)
    (request : Request) (count : Nat) {line : String} {command : Command} {operands : List String}
    (parsed : Command.parse line = .ok command) (numeric : command.numeric? = some operands) :
    ∀ t, (Moment.move^[count] (.begin request s)).session = t →
      (∀ operand ∈ operands,
        (IsNumber operand.toList ∧ ¬ IsName operand.toList ∧
          ∃ numeral, Numeral.ofText? operand = some numeral ∧ t.scope.vars.resolve operand = .ok numeral.value) ∨
        (IsName operand.toList ∧ ¬ IsNumber operand.toList ∧
          (∀ value, t.scope.vars.get? operand = some value → t.scope.vars.resolve operand = .ok value) ∧
          (operand ∉ t.scope.vars.names → t.scope.vars.resolve operand = .error (.invalidOperand operand)))) ∧
      ((∃ token, t.numbers operands = .error (.ofCause (.invalidOperand token))) ↔
        ∃ operand ∈ operands, IsName operand.toList ∧ operand ∉ t.scope.vars.names) ∧
      ∀ depth, (∃ token, (t.perform (Session.runLines depth) command).reason? = some (.ofCause (.invalidOperand token))) ↔
        ∃ operand ∈ operands, IsName operand.toList ∧ operand ∉ t.scope.vars.names := by
  rintro t rfl
  have named := (reachable.named_moment request count).session.vars
  generalize (Moment.move^[count] (.begin request s)).session = t at named
  have each := operands_of_parse parsed numeric
  have lacking : (∃ operand ∈ operands, t.scope.vars.Lacks operand) ↔
      ∃ operand ∈ operands, IsName operand.toList ∧ operand ∉ t.scope.vars.names :=
    exists_congr fun operand => and_congr_right fun inside => Variables.lacks_iff named (each operand inside)
  refine ⟨fun operand inside => ?_, ?_, fun depth => ?_⟩
  · rcases each operand inside with number | name
    · exact .inl ⟨number, fun name => name.not_number number, Variables.resolve_number named number⟩
    · refine .inr ⟨name, name.not_number, fun value => Variables.resolve_defined, fun missing => ?_⟩
      exact Variables.resolve_undefined name (Variables.get?_eq_none_iff.mpr missing)
  · rw [← lacking, ← invalid_mapM, t.numbers_eq]
    cases operands.mapM t.scope.vars.resolve <;> simp [Invalid, Except.mapError, Stop.ofCause]
  · rw [← lacking]
    exact Session.perform_ownOperand numeric depth t

/-- Inside a call that has given `x` a value, a line with a name that has none and a number in digits of two scripts. -/
theorem operand_fails_only_undefined_in_call :
    let body := "circle x\nrectangle y \u0663.5"
    let s := (Session.start ({} : Recording) false).after [.program ("method m x\n" ++ body ++ "\nendmethod")]
    let t := (Moment.move^[1] (.begin (.call "m" [2]) s)).session
    Reachable s ∧ t.scope.vars.names = ["x"] ∧
    Command.parse "rectangle y \u0663.5" = .ok (.rectangle "y" "\u0663.5") ∧
    (∃ numeral, Numeral.ofText? "\u0663.5" = some numeral ∧ t.scope.vars.resolve "\u0663.5" = .ok numeral.value) ∧
    ∃ token, (t.perform (Session.runLines 0) (.rectangle "y" "\u0663.5")).reason? =
      some (.ofCause (.invalidOperand token)) := by
  intro body s t
  have reachable : Reachable s := (Reachable.start _ _).after _
  have names : t.scope.vars.names = ["x"] := by decide +kernel
  have parsed : Command.parse "rectangle y \u0663.5" = .ok (.rectangle "y" "\u0663.5") := by
    have read : (Command.parse "rectangle y \u0663.5").toOption = some (.rectangle "y" "\u0663.5") := by decide +kernel
    generalize Command.parse "rectangle y \u0663.5" = result at read ⊢
    cases result with
    | error cause => cases read
    | ok command => exact congrArg Except.ok (Option.some.inj read)
  obtain ⟨each, -, fails⟩ := operand_fails_only_undefined reachable (.call "m" [2]) 1 parsed rfl t rfl
  clear_value t s
  refine ⟨reachable, names, parsed, ?_, (fails 0).mpr ⟨"y", by simp, ⟨'y', [], rfl, by decide, by simp⟩, ?_⟩⟩
  · rcases each "\u0663.5" (by simp) with ⟨-, -, means⟩ | ⟨⟨first, rest, split, start, -⟩, -⟩
    · exact means
    · obtain rfl : '\u0663' = first := (List.cons.inj split).1
      exact absurd start (by decide)
  · rw [names]
    decide

end Sketch
