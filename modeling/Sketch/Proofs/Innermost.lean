import Sketch.Canvas.Recording
import Sketch.Proofs.Moments
import Sketch.Proofs.Parameters

/-! The line that an error names. A line that replays a loop or calls a method fails where the lines inside it
fail, and any other line fails by itself. On its way out an error is offered every line that it passes, and
keeps the first. -/
namespace Sketch

/-- A reason that no line has been offered to. -/
def Stop.IsBare (reason : Stop) : Prop :=
  (∃ cause, reason = .ofCause cause) ∨ ∃ fault, reason = .canvas fault

private theorem Stop.IsBare.ofCause (cause : Cause) : (Stop.ofCause cause).IsBare :=
  .inl ⟨cause, rfl⟩

structure ScriptError.Locates (error : ScriptError) (line : SourceLine) : Prop where
  text : error.line = some line.text
  number : error.number = some line.number

theorem ScriptError.Locates.unique {error : ScriptError} {line other : SourceLine} (located : error.Locates line)
    (another : error.Locates other) : line = other := by
  have text := located.text.symm.trans another.text
  have number := located.number.symm.trans another.number
  cases line
  cases other
  cases text
  cases number
  rfl

private theorem Stop.IsBare.attach_script {reason : Stop} (bare : reason.IsBare) {line : SourceLine}
    {error : ScriptError} (attached : reason.attach line = .script error) : error.Locates line := by
  rcases bare with ⟨cause, rfl⟩ | ⟨fault, rfl⟩
  · cases attached
    exact ⟨rfl, rfl⟩
  · cases attached

def Stop.IsPlain (reason : Stop) : Prop :=
  reason.IsBare ∧ reason.recursion? = none

private theorem Stop.IsPlain.ofCause {cause : Cause} (other : cause.kind ≠ .recursion) :
    (Stop.ofCause cause).IsPlain := by
  refine ⟨.ofCause cause, Option.eq_none_iff_forall_ne_some.mpr fun name refused => ?_⟩
  obtain ⟨path, rfl⟩ := Stop.recursion?_ofCause refused
  exact other rfl

namespace Session
variable {κ : Type}

section
variable {s : Session κ} {reason : Stop}

private theorem enterCondition_plain {test : Condition} (failed : (s.enterCondition test).reason? = some reason) :
    reason.IsPlain := by
  unfold enterCondition at failed
  split at failed
  · rename_i cause undecided
    cases failed
    exact .ofCause (evaluate_cause undecided).not_recursion
  · cases failed
  · cases failed

private theorem exitCondition_plain (failed : s.exitCondition.reason? = some reason) : reason.IsPlain := by
  cases left : s.blocks.exitCondition with
  | ok blocks =>
    obtain ⟨log, next⟩ := exitCondition_ok left
    rw [next] at failed
    cases failed
  | error cause =>
    rw [exitCondition_error left] at failed
    cases failed
    apply Stop.IsPlain.ofCause
    simp [Blocks.exitCondition_cause left, Cause.kind]

private theorem defineMethod_plain {method : Method} (failed : (s.defineMethod method).reason? = some reason) :
    reason.IsPlain := by
  unfold defineMethod at failed
  split at failed
  · rename_i cause duplicate
    cases failed
    apply Stop.IsPlain.ofCause
    simp [Scope.define_cause duplicate, Cause.kind]
  · cases failed

private theorem call_alone {run : Runner κ} {name : String} {args : List String} (alone : s.called? name args = none)
    (failed : (s.call run name args).reason? = some reason) :
    reason.IsBare ∧ ∀ callee, reason.recursion? = some callee → callee = name ∧ callee ∈ s.scope.active := by
  unfold called? at alone
  unfold call invoke at failed
  cases given : s.numbers args with
  | error other =>
    obtain ⟨cause, rfl, ordinary⟩ := numbers_error given
    rw [given] at failed
    cases failed
    have plain := Stop.IsPlain.ofCause ordinary.not_recursion
    exact ⟨plain.1, fun callee refused => by simp [plain.2] at refused⟩
  | ok values =>
    cases begun : s.scope.enter name values with
    | ok entered => simp [given, begun] at alone
    | error cause =>
      simp only [given, begun] at failed
      cases failed
      refine ⟨.ofCause cause, fun callee refused => ?_⟩
      obtain ⟨path, rfl⟩ := Stop.recursion?_ofCause refused
      rcases Scope.enter_cause begun with ⟨-, other⟩ | ⟨method, -, -, other⟩ | ⟨running, same⟩
      · cases other
      · cases other
      · cases same
        exact ⟨rfl, running⟩

variable [Canvas κ]

private theorem enact_plain {effect : Except Cause Effect}
    (ordinary : ∀ cause, effect = .error cause → cause.IsOfVariables)
    (failed : (s.atOnce (s.enact effect)).reason? = some reason) : reason.IsPlain := by
  cases effect with
  | error cause =>
    cases failed
    exact .ofCause (ordinary cause rfl).not_recursion
  | ok effect =>
    simp only [State.enact] at failed
    cases painted : State.paint effect s.canvas with
    | error fault =>
      rw [painted] at failed
      cases failed
      exact ⟨.inr ⟨fault, rfl⟩, rfl⟩
    | ok canvas =>
      rw [painted] at failed
      cases failed

/-- A line that runs no lines inside itself names none, and is refused as a recursion only if it calls a running
method. -/
theorem step_alone {run : Runner κ} {line : SourceLine} (alone : s.nested? line = none)
    (failed : (s.step run line).reason? = some reason) :
    reason.IsBare ∧ ∀ name, reason.recursion? = some name →
      name ∈ s.scope.active ∧ ∃ args, Command.parse line.text = .ok (.call name args) := by
  have plainly : reason.IsPlain → reason.IsBare ∧ ∀ name, reason.recursion? = some name →
      name ∈ s.scope.active ∧ ∃ args, Command.parse line.text = .ok (.call name args) :=
    fun plain => ⟨plain.1, fun name refused => by simp [plain.2] at refused⟩
  obtain ⟨act, stepped, same⟩ := step_stepped line s
  rw [same] at failed
  cases stepped with
  | nested | mismatched | stray =>
    cases failed
    exact plainly (.ofCause (by simp [Cause.kind]))
  | malformed cause idle unread =>
    cases failed
    exact plainly (.ofCause (parse_cause unread).not_recursion)
  | collected | opens => cases failed
  | finished capture opened word =>
    obtain ⟨name, params, opening⟩ := method_of_alone alone opened word
    simp only [finishBlock_method opening, Ran.reason?_step] at failed
    exact plainly (defineMethod_plain failed)
  | effect command effect idle read found =>
    apply plainly
    apply enact_plain _ failed
    rintro cause rfl
    exact effect_cause found
  | condition => exact plainly (enterCondition_plain failed)
  | endif => exact plainly (exitCondition_plain failed)
  | calls name args idle read =>
    simp only [Ran.reason?_step] at failed
    obtain ⟨bare, recursion⟩ := call_alone (not_called_of_alone alone idle read) failed
    refine ⟨bare, fun callee refused => ?_⟩
    obtain ⟨rfl, running⟩ := recursion callee refused
    exact ⟨running, args, read⟩

end

variable [Canvas κ]

/-- The innermost line at which a run with this allowance fails: the first line that fails, or, if that line runs
lines inside itself, the innermost line at which these fail. -/
inductive FailsAt : Nat → List SourceLine → Session κ → SourceLine → Prop
  | itself {depth line rest s reason after} (alone : s.nested? line = none)
      (stepped : s.step (runLines depth) line = .stop reason after) : FailsAt (depth + 1) (line :: rest) s line
  | unclosed {depth line rest s after} (stepped : s.step (runLines depth) line = .skip after)
      (missing : linesToEndif 0 rest = none) : FailsAt (depth + 1) (line :: rest) s line
  | inside {depth line rest s nested culprit} (found : s.nested? line = some nested)
      (inner : FailsAt depth nested.lines nested.session culprit) : FailsAt (depth + 1) (line :: rest) s culprit
  | next {depth line rest s after culprit} (stepped : s.step (runLines depth) line = .next after)
      (later : FailsAt (depth + 1) rest after culprit) : FailsAt (depth + 1) (line :: rest) s culprit
  | skip {depth line rest s after count culprit} (stepped : s.step (runLines depth) line = .skip after)
      (found : linesToEndif 0 rest = some count)
      (later : FailsAt (depth + 1) (rest.drop count) { after with blocks := after.blocks.skipCondition } culprit) :
      FailsAt (depth + 1) (line :: rest) s culprit

/-- Whatever else it passes on its way out, the error of a run names the innermost line. -/
theorem FailsAt.runs {depth : Nat} {lines : List SourceLine} {s : Session κ} {culprit : SourceLine}
    (fails : FailsAt depth lines s culprit) :
    ∃ (reason : Stop) (t : Session κ), reason.IsBare ∧ runLines depth lines s = .stopped (reason.attach culprit) t := by
  induction fails with
  | @itself depth line rest s reason after alone stepped =>
    have failed : (s.step (runLines depth) line).reason? = some reason := by rw [stepped]; rfl
    exact ⟨reason, after, (step_alone alone failed).1, scan_stop stepped⟩
  | unclosed stepped missing => exact ⟨_, _, .ofCause _, scan_unclosed stepped missing⟩
  | @inside depth line rest s nested culprit found _ ih =>
    obtain ⟨reason, t, bare, ran⟩ := ih
    have stepped : s.step (runLines depth) line = .stop (reason.attach culprit) (t.unwound nested.hidden) := by
      rw [step_of_nested found, ran]
      rfl
    refine ⟨reason, t.unwound nested.hidden, bare, (scan_stop stepped).trans ?_⟩
    rw [reason.attach_settled culprit line]
  | next stepped _ ih =>
    obtain ⟨reason, t, bare, ran⟩ := ih
    exact ⟨reason, t, bare, (scan_next stepped).trans ran⟩
  | skip stepped found _ ih =>
    obtain ⟨reason, t, bare, ran⟩ := ih
    exact ⟨reason, t, bare, (scan_skip stepped found).trans ran⟩

theorem exists_failsAt {depth : Nat} {lines : List SourceLine} {s : Session κ} {reason : Stop}
    (failed : (runLines depth lines s).reason? = some reason) (within : reason ≠ .tooDeep) :
    ∃ culprit, FailsAt depth lines s culprit := by
  induction depth generalizing lines s reason with
  | zero =>
    cases failed
    exact absurd rfl within
  | succ depth ih =>
    have scanned := scan_scanned (runLines depth) lines s
    have ran : runLines (depth + 1) lines s = scan (runLines depth) 0 lines s := rfl
    rw [ran] at failed
    generalize scan (runLines depth) 0 lines s = ran at scanned failed
    induction scanned with
    | nil => cases failed
    | next stepped _ later =>
      obtain ⟨culprit, fails⟩ := later rfl failed
      exact ⟨culprit, .next stepped fails⟩
    | @stop line rest s inner after stepped =>
      cases found : s.nested? line with
      | none => exact ⟨line, .itself found stepped⟩
      | some nested =>
        have inside : (runLines depth nested.lines nested.session).reason? = some inner := by
          rw [← Ran.reason?_mapSession _ (unwound nested.hidden), ← Ran.reason?_step, ← step_of_nested found, stepped]
          rfl
        obtain ⟨culprit, fails⟩ := ih inside (by rintro rfl; cases failed; exact within rfl)
        exact ⟨culprit, .inside found fails⟩
    | unclosed stepped missing => exact ⟨_, .unclosed stepped missing⟩
    | skip stepped found _ later =>
      obtain ⟨culprit, fails⟩ := later rfl failed
      exact ⟨culprit, .skip stepped found fails⟩

private theorem FailsAt.named {depth : Nat} {lines : List SourceLine} {s t : Session κ} {error : ScriptError}
    (failed : runLines depth lines s = .stopped (.script error) t) {line : SourceLine}
    (fails : FailsAt depth lines s line) : error.Locates line := by
  obtain ⟨reason, u, bare, ran⟩ := fails.runs
  rw [failed] at ran
  exact bare.attach_script (Ran.stopped.inj ran).1.symm

/-- A run fails at no more than one line, and its error names that line. -/
theorem runLines_locates {depth : Nat} {lines : List SourceLine} {s t : Session κ} {error : ScriptError}
    (failed : runLines depth lines s = .stopped (.script error) t) (line : SourceLine) :
    FailsAt depth lines s line ↔ error.Locates line := by
  refine ⟨FailsAt.named failed, fun located => ?_⟩
  obtain ⟨culprit, fails⟩ := exists_failsAt (by rw [failed]; rfl) (by simp)
  rw [located.unique (fails.named failed)]
  exact fails

end Session

theorem Scope.enter_arity {scope : Scope} {name : String} {args : List Float} {entered : Entered}
    (begun : scope.enter name args = .ok entered) : args.length = entered.method.params.length := by
  unfold enter at begun
  obtain ⟨method, -, rest⟩ := except_bind_ok begun
  split at rest
  · cases rest
  · rename_i arity
    split at rest
    · cases rest
    · cases rest
      exact not_not.mp arity

private theorem Keeps.of_holds {κ : Type} {given known : SourceLine → Prop} {s : Session κ} (kept : Keeps given s)
    (held : ∀ line, s.Holds line → known line) : Keeps known s := by
  constructor
  · intro method defined line inside
    exact ⟨held line (.inl ⟨method, defined, inside⟩), (kept.bodies method defined line inside).2⟩
  · intro capture opened line inside
    exact ⟨held line (.inr ⟨capture, opened, inside⟩), (kept.captured capture opened line inside).2⟩

namespace Reachable
variable {κ : Type} [Canvas κ] {s : Session κ}

theorem enter_error_iff (reachable : Reachable s) (name : String) (args : List Float) :
    (∃ cause, s.scope.enter name args = .error cause) ↔
      s.scope.method? name = none ∨
        ∃ method, s.scope.method? name = some method ∧ args.length ≠ method.params.length := by
  constructor
  · rintro ⟨cause, refused⟩
    rcases Scope.enter_cause refused with ⟨missing, -⟩ | ⟨method, found, arity, -⟩ | ⟨running, -⟩
    · exact .inl missing
    · exact .inr ⟨method, found, arity⟩
    · simp [reachable.active] at running
  · intro refused
    cases begun : s.scope.enter name args with
    | error cause => exact ⟨cause, rfl⟩
    | ok entered =>
      have found := (Scope.enter_ok begun).1
      rcases refused with missing | ⟨method, other, arity⟩
      · rw [missing] at found
        cases found
      · rw [found] at other
        cases other
        exact absurd (Scope.enter_arity begun) arity

private theorem program_locates (reachable : Reachable s) {program : String} {error : ScriptError} {t : Session κ}
    (failed : s.attempt (.program program) = .stopped (.script error) t) :
    ∃ culprit, error.Locates culprit ∧ (culprit ∈ splitProgram program ∨ s.Holds culprit) := by
  have kept : Keeps (fun line => line ∈ splitProgram program ∨ s.Holds line) s :=
    reachable.keeps.of_holds fun _ => .inr
  have ran : (s.attempt (.program program)).Keeps _ := Session.runLines_keeps _ _ s (fun _ => .inl) kept
  rw [failed] at ran
  obtain ⟨culprit, known, text, number, -⟩ := ran.2
  exact ⟨culprit, ⟨text, number⟩, known⟩

theorem call_unlocated_iff (reachable : Reachable s) (name : String) (args : List Float) :
    (∃ error t, s.callMethod name args = .stopped (.script error) t ∧ error.line = none) ↔
      ∃ cause, s.scope.enter name args = .error cause := by
  constructor
  · rintro ⟨error, t, failed, unlocated⟩
    cases begun : s.scope.enter name args with
    | error cause => exact ⟨cause, rfl⟩
    | ok entered =>
      obtain ⟨u, ran⟩ := conclude_stopped failed
      have reason := congrArg Ran.reason? ran
      simp only [Session.invoke, begun, Ran.reason?_mapSession] at reason
      have inner := Session.runLines_keeps (s.allowance []) entered.method.body { s with scope := entered.scope }
        (fun _ _ => trivial) (reachable.keeps.of_eq (Scope.enter_ok begun).2.2.1 rfl)
      rw [Ran.eq_stopped reason] at inner
      obtain ⟨line, -, text, -⟩ := inner.2
      rw [unlocated] at text
      cases text
  · rintro ⟨cause, refused⟩
    have ran : Session.invoke (Session.runLines (s.allowance [])) name args s = .stopped (.ofCause cause) s := by
      simp only [Session.invoke, refused]
    exact ⟨{ cause }, _, congrArg (Session.conclude _) ran, rfl⟩

end Reachable

/-- If a program fails, its error names the innermost line at which it fails, and no other; this is a line of the
program or one that the session held for later. A call by the host fails without a line exactly if there is no such
method or it takes another number of arguments. -/
theorem error_names_innermost {κ : Type} [Canvas κ] {s : Session κ} (reachable : Reachable s) :
    (∀ program error t, s.runProgram program = .stopped (.script error) t →
      ∃ culprit : SourceLine, error.line = some culprit.text ∧ error.number = some culprit.number ∧
        (∀ line, Session.FailsAt (s.allowance (splitProgram program)) (splitProgram program) s line ↔ line = culprit) ∧
        (culprit ∈ splitProgram program ∨ s.Holds culprit)) ∧
    ∀ name args, (∃ error t, s.callMethod name args = .stopped (.script error) t ∧ error.line = none) ↔
      s.scope.method? name = none ∨
        ∃ method, s.scope.method? name = some method ∧ args.length ≠ method.params.length := by
  refine ⟨fun program error t failed => ?_, fun name args => ?_⟩
  · obtain ⟨u, ran⟩ := conclude_stopped failed
    obtain ⟨culprit, located, known⟩ := reachable.program_locates ran
    refine ⟨culprit, located.text, located.number, fun line => ?_, known⟩
    rw [Session.runLines_locates ran line]
    exact ⟨fun other => other.unique located, fun same => same ▸ located⟩
  · rw [reachable.call_unlocated_iff name args, reachable.enter_error_iff name args]

/-- A method that calls another, called by a loop that an earlier program has opened: the error names a line of the
innermost body, by its number in the program that defined it. -/
theorem error_names_innermost_body_line :
    let methods := "method inner r\n\n  circle r\n  circle radius\nendmethod\nmethod outer\ninner(1)\nendmethod"
    let s := (Session.start ({} : Recording) true).after [.program methods, .program "loop\nouter()"]
    let lines := splitProgram "clear\nendloop"
    Reachable s ∧
    (∃ error t, s.runProgram "clear\nendloop" = .stopped (.script error) t ∧ error.line = some "circle radius" ∧
      error.number = some 4) ∧
    (∀ line, Session.FailsAt (s.allowance lines) lines s line ↔ line = ⟨4, "circle radius"⟩) ∧
    ∃ error t, s.callMethod "inner" [] = .stopped (.script error) t ∧ error.line = none := by
  intro methods s lines
  have reachable : Reachable s := (Reachable.start _ _).after _
  have reason : (s.runProgram "clear\nendloop").reason? =
      some (.script ⟨.invalidOperand "radius", some "circle radius", some 4⟩) := by decide +kernel
  have arity : ∃ method, s.scope.method? "inner" = some method ∧ ([] : List Float).length ≠ method.params.length :=
    ⟨⟨"inner", ["r"], [⟨3, "circle r"⟩, ⟨4, "circle radius"⟩]⟩, by decide +kernel, by decide⟩
  obtain ⟨programs, calls⟩ := error_names_innermost reachable
  obtain ⟨⟨number, text⟩, sameText, sameNumber, fails, -⟩ := programs _ _ _ (Ran.eq_stopped reason)
  cases sameText
  cases sameNumber
  exact ⟨reachable, ⟨_, _, Ran.eq_stopped reason, rfl, rfl⟩, fails, (calls "inner" []).mpr (.inr arity)⟩

end Sketch
