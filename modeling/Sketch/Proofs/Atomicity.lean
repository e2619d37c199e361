import Sketch.Canvas.Recording
import Sketch.Proofs.Allowance
import Sketch.Proofs.Deferral

/-! Lines that fail. A command does all that can go wrong before it changes anything, so a line that fails by
itself leaves the state as it was. One line gives something up first: that which closes a method whose name is
taken. A line that runs lines inside itself is another matter, and it fails exactly as they do. -/
namespace Sketch

namespace Session
variable {κ : Type}

/-- The line closes a method whose name is taken. -/
def Redefines (line : SourceLine) (s : Session κ) : Prop :=
  ∃ name params lines, s.blocks.capture = some ⟨.method name params, lines⟩ ∧
    leadingKeyword? line.text = some .endMethod ∧ (s.scope.method? name).isSome

/-- The state after a line that came to nothing. -/
structure Spared (line : SourceLine) (s t : Session κ) : Prop where
  given_up : s.Redefines line → t.toState = s.released.toState
  unchanged : ¬ s.Redefines line → t.toState = s.toState

section
variable {line : SourceLine} {s : Session κ}

private theorem not_redefines_opener {kind : BlockKind} (word : leadingKeyword? line.text = some kind.opener) :
    ¬ s.Redefines line := by
  rintro ⟨name, params, lines, -, closes, -⟩
  rw [word] at closes
  cases kind <;> cases closes

private theorem not_redefines_mismatched {capture : Capture} {kind : BlockKind}
    (opened : s.blocks.capture = some capture)
    (word : leadingKeyword? line.text = some kind.closer) (other : capture.opening.kind ≠ kind) :
    ¬ s.Redefines line := by
  rintro ⟨name, params, lines, method, closes, -⟩
  rw [opened] at method
  cases method
  rw [word] at closes
  cases kind with
  | loop => cases closes
  | method => exact other rfl

private theorem Spared.of_free {t : Session κ} (free : ¬ s.Redefines line) (same : t.toState = s.toState) :
    Spared line s t :=
  ⟨fun taken => absurd taken free, fun _ => same⟩

private theorem Spared.of_idle {t : Session κ} (idle : s.blocks.capture = none) (same : t = s.noted line) :
    Spared line s t := by
  subst same
  refine .of_free ?_ rfl
  rintro ⟨name, params, lines, opened, -⟩
  rw [idle] at opened
  cases opened

/-! What is done at once, a condition and a call that does not begin go on or change nothing. -/

private theorem atOnce_halted {change : Except Stop (State κ)} (halted : ∀ after, s.atOnce change ≠ .next after) :
    (s.atOnce change).session = s := by
  cases change with
  | ok state => exact absurd rfl (halted _)
  | error reason => rfl

private theorem enterCondition_halted {test : Condition} (halted : ∀ after, s.enterCondition test ≠ .next after) :
    (s.enterCondition test).session = s := by
  unfold enterCondition at halted ⊢
  split
  · rfl
  · rename_i holds
    simp [holds] at halted
  · rfl

private theorem exitCondition_halted (halted : ∀ after, s.exitCondition ≠ .next after) :
    s.exitCondition.session = s := by
  cases left : s.blocks.exitCondition with
  | ok blocks =>
    obtain ⟨log, next⟩ := exitCondition_ok left
    exact absurd next (halted _)
  | error cause => rw [exitCondition_error left, Step.session]

private theorem call_refused {run : Runner κ} {name : String} {args : List String}
    (alone : s.called? name args = none) : (s.call run name args).session = s := by
  unfold called? at alone
  unfold call invoke
  cases given : s.numbers args with
  | error reason => rfl
  | ok values =>
    cases begun : s.scope.enter name values with
    | error cause => simp only [begun, Ran.session]
    | ok entered => simp [given, begun] at alone

private theorem defineMethod_halted {name : String} {params : List String} {lines : List SourceLine}
    (opened : s.blocks.capture = some ⟨.method name params, lines⟩)
    (word : leadingKeyword? line.text = some .endMethod)
    (halted : ∀ after, s.released.defineMethod ⟨name, params, lines⟩ ≠ .done after) :
    Spared line s (s.released.defineMethod ⟨name, params, lines⟩).session := by
  have taken : (s.scope.method? name).isSome := by
    by_contra free
    apply halted
    simp only [defineMethod, Scope.define, released, free]
    rfl
  have same : (s.released.defineMethod ⟨name, params, lines⟩).session = s.released := by
    simp only [defineMethod, Scope.define, released, taken, if_true, Ran.session]
  rw [same]
  exact ⟨fun _ => rfl, fun free => absurd ⟨name, params, lines, opened, word, taken⟩ free⟩

variable [Canvas κ] {run : Runner κ}

theorem step_halted (alone : s.nested? line = none) (halted : ∀ after, s.step run line ≠ .next after) :
    Spared line s (s.step run line).session := by
  obtain ⟨act, stepped, same⟩ := step_stepped line s
  rw [same] at halted ⊢
  cases stepped with
  | nested capture kind opened word => exact .of_free (not_redefines_opener word) rfl
  | mismatched capture kind opened word other => exact .of_free (not_redefines_mismatched opened word other) rfl
  | finished capture opened word =>
    obtain ⟨opening, lines⟩ := capture
    obtain ⟨name, params, rfl⟩ := method_of_alone alone opened word
    rw [Ran.session_step]
    refine defineMethod_halted opened word fun after done => halted after ?_
    exact congrArg Ran.step done
  | collected | opens => exact absurd rfl (halted _)
  | malformed cause idle | stray kind idle => exact .of_idle idle rfl
  | effect command effect idle => exact .of_idle idle (atOnce_halted halted)
  | condition test idle => exact .of_idle idle (enterCondition_halted halted)
  | endif idle => exact .of_idle idle (exitCondition_halted halted)
  | calls name args idle read =>
    rw [Ran.session_step]
    exact .of_idle idle (call_refused (not_called_of_alone alone idle read))

private theorem scan_line_stopped {reason : Stop} {t : Session κ} (failed : scan run 0 [line] s = .stopped reason t) :
    (∀ after, s.step run line ≠ .next after) ∧ t = (s.step run line).session := by
  cases stepped : s.step run line with
  | next after =>
    rw [scan_next stepped] at failed
    cases failed
  | stop inner after =>
    rw [scan_stop stepped] at failed
    cases failed
    exact ⟨by simp, rfl⟩
  | skip after =>
    rw [scan_unclosed stepped rfl] at failed
    cases failed
    exact ⟨by simp, rfl⟩

private theorem scan_nested_stopped {depth : Nat} {nested : Nested κ} {reason : Stop} {t : Session κ}
    (found : s.nested? line = some nested) (failed : scan (runLines depth) 0 [line] s = .stopped reason t) :
    ∃ inner, runLines depth nested.lines nested.session = .stopped reason inner ∧ t = inner.unwound nested.hidden := by
  have named := runLines_attach depth nested.lines nested.session line
  rw [scan_andThen (step_of_nested found _)] at failed
  generalize runLines depth nested.lines nested.session = ran at named failed
  cases ran with
  | done inner => cases failed
  | stopped other inner =>
    have settled : other.attach line = other := (Ran.stopped.inj named).1
    simp only [Ran.mapSession, Ran.attach, Ran.andThen, settled] at failed
    cases failed
    exact ⟨inner, rfl, rfl⟩

end

end Session

/-- A line that fails by itself leaves the state as it was, except that a line that closes a method whose name is taken
gives this method up. A line that runs lines inside itself fails with what they fail with, and leaves what they leave. -/
theorem failed_line_atomic {κ : Type} [Canvas κ] {s t : Session κ} {line : SourceLine} {reason : Stop}
    (reachable : Reachable s) (failed : s.runAll [line] = .stopped reason t) :
    reason ≠ .tooDeep ∧
    (s.nested? line = none →
      (s.Redefines line → t.toState = { s.toState with blocks := { s.blocks with capture := none } }) ∧
      (¬ s.Redefines line → t.toState = s.toState)) ∧
    ∀ nested, s.nested? line = some nested →
      ∃ inner, Session.runLines (s.scope.methods.length + 2) nested.lines nested.session = .stopped reason inner ∧
        t = inner.unwound nested.hidden := by
  refine ⟨?_, fun alone => ?_, fun nested found => Session.scan_nested_stopped found failed⟩
  · have fits : (s.runAll [line]).reason? ≠ some .tooDeep :=
      Session.runLines_allowance_fits (fun _ _ => trivial) reachable.keeps
    rintro rfl
    exact fits (congrArg Ran.reason? failed)
  · obtain ⟨halted, rfl⟩ := Session.scan_line_stopped failed
    have spared := Session.step_halted alone halted
    exact ⟨spared.given_up, spared.unchanged⟩

/-- A second method of one name is open. A `loop` fails and leaves it open; its `endmethod` fails and gives it up. -/
theorem failed_line_atomic_in_open_method :
    let text := "var x 1\nmethod m\ncircle x\nendmethod\nmethod m\ncircle 2"
    let s := (Session.start ({} : Recording) true).after [.program text]
    Reachable s ∧ s.blocks.capture = some ⟨.method "m" [], [⟨6, "circle 2"⟩]⟩ ∧
    (∃ reason t, s.runAll [⟨1, "loop"⟩] = .stopped reason t ∧ t.toState = s.toState) ∧
    ∃ reason t, s.runAll [⟨1, "endmethod"⟩] = .stopped reason t ∧
      t.toState = { s.toState with blocks := { s.blocks with capture := none } } := by
  intro text s
  have reachable : Reachable s := (Reachable.start _ _).after _
  have opened : s.blocks.capture = some ⟨.method "m" [], [⟨6, "circle 2"⟩]⟩ := by decide +kernel
  have taken : (s.scope.method? "m").isSome := by decide +kernel
  have nested : (s.runAll [⟨1, "loop"⟩]).reason? = some (.script ⟨.nested .loop, some "loop", some 1⟩) := by
    decide +kernel
  have duplicate : (s.runAll [⟨1, "endmethod"⟩]).reason? =
      some (.script ⟨.duplicateMethod "m", some "endmethod", some 1⟩) := by decide +kernel
  have word : leadingKeyword? "loop" = some BlockKind.loop.opener := by decide
  have alone (line : SourceLine) : s.nested? line = none := by simp [Session.nested?, opened]
  obtain ⟨-, opener, -⟩ := failed_line_atomic reachable (Ran.eq_stopped nested)
  obtain ⟨-, closer, -⟩ := failed_line_atomic reachable (Ran.eq_stopped duplicate)
  refine ⟨reachable, opened, ⟨_, _, Ran.eq_stopped nested, (opener (alone _)).2 ?_⟩,
    ⟨_, _, Ran.eq_stopped duplicate, (closer (alone _)).1 ?_⟩⟩
  · exact Session.not_redefines_opener word
  · exact ⟨"m", [], _, opened, by decide, taken⟩

end Sketch
