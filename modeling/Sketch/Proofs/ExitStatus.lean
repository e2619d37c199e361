import Sketch.CommandLine
import Sketch.Proofs.Refusals
import Sketch.Proofs.Termination

/-! The exit status of the command line. It is zero or one for every script that can be read, and one just when the
script stops with an error or has an issue. The one way out besides is a shape turned by an infinite angle, which no
screen can show. -/
namespace Sketch

theorem runScript_fits {κ : Type} [Canvas κ] (canvas : κ) (strict : Bool) (program : String) :
    (runScript canvas strict program).reason? ≠ some .tooDeep := by
  obtain ⟨log, ran⟩ := runScript_eq canvas strict program
  rw [ran, Ran.reason?_mapSession, Session.handle_eq_conclude, Session.reason?_conclude]
  exact (Reachable.start canvas strict).attempt_fits (.program program)

def Invocation.Fails (program : String) : Invocation → Prop
  | run _ _ strict _ => ∃ error, (runScript ({} : Recording) strict program).reason? = some (.script error)
  | check _ all => checkProgram program all ≠ []

/-- The script has a shape that is turned too far to be shown on a screen, and is to be shown there. -/
def Invocation.Overturns (program : String) : Invocation → Prop
  | run _ headless strict _ =>
    headless = false ∧ (runScript ({} : Recording) strict program).session.canvas.Overturned
  | check .. => False

namespace CommandLine

/-- A report whose status says whether something failed. -/
def Outcome.Tells (outcome : Outcome) (failed : Prop) : Prop :=
  ∃ report, outcome = .finished report ∧ (report.status = 0 ∨ report.status = 1) ∧ (report.status = 1 ↔ failed)

private theorem Outcome.Tells.success {report : Report} {failed : Prop} (zero : report.status = 0)
    (passed : ¬ failed) : (Outcome.finished report).Tells failed :=
  ⟨report, rfl, .inl zero, by simp [zero, passed]⟩

private theorem Outcome.Tells.failure {report : Report} {failed : Prop} (one : report.status = 1) (found : failed) :
    (Outcome.finished report).Tells failed :=
  ⟨report, rfl, .inr one, by simp [one, found]⟩

theorem runHeadless_tells (program : String) (strict verbose : Bool) :
    (runHeadless program strict verbose).Tells
      (∃ error, (runScript ({} : Recording) strict program).reason? = some (.script error)) := by
  have taken := runScript_taken {} strict program
  have fits := runScript_fits ({} : Recording) strict program
  unfold runHeadless
  cases ran : runScript ({} : Recording) strict program with
  | done s => exact .success rfl (by simp [Ran.reason?])
  | stopped reason s =>
    rw [ran] at taken fits
    cases reason with
    | script error => exact .failure rfl ⟨error, rfl⟩
    | canvas fault => exact absurd rfl (taken fault)
    | tooDeep => exact absurd rfl fits

private theorem runPlotter_refused {program : String} {strict : Bool} (verbose closed : Bool)
    (refused : (runScript ({} : Plotter) strict program).reason? = some (.canvas .infiniteAngle)) :
    runPlotter program strict verbose closed = .crashed (.canvas .infiniteAngle) := by
  unfold runPlotter
  rw [Ran.eq_stopped refused]

theorem runPlotter_tells {program : String} {strict : Bool} (verbose closed : Bool)
    (taken : ∀ fault, (runScript ({} : Plotter) strict program).reason? ≠ some (.canvas fault)) :
    (runPlotter program strict verbose closed).Tells
      (∃ error, (runScript ({} : Plotter) strict program).reason? = some (.script error)) := by
  have fits := runScript_fits ({} : Plotter) strict program
  unfold runPlotter
  cases ran : runScript ({} : Plotter) strict program with
  | done s => exact .success rfl (by simp [Ran.reason?])
  | stopped reason s =>
    rw [ran] at taken fits
    cases reason with
    | script error => exact .failure rfl ⟨error, rfl⟩
    | canvas fault => exact absurd rfl (taken fault)
    | tooDeep => exact absurd rfl fits

theorem check_tells (program : String) (all : Bool) : (check program all).Tells (checkProgram program all ≠ []) := by
  unfold check
  split
  · rename_i none
    exact .success rfl (not_not.mpr none)
  · rename_i some
    exact .failure rfl some

end CommandLine

open CommandLine in
/-- A script that can be read is carried out to an exit status of zero or one, and of one just when it fails, unless
it is to be shown on a screen with a shape that is turned by an infinite angle. That ends in a crash. -/
theorem exit_status_unless_overturned {load : String → Except LoadError String} {args : List String}
    {invocation : Invocation} {program : String} (closed : Bool) (accepted : Arguments.parse args = .ok invocation)
    (readable : load (scriptPath invocation) = .ok program) :
    (invocation.Overturns program → CommandLine.run load closed args = .crashed (.canvas .infiniteAngle)) ∧
      (¬ invocation.Overturns program → (CommandLine.run load closed args).Tells (invocation.Fails program)) := by
  simp only [CommandLine.run, accepted, carryOut, readable]
  cases invocation with
  | check script all => exact ⟨False.elim, fun _ => check_tells program all⟩
  | run script headless strict verbose =>
    cases headless with
    | true =>
      refine ⟨fun overturns => absurd overturns.1 (by simp), fun _ => ?_⟩
      exact runHeadless_tells program strict verbose
    | false =>
      rcases runScript_refused {} strict program with ⟨refused, overturned⟩ | ⟨same, level⟩
      · refine ⟨fun _ => runPlotter_refused verbose closed refused, fun shown => ?_⟩
        exact absurd ⟨rfl, overturned⟩ shown
      · refine ⟨fun overturns => absurd overturns.2 level, fun _ => ?_⟩
        have told := runPlotter_tells verbose closed fun fault => same ▸ runScript_taken {} strict program fault
        rwa [same] at told

/-- A circle is not turned, however far the pen is; then a line is no command. -/
theorem exit_status_of_turned_circle :
    Arguments.parse ["run", "-v", "a.txt", "--strict"] = .ok (.run "a.txt" false true true) ∧
    ∃ report, CommandLine.run (fun _ => .ok "rotate 1e999\ncircle 3\nhop") true ["run", "-v", "a.txt", "--strict"] =
        .finished report ∧ report.status = 1 := by
  have accepted : Arguments.parse ["run", "-v", "a.txt", "--strict"] = .ok (.run "a.txt" false true true) := by
    decide +kernel
  refine ⟨accepted, ?_⟩
  have level : ¬ (runScript ({} : Recording) true "rotate 1e999\ncircle 3\nhop").session.canvas.Overturned := by
    unfold Recording.Overturned
    decide +kernel
  have fails : (runScript ({} : Recording) true "rotate 1e999\ncircle 3\nhop").reason? =
      some (.script ⟨.unknownCommand "hop", some "hop", some 3⟩) := by
    decide +kernel
  obtain ⟨-, told⟩ :=
    @exit_status_unless_overturned (fun _ => .ok "rotate 1e999\ncircle 3\nhop") _ _ _ true accepted rfl
  obtain ⟨report, ended, -, one⟩ := told fun overturns => level overturns.2
  exact ⟨report, ended, one.mpr ⟨_, fails⟩⟩

/-- A rectangle turned by an infinite angle is listed by a run without a screen and crashes one with it. -/
theorem overturned_rectangle_crashes :
    let load := fun _ => Except.ok "rotate 1e999\nrectangle 1 1"
    CommandLine.run load false ["run", "a.txt"] = .crashed (.canvas .infiniteAngle) ∧
      ∃ report, CommandLine.run load false ["run", "--headless", "a.txt"] = .finished report ∧ report.status = 0 := by
  intro load
  have shown : Arguments.parse ["run", "a.txt"] = .ok (.run "a.txt" false false false) := by decide +kernel
  have listed : Arguments.parse ["run", "--headless", "a.txt"] = .ok (.run "a.txt" true false false) := by
    decide +kernel
  have refused : (runScript ({} : Plotter) false "rotate 1e999\nrectangle 1 1").reason? =
      some (.canvas .infiniteAngle) := by
    decide +kernel
  have passed : (runScript ({} : Recording) false "rotate 1e999\nrectangle 1 1").reason? = none := by
    decide +kernel
  simp only [CommandLine.run, shown, listed, load, CommandLine.carryOut, Bool.false_eq_true, if_false, if_true]
  refine ⟨CommandLine.runPlotter_refused false false refused, ?_⟩
  obtain ⟨report, ended, zero | one, told⟩ :=
    CommandLine.runHeadless_tells "rotate 1e999\nrectangle 1 1" false false
  · exact ⟨report, ended, zero⟩
  · simp [told, passed] at one

end Sketch
