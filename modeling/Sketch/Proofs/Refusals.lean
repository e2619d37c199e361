import Sketch.Proofs.Plotting

/-! When a plotter stops a script. A recording takes every primitive, so no script is stopped by one. A plotter refuses
a shape that is turned by an infinite angle; its run ends there, while the run on a recording goes on and still has
the shape among its operations at the end. So what the recording holds tells whether the plotter stops. -/
namespace Sketch

def turnsTooFar (degrees : Float) : Bool :=
  !(degrees == 0) && (radians degrees).isInf

/-- A shape turned by an infinite angle. Nothing else is turned when it is drawn. -/
def Primitive.isOverturned : Primitive → Bool
  | rectangle _ _ _ _ pen => turnsTooFar pen.rotation
  | polygon _ _ pen => turnsTooFar pen.rotation
  | _ => false

def Recording.Overturned (recording : Recording) : Prop :=
  ∃ primitive ∈ recording.operations, primitive.isOverturned = true

theorem rotatePoints_refused (points : List Point) (pivot : Point) (degrees : Float) :
    rotatePoints points pivot degrees = .error .infiniteAngle ↔ turnsTooFar degrees = true := by
  unfold rotatePoints turnsTooFar
  cases degrees == 0 with
  | true => simp
  | false => cases angle : (radians degrees).isInf <;> simp [angle]

private theorem except_map_error {ε α β : Type} {first : Except ε α} {change : α → β} {reason : ε} :
    first.map change = .error reason ↔ first = .error reason := by
  cases first <;> simp [Except.map]

theorem Plotter.expand_refused (primitive : Primitive) :
    Plotter.expand primitive = .error .infiniteAngle ↔ primitive.isOverturned = true := by
  cases primitive with
  | rectangle filled corner width height pen =>
    rw [Plotter.expand, except_map_error]
    exact rotatePoints_refused _ _ _
  | polygon filled corners pen =>
    rw [Plotter.expand, except_map_error]
    exact rotatePoints_refused _ _ _
  | moveCursor | line | ellipse | text | clear => simp [Plotter.expand, Primitive.isOverturned]

/-! A recording takes every primitive. -/

private theorem Recording.paint_taken (effect : Effect) (recording : Recording) :
    ∃ painted, State.paint effect recording = .ok painted := by
  unfold State.paint
  split
  · exact ⟨_, rfl⟩
  · exact ⟨_, rfl⟩

namespace Session
variable {s : Session Recording} {run : Runner Recording} {fault : Fault}

def RunTakes (run : Runner Recording) : Prop :=
  ∀ lines s fault, (run lines s).reason? ≠ some (.canvas fault)

private theorem defineMethod_takes (method : Method) (s : Session Recording) :
    (s.defineMethod method).reason? ≠ some (.canvas fault) := by
  intro failed
  unfold defineMethod at failed
  split at failed <;> cases failed

private theorem finishBlock_takes (running : RunTakes run) (capture : Capture) (s : Session Recording) :
    (finishBlock run capture s).reason? ≠ some (.canvas fault) := by
  cases opening : capture.opening with
  | loop =>
    rw [finishBlock_loop opening]
    apply running
  | method name params =>
    rw [finishBlock_method opening]
    apply defineMethod_takes

private theorem call_takes (running : RunTakes run) (name : String) (args : List String) (s : Session Recording) :
    (s.call run name args).reason? ≠ some (.canvas fault) := by
  intro failed
  unfold call at failed
  split at failed
  · rename_i reason unresolved
    obtain ⟨cause, rfl, -⟩ := numbers_error unresolved
    cases failed
  · unfold invoke at failed
    split at failed
    · cases failed
    · rw [Ran.reason?_mapSession] at failed
      exact running _ _ fault failed

private theorem enact_takes (effect : Except Cause Effect) (s : Session Recording) :
    (s.atOnce (s.enact effect)).reason? ≠ some (.canvas fault) := by
  intro failed
  cases effect with
  | error cause => cases failed
  | ok effect =>
    obtain ⟨painted, taken⟩ := s.canvas.paint_taken effect
    simp [State.enact, taken, atOnce, Step.reason?] at failed

theorem step_takes (running : RunTakes run) (line : SourceLine) (s : Session Recording) :
    (s.step run line).reason? ≠ some (.canvas fault) := by
  intro failed
  obtain ⟨act, stepped, acts⟩ := step_stepped line s
  rw [acts] at failed
  cases stepped with
  | nested | mismatched | collected | malformed | opens | stray => cases failed
  | finished capture =>
    simp only [Ran.reason?_step] at failed
    exact finishBlock_takes running capture _ failed
  | effect command effect => exact enact_takes effect _ failed
  | condition test =>
    unfold enterCondition at failed
    split at failed <;> cases failed
  | endif =>
    cases left : (s.noted line).blocks.exitCondition with
    | ok blocks =>
      obtain ⟨log, next⟩ := exitCondition_ok left
      rw [next] at failed
      cases failed
    | error cause =>
      rw [exitCondition_error left] at failed
      cases failed
  | calls name args =>
    simp only [Ran.reason?_step] at failed
    exact call_takes running name args _ failed

private theorem scan_takes (running : RunTakes run) : RunTakes (scan run 0) := by
  intro lines s fault failed
  have scanned := scan_scanned run lines s
  generalize scan run 0 lines s = ran at scanned failed
  induction scanned with
  | nil | unclosed => cases failed
  | next _ _ ih | skip _ _ _ ih => exact ih failed
  | @stop line rest s reason after stepped =>
    have refused : (s.step run line).reason? = some (.canvas fault) := by
      rw [stepped]
      cases reason <;> cases failed
      rfl
    exact step_takes running line s refused

theorem runLines_takes (depth : Nat) : RunTakes (runLines depth) := by
  induction depth with
  | zero =>
    intro lines s fault failed
    cases failed
  | succ depth ih => exact scan_takes ih

end Session

theorem runScript_taken (recording : Recording) (strict : Bool) (program : String) (fault : Fault) :
    (runScript recording strict program).reason? ≠ some (.canvas fault) := by
  obtain ⟨log, ran⟩ := runScript_eq recording strict program
  rw [ran, Ran.reason?_mapSession, Session.handle_eq_conclude, Session.reason?_conclude]
  exact Session.runLines_takes _ _ _ fault

/-! A plotter beside a recording. -/

private theorem Recording.overturned_paint {recording painted : Recording} {effect : Effect}
    (drawn : State.paint effect recording = .ok painted) :
    painted.Overturned ↔ recording.Overturned ∨ ∃ primitive ∈ effect.primitive, primitive.isOverturned = true := by
  unfold Overturned
  rw [State.paint_operations drawn]
  simp only [List.mem_append, or_and_right, exists_or, Option.mem_toList, Option.mem_def]

private theorem Plotter.paint_refused (effect : Effect) (plotter : Plotter) :
    State.paint effect plotter = .error .infiniteAngle ↔
      ∃ primitive ∈ effect.primitive, primitive.isOverturned = true := by
  unfold State.paint
  cases effect.primitive with
  | none => simp
  | some primitive =>
    simp only [except_map_error, Canvas.draw, Plotter.expand_refused, Option.mem_some_iff, exists_eq_left']

private theorem Plotter.paint_beside (plotter : Plotter) {recording : Recording} (level : ¬ recording.Overturned)
    (effect : Effect) :
    Answers (fun _ recording => ¬ Recording.Overturned recording)
      (fun fault => ∀ painted, State.paint effect recording = .ok painted →
        Stop.canvas fault = .canvas .infiniteAngle ∧ painted.Overturned)
      (State.paint effect plotter) (State.paint effect recording) := by
  obtain ⟨painted, taken⟩ := recording.paint_taken effect
  have holds := Recording.overturned_paint taken
  have refuses := plotter.paint_refused effect
  rw [taken]
  cases drawn : State.paint effect plotter with
  | ok plotted =>
    rw [drawn] at refuses
    apply Answers.ok
    rw [holds, ← refuses]
    simpa using level
  | error fault =>
    apply Answers.parted
    intro other same
    obtain rfl := Except.ok.inj same
    exact ⟨rfl, holds.mpr (.inr (refuses.mp drawn))⟩

/-- A plotter runs along with a recording on which no shape is turned too far. Once it refuses a shape the recording
holds that shape for good. -/
def refusing : Coupling Plotter Recording where
  blocks b b' := b = b'
  canvas _ recording := ¬ recording.Overturned
  parted reason _ recording := reason = .canvas .infiniteAngle ∧ recording.Overturned
  capture same := by rw [same]
  setCapture same _ := by rw [same]
  enterCondition same := by rw [same]
  skipCondition same := by rw [same]
  exitCondition {_ b' _ _} same _ := by
    rw [same]
    cases b'.exitCondition with
    | ok left => exact .ok rfl
    | error cause => exact .error cause
  paint {plotter _} level effect := plotter.paint_beside level effect
  refresh level := level
  parted_attach apart line := by
    obtain ⟨rfl, overturned⟩ := apart
    exact ⟨rfl, overturned⟩
  parted_paint apart drawn := ⟨apart.1, (Recording.overturned_paint drawn).mpr (.inl apart.2)⟩
  parted_refresh apart := apart

private theorem refusing_runs {plotted : Ran Plotter} {recorded : Ran Recording}
    (runs : refusing.Runs plotted recorded) :
    (plotted.reason? = some (.canvas .infiniteAngle) ∧ recorded.session.canvas.Overturned) ∨
      (plotted.reason? = recorded.reason? ∧ ¬ recorded.session.canvas.Overturned) := by
  cases runs with
  | done sessions | stopped _ sessions => exact .inr ⟨rfl, sessions.canvas⟩
  | parted _ apart => exact .inl ⟨congrArg some apart.1, apart.2⟩

/-- A script is stopped on a plotter by an infinite angle, and the recording holds a shape that is turned too far; or
it ends alike on both, and the recording holds none. -/
theorem runScript_refused (plotter : Plotter) (strict : Bool) (program : String) :
    let plotted := runScript plotter strict program
    let recorded := runScript ({} : Recording) strict program
    (plotted.reason? = some (.canvas .infiniteAngle) ∧ recorded.session.canvas.Overturned) ∨
      (plotted.reason? = recorded.reason? ∧ ¬ recorded.session.canvas.Overturned) := by
  have level : ¬ ({} : Recording).Overturned := by simp [Recording.Overturned]
  have both : refusing.Sessions (Session.start plotter strict) (Session.start {} strict) := ⟨rfl, rfl, rfl, level⟩
  obtain ⟨log, first⟩ := runScript_eq plotter strict program
  obtain ⟨log', second⟩ := runScript_eq ({} : Recording) strict program
  simp only [first, second, Ran.reason?_mapSession, Ran.session_mapSession]
  exact refusing_runs (both.handle (.program program))

end Sketch
