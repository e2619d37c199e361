import Sketch.Proofs.Reachable

/-! Two sessions side by side. They have the same variables, methods, pen and open block, while the
conditions they count and the canvases they draw on are related in some other way. Whatever both run, they stay
so, or they stop for the same reason, or the first stops where the second goes on. -/
namespace Sketch

/-- Two answers that are both results or the same error, or an error where the other has a result. -/
inductive Answers {ε α β : Type} (both : α → β → Prop) (apart : ε → Prop) : Except ε α → Except ε β → Prop
  | ok {value other} (alike : both value other) : Answers both apart (.ok value) (.ok other)
  | error (reason) : Answers both apart (.error reason) (.error reason)
  | parted {reason} (stops : apart reason) (other) : Answers both apart (.error reason) (.ok other)

theorem Answers.imp {ε α β : Type} {both : α → β → Prop} {apart apart' : ε → Prop} {first : Except ε α}
    {second : Except ε β} (answers : Answers both apart first second) (wider : ∀ reason, apart reason → apart' reason) :
    Answers both apart' first second := by
  cases answers with
  | ok alike => exact .ok alike
  | error reason => exact .error reason
  | parted stops other => exact .parted (wider _ stops) other

/-- A relation of blocks and of canvases that no line can break. -/
structure Coupling (κ κ' : Type) [Canvas κ] [Canvas κ'] where
  blocks : Blocks → Blocks → Prop
  canvas : κ → κ' → Prop
  /-- What holds of the canvases once the first session has stopped for a reason that the second does not have. -/
  parted : Stop → κ → κ' → Prop
  capture {b b'} (coupled : blocks b b') : b'.capture = b.capture
  setCapture {b b'} (coupled : blocks b b') (capture : Option Capture) : blocks { b with capture } { b' with capture }
  enterCondition {b b'} (coupled : blocks b b') : blocks b.enterCondition b'.enterCondition
  skipCondition {b b'} (coupled : blocks b b') : blocks b.skipCondition b'.skipCondition
  exitCondition {b b' c c'} (coupled : blocks b b') (drawn : canvas c c') :
    Answers blocks (fun cause => parted (.ofCause cause) c c') b.exitCondition b'.exitCondition
  paint {c c'} (drawn : canvas c c') (effect : Effect) :
    Answers canvas (fun fault => ∀ painted, State.paint effect c' = .ok painted → parted (.canvas fault) c painted)
      (State.paint effect c) (State.paint effect c')
  refresh {c c'} (drawn : canvas c c') : canvas (Canvas.refresh c) (Canvas.refresh c')
  parted_attach {reason c c'} (apart : parted reason c c') (line : SourceLine) : parted (reason.attach line) c c'
  parted_paint {reason c c' effect painted} (apart : parted reason c c')
    (drawn : State.paint effect c' = .ok painted) : parted reason c painted
  parted_refresh {reason c c'} (apart : parted reason c c') : parted reason c (Canvas.refresh c')

namespace Coupling
variable {κ κ' : Type} [Canvas κ] [Canvas κ'] (c : Coupling κ κ')

structure Sessions (s : Session κ) (t : Session κ') : Prop where
  scope : t.scope = s.scope
  blocks : c.blocks s.blocks t.blocks
  pen : t.pen = s.pen
  canvas : c.canvas s.canvas t.canvas

inductive Steps : Step κ → Step κ' → Prop
  | next {s t} (sessions : c.Sessions s t) : Steps (.next s) (.next t)
  | skip {s t} (sessions : c.Sessions s t) : Steps (.skip s) (.skip t)
  | stop (reason) {s t} (sessions : c.Sessions s t) : Steps (.stop reason s) (.stop reason t)
  | parted {reason s} (step) (apart : c.parted reason s.canvas step.session.canvas) : Steps (.stop reason s) step

inductive Runs : Ran κ → Ran κ' → Prop
  | done {s t} (sessions : c.Sessions s t) : Runs (.done s) (.done t)
  | stopped (reason) {s t} (sessions : c.Sessions s t) : Runs (.stopped reason s) (.stopped reason t)
  | parted {reason s} (ran) (apart : c.parted reason s.canvas ran.session.canvas) : Runs (.stopped reason s) ran

def Runners (run : Session.Runner κ) (run' : Session.Runner κ') : Prop :=
  ∀ lines s t, c.Sessions s t → c.Runs (run lines s) (run' lines t)

variable {c}

theorem parted_evolves {reason : Stop} {canvas : κ} {s t : State κ'} (evolves : Evolves s t)
    (apart : c.parted reason canvas s.canvas) : c.parted reason canvas t.canvas := by
  induction evolves with
  | refl | counts | opens | collects | releases | defines => exact apart
  | trans _ _ first second => exact second (first apart)
  | effect _ _ painted => exact c.parted_paint apart painted
  | shows => exact c.parted_refresh apart
  | calls _ _ ih => exact ih apart

private theorem Runs.step {ran : Ran κ} {ran' : Ran κ'} (runs : c.Runs ran ran') : c.Steps ran.step ran'.step := by
  cases runs with
  | done sessions => exact .next sessions
  | stopped reason sessions => exact .stop reason sessions
  | parted ran' apart =>
    apply Steps.parted
    rw [Ran.session_step]
    exact apart

private theorem Runs.leave {ran : Ran κ} {ran' : Ran κ'} (runs : c.Runs ran ran') (hidden : Hidden) :
    c.Runs (ran.mapSession fun s => { s with scope := s.scope.leave hidden })
      (ran'.mapSession fun t => { t with scope := t.scope.leave hidden }) := by
  have left : ∀ {s : Session κ} {t : Session κ'}, c.Sessions s t →
      c.Sessions { s with scope := s.scope.leave hidden } { t with scope := t.scope.leave hidden } :=
    fun both => ⟨congrArg (·.leave hidden) both.scope, both.blocks, both.pen, both.canvas⟩
  cases runs with
  | done sessions => exact .done (left sessions)
  | stopped reason sessions => exact .stopped reason (left sessions)
  | parted ran' apart =>
    apply Runs.parted
    rw [Ran.session_mapSession]
    exact apart

namespace Sessions
variable {s : Session κ} {t : Session κ'} {run : Session.Runner κ} {run' : Session.Runner κ'}

private theorem setCapture (both : c.Sessions s t) (capture : Option Capture) :
    c.Sessions { s with blocks := { s.blocks with capture } } { t with blocks := { t.blocks with capture } } :=
  ⟨both.scope, c.setCapture both.blocks capture, both.pen, both.canvas⟩

private theorem noted (both : c.Sessions s t) (line : SourceLine) : c.Sessions (s.noted line) (t.noted line) :=
  ⟨both.scope, both.blocks, both.pen, both.canvas⟩

private theorem enact (both : c.Sessions s t) (effect : Except Cause Effect) :
    c.Steps (s.atOnce (s.enact effect)) (t.atOnce (t.enact effect)) := by
  cases effect with
  | error cause => exact .stop _ both
  | ok effect =>
    have painted := c.paint both.canvas effect
    simp only [State.enact]
    generalize State.paint effect s.canvas = first, State.paint effect t.canvas = second at painted ⊢
    cases painted with
    | ok canvas =>
      have scope : { t.scope with vars := effect.vars } = { s.scope with vars := effect.vars } := by
        rw [both.scope]
      exact .next ⟨scope, both.blocks, rfl, canvas⟩
    | error fault => exact .stop _ both
    | parted apart => exact .parted _ (apart _ rfl)

private theorem enterCondition (both : c.Sessions s t) (test : Condition) :
    c.Steps (s.enterCondition test) (t.enterCondition test) := by
  unfold Session.enterCondition
  rw [both.scope]
  split
  · exact .stop _ both
  · exact .next ⟨rfl, c.enterCondition both.blocks, both.pen, both.canvas⟩
  · exact .skip both

private theorem exitCondition (both : c.Sessions s t) : c.Steps s.exitCondition t.exitCondition := by
  have left := c.exitCondition both.blocks both.canvas
  generalize first : s.blocks.exitCondition = own, second : t.blocks.exitCondition = others at left
  cases left with
  | ok blocks =>
    obtain ⟨log, next⟩ := Session.exitCondition_ok first
    obtain ⟨log', next'⟩ := Session.exitCondition_ok second
    rw [next, next']
    exact .next ⟨both.scope, blocks, both.pen, both.canvas⟩
  | error cause =>
    rw [Session.exitCondition_error first, Session.exitCondition_error second]
    exact .stop _ both
  | parted apart =>
    obtain ⟨log, next⟩ := Session.exitCondition_ok second
    rw [Session.exitCondition_error first, next]
    exact .parted _ apart

theorem invoke (both : c.Sessions s t) (running : c.Runners run run') (name : String) (args : List Float) :
    c.Runs (Session.invoke run name args s) (Session.invoke run' name args t) := by
  unfold Session.invoke
  rw [both.scope]
  split
  · exact .stopped _ both
  · rename_i entered begun
    have inner : c.Sessions { s with scope := entered.scope } { t with scope := entered.scope } :=
      ⟨rfl, both.blocks, both.pen, both.canvas⟩
    exact (running _ _ _ inner).leave entered.hidden

private theorem call (both : c.Sessions s t) (running : c.Runners run run') (name : String) (args : List String) :
    c.Runs (s.call run name args) (t.call run' name args) := by
  have same : t.numbers args = s.numbers args := by
    rw [State.numbers_eq, State.numbers_eq, both.scope]
  unfold Session.call
  rw [same]
  split
  · exact .stopped _ both
  · exact both.invoke running name _

private theorem finishBlock (both : c.Sessions s t) (running : c.Runners run run') (capture : Capture) :
    c.Runs (Session.finishBlock run capture s) (Session.finishBlock run' capture t) := by
  cases opening : capture.opening with
  | loop =>
    rw [Session.finishBlock_loop opening, Session.finishBlock_loop opening]
    exact running _ _ _ ⟨both.scope, both.blocks, both.pen, both.canvas⟩
  | method name params =>
    rw [Session.finishBlock_method opening, Session.finishBlock_method opening]
    unfold Session.defineMethod
    rw [both.scope]
    split
    · exact .stopped _ both
    · exact .done ⟨rfl, both.blocks, both.pen, both.canvas⟩

theorem step (both : c.Sessions s t) (running : c.Runners run run') (line : SourceLine) :
    c.Steps (s.step run line) (t.step run' line) := by
  have noted := both.noted line
  have same := c.capture both.blocks
  obtain ⟨act, stepped, acts⟩ := Session.step_stepped line s
  rw [acts]
  cases stepped with
  | nested capture kind opened word =>
    rw [Session.step_nested (same.trans opened) word]
    exact .stop _ both
  | mismatched capture kind opened word other =>
    rw [Session.step_mismatched (same.trans opened) word other]
    exact .stop _ both
  | finished capture opened word =>
    rw [Session.step_finished (same.trans opened) word]
    exact ((both.setCapture none).finishBlock running capture).step
  | collected capture opened inert =>
    rw [Session.step_collected (same.trans opened) inert]
    exact .next (both.setCapture _)
  | malformed cause idle unread =>
    rw [Session.step_malformed (same.trans idle) unread]
    exact .stop _ noted
  | effect command effect idle read found =>
    have found' : command.effect? t.scope.vars t.pen = some effect := by
      rw [both.scope, both.pen]
      exact found
    rw [Session.step_effect (same.trans idle) read found']
    exact noted.enact effect
  | condition test idle read =>
    rw [Session.step_command (same.trans idle) read]
    exact noted.enterCondition test
  | endif idle read =>
    rw [Session.step_command (same.trans idle) read]
    exact noted.exitCondition
  | opens opening idle read =>
    rw [Session.step_opens (same.trans idle) read]
    exact .next (noted.setCapture _)
  | stray kind idle read =>
    rw [Session.step_stray (same.trans idle) read]
    exact .stop _ noted
  | calls name args idle read =>
    rw [Session.step_command (same.trans idle) read]
    exact (noted.call running name args).step

end Sessions

private theorem Runners.scan {run : Session.Runner κ} {run' : Session.Runner κ'} (running : c.Runners run run')
    (evolves : Session.RunEvolves run') : c.Runners (Session.scan run 0) (Session.scan run' 0) := by
  intro lines s t both
  have scanned := Session.scan_scanned run lines s
  generalize Session.scan run 0 lines s = ran at scanned
  induction scanned generalizing t with
  | nil s => exact .done both
  | @next line rest s after _ stepped _ ih =>
    have step := both.step running line
    rw [stepped] at step
    generalize second : t.step run' line = other at step
    cases step with
    | next sessions =>
      rw [Session.scan_next second]
      exact ih _ sessions
  | @stop line rest s reason after stepped =>
    have step := both.step running line
    have later := Session.scan_evolves_step evolves line rest t
    rw [stepped] at step
    generalize second : t.step run' line = other at step later
    cases step with
    | stop _ sessions =>
      rw [Session.scan_stop second]
      exact .stopped _ sessions
    -- The first session is done, and whatever the second still runs keeps them apart.
    | parted _ apart => exact .parted _ (parted_evolves later (c.parted_attach apart line))
  | @unclosed line rest s after stepped missing =>
    have step := both.step running line
    rw [stepped] at step
    generalize second : t.step run' line = other at step
    cases step with
    | skip sessions =>
      rw [Session.scan_unclosed second missing]
      exact .stopped _ sessions
  | @skip line rest s after count _ stepped found _ ih =>
    have step := both.step running line
    rw [stepped] at step
    generalize second : t.step run' line = other at step
    cases step with
    | skip sessions =>
      rw [Session.scan_skip second found]
      exact ih _ ⟨sessions.scope, c.skipCondition sessions.blocks, sessions.pen, sessions.canvas⟩

theorem runLines (c : Coupling κ κ') (depth : Nat) : c.Runners (Session.runLines depth) (Session.runLines depth) := by
  induction depth with
  | zero => exact fun _ _ _ both => .stopped _ both
  | succ depth ih => exact ih.scan (Session.runLines_evolves depth)

theorem Runs.conclude {ran : Ran κ} {ran' : Ran κ'} (runs : c.Runs ran ran') (complaint : String) :
    c.Runs (Session.conclude complaint ran) (Session.conclude complaint ran') := by
  cases runs with
  | done sessions => exact .done ⟨sessions.scope, sessions.blocks, sessions.pen, c.refresh sessions.canvas⟩
  | stopped reason sessions =>
    cases reason <;> exact .stopped _ ⟨sessions.scope, sessions.blocks, sessions.pen, sessions.canvas⟩
  | @parted reason s ran' apart =>
    have later := parted_evolves (Session.conclude_evolves complaint ran') apart
    cases reason <;> exact .parted _ later

/-- Two coupled sessions stay coupled by every request, until the first stops where the second goes on. -/
theorem Sessions.handle {s : Session κ} {t : Session κ'} (both : c.Sessions s t) (request : Request) :
    c.Runs (s.handle request) (t.handle request) := by
  have same : ∀ lines, t.allowance lines = s.allowance lines := fun lines => by
    simp only [Session.allowance, both.scope]
  cases request with
  | program text =>
    simp only [Session.handle, Session.runProgram, same]
    exact (c.runLines _ _ s t both).conclude _
  | call name args =>
    simp only [Session.handle, Session.callMethod, same]
    exact (both.invoke (c.runLines _) name args).conclude _

end Coupling

/-! Sessions on different canvases. -/

/-- Two runs that cannot be told apart but by their canvases and logs. -/
structure Ran.Alike {κ κ' : Type} (ran : Ran κ) (other : Ran κ') : Prop where
  reason : other.reason? = ran.reason?
  scope : other.session.scope = ran.session.scope
  blocks : other.session.blocks = ran.session.blocks
  pen : other.session.pen = ran.session.pen

/-- A relation of canvases that no primitive can break, but that the first canvas may refuse one. -/
structure Likeness (κ κ' : Type) [Canvas κ] [Canvas κ'] where
  canvas : κ → κ' → Prop
  refused : Fault → Prop
  draw {c c'} (drawn : canvas c c') (primitive : Primitive) :
    Answers canvas refused (Canvas.draw primitive c) (Canvas.draw primitive c')
  refresh {c c'} (drawn : canvas c c') : canvas (Canvas.refresh c) (Canvas.refresh c')

namespace Likeness
variable {κ κ' : Type} [Canvas κ] [Canvas κ'] (like : Likeness κ κ')

private theorem paint {c : κ} {c' : κ'} (drawn : like.canvas c c') (effect : Effect) :
    Answers like.canvas like.refused (State.paint effect c) (State.paint effect c') := by
  cases drawing : effect.primitive with
  | none =>
    simp only [State.paint, drawing]
    exact .ok drawn
  | some primitive =>
    have answers := like.draw drawn primitive
    simp only [State.paint, drawing]
    generalize Canvas.draw primitive c = first, Canvas.draw primitive c' = second at answers ⊢
    cases answers with
    | ok both =>
      apply Answers.ok
      split
      · exact like.refresh both
      · exact both
    | error fault => exact .error fault
    | parted stops other => exact .parted stops _

def coupling : Coupling κ κ' where
  blocks b b' := b' = b
  canvas := like.canvas
  parted reason _ _ := ∃ fault, reason = .canvas fault ∧ like.refused fault
  capture same := congrArg Blocks.capture same
  setCapture same _ := by rw [same]
  enterCondition same := congrArg Blocks.enterCondition same
  skipCondition same := congrArg Blocks.skipCondition same
  exitCondition {b _ _ _} same _ := by
    rw [same]
    cases b.exitCondition with
    | ok left => exact .ok rfl
    | error cause => exact .error cause
  paint drawn effect := (like.paint drawn effect).imp fun fault stops _ _ => ⟨fault, rfl, stops⟩
  refresh := like.refresh
  parted_attach apart line := by
    obtain ⟨fault, rfl, stops⟩ := apart
    exact ⟨fault, rfl, stops⟩
  parted_paint apart _ := apart
  parted_refresh apart := apart

variable {like}

theorem alike {ran : Ran κ} {ran' : Ran κ'} (runs : like.coupling.Runs ran ran')
    (taken : ∀ fault, like.refused fault → ran.reason? ≠ some (.canvas fault)) :
    ran.Alike ran' ∧ like.canvas ran.session.canvas ran'.session.canvas := by
  cases runs with
  | done sessions | stopped _ sessions =>
    exact ⟨⟨rfl, sessions.scope, sessions.blocks, sessions.pen⟩, sessions.canvas⟩
  | parted _ apart =>
    obtain ⟨fault, rfl, stops⟩ := apart
    exact absurd rfl (taken fault stops)

end Likeness

end Sketch
