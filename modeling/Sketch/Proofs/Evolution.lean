import Sketch.Proofs.Steps

/-! All that a run can do to a state. Whatever lines are run, and however deep they call and replay each
other, the state goes on by a few kinds of change; so what each of them keeps, every run keeps. -/
namespace Sketch

/-- The states that can come after a state. -/
inductive Evolves {κ : Type} [Canvas κ] : State κ → State κ → Prop
  | refl (s) : Evolves s s
  | trans {s t u} (first : Evolves s t) (second : Evolves t u) : Evolves s u
  | effect {s : State κ} {line command effect canvas} (read : Command.parse line = .ok command)
      (found : command.effect? s.scope.vars s.pen = some (.ok effect))
      (painted : State.paint effect s.canvas = .ok canvas) :
      Evolves s { s with scope := { s.scope with vars := effect.vars }, pen := effect.pen, canvas }
  | counts (s : State κ) (depth) : Evolves s { s with blocks := { s.blocks with depth } }
  | opens {s : State κ} {line opening} (read : Command.parse line = .ok (Opening.command opening)) :
      Evolves s { s with blocks := { s.blocks with capture := some { opening } } }
  | collects {s : State κ} {capture line} (opened : s.blocks.capture = some capture) :
      Evolves s { s with blocks :=
        { s.blocks with capture := some { capture with lines := capture.lines ++ [line] } } }
  | shows (s : State κ) : Evolves s s.refresh
  | releases (s : State κ) : Evolves s { s with blocks := { s.blocks with capture := none } }
  | defines {s : State κ} {name params lines scope} (opened : s.blocks.capture = some ⟨.method name params, lines⟩)
      (defined : s.scope.define ⟨name, params, lines⟩ = .ok scope) :
      Evolves s { s with scope, blocks := { s.blocks with capture := none } }
  | calls {s t : State κ} {name args entered} (begun : s.scope.enter name args = .ok entered)
      (body : Evolves { s with scope := entered.scope } t) :
      Evolves s { t with scope := t.scope.leave entered.hidden }

namespace Evolves
variable {κ : Type} [Canvas κ] {s t : State κ}

theorem active (evolves : Evolves s t) : t.scope.active = s.scope.active := by
  induction evolves with
  | refl | effect | counts | opens | collects | shows | releases => rfl
  | trans _ _ first second => exact second.trans first
  | defines _ defined =>
    obtain rfl := Scope.define_ok defined
    rfl
  | calls begun _ ih =>
    obtain ⟨-, -, -, active⟩ := Scope.enter_ok begun
    exact (congrArg List.tail ih).trans (congrArg List.tail active)

theorem methods (evolves : Evolves s t) : s.scope.methods <+: t.scope.methods := by
  induction evolves with
  | refl | effect | counts | opens | collects | shows | releases => exact List.prefix_rfl
  | trans _ _ first second => exact first.trans second
  | defines _ defined =>
    obtain rfl := Scope.define_ok defined
    exact List.prefix_append _ _
  | calls begun _ ih =>
    obtain ⟨-, -, methods, -⟩ := Scope.enter_ok begun
    rwa [methods] at ih

end Evolves

theorem Blocks.skipCondition_depth (blocks : Blocks) : ∃ depth, blocks.skipCondition = { blocks with depth } := by
  unfold Blocks.skipCondition
  split
  · exact ⟨blocks.depth, rfl⟩
  · exact ⟨0, rfl⟩

theorem Blocks.exitCondition_depth {blocks next : Blocks} (left : blocks.exitCondition = .ok next) :
    ∃ depth, next = { blocks with depth } := by
  unfold Blocks.exitCondition at left
  split at left
  · exact ⟨0, (Except.ok.inj left).symm⟩
  · split at left
    · simp at left
    · exact ⟨_, (Except.ok.inj left).symm⟩

/-- A relation of states that contains every kind of change that a line can make, but does not show the canvas. -/
structure Closed {κ : Type} [Canvas κ] (R : State κ → State κ → Prop) : Prop where
  refl (s) : R s s
  trans {s t u} (first : R s t) (second : R t u) : R s u
  effect {s line command effect canvas} (read : Command.parse line = .ok command)
    (found : command.effect? s.scope.vars s.pen = some (.ok effect))
    (painted : State.paint effect s.canvas = .ok canvas) :
    R s { s with scope := { s.scope with vars := effect.vars }, pen := effect.pen, canvas }
  counts (s depth) : R s { s with blocks := { s.blocks with depth } }
  opens {s line opening} (read : Command.parse line = .ok (Opening.command opening)) :
    R s { s with blocks := { s.blocks with capture := some { opening } } }
  collects {s capture line} (opened : s.blocks.capture = some capture) :
    R s { s with blocks := { s.blocks with capture := some { capture with lines := capture.lines ++ [line] } } }
  releases (s) : R s { s with blocks := { s.blocks with capture := none } }
  defines {s name params lines scope} (opened : s.blocks.capture = some ⟨.method name params, lines⟩)
    (defined : s.scope.define ⟨name, params, lines⟩ = .ok scope) :
    R s { s with scope, blocks := { s.blocks with capture := none } }
  calls {s t name args entered} (begun : s.scope.enter name args = .ok entered)
    (body : R { s with scope := entered.scope } t) : R s { t with scope := t.scope.leave entered.hidden }

theorem Evolves.closed {κ : Type} [Canvas κ] : Closed (Evolves : State κ → State κ → Prop) where
  refl := .refl
  trans := .trans
  effect := .effect
  counts := .counts
  opens := .opens
  collects := .collects
  releases := .releases
  defines := .defines
  calls := .calls

namespace Session
variable {κ : Type} [Canvas κ] {run : Runner κ}

section
variable {R : State κ → State κ → Prop} (closed : Closed R)

def RunsWithin (R : State κ → State κ → Prop) (run : Runner κ) : Prop :=
  ∀ lines s, R s.toState (run lines s).session.toState

include closed

private theorem enact_closed {line : String} {command : Command} {effect : Except Cause Effect} {s : Session κ}
    (read : Command.parse line = .ok command) (found : command.effect? s.scope.vars s.pen = some effect) :
    R s.toState (s.atOnce (s.enact effect)).session.toState := by
  cases effect with
  | error cause => exact closed.refl _
  | ok effect =>
    simp only [State.enact]
    cases painted : State.paint effect s.canvas with
    | error fault => exact closed.refl _
    | ok canvas => exact closed.effect read found painted

private theorem enterCondition_closed (test : Condition) (s : Session κ) :
    R s.toState (s.enterCondition test).session.toState := by
  unfold enterCondition
  split
  · exact closed.refl _
  · exact closed.counts _ _
  · exact closed.refl _

private theorem exitCondition_closed (s : Session κ) : R s.toState s.exitCondition.session.toState := by
  cases left : s.blocks.exitCondition with
  | error cause =>
    rw [exitCondition_error left]
    exact closed.refl _
  | ok blocks =>
    obtain ⟨log, next⟩ := exitCondition_ok left
    obtain ⟨depth, rfl⟩ := Blocks.exitCondition_depth left
    rw [next]
    exact closed.counts _ depth

private theorem skipCondition_closed (s : Session κ) :
    R s.toState { s.toState with blocks := s.blocks.skipCondition } := by
  obtain ⟨depth, skipped⟩ := s.blocks.skipCondition_depth
  rw [skipped]
  exact closed.counts _ depth

theorem invoke_closed (running : RunsWithin R run) (name : String) (args : List Float) (s : Session κ) :
    R s.toState (invoke run name args s).session.toState := by
  unfold invoke
  split
  · exact closed.refl _
  · rename_i entered begun
    rw [Ran.session_mapSession]
    exact closed.calls begun (running entered.method.body { s with scope := entered.scope })

private theorem call_closed (running : RunsWithin R run) (name : String) (args : List String) (s : Session κ) :
    R s.toState (s.call run name args).session.toState := by
  unfold call
  split
  · exact closed.refl _
  · exact invoke_closed closed running name _ s

private theorem finishBlock_closed (running : RunsWithin R run) {capture : Capture} {s : Session κ}
    (opened : s.blocks.capture = some capture) :
    R s.toState (finishBlock run capture s.released).session.toState := by
  cases opening : capture.opening with
  | loop =>
    rw [finishBlock_loop opening]
    exact closed.trans (closed.releases _) (running capture.lines (s.released.replaying capture))
  | method name params =>
    have captured : s.blocks.capture = some ⟨.method name params, capture.lines⟩ := by
      rw [opened, ← opening]
    rw [finishBlock_method opening]
    unfold defineMethod
    split
    · exact closed.releases _
    · rename_i scope defined
      exact closed.defines captured defined

theorem step_closed (running : RunsWithin R run) (line : SourceLine) (s : Session κ) :
    R s.toState (s.step run line).session.toState := by
  obtain ⟨act, stepped, same⟩ := step_stepped line s
  rw [same]
  cases stepped with
  | nested | mismatched | malformed | stray => exact closed.refl _
  | finished capture opened word =>
    rw [Ran.session_step]
    exact finishBlock_closed closed running opened
  | collected capture opened inert => exact closed.collects opened
  | effect command effect idle read found => exact enact_closed closed (s := s.noted line) read found
  | condition test idle read => exact enterCondition_closed closed test (s.noted line)
  | endif idle read => exact exitCondition_closed closed (s.noted line)
  | opens opening idle read => exact closed.opens read
  | calls name args idle read =>
    rw [Ran.session_step]
    exact call_closed closed running name args (s.noted line)

private theorem scan_closed (running : RunsWithin R run) : RunsWithin R (scan run 0) := by
  intro lines s
  have scanned := scan_scanned run lines s
  generalize scan run 0 lines s = ran at scanned
  induction scanned with
  | nil => exact closed.refl _
  | @next line _ s _ _ stepped _ ih =>
    have step := step_closed closed running line s
    rw [stepped] at step
    exact closed.trans step ih
  | @stop line _ s _ _ stepped | @unclosed line _ s _ stepped =>
    have step := step_closed closed running line s
    rwa [stepped] at step
  | @skip line _ s after _ _ stepped _ _ ih =>
    have step := step_closed closed running line s
    rw [stepped] at step
    exact closed.trans (closed.trans step (skipCondition_closed closed after)) ih

/-- A run makes no change but by its lines, whatever these call and replay. -/
theorem runLines_closed (depth : Nat) : RunsWithin R (runLines depth : Runner κ) := by
  induction depth with
  | zero => exact fun _ _ => closed.refl _
  | succ depth ih => exact scan_closed closed ih

end

def RunEvolves (run : Runner κ) : Prop :=
  ∀ lines s, Evolves s.toState (run lines s).session.toState

theorem skipCondition_evolves (s : Session κ) :
    Evolves s.toState { s.toState with blocks := s.blocks.skipCondition } :=
  skipCondition_closed Evolves.closed s

theorem invoke_evolves (running : RunEvolves run) (name : String) (args : List Float) (s : Session κ) :
    Evolves s.toState (invoke run name args s).session.toState :=
  invoke_closed Evolves.closed running name args s

theorem step_evolves (running : RunEvolves run) (line : SourceLine) (s : Session κ) :
    Evolves s.toState (s.step run line).session.toState :=
  step_closed Evolves.closed running line s

theorem scan_evolves_step (running : RunEvolves run) (line : SourceLine) (rest : List SourceLine) (s : Session κ) :
    Evolves (s.step run line).session.toState (scan run 0 (line :: rest) s).session.toState := by
  cases stepped : s.step run line with
  | next after =>
    rw [scan_next stepped]
    exact scan_closed Evolves.closed running rest after
  | stop reason after =>
    rw [scan_stop stepped]
    exact .refl _
  | skip after =>
    cases found : linesToEndif 0 rest with
    | none =>
      rw [scan_unclosed stepped found]
      exact .refl _
    | some count =>
      rw [scan_skip stepped found]
      have later := scan_closed Evolves.closed running (rest.drop count)
        { after with blocks := after.blocks.skipCondition }
      exact .trans (skipCondition_evolves after) later

theorem runLines_evolves (depth : Nat) : RunEvolves (runLines depth : Runner κ) :=
  runLines_closed Evolves.closed depth

end Session

end Sketch
