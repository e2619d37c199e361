import Sketch.Session
import Sketch.Proofs.Evolution
import Sketch.Proofs.Kept

/-! The sessions that a host can have: every session that a row of programs and calls leads to, from an
empty one, whether they succeed or not. -/
namespace Sketch

inductive Reachable {κ : Type} [Canvas κ] : Session κ → Prop
  | start (canvas : κ) (strict : Bool) : Reachable (.start canvas strict)
  | program {s} (reachable : Reachable s) (program : String) : Reachable (s.runProgram program).session
  | call {s} (reachable : Reachable s) (name : String) (args : List Float) :
      Reachable (s.callMethod name args).session

/-- What a host can ask of a session. -/
inductive Request where
  | program (text : String)
  | call (name : String) (args : List Float)

def Request.complaint : Request → String
  | program _ => "script stopped: "
  | call name _ => s!"call to {name} failed: "

namespace Session
variable {κ : Type} [Canvas κ]

def handle (request : Request) (s : Session κ) : Ran κ :=
  match request with
  | .program text => s.runProgram text
  | .call name args => s.callMethod name args

/-- The run of a request, before the canvas is shown or the error noted. -/
def attempt (request : Request) (s : Session κ) : Ran κ :=
  match request with
  | .program text => runLines (s.allowance (splitProgram text)) (splitProgram text) s
  | .call name args => invoke (runLines (s.allowance [])) name args s

theorem handle_eq_conclude (request : Request) (s : Session κ) :
    s.handle request = conclude request.complaint (s.attempt request) := by
  cases request <;> rfl

def after (requests : List Request) (s : Session κ) : Session κ :=
  requests.foldl (fun s request => (s.handle request).session) s

def answers : List Request → Session κ → List (Ran κ)
  | [], _ => []
  | request :: requests, s => s.handle request :: (s.handle request).session.answers requests

theorem reason?_conclude (complaint : String) (ran : Ran κ) : (conclude complaint ran).reason? = ran.reason? := by
  unfold conclude
  split <;> rfl

theorem conclude_evolves (complaint : String) (ran : Ran κ) :
    Evolves ran.session.toState (conclude complaint ran).session.toState := by
  unfold conclude
  split
  · exact .shows _
  · exact .refl _
  · exact .refl _

theorem attempt_closed {R : State κ → State κ → Prop} (closed : Closed R) (request : Request) (s : Session κ) :
    R s.toState (s.attempt request).session.toState := by
  cases request with
  | program text => exact runLines_closed closed _ _ s
  | call name args => exact invoke_closed closed (runLines_closed closed _) name args s

theorem attempt_evolves (request : Request) (s : Session κ) :
    Evolves s.toState (s.attempt request).session.toState :=
  s.attempt_closed Evolves.closed request

theorem handle_evolves (request : Request) (s : Session κ) :
    Evolves s.toState (s.handle request).session.toState := by
  rw [handle_eq_conclude]
  exact (s.attempt_evolves request).trans (conclude_evolves _ _)

theorem after_evolves (requests : List Request) (s : Session κ) :
    Evolves s.toState (s.after requests).toState := by
  induction requests generalizing s with
  | nil => exact .refl _
  | cons request requests ih => exact (s.handle_evolves request).trans (ih (s.handle request).session)

end Session

section
variable {κ : Type} {given : SourceLine → Prop}

private theorem Ran.Keeps.session {ran : Ran κ} (kept : ran.Keeps given) : Sketch.Keeps given ran.session := by
  cases ran with
  | done s => exact kept
  | stopped reason s => exact kept.1

theorem Step.Keeps.session {line : SourceLine} {step : Step κ} (kept : step.Keeps given line) :
    Sketch.Keeps given step.session := by
  cases step with
  | next s | skip s => exact kept
  | stop reason s => exact kept.1

private theorem Keeps.invoke {run : Session.Runner κ} {s : Session κ} (kept : Keeps given s)
    (running : Session.RunKeeps given run) (name : String) (args : List Float) :
    Keeps given (Session.invoke run name args s).session := by
  unfold Session.invoke
  split
  · exact kept
  · rename_i entered begun
    obtain ⟨-, -, methods, -⟩ := Scope.enter_ok begun
    have inner := running entered.method.body { s with scope := entered.scope }
      (fun line inside => (kept.body begun line inside).1) (kept.of_eq methods rfl)
    rw [Ran.session_mapSession]
    exact inner.session.of_eq rfl rfl

private theorem Keeps.conclude [Canvas κ] {ran : Ran κ} (kept : Keeps given ran.session) (complaint : String) :
    Keeps given (Session.conclude complaint ran).session := by
  unfold Session.conclude
  split <;> exact kept.of_eq rfl rfl

end

namespace Reachable
variable {κ : Type} [Canvas κ] {s : Session κ}

theorem handle (reachable : Reachable s) (request : Request) : Reachable (s.handle request).session := by
  cases request with
  | program text => exact reachable.program text
  | call name args => exact reachable.call name args

theorem after (reachable : Reachable s) (requests : List Request) : Reachable (s.after requests) := by
  induction requests generalizing s with
  | nil => exact reachable
  | cons request requests ih => exact ih (reachable.handle request)

theorem evolves (reachable : Reachable s) :
    ∃ (canvas : κ) (strict : Bool), Evolves (Session.start canvas strict).toState s.toState := by
  induction reachable with
  | start canvas strict => exact ⟨canvas, strict, .refl _⟩
  | @program s _ text ih =>
    obtain ⟨canvas, strict, evolved⟩ := ih
    exact ⟨canvas, strict, evolved.trans (s.handle_evolves (.program text))⟩
  | @call s _ name args ih =>
    obtain ⟨canvas, strict, evolved⟩ := ih
    exact ⟨canvas, strict, evolved.trans (s.handle_evolves (.call name args))⟩

theorem active (reachable : Reachable s) : s.scope.active = [] := by
  obtain ⟨canvas, strict, evolved⟩ := reachable.evolves
  exact evolved.active

/-- What holds of every line of every program holds of the lines that are left behind, and these can
stand in a block. -/
theorem keeps_lines (reachable : Reachable s) {given : SourceLine → Prop}
    (lines : ∀ program, ∀ line ∈ splitProgram program, given line) : Keeps given s := by
  induction reachable with
  | start canvas strict => exact start_keeps canvas strict _
  | program _ program ih => exact (Session.runLines_keeps _ _ _ (lines program) ih).session.conclude _
  | call _ name args ih => exact (ih.invoke (Session.runLines_keeps _) name args).conclude _

theorem keeps (reachable : Reachable s) : Keeps (fun _ => True) s :=
  reachable.keeps_lines fun _ _ _ => trivial

end Reachable

end Sketch
