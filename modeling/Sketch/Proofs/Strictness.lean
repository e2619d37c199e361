import Sketch.Canvas.Recording
import Sketch.Proofs.Coupling

/-! Strict and lenient sessions. A strict session counts its conditions and refuses an `endif` that closes none;
a lenient one passes it over, and takes every `endif` to close all conditions. Until an `endif` is refused, the two
cannot be told apart but by that count. -/
namespace Sketch

/-- The blocks of a strict session and of a lenient one, which counts no more conditions. -/
structure Blocks.Lenience (blocks other : Blocks) : Prop where
  strict : blocks.strict = true
  lenient : other.strict = false
  depth : other.depth ≤ blocks.depth
  capture : other.capture = blocks.capture

namespace Blocks.Lenience
variable {blocks other : Blocks}

theorem skipCondition (coupled : blocks.Lenience other) : blocks.skipCondition.Lenience other.skipCondition := by
  have kept : blocks.skipCondition = blocks := by simp [Blocks.skipCondition, coupled.strict]
  have closed : other.skipCondition = { other with depth := 0 } := by simp [Blocks.skipCondition, coupled.lenient]
  rw [kept, closed]
  exact ⟨coupled.strict, coupled.lenient, Nat.zero_le _, coupled.capture⟩

theorem exitCondition (coupled : blocks.Lenience other) {apart : Cause → Prop} (stray : apart .strayEndif) :
    Answers Lenience apart blocks.exitCondition other.exitCondition := by
  have closed : other.exitCondition = .ok { other with depth := 0 } := by
    simp [Blocks.exitCondition, coupled.lenient]
  rw [closed]
  cases counted : blocks.depth with
  | zero =>
    have refused : blocks.exitCondition = .error .strayEndif := by
      simp [Blocks.exitCondition, coupled.strict, counted]
    rw [refused]
    exact .parted stray _
  | succ depth =>
    have left : blocks.exitCondition = .ok { blocks with depth } := by
      simp [Blocks.exitCondition, coupled.strict, counted]
    rw [left]
    exact .ok ⟨coupled.strict, coupled.lenient, Nat.zero_le _, coupled.capture⟩

end Blocks.Lenience

def Stop.IsStray : Stop → Prop
  | script error => error.cause = .strayEndif
  | canvas _ => False
  | tooDeep => False

instance : DecidablePred Stop.IsStray
  | .script error => inferInstanceAs (Decidable (error.cause = .strayEndif))
  | .canvas _ => inferInstanceAs (Decidable False)
  | .tooDeep => inferInstanceAs (Decidable False)

example : Cause.strayEndif.message = "Mismatched endif statement." := rfl

private theorem Stop.IsStray.attach {reason : Stop} (stray : reason.IsStray) (line : SourceLine) :
    (reason.attach line).IsStray := by
  cases reason with
  | script error =>
    change (error.attach line.text (some line.number)).cause = .strayEndif
    unfold Located.attach
    split <;> exact stray
  | canvas | tooDeep => exact stray

/-- A strict session and a lenient one with the same drawing; the lenient one draws on where the strict one stops. -/
def lenience : Coupling Recording Recording where
  blocks := Blocks.Lenience
  canvas canvas other := other = canvas
  parted reason canvas other := reason.IsStray ∧ canvas.operations <+: other.operations
  capture coupled := coupled.capture
  setCapture coupled _ := ⟨coupled.strict, coupled.lenient, coupled.depth, rfl⟩
  enterCondition coupled := ⟨coupled.strict, coupled.lenient, Nat.succ_le_succ coupled.depth, coupled.capture⟩
  skipCondition coupled := coupled.skipCondition
  exitCondition coupled drawn := coupled.exitCondition ⟨rfl, drawn ▸ List.prefix_rfl⟩
  paint {_ canvas} drawn effect := by
    subst drawn
    cases State.paint effect canvas with
    | ok painted => exact .ok rfl
    | error fault => exact .error fault
  refresh drawn := congrArg Canvas.refresh drawn
  parted_attach apart line := ⟨apart.1.attach line, apart.2⟩
  parted_paint apart drawn := ⟨apart.1, apart.2.trans (State.paint_operations drawn ▸ List.prefix_append _ _)⟩
  parted_refresh apart := apart

def Ran.IsStray {κ : Type} (ran : Ran κ) : Prop :=
  ∃ reason ∈ ran.reason?, reason.IsStray

instance {κ : Type} : DecidablePred (Ran.IsStray (κ := κ)) := fun ran =>
  inferInstanceAs (Decidable (∃ reason ∈ ran.reason?, reason.IsStray))

/-- All that a host can see of a strict session and a lenient one is the same, but that the lenient one may count
fewer conditions. -/
structure Ran.Agrees (strict lenient : Ran Recording) : Prop where
  reason : lenient.reason? = strict.reason?
  canvas : lenient.session.canvas = strict.session.canvas
  scope : lenient.session.scope = strict.session.scope
  pen : lenient.session.pen = strict.session.pen
  capture : lenient.session.blocks.capture = strict.session.blocks.capture
  depth : lenient.session.blocks.depth ≤ strict.session.blocks.depth

private theorem lenience_runs {strict lenient : Ran Recording} (runs : lenience.Runs strict lenient)
    (heeded : ¬ strict.IsStray) :
    lenient.reason? = strict.reason? ∧ lenience.Sessions strict.session lenient.session := by
  cases runs with
  | done sessions => exact ⟨rfl, sessions⟩
  | stopped reason sessions => exact ⟨rfl, sessions⟩
  | parted _ apart => exact absurd ⟨_, rfl, apart.1⟩ heeded

private theorem lenience_draws {strict lenient : Ran Recording} (runs : lenience.Runs strict lenient) :
    strict.session.canvas.operations <+: lenient.session.canvas.operations := by
  cases runs with
  | done sessions | stopped _ sessions =>
    have same : _ = _ := sessions.canvas
    exact same ▸ List.prefix_rfl
  | parted _ apart => exact apart.2

theorem lenience_after {s t : Session Recording} (both : lenience.Sessions s t) {requests : List Request}
    (heeded : ∀ answer ∈ s.answers requests, ¬ answer.IsStray) :
    lenience.Sessions (s.after requests) (t.after requests) := by
  induction requests generalizing s t with
  | nil => exact both
  | cons request requests ih =>
    obtain ⟨first, later⟩ := List.forall_mem_cons.mp heeded
    obtain ⟨-, sessions⟩ := lenience_runs (both.handle request) first
    exact ih sessions later

/-- As long as a strict session has refused no `endif`, a lenient one agrees with it after every request; and what the
strict one has drawn when it first refuses one, the lenient one has drawn too, and maybe more. -/
theorem strict_agrees_until_stray {requests : List Request}
    (heeded : ∀ answer ∈ (Session.start ({} : Recording) true).answers requests, ¬ answer.IsStray) (request : Request) :
    let strict := ((Session.start ({} : Recording) true).after requests).handle request
    let lenient := ((Session.start ({} : Recording) false).after requests).handle request
    (¬ strict.IsStray → strict.Agrees lenient) ∧
      (strict.IsStray → strict.session.canvas.operations <+: lenient.session.canvas.operations) := by
  intro strict lenient
  have fresh : lenience.Sessions (Session.start ({} : Recording) true) (Session.start ({} : Recording) false) :=
    ⟨rfl, ⟨rfl, rfl, le_rfl, rfl⟩, rfl, rfl⟩
  have runs : lenience.Runs strict lenient := (lenience_after fresh heeded).handle request
  refine ⟨fun accepted => ?_, fun _ => lenience_draws runs⟩
  obtain ⟨reason, sessions⟩ := lenience_runs runs accepted
  exact ⟨reason, sessions.canvas, sessions.scope, sessions.pen, sessions.blocks.capture, sessions.blocks.depth⟩

/-- Two conditions are open and one `endif` closes both for the lenient session, so of the next two the strict one
refuses the second. -/
theorem strict_agrees_until_third_endif :
    let requests := [Request.program "if 1 < 2\nif 1 < 2\ncircle 1\nendif"]
    let strict := ((Session.start ({} : Recording) true).after requests).handle (.program "endif\nendif\ncircle 2")
    let lenient := ((Session.start ({} : Recording) false).after requests).handle (.program "endif\nendif\ncircle 2")
    strict.IsStray ∧ lenient.reason? = none ∧
      strict.session.canvas.operations <+: lenient.session.canvas.operations := by
  have heeded : ∀ answer ∈ (Session.start ({} : Recording) true).answers
      [Request.program "if 1 < 2\nif 1 < 2\ncircle 1\nendif"], ¬ answer.IsStray := by
    decide +kernel
  have stray : (((Session.start ({} : Recording) true).after
      [Request.program "if 1 < 2\nif 1 < 2\ncircle 1\nendif"]).handle (.program "endif\nendif\ncircle 2")).IsStray := by
    decide +kernel
  obtain ⟨-, draws⟩ := strict_agrees_until_stray heeded (.program "endif\nendif\ncircle 2")
  exact ⟨stray, by decide +kernel, draws stray⟩

end Sketch
