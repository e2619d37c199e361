import Sketch.Canvas.Recording
import Sketch.Proofs.Reachable

/-! The operations of a recording are a faithful log. Nothing moves the pen or reaches the canvas but the effects of
commands; and each effect moves the pen to where its primitive leads, begins its primitive where the pen is, and shows
every primitive but a mere move of the pen. -/
namespace Sketch

def Point.after (position : Point) : Primitive → Point
  | .moveCursor target => target
  | .line _ stop _ => stop
  | .clear _ => .origin
  | .rectangle .. | .ellipse .. | .polygon .. | .text .. => position

/-- Where a row of operations leads from the origin. -/
def penAfter (operations : List Primitive) : Point :=
  operations.foldl Point.after .origin

namespace Primitive

/-- Where a primitive begins. -/
def anchor? : Primitive → Option Point
  | line start _ _ => some start
  | rectangle _ corner _ _ _ => some corner
  | ellipse _ center _ _ => some center
  | text _ anchor _ => some anchor
  | moveCursor _ | polygon .. | clear _ => none

def isMove : Primitive → Bool
  | moveCursor _ => true
  | line .. | rectangle .. | ellipse .. | polygon .. | text .. | clear _ => false

end Primitive

/-- An effect draws from where the pen is, takes the pen to where its primitive leads, and is shown unless it only
moves the pen. -/
structure Effect.Traces (pen : PenState) (effect : Effect) : Prop where
  position : effect.pen.position = effect.primitive.toList.foldl Point.after pen.position
  anchors : ∀ primitive ∈ effect.primitive, ∀ anchor ∈ primitive.anchor?, anchor = pen.position
  shown : ∀ primitive ∈ effect.primitive, effect.shown = !primitive.isMove

theorem effect?_traces {command : Command} {vars : Variables} {pen : PenState} {effect : Effect}
    (found : command.effect? vars pen = some (.ok effect)) : effect.Traces pen := by
  cases effect?_arises found <;>
    exact ⟨rfl, by simp [Primitive.anchor?], by simp [Primitive.isMove]⟩

private theorem paint_refreshes {pen : PenState} {effect : Effect} {canvas painted : Recording}
    (traces : effect.Traces pen) (drawn : State.paint effect canvas = .ok painted) :
    painted.refreshes = canvas.refreshes + effect.primitive.toList.countP (!·.isMove) := by
  have shown := traces.shown
  unfold State.paint at drawn
  split at drawn
  · rename_i nothing
    cases drawn
    simp [nothing]
  · rename_i primitive drawing
    obtain rfl := Except.ok.inj drawn
    rw [drawing, shown primitive drawing]
    cases moves : primitive.isMove <;> simp [moves, Canvas.refresh]

/-- The log of a recording that was refreshed so many times besides. -/
structure Ledger (successes : Nat) (s : State Recording) : Prop where
  position : s.pen.position = penAfter s.canvas.operations
  anchors : ∀ earlier primitive, earlier ++ [primitive] <+: s.canvas.operations →
    ∀ anchor ∈ primitive.anchor?, anchor = penAfter earlier
  refreshes : s.canvas.refreshes = s.canvas.operations.countP (!·.isMove) + successes

namespace Ledger
variable {successes : Nat} {s t : State Recording}

private theorem effect (ledger : Ledger successes s) {effect : Effect} {canvas : Recording} {scope : Scope}
    (traces : effect.Traces s.pen) (painted : State.paint effect s.canvas = .ok canvas) :
    Ledger successes { s with scope, pen := effect.pen, canvas } := by
  have operations := State.paint_operations painted
  have refreshes := paint_refreshes traces painted
  refine ⟨?_, ?_, ?_⟩
  · change effect.pen.position = penAfter canvas.operations
    rw [traces.position, ledger.position, operations]
    simp only [penAfter, List.foldl_append]
  · intro earlier primitive begins anchor anchored
    change earlier ++ [primitive] <+: canvas.operations at begins
    rw [operations] at begins
    cases drawing : effect.primitive with
    | none =>
      rw [drawing, Option.toList_none, List.append_nil] at begins
      exact ledger.anchors earlier primitive begins anchor anchored
    | some last =>
      rw [drawing, Option.toList_some] at begins
      rcases List.prefix_concat_iff.mp begins with whole | within
      · obtain ⟨rfl, same⟩ := List.append_inj' whole rfl
        obtain rfl := List.singleton_inj.mp same
        exact (traces.anchors primitive drawing anchor anchored).trans ledger.position
      · exact ledger.anchors earlier primitive within anchor anchored
  · change canvas.refreshes = canvas.operations.countP _ + successes
    rw [refreshes, operations, List.countP_append, ledger.refreshes]
    omega

theorem closed : Closed fun s t => ∀ successes, Ledger successes s → Ledger successes t where
  refl _ _ ledger := ledger
  trans first second successes ledger := second successes (first successes ledger)
  effect _ found painted _ ledger := ledger.effect (effect?_traces found) painted
  counts _ _ _ ledger := ⟨ledger.position, ledger.anchors, ledger.refreshes⟩
  opens _ _ ledger := ⟨ledger.position, ledger.anchors, ledger.refreshes⟩
  collects _ _ ledger := ⟨ledger.position, ledger.anchors, ledger.refreshes⟩
  releases _ _ ledger := ⟨ledger.position, ledger.anchors, ledger.refreshes⟩
  defines _ _ _ ledger := ⟨ledger.position, ledger.anchors, ledger.refreshes⟩
  calls _ body successes ledger := by
    have inner := body successes ⟨ledger.position, ledger.anchors, ledger.refreshes⟩
    exact ⟨inner.position, inner.anchors, inner.refreshes⟩

theorem handle {s : Session Recording} (ledger : Ledger successes s.toState) (request : Request) :
    Ledger (successes + if (s.handle request).reason?.isNone then 1 else 0) (s.handle request).session.toState := by
  have attempted := s.attempt_closed closed request successes ledger
  rw [s.handle_eq_conclude, Session.reason?_conclude]
  generalize s.attempt request = ran at attempted ⊢
  cases ran with
  | done after =>
    refine ⟨attempted.position, attempted.anchors, ?_⟩
    exact congrArg (· + 1) attempted.refreshes
  | stopped reason after => cases reason <;> exact attempted

theorem after {s : Session Recording} (ledger : Ledger successes s.toState) (requests : List Request) :
    Ledger (successes + (s.answers requests).countP (·.reason?.isNone)) (s.after requests).toState := by
  induction requests generalizing s successes with
  | nil => exact ledger
  | cons request requests ih =>
    have later := ih (ledger.handle request)
    rw [Session.answers, List.countP_cons, Nat.add_comm (List.countP _ _), ← Nat.add_assoc]
    exact later

end Ledger

/-- Whatever a host has asked of a session, successful or not, its pen is where the recorded operations lead, each
operation begins where those before it lead, and the canvas was refreshed once for each operation that is no mere move
and once for each request that succeeded. -/
theorem recording_ledger (strict : Bool) (requests : List Request) :
    Ledger (((Session.start ({} : Recording) strict).answers requests).countP (·.reason?.isNone))
      ((Session.start ({} : Recording) strict).after requests).toState := by
  have fresh : Ledger 0 (Session.start ({} : Recording) strict).toState :=
    ⟨rfl, by simp [Session.start], rfl⟩
  have later := fresh.after requests
  rwa [Nat.zero_add] at later

end Sketch
