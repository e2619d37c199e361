import Mathlib.Data.List.Forall2
import Sketch.Canvas.Plotter
import Sketch.Canvas.Recording
import Sketch.Proofs.Coupling

/-! A plotter and a recording see the same program. A canvas can be watched, which tells in what order it got its
primitives and refreshes. The instructions that a plotter gets are read off that order, and nothing else of a run
depends on the canvas, unless a shape is turned by an infinite angle. -/
namespace Sketch

inductive Event where
  | draw (primitive : Primitive)
  | refresh

structure Watched (κ : Type) where
  canvas : κ
  events : List Event := []

instance {κ : Type} [Canvas κ] : Canvas (Watched κ) where
  draw primitive watched :=
    (Canvas.draw primitive watched.canvas).map fun canvas => ⟨canvas, watched.events ++ [.draw primitive]⟩
  refresh watched := ⟨Canvas.refresh watched.canvas, watched.events ++ [.refresh]⟩

def watching (κ : Type) [Canvas κ] : Likeness (Watched κ) κ where
  canvas watched canvas := canvas = watched.canvas
  refused _ := False
  draw {watched _} drawn primitive := by
    subst drawn
    simp only [Canvas.draw]
    cases Canvas.draw primitive watched.canvas with
    | ok canvas => exact .ok rfl
    | error fault => exact .error fault
  refresh drawn := congrArg Canvas.refresh drawn

/-- The instructions that an event gives once the screen is set up. -/
inductive Event.Expands : Event → List Instruction → Prop
  | draw {primitive row} (expanded : Plotter.expand primitive = .ok row) : Expands (.draw primitive) row
  | refresh : Expands .refresh [.update]

/-- The instructions of a row of events: none before the first primitive, then those that set up the screen, and
then each event's own. -/
inductive Plotted (setUp : List Instruction) : List Event → List Instruction → Prop
  | blank {events} (undrawn : ∀ event ∈ events, event = .refresh) : Plotted setUp events []
  | drawn {early primitive late rows} (undrawn : ∀ event ∈ early, event = .refresh)
      (expanded : List.Forall₂ Event.Expands (.draw primitive :: late) rows) :
      Plotted setUp (early ++ .draw primitive :: late) (setUp ++ rows.flatten)

namespace Plotted
variable {setUp calls row : List Instruction} {events : List Event}

private theorem undrawn (plotted : Plotted setUp events []) (ready : setUp ≠ []) :
    ∀ event ∈ events, event = .refresh := by
  generalize none : ([] : List Instruction) = calls at plotted
  cases plotted with
  | blank undrawn => exact undrawn
  | drawn =>
    have empty := List.append_eq_nil_iff.mp none.symm
    exact absurd empty.1 ready

theorem wait (plotted : Plotted setUp events []) (ready : setUp ≠ []) : Plotted setUp (events ++ [.refresh]) [] := by
  have undrawn := plotted.undrawn ready
  apply Plotted.blank
  intro event inside
  rcases List.mem_append.mp inside with early | last
  · exact undrawn event early
  · exact List.mem_singleton.mp last

theorem first (plotted : Plotted setUp events []) (ready : setUp ≠ []) {primitive : Primitive}
    (expanded : Plotter.expand primitive = .ok row) :
    Plotted setUp (events ++ [.draw primitive]) (setUp ++ row) := by
  have drawn : Plotted setUp (events ++ [.draw primitive]) (setUp ++ [row].flatten) :=
    .drawn (plotted.undrawn ready) (.cons (.draw expanded) .nil)
  rwa [List.flatten_singleton] at drawn

theorem next (plotted : Plotted setUp events calls) (started : calls ≠ []) {event : Event}
    (expanded : event.Expands row) : Plotted setUp (events ++ [event]) (calls ++ row) := by
  cases plotted with
  | blank => exact absurd rfl started
  | @drawn early primitive late rows undrawn before =>
    have longer : List.Forall₂ Event.Expands (.draw primitive :: (late ++ [event])) (rows ++ [row]) :=
      List.rel_append before (.cons expanded .nil)
    rw [List.append_assoc, List.append_assoc, ← List.flatten_concat]
    exact .drawn undrawn longer

end Plotted

/-- A plotter that has been told of these events, and of nothing before them. -/
structure Plotter.Obeys (blank plotter : Plotter) (events : List Event) : Prop where
  setUp : plotter.setUp = blank.setUp
  calls : Plotted blank.setUp events plotter.calls

namespace Plotter.Obeys
variable {blank plotter : Plotter} {events : List Event}

private theorem give (obeys : blank.Obeys plotter events) {primitive : Primitive} {row : List Instruction}
    (expanded : Plotter.expand primitive = .ok row) : blank.Obeys (plotter.give row) (events ++ [.draw primitive]) := by
  have plotted := obeys.calls
  refine ⟨obeys.setUp, ?_⟩
  cases given : plotter.calls with
  | nil =>
    rw [given] at plotted
    simpa [Plotter.give, Plotter.started, given, obeys.setUp] using plotted.first (by simp [Plotter.setUp]) expanded
  | cons call calls =>
    have later := plotted.next (by simp [given]) (.draw expanded)
    simpa [Plotter.give, Plotter.started, given] using later

private theorem refresh (obeys : blank.Obeys plotter events) :
    blank.Obeys (Canvas.refresh plotter) (events ++ [.refresh]) := by
  have plotted := obeys.calls
  cases given : plotter.calls with
  | nil =>
    rw [given] at plotted
    have same : Canvas.refresh plotter = plotter := by simp [Canvas.refresh, Plotter.started, given]
    rw [same]
    exact ⟨obeys.setUp, given ▸ plotted.wait (by simp [Plotter.setUp])⟩
  | cons call calls =>
    have updated : Canvas.refresh plotter = { plotter with calls := plotter.calls ++ [.update] } := by
      simp [Canvas.refresh, Plotter.started, given]
    rw [updated]
    exact ⟨obeys.setUp, plotted.next (by simp [given]) .refresh⟩

end Plotter.Obeys

def plotting (blank : Plotter) : Likeness Plotter (Watched Recording) where
  canvas plotter watched := blank.Obeys plotter watched.events
  refused _ := True
  draw {plotter watched} obeys primitive := by
    simp only [Canvas.draw]
    cases expanded : Plotter.expand primitive with
    | ok row => exact .ok (obeys.give expanded)
    | error fault => exact .parted trivial _
  refresh obeys := obeys.refresh

theorem runScript_eq {κ : Type} [Canvas κ] (canvas : κ) (strict : Bool) (program : String) :
    ∃ log, runScript canvas strict program =
      ((Session.start canvas strict).handle (.program program)).mapSession fun s => { s with log } := by
  simp only [runScript, Session.handle]
  cases (Session.start canvas strict).runProgram program with
  | done s => exact ⟨s.log, rfl⟩
  | stopped reason s => cases reason <;> exact ⟨_, rfl⟩

/-- Scripts run alike on canvases that are alike, unless the first refuses a primitive. -/
theorem Likeness.runScript {κ κ' : Type} [Canvas κ] [Canvas κ'] (like : Likeness κ κ') {canvas : κ} {canvas' : κ'}
    (fresh : like.canvas canvas canvas') (strict : Bool) (program : String)
    (taken : ∀ fault, like.refused fault → (Sketch.runScript canvas strict program).reason? ≠ some (.canvas fault)) :
    (Sketch.runScript canvas strict program).Alike (Sketch.runScript canvas' strict program) ∧
      like.canvas (Sketch.runScript canvas strict program).session.canvas
        (Sketch.runScript canvas' strict program).session.canvas := by
  have sessions : like.coupling.Sessions (Session.start canvas strict) (Session.start canvas' strict) :=
    ⟨rfl, rfl, rfl, fresh⟩
  have runs := sessions.handle (.program program)
  obtain ⟨log, first⟩ := runScript_eq canvas strict program
  obtain ⟨log', second⟩ := runScript_eq canvas' strict program
  rw [first, Ran.reason?_mapSession] at taken
  obtain ⟨alike, drawn⟩ := like.alike runs taken
  rw [first, second]
  refine ⟨⟨?_, ?_, ?_, ?_⟩, ?_⟩
  · rw [Ran.reason?_mapSession, Ran.reason?_mapSession]
    exact alike.reason
  · rw [Ran.session_mapSession, Ran.session_mapSession]
    exact alike.scope
  · rw [Ran.session_mapSession, Ran.session_mapSession]
    exact alike.blocks
  · rw [Ran.session_mapSession, Ran.session_mapSession]
    exact alike.pen
  · rw [Ran.session_mapSession, Ran.session_mapSession]
    exact drawn

/-- A script that turns no shape by an infinite angle ends on a plotter as it does on a recording; and
the plotter is instructed as the row of primitives and refreshes says that the recording got. -/
theorem plotter_agrees_with_recording {program : String} {strict : Bool} {width height : Int}
    (finite : (runScript ({ width, height } : Plotter) strict program).reason? ≠ some (.canvas .infiniteAngle)) :
    let plotted := runScript ({ width, height } : Plotter) strict program
    let recorded := runScript ({} : Recording) strict program
    let watched := runScript ({ canvas := {} } : Watched Recording) strict program
    plotted.Alike recorded ∧ watched.Alike recorded ∧
      recorded.session.canvas = watched.session.canvas.canvas ∧
      Plotted ({ width, height } : Plotter).setUp watched.session.canvas.events plotted.session.canvas.calls := by
  intro plotted recorded watched
  have undrawn : (plotting { width, height }).canvas { width, height } { canvas := {} } := ⟨rfl, .blank (by simp)⟩
  have taken : ∀ fault, (plotting { width, height }).refused fault → plotted.reason? ≠ some (.canvas fault) := by
    intro fault _
    cases fault
    exact finite
  have unwatched : (watching Recording).canvas { canvas := {} } {} := rfl
  obtain ⟨plotter, obeys⟩ := Likeness.runScript _ undrawn strict program taken
  obtain ⟨recording, same⟩ := Likeness.runScript _ unwatched strict program fun _ refused => absurd refused id
  exact ⟨⟨recording.reason.trans plotter.reason, recording.scope.trans plotter.scope,
    recording.blocks.trans plotter.blocks, recording.pen.trans plotter.pen⟩, recording, same, obeys.calls⟩

/-- A loop replays a call that draws a turned rectangle, and then a line is no command. -/
theorem plotter_agrees_with_recording_turned :
    (runScript ({ width := 3, height := 4 } : Plotter) true
      "method m\nrotate 90\nrectangle 1 2\nendmethod\nloop\nm()\nmoveto 1 2\nendloop\nhop").reason? =
        some (.script ⟨.unknownCommand "hop", some "hop", some 9⟩) ∧
    (runScript ({} : Recording) true
      "method m\nrotate 90\nrectangle 1 2\nendmethod\nloop\nm()\nmoveto 1 2\nendloop\nhop").reason? =
        some (.script ⟨.unknownCommand "hop", some "hop", some 9⟩) ∧
    Plotted ({ width := 3, height := 4 } : Plotter).setUp
      (runScript ({ canvas := {} } : Watched Recording) true
        "method m\nrotate 90\nrectangle 1 2\nendmethod\nloop\nm()\nmoveto 1 2\nendloop\nhop").session.canvas.events
      (runScript ({ width := 3, height := 4 } : Plotter) true
        "method m\nrotate 90\nrectangle 1 2\nendmethod\nloop\nm()\nmoveto 1 2\nendloop\nhop").session.canvas.calls := by
  have stopped : (runScript ({ width := 3, height := 4 } : Plotter) true
      "method m\nrotate 90\nrectangle 1 2\nendmethod\nloop\nm()\nmoveto 1 2\nendloop\nhop").reason? =
        some (.script ⟨.unknownCommand "hop", some "hop", some 9⟩) := by
    decide +kernel
  obtain ⟨alike, -, -, plotted⟩ := plotter_agrees_with_recording (by rw [stopped]; simp)
  exact ⟨stopped, alike.reason.trans stopped, plotted⟩

end Sketch
