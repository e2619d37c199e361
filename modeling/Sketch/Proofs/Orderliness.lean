import Sketch.Proofs.Plotting

/-! How a plotter is instructed. Whatever is drawn, its screen is set up once and before everything else, fills are
closed before others begin, the pen is down only while an outline is drawn, and outlines end where they began. -/
namespace Sketch

namespace Instruction

/-- Lifting the pen belongs to the set-up as well, but is not done there only. -/
def isSetUp : Instruction → Bool
  | openScreen | sizeScreen .. | setCoordinates .. | holdUpdates | makePen | hidePen | hurry => true
  | _ => false

def isFillMark : Instruction → Bool
  | beginFill | endFill => true
  | _ => false

def needsLifted : Instruction → Bool
  | write _ | clearScreen | update => true
  | _ => false

/-- Whether the pen is down afterwards; a new pen is. -/
def leavesDown (down : Bool) : Instruction → Bool
  | makePen | lowerPen => true
  | liftPen => false
  | _ => down

end Instruction

def penDown (calls : List Instruction) : Bool :=
  calls.foldl Instruction.leavesDown false

/-- Once the pen is lowered it only goes to places until it is lifted. -/
def Strokes (calls : List Instruction) : Prop :=
  ∀ before after, calls = before ++ .lowerPen :: after →
    ∃ (targets : List Point) (rest : List Instruction), after = targets.map .goTo ++ .liftPen :: rest

/-- Instructions that leave the pen lifted and no fill open, if they find them so. -/
structure Calm (calls : List Instruction) : Prop where
  fills : ∃ count, calls.filter (·.isFillMark) = (List.replicate count [.beginFill, .endFill]).flatten
  ends : penDown calls = false
  lifted : ∀ before call after, calls = before ++ call :: after → call.needsLifted → penDown before = false
  strokes : Strokes calls

/-- The pen is lowered once, right where it went, maybe with a fill, and comes back there before it is lifted. -/
def Outlines (row : List Instruction) : Prop :=
  ∃ (style marks rest : List Instruction) (start : Point) (targets : List Point),
    row = style ++ .goTo start :: marks ++ .lowerPen :: targets.map .goTo ++ .liftPen :: rest ∧
    (∀ mark ∈ marks, mark = .beginFill) ∧ targets.getLast? = some start ∧ .lowerPen ∉ style ∧ .lowerPen ∉ rest

private theorem split_append {α : Type} {first second before after : List α} {x : α}
    (split : first ++ second = before ++ x :: after) :
    (∃ rest, first = before ++ x :: rest ∧ after = rest ++ second) ∨
      ∃ early, before = first ++ early ∧ second = early ++ x :: after := by
  rcases List.append_eq_append_iff.mp split with ⟨early, whole, rest⟩ | ⟨late, whole, rest⟩
  · exact .inr ⟨early, whole, rest⟩
  · cases late with
    | nil => exact .inr ⟨[], by simpa using whole.symm, by simpa using rest.symm⟩
    | cons y late =>
      obtain ⟨rfl, remaining⟩ := List.cons.inj rest
      exact .inl ⟨late, whole, remaining⟩

private theorem penDown_append {first second : List Instruction} (lifted : penDown first = false) :
    penDown (first ++ second) = penDown second := by
  unfold penDown at lifted ⊢
  rw [List.foldl_append, lifted]

private theorem penDown_of_raised {calls : List Instruction}
    (raised : ∀ call ∈ calls, call.leavesDown false = false) : penDown calls = false := by
  induction calls with
  | nil => rfl
  | cons call calls ih =>
    obtain ⟨first, rest⟩ := List.forall_mem_cons.mp raised
    rw [penDown, List.foldl_cons, first]
    exact ih rest

namespace Strokes
variable {first second : List Instruction}

private theorem of_not_mem {calls : List Instruction} (absent : .lowerPen ∉ calls) : Strokes calls := by
  rintro before after rfl
  simp at absent

theorem append (one : Strokes first) (two : Strokes second) : Strokes (first ++ second) := by
  intro before after split
  rcases split_append split with ⟨rest, inside, rfl⟩ | ⟨early, -, inside⟩
  · obtain ⟨targets, more, rfl⟩ := one before rest inside
    exact ⟨targets, more ++ second, by simp⟩
  · exact two early after inside

private theorem single (targets : List Point) : Strokes (.lowerPen :: targets.map .goTo ++ [.liftPen]) := by
  intro before after split
  cases before with
  | nil => exact ⟨targets, [], (List.cons.inj split).2.symm⟩
  | cons call before =>
    have later : targets.map .goTo ++ [.liftPen] = before ++ .lowerPen :: after := (List.cons.inj split).2
    have inside : Instruction.lowerPen ∈ targets.map .goTo ++ [.liftPen] := by simp [later]
    simp at inside

end Strokes

private theorem Plotter.trace_cons (pen : Pen) (filled : Bool) (start : Point) (targets : List Point) :
    Plotter.trace pen filled (start :: targets) =
      ([Instruction.penColor pen.color, .fillColor pen.color, .penSize pen.thickness, .liftPen] ++
        Instruction.goTo start :: (if filled then [Instruction.beginFill] else [])) ++
      (Instruction.lowerPen :: targets.map Instruction.goTo ++ [Instruction.liftPen]) ++
      (if filled then [Instruction.endFill] else []) := by
  simp [Plotter.trace]

private theorem Plotter.trace_plain {pen : Pen} {filled : Bool} {points : List Point} {call : Instruction}
    (inside : call ∈ Plotter.trace pen filled points) : call.isSetUp = false ∧ call.needsLifted = false := by
  cases points with
  | nil => simp [Plotter.trace] at inside
  | cons start targets =>
    revert call
    simp only [Plotter.trace_cons, List.forall_mem_append, List.forall_mem_cons, List.forall_mem_map]
    cases filled <;> simp [Instruction.isSetUp, Instruction.needsLifted]

namespace Calm
variable {first second calls : List Instruction}

theorem nil : Calm [] :=
  ⟨⟨0, rfl⟩, rfl, by simp, .of_not_mem List.not_mem_nil⟩

theorem append (one : Calm first) (two : Calm second) : Calm (first ++ second) := by
  refine ⟨?_, ?_, ?_, one.strokes.append two.strokes⟩
  · obtain ⟨count, fills⟩ := one.fills
    obtain ⟨more, others⟩ := two.fills
    refine ⟨count + more, ?_⟩
    rw [List.filter_append, fills, others, List.replicate_add, List.flatten_append]
  · rw [penDown_append one.ends, two.ends]
  · intro before call after split needs
    rcases split_append split with ⟨rest, inside, -⟩ | ⟨early, rfl, inside⟩
    · exact one.lifted before call rest inside needs
    · rw [penDown_append one.ends]
      exact two.lifted early call after inside needs

private theorem of_raised (raised : ∀ call ∈ calls, call.leavesDown false = false)
    (unfilled : ∀ call ∈ calls, call.isFillMark = false) : Calm calls := by
  refine ⟨⟨0, ?_⟩, penDown_of_raised raised, ?_, .of_not_mem ?_⟩
  · simpa using unfilled
  · rintro before call after rfl -
    apply penDown_of_raised
    intro early inside
    exact raised early (List.mem_append_left _ inside)
  · intro inside
    simpa [Instruction.leavesDown] using raised _ inside

private theorem setUp (plotter : Plotter) : Calm plotter.setUp := by
  have plain : ∀ call ∈ plotter.setUp, call.needsLifted = false ∧ call ≠ .lowerPen := by
    simp [Plotter.setUp, Instruction.needsLifted]
  refine ⟨⟨0, rfl⟩, rfl, ?_, .of_not_mem fun inside => (plain _ inside).2 rfl⟩
  intro before call after split needs
  have inside : call ∈ plotter.setUp := by simp [split]
  simp [(plain call inside).1] at needs

private theorem trace (pen : Pen) (filled : Bool) (points : List Point) : Calm (Plotter.trace pen filled points) := by
  cases points with
  | nil => exact nil
  | cons start targets =>
    have down : (targets.map Instruction.goTo).foldl Instruction.leavesDown true = true := by
      induction targets with
      | nil => rfl
      | cons target targets ih => exact ih
    refine ⟨⟨if filled then 1 else 0, ?_⟩, ?_, ?_, ?_⟩
    · cases filled <;> simp [Plotter.trace, Instruction.isFillMark]
    · cases filled <;> simp [Plotter.trace, penDown, down, Instruction.leavesDown]
    · intro before call after split needs
      have inside : call ∈ Plotter.trace pen filled (start :: targets) := by simp [split]
      simp [Plotter.trace_plain inside] at needs
    · rw [Plotter.trace_cons]
      apply Strokes.append
      · apply Strokes.append
        · apply Strokes.of_not_mem
          cases filled <;> simp
        · exact Strokes.single targets
      · apply Strokes.of_not_mem
        cases filled <;> simp

end Calm

private theorem outlines_loopBack (pen : Pen) (filled : Bool) {points : List Point} (some : points ≠ []) :
    Outlines (Plotter.trace pen filled (Plotter.loopBack points)) := by
  obtain ⟨start, rest, rfl⟩ := List.exists_cons_of_ne_nil some
  refine ⟨[.penColor pen.color, .fillColor pen.color, .penSize pen.thickness, .liftPen],
    if filled then [.beginFill] else [], if filled then [.endFill] else [], start, rest ++ [start], ?_, ?_, ?_, ?_, ?_⟩
  · simp [Plotter.trace, Plotter.loopBack]
  · cases filled <;> simp
  · simp
  · simp
  · cases filled <;> simp

private theorem rotatePoints_length {points rotated : List Point} {pivot : Point} {degrees : Float}
    (turned : rotatePoints points pivot degrees = .ok rotated) : rotated.length = points.length := by
  unfold rotatePoints at turned
  split at turned
  · rw [Except.ok.inj turned]
  · dsimp only at turned
    split at turned
    · cases turned
    · rw [← Except.ok.inj turned, List.length_map]

namespace Primitive

def isShape : Primitive → Bool
  | rectangle .. | ellipse .. | polygon .. => true
  | moveCursor _ | line .. | text .. | clear _ => false

/-- A polygon without corners could not be gone round; no command draws one. -/
def IsProper : Primitive → Prop
  | polygon _ corners _ => corners ≠ []
  | _ => True

end Primitive

private theorem outlines_turned {points corners : List Point} {pivot : Point} {degrees : Float} (some : points ≠ [])
    (turned : rotatePoints points pivot degrees = .ok corners) (pen : Pen) (filled : Bool) :
    Outlines (Plotter.trace pen filled (Plotter.loopBack corners)) := by
  apply outlines_loopBack
  rw [← List.length_pos_iff, rotatePoints_length turned, List.length_pos_iff]
  exact some

theorem expand_outlines {primitive : Primitive} {row : List Instruction} (proper : primitive.IsProper)
    (shape : primitive.isShape) (expanded : Plotter.expand primitive = .ok row) : Outlines row := by
  cases primitive with
  | rectangle filled corner width height pen =>
    obtain ⟨points, turned, rfl⟩ := except_map_ok expanded
    exact outlines_turned (List.cons_ne_nil _ _) turned pen filled
  | ellipse filled center radius pen =>
    obtain rfl := Except.ok.inj expanded
    apply outlines_loopBack
    simp [circlePoints, circleSteps]
  | polygon filled corners pen =>
    obtain ⟨points, turned, rfl⟩ := except_map_ok expanded
    exact outlines_turned proper turned pen filled
  | moveCursor | line | text | clear => simp [Primitive.isShape] at shape

theorem expand_calm {primitive : Primitive} {row : List Instruction}
    (expanded : Plotter.expand primitive = .ok row) : Calm row ∧ ∀ call ∈ row, call.isSetUp = false := by
  have traced : ∀ pen filled points, Calm (Plotter.trace pen filled points) ∧
      ∀ call ∈ Plotter.trace pen filled points, call.isSetUp = false :=
    fun pen filled points => ⟨.trace pen filled points, fun _ inside => (Plotter.trace_plain inside).1⟩
  cases primitive with
  | moveCursor | text | clear =>
    obtain rfl := Except.ok.inj expanded
    refine ⟨.of_raised ?_ ?_, ?_⟩
    · simp [Instruction.leavesDown]
    · simp [Instruction.isFillMark]
    · simp [Instruction.isSetUp]
  | line | ellipse =>
    obtain rfl := Except.ok.inj expanded
    exact traced _ _ _
  | rectangle | polygon =>
    obtain ⟨points, -, rfl⟩ := except_map_ok expanded
    exact traced _ _ _

theorem Event.Expands.calm {event : Event} {row : List Instruction} (expands : event.Expands row) :
    Calm row ∧ ∀ call ∈ row, call.isSetUp = false := by
  cases expands with
  | draw expanded => exact expand_calm expanded
  | refresh =>
    refine ⟨.of_raised ?_ ?_, ?_⟩
    · simp [Instruction.leavesDown]
    · simp [Instruction.isFillMark]
    · simp [Instruction.isSetUp]

def begun (setUp calls : List Instruction) : List Instruction :=
  if calls.isEmpty then setUp else calls

private theorem begun_ne_nil (blank : Plotter) (calls : List Instruction) : begun blank.setUp calls ≠ [] := by
  unfold begun
  split
  · simp [Plotter.setUp]
  · rename_i started
    simpa using started

private theorem Plotter.give_calls (plotter : Plotter) (row : List Instruction) :
    (plotter.give row).calls = begun plotter.setUp plotter.calls ++ row := by
  unfold Plotter.give Plotter.started begun
  cases plotter.calls <;> simp

private theorem Plotter.refresh_setUp (plotter : Plotter) : (Canvas.refresh plotter).setUp = plotter.setUp := by
  simp only [Canvas.refresh]
  split <;> rfl

private theorem Plotter.refresh_calls (plotter : Plotter) :
    (Canvas.refresh plotter).calls = if plotter.calls.isEmpty then [] else plotter.calls ++ [Instruction.update] := by
  obtain ⟨width, height, calls⟩ := plotter
  cases calls <;> rfl

/-- The instructions of a plotter that was told of these events. -/
structure Orderly (setUp : List Instruction) (events : List Event) (calls : List Instruction) : Prop where
  plotted : Plotted setUp events calls
  setUpFirst : calls = [] ∨ ∃ later, calls = setUp ++ later ∧ ∀ call ∈ later, call.isSetUp = false
  calm : Calm calls
  /-- Each primitive has a row of its own, which begins and ends with the pen lifted. -/
  primitives : ∀ earlier primitive later, events = earlier ++ .draw primitive :: later →
    ∃ (before row after : List Instruction), Plotted setUp earlier before ∧ Plotter.expand primitive = .ok row ∧
      calls = begun setUp before ++ row ++ after ∧ penDown (begun setUp before) = false ∧
      penDown (begun setUp before ++ row) = false ∧ (primitive.isShape → Outlines row)

namespace Orderly
variable {blank : Plotter} {events : List Event} {calls row : List Instruction} {event : Event}

private theorem begun_calm (orderly : Orderly blank.setUp events calls) : Calm (begun blank.setUp calls) := by
  unfold begun
  split
  · exact .setUp blank
  · exact orderly.calm

private theorem begun_setUp (orderly : Orderly blank.setUp events calls) :
    ∃ later, begun blank.setUp calls = blank.setUp ++ later ∧ ∀ call ∈ later, call.isSetUp = false := by
  unfold begun
  split
  · exact ⟨[], by simp, by simp⟩
  · rename_i started
    rcases orderly.setUpFirst with rfl | found
    · simp at started
    · exact found

private theorem begun_plotted (orderly : Orderly blank.setUp events calls) (expands : event.Expands row)
    (first : calls = [] → event ≠ .refresh) :
    Plotted blank.setUp (events ++ [event]) (begun blank.setUp calls ++ row) := by
  have plotted := orderly.plotted
  cases calls with
  | nil =>
    cases expands with
    | draw expanded => exact plotted.first (by simp [Plotter.setUp]) expanded
    | refresh => exact absurd rfl (first rfl)
  | cons call calls => exact plotted.next (List.cons_ne_nil call calls) expands

private theorem begun_of_drawn (orderly : Orderly blank.setUp events calls) {earlier later : List Event}
    {primitive : Primitive}
    (drawn : events = earlier ++ .draw primitive :: later) : begun blank.setUp calls = calls := by
  obtain ⟨before, row, after, -, -, split, -⟩ := orderly.primitives earlier primitive later drawn
  have some : calls ≠ [] := by
    rw [split]
    simp [begun_ne_nil]
  rw [begun, if_neg (by simpa using some)]

private theorem extend (orderly : Orderly blank.setUp events calls) (expands : event.Expands row)
    (first : calls = [] → event ≠ .refresh) (proper : ∀ primitive, event = .draw primitive → primitive.IsProper) :
    Orderly blank.setUp (events ++ [event]) (begun blank.setUp calls ++ row) := by
  obtain ⟨calmRow, afterSetUp⟩ := expands.calm
  have calm := orderly.begun_calm
  refine ⟨orderly.begun_plotted expands first, ?_, calm.append calmRow, ?_⟩
  · obtain ⟨later, split, none⟩ := orderly.begun_setUp
    refine .inr ⟨later ++ row, by rw [split, List.append_assoc], ?_⟩
    intro call inside
    rcases List.mem_append.mp inside with old | new
    · exact none call old
    · exact afterSetUp call new
  · intro earlier primitive later drawn
    -- An earlier primitive keeps its row, with more behind it; the new one has the row that was just given.
    rcases split_append drawn with ⟨rest, old, -⟩ | ⟨early, rfl, last⟩
    · obtain ⟨before, own, after, plotted, expanded, split, facts⟩ := orderly.primitives earlier primitive rest old
      refine ⟨before, own, after ++ row, plotted, expanded, ?_, facts⟩
      rw [orderly.begun_of_drawn old, split]
      simp
    · obtain ⟨rfl, rfl⟩ : early = [] ∧ event = .draw primitive := by
        cases early with
        | nil => exact ⟨rfl, (List.cons.inj last).1⟩
        | cons => simp at last
      cases expands with
      | draw expanded =>
        refine ⟨calls, row, [], by simpa using orderly.plotted, expanded, by simp, calm.ends,
          (calm.append calmRow).ends, ?_⟩
        intro shape
        exact expand_outlines (proper primitive rfl) shape expanded

theorem wait (orderly : Orderly blank.setUp events []) : Orderly blank.setUp (events ++ [.refresh]) [] := by
  refine ⟨orderly.plotted.wait (by simp [Plotter.setUp]), .inl rfl, .nil, ?_⟩
  intro earlier primitive later drawn
  rcases split_append drawn with ⟨rest, old, -⟩ | ⟨early, -, last⟩
  · exact orderly.primitives earlier primitive rest old
  · cases early <;> simp at last

end Orderly

theorem effect?_proper {command : Command} {vars : Variables} {pen : PenState} {effect : Effect}
    (found : command.effect? vars pen = some (.ok effect)) : ∀ primitive ∈ effect.primitive, primitive.IsProper := by
  cases effect?_arises found <;> simp [Primitive.IsProper]

structure Plotter.Tended (blank : Plotter) (watched : Watched Plotter) : Prop where
  setUp : watched.canvas.setUp = blank.setUp
  orderly : Orderly blank.setUp watched.events watched.canvas.calls

namespace Plotter.Tended
variable {blank : Plotter} {watched drawn : Watched Plotter}

theorem draw (tended : blank.Tended watched) {primitive : Primitive} (proper : primitive.IsProper)
    (taken : Canvas.draw primitive watched = .ok drawn) : blank.Tended drawn := by
  obtain ⟨canvas, given, rfl⟩ := except_map_ok taken
  obtain ⟨row, expanded, rfl⟩ := except_map_ok given
  refine ⟨tended.setUp, ?_⟩
  rw [Plotter.give_calls, tended.setUp]
  apply tended.orderly.extend (.draw expanded)
  · simp
  · rintro _ ⟨⟩
    exact proper

theorem refresh (tended : blank.Tended watched) : blank.Tended (Canvas.refresh watched) := by
  have orderly := tended.orderly
  refine ⟨(Plotter.refresh_setUp _).trans tended.setUp, ?_⟩
  change Orderly blank.setUp (watched.events ++ [.refresh]) (Canvas.refresh watched.canvas).calls
  rw [Plotter.refresh_calls]
  split
  · rename_i none
    rw [List.isEmpty_iff.mp none] at orderly
    exact orderly.wait
  · rename_i started
    have updated : begun blank.setUp watched.canvas.calls = watched.canvas.calls := if_neg started
    rw [← updated]
    apply orderly.extend .refresh
    · intro none
      simp [none] at started
    · simp

private theorem paint (tended : blank.Tended watched) {effect : Effect}
    (proper : ∀ primitive ∈ effect.primitive, primitive.IsProper)
    (painted : State.paint effect watched = .ok drawn) : blank.Tended drawn := by
  unfold State.paint at painted
  split at painted
  · obtain rfl := Except.ok.inj painted
    exact tended
  · rename_i primitive drawing
    obtain ⟨canvas, taken, rfl⟩ := except_map_ok painted
    have later := tended.draw (proper primitive drawing) taken
    split
    · exact later.refresh
    · exact later

end Plotter.Tended

theorem Evolves.tended {blank : Plotter} {s t : State (Watched Plotter)} (evolves : Evolves s t)
    (tended : blank.Tended s.canvas) : blank.Tended t.canvas := by
  induction evolves with
  | refl | counts | opens | collects | releases | defines => exact tended
  | trans _ _ first second => exact second (first tended)
  | effect _ found painted => exact tended.paint (effect?_proper found) painted
  | shows => exact tended.refresh
  | calls _ _ ih => exact ih tended

private theorem watching_sessions {κ : Type} [Canvas κ] {ran : Ran (Watched κ)} {other : Ran κ}
    (runs : (watching κ).coupling.Runs ran other) : (watching κ).coupling.Sessions ran.session other.session := by
  cases runs with
  | done sessions | stopped _ sessions => exact sessions
  | parted _ apart =>
    obtain ⟨_, -, never⟩ := apart
    exact absurd never id

private theorem watching_after {κ : Type} [Canvas κ] {s : Session (Watched κ)} {t : Session κ}
    (both : (watching κ).coupling.Sessions s t) (requests : List Request) :
    (watching κ).coupling.Sessions (s.after requests) (t.after requests) := by
  induction requests generalizing s t with
  | nil => exact both
  | cons request requests ih => exact ih (watching_sessions (both.handle request))

/-- Whatever a host asks of a session on a plotter, and however that ends, an infinite angle included, the plotter is
instructed in an orderly way by what it was told. -/
theorem plotter_orderly (width height : Int) (strict : Bool) (requests : List Request) :
    let plain := (Session.start ({ width, height } : Plotter) strict).after requests
    let watched := (Session.start ({ canvas := { width, height } } : Watched Plotter) strict).after requests
    plain.canvas = watched.canvas.canvas ∧
      Orderly ({ width, height } : Plotter).setUp watched.canvas.events plain.canvas.calls := by
  intro plain watched
  have unwatched : (watching Plotter).coupling.Sessions
      (Session.start ({ canvas := { width, height } } : Watched Plotter) strict)
      (Session.start ({ width, height } : Plotter) strict) := ⟨rfl, rfl, rfl, rfl⟩
  have both : (watching Plotter).coupling.Sessions watched plain := watching_after unwatched requests
  have same : plain.canvas = watched.canvas.canvas := both.canvas
  have fresh : Plotter.Tended { width, height } { canvas := { width, height } } :=
    ⟨rfl, .blank (by simp), .inl rfl, .nil, by simp⟩
  have tended : Plotter.Tended { width, height } watched.canvas :=
    (Session.after_evolves requests _).tended fresh
  exact ⟨same, same ▸ tended.orderly⟩

end Sketch
