import Sketch.Canvas.Recording
import Sketch.Session
import Sketch.Proofs.LineLanguage

/-! What one line can do. Commands that only draw, set the pen or change a variable all have one
shape, an effect; everything else that a line can do is listed once, and what holds of every run is
read off that list. -/
namespace Sketch

/-- What a command that neither opens nor closes a block and calls no method leaves behind. -/
structure Effect where
  vars : Variables
  pen : PenState
  primitive : Option Primitive := none
  /-- Whether the canvas is refreshed after the primitive. -/
  shown : Bool := false

namespace Command

/-- The effect of a command; none for conditions, blocks and calls. -/
def effect? (vars : Variables) (pen : PenState) : Command → Option (Except Cause Effect)
  | moveTo x y => some do
    let x ← vars.resolve x
    let y ← vars.resolve y
    .ok { vars, pen := { pen with position := ⟨x, y⟩ }, primitive := some (.moveCursor ⟨x, y⟩) }
  | drawTo x y => some do
    let x ← vars.resolve x
    let y ← vars.resolve y
    .ok { vars, pen := { pen with position := ⟨x, y⟩ },
          primitive := some (.line pen.position ⟨x, y⟩ pen.pen), shown := true }
  | rectangle width height => some do
    let width ← vars.resolve width
    let height ← vars.resolve height
    .ok { vars, pen, primitive := some (.rectangle pen.fill pen.position width height pen.pen),
          shown := true }
  | circle radius => some do
    let radius ← vars.resolve radius
    .ok { vars, pen, primitive := some (.ellipse pen.fill pen.position radius pen.pen), shown := true }
  | triangle x₁ y₁ x₂ y₂ x₃ y₃ => some do
    let x₁ ← vars.resolve x₁
    let y₁ ← vars.resolve y₁
    let x₂ ← vars.resolve x₂
    let y₂ ← vars.resolve y₂
    let x₃ ← vars.resolve x₃
    let y₃ ← vars.resolve y₃
    .ok { vars, pen, primitive := some (.polygon pen.fill [⟨x₁, y₁⟩, ⟨x₂, y₂⟩, ⟨x₃, y₃⟩] pen.pen),
          shown := true }
  | color name => some (.ok { vars, pen := { pen with color := name } })
  | reset => some (.ok { vars, pen := { pen with position := .origin },
                         primitive := some (.moveCursor .origin) })
  | fill enabled => some (.ok { vars, pen := { pen with fill := enabled } })
  | lineWidth width => some do
    let thickness ← vars.resolve width
    .ok { vars, pen := { pen with thickness } }
  | rotate angle => some do
    let rotation ← vars.resolve angle
    .ok { vars, pen := { pen with rotation } }
  | text content => some (.ok { vars, pen, primitive := some (.text content pen.position textColor),
                                shown := true })
  | clear => some (.ok { vars, pen := { pen with position := .origin },
                         primitive := some (.clear clearColor), shown := true })
  | declare name value => some do
    let value ← vars.resolve value
    let vars ← vars.define name value
    .ok { vars, pen }
  | assign name value => some do
    let value ← vars.resolve value
    let vars ← vars.assign name value
    .ok { vars, pen }
  | condition _ | endCondition | loop | endLoop | method .. | endMethod | call .. => none

end Command

inductive Effect.Arises (vars : Variables) (pen : PenState) : Command → Effect → Prop
  | moveTo {x y} (target : Point) : Arises vars pen (.moveTo x y)
      { vars, pen := { pen with position := target }, primitive := some (.moveCursor target) }
  | drawTo {x y} (target : Point) : Arises vars pen (.drawTo x y)
      { vars, pen := { pen with position := target },
        primitive := some (.line pen.position target pen.pen), shown := true }
  | rectangle {a b} (width height : Float) : Arises vars pen (.rectangle a b)
      { vars, pen, primitive := some (.rectangle pen.fill pen.position width height pen.pen), shown := true }
  | circle {a} (radius : Float) : Arises vars pen (.circle a)
      { vars, pen, primitive := some (.ellipse pen.fill pen.position radius pen.pen), shown := true }
  | triangle {x₁ y₁ x₂ y₂ x₃ y₃} (first second third : Point) : Arises vars pen (.triangle x₁ y₁ x₂ y₂ x₃ y₃)
      { vars, pen, primitive := some (.polygon pen.fill [first, second, third] pen.pen), shown := true }
  | color (name : String) : Arises vars pen (.color name) { vars, pen := { pen with color := name } }
  | reset : Arises vars pen .reset
      { vars, pen := { pen with position := .origin }, primitive := some (.moveCursor .origin) }
  | fill (enabled : Bool) : Arises vars pen (.fill enabled) { vars, pen := { pen with fill := enabled } }
  | lineWidth {a} (thickness : Float) : Arises vars pen (.lineWidth a) { vars, pen := { pen with thickness } }
  | rotate {a} (rotation : Float) : Arises vars pen (.rotate a) { vars, pen := { pen with rotation } }
  | text (content : String) : Arises vars pen (.text content)
      { vars, pen, primitive := some (.text content pen.position textColor), shown := true }
  | clear : Arises vars pen .clear
      { vars, pen := { pen with position := .origin }, primitive := some (.clear clearColor), shown := true }
  | declare {name a value next} (defined : vars.define name value = .ok next) :
      Arises vars pen (.declare name a) { vars := next, pen }
  | assign {name a value next} (assigned : vars.assign name value = .ok next) :
      Arises vars pen (.assign name a) { vars := next, pen }

theorem effect?_arises {command : Command} {vars : Variables} {pen : PenState} {effect : Effect}
    (found : command.effect? vars pen = some (.ok effect)) : effect.Arises vars pen command := by
  cases command with
  | moveTo | drawTo | rectangle =>
    obtain ⟨_, -, rest⟩ := except_bind_ok (Option.some.inj found)
    obtain ⟨_, -, last⟩ := except_bind_ok rest
    cases last
    constructor
  | circle | lineWidth | rotate =>
    obtain ⟨_, -, last⟩ := except_bind_ok (Option.some.inj found)
    cases last
    constructor
  | triangle =>
    obtain ⟨_, -, rest⟩ := except_bind_ok (Option.some.inj found)
    obtain ⟨_, -, rest⟩ := except_bind_ok rest
    obtain ⟨_, -, rest⟩ := except_bind_ok rest
    obtain ⟨_, -, rest⟩ := except_bind_ok rest
    obtain ⟨_, -, rest⟩ := except_bind_ok rest
    obtain ⟨_, -, last⟩ := except_bind_ok rest
    cases last
    constructor
  | color | reset | fill | text | clear =>
    cases found
    constructor
  | declare =>
    obtain ⟨_, -, rest⟩ := except_bind_ok (Option.some.inj found)
    obtain ⟨_, defined, last⟩ := except_bind_ok rest
    cases last
    exact .declare defined
  | assign =>
    obtain ⟨_, -, rest⟩ := except_bind_ok (Option.some.inj found)
    obtain ⟨_, assigned, last⟩ := except_bind_ok rest
    cases last
    exact .assign assigned
  | condition | endCondition | loop | endLoop | method | endMethod | call => simp [Command.effect?] at found

namespace Scope

theorem enter_ok {scope : Scope} {name : String} {args : List Float} {entered : Entered}
    (begun : scope.enter name args = .ok entered) :
    scope.method? name = some entered.method ∧ name ∉ scope.active ∧
      entered.scope.methods = scope.methods ∧ entered.scope.active = name :: scope.active := by
  unfold enter lookup at begun
  cases found : scope.method? name with
  | none => simp [found, bind, Except.bind] at begun
  | some method =>
    simp only [found, bind, Except.bind] at begun
    split at begun
    · simp at begun
    · split at begun
      · simp at begun
      · rename_i idle
        simp only [Except.ok.injEq] at begun
        subst entered
        exact ⟨rfl, by simpa using idle, rfl, rfl⟩

theorem define_ok {scope next : Scope} {method : Method} (defined : scope.define method = .ok next) :
    next = { scope with methods := scope.methods ++ [method] } := by
  unfold define at defined
  split at defined
  · simp at defined
  · exact (Except.ok.inj defined).symm

theorem method?_mem {scope : Scope} {name : String} {method : Method}
    (found : scope.method? name = some method) : method ∈ scope.methods ∧ method.name = name :=
  ⟨List.mem_of_find?_eq_some found, by simpa using List.find?_some found⟩

end Scope

theorem Blocks.exitCondition_capture {blocks next : Blocks} (left : blocks.exitCondition = .ok next) :
    next.capture = blocks.capture ∧ next.strict = blocks.strict := by
  unfold Blocks.exitCondition at left
  split at left
  · cases left
    exact ⟨rfl, rfl⟩
  · split at left
    · simp at left
    · cases left
      exact ⟨rfl, rfl⟩

theorem Blocks.exitCondition_cause {blocks : Blocks} {cause : Cause}
    (failed : blocks.exitCondition = .error cause) : cause = .strayEndif := by
  unfold Blocks.exitCondition at failed
  split at failed
  · simp at failed
  · split at failed
    · exact (Except.error.inj failed).symm
    · simp at failed

theorem Blocks.skipCondition_capture (blocks : Blocks) : blocks.skipCondition.capture = blocks.capture := by
  unfold Blocks.skipCondition
  split <;> rfl

namespace State
variable {κ : Type}

theorem numbers_eq (s : State κ) (args : List String) :
    s.numbers args = (args.mapM s.scope.vars.resolve).mapError .ofCause := by
  induction args with
  | nil => rfl
  | cons arg args ih =>
    simp only [State.numbers] at ih
    simp only [State.numbers, List.mapM_cons, ih, State.number]
    cases s.scope.vars.resolve arg with
    | error => rfl
    | ok value => cases List.mapM s.scope.vars.resolve args <;> rfl

variable [Canvas κ]

def paint (effect : Effect) (canvas : κ) : Except Fault κ :=
  match effect.primitive with
  | none => .ok canvas
  | some primitive =>
    (Canvas.draw primitive canvas).map fun canvas => if effect.shown then Canvas.refresh canvas else canvas

/-- The state after an effect. An effect that the canvas cannot show changes nothing. -/
def enact (s : State κ) : Except Cause Effect → Except Stop (State κ)
  | .error cause => .error (.ofCause cause)
  | .ok effect =>
    match paint effect s.canvas with
    | .error fault => .error (.canvas fault)
    | .ok canvas => .ok { s with scope := { s.scope with vars := effect.vars }, pen := effect.pen, canvas }

private theorem number_bind {s : State κ} {change : Float → Except Stop (State κ)}
    {effect : Float → Except Cause Effect} (same : ∀ value, change value = s.enact (effect value))
    (token : String) : (s.number token >>= change) = s.enact (s.scope.vars.resolve token >>= effect) := by
  unfold number
  cases s.scope.vars.resolve token with
  | error cause => rfl
  | ok value => exact same value

private theorem point_bind {s : State κ} {change : Point → Except Stop (State κ)}
    {effect : Float → Float → Except Cause Effect}
    (same : ∀ x y, change ⟨x, y⟩ = s.enact (effect x y)) (x y : String) :
    (s.point x y >>= change) =
      s.enact (s.scope.vars.resolve x >>= fun x => s.scope.vars.resolve y >>= effect x) := by
  have unfolded : (s.point x y >>= change) =
      (s.number x >>= fun x => s.number y >>= fun y => change ⟨x, y⟩) := by
    unfold point
    cases s.number x with
    | error => rfl
    | ok x => cases s.number y <;> rfl
  rw [unfolded]
  exact number_bind (fun x => number_bind (same x) y) x

private theorem present_eq (s : State κ) (primitive : Primitive) :
    s.present primitive =
      s.enact (.ok { vars := s.scope.vars, pen := s.pen, primitive := some primitive, shown := true }) := by
  simp only [present, draw, enact, paint]
  cases Canvas.draw primitive s.canvas <;> rfl

private theorem place_draw_eq (s : State κ) (target : Point) (primitive : Primitive) :
    (s.place target).draw primitive =
      s.enact (.ok { vars := s.scope.vars, pen := { s.pen with position := target },
                     primitive := some primitive }) := by
  simp only [place, draw, enact, paint]
  cases Canvas.draw primitive s.canvas <;> rfl

private theorem draw_place_eq (s : State κ) (target : Point) (primitive : Primitive) :
    (s.draw primitive >>= fun s => .ok (s.place target).refresh) =
      s.enact (.ok { vars := s.scope.vars, pen := { s.pen with position := target },
                     primitive := some primitive, shown := true }) := by
  simp only [place, draw, enact, paint]
  cases Canvas.draw primitive s.canvas <;> rfl

private theorem setVariables_eq (s : State κ) (change : Except Cause Variables) :
    s.setVariables change = s.enact (change >>= fun vars => .ok { vars, pen := s.pen }) := by
  cases change <;> rfl

/-- An effect leaves the blocks, the methods and the running calls alone. -/
theorem enact_ok {s t : State κ} {effect : Except Cause Effect} (enacted : s.enact effect = .ok t) :
    t.blocks = s.blocks ∧ t.scope.methods = s.scope.methods ∧ t.scope.active = s.scope.active := by
  cases effect with
  | error cause => simp [enact] at enacted
  | ok effect =>
    simp only [enact] at enacted
    split at enacted
    · simp at enacted
    · simp only [Except.ok.injEq] at enacted
      subst t
      exact ⟨rfl, rfl, rfl⟩

theorem paint_operations {effect : Effect} {canvas painted : Recording} (drawn : paint effect canvas = .ok painted) :
    painted.operations = canvas.operations ++ effect.primitive.toList := by
  unfold paint at drawn
  split at drawn
  · rename_i nothing
    cases drawn
    simp [nothing]
  · rename_i primitive drawing
    obtain rfl := Except.ok.inj drawn
    rw [drawing]
    cases effect.shown <;> rfl

end State

/-! How a run ends, and how a line does. -/

theorem Ran.eq_stopped {κ : Type} {ran : Ran κ} {reason : Stop} (found : ran.reason? = some reason) :
    ran = .stopped reason ran.session := by
  cases ran with
  | done s => cases found
  | stopped other s =>
    cases found
    rfl

theorem Ran.eq_done {κ : Type} {ran : Ran κ} (found : ran.reason? = none) : ran = .done ran.session := by
  cases ran with
  | done s => rfl
  | stopped reason s => cases found

def Step.session {κ : Type} : Step κ → Session κ
  | next s => s
  | skip s => s
  | stop _ s => s

def Step.reason? {κ : Type} : Step κ → Option Stop
  | next _ => none
  | skip _ => none
  | stop reason _ => some reason

theorem Ran.session_step {κ : Type} (ran : Ran κ) : ran.step.session = ran.session := by
  cases ran <;> rfl

theorem Ran.reason?_step {κ : Type} (ran : Ran κ) : ran.step.reason? = ran.reason? := by
  cases ran <;> rfl

theorem Ran.reason?_mapSession {κ : Type} (ran : Ran κ) (change : Session κ → Session κ) :
    (ran.mapSession change).reason? = ran.reason? := by
  cases ran <;> rfl

theorem Ran.session_mapSession {κ : Type} (ran : Ran κ) (change : Session κ → Session κ) :
    (ran.mapSession change).session = change ran.session := by
  cases ran <;> rfl

theorem Stop.attach_ne_tooDeep {reason : Stop} {line : SourceLine} (other : some reason ≠ some .tooDeep) :
    some (reason.attach line) ≠ some .tooDeep := by
  cases reason with
  | script | canvas => simp [Stop.attach]
  | tooDeep => exact other

/-- A stop that names its line already, or that names none. -/
def Stop.Settled (reason : Stop) : Prop :=
  ∀ line, reason.attach line = reason

theorem Stop.attach_settled (reason : Stop) (line : SourceLine) : (reason.attach line).Settled := by
  intro outer
  cases reason with
  | canvas | tooDeep => rfl
  | script error =>
    obtain ⟨cause, named, number⟩ := error
    cases named <;> rfl

theorem conclude_stopped {κ : Type} [Canvas κ] {complaint : String} {ran : Ran κ} {reason : Stop} {s : Session κ}
    (stopped : Session.conclude complaint ran = .stopped reason s) : ∃ t, ran = .stopped reason t := by
  unfold Session.conclude at stopped
  split at stopped
  · cases stopped
  · cases stopped
    exact ⟨_, rfl⟩
  · cases stopped
    exact ⟨_, rfl⟩

theorem conclude_done {κ : Type} [Canvas κ] {complaint : String} {ran : Ran κ} {t : Session κ}
    (ended : Session.conclude complaint ran = .done t) :
    ∃ before, ran = .done before ∧ t = { before with toState := before.refresh } := by
  unfold Session.conclude at ended
  split at ended
  · cases ended
    exact ⟨_, rfl, rfl⟩
  · cases ended
  · cases ended

namespace Session
variable {κ : Type}

def noted (line : SourceLine) (s : Session κ) : Session κ :=
  s.note .debug s!"line {line.number}: {line.text}"

def released (s : Session κ) : Session κ :=
  { s with blocks := { s.blocks with capture := none } }

def replaying (capture : Capture) (s : Session κ) : Session κ :=
  s.note .debug s!"replaying loop of {capture.lines.length} line(s)"

theorem finishBlock_loop {run : Runner κ} {capture : Capture} {s : Session κ} (opening : capture.opening = .loop) :
    finishBlock run capture s = run capture.lines (s.replaying capture) := by
  simp only [finishBlock, opening, replaying]

theorem finishBlock_method {run : Runner κ} {capture : Capture} {s : Session κ} {name : String}
    {params : List String} (opening : capture.opening = .method name params) :
    finishBlock run capture s = s.defineMethod ⟨name, params, capture.lines⟩ := by
  simp only [finishBlock, opening]

/-- An `endif` changes the open conditions and nothing else, but it may be logged. -/
theorem exitCondition_ok {s : Session κ} {blocks : Blocks} (left : s.blocks.exitCondition = .ok blocks) :
    ∃ log, s.exitCondition = .next { s with blocks, log } := by
  unfold exitCondition
  cases s.blocks.ignoresEndif with
  | false => exact ⟨_, by simp only [Bool.false_eq_true, if_false, left]; rfl⟩
  | true => exact ⟨_, by simp only [if_true, note, left]; rfl⟩

theorem exitCondition_error {s : Session κ} {cause : Cause} (failed : s.blocks.exitCondition = .error cause) :
    s.exitCondition = .stop (.ofCause cause) s := by
  have heeded : s.blocks.ignoresEndif = false := by
    cases strict : s.blocks.strict with
    | false => simp [Blocks.exitCondition, strict] at failed
    | true => simp [Blocks.ignoresEndif, strict]
  simp only [exitCondition, heeded, Bool.false_eq_true, if_false, State.setBlocks, failed, atOnce]

variable [Canvas κ]

/-- A command with an effect does nothing but that. -/
theorem perform_effect {command : Command} {s : Session κ} {effect : Except Cause Effect}
    (found : command.effect? s.scope.vars s.pen = some effect) (run : Runner κ) :
    perform run command s = s.atOnce (s.enact effect) := by
  cases command with
  | moveTo x y =>
    cases found
    exact congrArg s.atOnce (State.point_bind (fun x y => s.place_draw_eq ⟨x, y⟩ _) x y)
  | drawTo x y =>
    cases found
    exact congrArg s.atOnce (State.point_bind (fun x y => s.draw_place_eq ⟨x, y⟩ _) x y)
  | rectangle width height =>
    cases found
    exact congrArg s.atOnce
      (State.number_bind (fun _ => State.number_bind (fun _ => s.present_eq _) height) width)
  | circle radius =>
    cases found
    exact congrArg s.atOnce (State.number_bind (fun _ => s.present_eq _) radius)
  | triangle x₁ y₁ x₂ y₂ x₃ y₃ =>
    cases found
    exact congrArg s.atOnce (State.point_bind (fun _ _ => State.point_bind (fun _ _ =>
      State.point_bind (fun _ _ => s.present_eq _) x₃ y₃) x₂ y₂) x₁ y₁)
  | color | fill =>
    cases found
    rfl
  | reset =>
    cases found
    exact congrArg s.atOnce (s.place_draw_eq _ _)
  | lineWidth token | rotate token =>
    cases found
    apply congrArg s.atOnce
    apply State.number_bind
    intro value
    rfl
  | text content =>
    cases found
    exact congrArg s.atOnce (s.present_eq _)
  | clear =>
    cases found
    exact congrArg s.atOnce (s.draw_place_eq _ _)
  | declare name value | assign name value =>
    cases found
    exact congrArg s.atOnce (State.number_bind (fun _ => s.setVariables_eq _) value)
  | condition | endCondition | loop | endLoop | method | endMethod | call =>
    simp [Command.effect?] at found

end Session

/-- A line that can stand in a block: it neither opens nor closes one. -/
def SourceLine.Inert (line : SourceLine) : Prop :=
  ∀ kind : BlockKind, leadingKeyword? line.text ≠ some kind.opener ∧ leadingKeyword? line.text ≠ some kind.closer

instance : DecidablePred SourceLine.Inert := fun line =>
  decidable_of_iff (∀ kind ∈ [BlockKind.loop, .method],
      leadingKeyword? line.text ≠ some kind.opener ∧ leadingKeyword? line.text ≠ some kind.closer)
    ⟨fun each kind => each kind (by cases kind <;> simp), fun all kind _ => all kind⟩

def Opening.command : Opening → Command
  | loop => .loop
  | method name params => .method name params

theorem Opening.command_keyword (opening : Opening) : opening.command.keyword? = some opening.kind.opener := by
  cases opening <;> rfl

def BlockKind.ending : BlockKind → Command
  | loop => .endLoop
  | method => .endMethod

namespace Session
variable {κ : Type} [Canvas κ]

section
variable {run : Runner κ} {line : SourceLine} {s : Session κ} {capture : Capture} {kind : BlockKind}

/-! While a block is open, only the first word of a line counts. -/

theorem step_nested (opened : s.blocks.capture = some capture)
    (word : leadingKeyword? line.text = some kind.opener) :
    s.step run line = .stop (.ofCause (.nested kind)) s := by
  cases kind <;>
    simp only [step, opened, Option.isSome_some, if_true, collect, Blocks.feed, word, BlockKind.opener]

theorem step_mismatched (opened : s.blocks.capture = some capture)
    (word : leadingKeyword? line.text = some kind.closer) (other : capture.opening.kind ≠ kind) :
    s.step run line = .stop (.ofCause (.strayCloser kind)) s := by
  cases kind <;>
    simp only [step, opened, Option.isSome_some, if_true, collect, Blocks.feed, word, BlockKind.closer,
      Blocks.closeBlock, other, if_false, Except.map]

theorem step_finished (opened : s.blocks.capture = some capture)
    (word : leadingKeyword? line.text = some capture.opening.kind.closer) :
    s.step run line = (finishBlock run capture s.released).step := by
  cases kind : capture.opening.kind <;>
    simp only [step, opened, Option.isSome_some, if_true, collect, Blocks.feed, word, kind, BlockKind.closer,
      Blocks.closeBlock, Except.map, released]

theorem step_collected (opened : s.blocks.capture = some capture) (inert : line.Inert) :
    s.step run line = .next { s with blocks :=
      { s.blocks with capture := some { capture with lines := capture.lines ++ [line] } } } := by
  have fed : s.blocks.feed line = .ok (none, s.blocks.collect line) := by
    unfold Blocks.feed
    split
    · exact absurd ‹_› (inert .loop).1
    · exact absurd ‹_› (inert .method).1
    · exact absurd ‹_› (inert .loop).2
    · exact absurd ‹_› (inert .method).2
    · rfl
  simp only [step, opened, Option.isSome_some, if_true, collect, fed, Blocks.collect, Option.map_some]

/-! While none is open, the line is a command or it is malformed. -/

theorem step_malformed {cause : Cause} (idle : s.blocks.capture = none)
    (unread : Command.parse line.text = .error cause) :
    s.step run line = .stop (.ofCause cause) (s.noted line) := by
  simp only [step, idle, Option.isSome_none, Bool.false_eq_true, if_false, execute, unread, noted]

theorem step_command {command : Command} (idle : s.blocks.capture = none)
    (read : Command.parse line.text = .ok command) :
    s.step run line = perform run command (s.noted line) := by
  simp only [step, idle, Option.isSome_none, Bool.false_eq_true, if_false, execute, read, noted]

theorem step_effect {command : Command} {effect : Except Cause Effect} (idle : s.blocks.capture = none)
    (read : Command.parse line.text = .ok command) (found : command.effect? s.scope.vars s.pen = some effect) :
    s.step run line = (s.noted line).atOnce ((s.noted line).enact effect) := by
  rw [step_command idle read]
  exact perform_effect (s := s.noted line) found run

theorem step_opens {opening : Opening} (idle : s.blocks.capture = none)
    (read : Command.parse line.text = .ok opening.command) :
    s.step run line = .next { s.noted line with blocks := { s.blocks with capture := some { opening } } } := by
  have opened : (s.noted line).blocks.openBlock opening =
      .ok { s.blocks with capture := some { opening } } := by
    simp only [Blocks.openBlock, noted, note, idle]
  rw [step_command idle read]
  cases opening <;> simp only [Opening.command, perform, opened, State.setBlocks, atOnce]

theorem step_stray (idle : s.blocks.capture = none) (read : Command.parse line.text = .ok kind.ending) :
    s.step run line = .stop (.ofCause (.strayCloser kind)) (s.noted line) := by
  have closed : (s.noted line).blocks.closeBlock kind = .error (.strayCloser kind) := by
    simp only [Blocks.closeBlock, noted, note, idle]
  rw [step_command idle read]
  cases kind <;> simp only [BlockKind.ending, perform, closeBlock, closed, Ran.step]

end

/-- Everything that a line can do, whatever runs the lines inside it: four ways while a block is open,
seven while none is. -/
inductive Stepped (line : SourceLine) (s : Session κ) : (Runner κ → Step κ) → Prop
  | nested (capture kind) (opened : s.blocks.capture = some capture)
      (word : leadingKeyword? line.text = some kind.opener) :
      Stepped line s fun _ => .stop (.ofCause (.nested kind)) s
  | mismatched (capture kind) (opened : s.blocks.capture = some capture)
      (word : leadingKeyword? line.text = some kind.closer) (other : capture.opening.kind ≠ kind) :
      Stepped line s fun _ => .stop (.ofCause (.strayCloser kind)) s
  | finished (capture) (opened : s.blocks.capture = some capture)
      (word : leadingKeyword? line.text = some capture.opening.kind.closer) :
      Stepped line s fun run => (finishBlock run capture s.released).step
  | collected (capture) (opened : s.blocks.capture = some capture) (inert : line.Inert) :
      Stepped line s fun _ => .next { s with blocks :=
        { s.blocks with capture := some { capture with lines := capture.lines ++ [line] } } }
  | malformed (cause) (idle : s.blocks.capture = none) (unread : Command.parse line.text = .error cause) :
      Stepped line s fun _ => .stop (.ofCause cause) (s.noted line)
  | effect (command effect) (idle : s.blocks.capture = none) (read : Command.parse line.text = .ok command)
      (found : command.effect? s.scope.vars s.pen = some effect) :
      Stepped line s fun _ => (s.noted line).atOnce ((s.noted line).enact effect)
  | condition (test) (idle : s.blocks.capture = none)
      (read : Command.parse line.text = .ok (.condition test)) :
      Stepped line s fun _ => (s.noted line).enterCondition test
  | endif (idle : s.blocks.capture = none) (read : Command.parse line.text = .ok .endCondition) :
      Stepped line s fun _ => (s.noted line).exitCondition
  | opens (opening) (idle : s.blocks.capture = none)
      (read : Command.parse line.text = .ok opening.command) :
      Stepped line s fun _ => .next { s.noted line with blocks := { s.blocks with capture := some { opening } } }
  | stray (kind) (idle : s.blocks.capture = none) (read : Command.parse line.text = .ok kind.ending) :
      Stepped line s fun _ => .stop (.ofCause (.strayCloser kind)) (s.noted line)
  | calls (name args) (idle : s.blocks.capture = none)
      (read : Command.parse line.text = .ok (.call name args)) :
      Stepped line s fun run => ((s.noted line).call run name args).step

private theorem step_open {line : SourceLine} {s : Session κ} {capture : Capture}
    (opened : s.blocks.capture = some capture) : ∃ act, Stepped line s act ∧ ∀ run, s.step run line = act run := by
  by_cases inert : line.Inert
  · exact ⟨_, .collected capture opened inert, fun _ => step_collected opened inert⟩
  · obtain ⟨kind, word⟩ : ∃ kind : BlockKind, leadingKeyword? line.text = some kind.opener ∨
        leadingKeyword? line.text = some kind.closer := by
      simpa only [SourceLine.Inert, not_forall, ne_eq, not_and_or, not_not] using inert
    rcases word with opener | closer
    · exact ⟨_, .nested capture kind opened opener, fun _ => step_nested opened opener⟩
    · by_cases same : capture.opening.kind = kind
      · subst kind
        exact ⟨_, .finished capture opened closer, fun _ => step_finished opened closer⟩
      · exact ⟨_, .mismatched capture kind opened closer same, fun _ => step_mismatched opened closer same⟩

private theorem step_idle {line : SourceLine} {s : Session κ} (idle : s.blocks.capture = none) :
    ∃ act, Stepped line s act ∧ ∀ run, s.step run line = act run := by
  cases read : Command.parse line.text with
  | error cause => exact ⟨_, .malformed cause idle read, fun _ => step_malformed idle read⟩
  | ok command =>
    cases found : command.effect? s.scope.vars s.pen with
    | some effect => exact ⟨_, .effect command effect idle read found, fun _ => step_effect idle read found⟩
    | none =>
      -- What has no effect of its own is a condition, a block or a call.
      cases command with
      | condition test => exact ⟨_, .condition test idle read, fun _ => step_command idle read⟩
      | endCondition => exact ⟨_, .endif idle read, fun _ => step_command idle read⟩
      | loop => exact ⟨_, .opens .loop idle read, fun _ => step_opens idle read⟩
      | method name params => exact ⟨_, .opens (.method name params) idle read, fun _ => step_opens idle read⟩
      | endLoop => exact ⟨_, .stray .loop idle read, fun _ => step_stray idle read⟩
      | endMethod => exact ⟨_, .stray .method idle read, fun _ => step_stray idle read⟩
      | call name args => exact ⟨_, .calls name args idle read, fun _ => step_command idle read⟩
      | moveTo | drawTo | rectangle | circle | triangle | color | reset | fill | lineWidth | rotate
      | text | clear | declare | assign => simp [Command.effect?] at found

theorem step_stepped (line : SourceLine) (s : Session κ) :
    ∃ act, Stepped line s act ∧ ∀ run, s.step run line = act run := by
  cases opened : s.blocks.capture with
  | none => exact step_idle opened
  | some capture => exact step_open opened

private theorem scan_drop (run : Runner κ) (skip : Nat) (lines : List SourceLine) (s : Session κ) :
    scan run skip lines s = scan run 0 (lines.drop skip) s := by
  induction lines generalizing skip with
  | nil => simp [scan]
  | cons line rest ih =>
    cases skip with
    | zero => rfl
    | succ skip => simpa [scan] using ih skip

section
variable {run : Runner κ} {line : SourceLine} {rest : List SourceLine} {s after : Session κ}

theorem scan_next (stepped : s.step run line = .next after) :
    scan run 0 (line :: rest) s = scan run 0 rest after := by
  simp only [scan, stepped]

theorem scan_stop {reason : Stop} (stepped : s.step run line = .stop reason after) :
    scan run 0 (line :: rest) s = .stopped (reason.attach line) after := by
  simp only [scan, stepped]

theorem scan_unclosed (stepped : s.step run line = .skip after) (missing : linesToEndif 0 rest = none) :
    scan run 0 (line :: rest) s = .stopped ((Stop.ofCause .unclosedIf).attach line) after := by
  simp only [scan, stepped, missing]

theorem scan_skip {count : Nat} (stepped : s.step run line = .skip after)
    (found : linesToEndif 0 rest = some count) :
    scan run 0 (line :: rest) s =
      scan run 0 (rest.drop count) { after with blocks := after.blocks.skipCondition } := by
  simp only [scan, stepped, found]
  exact scan_drop run count rest _

end

/-- While a block is open, a run collects all lines that can stand in one. -/
theorem scan_collected {run : Runner κ} {lines : List SourceLine} {s : Session κ} {capture : Capture}
    (opened : s.blocks.capture = some capture) (inert : ∀ l ∈ lines, l.Inert)
    (tail : List SourceLine) : scan run 0 (lines ++ tail) s = scan run 0 tail { s with blocks :=
      { s.blocks with capture := some { capture with lines := capture.lines ++ lines } } } := by
  induction lines generalizing s capture with
  | nil =>
    have unchanged : { s with blocks := { s.blocks with capture := some capture } } = s := by
      rw [← opened]
    simp only [List.append_nil, List.nil_append, unchanged]
  | cons line lines ih =>
    have stepped : s.step run line = _ := step_collected opened (inert line List.mem_cons_self)
    rw [List.cons_append, scan_next stepped, ih rfl fun l later => inert l (List.mem_cons_of_mem _ later)]
    simp only [List.append_assoc, List.singleton_append]

/-- A run over lines, one line at a time. The lines after a false condition go on behind its `endif`. -/
inductive Scanned (run : Runner κ) : List SourceLine → Session κ → Ran κ → Prop
  | nil (s) : Scanned run [] s (.done s)
  | next {line rest s after ran} (stepped : s.step run line = .next after) (scanned : Scanned run rest after ran) :
      Scanned run (line :: rest) s ran
  | stop {line rest s reason after} (stepped : s.step run line = .stop reason after) :
      Scanned run (line :: rest) s (.stopped (reason.attach line) after)
  | unclosed {line rest s after} (stepped : s.step run line = .skip after) (missing : linesToEndif 0 rest = none) :
      Scanned run (line :: rest) s (.stopped ((Stop.ofCause .unclosedIf).attach line) after)
  | skip {line rest s after count ran} (stepped : s.step run line = .skip after)
      (found : linesToEndif 0 rest = some count)
      (scanned : Scanned run (rest.drop count) { after with blocks := after.blocks.skipCondition } ran) :
      Scanned run (line :: rest) s ran

theorem scan_scanned (run : Runner κ) (lines : List SourceLine) (s : Session κ) :
    Scanned run lines s (scan run 0 lines s) := by
  -- A false condition passes over several lines at once, so the induction is on how many there are.
  induction length : lines.length using Nat.strongRecOn generalizing lines s with
  | ind n ih =>
    subst n
    cases lines with
    | nil => exact .nil s
    | cons line rest =>
      cases stepped : s.step run line with
      | next after =>
        rw [scan_next stepped]
        exact .next stepped (ih rest.length (by simp) rest after rfl)
      | stop reason after =>
        rw [scan_stop stepped]
        exact .stop stepped
      | skip after =>
        cases found : linesToEndif 0 rest with
        | none =>
          rw [scan_unclosed stepped found]
          exact .unclosed stepped found
        | some count =>
          rw [scan_skip stepped found]
          refine .skip stepped found (ih _ ?_ _ _ rfl)
          simp only [List.length_drop, List.length_cons]
          omega

end Session

end Sketch
