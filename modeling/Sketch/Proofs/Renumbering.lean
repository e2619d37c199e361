import Mathlib.Data.List.Forall2
import Sketch.Canvas.Recording
import Sketch.Session
import Sketch.Proofs.Kept

/-! The numbers of lines do not matter to a run. Two sessions that differ in the numbers of some lines,
and in one refresh of the canvas, go on to differ in nothing else, whatever lines they run; and where
one stops with an error, so does the other, with the same error at the same line. -/
namespace Sketch

/-- Lines that keep their numbers, and lines whose numbers move on. -/
structure Renumbering where
  held : SourceLine → Prop
  moved : SourceLine → Prop
  shift : Int

def Renumbering.Pairs (r : Renumbering) (line other : SourceLine) : Prop :=
  r.held line ∧ other = line ∨ r.moved line ∧ other = { line with number := line.number + r.shift }

section
variable (r : Renumbering)

structure Method.Matches (method other : Method) : Prop where
  name : other.name = method.name
  params : other.params = method.params
  body : List.Forall₂ r.Pairs method.body other.body

structure Scope.Matches (scope other : Scope) : Prop where
  vars : other.vars = scope.vars
  methods : List.Forall₂ (Method.Matches r) scope.methods other.methods
  active : other.active = scope.active

structure Capture.Matches (capture other : Capture) : Prop where
  opening : other.opening = capture.opening
  lines : List.Forall₂ r.Pairs capture.lines other.lines

structure Blocks.Matches (blocks other : Blocks) : Prop where
  strict : other.strict = blocks.strict
  depth : other.depth = blocks.depth
  capture : Option.Rel (Capture.Matches r) blocks.capture other.capture

/-- The same drawing with one refresh fewer. -/
structure Recording.Follows (canvas other : Recording) : Prop where
  operations : other.operations = canvas.operations
  refreshes : other.refreshes + 1 = canvas.refreshes

structure Session.Matches (s t : Session Recording) : Prop where
  scope : s.scope.Matches r t.scope
  blocks : s.blocks.Matches r t.blocks
  pen : t.pen = s.pen
  canvas : s.canvas.Follows t.canvas

/-- The same stop, at lines that differ in their numbers at most. -/
inductive Stop.Matches : Stop → Stop → Prop
  | bare (cause) : Matches (.ofCause cause) (.ofCause cause)
  | located (cause) {line other} (renumbered : r.Pairs line other) :
      Matches ((Stop.ofCause cause).attach line) ((Stop.ofCause cause).attach other)
  | canvas (fault) : Matches (.canvas fault) (.canvas fault)
  | tooDeep : Matches .tooDeep .tooDeep

inductive Ran.Matches : Ran Recording → Ran Recording → Prop
  | done {s t} (session : s.Matches r t) : Matches (.done s) (.done t)
  | stopped {reason other s t} (same : reason.Matches r other) (session : s.Matches r t) :
      Matches (.stopped reason s) (.stopped other t)

inductive Step.Matches : Step Recording → Step Recording → Prop
  | next {s t} (session : s.Matches r t) : Matches (.next s) (.next t)
  | skip {s t} (session : s.Matches r t) : Matches (.skip s) (.skip t)
  | stop {reason other s t} (same : reason.Matches r other) (session : s.Matches r t) :
      Matches (.stop reason s) (.stop other t)

end

variable {r : Renumbering}

private theorem Renumbering.Pairs.text {line other : SourceLine} (renumbered : r.Pairs line other) :
    other.text = line.text := by
  rcases renumbered with ⟨-, rfl⟩ | ⟨-, rfl⟩ <;> rfl

private theorem Renumbering.Pairs.inert {line other : SourceLine} (renumbered : r.Pairs line other)
    (inert : line.Inert) : other.Inert := by
  intro kind
  rw [renumbered.text]
  exact inert kind

private theorem Stop.Matches.attach {reason reason' : Stop} {line other : SourceLine}
    (same : reason.Matches r reason') (renumbered : r.Pairs line other) :
    (reason.attach line).Matches r (reason'.attach other) := by
  cases same with
  | bare cause => exact .located cause renumbered
  | located cause inner => exact .located cause inner
  | canvas fault => exact .canvas fault
  | tooDeep => exact .tooDeep

private theorem Ran.Matches.step {ran other : Ran Recording} (same : ran.Matches r other) :
    ran.step.Matches r other.step := by
  cases same with
  | done session => exact .next session
  | stopped same session => exact .stop same session

private theorem Ran.Matches.mapSession {ran other : Ran Recording}
    {change change' : Session Recording → Session Recording} (same : ran.Matches r other)
    (kept : ∀ s t, s.Matches r t → (change s).Matches r (change' t)) :
    (ran.mapSession change).Matches r (other.mapSession change') := by
  cases same with
  | done session => exact .done (kept _ _ session)
  | stopped same session => exact .stopped same (kept _ _ session)

/-! Blocks. -/

theorem linesToEndif_renumbered {lines others : List SourceLine}
    (renumbered : List.Forall₂ r.Pairs lines others) (depth : Nat) :
    linesToEndif depth others = linesToEndif depth lines := by
  induction renumbered generalizing depth with
  | nil => rfl
  | cons first _ ih =>
    unfold linesToEndif
    rw [first.text]
    simp only [ih]

namespace Blocks.Matches
variable {blocks other : Blocks}

private theorem idle (same : blocks.Matches r other) (idle : blocks.capture = none) : other.capture = none := by
  have both := same.capture
  generalize blocks.capture = own, other.capture = others at both idle
  cases both with
  | none => rfl
  | some => cases idle

private theorem opened (same : blocks.Matches r other) {capture : Capture} (opened : blocks.capture = some capture) :
    ∃ inner, other.capture = some inner ∧ capture.Matches r inner := by
  have both := same.capture
  generalize blocks.capture = own, other.capture = others at both opened
  cases both with
  | none => cases opened
  | some matched =>
    cases opened
    exact ⟨_, rfl, matched⟩

private theorem setCapture (same : blocks.Matches r other) {capture capture' : Option Capture}
    (both : Option.Rel (Capture.Matches r) capture capture') :
    { blocks with capture }.Matches r { other with capture := capture' } :=
  ⟨same.strict, same.depth, both⟩

theorem skipCondition (same : blocks.Matches r other) :
    blocks.skipCondition.Matches r other.skipCondition := by
  unfold Blocks.skipCondition
  rw [same.strict]
  split
  · exact same
  · exact ⟨rfl, rfl, same.capture⟩

theorem exitCondition (same : blocks.Matches r other) :
    (∃ cause, blocks.exitCondition = .error cause ∧ other.exitCondition = .error cause) ∨
      ∃ left left', blocks.exitCondition = .ok left ∧ other.exitCondition = .ok left' ∧
        left.Matches r left' := by
  unfold Blocks.exitCondition
  rw [same.strict, same.depth]
  cases blocks.strict with
  | false => exact .inr ⟨_, _, rfl, rfl, rfl, rfl, same.capture⟩
  | true =>
    cases blocks.depth with
    | zero => exact .inl ⟨_, rfl, rfl⟩
    | succ depth => exact .inr ⟨_, _, rfl, rfl, rfl, rfl, same.capture⟩

end Blocks.Matches

/-! Scopes. -/

namespace Scope.Matches
variable {scope other : Scope}

private theorem method? (same : scope.Matches r other) (name : String) :
    Option.Rel (Method.Matches r) (scope.method? name) (other.method? name) := by
  unfold Scope.method?
  have methods := same.methods
  generalize scope.methods = own, other.methods = others at methods
  induction methods with
  | nil => exact .none
  | cons first _ ih =>
    simp only [List.find?_cons, first.name]
    split
    · exact .some first
    · exact ih

theorem enter (same : scope.Matches r other) (name : String) (args : List Float) :
    (∃ cause, scope.enter name args = .error cause ∧ other.enter name args = .error cause) ∨
      ∃ entered entered', scope.enter name args = .ok entered ∧ other.enter name args = .ok entered' ∧
        entered.method.Matches r entered'.method ∧ entered'.hidden = entered.hidden ∧
        entered.scope.Matches r entered'.scope := by
  have both := same.method? name
  unfold Scope.enter Scope.lookup
  rw [same.vars, same.active]
  generalize scope.method? name = found, other.method? name = found' at both ⊢
  cases both with
  | none => exact .inl ⟨_, rfl, rfl⟩
  | some matched =>
    simp only [bind, Except.bind, matched.params]
    split
    · exact .inl ⟨_, rfl, rfl⟩
    · split
      · exact .inl ⟨_, rfl, rfl⟩
      · exact .inr ⟨_, _, rfl, rfl, matched, rfl, rfl, same.methods, rfl⟩

private theorem leave (same : scope.Matches r other) (hidden : Hidden) :
    (scope.leave hidden).Matches r (other.leave hidden) :=
  ⟨congrArg (·.restore hidden) same.vars, same.methods, congrArg List.tail same.active⟩

theorem define (same : scope.Matches r other) {method method' : Method}
    (matched : method.Matches r method') :
    (∃ cause, scope.define method = .error cause ∧ other.define method' = .error cause) ∨
      ∃ defined defined', scope.define method = .ok defined ∧ other.define method' = .ok defined' ∧
        defined.Matches r defined' := by
  have both := same.method? method.name
  unfold Scope.define
  rw [matched.name]
  generalize scope.method? method.name = found, other.method? method.name = found' at both ⊢
  cases both with
  | none => exact .inr ⟨_, _, rfl, rfl, same.vars, List.rel_append same.methods (.cons matched .nil), same.active⟩
  | some _ => exact .inl ⟨_, rfl, rfl⟩

end Scope.Matches

/-! Canvases. -/

private theorem State.paint_follows {canvas other : Recording} (follows : canvas.Follows other) (effect : Effect) :
    ∃ painted painted', State.paint effect canvas = .ok painted ∧ State.paint effect other = .ok painted' ∧
      painted.Follows painted' := by
  unfold State.paint
  cases effect.primitive with
  | none => exact ⟨_, _, rfl, rfl, follows⟩
  | some primitive =>
    have drawn : Recording.Follows { canvas with operations := canvas.operations ++ [primitive] }
        { other with operations := other.operations ++ [primitive] } :=
      ⟨congrArg (· ++ [primitive]) follows.operations, follows.refreshes⟩
    refine ⟨_, _, rfl, rfl, ?_⟩
    cases effect.shown with
    | false => exact drawn
    | true => exact ⟨drawn.operations, congrArg (· + 1) drawn.refreshes⟩

/-! Sessions. -/

namespace Session
variable {s t : Session Recording}

private theorem Matches.noted (same : s.Matches r t) (line other : SourceLine) :
    (s.noted line).Matches r (t.noted other) :=
  ⟨same.scope, same.blocks, same.pen, same.canvas⟩

private theorem Matches.numbers (same : s.Matches r t) (args : List String) : t.numbers args = s.numbers args := by
  have number : t.number = s.number := by
    funext token
    simp only [State.number, same.scope.vars]
  simp only [State.numbers, number]

private theorem enact_matches (same : s.Matches r t) (effect : Except Cause Effect) :
    (s.atOnce (s.enact effect)).Matches r (t.atOnce (t.enact effect)) := by
  cases effect with
  | error cause => exact .stop (.bare cause) same
  | ok effect =>
    obtain ⟨painted, painted', canvas, canvas', follows⟩ := State.paint_follows same.canvas effect
    simp only [State.enact, canvas, canvas', atOnce]
    exact .next ⟨⟨rfl, same.scope.methods, same.scope.active⟩, same.blocks, rfl, follows⟩

private theorem enterCondition_matches (same : s.Matches r t) (test : Condition) :
    (s.enterCondition test).Matches r (t.enterCondition test) := by
  unfold enterCondition
  rw [same.scope.vars]
  split
  · exact .stop (.bare _) same
  · have blocks : s.blocks.enterCondition.Matches r t.blocks.enterCondition :=
      ⟨same.blocks.strict, congrArg (· + 1) same.blocks.depth, same.blocks.capture⟩
    exact .next ⟨same.scope, blocks, same.pen, same.canvas⟩
  · exact .skip same

private theorem exitCondition_matches (same : s.Matches r t) :
    s.exitCondition.Matches r t.exitCondition := by
  rcases same.blocks.exitCondition with ⟨cause, failed, failed'⟩ | ⟨left, left', ok, ok', blocks⟩
  · rw [exitCondition_error failed, exitCondition_error failed']
    exact .stop (.bare cause) same
  · obtain ⟨log, next⟩ := exitCondition_ok ok
    obtain ⟨log', next'⟩ := exitCondition_ok ok'
    rw [next, next']
    exact .next ⟨same.scope, blocks, same.pen, same.canvas⟩

def RunMatches (r : Renumbering) (run : Runner Recording) : Prop :=
  ∀ lines others s t, List.Forall₂ r.Pairs lines others → s.Matches r t →
    (run lines s).Matches r (run others t)

variable {run : Runner Recording}

private theorem call_matches (running : RunMatches r run) (same : s.Matches r t) (name : String)
    (args : List String) : (s.call run name args).Matches r (t.call run name args) := by
  unfold call
  rw [same.numbers]
  cases given : s.numbers args with
  | error reason =>
    obtain ⟨cause, rfl, -⟩ := numbers_error given
    exact .stopped (.bare cause) same
  | ok values =>
    simp only [invoke]
    rcases same.scope.enter name values with ⟨cause, failed, failed'⟩ |
      ⟨entered, entered', ok, ok', method, hidden, scope⟩
    · rw [failed, failed']
      exact .stopped (.bare cause) same
    · rw [ok, ok']
      have inner : Matches r { s with scope := entered.scope } { t with scope := entered'.scope } :=
        ⟨scope, same.blocks, same.pen, same.canvas⟩
      refine (running _ _ _ _ method.body inner).mapSession ?_
      intro after after' both
      rw [hidden]
      exact ⟨both.scope.leave entered.hidden, both.blocks, both.pen, both.canvas⟩

private theorem finishBlock_matches (running : RunMatches r run) (same : s.Matches r t)
    {capture capture' : Capture} (both : capture.Matches r capture') :
    (finishBlock run capture s).Matches r (finishBlock run capture' t) := by
  cases opening : capture.opening with
  | loop =>
    rw [finishBlock_loop opening, finishBlock_loop (both.opening.trans opening)]
    exact running _ _ _ _ both.lines ⟨same.scope, same.blocks, same.pen, same.canvas⟩
  | method name params =>
    rw [finishBlock_method opening, finishBlock_method (both.opening.trans opening)]
    unfold defineMethod
    have method : Method.Matches r ⟨name, params, capture.lines⟩ ⟨name, params, capture'.lines⟩ :=
      ⟨rfl, rfl, both.lines⟩
    rcases same.scope.define method with ⟨cause, failed, failed'⟩ | ⟨defined, defined', ok, ok', scope⟩
    · rw [failed, failed']
      exact .stopped (.bare cause) same
    · rw [ok, ok']
      exact .done ⟨scope, same.blocks, same.pen, same.canvas⟩

theorem step_matches (running : RunMatches r run) (same : s.Matches r t)
    {line other : SourceLine} (renumbered : r.Pairs line other) :
    (s.step run line).Matches r (t.step run other) := by
  have text := renumbered.text
  have noted := same.noted line other
  obtain ⟨act, stepped, acts⟩ := step_stepped line s
  rw [acts]
  cases stepped with
  | nested capture kind opened word =>
    obtain ⟨inner, opened', -⟩ := same.blocks.opened opened
    rw [step_nested opened' (text ▸ word)]
    exact .stop (.bare _) same
  | mismatched capture kind opened word otherKind =>
    obtain ⟨inner, opened', both⟩ := same.blocks.opened opened
    rw [step_mismatched opened' (text ▸ word) (both.opening ▸ otherKind)]
    exact .stop (.bare _) same
  | finished capture opened word =>
    obtain ⟨inner, opened', both⟩ := same.blocks.opened opened
    rw [step_finished opened' (by rw [text, both.opening]; exact word)]
    have released : s.released.Matches r t.released :=
      ⟨same.scope, same.blocks.setCapture .none, same.pen, same.canvas⟩
    exact (finishBlock_matches running released both).step
  | collected capture opened inert =>
    obtain ⟨inner, opened', both⟩ := same.blocks.opened opened
    rw [step_collected opened' (renumbered.inert inert)]
    have collected : Capture.Matches r { capture with lines := capture.lines ++ [line] }
        { inner with lines := inner.lines ++ [other] } :=
      ⟨both.opening, List.rel_append both.lines (.cons renumbered .nil)⟩
    exact .next ⟨same.scope, same.blocks.setCapture (.some collected), same.pen, same.canvas⟩
  | malformed cause idle unread =>
    rw [step_malformed (same.blocks.idle idle) (text ▸ unread)]
    exact .stop (.bare cause) noted
  | effect command effect idle read found =>
    have found' : command.effect? t.scope.vars t.pen = some effect := by
      rw [same.scope.vars, same.pen]
      exact found
    rw [step_effect (same.blocks.idle idle) (text ▸ read) found']
    exact enact_matches noted effect
  | condition test idle read =>
    rw [step_command (same.blocks.idle idle) (text ▸ read)]
    exact enterCondition_matches noted test
  | endif idle read =>
    rw [step_command (same.blocks.idle idle) (text ▸ read)]
    exact exitCondition_matches noted
  | opens opening idle read =>
    rw [step_opens (same.blocks.idle idle) (text ▸ read)]
    exact .next ⟨same.scope, same.blocks.setCapture (.some ⟨rfl, .nil⟩), same.pen, same.canvas⟩
  | stray kind idle read =>
    rw [step_stray (same.blocks.idle idle) (text ▸ read)]
    exact .stop (.bare _) noted
  | calls name args idle read =>
    rw [step_command (same.blocks.idle idle) (text ▸ read)]
    exact (call_matches running noted name args).step

private theorem stepped_matches (running : RunMatches r run) (same : s.Matches r t) {line other : SourceLine}
    (renumbered : r.Pairs line other) {result : Step Recording} (stepped : s.step run line = result) :
    ∃ result', t.step run other = result' ∧ result.Matches r result' :=
  ⟨_, rfl, stepped ▸ step_matches running same renumbered⟩

private theorem scan_matches (running : RunMatches r run) : RunMatches r (scan run 0) := by
  intro lines others s t renumbered same
  have scanned := scan_scanned run lines s
  generalize scan run 0 lines s = ran at scanned
  induction scanned generalizing others t with
  | nil s =>
    cases renumbered
    exact .done same
  | @next line rest s after _ stepped _ ih =>
    obtain _ | @⟨_, other, _, others, first, later⟩ := renumbered
    obtain ⟨_, stepped', step⟩ := stepped_matches running same first stepped
    cases step with
    | next session =>
      rw [scan_next stepped']
      exact ih _ _ later session
  | @stop line rest s reason after stepped =>
    obtain _ | @⟨_, other, _, others, first, later⟩ := renumbered
    obtain ⟨_, stepped', step⟩ := stepped_matches running same first stepped
    cases step with
    | stop reason session =>
      rw [scan_stop stepped']
      exact .stopped (reason.attach first) session
  | @unclosed line rest s after stepped missing =>
    obtain _ | @⟨_, other, _, others, first, later⟩ := renumbered
    obtain ⟨_, stepped', step⟩ := stepped_matches running same first stepped
    cases step with
    | skip session =>
      rw [scan_unclosed stepped' ((linesToEndif_renumbered later 0).trans missing)]
      exact .stopped (.located _ first) session
  | @skip line rest s after count _ stepped found _ ih =>
    obtain _ | @⟨_, other, _, others, first, later⟩ := renumbered
    obtain ⟨_, stepped', step⟩ := stepped_matches running same first stepped
    cases step with
    | skip session =>
      rw [scan_skip stepped' ((linesToEndif_renumbered later 0).trans found)]
      exact ih _ _ (List.forall₂_drop count later)
        ⟨session.scope, session.blocks.skipCondition, session.pen, session.canvas⟩

theorem runLines_matches (depth : Nat) : RunMatches r (runLines depth) := by
  induction depth with
  | zero => exact fun lines others s t renumbered same => .stopped .tooDeep same
  | succ depth ih => exact scan_matches ih

end Session

end Sketch
