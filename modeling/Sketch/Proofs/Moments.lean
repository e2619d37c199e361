import Sketch.Proofs.Reachable

/-! A run as a row of moments. At each moment there are lines to run, or an error on its way out, and
outside of them the lines that wait until a loop has been replayed or a method called. A move carries
out one line, enters the lines inside it or leaves them; it knows of no allowance. A run that keeps
within its allowance is what the moves come to. -/
namespace Sketch

/-- Lines that wait for the lines inside one of them. -/
structure Waiting where
  /-- The line that the inner lines are run by; none if it is the host who called a method. -/
  line : Option SourceLine
  rest : List SourceLine
  /-- What the call has hidden; none if a loop is replayed. -/
  hidden : Option Hidden

def Waiting.attach (waiting : Waiting) (reason : Stop) : Stop :=
  match waiting.line with
  | none => reason
  | some line => reason.attach line

structure Nested (κ : Type) where
  lines : List SourceLine
  session : Session κ
  hidden : Option Hidden := none

namespace Session
variable {κ : Type}

def unwound (hidden : Option Hidden) (s : Session κ) : Session κ :=
  match hidden with
  | none => s
  | some hidden => { s with scope := s.scope.leave hidden }

def called? (name : String) (args : List String) (s : Session κ) : Option (Nested κ) :=
  match s.numbers args with
  | .error _ => none
  | .ok values =>
    match s.scope.enter name values with
    | .error _ => none
    | .ok entered =>
      some { lines := entered.method.body, session := { s with scope := entered.scope }, hidden := entered.hidden }

/-- The lines that a line runs inside itself: those of the loop that it closes, or of the method that
it calls. -/
def nested? (line : SourceLine) (s : Session κ) : Option (Nested κ) :=
  match s.blocks.capture with
  | some capture =>
    if capture.opening = .loop ∧ leadingKeyword? line.text = some .endLoop then
      some { lines := capture.lines, session := s.released.replaying capture }
    else none
  | none =>
    match Command.parse line.text with
    | .ok (.call name args) => (s.noted line).called? name args
    | _ => none

theorem nested?_cases {line : SourceLine} {s : Session κ} {nested : Nested κ} (found : s.nested? line = some nested) :
    (∃ capture, s.blocks.capture = some capture ∧ capture.opening = .loop ∧
      leadingKeyword? line.text = some .endLoop ∧ nested = ⟨capture.lines, s.released.replaying capture, none⟩) ∨
    ∃ name args values entered, s.blocks.capture = none ∧ Command.parse line.text = .ok (.call name args) ∧
      (s.noted line).numbers args = .ok values ∧ (s.noted line).scope.enter name values = .ok entered ∧
      nested = ⟨entered.method.body, { s.noted line with scope := entered.scope }, some entered.hidden⟩ := by
  unfold nested? at found
  split at found
  · rename_i capture opened
    split at found
    · rename_i closes
      exact .inl ⟨capture, opened, closes.1, closes.2, (Option.some.inj found).symm⟩
    · cases found
  · rename_i idle
    split at found
    · rename_i name args read
      unfold called? at found
      split at found
      · cases found
      · rename_i values given
        split at found
        · cases found
        · rename_i entered begun
          exact .inr ⟨name, args, values, entered, idle, read, given, begun, (Option.some.inj found).symm⟩
    · cases found

theorem nested?_methods {line : SourceLine} {s : Session κ} {nested : Nested κ}
    (found : s.nested? line = some nested) : nested.session.scope.methods = s.scope.methods := by
  rcases nested?_cases found with ⟨capture, -, -, -, rfl⟩ | ⟨name, args, values, entered, -, -, -, begun, rfl⟩
  · rfl
  · exact (Scope.enter_ok begun).2.2.1

private theorem call_of_not_called {name : String} {args : List String} {s : Session κ}
    (missing : s.called? name args = none) (run other : Runner κ) :
    s.call run name args = s.call other name args := by
  unfold called? at missing
  unfold call invoke
  cases given : s.numbers args with
  | error reason => rfl
  | ok values =>
    cases begun : s.scope.enter name values with
    | error cause => simp only [begun]
    | ok entered => simp [given, begun] at missing

theorem method_of_alone {line : SourceLine} {s : Session κ} {capture : Capture} (alone : s.nested? line = none)
    (opened : s.blocks.capture = some capture) (word : leadingKeyword? line.text = some capture.opening.kind.closer) :
    ∃ name params, capture.opening = .method name params := by
  cases opening : capture.opening with
  | loop =>
    have closes : leadingKeyword? line.text = some .endLoop := by
      rw [word, opening]
      rfl
    simp [nested?, opened, opening, closes] at alone
  | method name params => exact ⟨name, params, rfl⟩

theorem not_called_of_alone {line : SourceLine} {s : Session κ} {name : String} {args : List String}
    (alone : s.nested? line = none) (idle : s.blocks.capture = none)
    (read : Command.parse line.text = .ok (.call name args)) : (s.noted line).called? name args = none := by
  simpa only [nested?, idle, read] using alone

variable [Canvas κ]

/-- A line that runs lines inside itself does nothing else. -/
theorem step_of_nested {line : SourceLine} {s : Session κ} {nested : Nested κ} (found : s.nested? line = some nested)
    (run : Runner κ) :
    s.step run line = ((run nested.lines nested.session).mapSession (unwound nested.hidden)).step := by
  rcases nested?_cases found with ⟨capture, opened, opening, closes, rfl⟩ |
    ⟨name, args, values, entered, idle, read, given, begun, rfl⟩
  · have word : leadingKeyword? line.text = some capture.opening.kind.closer := by
      rw [opening]
      exact closes
    rw [step_finished opened word, finishBlock_loop opening]
    cases run capture.lines (s.released.replaying capture) <;> rfl
  · rw [step_command idle read]
    simp only [perform, call, given, invoke, begun]
    rfl

theorem step_of_alone {line : SourceLine} {s : Session κ} (alone : s.nested? line = none) (run other : Runner κ) :
    s.step run line = s.step other line := by
  obtain ⟨act, stepped, same⟩ := step_stepped line s
  rw [same, same]
  cases stepped with
  | finished capture opened word =>
    obtain ⟨name, params, opening⟩ := method_of_alone alone opened word
    simp only [finishBlock_method opening]
  | calls name args idle read =>
    exact congrArg Ran.step (call_of_not_called (not_called_of_alone alone idle read) run other)
  | nested | mismatched | collected | malformed | effect | condition | endif | opens | stray => rfl

end Session

inductive Moment (κ : Type) where
  | running (lines : List SourceLine) (session : Session κ) (waiting : List Waiting)
  | stopping (reason : Stop) (session : Session κ) (waiting : List Waiting)

namespace Moment
variable {κ : Type}

def session : Moment κ → Session κ
  | running _ s _ => s
  | stopping _ s _ => s

def waiting : Moment κ → List Waiting
  | running _ _ waiting => waiting
  | stopping _ _ waiting => waiting

def ofRan (waiting : List Waiting) : Ran κ → Moment κ
  | .done s => running [] s waiting
  | .stopped reason s => stopping reason s waiting

def ofStep (line : SourceLine) (rest : List SourceLine) (waiting : List Waiting) : Step κ → Moment κ
  | .next s => running rest s waiting
  | .stop reason s => stopping (reason.attach line) s waiting
  | .skip s =>
    match linesToEndif 0 rest with
    | none => stopping ((Stop.ofCause .unclosedIf).attach line) s waiting
    | some count => running (rest.drop count) { s with blocks := s.blocks.skipCondition } waiting

theorem waiting_ofStep (line : SourceLine) (rest : List SourceLine) (waiting : List Waiting) (step : Step κ) :
    (ofStep line rest waiting step).waiting = waiting := by
  cases step with
  | next | stop => rfl
  | skip s =>
    simp only [ofStep]
    split <;> rfl

def begin (request : Request) (s : Session κ) : Moment κ :=
  match request with
  | .program text => running (splitProgram text) s []
  | .call name args =>
    match s.scope.enter name args with
    | .error cause => stopping (.ofCause cause) s []
    | .ok entered =>
      running entered.method.body { s with scope := entered.scope } [⟨none, [], some entered.hidden⟩]

variable [Canvas κ]

theorem ofStep_evolves (line : SourceLine) (rest : List SourceLine) (waiting : List Waiting) (step : Step κ) :
    Evolves step.session.toState (ofStep line rest waiting step).session.toState := by
  cases step with
  | next | stop => exact .refl _
  | skip s =>
    simp only [ofStep]
    split
    · exact .refl _
    · exact s.skipCondition_evolves

/-- The next moment; nothing follows once no lines wait and there is nothing left to run. -/
def move : Moment κ → Moment κ
  | running [] s [] => running [] s []
  | running [] s (outer :: waiting) => running outer.rest (s.unwound outer.hidden) waiting
  | running (line :: rest) s waiting =>
    match s.nested? line with
    | some nested => running nested.lines nested.session (⟨some line, rest, nested.hidden⟩ :: waiting)
    | none => ofStep line rest waiting (s.step (Session.runLines 0) line)
  | stopping reason s [] => stopping reason s []
  | stopping reason s (outer :: waiting) => stopping (outer.attach reason) (s.unwound outer.hidden) waiting

theorem move_nested {line : SourceLine} {s : Session κ} {nested : Nested κ} (found : s.nested? line = some nested)
    (rest : List SourceLine) (waiting : List Waiting) :
    (running (line :: rest) s waiting).move =
      running nested.lines nested.session (⟨some line, rest, nested.hidden⟩ :: waiting) := by
  simp only [move, found]

theorem move_alone {line : SourceLine} {s : Session κ} (alone : s.nested? line = none) (run : Session.Runner κ)
    (rest : List SourceLine) (waiting : List Waiting) :
    (running (line :: rest) s waiting).move = ofStep line rest waiting (s.step run line) := by
  simp only [move, alone, Session.step_of_alone alone run (Session.runLines 0)]

theorem move_ofRan (ran : Ran κ) : (ofRan [] ran).move = ofRan [] ran := by
  cases ran <;> rfl

private theorem move_inner (ran : Ran κ) (line : SourceLine) (rest : List SourceLine) (hidden : Option Hidden)
    (waiting : List Waiting) : (ofRan (⟨some line, rest, hidden⟩ :: waiting) ran).move =
      ofStep line rest waiting (ran.mapSession (Session.unwound hidden)).step := by
  cases ran <;> rfl

inductive Moved : Moment κ → Moment κ → Prop
  | ended (ran : Ran κ) : Moved (ofRan [] ran) (ofRan [] ran)
  | steps {line rest s waiting} (alone : s.nested? line = none) :
      Moved (running (line :: rest) s waiting) (ofStep line rest waiting (s.step (Session.runLines 0) line))
  | enters {line rest s waiting nested} (found : s.nested? line = some nested) :
      Moved (running (line :: rest) s waiting)
        (running nested.lines nested.session (⟨some line, rest, nested.hidden⟩ :: waiting))
  | leaves {s outer waiting} :
      Moved (running [] s (outer :: waiting)) (running outer.rest (s.unwound outer.hidden) waiting)
  | unwinds {reason s outer waiting} :
      Moved (stopping reason s (outer :: waiting)) (stopping (outer.attach reason) (s.unwound outer.hidden) waiting)

theorem move_moved (moment : Moment κ) : Moved moment moment.move := by
  cases moment with
  | running lines s waiting =>
    cases lines with
    | nil =>
      cases waiting with
      | nil => exact .ended (.done s)
      | cons outer waiting => exact .leaves
    | cons line rest =>
      cases found : s.nested? line with
      | some nested =>
        rw [move_nested found]
        exact .enters found
      | none =>
        rw [move_alone found (Session.runLines 0)]
        exact .steps found
  | stopping reason s waiting =>
    cases waiting with
    | nil => exact .ended (.stopped reason s)
    | cons outer waiting => exact .unwinds

def Reaches (first second : Moment κ) : Prop :=
  ∃ count, move^[count] first = second

theorem Reaches.refl (moment : Moment κ) : Reaches moment moment :=
  ⟨0, rfl⟩

theorem Reaches.move (moment : Moment κ) : Reaches moment moment.move :=
  ⟨1, rfl⟩

theorem Reaches.trans {first second third : Moment κ} (one : Reaches first second) (two : Reaches second third) :
    Reaches first third := by
  obtain ⟨count, rfl⟩ := one
  obtain ⟨more, rfl⟩ := two
  exact ⟨more + count, Function.iterate_add_apply _ _ _ _⟩

/-- The moves come to what the runner says of these lines, unless that is nested too deep. -/
def Follows (run : Session.Runner κ) : Prop :=
  ∀ lines s waiting, (run lines s).reason? ≠ some .tooDeep →
    Reaches (running lines s waiting) (ofRan waiting (run lines s))

private theorem Follows.step {run : Session.Runner κ} (follows : Follows run) {line : SourceLine} {s : Session κ}
    (within : (s.step run line).reason? ≠ some .tooDeep) (rest : List SourceLine) (waiting : List Waiting) :
    Reaches (running (line :: rest) s waiting) (ofStep line rest waiting (s.step run line)) := by
  cases found : s.nested? line with
  | none =>
    rw [← move_alone found run rest waiting]
    exact .move _
  | some nested =>
    have stepped := Session.step_of_nested found run
    have shallow : (run nested.lines nested.session).reason? ≠ some .tooDeep := by
      rwa [stepped, Ran.reason?_step, Ran.reason?_mapSession] at within
    have entered : Reaches (running (line :: rest) s waiting) _ := .move _
    rw [move_nested found rest waiting] at entered
    have left := Reaches.move (ofRan (⟨some line, rest, nested.hidden⟩ :: waiting) (run nested.lines nested.session))
    rw [move_inner, ← stepped] at left
    exact (entered.trans (follows nested.lines nested.session _ shallow)).trans left

private theorem Follows.scan {run : Session.Runner κ} (follows : Follows run) : Follows (Session.scan run 0) := by
  intro lines s waiting within
  have scanned := Session.scan_scanned run lines s
  generalize Session.scan run 0 lines s = ran at scanned within
  induction scanned with
  | nil => exact .refl _
  | @next line rest s after _ stepped _ ih =>
    have shallow : (s.step run line).reason? ≠ some .tooDeep := by simp [stepped, Step.reason?]
    have first := follows.step shallow rest waiting
    rw [stepped] at first
    exact first.trans (ih within)
  | @stop line rest s reason after stepped =>
    have shallow : (s.step run line).reason? ≠ some .tooDeep := by
      rw [stepped]
      rintro ⟨⟩
      exact within rfl
    have last := follows.step shallow rest waiting
    rwa [stepped] at last
  | @unclosed line rest s after stepped missing =>
    have shallow : (s.step run line).reason? ≠ some .tooDeep := by simp [stepped, Step.reason?]
    have last := follows.step shallow rest waiting
    simp only [stepped, ofStep, missing] at last
    exact last
  | @skip line rest s after count _ stepped found _ ih =>
    have shallow : (s.step run line).reason? ≠ some .tooDeep := by simp [stepped, Step.reason?]
    have first := follows.step shallow rest waiting
    simp only [stepped, ofStep, found] at first
    exact first.trans (ih within)

theorem runLines_follows (depth : Nat) : Follows (Session.runLines depth : Session.Runner κ) := by
  induction depth with
  | zero => exact fun lines s waiting within => absurd rfl within
  | succ depth ih => exact ih.scan

/-- The moves come to the run of a request, unless that is nested too deep. -/
theorem begin_reaches {request : Request} {s : Session κ} (within : (s.attempt request).reason? ≠ some .tooDeep) :
    Reaches (begin request s) (ofRan [] (s.attempt request)) := by
  cases request with
  | program text => exact runLines_follows _ _ s [] within
  | call name args =>
    cases begun : s.scope.enter name args with
    | error cause =>
      simp only [begin, Session.attempt, Session.invoke, begun]
      exact .refl _
    | ok entered =>
      simp only [begin, Session.attempt, Session.invoke, begun, Ran.reason?_mapSession] at within ⊢
      have body := runLines_follows _ _ { s with scope := entered.scope } [⟨none, [], some entered.hidden⟩] within
      refine body.trans ⟨1, ?_⟩
      cases Session.runLines (s.allowance []) entered.method.body { s with scope := entered.scope } <;> rfl

end Moment

end Sketch
