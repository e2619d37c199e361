import Sketch.Proofs.Allowance
import Sketch.Proofs.Structure

/-! From a structured program to its lines. The lines of each item bring a session from one scene to the
next as the item says, whatever lines come after them, and a session that counts its conditions counts
as many behind each item as before it. -/
namespace Sketch
open Text

/-! The lines of a tree. -/

theorem PlainLine.inert (plain : PlainLine) : plain.line.Inert := by
  intro kind
  cases kind with
  | loop => exact ⟨plain.plain .loop (by decide), plain.plain .endLoop (by decide)⟩
  | method => exact ⟨plain.plain .method (by decide), plain.plain .endMethod (by decide)⟩

private theorem Delimiter.trim {keyword : Keyword} (delimiter : Delimiter keyword) :
    Text.trim delimiter.line.text.toList = delimiter.line.text.toList ++ [] := by
  have solid : ∀ c ∈ delimiter.line.text.toList, ¬ isBlank c :=
    fun c inside => not_isBlank_of_isNameChar (delimiter.spelled.isName.all c inside)
  rw [List.append_nil]
  exact trim_eq_self (fun c first => solid c (List.mem_of_mem_head? first))
    (fun c last => solid c (List.mem_of_mem_getLast? last))

theorem Delimiter.leading {keyword : Keyword} (delimiter : Delimiter keyword) :
    leadingKeyword? delimiter.line.text = some keyword :=
  leadingKeyword?_of_isWord delimiter.trim delimiter.spelled (by simp)

theorem Delimiter.read {keyword : Keyword} {command : Command} (delimiter : Delimiter keyword)
    (begun : command.keyword? = some keyword) (bare : command.operands? = some []) :
    Command.parse delimiter.line.text = .ok command := by
  apply parse_of_spells
  rw [delimiter.trim]
  exact .operands begun bare delimiter.spelled (by simp) .nil

theorem ConditionLine.leading (opener : ConditionLine) : leadingKeyword? opener.line.text = some .condition :=
  leadingKeyword?_of_parse opener.read rfl

theorem MethodLine.leading (opener : MethodLine) : leadingKeyword? opener.line.text = some .method :=
  leadingKeyword?_of_parse opener.read rfl

private theorem inert_of_leading {line : SourceLine} {keyword : Keyword}
    (leading : leadingKeyword? line.text = some keyword)
    (other : ∀ kind : BlockKind, keyword ≠ kind.opener ∧ keyword ≠ kind.closer) : line.Inert := by
  intro kind
  rw [leading]
  exact ⟨fun same => (other kind).1 (Option.some.inj same), fun same => (other kind).2 (Option.some.inj same)⟩

mutual
theorem Item.inert : (item : Item false) → ∀ l ∈ item.lines, l.Inert
  | .line plain => by simpa [Item.lines] using plain.inert
  | .branch opener body closer => by
    have opening : opener.line.Inert := inert_of_leading opener.leading (by rintro (_ | _) <;> decide)
    have closing : closer.line.Inert := inert_of_leading closer.leading (by rintro (_ | _) <;> decide)
    intro l inside
    simp only [Item.lines, List.mem_cons, List.mem_append, List.not_mem_nil, or_false] at inside
    rcases inside with rfl | inner | rfl
    · exact opening
    · exact body.inert l inner
    · exact closing
theorem Block.inert : (block : Block false) → ∀ l ∈ block.lines, l.Inert
  | .nil => by simp [Block.lines]
  | .cons item rest => by
    intro l inside
    rcases List.mem_append.mp inside with first | later
    · exact item.inert l first
    · exact rest.inert l later
end

/-- Lines that close each condition that they open, so that the `endif` of an outer one is behind them. -/
def Balanced (lines : List SourceLine) : Prop :=
  ∀ depth tail, linesToEndif depth (lines ++ tail) = (linesToEndif depth tail).map (· + lines.length)

namespace Balanced

theorem nil : Balanced [] := by
  intro depth tail
  simp

theorem append {first second : List SourceLine} (one : Balanced first) (two : Balanced second) :
    Balanced (first ++ second) := by
  intro depth tail
  rw [List.append_assoc, one, two, Option.map_map]
  congr 1
  funext count
  simp only [Function.comp, List.length_append]
  omega

private theorem single {line : SourceLine} (opens : leadingKeyword? line.text ≠ some .condition)
    (closes : leadingKeyword? line.text ≠ some .endCondition) : Balanced [line] := by
  intro depth tail
  simp only [List.cons_append, List.nil_append, linesToEndif]
  rfl

private theorem enclosed {opener closer : SourceLine} {body : List SourceLine}
    (opens : leadingKeyword? opener.text = some .condition) (inner : Balanced body)
    (closes : leadingKeyword? closer.text = some .endCondition) : Balanced (opener :: (body ++ [closer])) := by
  intro depth tail
  simp only [List.cons_append, List.append_assoc, List.nil_append, linesToEndif, opens, inner (depth + 1), closes,
    Option.map_map]
  congr 1
  funext count
  simp only [Function.comp, List.length_cons, List.length_append, List.length_nil]
  omega

end Balanced

private theorem Delimiter.balanced {keyword : Keyword} (delimiter : Delimiter keyword) (opens : keyword ≠ .condition)
    (closes : keyword ≠ .endCondition) : Balanced [delimiter.line] :=
  .single (by simpa [delimiter.leading] using opens) (by simpa [delimiter.leading] using closes)

private theorem MethodLine.balanced (opener : MethodLine) : Balanced [opener.line] :=
  .single (by simp [opener.leading]) (by simp [opener.leading])

mutual
theorem Item.balanced {outer : Bool} : (item : Item outer) → Balanced item.lines
  | .line plain => .single (plain.plain _ (by decide)) (plain.plain _ (by decide))
  | .branch opener body closer => .enclosed opener.leading body.balanced closer.leading
  | .loop opener body closer =>
    (opener.balanced (by decide) (by decide)).append
      (body.balanced.append (closer.balanced (by decide) (by decide)))
  | .method opener body closer =>
    opener.balanced.append (body.balanced.append (closer.balanced (by decide) (by decide)))
theorem Block.balanced {outer : Bool} : (block : Block outer) → Balanced block.lines
  | .nil => .nil
  | .cons item rest => item.balanced.append rest.balanced
end

/-! What lines do before other lines. -/

def Session.scene {κ : Type} (s : Session κ) : Scene κ :=
  ⟨s.scope, s.pen, s.canvas⟩

def Ran.ended {κ : Type} : Ran κ → Ended κ
  | done s => .done s.scene
  | stopped reason s => .stopped reason s.scene

/-- Conditions are counted alike, if they are counted at all. -/
structure SameCount {κ : Type} (s t : Session κ) : Prop where
  strict : t.blocks.strict = s.blocks.strict
  depth : s.blocks.strict = true → t.blocks.depth = s.blocks.depth

theorem SameCount.trans {κ : Type} {s t u : Session κ} (first : SameCount s t) (second : SameCount t u) :
    SameCount s u :=
  ⟨second.strict.trans first.strict,
    fun strict => (second.depth (first.strict.trans strict)).trans (first.depth strict)⟩

namespace Session
variable {κ : Type}

inductive Ends (s : Session κ) : Ran κ → Ended κ → Prop
  | done {t} (idle : t.blocks.capture = none) (count : SameCount s t) : Ends s (.done t) (.done t.scene)
  | stopped {reason t} (settled : reason.Settled) : Ends s (.stopped reason t) (.stopped reason t.scene)

theorem Ends.ran_ended {s : Session κ} {ran : Ran κ} {ended : Ended κ} (ends : Ends s ran ended) :
    ran.ended = ended := by
  cases ends <;> rfl

private theorem Ends.from_count {s inner : Session κ} {ran : Ran κ} {ended : Ended κ} (ends : Ends inner ran ended)
    (same : SameCount s inner) : Ends s ran ended := by
  cases ends with
  | done idle count => exact .done idle (same.trans count)
  | stopped settled => exact .stopped settled

private theorem Ends.mapSession {s : Session κ} {ran : Ran κ} {ended : Ended κ} {unwind : Session κ → Session κ}
    {change : Scene κ → Scene κ} (ends : Ends s ran ended) (scene : ∀ t, (unwind t).scene = change t.scene)
    (blocks : ∀ t, (unwind t).blocks = t.blocks) : Ends s (ran.mapSession unwind) (ended.mapScene change) := by
  cases ends with
  | @done t idle count =>
    simp only [Ran.mapSession, Ended.mapScene, ← scene]
    exact .done (by rw [blocks]; exact idle) ⟨by rw [blocks]; exact count.strict, by rw [blocks]; exact count.depth⟩
  | stopped settled =>
    simp only [Ran.mapSession, Ended.mapScene, ← scene]
    exact .stopped settled

variable [Canvas κ]

/-- The lines end so in the session, whatever lines come after them. -/
def Comes (run : Runner κ) (lines : List SourceLine) (s : Session κ) : Ended κ → Prop
  | .done scene => ∃ t, t.scene = scene ∧ t.blocks.capture = none ∧ SameCount s t ∧
      ∀ tail, scan run 0 (lines ++ tail) s = scan run 0 tail t
  | .stopped reason scene => reason.Settled ∧ ∃ t, t.scene = scene ∧
      ∀ tail, scan run 0 (lines ++ tail) s = .stopped reason t

section
variable {run : Runner κ} {line : SourceLine} {lines more : List SourceLine} {s t : Session κ} {reason : Stop}
  {scene : Scene κ} {ended : Ended κ}

private theorem comes_next (stepped : s.step run line = .next t) (idle : t.blocks.capture = none)
    (count : SameCount s t) : Comes run [line] s (.done t.scene) :=
  ⟨t, rfl, idle, count, fun _ => scan_next stepped⟩

private theorem comes_stop (stepped : s.step run line = .stop reason t) :
    Comes run [line] s (.stopped (reason.attach line) t.scene) :=
  ⟨reason.attach_settled line, t, rfl, fun _ => scan_stop stepped⟩

private theorem Comes.after (passed : ∀ tail, scan run 0 (lines ++ tail) s = scan run 0 tail t)
    (count : SameCount s t) (comes : Comes run more t ended) : Comes run (lines ++ more) s ended := by
  cases ended with
  | done scene =>
    obtain ⟨u, same, idle, further, scanned⟩ := comes
    exact ⟨u, same, idle, count.trans further, fun tail => by rw [List.append_assoc, passed, scanned]⟩
  | stopped reason scene =>
    obtain ⟨settled, u, same, scanned⟩ := comes
    exact ⟨settled, u, same, fun tail => by rw [List.append_assoc, passed, scanned]⟩

private theorem Comes.append_stopped (comes : Comes run lines s (.stopped reason scene)) (more : List SourceLine) :
    Comes run (lines ++ more) s (.stopped reason scene) := by
  obtain ⟨settled, t, same, scanned⟩ := comes
  exact ⟨settled, t, same, fun tail => by rw [List.append_assoc, scanned]⟩

theorem Comes.ends (comes : Comes run lines s ended) : Ends s (scan run 0 lines s) ended := by
  cases ended with
  | done scene =>
    obtain ⟨t, rfl, idle, count, scanned⟩ := comes
    rw [← List.append_nil lines, scanned]
    exact .done idle count
  | stopped reason scene =>
    obtain ⟨settled, t, rfl, scanned⟩ := comes
    rw [← List.append_nil lines, scanned]
    exact .stopped settled

private theorem comes_nested {ran : Ran κ} (stepped : s.step run line = ran.step) (ends : Ends s ran ended) :
    Comes run [line] s ended := by
  cases ends with
  | done idle count => exact comes_next stepped idle count
  | stopped settled =>
    have comes := comes_stop stepped
    rwa [settled line] at comes

/-! Plain lines. -/

private theorem comes_malformed {cause : Cause} (idle : s.blocks.capture = none)
    (unread : Command.parse line.text = .error cause) : Comes run [line] s (.stopped (cause.stopAt line) s.scene) :=
  comes_stop (step_malformed idle unread)

private theorem comes_effect {command : Command} {effect : Except Cause Effect} (idle : s.blocks.capture = none)
    (read : Command.parse line.text = .ok command) (found : command.effect? s.scope.vars s.pen = some effect) :
    Comes run [line] s (s.scene.enact line effect) := by
  have stepped : s.step run line = _ := step_effect idle read found
  cases effect with
  | error cause => exact comes_stop stepped
  | ok effect =>
    have scene : (s.noted line).canvas = s.scene.canvas := rfl
    simp only [State.enact, scene] at stepped
    simp only [Scene.enact]
    cases painted : State.paint effect s.scene.canvas with
    | error fault =>
      rw [painted] at stepped
      exact comes_stop stepped
    | ok canvas =>
      rw [painted] at stepped
      exact comes_next stepped idle ⟨rfl, fun _ => rfl⟩

private theorem comes_operand {name : String} {args : List String} {cause : Cause} (idle : s.blocks.capture = none)
    (read : Command.parse line.text = .ok (.call name args))
    (failed : args.mapM s.scope.vars.resolve = .error cause) :
    Comes run [line] s (.stopped (cause.stopAt line) s.scene) := by
  have numbers : (s.noted line).numbers args = .error (.ofCause cause) := by
    rw [State.numbers_eq]
    exact congrArg (Except.mapError Stop.ofCause) failed
  have stepped : s.step run line = .stop (.ofCause cause) (s.noted line) := by
    rw [step_command idle read]
    simp only [perform, call, numbers, Ran.step]
  exact comes_stop stepped

private theorem step_called {name : String} {args : List String} {values : List Float}
    (idle : s.blocks.capture = none) (read : Command.parse line.text = .ok (.call name args))
    (given : args.mapM s.scope.vars.resolve = .ok values) :
    s.step run line = (invoke run name values (s.noted line)).step := by
  have numbers : (s.noted line).numbers args = .ok values := by
    rw [State.numbers_eq]
    exact congrArg (Except.mapError Stop.ofCause) given
  rw [step_command idle read]
  simp only [perform, call, numbers]

private theorem comes_refused {name : String} {args : List String} {values : List Float} {cause : Cause}
    (idle : s.blocks.capture = none) (read : Command.parse line.text = .ok (.call name args))
    (given : args.mapM s.scope.vars.resolve = .ok values) (refused : s.scope.enter name values = .error cause) :
    Comes run [line] s (.stopped (cause.stopAt line) s.scene) := by
  have stepped : s.step run line = .stop (.ofCause cause) (s.noted line) := by
    have enter : (s.noted line).scope.enter name values = .error cause := refused
    rw [step_called idle read given]
    simp only [invoke, enter, Ran.step]
  exact comes_stop stepped

private theorem comes_call {name : String} {args : List String} {values : List Float} {entered : Scope.Entered}
    (idle : s.blocks.capture = none) (read : Command.parse line.text = .ok (.call name args))
    (given : args.mapM s.scope.vars.resolve = .ok values) (begun : s.scope.enter name values = .ok entered)
    (ends : ∀ t : Session κ, t.scene = { s.scene with scope := entered.scope } → t.blocks.capture = none →
      Ends t (run entered.method.body t) ended) :
    Comes run [line] s
      (ended.mapScene fun scene => { scene with scope := scene.scope.leave entered.hidden }) := by
  have stepped : s.step run line =
      ((run entered.method.body { s.noted line with scope := entered.scope }).mapSession
      fun s => { s with scope := s.scope.leave entered.hidden }).step := by
    have enter : (s.noted line).scope.enter name values = .ok entered := begun
    rw [step_called idle read given]
    simp only [invoke, enter]
  have inner : Ends s (run entered.method.body { s.noted line with scope := entered.scope }) ended :=
    (ends { s.noted line with scope := entered.scope } rfl idle).from_count ⟨rfl, fun _ => rfl⟩
  exact comes_nested stepped (inner.mapSession (fun _ => rfl) fun _ => rfl)

/-! Conditions. -/

section
variable {opener closer : SourceLine} {test : Condition} {body : List SourceLine}

private theorem comes_undecided {cause : Cause} (idle : s.blocks.capture = none)
    (read : Command.parse opener.text = .ok (.condition test))
    (evaluated : test.evaluate s.scope.vars = .error cause) :
    Comes run [opener] s (.stopped (cause.stopAt opener) s.scene) := by
  have stepped : s.step run opener = .stop (.ofCause cause) (s.noted opener) := by
    have failed : test.evaluate (s.noted opener).scope.vars = .error cause := evaluated
    rw [step_command idle read]
    simp only [perform, enterCondition, failed]
  exact comes_stop stepped

/-- A false condition: the search for its `endif` passes over its block. -/
private theorem comes_fails (idle : s.blocks.capture = none)
    (read : Command.parse opener.text = .ok (.condition test))
    (evaluated : test.evaluate s.scope.vars = .ok false) (balanced : Balanced body)
    (closes : leadingKeyword? closer.text = some .endCondition) :
    Comes run (opener :: (body ++ [closer])) s (.done s.scene) := by
  have stepped : s.step run opener = .skip (s.noted opener) := by
    have failed : test.evaluate (s.noted opener).scope.vars = .ok false := evaluated
    rw [step_command idle read]
    simp only [perform, enterCondition, failed]
  refine ⟨{ s.noted opener with blocks := s.blocks.skipCondition }, rfl,
    (Blocks.skipCondition_capture _).trans idle, ?_, ?_⟩
  · unfold Blocks.skipCondition
    cases strict : s.blocks.strict with
    | true => exact ⟨by simp [strict], by simp [strict]⟩
    | false => exact ⟨by simp [strict], by simp [strict]⟩
  · intro tail
    have found : linesToEndif 0 (body ++ closer :: tail) = some (1 + body.length) := by
      rw [balanced]
      simp only [linesToEndif, closes, Option.map_some]
    have passed : (body ++ closer :: tail).drop (1 + body.length) = tail := by
      simp [List.drop_append, Nat.add_comm]
    simp only [List.cons_append, List.append_assoc, List.nil_append]
    rw [scan_skip stepped found, passed]
    rfl

private theorem exitCondition_entered {blocks inner : Blocks} (strict : inner.strict = blocks.enterCondition.strict)
    (depth : blocks.enterCondition.strict = true → inner.depth = blocks.enterCondition.depth) :
    ∃ left, inner.exitCondition = .ok left ∧ (blocks.strict = true → left.depth = blocks.depth) := by
  unfold Blocks.exitCondition
  cases counted : blocks.strict with
  | false =>
    rw [strict.trans counted]
    exact ⟨_, rfl, by simp⟩
  | true =>
    rw [strict.trans counted, depth counted]
    exact ⟨_, rfl, fun _ => rfl⟩

/-- A condition that holds: what its block does, between the two lines that count it. -/
private theorem comes_holds (idle : s.blocks.capture = none)
    (read : Command.parse opener.text = .ok (.condition test))
    (evaluated : test.evaluate s.scope.vars = .ok true) (closes : Command.parse closer.text = .ok .endCondition)
    (comes : ∀ t : Session κ, t.scene = s.scene → t.blocks.capture = none → Comes run body t ended) :
    Comes run (opener :: (body ++ [closer])) s ended := by
  have stepped : s.step run opener = .next { s.noted opener with blocks := s.blocks.enterCondition } := by
    have held : test.evaluate (s.noted opener).scope.vars = .ok true := evaluated
    rw [step_command idle read]
    simp only [perform, enterCondition, held]
    rfl
  have inner := comes { s.noted opener with blocks := s.blocks.enterCondition } rfl idle
  cases ended with
  | stopped reason scene =>
    obtain ⟨settled, t, same, scanned⟩ := inner
    refine ⟨settled, t, same, fun tail => ?_⟩
    rw [List.cons_append, scan_next stepped, List.append_assoc, scanned]
  | done scene =>
    obtain ⟨t, same, idle', count, scanned⟩ := inner
    obtain ⟨left, exits, depth⟩ := exitCondition_entered count.strict count.depth
    obtain ⟨capture, strict⟩ := Blocks.exitCondition_capture exits
    obtain ⟨log, next⟩ := exitCondition_ok (s := t.noted closer) exits
    have closed : t.step run closer = .next { t.noted closer with blocks := left, log } := by
      rw [step_command idle' closes]
      exact next
    refine ⟨{ t.noted closer with blocks := left, log }, same, capture.trans idle',
      ⟨strict.trans count.strict, depth⟩, fun tail => ?_⟩
    rw [List.cons_append, scan_next stepped, List.append_assoc, scanned, List.singleton_append, scan_next closed]

end

/-! Loops and methods. -/

section
variable {opener closer : SourceLine} {body : List SourceLine}

/-- The lines up to the end of a block are collected, and the last line finishes it. -/
private theorem comes_enclosed (opening : Opening) (idle : s.blocks.capture = none)
    (read : Command.parse opener.text = .ok opening.command)
    (inert : ∀ l ∈ body, l.Inert) (closes : leadingKeyword? closer.text = some opening.kind.closer)
    (finishes : ∀ u : Session κ, u.scene = s.scene → SameCount s u →
      u.step run closer = (finishBlock run ⟨opening, body⟩ u.released).step → Comes run [closer] u ended) :
    Comes run (opener :: (body ++ [closer])) s ended := by
  have opened : s.step run opener = _ := step_opens idle read
  have passed : ∀ tail, scan run 0 ((opener :: body) ++ tail) s = scan run 0 tail { s.noted opener with blocks :=
      { s.blocks with capture := some ⟨opening, body⟩ } } := by
    intro tail
    rw [List.cons_append, scan_next opened, scan_collected rfl inert]
    rfl
  exact Comes.after passed ⟨rfl, fun _ => rfl⟩ (finishes _ rfl ⟨rfl, fun _ => rfl⟩ (step_finished rfl closes))

private theorem comes_loop (idle : s.blocks.capture = none) (read : Command.parse opener.text = .ok .loop)
    (inert : ∀ l ∈ body, l.Inert) (closes : leadingKeyword? closer.text = some .endLoop)
    (ends : ∀ t : Session κ, t.scene = s.scene → t.blocks.capture = none → Ends t (run body t) ended) :
    Comes run (opener :: (body ++ [closer])) s ended := by
  refine comes_enclosed .loop idle read inert closes fun u same count stepped => ?_
  rw [finishBlock_loop rfl] at stepped
  have inner := ends (u.released.replaying ⟨.loop, body⟩) same rfl
  exact comes_nested stepped (inner.from_count ⟨rfl, fun _ => rfl⟩)

private theorem comes_defines {name : String} {params : List String} {scope : Scope} (idle : s.blocks.capture = none)
    (read : Command.parse opener.text = .ok (.method name params)) (inert : ∀ l ∈ body, l.Inert)
    (closes : leadingKeyword? closer.text = some .endMethod)
    (defined : s.scope.define ⟨name, params, body⟩ = .ok scope) :
    Comes run (opener :: (body ++ [closer])) s (.done { s.scene with scope }) := by
  refine comes_enclosed (.method name params) idle read inert closes fun u same count stepped => ?_
  have scope' : u.released.scope.define ⟨name, params, body⟩ = .ok scope := by
    rw [← defined]
    exact congrArg (fun scene : Scene κ => scene.scope.define ⟨name, params, body⟩) same
  rw [finishBlock_method rfl, defineMethod, scope'] at stepped
  rw [← same]
  exact comes_next stepped rfl ⟨rfl, fun _ => rfl⟩

private theorem comes_duplicate {name : String} {params : List String} {cause : Cause}
    (idle : s.blocks.capture = none)
    (read : Command.parse opener.text = .ok (.method name params)) (inert : ∀ l ∈ body, l.Inert)
    (closes : leadingKeyword? closer.text = some .endMethod)
    (refused : s.scope.define ⟨name, params, body⟩ = .error cause) :
    Comes run (opener :: (body ++ [closer])) s (.stopped (cause.stopAt closer) s.scene) := by
  refine comes_enclosed (.method name params) idle read inert closes fun u same count stepped => ?_
  have scope' : u.released.scope.define ⟨name, params, body⟩ = .error cause := by
    rw [← refused]
    exact congrArg (fun scene : Scene κ => scene.scope.define ⟨name, params, body⟩) same
  rw [finishBlock_method rfl, defineMethod, scope'] at stepped
  rw [← same]
  exact comes_stop stepped

end

end

end Session

/-! From the tree to its lines. -/

section
variable {κ : Type} [Canvas κ]

/-- In any session that shows the scene and has no block open, the lines end so, if runs may be nested
deep enough. -/
def Realized (lines : List SourceLine) (scene : Scene κ) (ended : Ended κ) : Prop :=
  ∃ enough, ∀ depth ≥ enough, ∀ s : Session κ, s.scene = scene → s.blocks.capture = none →
    Session.Comes (Session.runLines depth) lines s ended

private theorem Realized.of_comes {lines : List SourceLine} {scene : Scene κ} {ended : Ended κ}
    (comes : ∀ (run : Session.Runner κ) (s : Session κ), s.scene = scene → s.blocks.capture = none →
      Session.Comes run lines s ended) : Realized lines scene ended :=
  ⟨0, fun _ _ s same idle => comes _ s same idle⟩

theorem Realized.ends {lines : List SourceLine} {scene : Scene κ} {ended : Ended κ}
    (realized : Realized lines scene ended) : ∃ enough, ∀ depth ≥ enough, ∀ s : Session κ, s.scene = scene →
      s.blocks.capture = none → Session.Ends s (Session.runLines depth lines s) ended := by
  obtain ⟨enough, comes⟩ := realized
  refine ⟨enough + 1, fun depth bound s same idle => ?_⟩
  obtain ⟨depth, rfl⟩ : ∃ less, depth = less + 1 := ⟨depth - 1, by omega⟩
  exact (comes depth (by omega) s same idle).ends

mutual
theorem Item.Runs.realized {outer : Bool} {item : Item outer} {scene : Scene κ} {ended : Ended κ} :
    item.Runs scene ended → Realized item.lines scene ended
  | .malformed unread => .of_comes fun run s same idle => by
    subst same
    exact Session.comes_malformed idle unread
  | .effect read found => .of_comes fun run s same idle => by
    subst same
    exact Session.comes_effect idle read found
  | .operand read failed => .of_comes fun run s same idle => by
    subst same
    exact Session.comes_operand idle read failed
  | .refused read given refused => .of_comes fun run s same idle => by
    subst same
    exact Session.comes_refused idle read given refused
  | .call read given begun lines ran => by
    obtain ⟨enough, ends⟩ := ran.realized.ends
    refine ⟨enough, fun depth bound s same idle => ?_⟩
    subst same
    exact Session.comes_call idle read given begun (by rw [lines]; exact ends depth bound)
  | .holds evaluated ran => by
    obtain ⟨enough, comes⟩ := ran.realized
    refine ⟨enough, fun depth bound s same idle => ?_⟩
    subst same
    exact Session.comes_holds idle (ConditionLine.read _) evaluated (Delimiter.read _ rfl rfl) (comes depth bound)
  | .fails evaluated => .of_comes fun run s same idle => by
    subst same
    exact Session.comes_fails idle (ConditionLine.read _) evaluated (Block.balanced _) (Delimiter.leading _)
  | .undecided evaluated => .of_comes fun run s same idle => by
    subst same
    exact (Session.comes_undecided idle (ConditionLine.read _) evaluated).append_stopped _
  | .loop ran => by
    obtain ⟨enough, ends⟩ := ran.realized.ends
    refine ⟨enough, fun depth bound s same idle => ?_⟩
    subst same
    exact Session.comes_loop idle (Delimiter.read _ rfl rfl) (Block.inert _) (Delimiter.leading _) (ends depth bound)
  | .defines defined => .of_comes fun run s same idle => by
    subst same
    exact Session.comes_defines idle (MethodLine.read _) (Block.inert _) (Delimiter.leading _) defined
  | .duplicate refused => .of_comes fun run s same idle => by
    subst same
    exact Session.comes_duplicate idle (MethodLine.read _) (Block.inert _) (Delimiter.leading _) refused
theorem Block.Runs.realized {outer : Bool} {block : Block outer} {scene : Scene κ} {ended : Ended κ} :
    block.Runs scene ended → Realized block.lines scene ended
  | .nil => .of_comes fun run s same idle => ⟨s, same, idle, ⟨rfl, fun _ => rfl⟩, fun _ => rfl⟩
  | .next first later => by
    obtain ⟨enough, comes⟩ := first.realized
    obtain ⟨enough', comes'⟩ := later.realized
    refine ⟨enough + enough', fun depth bound s same idle => ?_⟩
    obtain ⟨t, same', idle', count, passed⟩ := comes depth (by omega) s same idle
    exact .after passed count (comes' depth (by omega) t same' idle')
  | .stop first => by
    obtain ⟨enough, comes⟩ := first.realized
    exact ⟨enough, fun depth bound s same idle => (comes depth bound s same idle).append_stopped _⟩
end

end

end Sketch
