import Sketch.Proofs.Allowance
import Sketch.Proofs.Coupling
import Sketch.Proofs.Moments

/-! Blocks defer their lines and lose none of them. From the line that opens a block to the line that closes it,
in however many programs they come, lines are put into the block and nothing else changes. What the block then
comes to is said without one: the lines of a loop run as if they had been given to the session as it was before
the loop, and those of a method are its body. -/
namespace Sketch

namespace Ran
variable {κ : Type}

def andThen (ran : Ran κ) (next : Session κ → Ran κ) : Ran κ :=
  match ran with
  | done s => next s
  | stopped reason s => stopped reason s

def attach (line : SourceLine) : Ran κ → Ran κ
  | done s => done s
  | stopped reason s => stopped (reason.attach line) s

end Ran

namespace Session
variable {κ : Type} [Canvas κ]

/-- Runs lines with the allowance that a session grants them. -/
def runAll (lines : List SourceLine) (s : Session κ) : Ran κ :=
  runLines (s.allowance lines) lines s

theorem scan_andThen {run : Runner κ} {line : SourceLine} {s : Session κ} {ran : Ran κ}
    (stepped : s.step run line = ran.step) (rest : List SourceLine) :
    scan run 0 (line :: rest) s = (ran.attach line).andThen (scan run 0 rest) := by
  cases ran with
  | done after => exact scan_next stepped
  | stopped reason after => exact scan_stop stepped

theorem runLines_attach (depth : Nat) (lines : List SourceLine) (s : Session κ) (line : SourceLine) :
    (runLines depth lines s).attach line = runLines depth lines s := by
  cases depth with
  | zero => rfl
  | succ depth =>
    have scanned := scan_scanned (runLines depth) lines s
    have ran : runLines (depth + 1) lines s = scan (runLines depth) 0 lines s := rfl
    rw [ran]
    generalize scan (runLines depth) 0 lines s = ran at scanned
    induction scanned with
    | nil => rfl
    | next _ _ ih | skip _ _ _ ih => exact ih rfl
    | stop | unclosed =>
      simp only [Ran.attach]
      rw [Stop.attach_settled]

/-- Lines that lead from one session to another, one after the other, whatever would run lines inside them. -/
inductive Passes : List SourceLine → Session κ → Session κ → Prop
  | nil (s) : Passes [] s s
  | cons {line lines s after t} (stepped : ∀ run, s.step run line = .next after) (later : Passes lines after t) :
      Passes (line :: lines) s t

namespace Passes
variable {lines : List SourceLine} {s t : Session κ}

theorem scan (passes : Passes lines s t) (run : Runner κ) (tail : List SourceLine) :
    Session.scan run 0 (lines ++ tail) s = Session.scan run 0 tail t := by
  induction passes with
  | nil => rfl
  | cons stepped _ ih => exact (scan_next (stepped run)).trans ih

private theorem alone {line : SourceLine} (stepped : ∀ run, s.step run line = .next t) : s.nested? line = none := by
  cases found : s.nested? line with
  | none => rfl
  | some nested =>
    -- A runner that stops at once would stop the line.
    have stops := (stepped (runLines 0)).symm.trans (step_of_nested found (runLines 0))
    cases stops

private theorem moves {count : Nat} (passes : Passes (lines.take count) s t) :
    Moment.move^[count] (.running lines s []) = .running (lines.drop count) t [] := by
  induction count generalizing lines s with
  | zero =>
    cases passes
    rfl
  | succ count ih =>
    cases lines with
    | nil =>
      cases passes
      exact Function.iterate_fixed rfl _
    | cons line rest =>
      cases passes with
      | cons stepped later =>
        have moved : (Moment.running (line :: rest) s []).move = .running rest _ [] :=
          (Moment.move_alone (alone stepped) (runLines 0) rest []).trans
            (congrArg (Moment.ofStep line rest []) (stepped _))
        rw [Function.iterate_succ_apply, moved]
        exact ih later

end Passes

end Session

/-- A line that opens a block, and lines that can stand in it. -/
structure Unfinished where
  opener : SourceLine
  opening : Opening
  body : List SourceLine
  opens : Command.parse opener.text = .ok opening.command
  inert : ∀ line ∈ body, line.Inert

namespace Unfinished

def lines (block : Unfinished) : List SourceLine :=
  block.opener :: block.body

/-- What has been collected once so many of the lines are given. -/
def buffer (block : Unfinished) : List SourceLine → Option Capture
  | [] => none
  | _ :: collected => some { opening := block.opening, lines := collected }

/-- What the block comes to: a loop runs its lines, and a method has them as its body, unless there is a method of
its name. -/
def outcome {κ : Type} [Canvas κ] (block : Unfinished) (closer : SourceLine) (s : Session κ) : Ran κ :=
  match block.opening with
  | .loop => s.runAll block.body
  | .method name params =>
    match s.scope.method? name with
    | some _ => .stopped (.script ⟨.duplicateMethod name, some closer.text, some closer.number⟩) s
    | none => .done { s with scope := { s.scope with methods := s.scope.methods ++ [⟨name, params, block.body⟩] } }

end Unfinished

/-- Nothing has changed but what is collected. -/
structure Session.Deferred (s t : Session Recording) (capture : Option Capture) : Prop where
  scope : t.scope = s.scope
  blocks : t.blocks = { s.blocks with capture }
  pen : t.pen = s.pen
  operations : t.canvas.operations = s.canvas.operations

namespace Session.Deferred
variable {s t : Session Recording} {block : Unfinished} {given : List SourceLine}

theorem step (deferred : s.Deferred t (block.buffer given)) {line : SourceLine}
    (start : given ++ [line] <+: block.lines) :
    ∃ after, (∀ run, t.step run line = .next after) ∧ s.Deferred after (block.buffer (given ++ [line])) := by
  have capture : t.blocks.capture = block.buffer given := congrArg Blocks.capture deferred.blocks
  cases given with
  | nil =>
    obtain ⟨rfl, -⟩ := List.cons_prefix_cons.mp start
    refine ⟨_, fun run => step_opens capture block.opens, deferred.scope, ?_, deferred.pen, deferred.operations⟩
    rw [deferred.blocks]
    rfl
  | cons first collected =>
    have inside : line ∈ block.body := by
      obtain ⟨-, later⟩ := List.cons_prefix_cons.mp start
      exact later.subset (by simp)
    refine ⟨_, fun run => step_collected capture (block.inert line inside), deferred.scope, ?_, deferred.pen,
      deferred.operations⟩
    rw [deferred.blocks]
    rfl

theorem passes (deferred : s.Deferred t (block.buffer given)) {lines : List SourceLine}
    (start : given ++ lines <+: block.lines) :
    ∃ after, Passes lines t after ∧ s.Deferred after (block.buffer (given ++ lines)) := by
  induction lines generalizing t given with
  | nil =>
    rw [List.append_nil]
    exact ⟨t, .nil t, deferred⟩
  | cons line lines ih =>
    rw [List.append_cons] at start ⊢
    obtain ⟨next, stepped, collected⟩ := deferred.step ((List.prefix_append _ _).trans start)
    obtain ⟨after, later, last⟩ := ih collected start
    exact ⟨after, .cons stepped later, last⟩

theorem handle (deferred : s.Deferred t (block.buffer given)) {text : String}
    (start : given ++ splitProgram text <+: block.lines) :
    (t.handle (.program text)).reason? = none ∧
      s.Deferred (t.handle (.program text)).session (block.buffer (given ++ splitProgram text)) := by
  obtain ⟨after, passes, collected⟩ := deferred.passes start
  have ran : t.attempt (.program text) = .done after := by
    have scanned := passes.scan (runLines (t.scope.methods.length + (splitProgram text).length + 1)) []
    rw [List.append_nil] at scanned
    exact scanned
  rw [handle_eq_conclude, ran]
  exact ⟨rfl, collected.scope, collected.blocks, collected.pen, collected.operations⟩

theorem after (deferred : s.Deferred t (block.buffer given)) {texts : List String}
    (start : given ++ texts.flatMap splitProgram <+: block.lines) :
    (∀ answer ∈ t.answers (texts.map .program), answer.reason? = none) ∧
      s.Deferred (t.after (texts.map .program)) (block.buffer (given ++ texts.flatMap splitProgram)) := by
  induction texts generalizing t given with
  | nil =>
    refine ⟨by simp [answers], ?_⟩
    rw [List.flatMap_nil, List.append_nil]
    exact deferred
  | cons text texts ih =>
    rw [List.flatMap_cons, ← List.append_assoc] at start ⊢
    obtain ⟨succeeds, collected⟩ := deferred.handle ((List.prefix_append _ _).trans start)
    obtain ⟨later, last⟩ := ih collected start
    exact ⟨List.forall_mem_cons.mpr ⟨succeeds, later⟩, last⟩

private theorem begins (idle : s.blocks.capture = none) : s.Deferred s (block.buffer []) := by
  have none : block.buffer [] = s.blocks.capture := idle.symm
  refine ⟨rfl, ?_, rfl, rfl⟩
  rw [none]

theorem programs (idle : s.blocks.capture = none) {texts : List String} {lines : List SourceLine}
    (start : texts.flatMap splitProgram ++ lines <+: block.lines) :
    (∀ answer ∈ s.answers (texts.map .program), answer.reason? = none) ∧
      (s.after (texts.map .program)).scope = s.scope ∧
      ∃ t, Passes lines (s.after (texts.map .program)) t ∧
        s.Deferred t (block.buffer (texts.flatMap splitProgram ++ lines)) := by
  have begun : s.Deferred s (block.buffer []) := begins idle
  obtain ⟨succeed, collected⟩ := begun.after ((List.prefix_append _ _).trans start)
  exact ⟨succeed, collected.scope, collected.passes start⟩

end Session.Deferred

/-- Recordings of the same operations, however often they were refreshed. -/
def sameOperations : Likeness Recording Recording where
  canvas canvas other := other.operations = canvas.operations
  refused _ := False
  draw same primitive := .ok (congrArg (· ++ [primitive]) same)
  refresh same := same

section
variable {ran ran' : Ran Recording}

private theorem sameOperations_andThen {next next' : Session Recording → Ran Recording}
    (runs : sameOperations.coupling.Runs ran ran')
    (later : ∀ s t, ran = .done s → sameOperations.coupling.Sessions s t →
      sameOperations.coupling.Runs (next s) (next' t)) :
    sameOperations.coupling.Runs (ran.andThen next) (ran'.andThen next') := by
  cases runs with
  | done sessions => exact later _ _ rfl sessions
  | stopped reason sessions => exact .stopped reason sessions
  | parted _ apart =>
    obtain ⟨_, _, refused⟩ := apart
    exact refused.elim

private theorem sameOperations_conclude (runs : sameOperations.coupling.Runs ran ran') (complaint : String) :
    sameOperations.coupling.Runs ran (Session.conclude complaint ran') := by
  cases runs with
  | done sessions => exact .done ⟨sessions.scope, sessions.blocks, sessions.pen, sessions.canvas⟩
  | stopped reason sessions =>
    cases reason <;> exact .stopped _ ⟨sessions.scope, sessions.blocks, sessions.pen, sessions.canvas⟩
  | parted _ apart =>
    obtain ⟨_, _, refused⟩ := apart
    exact refused.elim

end

namespace Unfinished
variable {block : Unfinished} {s : Session Recording} {closer : SourceLine}

private theorem runLines_body (block : Unfinished) (kept : Keeps (fun _ => True) s) (idle : s.blocks.capture = none)
    {depth : Nat} (room : s.scope.methods.length < depth) :
    Session.runLines depth block.body s = s.runAll block.body := by
  have few := s.scope.callable_le
  have fits : (Session.runLines depth block.body s).reason? ≠ some .tooDeep :=
    Session.runLines_fits depth block.body s block.inert idle kept (by omega)
  rcases Nat.le_total depth (s.allowance block.body) with less | more
  · exact (Session.runLines_eq_of_le less fits).symm
  · exact Session.runLines_eq_allowance (fun _ _ => trivial) kept more

private theorem outcome_done (kept : Keeps (fun _ => True) s) (idle : s.blocks.capture = none) {t : Session Recording}
    (ended : block.outcome closer s = .done t) :
    Keeps (fun _ => True) t ∧ t.scope.methods.length ≤ s.scope.methods.length + 1 := by
  cases opening : block.opening with
  | loop =>
    simp only [outcome, opening, Session.runAll] at ended
    have keeps := Session.runLines_keeps (s.allowance block.body) block.body s (fun _ _ => trivial) kept
    have within := Session.runLines_within (s.allowance block.body) block.body s block.inert idle kept
    rw [ended] at keeps within
    refine ⟨keeps, ?_⟩
    have methods : t.scope.methods = s.scope.methods := within.methods
    rw [methods]
    exact Nat.le_succ _
  | method name params =>
    simp only [outcome, opening] at ended
    split at ended
    · cases ended
    · cases ended
      refine ⟨⟨fun method inside => ?_, kept.captured⟩, by simp⟩
      rcases List.mem_append.mp inside with old | new
      · exact kept.bodies method old
      · obtain rfl := List.mem_singleton.mp new
        exact fun line held => ⟨trivial, block.inert line held⟩

end Unfinished

namespace Session.Deferred
variable {s t : Session Recording} {block : Unfinished} {closer : SourceLine}

private theorem released {capture : Option Capture} (deferred : s.Deferred t capture)
    (idle : s.blocks.capture = none) : sameOperations.coupling.Sessions s t.released := by
  refine ⟨deferred.scope, ?_, deferred.pen, deferred.operations⟩
  change { t.blocks with capture := none } = s.blocks
  rw [deferred.blocks, ← idle]

theorem finishBlock (deferred : s.Deferred t (block.buffer block.lines)) (idle : s.blocks.capture = none)
    (kept : Keeps (fun _ => True) s) {depth : Nat} (room : s.scope.methods.length < depth) :
    sameOperations.coupling.Runs (block.outcome closer s)
      ((Session.finishBlock (runLines depth) ⟨block.opening, block.body⟩ t.released).attach closer) := by
  have both := deferred.released idle
  cases opening : block.opening with
  | loop =>
    have direct : block.outcome closer s = s.runAll block.body := by simp only [Unfinished.outcome, opening]
    rw [direct, ← block.runLines_body kept idle room, finishBlock_loop rfl, runLines_attach]
    exact sameOperations.coupling.runLines depth block.body s _
      ⟨both.scope, both.blocks, both.pen, both.canvas⟩
  | method name params =>
    rw [finishBlock_method rfl]
    cases found : s.scope.method? name with
    | some other =>
      have direct : block.outcome closer s =
          .stopped (.script ⟨.duplicateMethod name, some closer.text, some closer.number⟩) s := by
        simp only [Unfinished.outcome, opening, found]
      have refused : t.released.defineMethod ⟨name, params, block.body⟩ =
          .stopped (.ofCause (.duplicateMethod name)) t.released := by
        simp only [defineMethod, Scope.define, both.scope, found, Option.isSome_some, if_true]
      rw [direct, refused]
      exact .stopped _ both
    | none =>
      have defined : t.released.scope.define ⟨name, params, block.body⟩ =
          .ok { s.scope with methods := s.scope.methods ++ [⟨name, params, block.body⟩] } := by
        simp only [Scope.define, both.scope, found, Option.isSome_none, Bool.false_eq_true, if_false]
      simp only [Unfinished.outcome, opening, found, defineMethod, defined]
      exact .done ⟨rfl, both.blocks, both.pen, both.canvas⟩

private theorem closes (deferred : s.Deferred t (block.buffer block.lines)) (idle : s.blocks.capture = none)
    (kept : Keeps (fun _ => True) s) (word : leadingKeyword? closer.text = some block.opening.kind.closer)
    (rest : List SourceLine) {depth : Nat} (room : s.scope.methods.length + rest.length + 2 ≤ depth) :
    sameOperations.coupling.Runs ((block.outcome closer s).andThen (runAll rest))
      (runLines (depth + 1) (closer :: rest) t) := by
  have opened : t.blocks.capture = some ⟨block.opening, block.body⟩ := congrArg Blocks.capture deferred.blocks
  have ran : runLines (depth + 1) (closer :: rest) t = _ := scan_andThen (step_finished opened word) rest
  rw [ran]
  refine sameOperations_andThen (deferred.finishBlock idle kept (by omega)) fun u v ended sessions => ?_
  obtain ⟨keeps, methods⟩ := block.outcome_done kept idle ended
  have direct : runLines (depth + 1) rest u = u.runAll rest :=
    runLines_eq_allowance (fun _ _ => trivial) keeps (by simp only [allowance]; omega)
  rw [← direct]
  exact sameOperations.coupling.runLines (depth + 1) rest u v sessions

end Session.Deferred

/-- In a session with no open block, the lines of a block are collected, in however many programs they come, and until
the closing line nothing changes but what is collected; and once that line is met, all goes on as if the outcome of the
block had come in its place. -/
theorem block_defers {s : Session Recording} (reachable : Reachable s) (idle : s.blocks.capture = none)
    (block : Unfinished) (texts : List String) (text : String) :
    (∀ count, texts.flatMap splitProgram ++ (splitProgram text).take count <+: block.lines →
      (∀ answer ∈ s.answers (texts.map .program), answer.reason? = none) ∧
      ∃ t, Moment.move^[count] (.begin (.program text) (s.after (texts.map .program))) =
          .running ((splitProgram text).drop count) t [] ∧
        s.Deferred t (block.buffer (texts.flatMap splitProgram ++ (splitProgram text).take count))) ∧
    ∀ late closer rest, splitProgram text = late ++ closer :: rest →
      texts.flatMap splitProgram ++ late = block.lines →
      leadingKeyword? closer.text = some block.opening.kind.closer →
      let direct := (block.outcome closer s).andThen (Session.runAll rest)
      let ran := (s.after (texts.map .program)).handle (.program text)
      direct.Alike ran ∧ ran.session.canvas.operations = direct.session.canvas.operations := by
  constructor
  · intro count start
    obtain ⟨succeed, -, t, passes, deferred⟩ := Session.Deferred.programs idle start
    exact ⟨succeed, t, passes.moves, deferred⟩
  · intro late closer rest split whole word direct ran
    have start : texts.flatMap splitProgram ++ late <+: block.lines := whole ▸ List.prefix_rfl
    obtain ⟨-, scope, t, passes, deferred⟩ := Session.Deferred.programs idle start
    rw [whole] at deferred
    have room : (s.after (texts.map .program)).allowance (late ++ closer :: rest) =
        s.scope.methods.length + late.length + rest.length + 2 + 1 := by
      simp only [Session.allowance, scope, List.length_append, List.length_cons]
      omega
    have attempt : (s.after (texts.map .program)).attempt (.program text) =
        Session.runLines (s.scope.methods.length + late.length + rest.length + 2 + 1) (closer :: rest) t := by
      simp only [Session.attempt, split]
      rw [room]
      exact passes.scan _ (closer :: rest)
    have runs : sameOperations.coupling.Runs direct ran := by
      simp only [ran, Session.handle_eq_conclude, attempt]
      exact sameOperations_conclude (deferred.closes idle reachable.keeps word rest (by omega)) _
    exact Likeness.alike runs fun _ refused => refused.elim

/-- A loop in three programs, with a false condition that finds no `endif` among the lines of the loop: one that stands
behind the loop is not taken for it. -/
theorem block_defers_unclosed_condition :
    let block : Unfinished := {
      opener := ⟨1, "loop"⟩
      opening := .loop
      body := [⟨2, "circle 1"⟩, ⟨1, "if 2 < 1"⟩, ⟨2, "circle 2"⟩]
      opens := by decide +kernel
      inert := by decide +kernel }
    let s := Session.start ({} : Recording) true
    let texts := ["loop\ncircle 1", "if 2 < 1\ncircle 2"]
    let ran := (s.after (texts.map .program)).handle (.program "endloop\nendif")
    Reachable s ∧
    (∃ t, Moment.move^[0] (.begin (.program "endloop\nendif") (s.after (texts.map .program))) =
        .running [⟨1, "endloop"⟩, ⟨2, "endif"⟩] t [] ∧ s.Deferred t (some ⟨.loop, block.body⟩)) ∧
    ((s.runAll block.body).andThen (Session.runAll [⟨2, "endif"⟩])).Alike ran ∧
    ran.reason? = some (.script ⟨.unclosedIf, some "if 2 < 1", some 1⟩) ∧ ran.session.canvas.operations.length = 1 := by
  intro block s texts ran
  have reachable : Reachable s := .start _ _
  have lines : splitProgram "endloop\nendif" = [⟨1, "endloop"⟩, ⟨2, "endif"⟩] := by decide +kernel
  have whole : texts.flatMap splitProgram ++ [] = block.lines := by decide +kernel
  obtain ⟨collects, closes⟩ := block_defers reachable rfl block texts "endloop\nendif"
  obtain ⟨-, t, moment, deferred⟩ := collects 0 (by rw [List.take_zero, whole])
  rw [List.drop_zero, lines] at moment
  rw [List.take_zero, whole] at deferred
  obtain ⟨alike, -⟩ := closes [] ⟨1, "endloop"⟩ [⟨2, "endif"⟩] lines whole (by decide +kernel)
  exact ⟨reachable, ⟨t, moment, deferred⟩, alike, by decide +kernel, by decide +kernel⟩

end Sketch
