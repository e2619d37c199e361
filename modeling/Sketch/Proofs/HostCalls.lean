import Sketch.Canvas.Recording
import Sketch.Proofs.Chunks
import Sketch.Proofs.Deferral
import Sketch.Proofs.Innermost
import Sketch.Proofs.LineLanguage

/-! Calls that a host makes. With no block open they are what a line of a program that calls the method is. With a block
open they are not: the lines of the method go into the block, as the line itself would. -/
namespace Sketch
open Text

/-! A call written on a line of its own. -/

theorem isBlank_of_isLineBreak {c : Char} (breaks : isLineBreak c) : isBlank c := by
  have covered : ∀ range ∈ lineBreakRanges, ∃ blanks ∈ blankRanges, blanks.1 ≤ range.1 ∧ range.2 ≤ blanks.2 := by decide
  simp only [isLineBreak, isBlank, inRanges, List.any_eq_true, Bool.and_eq_true, decide_eq_true_eq] at breaks ⊢
  obtain ⟨range, listed, above, below⟩ := breaks
  obtain ⟨blanks, known, first, last⟩ := covered range listed
  exact ⟨blanks, known, first.trans above, below.trans last⟩

/-- The text of a call: the arguments between parentheses, a comma and a space between them. -/
def callText (name : String) (args : List String) : String :=
  name ++ "(" ++ ", ".intercalate args ++ ")"

private theorem continued_intercalate (arg : String) (args : List String) :
    ∃ rest, (", ".intercalate (arg :: args) ++ ")").toList = arg.toList ++ rest ∧ Continued args rest := by
  induction args generalizing arg with
  | nil => exact ⟨[')'], by simp, .close⟩
  | cons next args ih =>
    obtain ⟨rest, split, later⟩ := ih next
    have gap : IsGap [' '] := ⟨by simp, by simp⟩
    refine ⟨',' :: ([' '] ++ (next.toList ++ rest)), ?_, .more (.inr gap) later⟩
    rw [← split]
    simp

theorem callText_bracketed (name : String) (args : List String) :
    ∃ rest, (callText name args).toList = name.toList ++ rest ∧ Bracketed args rest := by
  cases args with
  | nil => exact ⟨['(', ')'], by simp [callText], .none⟩
  | cons arg args =>
    obtain ⟨rest, split, later⟩ := continued_intercalate arg args
    refine ⟨'(' :: (arg.toList ++ rest), ?_, .some later⟩
    rw [← split]
    simp [callText]

private theorem Continued.unbroken {args : List String} {rest : List Char} (continued : Continued args rest)
    (each : ∀ arg ∈ args, IsOperand arg.toList) : ∀ c ∈ rest, ¬ isLineBreak c := by
  induction continued with
  | close => exact List.forall_mem_singleton.mpr (by decide)
  | @more gap arg args rest gapped _ ih =>
    obtain ⟨first, others⟩ := List.forall_mem_cons.mp each
    intro c inside
    rcases List.mem_cons.mp inside with rfl | inside
    · decide
    · rcases List.mem_append.mp inside with space | inside
      · rcases gapped with rfl | gapped
        · cases space
        · rcases gapped.2 c space with rfl | rfl <;> decide
      · rcases List.mem_append.mp inside with own | later
        · exact mt isBlank_of_isLineBreak (first.solid c own)
        · exact ih others c later

private theorem Bracketed.unbroken {args : List String} {rest : List Char} (bracketed : Bracketed args rest)
    (each : ∀ arg ∈ args, IsOperand arg.toList) : ∀ c ∈ rest, ¬ isLineBreak c := by
  have opening : ¬ isLineBreak '(' := by decide
  cases bracketed with
  | none => exact List.forall_mem_cons.mpr ⟨opening, List.forall_mem_singleton.mpr (by decide)⟩
  | some later =>
    obtain ⟨first, others⟩ := List.forall_mem_cons.mp each
    refine List.forall_mem_cons.mpr ⟨opening, List.forall_mem_append.mpr ⟨?_, later.unbroken others⟩⟩
    exact fun c inside => mt isBlank_of_isLineBreak (first.solid c inside)

theorem splitLines_unbroken {text : List Char} (given : text ≠ []) (unbroken : ∀ c ∈ text, ¬ isLineBreak c) :
    splitLines text = [text] := by
  induction text with
  | nil => exact absurd rfl given
  | cons c rest ih =>
    obtain ⟨first, others⟩ := List.forall_mem_cons.mp unbroken
    have single : c = '\r' → rest.head? ≠ some '\n' := by
      rintro rfl
      exact absurd (by decide) first
    rw [splitLines_cons single, if_neg first]
    cases rest with
    | nil => rfl
    | cons next rest => rw [ih (by simp) others]

theorem splitProgram_line {text : String} (given : text.toList ≠ []) (unbroken : ∀ c ∈ text.toList, ¬ isLineBreak c)
    (head : ∀ c ∈ text.toList.head?, ¬ isBlank c) (last : ∀ c ∈ text.toList.getLast?, ¬ isBlank c) :
    splitProgram text = [⟨1, text⟩] := by
  have trimmed := trim_eq_self head last
  have whole : ¬ text.toList.isEmpty := by simpa using given
  simp only [splitProgram, splitLines_unbroken given unbroken, numberLines, trimmed, String.ofList_toList]
  rw [if_neg whole]

theorem callText_line {name : String} {args : List String} (free : IsFreeName name.toList)
    (operands : ∀ arg ∈ args, IsOperand arg.toList) :
    splitProgram (callText name args) = [⟨1, callText name args⟩] ∧
      Command.parse (callText name args) = .ok (.call name args) := by
  obtain ⟨rest, split, bracketed⟩ := callText_bracketed name args
  have spells := Spells.call free operands bracketed
  have solid : ∀ c ∈ name.toList, ¬ isBlank c := fun c inside => not_isBlank_of_isNameChar (free.1.all c inside)
  have given := free.1.ne_nil
  have head : ∀ c ∈ (callText name args).toList.head?, ¬ isBlank c := by
    intro c first
    rw [split, List.head?_append_of_ne_nil _ given] at first
    exact solid c (List.mem_of_head? first)
  have last : ∀ c ∈ (callText name args).toList.getLast?, ¬ isBlank c := by
    intro c last
    rw [split, List.getLast?_append, bracketed.last] at last
    cases last
    decide
  have unbroken : ∀ c ∈ (callText name args).toList, ¬ isLineBreak c := by
    rw [split]
    refine List.forall_mem_append.mpr ⟨?_, bracketed.unbroken operands⟩
    exact fun c inside => mt isBlank_of_isLineBreak (solid c inside)
  constructor
  · apply splitProgram_line _ unbroken head last
    simp [split, given]
  · apply parse_of_spells
    rw [trim_eq_self head last, split]
    exact spells

/-! The line and the call side by side. -/

private theorem mapM_eq_ok {ε α β : Type} {f : α → Except ε β} {inputs : List α} {outputs : List β}
    (each : List.Forall₂ (fun input output => f input = .ok output) inputs outputs) : inputs.mapM f = .ok outputs := by
  induction each with
  | nil => rfl
  | cons first _ ih =>
    rw [List.mapM_cons, first, ih]
    rfl

theorem Session.numbers_noted {κ : Type} {s : Session κ} {tokens : List String} {values : List Float} (line : SourceLine)
    (resolved : List.Forall₂ (fun token value => s.scope.vars.resolve token = .ok value) tokens values) :
    (s.noted line).numbers tokens = .ok values := by
  have same : (s.noted line).numbers tokens = (tokens.mapM s.scope.vars.resolve).mapError .ofCause := State.numbers_eq _ _
  rw [same, mapM_eq_ok resolved]
  rfl

def sameCanvas (κ : Type) [Canvas κ] : Likeness κ κ where
  canvas canvas other := other = canvas
  refused _ := False
  draw {canvas _} same primitive := by
    rw [same]
    cases Canvas.draw primitive canvas with
    | ok drawn => exact .ok rfl
    | error fault => exact .error fault
  refresh same := congrArg Canvas.refresh same

private theorem Ran.attach_mapSession {κ : Type} (ran : Ran κ) (line : SourceLine) (f : Session κ → Session κ) :
    (ran.mapSession f).attach line = (ran.attach line).mapSession f := by
  cases ran <;> rfl

section
variable {κ : Type} [Canvas κ]

private theorem sameCanvas_runs {ran ran' : Ran κ} (runs : (sameCanvas κ).coupling.Runs ran ran') :
    ran'.reason? = ran.reason? ∧ ran'.session.toState = ran.session.toState := by
  obtain ⟨alike, canvas⟩ := Likeness.alike runs fun _ refused => refused.elim
  refine ⟨alike.reason, ?_⟩
  have scope := alike.scope
  have blocks := alike.blocks
  have pen := alike.pen
  generalize ran'.session.toState = after at *
  generalize ran.session.toState = before at *
  cases after
  cases before
  cases scope
  cases blocks
  cases pen
  cases canvas
  rfl

private theorem Session.toState_conclude (complaint other : String) (ran : Ran κ) :
    (conclude complaint ran).session.toState = (conclude other ran).session.toState := by
  unfold conclude
  split <;> rfl

section
variable {s : Session κ} {text name : String} {line : SourceLine} {tokens : List String} {values : List Float}

/-- A program of one line that is a call calls the method, and gives an error of the call itself the line. -/
theorem Session.attempt_call_line (idle : s.blocks.capture = none) (split : splitProgram text = [line])
    (read : Command.parse line.text = .ok (.call name tokens))
    (resolved : List.Forall₂ (fun token value => s.scope.vars.resolve token = .ok value) tokens values) :
    s.attempt (.program text) = (invoke (runLines (s.allowance [])) name values (s.noted line)).attach line := by
  have numbers := numbers_noted line resolved
  have stepped : s.step (runLines (s.allowance [])) line =
      (invoke (runLines (s.allowance [])) name values (s.noted line)).step := by
    rw [step_command idle read]
    simp only [perform, call, numbers]
  have ran := scan_andThen stepped []
  simp only [attempt, split]
  refine Eq.trans ran ?_
  generalize (invoke (runLines (s.allowance [])) name values (s.noted line)).attach line = attached
  cases attached <;> rfl

private theorem Session.attempt_refused {cause : Cause} (refused : s.scope.enter name values = .error cause) :
    s.attempt (.call name values) = .stopped (.ofCause cause) s := by
  simp only [attempt, invoke, refused]

private theorem Session.invoke_attach_refused {cause : Cause} (refused : s.scope.enter name values = .error cause)
    (depth : Nat) :
    (invoke (runLines depth) name values (s.noted line)).attach line =
      .stopped ((Stop.ofCause cause).attach line) (s.noted line) := by
  have same : (s.noted line).scope.enter name values = .error cause := refused
  simp only [invoke, same, Ran.attach]

/-- Once the call has begun, an error names the lines of the method, and not the line of the call: but for what is noted,
the line and the call are the same run. -/
theorem Session.invoke_attach_begun (s : Session κ) (line : SourceLine) {entered : Scope.Entered}
    (begun : s.scope.enter name values = .ok entered) :
    (sameCanvas κ).coupling.Runs (s.attempt (.call name values))
      ((invoke (runLines (s.allowance [])) name values (s.noted line)).attach line) := by
  have same : (s.noted line).scope.enter name values = .ok entered := begun
  have attached : (invoke (runLines (s.allowance [])) name values (s.noted line)).attach line =
      invoke (runLines (s.allowance [])) name values (s.noted line) := by
    simp only [invoke, same]
    rw [Ran.attach_mapSession, runLines_attach]
  have both : (sameCanvas κ).coupling.Sessions s (s.noted line) := ⟨rfl, rfl, rfl, rfl⟩
  rw [attached]
  exact both.invoke ((sameCanvas κ).coupling.runLines _) name values

theorem Reachable.enter_kind (reachable : Reachable s) {cause : Cause}
    (refused : s.scope.enter name values = .error cause) :
    cause.kind = .undefinedMethod ∨ cause.kind = .arityMismatch := by
  rcases Scope.enter_cause refused with ⟨-, rfl⟩ | ⟨method, -, -, rfl⟩ | ⟨running, -⟩
  · exact .inl rfl
  · exact .inr rfl
  · simp [reachable.active] at running

end

end

/-- In a session that a host can have, with no block open, a program that is one call leaves the state that the host's
call with the values of the arguments leaves. Both end in the same way, but that a call which is refused names the line
in the one case and no line in the other. -/
theorem call_line_agrees_with_host {κ : Type} [Canvas κ] {s : Session κ} (reachable : Reachable s)
    (idle : s.blocks.capture = none) {name : String} {tokens : List String} {values : List Float}
    (free : IsFreeName name.toList) (operands : ∀ token ∈ tokens, IsOperand token.toList)
    (resolved : List.Forall₂ (fun token value => s.scope.vars.resolve token = .ok value) tokens values) :
    let program := s.handle (.program (callText name tokens))
    let host := s.handle (.call name values)
    program.session.toState = host.session.toState ∧
    (∀ entered, s.scope.enter name values = .ok entered → program.reason? = host.reason?) ∧
    ∀ cause, s.scope.enter name values = .error cause →
      (cause.kind = .undefinedMethod ∨ cause.kind = .arityMismatch) ∧
      program.reason? = some (.script ⟨cause, some (callText name tokens), some 1⟩) ∧
      host.reason? = some (.script ⟨cause, none, none⟩) := by
  intro program host
  obtain ⟨split, read⟩ := callText_line free operands
  have line := Session.attempt_call_line idle split read resolved
  have ran : host = Session.conclude _ (s.attempt (.call name values)) := s.handle_eq_conclude _
  have ran' : program = Session.conclude _ (s.attempt (.program (callText name tokens))) := s.handle_eq_conclude _
  rw [line] at ran'
  cases begun : s.scope.enter name values with
  | error cause =>
    rw [ran, ran', Session.attempt_refused begun, Session.invoke_attach_refused begun]
    refine ⟨rfl, (fun entered other => by cases other), ?_⟩
    rintro _ ⟨⟩
    exact ⟨reachable.enter_kind begun, rfl, rfl⟩
  | ok entered =>
    have runs := s.invoke_attach_begun ⟨1, callText name tokens⟩ begun
    obtain ⟨reason, state⟩ := sameCanvas_runs (runs.conclude "script stopped: ")
    rw [Session.reason?_conclude, Session.reason?_conclude] at reason
    refine ⟨?_, fun _ _ => ?_, fun cause other => by cases other⟩
    · rw [ran', ran]
      exact state.trans (Session.toState_conclude _ _ _)
    · rw [ran', ran, Session.reason?_conclude, Session.reason?_conclude]
      exact reason

/-- A call with a variable and a numeral, whose second line draws and whose fourth fails. -/
theorem call_line_agrees_with_host_stopped_inside :
    let s := (Session.start ({} : Recording) false).after
      [.program "var x 3\nmethod m r t\ncircle r\nif r < t\ncircle q\nendif\nendmethod"]
    let program := s.handle (.program "m(x, 4)")
    let host := s.handle (.call "m" [3, 4])
    Reachable s ∧ program.session.toState = host.session.toState ∧ program.reason? = host.reason? ∧
    host.reason? = some (.script ⟨.invalidOperand "q", some "circle q", some 5⟩) := by
  intro s program host
  have reachable : Reachable s := (Reachable.start _ _).after _
  have free : IsFreeName "m".toList := by
    refine ⟨⟨'m', [], rfl, by decide, by simp⟩, fun keyword => ?_⟩
    cases keyword <;> decide
  have operands : ∀ token ∈ ["x", "4"], IsOperand token.toList := by
    refine List.forall_mem_cons.mpr ⟨.inr ⟨'x', [], rfl, by decide, by simp⟩, List.forall_mem_singleton.mpr (.inl ?_)⟩
    have digits : IsDigits ['4'] := ⟨by simp, List.forall_mem_singleton.mpr (by decide)⟩
    exact ⟨[], ['4'], [], rfl, .inl rfl, .whole digits, .none⟩
  have resolved : List.Forall₂ (fun token value => s.scope.vars.resolve token = .ok value) ["x", "4"] [3, 4] :=
    .cons (by decide +kernel) (.cons (by decide +kernel) .nil)
  have idle : s.blocks.capture = none := by decide +kernel
  have found : (s.scope.method? "m").map (·.params) = some ["r", "t"] := by decide +kernel
  obtain ⟨method, found, params⟩ := Option.map_eq_some_iff.mp found
  obtain ⟨entered, begun⟩ : ∃ entered, s.scope.enter "m" [3, 4] = .ok entered :=
    Scope.enter_begins found (by rw [params]; rfl) (by simp [reachable.active])
  obtain ⟨state, reason, -⟩ := call_line_agrees_with_host reachable idle free operands resolved
  exact ⟨reachable, state, reason entered begun, by decide +kernel⟩

/-! A call while a block is open. -/

theorem Variables.get?_bind {vars bindings : Variables} {key : String} (free : key ∉ bindings.names) :
    (vars.bind bindings).get? key = vars.get? key := by
  unfold bind
  unfold names at free
  generalize bindings.entries = entries at free
  induction entries generalizing vars with
  | nil => rfl
  | cons entry entries ih =>
    rw [List.map_cons, List.mem_cons, not_or] at free
    rw [List.foldl_cons, ih free.2, get?_put, if_neg free.1]

theorem Scope.get?_enter_leave {scope : Scope} {name : String} {args : List Float} {entered : Scope.Entered}
    (begun : scope.enter name args = .ok entered) (key : String) :
    (entered.scope.leave entered.hidden).vars.get? key = scope.vars.get? key := by
  have arity := Scope.enter_arity begun
  rw [Scope.get?_leave begun arity]
  split
  · rfl
  · rename_i other
    rw [(Scope.enter_ok_bindings begun).2]
    apply Variables.get?_bind
    rw [Variables.mem_names_ofPairs, List.map_fst_zip (Nat.le_of_eq arity.symm)]
    exact other

section
variable {κ : Type} [Canvas κ] {s : Session κ} {name : String} {args : List Float} {entered : Scope.Entered}

theorem Session.invoke_collects {capture : Capture} (kept : Keeps (fun _ => True) s)
    (opened : s.blocks.capture = some capture) (begun : s.scope.enter name args = .ok entered) (depth : Nat) :
    invoke (runLines (depth + 1)) name args s = .done { s with
      scope := entered.scope.leave entered.hidden
      blocks := { s.blocks with capture := some { capture with lines := capture.lines ++ entered.method.body } } } := by
  have inert : ∀ line ∈ entered.method.body, line.Inert := fun line inside => (kept.body begun line inside).2
  have inside : { s with scope := entered.scope }.blocks.capture = some capture := opened
  have collected : scan (runLines depth) 0 (entered.method.body ++ []) { s with scope := entered.scope } = _ :=
    scan_collected inside inert []
  rw [List.append_nil] at collected
  simp only [invoke, begun]
  exact congrArg _ collected

private theorem Session.capture_conclude (complaint : String) (ran : Ran κ) :
    (conclude complaint ran).session.blocks.capture = ran.session.blocks.capture := by
  unfold conclude
  split <;> rfl

private theorem Session.invoke_idle (kept : Keeps (fun _ => True) s) (idle : s.blocks.capture = none)
    (begun : s.scope.enter name args = .ok entered) (depth : Nat) :
    (invoke (runLines depth) name args s).session.blocks.capture = none := by
  have inert : ∀ line ∈ entered.method.body, line.Inert := fun line inside => (kept.body begun line inside).2
  obtain ⟨-, -, methods, -⟩ := Scope.enter_ok begun
  have within := runLines_within depth entered.method.body { s with scope := entered.scope } inert idle
    (kept.of_eq methods rfl)
  simp only [invoke, begun, Ran.session_mapSession]
  exact within.idle

end

/-- In a session that a host can have, a call that begins puts the lines of its method into the block that is open,
behind those collected before, and does nothing else: none of them is run. A call that is refused leaves the block as it
was. -/
theorem call_fills_open_block {κ : Type} [Canvas κ] {s : Session κ} (reachable : Reachable s) (name : String)
    (args : List Float) :
    let host := s.handle (.call name args)
    (∀ cause, s.scope.enter name args = .error cause → host.session.blocks.capture = s.blocks.capture) ∧
    ∀ entered, s.scope.enter name args = .ok entered →
      host.session.blocks.capture = s.blocks.capture.map (fun capture =>
        { capture with lines := capture.lines ++ entered.method.body }) ∧
      (s.blocks.capture.isSome → host.reason? = none ∧ host.session.blocks.depth = s.blocks.depth ∧
        host.session.pen = s.pen ∧ host.session.canvas = Canvas.refresh s.canvas ∧
        host.session.scope.methods = s.scope.methods ∧
        ∀ key, host.session.scope.vars.get? key = s.scope.vars.get? key) := by
  intro host
  have ran : host = Session.conclude _ (Session.invoke (Session.runLines (s.allowance [])) name args s) := rfl
  constructor
  · intro cause refused
    rw [ran]
    simp only [Session.invoke, refused]
    rfl
  · intro entered begun
    cases opened : s.blocks.capture with
    | none =>
      refine ⟨?_, fun other => by cases other⟩
      have idle := Session.invoke_idle reachable.keeps opened begun (s.allowance [])
      rw [ran, Session.capture_conclude, idle]
      rfl
    | some capture =>
      have collects : Session.invoke (Session.runLines (s.allowance [])) name args s = _ :=
        Session.invoke_collects reachable.keeps opened begun (s.scope.methods.length + 1)
      rw [ran, collects]
      obtain ⟨-, -, methods, -⟩ := Scope.enter_ok begun
      exact ⟨rfl, fun _ => ⟨rfl, rfl, rfl, rfl, methods, Scope.get?_enter_leave begun⟩⟩

/-- The lines of a method in a loop that an earlier program has opened. -/
theorem call_fills_open_block_of_loop :
    let s := (Session.start ({} : Recording) false).after
      [.program "method m x\nif x < 0\ncircle 9\nendif\nendmethod\nloop\ncircle 2"]
    let host := s.handle (.call "m" [1])
    Reachable s ∧ s.blocks.capture = some ⟨.loop, [⟨7, "circle 2"⟩]⟩ ∧
    host.session.blocks.capture =
      some ⟨.loop, [⟨7, "circle 2"⟩, ⟨2, "if x < 0"⟩, ⟨3, "circle 9"⟩, ⟨4, "endif"⟩]⟩ ∧
    host.reason? = none ∧ host.session.canvas = Canvas.refresh s.canvas := by
  intro s host
  have reachable : Reachable s := (Reachable.start _ _).after _
  have opened : s.blocks.capture = some ⟨.loop, [⟨7, "circle 2"⟩]⟩ := by decide +kernel
  have found : s.scope.method? "m" =
      some ⟨"m", ["x"], [⟨2, "if x < 0"⟩, ⟨3, "circle 9"⟩, ⟨4, "endif"⟩]⟩ := by decide +kernel
  -- Nothing below needs the session itself, which would be run to see whether it is the one after the call.
  clear_value s
  obtain ⟨entered, begun⟩ : ∃ entered, s.scope.enter "m" [1] = .ok entered :=
    Scope.enter_begins found rfl (by simp [reachable.active])
  obtain ⟨filled, still⟩ := (call_fills_open_block reachable "m" [1]).2 entered begun
  obtain ⟨ended, -, -, canvas, -⟩ := still (by rw [opened]; rfl)
  have body : entered.method = _ := Option.some.inj ((Scope.enter_ok begun).1.symm.trans found)
  rw [opened, body] at filled
  exact ⟨reachable, opened, filled, ended, canvas⟩

/-- A call need not leave an open block as it was: the loop that it has filled stops at a line of the method, which has
no value for its parameter any more. -/
theorem call_changes_open_loop :
    let s := (Session.start ({} : Recording) false).after
      [.program "method m x\nif x < 0\ncircle 9\nendif\nendmethod\nloop\ncircle 2"]
    let called := (s.handle (.call "m" [1])).session
    called.blocks.capture ≠ s.blocks.capture ∧
    (s.handle (.program "endloop")).reason? = none ∧
    (called.handle (.program "endloop")).reason? =
      some (.script ⟨.invalidOperand "x", some "if x < 0", some 2⟩) := by
  intro s called
  decide +kernel

end Sketch
