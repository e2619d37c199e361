import Sketch.Proofs.Causes

/-! The lines that a session keeps for later, in the bodies of its methods and in the open block, are
lines that it was given; and an error names a line that was running. Both are kept by every line and
so by every run, however deep the lines call and replay each other. -/
namespace Sketch

/-- Every line that a session keeps is one of the given lines, and can stand in a block. -/
structure Keeps {κ : Type} (given : SourceLine → Prop) (s : Session κ) : Prop where
  bodies : ∀ method ∈ s.scope.methods, ∀ line ∈ method.body, given line ∧ line.Inert
  captured : ∀ capture ∈ s.blocks.capture, ∀ line ∈ capture.lines, given line ∧ line.Inert

def Session.Holds {κ : Type} (s : Session κ) (line : SourceLine) : Prop :=
  (∃ method ∈ s.scope.methods, line ∈ method.body) ∨ ∃ capture ∈ s.blocks.capture, line ∈ capture.lines

/-- An error that names one of the given lines, and what is wrong with its text if that is the error. -/
def Stop.Names (given : SourceLine → Prop) : Stop → Prop
  | script error => ∃ line, given line ∧ error.line = some line.text ∧ error.number = some line.number ∧
      (error.cause.IsTextual → Command.parse line.text = .error error.cause)
  | canvas _ => True
  | tooDeep => True

def Ran.Keeps {κ : Type} (given : SourceLine → Prop) : Ran κ → Prop
  | done s => Sketch.Keeps given s
  | stopped reason s => Sketch.Keeps given s ∧ reason.Names given

def Step.Keeps {κ : Type} (given : SourceLine → Prop) (line : SourceLine) : Step κ → Prop
  | next s => Sketch.Keeps given s
  | skip s => Sketch.Keeps given s
  | stop reason s => Sketch.Keeps given s ∧ (reason.attach line).Names given

section
variable {κ : Type} {given : SourceLine → Prop} {line : SourceLine}

private theorem ofCause_names (known : given line) {cause : Cause}
    (textual : cause.IsTextual → Command.parse line.text = .error cause) :
    ((Stop.ofCause cause).attach line).Names given :=
  ⟨line, known, rfl, rfl, textual⟩

theorem Stop.Names.attach {reason : Stop} (named : reason.Names given) :
    (reason.attach line).Names given := by
  cases reason with
  | script error =>
    obtain ⟨inner, known, text, number, textual⟩ := named
    exact ⟨inner, known, by simp [Located.attach, text], by simp [Located.attach, text, number],
      by simpa [Located.attach, text] using textual⟩
  | canvas => trivial
  | tooDeep => trivial

private theorem Ran.Keeps.step {ran : Ran κ} (kept : ran.Keeps given) : ran.step.Keeps given line := by
  cases ran with
  | done s => exact kept
  | stopped reason s => exact ⟨kept.1, kept.2.attach⟩

theorem Keeps.of_eq {s t : Session κ} (kept : Keeps given s) (methods : t.scope.methods = s.scope.methods)
    (capture : t.blocks.capture = s.blocks.capture) : Keeps given t :=
  ⟨by rw [methods]; exact kept.bodies, by rw [capture]; exact kept.captured⟩

theorem Keeps.body {s : Session κ} (kept : Keeps given s) {name : String} {args : List Float}
    {entered : Scope.Entered} (begun : s.scope.enter name args = .ok entered) :
    ∀ l ∈ entered.method.body, given l ∧ l.Inert :=
  kept.bodies _ (Scope.method?_mem (Scope.enter_ok begun).1).1

theorem Keeps.released {s : Session κ} (kept : Keeps given s) : Keeps given s.released :=
  ⟨kept.bodies, by simp [Session.released]⟩

end

theorem start_keeps {κ : Type} (canvas : κ) (strict : Bool) (given : SourceLine → Prop) :
    Keeps given (Session.start canvas strict) :=
  ⟨by simp [Session.start], by simp [Session.start]⟩

namespace Session
variable {κ : Type} {given : SourceLine → Prop} {run : Runner κ}

def RunKeeps (given : SourceLine → Prop) (run : Runner κ) : Prop :=
  ∀ lines s, (∀ l ∈ lines, given l) → Keeps given s → (run lines s).Keeps given

private theorem defineMethod_keeps {method : Method} {line : SourceLine} {s : Session κ} (known : given line)
    (kept : Keeps given s) (body : ∀ l ∈ method.body, given l ∧ l.Inert) :
    (s.defineMethod method).step.Keeps given line := by
  unfold defineMethod
  split
  · rename_i cause refused
    rw [Scope.define_cause refused]
    exact ⟨kept, ofCause_names known (by simp [Cause.IsTextual, Cause.kind])⟩
  · rename_i scope defined
    obtain rfl := Scope.define_ok defined
    refine ⟨?_, kept.captured⟩
    intro other inside
    rcases List.mem_append.mp inside with old | new
    · exact kept.bodies other old
    · obtain rfl := List.mem_singleton.mp new
      exact body

private theorem finishBlock_keeps {capture : Capture} {line : SourceLine} {s : Session κ}
    (running : RunKeeps given run)
    (known : given line) (kept : Keeps given s) (captured : ∀ l ∈ capture.lines, given l ∧ l.Inert) :
    (finishBlock run capture s).step.Keeps given line := by
  cases opening : capture.opening with
  | loop =>
    rw [finishBlock_loop opening]
    have noted : Keeps given (s.replaying capture) := kept.of_eq rfl rfl
    exact (running _ _ (fun l inside => (captured l inside).1) noted).step
  | method name params =>
    rw [finishBlock_method opening]
    exact defineMethod_keeps known kept captured

private theorem invoke_keeps {name : String} {args : List Float} {line : SourceLine} {s : Session κ}
    (running : RunKeeps given run) (known : given line) (kept : Keeps given s) :
    (invoke run name args s).step.Keeps given line := by
  unfold invoke
  split
  · rename_i cause refused
    exact ⟨kept, ofCause_names known fun textual => absurd textual (Scope.enter_notTextual refused)⟩
  · rename_i entered begun
    obtain ⟨-, -, methods, -⟩ := Scope.enter_ok begun
    have ran := running entered.method.body { s with scope := entered.scope }
      (fun l inside => (kept.body begun l inside).1) (kept.of_eq methods rfl)
    apply Ran.Keeps.step
    cases result : run entered.method.body { s with scope := entered.scope } with
    | done after =>
      rw [result] at ran
      exact Keeps.of_eq ran rfl rfl
    | stopped reason after =>
      rw [result] at ran
      exact ⟨Keeps.of_eq ran.1 rfl rfl, ran.2⟩

private theorem call_keeps {name : String} {args : List String} {line : SourceLine} {s : Session κ}
    (running : RunKeeps given run) (known : given line) (kept : Keeps given s) :
    (s.call run name args).step.Keeps given line := by
  unfold call
  split
  · rename_i reason failed
    obtain ⟨cause, rfl, ordinary⟩ := numbers_error failed
    exact ⟨kept, ofCause_names known fun textual => absurd textual ordinary.notTextual⟩
  · exact invoke_keeps running known kept

private theorem exitCondition_keeps {line : SourceLine} {s : Session κ} (known : given line) (kept : Keeps given s) :
    s.exitCondition.Keeps given line := by
  cases left : s.blocks.exitCondition with
  | ok blocks =>
    obtain ⟨log, next⟩ := exitCondition_ok left
    rw [next]
    exact kept.of_eq rfl (Blocks.exitCondition_capture left).1
  | error cause =>
    rw [exitCondition_error left, Blocks.exitCondition_cause left]
    exact ⟨kept, ofCause_names known (by simp [Cause.IsTextual, Cause.kind])⟩

theorem step_keeps [Canvas κ] (running : RunKeeps given run) {line : SourceLine} (known : given line)
    {s : Session κ} (kept : Keeps given s) : (s.step run line).Keeps given line := by
  have noted : Keeps given (s.noted line) := kept.of_eq rfl rfl
  have ordinary : ∀ {cause : Cause}, ¬ cause.IsTextual → ((Stop.ofCause cause).attach line).Names given :=
    fun other => ofCause_names known fun textual => absurd textual other
  obtain ⟨act, stepped, same⟩ := step_stepped line s
  rw [same]
  cases stepped with
  | nested => exact ⟨kept, ordinary (by simp [Cause.IsTextual, Cause.kind])⟩
  | mismatched => exact ⟨kept, ordinary (by simp [Cause.IsTextual, Cause.kind])⟩
  | finished capture opened =>
    exact finishBlock_keeps running known kept.released (kept.captured capture opened)
  | collected capture opened inert =>
    refine ⟨kept.bodies, ?_⟩
    intro collected held l inside
    obtain rfl := Option.some.inj held
    rcases List.mem_append.mp inside with old | new
    · exact kept.captured capture opened l old
    · obtain rfl := List.mem_singleton.mp new
      exact ⟨known, inert⟩
  | malformed cause idle unread => exact ⟨noted, ofCause_names known fun _ => unread⟩
  | effect command effect idle read found =>
    cases enacted : (s.noted line).enact effect with
    | ok after =>
      obtain ⟨blocks, methods, -⟩ := State.enact_ok enacted
      exact noted.of_eq methods (congrArg Blocks.capture blocks)
    | error reason =>
      refine ⟨noted, ?_⟩
      cases effect with
      | error cause =>
        cases enacted
        exact ordinary (effect_cause found).notTextual
      | ok effect =>
        simp only [State.enact] at enacted
        split at enacted
        · cases enacted
          trivial
        · simp at enacted
  | condition test idle read =>
    unfold enterCondition
    split
    · rename_i cause failed
      exact ⟨noted, ordinary (evaluate_cause failed).notTextual⟩
    · exact noted.of_eq rfl rfl
    · exact noted
  | endif => exact exitCondition_keeps known noted
  | opens opening idle read =>
    refine ⟨kept.bodies, ?_⟩
    intro collected held l inside
    obtain rfl := Option.some.inj held
    simp at inside
  | stray => exact ⟨noted, ordinary (by simp [Cause.IsTextual, Cause.kind])⟩
  | calls => exact call_keeps running known noted

private theorem scan_keeps [Canvas κ] (running : RunKeeps given run) : RunKeeps given (scan run 0) := by
  intro lines s known kept
  have scanned := scan_scanned run lines s
  generalize scan run 0 lines s = ran at scanned
  induction scanned with
  | nil => exact kept
  | next stepped _ ih =>
    have step := step_keeps running (known _ List.mem_cons_self) kept
    rw [stepped] at step
    exact ih (fun l inside => known l (List.mem_cons_of_mem _ inside)) step
  | stop stepped =>
    have step := step_keeps running (known _ List.mem_cons_self) kept
    rwa [stepped] at step
  | unclosed stepped missing =>
    have step := step_keeps running (known _ List.mem_cons_self) kept
    rw [stepped] at step
    exact ⟨step, ofCause_names (known _ List.mem_cons_self) (by simp [Cause.IsTextual, Cause.kind])⟩
  | skip stepped found _ ih =>
    have step := step_keeps running (known _ List.mem_cons_self) kept
    rw [stepped] at step
    exact ih (fun l inside => known l (List.mem_cons_of_mem _ (List.mem_of_mem_drop inside)))
      (step.of_eq rfl (Blocks.skipCondition_capture _))

/-- A run over given lines keeps given lines only, and an error names one of them. -/
theorem runLines_keeps [Canvas κ] (depth : Nat) : RunKeeps given (runLines depth : Runner κ) := by
  induction depth with
  | zero => exact fun lines s known kept => ⟨kept, trivial⟩
  | succ depth ih => exact scan_keeps ih

end Session

end Sketch
