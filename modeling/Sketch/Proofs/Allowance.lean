import Sketch.Session
import Sketch.Proofs.Kept

/-! The allowance for nested runs is only a bound. A run that keeps within its allowance ends the same
way with a larger one; and the allowance that a session grants always suffices, because a method that
runs cannot be called again, so that every call leaves fewer methods to call. -/
namespace Sketch

namespace Session
variable {κ : Type} [Canvas κ]

/-! A larger allowance. -/

/-- A line runs at most one row of further lines, whatever runs them. -/
theorem step_nests (line : SourceLine) (s : Session κ) :
    (∃ result, ∀ run, s.step run line = result) ∨
      ∃ lines inner unwind, ∀ run : Runner κ, s.step run line = ((run lines inner).mapSession unwind).step := by
  obtain ⟨act, stepped, same⟩ := step_stepped line s
  cases stepped with
  | finished capture opened word =>
    cases opening : capture.opening with
    | loop =>
      refine .inr ⟨capture.lines, s.released.replaying capture, id, fun run => (same run).trans ?_⟩
      simp only [finishBlock_loop opening]
      cases run capture.lines (s.released.replaying capture) <;> rfl
    | method name params =>
      refine .inl ⟨(s.released.defineMethod ⟨name, params, capture.lines⟩).step, fun run => (same run).trans ?_⟩
      simp only [finishBlock_method opening]
  | calls name args idle read =>
    cases given : (s.noted line).numbers args with
    | error reason => exact .inl ⟨_, fun run => (same run).trans (by simp only [call, given]; rfl)⟩
    | ok values =>
      cases begun : (s.noted line).scope.enter name values with
      | error cause => exact .inl ⟨_, fun run => (same run).trans (by simp only [call, given, invoke, begun]; rfl)⟩
      | ok entered =>
        exact .inr ⟨_, _, _, fun run => (same run).trans (by simp only [call, given, invoke, begun]; rfl)⟩
  | nested | mismatched | collected | malformed | effect | condition | endif | opens | stray =>
    exact .inl ⟨_, same⟩

/-- The second runner ends as the first does, unless the first is nested too deep. -/
def Outlasts (run longer : Runner κ) : Prop :=
  ∀ lines s, run lines s = longer lines s ∨ ∃ t, run lines s = .stopped .tooDeep t

private theorem Outlasts.step {run longer : Runner κ} (outlasts : Outlasts run longer) (line : SourceLine)
    (s : Session κ) : s.step run line = s.step longer line ∨ ∃ t, s.step run line = .stop .tooDeep t := by
  rcases step_nests line s with ⟨result, same⟩ | ⟨lines, inner, unwind, same⟩
  · exact .inl (by rw [same, same])
  · rw [same, same]
    rcases outlasts lines inner with equal | ⟨t, deep⟩
    · exact .inl (by rw [equal])
    · exact .inr ⟨unwind t, by rw [deep]; rfl⟩

private theorem Outlasts.step_eq {run longer : Runner κ} (outlasts : Outlasts run longer) {line : SourceLine}
    {s : Session κ} {result : Step κ} (stepped : s.step run line = result)
    (shallow : ∀ t, result ≠ .stop .tooDeep t) : s.step longer line = result := by
  rcases outlasts.step line s with same | ⟨t, deep⟩
  · exact same.symm.trans stepped
  · exact absurd (stepped.symm.trans deep) (shallow t)

private theorem Outlasts.scan {run longer : Runner κ} (outlasts : Outlasts run longer) :
    Outlasts (scan run 0) (scan longer 0) := by
  intro lines s
  have scanned := scan_scanned run lines s
  generalize Session.scan run 0 lines s = ran at scanned
  induction scanned with
  | nil => exact .inl rfl
  | next stepped _ ih =>
    rw [scan_next (outlasts.step_eq stepped (by simp))]
    exact ih
  | @stop line rest s reason after stepped =>
    rcases outlasts.step line s with same | ⟨t, deep⟩
    · exact .inl (scan_stop (same.symm.trans stepped)).symm
    · rw [stepped] at deep
      cases deep
      exact .inr ⟨after, rfl⟩
  | unclosed stepped missing =>
    exact .inl (scan_unclosed (outlasts.step_eq stepped (by simp)) missing).symm
  | skip stepped found _ ih =>
    rw [scan_skip (outlasts.step_eq stepped (by simp)) found]
    exact ih

theorem runLines_outlasts (depth more : Nat) : Outlasts (runLines depth : Runner κ) (runLines (depth + more)) := by
  induction depth with
  | zero => exact fun lines s => .inr ⟨s, rfl⟩
  | succ depth ih =>
    rw [Nat.succ_add]
    exact ih.scan

theorem runLines_eq_of_le {depth more : Nat} (le : depth ≤ more) {lines : List SourceLine} {s : Session κ}
    (within : (runLines depth lines s).reason? ≠ some .tooDeep) :
    runLines more lines s = runLines depth lines s := by
  obtain ⟨extra, rfl⟩ := Nat.exists_eq_add_of_le le
  rcases runLines_outlasts depth extra lines s with same | ⟨t, deep⟩
  · exact same.symm
  · exact absurd (by rw [deep]; rfl) within

end Session

/-- The methods that can be called: a running method cannot. -/
def Scope.callable (scope : Scope) : List Method :=
  scope.methods.filter fun method => !scope.active.contains method.name

theorem Scope.callable_le (scope : Scope) : scope.callable.length ≤ scope.methods.length :=
  List.length_filter_le _ _

theorem Scope.callable_enter {scope : Scope} {name : String} {args : List Float} {entered : Entered}
    (begun : scope.enter name args = .ok entered) : entered.scope.callable.length < scope.callable.length := by
  obtain ⟨found, idle, methods, active⟩ := enter_ok begun
  obtain ⟨inside, named⟩ := method?_mem found
  have fewer : entered.scope.callable = scope.callable.filter (·.name != name) := by
    simp only [callable, methods, active, List.filter_filter, List.contains_cons, Bool.not_or]
    rfl
  rw [fewer, List.length_filter_lt_length_iff_exists]
  refine ⟨entered.method, List.mem_filter.mpr ⟨inside, ?_⟩, ?_⟩
  · simpa [named] using idle
  · simp [named]

/-- Where the lines of a block can lead: the same methods, the same running calls, no open block. -/
structure Within {κ : Type} (s t : Session κ) : Prop where
  methods : t.scope.methods = s.scope.methods
  active : t.scope.active = s.scope.active
  idle : t.blocks.capture = none

namespace Within
variable {κ : Type} {s t u : Session κ}

theorem trans (first : Within s t) (second : Within t u) : Within s u :=
  ⟨second.methods.trans first.methods, second.active.trans first.active, second.idle⟩

private theorem keeps {given : SourceLine → Prop} (within : Within s t) (kept : Keeps given s) : Keeps given t :=
  ⟨by rw [within.methods]; exact kept.bodies, by simp [within.idle]⟩

private theorem callable (within : Within s t) : t.scope.callable = s.scope.callable := by
  simp only [Scope.callable, within.methods, within.active]

end Within

namespace Session
variable {κ : Type} {given : SourceLine → Prop}

def RunWithin (given : SourceLine → Prop) (run : Runner κ) : Prop :=
  ∀ lines s, (∀ l ∈ lines, l.Inert) → s.blocks.capture = none → Keeps given s → Within s (run lines s).session

private theorem call_within {run : Runner κ} {name : String} {args : List String} {s : Session κ}
    (running : RunWithin given run)
    (idle : s.blocks.capture = none) (kept : Keeps given s) : Within s (s.call run name args).session := by
  have unchanged : Within s s := ⟨rfl, rfl, idle⟩
  unfold call
  split
  · exact unchanged
  · unfold invoke
    split
    · exact unchanged
    · rename_i entered begun
      obtain ⟨-, -, methods, active⟩ := Scope.enter_ok begun
      have inner := running entered.method.body { s with scope := entered.scope }
        (fun l inside => (kept.body begun l inside).2) idle (kept.of_eq methods rfl)
      rw [Ran.session_mapSession]
      refine ⟨inner.methods.trans methods, ?_, inner.idle⟩
      exact (congrArg List.tail inner.active).trans (congrArg List.tail active)

private theorem enact_within [Canvas κ] {s : Session κ} {effect : Except Cause Effect}
    (idle : s.blocks.capture = none) : Within s (s.atOnce (s.enact effect)).session := by
  cases enacted : s.enact effect with
  | error reason => exact ⟨rfl, rfl, idle⟩
  | ok after =>
    obtain ⟨blocks, methods, active⟩ := State.enact_ok enacted
    exact ⟨methods, active, (congrArg Blocks.capture blocks).trans idle⟩

private theorem enterCondition_within {s : Session κ} {test : Condition} (idle : s.blocks.capture = none) :
    Within s (s.enterCondition test).session := by
  unfold enterCondition
  split <;> exact ⟨rfl, rfl, idle⟩

private theorem exitCondition_within {s : Session κ} (idle : s.blocks.capture = none) :
    Within s s.exitCondition.session := by
  cases left : s.blocks.exitCondition with
  | ok blocks =>
    obtain ⟨log, next⟩ := exitCondition_ok left
    rw [next]
    exact ⟨rfl, rfl, (Blocks.exitCondition_capture left).1.trans idle⟩
  | error cause =>
    rw [exitCondition_error left]
    exact ⟨rfl, rfl, idle⟩

theorem step_within [Canvas κ] {run : Runner κ} {line : SourceLine} {s : Session κ}
    (running : RunWithin given run)
    (inert : line.Inert) (idle : s.blocks.capture = none) (kept : Keeps given s) :
    Within s (s.step run line).session := by
  have noted : Within s (s.noted line) := ⟨rfl, rfl, idle⟩
  obtain ⟨act, stepped, same⟩ := step_stepped line s
  rw [same]
  cases stepped with
  | nested _ _ opened | mismatched _ _ opened | finished _ opened | collected _ opened =>
    rw [opened] at idle
    cases idle
  | malformed | stray => exact noted
  | effect => exact noted.trans (enact_within idle)
  | condition => exact noted.trans (enterCondition_within idle)
  | endif => exact noted.trans (exitCondition_within idle)
  | opens opening _ read =>
    have word := leadingKeyword?_of_parse read (opening.command_keyword)
    exact absurd word (inert opening.kind).1
  | calls =>
    rw [Ran.session_step]
    exact noted.trans (call_within running idle (kept.of_eq rfl rfl))

private theorem scan_within [Canvas κ] {run : Runner κ} (running : RunWithin given run) :
    RunWithin given (scan run 0) := by
  intro lines s inert idle kept
  have scanned := scan_scanned run lines s
  generalize scan run 0 lines s = ran at scanned
  induction scanned with
  | nil => exact ⟨rfl, rfl, idle⟩
  | next stepped _ ih =>
    have within := step_within running (inert _ List.mem_cons_self) idle kept
    rw [stepped] at within
    exact within.trans (ih (fun l inside => inert l (List.mem_cons_of_mem _ inside)) within.idle
      (within.keeps kept))
  | stop stepped | unclosed stepped =>
    have within := step_within running (inert _ List.mem_cons_self) idle kept
    rw [stepped] at within
    exact within
  | @skip _ _ _ after _ _ stepped found _ ih =>
    have within := step_within running (inert _ List.mem_cons_self) idle kept
    rw [stepped] at within
    have passed : Within after { after with blocks := after.blocks.skipCondition } :=
      ⟨rfl, rfl, (Blocks.skipCondition_capture _).trans within.idle⟩
    exact (within.trans passed).trans (ih
      (fun l inside => inert l (List.mem_cons_of_mem _ (List.mem_of_mem_drop inside)))
      passed.idle (passed.keeps (within.keeps kept)))

/-- Lines of a block define nothing, open nothing and unwind every call. -/
theorem runLines_within [Canvas κ] (depth : Nat) : RunWithin given (runLines depth : Runner κ) := by
  induction depth with
  | zero => exact fun lines s inert idle kept => ⟨rfl, rfl, idle⟩
  | succ depth ih => exact scan_within ih

/-- The runs inside a line are not nested too deep for lines of a block, if fewer than so many methods
can be called. -/
def RunFits (given : SourceLine → Prop) (bound : Nat) (run : Runner κ) : Prop :=
  ∀ lines s, (∀ l ∈ lines, l.Inert) → s.blocks.capture = none → Keeps given s →
    s.scope.callable.length < bound → (run lines s).reason? ≠ some .tooDeep

private theorem call_fits {bound : Nat} {run : Runner κ} {name : String} {args : List String} {s : Session κ}
    (running : RunFits given bound run) (idle : s.blocks.capture = none) (kept : Keeps given s)
    (room : s.scope.callable.length ≤ bound) : (s.call run name args).reason? ≠ some .tooDeep := by
  unfold call
  split
  · rename_i reason failed
    obtain ⟨cause, rfl, -⟩ := numbers_error failed
    simp [Ran.reason?, Stop.ofCause]
  · unfold invoke
    split
    · simp [Ran.reason?, Stop.ofCause]
    · rename_i entered begun
      obtain ⟨-, -, methods, -⟩ := Scope.enter_ok begun
      rw [Ran.reason?_mapSession]
      exact running entered.method.body { s with scope := entered.scope }
        (fun l inside => (kept.body begun l inside).2) idle (kept.of_eq methods rfl)
        (Nat.lt_of_lt_of_le (Scope.callable_enter begun) room)

private theorem defineMethod_fits (method : Method) (s : Session κ) :
    (s.defineMethod method).reason? ≠ some .tooDeep := by
  unfold defineMethod
  split <;> simp [Ran.reason?, Stop.ofCause]

private theorem enact_fits [Canvas κ] (effect : Except Cause Effect) (s : Session κ) :
    (s.atOnce (s.enact effect)).reason? ≠ some .tooDeep := by
  cases effect with
  | error cause => simp [State.enact, atOnce, Step.reason?, Stop.ofCause]
  | ok effect =>
    simp only [State.enact]
    cases State.paint effect s.canvas <;> simp [atOnce, Step.reason?]

/-- A line nests too deep only if the runs inside it do: the replay of a loop has as many methods to
call as the line, a call has fewer. -/
theorem step_fits [Canvas κ] {bound : Nat} {run : Runner κ} {line : SourceLine} {s : Session κ}
    (running : RunFits given bound run) (kept : Keeps given s) (room : s.scope.callable.length ≤ bound)
    (replay : s.blocks.capture ≠ none → s.scope.callable.length < bound) :
    (s.step run line).reason? ≠ some .tooDeep := by
  obtain ⟨act, stepped, same⟩ := step_stepped line s
  rw [same]
  cases stepped with
  | nested | mismatched | malformed | stray => simp [Step.reason?, Stop.ofCause]
  | collected | opens => simp [Step.reason?]
  | finished capture opened word =>
    rw [Ran.reason?_step]
    cases opening : capture.opening with
    | loop =>
      rw [finishBlock_loop opening]
      exact running capture.lines (s.released.replaying capture)
        (fun l inside => (kept.captured capture opened l inside).2) rfl (kept.released.of_eq rfl rfl)
        (replay (by simp [opened]))
    | method name params =>
      rw [finishBlock_method opening]
      exact defineMethod_fits _ _
  | effect => exact enact_fits _ _
  | condition test =>
    unfold enterCondition
    split <;> simp [Step.reason?, Stop.ofCause]
  | endif =>
    cases left : (s.noted line).blocks.exitCondition with
    | ok blocks =>
      obtain ⟨log, next⟩ := exitCondition_ok left
      simp [next, Step.reason?]
    | error cause => simp [exitCondition_error left, Step.reason?, Stop.ofCause]
  | calls name args idle read =>
    have noted : Keeps given (s.noted line) := kept.of_eq rfl rfl
    rw [Ran.reason?_step]
    exact call_fits running idle noted room

private theorem scan_fits [Canvas κ] {bound : Nat} {run : Runner κ} (running : RunFits given bound run)
    (inside : RunWithin given run) : RunFits given (bound + 1) (scan run 0) := by
  intro lines s inert idle kept room
  have scanned := scan_scanned run lines s
  generalize scan run 0 lines s = ran at scanned
  induction scanned with
  | nil => simp [Ran.reason?]
  | @next line _ s _ _ stepped _ ih =>
    have within := step_within inside (inert _ List.mem_cons_self) idle kept
    rw [stepped] at within
    exact ih (fun l later => inert l (List.mem_cons_of_mem _ later)) within.idle (within.keeps kept)
      (within.callable.symm ▸ room)
  | @stop line _ s reason _ stepped =>
    have fits : (s.step run line).reason? ≠ some .tooDeep :=
      step_fits running kept (Nat.le_of_lt_succ room) (absurd idle)
    rw [stepped] at fits
    exact Stop.attach_ne_tooDeep fits
  | unclosed => simp [Ran.reason?, Stop.attach, Stop.ofCause]
  | @skip line _ s after _ _ stepped found _ ih =>
    have within := step_within inside (inert _ List.mem_cons_self) idle kept
    rw [stepped] at within
    have passed : Within s { after with blocks := after.blocks.skipCondition } :=
      ⟨within.methods, within.active, (Blocks.skipCondition_capture _).trans within.idle⟩
    exact ih (fun l later => inert l (List.mem_cons_of_mem _ (List.mem_of_mem_drop later))) passed.idle
      (passed.keeps kept) (passed.callable.symm ▸ room)

theorem runLines_fits [Canvas κ] (depth : Nat) : RunFits given depth (runLines depth : Runner κ) := by
  induction depth with
  | zero => exact fun lines s inert idle kept room => absurd room (Nat.not_lt_zero _)
  | succ depth ih => exact scan_fits ih (runLines_within depth)

theorem step_callable [Canvas κ] {run : Runner κ} {line : SourceLine} {s : Session κ}
    (inside : RunWithin given run) (kept : Keeps given s) :
    (s.step run line).session.scope.callable.length ≤ s.scope.callable.length + 1 := by
  have level : ∀ {t : Session κ}, Within (s.noted line) t →
      t.scope.callable.length ≤ s.scope.callable.length + 1 := by
    intro t within
    rw [within.callable]
    exact Nat.le_succ _
  obtain ⟨act, stepped, same⟩ := step_stepped line s
  rw [same]
  cases stepped with
  | nested | mismatched | malformed | stray | collected | opens => exact Nat.le_succ _
  | finished capture opened word =>
    rw [Ran.session_step]
    cases opening : capture.opening with
    | loop =>
      have within := inside capture.lines (s.released.replaying capture)
        (fun l later => (kept.captured capture opened l later).2) rfl (kept.released.of_eq rfl rfl)
      rw [finishBlock_loop opening, within.callable]
      exact Nat.le_succ _
    | method name params =>
      rw [finishBlock_method opening]
      unfold defineMethod
      split
      · exact Nat.le_succ _
      · rename_i scope defined
        obtain rfl := Scope.define_ok defined
        simp only [Ran.session, note, Scope.callable, List.filter_append, List.length_append]
        exact Nat.add_le_add_left (List.length_filter_le _ [_]) _
  | effect _ _ idle => exact level (enact_within idle)
  | condition _ idle => exact level (enterCondition_within idle)
  | endif idle => exact level (exitCondition_within idle)
  | calls _ _ idle =>
    have noted : Keeps given (s.noted line) := kept.of_eq rfl rfl
    rw [Ran.session_step]
    exact level (call_within inside idle noted)

/-- A program needs a level for each of its lines besides, since each may define a method. -/
theorem scan_program_fits [Canvas κ] {bound : Nat} {run : Runner κ} (fits : RunFits given bound run)
    (inside : RunWithin given run) (keeps : RunKeeps given run) {lines : List SourceLine} {s : Session κ}
    (known : ∀ l ∈ lines, given l) (kept : Keeps given s)
    (room : s.scope.callable.length + lines.length ≤ bound) :
    (scan run 0 lines s).reason? ≠ some .tooDeep := by
  have scanned := scan_scanned run lines s
  generalize scan run 0 lines s = ran at scanned
  induction scanned with
  | nil => simp [Ran.reason?]
  | @next line rest s _ _ stepped _ ih =>
    have step := step_keeps keeps (known _ List.mem_cons_self) kept
    have grown : (s.step run line).session.scope.callable.length ≤ _ := step_callable inside kept
    rw [stepped] at step grown
    simp only [List.length_cons, Step.session] at room grown
    exact ih (fun l later => known l (List.mem_cons_of_mem _ later)) step (by omega)
  | @stop line rest s reason _ stepped =>
    have enough : s.scope.callable.length < bound := by
      simp only [List.length_cons] at room
      omega
    have shallow : (s.step run line).reason? ≠ some .tooDeep :=
      step_fits fits kept (Nat.le_of_lt enough) fun _ => enough
    rw [stepped] at shallow
    exact Stop.attach_ne_tooDeep shallow
  | unclosed => simp [Ran.reason?, Stop.attach, Stop.ofCause]
  | @skip line rest s after count _ stepped found _ ih =>
    have step := step_keeps keeps (known _ List.mem_cons_self) kept
    have grown : (s.step run line).session.scope.callable.length ≤ _ := step_callable inside kept
    rw [stepped] at step grown
    simp only [List.length_cons, Step.session] at room grown
    refine ih (fun l later => known l (List.mem_cons_of_mem _ (List.mem_of_mem_drop later)))
      (step.of_eq rfl (Blocks.skipCondition_capture _)) ?_
    simp only [List.length_drop]
    omega

/-- The allowance of a session is enough for any lines. -/
theorem runLines_allowance_fits [Canvas κ] {lines : List SourceLine} {s : Session κ}
    (known : ∀ l ∈ lines, given l) (kept : Keeps given s) :
    (runLines (s.allowance lines) lines s).reason? ≠ some .tooDeep := by
  refine scan_program_fits (runLines_fits _) (runLines_within _) (runLines_keeps _) known kept ?_
  have := s.scope.callable_le
  omega

theorem runLines_eq_allowance [Canvas κ] {depth : Nat} {lines : List SourceLine} {s : Session κ}
    (known : ∀ l ∈ lines, given l) (kept : Keeps given s) (enough : s.allowance lines ≤ depth) :
    runLines depth lines s = runLines (s.allowance lines) lines s :=
  runLines_eq_of_le enough (runLines_allowance_fits known kept)

end Session

end Sketch
