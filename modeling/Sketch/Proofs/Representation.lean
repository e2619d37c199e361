import Sketch.Proofs.Allowance
import Sketch.Proofs.Moments
import Sketch.Proofs.Naming

/-! What holds of every session between the requests of a host: no call is running, names are names,
colors are known, and the lines that are kept for later neither open nor close a block. So whatever is
run inside a line, be it a loop that is replayed or a method that is called, leaves the open block and the
methods alone at every moment. -/
namespace Sketch
open Text

structure SourceLine.Storable (line : SourceLine) : Prop where
  trimmed : trim line.text.toList = line.text.toList
  nonempty : line.text ≠ ""
  inert : line.Inert

theorem numberLines_trimmed (number : Int) (raws : List (List Char)) :
    ∀ line ∈ numberLines number raws, trim line.text.toList = line.text.toList ∧ line.text ≠ "" := by
  induction raws generalizing number with
  | nil => simp [numberLines]
  | cons raw raws ih =>
    cases blank : (trim raw).isEmpty with
    | true => simpa only [numberLines, blank, if_true] using ih (number + 1)
    | false =>
      intro line inside
      simp only [numberLines, blank, Bool.false_eq_true, if_false] at inside
      rcases List.mem_cons.mp inside with rfl | later
      · have full : trim raw ≠ [] := by simpa using blank
        refine ⟨?_, fun empty => full ?_⟩
        · rw [String.toList_ofList]
          exact trim_eq_self (trim_head raw) (trim_last raw)
        · simpa using congrArg String.toList empty
      · exact ih (number + 1) line later

/-- What holds of a session whenever no request is being handled. -/
structure Session.WellFormed {κ : Type} (s : Session κ) : Prop where
  active : s.scope.active = []
  vars : ∀ name ∈ s.scope.vars.names, IsName name.toList
  methods : ∀ method ∈ s.scope.methods, Signature method.name method.params
  bodies : ∀ method ∈ s.scope.methods, ∀ line ∈ method.body, line.Storable
  captured : ∀ capture ∈ s.blocks.capture, ∀ line ∈ capture.lines, line.Storable
  color : s.pen.color ∈ knownColors

private theorem start_color : ("black" : String) ∈ knownColors := by
  decide

theorem Reachable.named {κ : Type} [Canvas κ] {s : Session κ} (reachable : Reachable s) : s.Named := by
  obtain ⟨canvas, strict, evolved⟩ := reachable.evolves
  have fresh : (Session.start canvas strict).Named :=
    ⟨by simp [Session.start, Variables.names], by simp [Session.start], by simp [Session.start]⟩
  exact evolved.named fresh

theorem Reachable.wellFormed {κ : Type} [Canvas κ] {s : Session κ} (reachable : Reachable s) : s.WellFormed := by
  obtain ⟨canvas, strict, evolved⟩ := reachable.evolves
  have named := reachable.named
  have kept := reachable.keeps_lines fun program => numberLines_trimmed 1 (splitLines program.toList)
  have storable (line : SourceLine)
      (known : (trim line.text.toList = line.text.toList ∧ line.text ≠ "") ∧ line.Inert) : line.Storable :=
    ⟨known.1.1, known.1.2, known.2⟩
  exact {
    active := reachable.active
    vars := named.vars
    methods := named.methods
    bodies := fun method inside line body => storable line (kept.bodies method inside line body)
    captured := fun capture opened line collected => storable line (kept.captured capture opened line collected)
    color := evolved.color start_color }

/-! Lines inside lines. -/

/-- Lines that run inside others can stand in a block; only the outermost lines may open one. -/
def Stacked : List SourceLine → List Waiting → Prop
  | _, [] => True
  | lines, outer :: waiting => (∀ line ∈ lines, line.Inert) ∧ Stacked outer.rest waiting

private theorem Stacked.subset {lines fewer : List SourceLine} {waiting : List Waiting}
    (stacked : Stacked lines waiting) (sub : fewer ⊆ lines) : Stacked fewer waiting := by
  cases waiting with
  | nil => trivial
  | cons outer waiting => exact ⟨fun line inside => stacked.1 line (sub inside), stacked.2⟩

private theorem Keeps.nested {κ : Type} {given : SourceLine → Prop} {s : Session κ} (kept : Keeps given s)
    {line : SourceLine} {nested : Nested κ} (found : s.nested? line = some nested) :
    (∀ l ∈ nested.lines, l.Inert) ∧ nested.session.blocks.capture = none ∧
      nested.session.scope.methods = s.scope.methods := by
  have methods := Session.nested?_methods found
  rcases Session.nested?_cases found with ⟨capture, opened, -, -, rfl⟩ |
    ⟨name, args, values, entered, idle, -, -, begun, rfl⟩
  · exact ⟨fun l inside => (kept.captured capture opened l inside).2, rfl, methods⟩
  · exact ⟨fun l inside => (kept.body begun l inside).2, idle, methods⟩

namespace Moment
variable {κ : Type}

def lines : Moment κ → List SourceLine
  | running lines _ _ => lines
  | stopping .. => []

/-- Some line runs lines inside itself: it replays a loop or calls a method. -/
def Inside (moment : Moment κ) : Prop :=
  ∃ outer ∈ moment.waiting, outer.line.isSome

instance (moment : Moment κ) : Decidable moment.Inside :=
  inferInstanceAs (Decidable (∃ outer ∈ moment.waiting, outer.line.isSome = true))

theorem lines_ofStep (line : SourceLine) (rest : List SourceLine) (waiting : List Waiting) (step : Step κ) :
    (ofStep line rest waiting step).lines ⊆ rest := by
  cases step with
  | next => exact List.Subset.refl _
  | stop => exact List.nil_subset _
  | skip s =>
    simp only [ofStep]
    split
    · exact List.nil_subset _
    · exact List.drop_subset _ _

private theorem ofStep_leaves (line : SourceLine) (rest : List SourceLine) (waiting : List Waiting) (step : Step κ) :
    (ofStep line rest waiting step).session.scope = step.session.scope ∧
      (ofStep line rest waiting step).session.blocks.capture = step.session.blocks.capture := by
  cases step with
  | next | stop => exact ⟨rfl, rfl⟩
  | skip s =>
    simp only [ofStep]
    split
    · exact ⟨rfl, rfl⟩
    · exact ⟨rfl, Blocks.skipCondition_capture _⟩

structure Guarded (moment : Moment κ) : Prop where
  kept : Keeps (fun _ => True) moment.session
  stacked : Stacked moment.lines moment.waiting
  idle : moment.Inside → moment.session.blocks.capture = none

theorem unwound_leaves (hidden : Option Hidden) (s : Session κ) :
    (s.unwound hidden).blocks = s.blocks ∧ (s.unwound hidden).scope.methods = s.scope.methods := by
  cases hidden <;> exact ⟨rfl, rfl⟩

variable [Canvas κ] {moment : Moment κ}

/-- No block is open, and the next move neither opens one nor adds or changes a method. -/
structure Quiet (moment : Moment κ) : Prop where
  idle : moment.session.blocks.capture = none
  unopened : moment.move.session.blocks.capture = none
  methods : moment.move.session.scope.methods = moment.session.scope.methods

private theorem Guarded.unchanged (guarded : moment.Guarded) (inside : moment.Inside) :
    moment.move.session.blocks.capture = none ∧ moment.move.session.scope.methods = moment.session.scope.methods := by
  have idle := guarded.idle inside
  have moved := moment.move_moved
  generalize moment.move = next at moved ⊢
  cases moved with
  | ended => exact ⟨idle, rfl⟩
  | @steps line rest s waiting =>
    have inert : line.Inert := by
      obtain ⟨outer, waits, -⟩ := inside
      have stacked := guarded.stacked
      cases waiting with
      | nil => cases waits
      | cons first waiting => exact stacked.1 line List.mem_cons_self
    have within := Session.step_within (Session.runLines_within 0) inert idle guarded.kept
    obtain ⟨scope, capture⟩ := ofStep_leaves line rest waiting (s.step (Session.runLines 0) line)
    rw [scope, capture]
    exact ⟨within.idle, within.methods⟩
  | enters found => exact (guarded.kept.nested found).2
  | @leaves s outer | @unwinds _ s outer =>
    obtain ⟨blocks, methods⟩ := unwound_leaves outer.hidden s
    exact ⟨(congrArg Blocks.capture blocks).trans idle, methods⟩

theorem Guarded.move (guarded : moment.Guarded) : moment.move.Guarded := by
  have unchanged := guarded.unchanged
  have moved := moment.move_moved
  generalize moment.move = next at moved unchanged ⊢
  cases moved with
  | ended => exact guarded
  | @steps line rest s waiting =>
    have stepped : (s.step (Session.runLines 0) line).Keeps (fun _ => True) line :=
      Session.step_keeps (Session.runLines_keeps 0) trivial guarded.kept
    obtain ⟨scope, capture⟩ := ofStep_leaves line rest waiting (s.step (Session.runLines 0) line)
    refine ⟨(Step.Keeps.session stepped).of_eq (congrArg Scope.methods scope) capture, ?_, fun inside => (unchanged ?_).1⟩
    · rw [waiting_ofStep]
      exact guarded.stacked.subset (List.subset_cons_of_subset _ (lines_ofStep line rest waiting _))
    · rwa [Inside, waiting_ofStep] at inside
  | @enters line rest s waiting nested found =>
    obtain ⟨inert, idle, methods⟩ := guarded.kept.nested found
    have later : Stacked rest waiting := guarded.stacked.subset (List.subset_cons_self _ _)
    refine ⟨⟨?_, by simp [session, idle]⟩, ⟨inert, later⟩, fun _ => idle⟩
    change ∀ method ∈ nested.session.scope.methods, _
    rw [methods]
    exact guarded.kept.bodies
  | @leaves s outer waiting | @unwinds _ s outer waiting =>
    obtain ⟨blocks, methods⟩ := unwound_leaves outer.hidden s
    refine ⟨guarded.kept.of_eq methods (congrArg Blocks.capture blocks), guarded.stacked.2.subset ?_, ?_⟩
    · simp [lines]
    · -- What still waits outside was outside before.
      rintro ⟨inner, waits, line⟩
      exact (unchanged ⟨inner, List.mem_cons_of_mem _ waits, line⟩).1

theorem begin_guarded {s : Session κ} (reachable : Reachable s) (request : Request) : (begin request s).Guarded := by
  have kept := reachable.keeps
  cases request with
  | program text => exact ⟨kept, trivial, by simp [Inside, begin, waiting]⟩
  | call name args =>
    cases begun : s.scope.enter name args with
    | error cause =>
      simp only [begin, begun]
      exact ⟨kept, trivial, by simp [Inside, waiting]⟩
    | ok entered =>
      obtain ⟨-, -, methods, -⟩ := Scope.enter_ok begun
      simp only [begin, begun]
      refine ⟨kept.of_eq methods rfl, ⟨fun line inside => (kept.body begun line inside).2, trivial⟩, ?_⟩
      simp [Inside, waiting]

end Moment

/-- Whatever a host has asked of a session, it is well formed and was drawn on with known colors only; and
whatever is asked of it then, every moment inside a line leaves the open block and the methods alone. -/
theorem after_wellFormed (strict : Bool) (requests : List Request) :
    (∀ {κ : Type} [Canvas κ] (canvas : κ), ((Session.start canvas strict).after requests).WellFormed ∧
      ∀ request count,
        (Moment.move^[count] (.begin request ((Session.start canvas strict).after requests))).Inside →
        (Moment.move^[count] (.begin request ((Session.start canvas strict).after requests))).Quiet) ∧
    ∀ primitive ∈ ((Session.start ({} : Recording) strict).after requests).canvas.operations,
      ∀ pen ∈ primitive.pen?, pen.color ∈ knownColors := by
  constructor
  · intro κ _ canvas
    have reachable : Reachable ((Session.start canvas strict).after requests) :=
      (Reachable.start canvas strict).after requests
    refine ⟨reachable.wellFormed, ?_⟩
    intro request count inside
    have guarded := Function.Iterate.rec Moment.Guarded (Moment.begin_guarded reachable request)
      (fun _ => Moment.Guarded.move) count
    obtain ⟨unopened, methods⟩ := guarded.unchanged inside
    exact ⟨guarded.idle inside, unopened, methods⟩
  · have evolved := (Session.start ({} : Recording) strict).after_evolves requests
    exact evolved.pens start_color (by simp [Session.start])

/-- A loop that was left open is closed and replays a call: the second moment is inside the method that the
loop calls. -/
theorem after_wellFormed_in_replayed_call :
    let s := (Session.start ({} : Recording) true).after [.program "method m\ncircle 1\nendmethod\nloop\nm()"]
    s.WellFormed ∧ (Moment.move^[2] (.begin (.program "endloop") s)).Inside ∧
      (Moment.move^[2] (.begin (.program "endloop") s)).Quiet := by
  obtain ⟨wellFormed, quiet⟩ :=
    (after_wellFormed true [.program "method m\ncircle 1\nendmethod\nloop\nm()"]).1 ({} : Recording)
  have inside := quiet (.program "endloop") 2
  refine ⟨wellFormed, ?_, inside ?_⟩
  · decide +kernel
  · decide +kernel

end Sketch
