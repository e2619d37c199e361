import Sketch.Canvas.Recording
import Sketch.Proofs.Allowance
import Sketch.Proofs.Moments

/-! Every request comes to an end. However its lines replay loops, pass over lines and call each other,
the moves of its run come to a last moment; and as a method that runs cannot be called again, there are
never more calls under way than there are methods. -/
namespace Sketch

def callCount (waiting : List Waiting) : Nat :=
  waiting.countP (·.hidden.isSome)

namespace Session
variable {κ : Type}

/-- The running calls are calls of different methods, all of them defined, and each of them waits. -/
structure Nests (waiting : List Waiting) (s : Session κ) : Prop where
  distinct : s.scope.active.Nodup
  known : ∀ name ∈ s.scope.active, ∃ method ∈ s.scope.methods, method.name = name
  counted : s.scope.active.length = callCount waiting

namespace Nests
variable {s t : Session κ} {waiting : List Waiting}

private theorem calls_le (nests : s.Nests waiting) : callCount waiting ≤ s.scope.methods.length := by
  have inside : s.scope.active ⊆ s.scope.methods.map (·.name) := by
    intro name active
    obtain ⟨method, defined, named⟩ := nests.known name active
    exact List.mem_map.mpr ⟨method, defined, named⟩
  have fewer := (List.subperm_of_subset nests.distinct inside).length_le
  rw [List.length_map] at fewer
  rw [← nests.counted]
  exact fewer

private theorem entered (nests : s.Nests waiting) {name : String} {args : List Float} {entered : Scope.Entered}
    (begun : s.scope.enter name args = .ok entered) (line : Option SourceLine) (rest : List SourceLine) :
    { s with scope := entered.scope }.Nests (⟨line, rest, some entered.hidden⟩ :: waiting) := by
  obtain ⟨found, idle, methods, active⟩ := Scope.enter_ok begun
  obtain ⟨defined, named⟩ := Scope.method?_mem found
  refine ⟨?_, ?_, ?_⟩
  · rw [active]
    exact List.nodup_cons.mpr ⟨idle, nests.distinct⟩
  · rw [active, methods]
    intro other inside
    rcases List.mem_cons.mp inside with rfl | outer
    · exact ⟨entered.method, defined, named⟩
    · exact nests.known other outer
  · have counted := nests.counted
    simp only [active, callCount, List.length_cons, List.countP_cons, Option.isSome_some, if_true] at counted ⊢
    omega

private theorem unwound {outer : Waiting} (nests : s.Nests (outer :: waiting)) :
    (s.unwound outer.hidden).Nests waiting := by
  have counted := nests.counted
  cases hidden : outer.hidden with
  | none =>
    refine ⟨nests.distinct, nests.known, ?_⟩
    simpa [callCount, hidden, Session.unwound] using counted
  | some values =>
    refine ⟨nests.distinct.tail, fun name inside => nests.known name (List.mem_of_mem_tail inside), ?_⟩
    simp only [Session.unwound, Scope.leave, List.length_tail, counted, callCount, List.countP_cons, hidden,
      Option.isSome_some, if_true]
    omega

private theorem evolves [Canvas κ] (nests : s.Nests waiting) (evolves : Evolves s.toState t.toState) :
    t.Nests waiting := by
  have active := evolves.active
  refine ⟨?_, ?_, ?_⟩
  · rw [active]
    exact nests.distinct
  · rw [active]
    intro name inside
    obtain ⟨method, defined, named⟩ := nests.known name inside
    exact ⟨method, evolves.methods.subset defined, named⟩
  · rw [active]
    exact nests.counted

private theorem nested (nests : s.Nests waiting) {line : SourceLine} {nested : Nested κ}
    (found : s.nested? line = some nested) (rest : List SourceLine) :
    nested.session.Nests (⟨some line, rest, nested.hidden⟩ :: waiting) := by
  rcases nested?_cases found with ⟨capture, -, -, -, rfl⟩ | ⟨name, args, values, entered, -, -, -, begun, rfl⟩
  · refine ⟨nests.distinct, nests.known, nests.counted.trans ?_⟩
    simp [callCount]
  · have noted : (s.noted line).Nests waiting := ⟨nests.distinct, nests.known, nests.counted⟩
    exact noted.entered begun (some line) rest

end Nests

end Session

namespace Moment
variable {κ : Type}

def calls (moment : Moment κ) : Nat :=
  callCount moment.waiting

theorem begin_nests {s : Session κ} (idle : s.scope.active = []) (request : Request) :
    (begin request s).session.Nests (begin request s).waiting := by
  have none : s.Nests [] := ⟨by simp [idle], by simp [idle], by simp [idle, callCount]⟩
  cases request with
  | program text => exact none
  | call name args =>
    simp only [begin]
    split
    · exact none
    · rename_i entered begun
      exact Session.Nests.entered none begun Option.none []

variable [Canvas κ]

theorem move_nests {moment : Moment κ} (nests : moment.session.Nests moment.waiting) :
    moment.move.session.Nests moment.move.waiting := by
  have moved := moment.move_moved
  generalize moment.move = next at moved ⊢
  cases moved with
  | ended => exact nests
  | @steps line rest s waiting =>
    have stepped := Session.step_evolves (Session.runLines_evolves 0) line s
    rw [waiting_ofStep]
    exact nests.evolves (stepped.trans (ofStep_evolves line rest waiting _))
  | enters found => exact Session.Nests.nested nests found _
  | leaves | unwinds => exact Session.Nests.unwound nests

end Moment

namespace Reachable
variable {κ : Type} [Canvas κ] {s : Session κ}

/-- The allowance is enough for a call by the host, also where its lines only join an open block. -/
theorem invoke_fits (reachable : Reachable s) (name : String) (args : List Float) :
    (Session.invoke (Session.runLines (s.allowance [])) name args s).reason? ≠ some .tooDeep := by
  have kept := reachable.keeps
  unfold Session.invoke
  split
  · simp [Ran.reason?, Stop.ofCause]
  · rename_i entered begun
    obtain ⟨-, -, methods, -⟩ := Scope.enter_ok begun
    have inert : ∀ line ∈ entered.method.body, line.Inert := fun line inside => (kept.body begun line inside).2
    rw [Ran.reason?_mapSession]
    cases opened : s.blocks.capture with
    | none =>
      refine Session.runLines_fits _ _ { s with scope := entered.scope } inert opened (kept.of_eq methods rfl) ?_
      have fewer := Scope.callable_enter begun
      have most := s.scope.callable_le
      simp only [Session.allowance, List.length_nil]
      omega
    | some capture =>
      -- An open block takes in all lines of the method, and none of them is run.
      have collected : ∀ run : Session.Runner κ, (Session.scan run 0 entered.method.body
          { s with scope := entered.scope }).reason? = none := by
        intro run
        have all : Session.scan run 0 (entered.method.body ++ []) { s with scope := entered.scope } = _ :=
          Session.scan_collected (s := { s with scope := entered.scope }) opened inert []
        rw [List.append_nil] at all
        rw [all]
        rfl
      have ended : (Session.runLines (s.allowance []) entered.method.body
          { s with scope := entered.scope }).reason? = none := collected _
      rw [ended]
      simp

theorem attempt_fits (reachable : Reachable s) (request : Request) :
    (s.attempt request).reason? ≠ some .tooDeep := by
  cases request with
  | program text => exact Session.runLines_allowance_fits (fun _ _ => trivial) reachable.keeps
  | call name args => exact reachable.invoke_fits name args

end Reachable

/-- In a session that a host can have, the moves of a request come to a last moment, which is what the
request is answered with: a success, or an error of the script or the canvas. At no moment are more calls
under way than there are methods. -/
theorem handle_ends {κ : Type} [Canvas κ] {s : Session κ} (reachable : Reachable s) (request : Request) :
    (∃ count ran, (∀ later, count ≤ later → Moment.move^[later] (.begin request s) = .ofRan [] ran) ∧
      s.handle request = Session.conclude request.complaint ran ∧ (s.handle request).reason? ≠ some .tooDeep) ∧
    ∀ count, (Moment.move^[count] (.begin request s)).session.scope.active.length =
        (Moment.move^[count] (.begin request s)).calls ∧
      (Moment.move^[count] (.begin request s)).calls ≤
        (Moment.move^[count] (.begin request s)).session.scope.methods.length := by
  constructor
  · have fits := reachable.attempt_fits request
    obtain ⟨count, ended⟩ := Moment.begin_reaches fits
    refine ⟨count, s.attempt request, ?_, s.handle_eq_conclude request, ?_⟩
    · intro later after
      obtain ⟨more, rfl⟩ := Nat.exists_eq_add_of_le' after
      rw [Function.iterate_add_apply, ended]
      exact Function.iterate_fixed (Moment.move_ofRan _) more
    · rw [s.handle_eq_conclude, Session.reason?_conclude]
      exact fits
  · intro count
    have nests := Function.Iterate.rec (fun moment : Moment κ => moment.session.Nests moment.waiting)
      (Moment.begin_nests reachable.active request) (fun _ => Moment.move_nests) count
    exact ⟨nests.counted, nests.calls_le⟩

/-- Two methods that call each other: both calls are under way when the third is refused. -/
theorem handle_ends_of_mutual_calls :
    let text := "method a\nb()\nendmethod\nmethod b\na()\nendmethod"
    let s := (Session.start ({} : Recording) false).after [.program text]
    let request := Request.call "a" []
    Reachable s ∧
    (∃ count ran, (∀ later, count ≤ later → Moment.move^[later] (.begin request s) = .ofRan [] ran) ∧
      s.handle request = Session.conclude request.complaint ran ∧ (s.handle request).reason? ≠ some .tooDeep) ∧
    (Moment.move^[1] (.begin request s)).calls = 2 ∧
    ∀ count, (Moment.move^[count] (.begin request s)).session.scope.active.length =
        (Moment.move^[count] (.begin request s)).calls ∧
      (Moment.move^[count] (.begin request s)).calls ≤
        (Moment.move^[count] (.begin request s)).session.scope.methods.length := by
  intro text s request
  have reachable : Reachable s := (Reachable.start _ _).after _
  obtain ⟨ended, bounded⟩ := handle_ends reachable request
  exact ⟨reachable, ended, by decide +kernel, bounded⟩

end Sketch
