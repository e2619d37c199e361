import Sketch.Canvas.Recording
import Sketch.Proofs.HostCalls
import Sketch.Proofs.Operands

/-! Whatever method is defined, a script can call it. A line that begins a method takes no keyword for its name, and no
name is defined twice; so at every moment of a session the text of a call is read as this call, and the call finds this
method and no other. -/
namespace Sketch
open Text

def Scope.Distinct (scope : Scope) : Prop :=
  (scope.methods.map (·.name)).Nodup

namespace Scope
variable {scope next : Scope} {method : Method}

private theorem Distinct.of_methods (distinct : scope.Distinct) (same : next.methods = scope.methods) :
    next.Distinct := by
  rw [Distinct, same]
  exact distinct

theorem Distinct.define (distinct : scope.Distinct) (defined : scope.define method = .ok next) : next.Distinct := by
  have free : method.name ∉ scope.methods.map (·.name) := by
    unfold Scope.define at defined
    split at defined
    · cases defined
    · rename_i missing
      simpa [method?] using missing
  obtain rfl := define_ok defined
  rw [Distinct, List.map_append]
  exact distinct.append (List.nodup_singleton _) (List.disjoint_singleton.mpr free)

theorem Distinct.method? (distinct : scope.Distinct) (registered : method ∈ scope.methods) :
    scope.method? method.name = some method := by
  cases found : scope.method? method.name with
  | none =>
    have missing := List.find?_eq_none.mp found method registered
    simp at missing
  | some other =>
    obtain ⟨inside, named⟩ := method?_mem found
    rw [List.inj_on_of_nodup_map distinct inside registered named]

end Scope

section
variable {κ : Type}

private theorem Moment.begin_distinct {s : Session κ} (distinct : s.scope.Distinct) (request : Request) :
    (begin request s).session.scope.Distinct := by
  cases request with
  | program text => exact distinct
  | call name args =>
    cases begun : s.scope.enter name args with
    | error cause =>
      simp only [begin, begun]
      exact distinct
    | ok entered =>
      simp only [begin, begun]
      exact distinct.of_methods (Scope.enter_ok begun).2.2.1

/-- A line that calls a method which is there runs the lines of this method, if the arguments have values, are as many as
the parameters and the method is not running. -/
theorem Session.nested?_call {s : Session κ} {line : SourceLine} {method : Method} {tokens : List String}
    {values : List Float} (found : s.scope.method? method.name = some method) (idle : s.blocks.capture = none)
    (read : Command.parse line.text = .ok (.call method.name tokens))
    (resolved : List.Forall₂ (fun token value => s.scope.vars.resolve token = .ok value) tokens values)
    (arity : values.length = method.params.length) (waiting : method.name ∉ s.scope.active) :
    ∃ nested, s.nested? line = some nested ∧ nested.lines = method.body := by
  have numbers := numbers_noted line resolved
  obtain ⟨entered, begun⟩ := Scope.enter_begins found arity waiting
  have same : entered.method = method := Option.some.inj ((Scope.enter_ok begun).1.symm.trans found)
  have entering : (s.noted line).scope.enter method.name values = .ok entered := begun
  have nests : s.nested? line =
      some ⟨entered.method.body, { s.noted line with scope := entered.scope }, some entered.hidden⟩ := by
    simp only [nested?, idle, read, called?, numbers, entering]
  exact ⟨_, nests, congrArg Method.body same⟩

variable [Canvas κ]

private theorem Evolves.distinct {s t : State κ} (evolves : Evolves s t) (distinct : s.scope.Distinct) :
    t.scope.Distinct := by
  induction evolves with
  | refl | effect | counts | opens | collects | shows | releases => exact distinct
  | trans _ _ first second => exact second (first distinct)
  | defines _ defined => exact distinct.define defined
  | calls begun _ ih =>
    obtain ⟨-, -, methods, -⟩ := Scope.enter_ok begun
    exact ih (distinct.of_methods methods)

theorem Reachable.distinct {s : Session κ} (reachable : Reachable s) : s.scope.Distinct := by
  obtain ⟨canvas, strict, evolved⟩ := reachable.evolves
  exact evolved.distinct List.nodup_nil

private theorem Moment.distinct_move {moment : Moment κ} (distinct : moment.session.scope.Distinct) :
    moment.move.session.scope.Distinct := by
  have moved := moment.move_moved
  generalize moment.move = next at moved ⊢
  cases moved with
  | ended => exact distinct
  | @steps line rest s waiting =>
    have evolves := (Session.step_evolves (Session.runLines_evolves 0) line s).trans (ofStep_evolves line rest waiting _)
    exact evolves.distinct distinct
  | enters found => exact distinct.of_methods (Session.nested?_methods found)
  | @leaves s outer | @unwinds _ s outer => exact distinct.of_methods (unwound_leaves outer.hidden s).2

theorem Reachable.distinct_moment {s : Session κ} (reachable : Reachable s) (request : Request) (count : Nat) :
    (Moment.move^[count] (.begin request s)).session.scope.Distinct :=
  Function.Iterate.rec (fun moment : Moment κ => moment.session.scope.Distinct)
    (Moment.begin_distinct reachable.distinct request) (fun _ => Moment.distinct_move) count

end

/-- In every session that a host can have, and at every moment of a request to it, the text of a call of a method that is
there, with any names and numbers for arguments, is one line that is read as this call. The name means this method
and no other, so where nothing stands against the call its lines are run. -/
theorem registered_method_callable {κ : Type} [Canvas κ] {s t : Session κ} (reachable : Reachable s)
    (occurs : t = s ∨ ∃ request count, t = (Moment.move^[count] (.begin request s)).session) {method : Method}
    (registered : method ∈ t.scope.methods) {tokens : List String} (operands : ∀ token ∈ tokens, IsOperand token.toList) :
    let text := callText method.name tokens
    splitProgram text = [⟨1, text⟩] ∧ Command.parse text = .ok (.call method.name tokens) ∧
    t.scope.lookup method.name = .ok method ∧
    ∀ number values, t.blocks.capture = none →
      List.Forall₂ (fun token value => t.scope.vars.resolve token = .ok value) tokens values →
      values.length = method.params.length → method.name ∉ t.scope.active →
        ∃ nested, t.nested? ⟨number, text⟩ = some nested ∧ nested.lines = method.body := by
  intro text
  obtain ⟨named, distinct⟩ : t.Named ∧ t.scope.Distinct := by
    rcases occurs with rfl | ⟨request, count, rfl⟩
    · exact ⟨reachable.named, reachable.distinct⟩
    · exact ⟨(reachable.named_moment request count).session, reachable.distinct_moment request count⟩
  obtain ⟨split, read⟩ := callText_line (named.methods method registered).free operands
  have found := distinct.method? registered
  refine ⟨split, read, by simp only [Scope.lookup, found], fun number values idle resolved arity waiting => ?_⟩
  exact Session.nested?_call found idle read resolved arity waiting

/-- In the middle of a program that has defined a method whose name begins with a keyword, where an argument is a keyword
too. -/
theorem registered_method_callable_in_program :
    let s := (Session.start ({} : Recording) false).after [.program "var if 3"]
    let program := "method Loops x y\nrectangle x y\nendmethod\nLoops(if, -1.5e2)"
    let t := (Moment.move^[3] (.begin (.program program) s)).session
    let method : Method := ⟨"Loops", ["x", "y"], [⟨2, "rectangle x y"⟩]⟩
    Reachable s ∧ method ∈ t.scope.methods ∧
    Command.parse "Loops(if, -1.5e2)" = .ok (.call "Loops" ["if", "-1.5e2"]) ∧ t.scope.lookup "Loops" = .ok method ∧
    ∃ nested, t.nested? ⟨4, "Loops(if, -1.5e2)"⟩ = some nested ∧ nested.lines = [⟨2, "rectangle x y"⟩] := by
  intro s program t method
  have reachable : Reachable s := (Reachable.start _ _).after _
  have registered : method ∈ t.scope.methods := by decide +kernel
  have operands : ∀ token ∈ ["if", "-1.5e2"], IsOperand token.toList := by
    refine List.forall_mem_cons.mpr ⟨.inr ⟨'i', ['f'], rfl, by decide, List.forall_mem_singleton.mpr (by decide)⟩,
      List.forall_mem_singleton.mpr ?_⟩
    have one : IsDigits ['1'] := ⟨by simp, List.forall_mem_singleton.mpr (by decide)⟩
    have two : IsDigits ['2'] := ⟨by simp, List.forall_mem_singleton.mpr (by decide)⟩
    exact .inl ⟨['-'], ['1', '.', '5'], ['e', '2'], rfl, .inr (.inr rfl),
      .pointed one (List.forall_mem_singleton.mpr (by decide)), .some (.inl rfl) (.inl rfl) two⟩
  have resolved : List.Forall₂ (fun token value => t.scope.vars.resolve token = .ok value) ["if", "-1.5e2"] [3, -150] :=
    .cons (by decide +kernel) (.cons (by decide +kernel) .nil)
  have idle : t.blocks.capture = none := by decide +kernel
  have inactive : "Loops" ∉ t.scope.active := by decide +kernel
  have occurs : t = s ∨ ∃ request count, t = (Moment.move^[count] (.begin request s)).session := .inr ⟨_, _, rfl⟩
  -- From here on the session is not run again.
  clear_value t
  obtain ⟨-, read, found, runs⟩ := registered_method_callable reachable occurs registered operands
  exact ⟨reachable, registered, read, found, runs 4 _ idle resolved rfl inactive⟩

end Sketch
