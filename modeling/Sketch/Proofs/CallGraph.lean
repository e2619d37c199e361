import Sketch.Canvas.Recording
import Sketch.Proofs.Innermost
import Sketch.Proofs.Representation
import Sketch.Proofs.Termination

/-! The running calls are a path in the graph of who calls whom, which can be read off the lines of the methods without
running any of them. A call is refused only where such a path would close, so that in a session without a cycle no call
is refused for being a recursion. -/
namespace Sketch

namespace Scope
variable {scope later : Scope} {caller callee : String}

/-- A line in the body of the first method is a call of the second. -/
def Calls (scope : Scope) (caller callee : String) : Prop :=
  ∃ method, scope.method? caller = some method ∧
    ∃ line ∈ method.body, ∃ args, Command.parse line.text = .ok (.call callee args)

def Acyclic (scope : Scope) : Prop :=
  ∀ name, ¬ Relation.TransGen scope.Calls name name

theorem Calls.mono (extended : scope.methods <+: later.methods) (calls : scope.Calls caller callee) :
    later.Calls caller callee := by
  obtain ⟨method, found, line⟩ := calls
  exact ⟨method, extended.find?_eq_some found, line⟩

private theorem cycle_mono (extended : scope.methods <+: later.methods) {name : String}
    (cycle : Relation.TransGen scope.Calls name name) : Relation.TransGen later.Calls name name :=
  Relation.TransGen.mono (fun _ _ => Calls.mono extended) name name cycle

private theorem Acyclic.earlier (acyclic : later.Acyclic) (extended : scope.methods <+: later.methods) :
    scope.Acyclic :=
  fun name cycle => acyclic name (cycle_mono extended cycle)

end Scope

def SourceLine.callee? (line : SourceLine) : Option String :=
  match Command.parse line.text with
  | .ok (.call callee _) => some callee
  | _ => none

theorem Scope.acyclic_of_rank {scope : Scope} (rank : String → Nat)
    (falls : ∀ method ∈ scope.methods, ∀ line ∈ method.body, ∀ callee ∈ line.callee?, rank callee < rank method.name) :
    scope.Acyclic := by
  have below : ∀ caller callee, scope.Calls caller callee → rank callee < rank caller := by
    rintro caller callee ⟨method, found, line, inside, args, read⟩
    obtain ⟨defined, rfl⟩ := Scope.method?_mem found
    apply falls method defined line inside
    simp [SourceLine.callee?, read]
  intro name cycle
  suffices ∀ {first last}, Relation.TransGen scope.Calls first last → rank last < rank first from
    Nat.lt_irrefl _ (this cycle)
  intro first last path
  induction path with
  | single calls => exact below _ _ calls
  | tail _ calls ih => exact (below _ _ calls).trans ih

/-- Lines and the lines that wait outside of them, with the running calls: outside of all calls any lines may run and
any loop may be replayed, and inside a call its lines run until it is over. -/
inductive Underway (scope : Scope) : List SourceLine → List Waiting → List String → Prop
  | outside {lines waiting} (loops : ∀ outer ∈ waiting, outer.hidden = none) : Underway scope lines waiting []
  | inside {lines outer waiting name active method hidden} (call : outer.hidden = some hidden)
      (found : scope.method? name = some method) (body : lines ⊆ method.body)
      (called : ∀ caller ∈ active.head?, scope.Calls caller name) (beyond : Underway scope outer.rest waiting active) :
      Underway scope lines (outer :: waiting) (name :: active)

namespace Underway
variable {scope later : Scope} {lines fewer : List SourceLine} {waiting : List Waiting} {active : List String}

private theorem subset (underway : Underway scope lines waiting active) (sub : fewer ⊆ lines) :
    Underway scope fewer waiting active := by
  cases underway with
  | outside loops => exact .outside loops
  | inside call found body called beyond => exact .inside call found (List.Subset.trans sub body) called beyond

private theorem mono (underway : Underway scope lines waiting active) (extended : scope.methods <+: later.methods) :
    Underway later lines waiting active := by
  induction underway with
  | outside loops => exact .outside loops
  | inside call found body called _ ih =>
    apply Underway.inside call (extended.find?_eq_some found) body _ ih
    intro caller innermost
    exact (called caller innermost).mono extended

private theorem chain (underway : Underway scope lines waiting active) : List.IsChain scope.Calls active.reverse := by
  rw [List.isChain_reverse]
  induction underway with
  | outside => exact .nil
  | inside _ _ _ called _ ih => exact List.isChain_cons.mpr ⟨called, ih⟩

theorem leads (underway : Underway scope lines waiting active) {name innermost : String} (running : name ∈ active)
    (head : innermost ∈ active.head?) : Relation.ReflTransGen scope.Calls name innermost := by
  induction underway generalizing innermost with
  | outside => cases running
  | @inside _ _ _ top active _ _ _ _ _ called _ ih =>
    obtain rfl : top = innermost := Option.some.inj head
    rcases List.mem_cons.mp running with rfl | outer
    · exact .refl
    · obtain ⟨caller, first⟩ : ∃ caller, active.head? = some caller :=
        Option.isSome_iff_exists.mp (List.isSome_head?.mpr (List.ne_nil_of_mem outer))
      exact (ih outer first).tail (called caller first)

theorem calls (underway : Underway scope lines waiting active) {line : SourceLine} (inside : line ∈ lines)
    {callee : String} {args : List String} (read : Command.parse line.text = .ok (.call callee args)) :
    ∀ caller ∈ active.head?, scope.Calls caller callee := by
  intro caller head
  cases underway with
  | outside => cases head
  | inside _ found body =>
    obtain rfl := Option.some.inj head
    exact ⟨_, found, line, body inside, args, read⟩

theorem cycle (underway : Underway scope lines waiting active) {line : SourceLine} (inside : line ∈ lines)
    {name : String} {args : List String} (read : Command.parse line.text = .ok (.call name args))
    (running : name ∈ active) : Relation.TransGen scope.Calls name name := by
  obtain ⟨innermost, head⟩ : ∃ innermost, active.head? = some innermost :=
    Option.isSome_iff_exists.mp (List.isSome_head?.mpr (List.ne_nil_of_mem running))
  exact Relation.TransGen.tail' (underway.leads running head) (underway.calls inside read innermost head)

private theorem entered {name : String} {args : List Float} {begun : Scope.Entered} {outer : Waiting}
    (underway : Underway scope outer.rest waiting scope.active) (enters : scope.enter name args = .ok begun)
    (called : ∀ caller ∈ scope.active.head?, scope.Calls caller name) (call : outer.hidden = some begun.hidden) :
    Underway begun.scope begun.method.body (outer :: waiting) begun.scope.active := by
  obtain ⟨found, -, methods, active⟩ := Scope.enter_ok enters
  have extended : scope.methods <+: begun.scope.methods := methods ▸ List.prefix_rfl
  rw [active]
  apply Underway.inside call (extended.find?_eq_some found) (List.Subset.refl _)
  · intro caller innermost
    exact (called caller innermost).mono extended
  · exact underway.mono extended

variable {κ : Type} {s : Session κ}

private theorem unwound {outer : Waiting} (underway : Underway s.scope lines (outer :: waiting) s.scope.active) :
    Underway (s.unwound outer.hidden).scope outer.rest waiting (s.unwound outer.hidden).scope.active := by
  generalize running : s.scope.active = active at underway
  cases underway with
  | outside loops =>
    rw [loops outer List.mem_cons_self]
    change Underway s.scope _ _ s.scope.active
    rw [running]
    exact .outside fun other inside => loops other (List.mem_cons_of_mem _ inside)
  | inside call _ _ _ beyond =>
    rw [call]
    change Underway (s.scope.leave _) _ _ s.scope.active.tail
    rw [running]
    exact beyond.mono List.prefix_rfl

/-- No loop is replayed inside a call, since the lines of a method close no block. -/
private theorem nested {line : SourceLine} {rest : List SourceLine} {inner : Nested κ}
    (underway : Underway s.scope (line :: rest) waiting s.scope.active) (kept : Keeps (fun _ => True) s)
    (found : s.nested? line = some inner) :
    Underway inner.session.scope inner.lines (⟨some line, rest, inner.hidden⟩ :: waiting) inner.session.scope.active := by
  rcases Session.nested?_cases found with ⟨capture, -, -, closes, rfl⟩ |
    ⟨name, args, values, begun, -, read, -, enters, rfl⟩
  · change Underway s.scope _ _ s.scope.active
    generalize s.scope.active = active at underway ⊢
    cases underway with
    | outside loops => exact .outside (List.forall_mem_cons.mpr ⟨rfl, loops⟩)
    | inside _ defined body =>
      have held := kept.bodies _ (Scope.method?_mem defined).1 line (body List.mem_cons_self)
      exact absurd closes (held.2 .loop).2
  · have called := underway.calls List.mem_cons_self read
    have waits : Underway s.scope rest waiting s.scope.active := underway.subset (List.subset_cons_self _ _)
    exact Underway.entered waits enters called rfl

end Underway

namespace Moment
variable {κ : Type}

def reason? : Moment κ → Option Stop
  | running .. => none
  | stopping reason _ _ => some reason

private theorem reason?_ofRan (waiting : List Waiting) (ran : Ran κ) : (ofRan waiting ran).reason? = ran.reason? := by
  cases ran <;> rfl

private theorem session_ofRan (waiting : List Waiting) (ran : Ran κ) : (ofRan waiting ran).session = ran.session := by
  cases ran <;> rfl

private theorem reason?_ofStep {line : SourceLine} {rest : List SourceLine} {waiting : List Waiting} {step : Step κ}
    {reason : Stop} {name : String} (stopped : (ofStep line rest waiting step).reason? = some reason)
    (refused : reason.recursion? = some name) :
    ∃ inner, step.reason? = some inner ∧ inner.recursion? = some name := by
  cases step with
  | next => cases stopped
  | stop inner =>
    obtain rfl := Option.some.inj stopped
    rw [Stop.recursion?_attach] at refused
    exact ⟨inner, rfl, refused⟩
  | skip =>
    simp only [ofStep] at stopped
    split at stopped
    · obtain rfl := Option.some.inj stopped
      rw [Stop.recursion?_attach] at refused
      simp [Stop.ofCause, Stop.recursion?] at refused
    · cases stopped

/-- What runs and waits is told by the running calls, and a recursion that has been refused is a cycle. -/
structure Traced (moment : Moment κ) : Prop where
  guarded : moment.Guarded
  underway : Underway moment.session.scope moment.lines moment.waiting moment.session.scope.active
  circular : ∀ reason ∈ moment.reason?, ∀ name ∈ reason.recursion?,
    Relation.TransGen moment.session.scope.Calls name name

variable [Canvas κ]

theorem Traced.move {moment : Moment κ} (traced : moment.Traced) : moment.move.Traced := by
  have guarded := traced.guarded.move
  have moved := moment.move_moved
  generalize moment.move = next at moved guarded ⊢
  cases moved with
  | ended => exact traced
  | @steps line rest s waiting alone =>
    have evolves : Evolves s.toState (ofStep line rest waiting (s.step (Session.runLines 0) line)).session.toState :=
      (Session.step_evolves (Session.runLines_evolves 0) line s).trans (ofStep_evolves line rest waiting _)
    refine ⟨guarded, ?_, ?_⟩
    · rw [evolves.active, waiting_ofStep]
      have sub := List.subset_cons_of_subset line (lines_ofStep line rest waiting (s.step (Session.runLines 0) line))
      exact (traced.underway.subset sub).mono evolves.methods
    · intro reason stopped name refused
      obtain ⟨inner, failed, recursion⟩ := reason?_ofStep stopped refused
      obtain ⟨running, args, read⟩ := (Session.step_alone alone failed).2 name recursion
      exact Scope.cycle_mono evolves.methods (traced.underway.cycle List.mem_cons_self read running)
  | enters found => exact ⟨guarded, traced.underway.nested traced.guarded.kept found, by simp [reason?]⟩
  | leaves => exact ⟨guarded, traced.underway.unwound, by simp [reason?]⟩
  | @unwinds reason s outer waiting =>
    refine ⟨guarded, traced.underway.unwound.subset (List.nil_subset _), ?_⟩
    rintro _ ⟨⟩ name refused
    have attached : (outer.attach reason).recursion? = reason.recursion? := by
      unfold Waiting.attach
      split
      · rfl
      · exact Stop.recursion?_attach _ _
    rw [attached] at refused
    have same : s.scope.methods <+: (s.unwound outer.hidden).scope.methods := by
      rw [(unwound_leaves outer.hidden s).2]
    exact Scope.cycle_mono same (traced.circular reason rfl name refused)

private theorem begin_traced {s : Session κ} (reachable : Reachable s) (request : Request) :
    (begin request s).Traced := by
  have guarded := begin_guarded reachable request
  have idle := reachable.active
  have apart : ∀ lines, Underway s.scope lines [] s.scope.active := by
    intro lines
    rw [idle]
    exact .outside (by simp)
  cases request with
  | program text => exact ⟨guarded, apart _, by simp [begin, reason?]⟩
  | call name args =>
    cases begun : s.scope.enter name args with
    | error cause =>
      simp only [begin, begun] at guarded ⊢
      refine ⟨guarded, apart _, ?_⟩
      rintro _ ⟨⟩ other refused
      obtain ⟨path, rfl⟩ := Stop.recursion?_ofCause refused
      rcases Scope.enter_cause begun with ⟨-, impossible⟩ | ⟨method, -, -, impossible⟩ | ⟨running, -⟩
      · cases impossible
      · cases impossible
      · simp [idle] at running
    | ok entered =>
      simp only [begin, begun] at guarded ⊢
      refine ⟨guarded, Underway.entered (apart _) begun ?_ rfl, by simp [reason?]⟩
      simp [idle]

end Moment

private theorem Session.methods_conclude {κ : Type} [Canvas κ] (complaint : String) (ran : Ran κ) :
    ran.session.scope.methods <+: (conclude complaint ran).session.scope.methods :=
  (conclude_evolves complaint ran).methods

namespace Reachable
variable {κ : Type} [Canvas κ] {s : Session κ}

private theorem traced (reachable : Reachable s) (request : Request) (count : Nat) :
    (Moment.move^[count] (.begin request s)).Traced :=
  Function.Iterate.rec Moment.Traced (Moment.begin_traced reachable request) (fun _ => Moment.Traced.move) count

private theorem nests (reachable : Reachable s) (request : Request) (count : Nat) :
    (Moment.move^[count] (.begin request s)).session.Nests (Moment.move^[count] (.begin request s)).waiting :=
  Function.Iterate.rec (fun moment : Moment κ => moment.session.Nests moment.waiting)
    (Moment.begin_nests reachable.active request) (fun _ => Moment.move_nests) count

theorem handle_cycle (reachable : Reachable s) {request : Request} {reason : Stop} {name : String}
    (stopped : (s.handle request).reason? = some reason) (refused : reason.recursion? = some name) :
    Relation.TransGen (s.handle request).session.scope.Calls name name := by
  rw [s.handle_eq_conclude] at stopped ⊢
  rw [Session.reason?_conclude] at stopped
  obtain ⟨count, ended⟩ := Moment.begin_reaches (reachable.attempt_fits request)
  have traced := reachable.traced request count
  rw [ended] at traced
  have cycle := traced.circular reason (by rw [Moment.reason?_ofRan]; exact stopped) name refused
  rw [Moment.session_ofRan] at cycle
  exact Scope.cycle_mono (Session.methods_conclude _ _) cycle

/-- A graph without cycles at the end had none before, as methods are only added. -/
theorem answers_acyclic (reachable : Reachable s) {requests : List Request} (acyclic : (s.after requests).scope.Acyclic)
    {answer : Ran κ} (answered : answer ∈ s.answers requests) {reason : Stop} (stopped : answer.reason? = some reason) :
    reason.recursion? = none := by
  induction requests generalizing s with
  | nil => cases answered
  | cons request requests ih =>
    rcases List.mem_cons.mp answered with rfl | later
    · by_contra refused
      obtain ⟨name, refused⟩ := Option.ne_none_iff_exists'.mp refused
      have extended := (Session.after_evolves requests (s.handle request).session).methods
      exact acyclic.earlier extended name (reachable.handle_cycle stopped refused)
    · exact ih (reachable.handle request) acyclic later

end Reachable

/-- In a session that a host can have, the running calls are at every moment calls of different methods, all of them
defined, and a line of each calls the next. An answer that refuses a recursion names a method that lies on a cycle of
calls, and while there is no such cycle no answer does. -/
theorem recursion_only_on_cycles {κ : Type} [Canvas κ] {s : Session κ} (reachable : Reachable s) :
    (∀ request count, ∀ scope, (Moment.move^[count] (.begin request s)).session.scope = scope →
      scope.active.Nodup ∧ (∀ name ∈ scope.active, ∃ method ∈ scope.methods, method.name = name) ∧
      List.IsChain scope.Calls scope.active.reverse) ∧
    (∀ request error, (s.handle request).reason? = some (.script error) → error.cause.kind = .recursion →
      ∃ name path, error.cause = .recursion name path ∧
        Relation.TransGen (s.handle request).session.scope.Calls name name) ∧
    ∀ requests, (s.after requests).scope.Acyclic → ∀ answer ∈ s.answers requests, ∀ error,
      answer.reason? = some (.script error) → error.cause.kind ≠ .recursion := by
  refine ⟨?_, ?_, ?_⟩
  · rintro request count _ rfl
    have nests := reachable.nests request count
    exact ⟨nests.distinct, nests.known, (reachable.traced request count).underway.chain⟩
  · intro request error stopped kind
    obtain ⟨cause, text, number⟩ := error
    obtain ⟨name, path, rfl⟩ := Cause.kind_eq_recursion.mp kind
    exact ⟨name, path, rfl, reachable.handle_cycle stopped rfl⟩
  · intro requests acyclic answer answered error stopped kind
    obtain ⟨cause, text, number⟩ := error
    obtain ⟨name, path, rfl⟩ := Cause.kind_eq_recursion.mp kind
    have none := reachable.answers_acyclic acyclic answered stopped
    cases none

/-- Two methods that call each other, and then a session in which one method calls the other twice. -/
theorem recursion_only_on_cycles_of_mutual_calls :
    let s := Session.start ({} : Recording) false
    let mutualCalls := Request.program "method a\nb()\nendmethod\nmethod b\na()\nendmethod\na()"
    let inside := (Moment.move^[8] (.begin mutualCalls s)).session.scope
    let requests := [.program "method a\ncircle 1\nendmethod", .program "method b\na()\na()\nendmethod",
      Request.call "b" []]
    Reachable s ∧
    (inside.active = ["b", "a"] ∧ List.IsChain inside.Calls ["a", "b"]) ∧
    (s.handle mutualCalls).reason? = some (.script ⟨.recursion "a" ["a", "b", "a"], some "a()", some 5⟩) ∧
    Relation.TransGen (s.handle mutualCalls).session.scope.Calls "a" "a" ∧
    (s.after requests).scope.Acyclic ∧
    ∀ answer ∈ s.answers requests, ∀ error, answer.reason? = some (.script error) → error.cause.kind ≠ .recursion := by
  intro s mutualCalls inside requests
  have reachable : Reachable s := .start _ _
  obtain ⟨running, cycles, never⟩ := recursion_only_on_cycles reachable
  have active : inside.active = ["b", "a"] := by decide +kernel
  have chain := (running mutualCalls 8 inside rfl).2.2
  rw [active] at chain
  have refused : (s.handle mutualCalls).reason? =
      some (.script ⟨.recursion "a" ["a", "b", "a"], some "a()", some 5⟩) := by decide +kernel
  obtain ⟨name, path, same, cycle⟩ := cycles mutualCalls _ refused rfl
  cases same
  have acyclic : (s.after requests).scope.Acyclic :=
    Scope.acyclic_of_rank (fun name => if name = "b" then 1 else 0) (by decide +kernel)
  exact ⟨reachable, ⟨active, chain⟩, refused, cycle, acyclic, never requests acyclic⟩

end Sketch
