import Sketch.Proofs.Parameters

/-! Nothing that was defined is lost or changes its place. A call puts its parameters among the variables and takes
them out again, but those that it takes out were not there before it, and all others have kept their places. -/
namespace Sketch

namespace Variables
variable {vars : Variables} {name : String} {earlier : List String}

theorem names_put (vars : Variables) (name : String) (value : Float) :
    (vars.put name value).names = if name ∈ vars.names then vars.names else vars.names ++ [name] := by
  unfold put
  by_cases present : vars.contains name
  · rw [if_pos present, if_pos (contains_iff_mem_names.mp present)]
    simp only [names, List.map_map]
    apply List.map_congr_left
    intro entry _
    by_cases same : entry.1 = name <;> simp [same]
  · rw [if_neg present, if_neg (mt contains_iff_mem_names.mpr present)]
    simp only [names, List.map_append, List.map_cons, List.map_nil]

theorem names_erase (vars : Variables) (name : String) :
    (vars.erase name).names = vars.names.filter (· != name) := by
  simp only [erase, names, List.filter_map]
  rfl

private theorem prefix_put (vars : Variables) (name : String) (value : Float) :
    vars.names <+: (vars.put name value).names := by
  rw [names_put]
  split
  · exact List.prefix_rfl
  · exact List.prefix_append _ _

private theorem prefix_bind (vars bindings : Variables) : vars.names <+: (vars.bind bindings).names := by
  unfold bind
  induction bindings.entries generalizing vars with
  | nil => exact List.prefix_rfl
  | cons entry entries ih =>
    apply (vars.prefix_put entry.1 entry.2).trans
    exact ih (vars.put entry.1 entry.2)

private theorem prefix_erase (start : earlier <+: vars.names) (absent : name ∉ earlier) :
    earlier <+: (vars.erase name).names := by
  obtain ⟨later, split⟩ := start
  have kept : earlier.filter (· != name) = earlier := by
    apply List.filter_eq_self.mpr
    intro other inside
    simpa using fun same : other = name => absent (same ▸ inside)
  rw [names_erase, ← split, List.filter_append, kept]
  exact List.prefix_append _ _

theorem prefix_restore {hidden : Hidden} (start : earlier <+: vars.names)
    (absent : ∀ name, (name, none) ∈ hidden → name ∉ earlier) : earlier <+: (vars.restore hidden).names := by
  induction hidden generalizing vars with
  | nil => exact start
  | cons entry hidden ih =>
    obtain ⟨name, old⟩ := entry
    have later : ∀ other, (other, none) ∈ hidden → other ∉ earlier :=
      fun other inside => absent other (List.mem_cons_of_mem _ inside)
    cases old with
    | none =>
      rw [restore_free]
      apply ih _ later
      exact prefix_erase start (absent name List.mem_cons_self)
    | some value =>
      rw [restore_hidden]
      apply ih _ later
      exact start.trans (vars.prefix_put name value)

private theorem not_mem_of_hide {bindings : Variables} (free : (name, none) ∈ vars.hide bindings) :
    name ∉ vars.names := by
  obtain ⟨bound, -, same⟩ := List.mem_map.mp free
  obtain ⟨rfl, missing⟩ := Prod.mk.inj same
  rw [← contains_iff_mem_names, contains, missing]
  simp

end Variables

/-- A command changes the variables by giving one of them a value, if at all. -/
theorem effect?_vars {command : Command} {vars : Variables} {pen : PenState} {effect : Effect}
    (found : command.effect? vars pen = some (.ok effect)) :
    effect.vars = vars ∨ ∃ name value, effect.vars = vars.put name value := by
  cases effect?_arises found with
  | @declare name _ value _ defined =>
    unfold Variables.define at defined
    split at defined
    · cases defined
    · exact .inr ⟨name, value, (Except.ok.inj defined).symm⟩
  | @assign name _ value _ assigned =>
    unfold Variables.assign at assigned
    split at assigned
    · exact .inr ⟨name, value, (Except.ok.inj assigned).symm⟩
    · cases assigned
  | _ => exact .inl rfl

theorem Scope.prefix_leave {scope inner : Scope} {name : String} {args : List Float} {entered : Entered}
    (begun : scope.enter name args = .ok entered) (body : entered.scope.vars.names <+: inner.vars.names) :
    scope.vars.names <+: (inner.leave entered.hidden).vars.names := by
  obtain ⟨hidden, bound⟩ := enter_ok_bindings begun
  apply Variables.prefix_restore
  · rw [bound] at body
    exact (scope.vars.prefix_bind _).trans body
  · intro param free
    rw [hidden] at free
    exact Variables.not_mem_of_hide free

theorem Evolves.names {κ : Type} [Canvas κ] {s t : State κ} (evolves : Evolves s t) :
    s.scope.vars.names <+: t.scope.vars.names := by
  induction evolves with
  | refl | counts | opens | collects | shows | releases => exact List.prefix_rfl
  | trans _ _ first second => exact first.trans second
  | effect _ found =>
    rcases effect?_vars found with same | ⟨name, value, put⟩
    · rw [same]
    · rw [put]
      exact Variables.prefix_put _ name value
  | defines _ defined =>
    obtain rfl := Scope.define_ok defined
    exact List.prefix_rfl
  | calls begun _ body => exact Scope.prefix_leave begun body

/-- Whatever a host asks of a session, and however that ends, the variables and the methods that were there are there
in the same order, the methods with all their lines, and what is new stands behind them. -/
theorem handle_extends {κ : Type} [Canvas κ] (request : Request) (s : Session κ) :
    s.scope.vars.names <+: (s.handle request).session.scope.vars.names ∧
      s.scope.methods <+: (s.handle request).session.scope.methods :=
  ⟨(s.handle_evolves request).names, (s.handle_evolves request).methods⟩

end Sketch
